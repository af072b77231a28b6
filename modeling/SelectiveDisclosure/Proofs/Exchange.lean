import SelectiveDisclosure.Proofs.Content.Depth
import SelectiveDisclosure.Proofs.Presentation
import SelectiveDisclosure.Proofs.Terms
import SelectiveDisclosure.Proofs.Wire.Document

namespace SelectiveDisclosure

open Wire

def Application.OnClock (a : Application) (now : Instant) : Prop :=
  (a.createdAt.getD now).OnClock ∧ ∀ limit ∈ a.validUntil, limit.OnClock

-- Content in key order, and times in the years that a time can have.
structure Application.Writable (a : Application) (now : Instant) : Prop where
  content : a.content.Ordered
  created : Rfc3339.InRange (a.createdAt.getD now)
  limit : ∀ t ∈ a.validUntil, Rfc3339.InRange t

structure Document.Writable (d : Document) : Prop where
  content : d.content.Ordered
  created : Rfc3339.InRange d.header.terms.createdAt
  limit : ∀ t ∈ d.header.terms.validUntil, Rfc3339.InRange t

theorem Rfc3339.inRange_truncate {t : Instant} (h : InRange t) : InRange t.truncate := by
  rw [InRange, Instant.truncate_second]
  exact h

theorem Document.writable_of_issue {a : Application} {p : Protocol} {signer : Signer} {now : Instant}
    {source : NonceSource} {d : Document} (ha : a.Writable now)
    (h : a.issue p signer now source = .ok d) : d.Writable := by
  obtain ⟨statements, hashed, hfrom⟩ := issuedFrom_of_issue h
  refine ⟨?_, ?_, ?_⟩
  · rw [hfrom.content]
    exact ha.content
  · rw [hfrom.createdAt]
    exact Rfc3339.inRange_truncate ha.created
  · rw [hfrom.validUntil]
    intro t ht
    obtain ⟨limit, hlimit, rfl⟩ := Option.map_eq_some_iff.mp ht
    exact Rfc3339.inRange_truncate (ha.limit limit hlimit)

theorem onClock_terms_iff {a : Application} {p : Protocol} {signer : Signer} {now : Instant}
    {source : NonceSource} {d : Document} (h : a.issue p signer now source = .ok d) :
    d.header.terms.OnClock ↔ a.OnClock now := by
  obtain ⟨statements, hashed, hfrom⟩ := issuedFrom_of_issue h
  rw [Terms.OnClock, Application.OnClock, hfrom.createdAt, hfrom.validUntil,
    Instant.onClock_truncate_iff]
  cases a.validUntil with
  | none => rfl
  | some limit => simp

theorem Document.Writable.portable_header {d : Document} (h : d.Writable)
    (hclock : d.header.terms.OnClock) (huri : d.header.issuerSignature.keyUri.Portable) :
    d.header.Portable :=
  ⟨huri, ⟨h.created, hclock.1⟩, fun t ht => ⟨h.limit t ht, hclock.2 t ht⟩⟩

theorem Header.Portable.onClock {h : Header} (hportable : h.Portable) : h.terms.OnClock :=
  ⟨hportable.created.2, fun t ht => (hportable.limit t ht).2⟩

theorem issued_read_back_iff {a : Application} {p : Protocol} {signer : Signer} {now : Instant}
    {source : NonceSource} {d : Document} (ha : a.Writable now)
    (h : a.issue p signer now source = .ok d) :
    decodeValue document (ofDocument d) = .ok d ↔ signer.keyUri.Portable ∧ a.OnClock now := by
  obtain ⟨statements, hashed, hfrom⟩ := issuedFrom_of_issue h
  rw [← hfrom.keyUri, ← onClock_terms_iff h]
  constructor
  · intro hread
    have hheader := (yields_document hread).header
    exact ⟨hheader.signature, hheader.onClock⟩
  · rintro ⟨huri, hclock⟩
    have hwritable := Document.writable_of_issue ha h
    have hshallow : d.content.Shallow 0 := by
      rw [hfrom.content]
      exact Content.shallow_of_decompose hfrom.decomposed
    exact (reads_document ⟨hwritable.portable_header hclock huri, hwritable.content,
      hshallow⟩).decodeValue

theorem portable_disclosed {d : Document} {p : Protocol} {names : List String} {signer : Signer}
    {challenge : String} {source : NonceSource} {shown : Presentation} (hd : d.Writable)
    (h : d.present p names signer challenge source = .ok shown) :
    ∀ s ∈ shown.disclosed, s.value.Portable := by
  obtain ⟨cs, hcs, hshown⟩ := presented_of_present h
  have hdecomposed := decompose_of_committedStatements hcs
  intro s hs
  obtain ⟨c, hc, -, rfl⟩ := (mem_disclosed hshown).mp hs
  obtain ⟨path, hat⟩ := Content.at_of_decompose hdecomposed (List.mem_map_of_mem hc)
  exact ⟨Content.ordered_of_at hat hd.content,
    Content.shallow_of_at hat (Content.shallow_of_decompose hdecomposed)⟩

theorem presented_read_back_iff {d : Document} {p : Protocol} {names : List String} {signer : Signer}
    {challenge : String} {source : NonceSource} {shown : Presentation} (hd : d.Writable)
    (h : d.present p names signer challenge source = .ok shown) :
    decodeValue presentation (ofPresentation shown) = .ok shown ↔
      (d.header.issuerSignature.keyUri.Portable ∧ signer.keyUri.Portable) ∧
        d.header.terms.OnClock := by
  obtain ⟨cs, -, hshown⟩ := presented_of_present h
  rw [← hshown.keyUri, ← hshown.header]
  constructor
  · intro hread
    have hportable := yields_presentation hread
    exact ⟨⟨hportable.header.signature, hportable.signature⟩, hportable.header.onClock⟩
  · rintro ⟨⟨hissuer, hholder⟩, hclock⟩
    rw [hshown.header] at hissuer hclock
    have hheader : shown.header.Portable := by
      rw [hshown.header]
      exact hd.portable_header hclock hissuer
    exact (reads_presentation ⟨hheader, portable_disclosed hd h, hholder⟩).decodeValue

theorem exchanged_iff (p : Protocol) (signer : Signer) (source : NonceSource) :
    (∀ (a : Application) (now : Instant) (d : Document), a.Writable now →
      a.issue p signer now source = .ok d →
        (decodeValue document (ofDocument d) = .ok d ↔
          signer.keyUri.fragment ≠ "" ∧ a.OnClock now)) ∧
    (∀ (d : Document) (names : List String) (challenge : String) (shown : Presentation), d.Writable →
      d.present p names signer challenge source = .ok shown →
        (decodeValue presentation (ofPresentation shown) = .ok shown ↔
          (d.header.issuerSignature.keyUri.fragment ≠ "" ∧ signer.keyUri.fragment ≠ "") ∧
            d.header.terms.OnClock)) := by
  constructor
  · intro a now d ha h
    exact issued_read_back_iff ha h
  · intro d names challenge shown hd h
    exact presented_read_back_iff hd h

theorem sampleApplication_writable : sampleApplication.Writable default where
  content := .object (List.pairwise_singleton ..) (List.forall_mem_singleton.mpr
    (.array (List.forall_mem_cons.mpr ⟨.string _, List.forall_mem_singleton.mpr (.bool _)⟩)))
  created := ⟨by decide, by decide⟩
  limit t ht := Option.some.inj ht ▸ ⟨by decide, by decide⟩

theorem sampleApplication_onClock : sampleApplication.OnClock default :=
  ⟨Instant.onClock_whole _, fun _ ht => Option.some.inj ht ▸ Instant.onClock_whole _⟩

theorem sample_exchanged : ∃ d shown,
    sampleApplication.issue .standard sampleIssuer default sampleSource = .ok d ∧
    d.present .standard ["r\u00e9sum\u00e9"] sampleHolder "challenge" sampleSource = .ok shown ∧
    decodeValue document (ofDocument d) = .ok d ∧
    decodeValue presentation (ofPresentation shown) = .ok shown := by
  obtain ⟨d, shown, hissue, hpresent, -⟩ := sample_run
  have hwritable := Document.writable_of_issue sampleApplication_writable hissue
  obtain ⟨statements, hashed, hfrom⟩ := issuedFrom_of_issue hissue
  refine ⟨d, shown, hissue, hpresent, ?_, ?_⟩
  · have hexchanged := (exchanged_iff .standard sampleIssuer sampleSource).1
    exact (hexchanged _ _ _ sampleApplication_writable hissue).mpr
      ⟨by decide, sampleApplication_onClock⟩
  · have hexchanged := (exchanged_iff .standard sampleHolder sampleSource).2
    refine (hexchanged _ _ _ _ hwritable hpresent).mpr
      ⟨⟨?_, by decide⟩, (onClock_terms_iff hissue).mpr sampleApplication_onClock⟩
    rw [hfrom.keyUri]
    decide

def Document.signed (d : Document) (s : DidSignature) : Document :=
  ⟨⟨d.header.identifier, d.header.terms, d.header.documentHash, s, d.header.metadata⟩, d.content,
    d.nonces⟩

theorem issue_signed {a : Application} {p : Protocol} {s t : Signer} {now : Instant}
    {source : NonceSource} {d : Document} (h : a.issue p s now source = .ok d)
    (hdid : t.keyUri.did = s.keyUri.did) {bytes : List UInt8}
    (hsigned : t.signWithin p.signingTimeout.toNat d.header.documentHash.toList = .ok bytes) :
    a.issue p t now source = .ok (d.signed ⟨t.keyUri, bytes⟩) := by
  rw [Application.issue] at h ⊢
  rw [hdid]
  split at h
  · obtain ⟨⟨⟩, hwindow, h⟩ := bind_ok_iff.mp h
    obtain ⟨⟨⟩, hauthorization, h⟩ := bind_ok_iff.mp h
    obtain ⟨⟨⟩, hregistry, h⟩ := bind_ok_iff.mp h
    obtain ⟨statements, hstatements, h⟩ := bind_ok_iff.mp h
    dsimp only at h
    split at h
    · cases h
    · rename_i hrepeated
      obtain ⟨hash, hhash, h⟩ := bind_ok_iff.mp h
      obtain ⟨_, -, h⟩ := bind_ok_iff.mp h
      rw [← return_ok_iff.mp h] at hsigned ⊢
      refine bind_ok_iff.mpr ⟨(), hwindow, bind_ok_iff.mpr ⟨(), hauthorization,
        bind_ok_iff.mpr ⟨(), hregistry, bind_ok_iff.mpr ⟨statements, hstatements, ?_⟩⟩⟩⟩
      dsimp only
      rw [Option.eq_none_iff_forall_ne_some.mpr hrepeated]
      exact bind_ok_iff.mpr ⟨hash, hhash,
        bind_ok_iff.mpr ⟨bytes, mapError_ok_iff.mpr hsigned, rfl⟩⟩
  · cases h

def namelessSigner : Signer := .ofKey default ⟨⟨generatorKey⟩, ""⟩

theorem nameless_not_exchanged : ∃ d,
    sampleApplication.issue .standard namelessSigner default sampleSource = .ok d ∧
      decodeValue document (ofDocument d) ≠ .ok d := by
  obtain ⟨d, -, hissue, -⟩ := sample_run
  have hsigned := issue_signed (t := namelessSigner) hissue rfl rfl
  refine ⟨_, hsigned, fun hread => ?_⟩
  exact ((issued_read_back_iff sampleApplication_writable hsigned).mp hread).1 rfl

end SelectiveDisclosure
