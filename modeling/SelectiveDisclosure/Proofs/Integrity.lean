import SelectiveDisclosure.Proofs.Confidentiality
import SelectiveDisclosure.Proofs.Terms

namespace SelectiveDisclosure

structure Document.WellFormed (d : Document) (p : Protocol) (statements : List Statement) : Prop where
  decomposed : d.content.decompose p.decomposition = .ok statements
  integrity : ∀ source, d.checkIntegrity p source = .ok ()
  sorted : d.header.terms.contentHashes.Pairwise fun a b => (compare a b).isLE = true
  length : d.header.terms.contentHashes.length = statements.length
  digests : (statements.map fun s => p.hasher s.encoded none).Nodup
  keys : d.nonces.keys.Perm (statements.map fun s => p.hasher s.encoded none)
  salted : (d.nonces.entries.map fun e => saltedHash p.hasher e.1 e.2).Perm
    d.header.terms.contentHashes
  createdAt : d.header.terms.createdAt.IsWhole
  validUntil : ∀ limit ∈ d.header.terms.validUntil,
    limit.IsWhole ∧ d.header.terms.createdAt.before limit = true
  authorization : d.header.terms.authorization ≠ some ""
  registry : d.header.terms.registry ≠ some ""

section

variable {a : Application} {p : Protocol} {signer : Signer} {now : Instant} {source : NonceSource}
  {statements : List Statement} {hashed : List HashedStatement} {d : Document}
  (h : IssuedFrom a p signer now source statements hashed d)

include h

theorem IssuedFrom.map_digest :
    hashed.map HashedStatement.digest = statements.map fun s => p.hasher s.encoded none := by
  rw [h.hashed_eq, map_digest_hashStatements, List.map_map]
  rfl

theorem IssuedFrom.entries_perm :
    d.nonces.entries.Perm (hashed.map fun x => (x.digest, x.nonce)) := by
  rw [h.nonces]
  refine SortedMap.ofList_perm ?_
  rw [List.map_map]
  exact h.digests

theorem IssuedFrom.keys_perm :
    d.nonces.keys.Perm (statements.map fun s => p.hasher s.encoded none) := by
  have hkeys := h.entries_perm.map Prod.fst
  rw [List.map_map] at hkeys
  exact h.map_digest ▸ hkeys

theorem IssuedFrom.salted_perm : (d.nonces.entries.map fun e => saltedHash p.hasher e.1 e.2).Perm
    d.header.terms.contentHashes := by
  have hsalted : ∀ x ∈ hashed, saltedHash p.hasher x.digest x.nonce = x.saltedHash := by
    intro x hx
    rw [h.hashStatement_eq hx]
    rfl
  have hentries := h.entries_perm.map fun e => saltedHash p.hasher e.1 e.2
  rw [List.map_map] at hentries
  rw [h.contentHashes]
  refine hentries.trans (List.Perm.trans ?_ (sortHashes_perm _).symm)
  exact List.Perm.of_eq (List.map_congr_left hsalted)

theorem IssuedFrom.length_contentHashes :
    d.header.terms.contentHashes.length = statements.length := by
  rw [h.contentHashes, (sortHashes_perm _).length_eq, List.length_map, length_of_texts h.texts]

theorem IssuedFrom.wellFormed : d.WellFormed p statements where
  decomposed := h.content ▸ h.decomposed
  integrity := h.issued.checkIntegrity
  sorted := h.contentHashes ▸ pairwise_sortHashes _
  length := h.length_contentHashes
  digests := h.map_digest ▸ h.digests
  keys := h.keys_perm
  salted := h.salted_perm
  createdAt := h.createdAt ▸ Instant.isWhole_truncate _
  validUntil limit hlimit := by
    refine ⟨?_, h.window limit hlimit⟩
    rw [h.validUntil] at hlimit
    obtain ⟨given, -, rfl⟩ := Option.map_eq_some_iff.mp hlimit
    exact Instant.isWhole_truncate given
  authorization := h.authorization ▸ h.authorization_ne
  registry := h.registry ▸ h.registry_ne

end

theorem issued_wellFormed {a : Application} {p : Protocol} {signer : Signer} {now : Instant}
    {source : NonceSource} {d : Document} (h : a.issue p signer now source = .ok d) :
    (∃ statements, d.WellFormed p statements) ∧ d.header.terms.issuer = signer.keyUri.did := by
  obtain ⟨statements, hashed, hfrom⟩ := issuedFrom_of_issue h
  exact ⟨⟨statements, hfrom.wellFormed⟩, hfrom.issuer⟩

theorem sample_wellFormed : ∃ d,
    sampleApplication.issue .standard sampleIssuer default sampleSource = .ok d ∧
    (∃ statements, d.WellFormed .standard statements) ∧
    d.header.terms.issuer = sampleIssuer.keyUri.did := by
  obtain ⟨d, -, hissue, -⟩ := sample_run
  exact ⟨d, hissue, issued_wellFormed hissue⟩

theorem checked_presentation_proves {d : Document} {p : Protocol} {source : NonceSource}
    (hcheck : d.checkIntegrity p source = .ok ()) (hdistinct : d.header.terms.contentHashes.Nodup)
    {names : List String} {signer : Signer} {challenge : String} {later : NonceSource}
    {shown : Presentation} (hpresent : d.present p names signer challenge later = .ok shown)
    {q : Protocol} (halgorithm : q.hashAlgorithm = p.hashAlgorithm) :
    shown.proveStatements q.hasher = .ok () ∧ shown.proveDigests q.hasher = .ok () := by
  have hhasher : q.hasher = p.hasher := congrArg HashAlgorithm.hasher halgorithm
  obtain ⟨cs, hcs, hshown⟩ := presented_of_present hpresent
  rw [hhasher]
  exact ⟨presented_proveStatements hshown,
    proveDigests_of_checkIntegrity hshown hcs hcheck hdistinct⟩

def noteApplication (content : Content) : Application where
  content := content
  holder := some echoSigner.keyUri.did
  evidenceIds := []
  authorization := none
  registry := some "notes"
  createdAt := some ⟨1000, 5, by decide⟩
  validUntil := sampleApplication.validUntil
  metadata := default

def accentedNote : Application :=
  noteApplication (.object [("re\u0301sume\u0301", .array [.string "e\u0301", .bool true])])

def Terms.createdWithin (t : Terms) (created : Instant) : Terms :=
  ⟨t.contentHashes, t.issuer, t.holder, t.evidenceIds, t.authorization, t.registry, created,
    t.validUntil⟩

def Document.recomposed (d : Document) : Document where
  header := ⟨d.header.identifier, d.header.terms.createdWithin ⟨1000, 7, by decide⟩,
    d.header.documentHash, d.header.issuerSignature, ⟨[], ["copy"]⟩⟩
  content := .object [("r\u00e9sum\u00e9", .array [.string "\u00e9", .bool true])]
  nonces := d.nonces

theorem recomposed_agrees {d : Document} (h : d.header.terms.createdAt = .whole 1000) :
    d.recomposed.header.terms.Agrees d.header.terms where
  contentHashes := .refl _
  issuer := rfl
  holder := rfl
  evidenceIds := rfl
  authorization := rfl
  registry := rfl
  createdAt := h ▸ rfl
  validUntil := rfl

theorem recomposed_run : ∃ d shown,
    accentedNote.issue .standard echoSigner default sampleSource = .ok d ∧
    d.recomposed.checkIntegrity .standard sampleSource = .ok () ∧
    d.recomposed.header.terms.contentHashes.Nodup ∧
    d.recomposed.present .standard ["re\u0301sume\u0301"] echoSigner "challenge" sampleSource =
      .ok shown := by
  have hrun : yields (accentedNote.issue .standard echoSigner default sampleSource) (fun d =>
      yields (d.recomposed.committedStatements .standard sampleSource) fun cs =>
        decide (d.header.terms.contentHashes.Nodup ∧
          d.header.terms.contentHashes = sortHashes (cs.map fun c => c.2.saltedHash)) &&
          yields (d.recomposed.present .standard ["re\u0301sume\u0301"] echoSigner "challenge"
            sampleSource) fun _ => true) = true := by
    decide +kernel
  obtain ⟨d, hissue, hrun⟩ := yields_iff.mp hrun
  obtain ⟨cs, hcs, hrun⟩ := yields_iff.mp hrun
  obtain ⟨hhashes, hrun⟩ := Bool.and_eq_true_iff.mp hrun
  obtain ⟨shown, hpresent, -⟩ := yields_iff.mp hrun
  obtain ⟨hdistinct, hsalted⟩ := of_decide_eq_true hhashes
  obtain ⟨_, _, hfrom⟩ := issuedFrom_of_issue hissue
  have hdocument := (Terms.documentHash_eq_of_agrees (recomposed_agrees hfrom.createdAt) _).trans
    hfrom.documentHash
  have hcheck := Document.checkIntegrity_ok_iff.mpr ⟨cs, hcs, hsalted, hdocument, hfrom.identifier⟩
  exact ⟨d, shown, hissue, hcheck, hdistinct, hpresent⟩

theorem recomposed_presentation_proves : ∃ (d : Document) (shown : Presentation),
    d.checkIntegrity .standard sampleSource = .ok () ∧ d.header.terms.contentHashes.Nodup ∧
    d.present .standard ["re\u0301sume\u0301"] echoSigner "challenge" sampleSource = .ok shown ∧
    shown.proveStatements HashAlgorithm.sha256.hasher = .ok () ∧
    shown.proveDigests HashAlgorithm.sha256.hasher = .ok () := by
  obtain ⟨d, shown, -, hcheck, hdistinct, hpresent⟩ := recomposed_run
  exact ⟨d.recomposed, shown, hcheck, hdistinct, hpresent,
    checked_presentation_proves hcheck hdistinct hpresent (q := .standard) rfl⟩

end SelectiveDisclosure
