import SelectiveDisclosure.Proofs.Presentation
import SelectiveDisclosure.Proofs.Terms

namespace SelectiveDisclosure

def HashedStatement.texts (h : HashedStatement) : List String :=
  [h.statement, h.nonce ++ h.digest.hex]

def Terms.texts (t : Terms) : List String := t.payload.encode.toOption.toList

theorem Terms.mem_texts {t : Terms} {x : String} : x ∈ t.texts ↔ t.payload.encode = .ok x := by
  rw [texts]
  cases t.payload.encode with
  | error e => simp [Except.toOption]
  | ok y => simp [Except.toOption, eq_comm]

def issuedTexts (cs : List (Statement × HashedStatement)) (t : Terms) : List String :=
  cs.flatMap (fun c => c.2.texts) ++ t.texts

def DisclosedStatement.texts (nonces : NonceMap) (s : DisclosedStatement) : List String :=
  (encodeStatement s.name s.value).toOption.toList ++
    ((nonces.get? s.digest).map fun salt => salt ++ s.digest.hex).toList

def Presentation.texts (p : Presentation) : List String :=
  p.disclosed.flatMap (DisclosedStatement.texts p.nonces) ++ p.header.terms.texts

theorem subset_issuedTexts {cs : List (Statement × HashedStatement)} (t : Terms)
    {c : Statement × HashedStatement} (hc : c ∈ cs) : c.2.texts ⊆ issuedTexts cs t := by
  intro x hx
  exact List.mem_append_left _ (List.mem_flatMap.mpr ⟨c, hc, hx⟩)

theorem Presentation.subset_texts {p : Presentation} {s : DisclosedStatement}
    (hs : s ∈ p.disclosed) : s.texts p.nonces ⊆ p.texts := by
  intro x hx
  exact List.mem_append_left _ (List.mem_flatMap.mpr ⟨s, hs, hx⟩)

theorem Presentation.terms_subset_texts (p : Presentation) : p.header.terms.texts ⊆ p.texts :=
  List.subset_append_right _ _

theorem Presentation.Opens.text_mem {hasher : Hasher} {nonces : NonceMap} {s : DisclosedStatement}
    {text salt : String} (h : Opens hasher nonces s text salt) : text ∈ s.texts nonces := by
  rw [DisclosedStatement.texts, h.encoded]
  exact List.mem_append_left _ (List.mem_cons_self ..)

theorem Presentation.Opens.salted_mem {hasher : Hasher} {nonces : NonceMap} {s : DisclosedStatement}
    {text salt : String} (h : Opens hasher nonces s text salt) :
    salt ++ s.digest.hex ∈ s.texts nonces := by
  rw [DisclosedStatement.texts, h.nonce]
  exact List.mem_append_right _ (List.mem_cons_self ..)

theorem Commits.texts_mem {hasher : Hasher} {c : Statement × HashedStatement}
    (h : Commits hasher c) {texts : List String} (hc : c.2.texts ⊆ texts) :
    c.1.encoded ∈ texts ∧ c.2.nonce ++ (hasher c.1.encoded none).hex ∈ texts := by
  rw [h.digest_eq, ← h.statement]
  exact ⟨hc (List.mem_cons_self ..), hc (List.mem_cons_of_mem _ (List.mem_cons_self ..))⟩

theorem Commits.map_digest_texts {a : HashAlgorithm} {c : Statement × HashedStatement}
    (h : Commits a.hasher c) :
    (c.2.texts.map fun t => a.hasher t none) = [c.2.digest, c.2.saltedHash] := by
  have hdigest : a.hasher c.2.statement none = c.2.digest := by
    rw [h.statement, h.digest_eq]
  have hsalted : a.hasher (c.2.nonce ++ c.2.digest.hex) none = c.2.saltedHash := by
    rw [← a.saltedHash_eq, h.salted_eq]
  rw [HashedStatement.texts, List.map_cons, List.map_singleton, hdigest, hsalted]

theorem not_collides_of_nodup {d : Document} {p : Protocol} {signer : Signer}
    {cs : List (Statement × HashedStatement)} (hd : Issued d p signer cs)
    (h : (cs.flatMap (fun c => [c.2.digest, c.2.saltedHash]) ++ [d.header.documentHash]).Nodup) :
    ¬p.hashAlgorithm.Collides (issuedTexts cs d.header.terms) := by
  have hcommits := (committed_of_committedStatements (hd.committed fun _ _ => "")).commits
  obtain ⟨text, htext, hhash⟩ := bind_ok_iff.mp hd.documentHash
  have hpayload : (d.header.terms.texts.map fun t => p.hashAlgorithm.hasher t none) =
      [d.header.documentHash] := by
    rw [Terms.texts, htext, ← return_ok_iff.mp hhash]
    rfl
  have hmap : ((issuedTexts cs d.header.terms).map fun t => p.hashAlgorithm.hasher t none).Nodup := by
    rw [issuedTexts, List.map_append, List.map_flatMap, hpayload,
      List.flatMap_congr fun c hc => (hcommits c hc).map_digest_texts]
    exact h
  rintro ⟨x, hx, y, hy, hne, heq⟩
  exact hne (List.inj_on_of_nodup_map hmap hx hy heq)

theorem issuedTexts_of_hashed {cs ds : List (Statement × HashedStatement)} (t : Terms)
    (h : ds.map Prod.snd = cs.map Prod.snd) : issuedTexts ds t = issuedTexts cs t := by
  have htexts : ∀ xs : List (Statement × HashedStatement),
      xs.flatMap (fun x => x.2.texts) = (xs.map Prod.snd).flatMap HashedStatement.texts :=
    fun xs => (List.flatMap_map ..).symm
  rw [issuedTexts, issuedTexts, htexts, htexts, h]

structure Reveals (nonces : NonceMap) (s : DisclosedStatement) (c : Statement × HashedStatement) :
    Prop where
  digest : s.digest = c.2.digest
  nonce : nonces.get? s.digest = some c.2.nonce
  salted : s.saltedHash = c.2.saltedHash
  name : Text.normalize s.name = Text.normalize c.1.name
  value : Content.Equivalent s.value c.1.value

theorem reveals_of_salted {a : HashAlgorithm} {texts : List String} (hfree : ¬a.Collides texts)
    {nonces : NonceMap} {s : DisclosedStatement} {text salt : String}
    (hs : Presentation.Opens a.hasher nonces s text salt) {c : Statement × HashedStatement}
    (hc : Commits a.hasher c) (hstexts : s.texts nonces ⊆ texts) (hctexts : c.2.texts ⊆ texts)
    (hsalted : s.saltedHash = c.2.saltedHash) : Reveals nonces s c := by
  have hsalt : salt ++ (a.hasher text none).hex ∈ texts := by
    rw [hs.digest]
    exact hstexts hs.salted_mem
  obtain ⟨hstatement, hnonce⟩ := hc.texts_mem hctexts
  obtain ⟨htexts, hnonces⟩ := HashAlgorithm.eq_of_saltedHash hfree
    (hstexts hs.text_mem) hstatement hsalt hnonce (by rw [hs.digest, hc.digest_eq, hs.salted,
      hsalted, hc.salted_eq])
  have hdigests : s.digest = c.2.digest := by rw [← hs.digest, htexts, hc.digest_eq]
  obtain ⟨hname, hvalue⟩ := (encodeStatement_eq_iff hs.encoded hc.encoded).mp htexts
  exact ⟨hdigests, by rw [hs.nonce, hnonces], hsalted, hname, hvalue⟩

theorem Terms.agrees_of_documentHash {a : HashAlgorithm} {texts : List String}
    (hfree : ¬a.Collides texts) {s t : Terms} (hs : s.texts ⊆ texts) (ht : t.texts ⊆ texts)
    {hash : Hash} (hshash : s.documentHash a.hasher = .ok hash)
    (hthash : t.documentHash a.hasher = .ok hash) : s.Agrees t := by
  refine (agrees_or_payloads_collide hshash hthash).resolve_right ?_
  rintro ⟨x, y, hx, hy, hne, hcollide⟩
  exact hfree ⟨x, hs (mem_texts.mpr hx), y, ht (mem_texts.mpr hy), hne, hcollide⟩

theorem Terms.agrees_or_collides {a : HashAlgorithm} {texts : List String} {s t : Terms}
    (hs : s.texts ⊆ texts) (ht : t.texts ⊆ texts) {hash : Hash}
    (hshash : s.documentHash a.hasher = .ok hash) (hthash : t.documentHash a.hasher = .ok hash) :
    s.Agrees t ∨ a.Collides texts := by
  by_cases hfree : a.Collides texts
  · exact .inr hfree
  · exact .inl (agrees_of_documentHash hfree hs ht hshash hthash)

structure Faithful (d : Document) (cs : List (Statement × HashedStatement)) (p : Presentation)
    (v : VerifiedPresentation) : Prop where
  identifier : v.identifier = d.header.identifier
  issuer : v.issuer = d.header.terms.issuer
  holder : v.holder = d.header.terms.holder
  disclosed : p.disclosed ≠ []
  reveals : ∀ s ∈ p.disclosed, ∃ c ∈ cs, Reveals p.nonces s c
  values : ∀ e ∈ v.values.entries, ∃ s ∈ p.disclosed, e = (s.name, s.value)

theorem faithful_of_issued {d : Document} {p : Protocol} {signer : Signer}
    {cs : List (Statement × HashedStatement)} (hd : Issued d p signer cs) {q : Presentation}
    (hhash : q.header.documentHash = d.header.documentHash)
    (hstatements : q.proveStatements p.hasher = .ok ()) (hdigests : q.proveDigests p.hasher = .ok ())
    (hfree : ¬p.hashAlgorithm.Collides (issuedTexts cs d.header.terms ++ q.texts)) :
    Faithful d cs q q.claimed := by
  obtain ⟨hdisclosed, -, hopens⟩ := Presentation.proveStatements_ok_iff.mp hstatements
  obtain ⟨-, hcommitted, hdocument, hidentifier⟩ := Presentation.proveDigests_ok_iff.mp hdigests
  rw [hhash] at hdocument hidentifier
  have hissued : issuedTexts cs d.header.terms ⊆ issuedTexts cs d.header.terms ++ q.texts :=
    List.subset_append_left _ _
  have hshown : q.texts ⊆ issuedTexts cs d.header.terms ++ q.texts := List.subset_append_right _ _
  have hagrees := Terms.agrees_of_documentHash hfree
    (List.Subset.trans q.terms_subset_texts hshown)
    (List.Subset.trans (List.subset_append_right _ _) hissued) hdocument hd.documentHash
  have hreveals : ∀ s ∈ q.disclosed, ∃ c ∈ cs, Reveals q.nonces s c := by
    intro s hs
    obtain ⟨text, salt, hopen⟩ := hopens s hs
    have hmem : s.saltedHash ∈ cs.map fun c => c.2.saltedHash := by
      rw [← mem_sortHashes, ← hd.contentHashes, ← hagrees.contentHashes.mem_iff]
      exact hcommitted s hs
    obtain ⟨c, hc, hsalted⟩ := List.mem_map.mp hmem
    have hcommits := (committed_of_committedStatements (hd.committed fun _ _ => "")).commits c hc
    have hstexts := List.Subset.trans (Presentation.subset_texts hs) hshown
    have hctexts := List.Subset.trans (subset_issuedTexts d.header.terms hc) hissued
    exact ⟨c, hc, reveals_of_salted hfree hopen hcommits hstexts hctexts hsalted.symm⟩
  have hvalues : ∀ e ∈ q.claimed.values.entries, ∃ s ∈ q.disclosed, e = (s.name, s.value) := by
    intro e he
    obtain ⟨s, hs, rfl⟩ := List.mem_map.mp (SortedMap.mem_ofList he)
    exact ⟨s, hs, rfl⟩
  have hidentical : q.header.identifier = d.header.identifier :=
    hidentifier.trans hd.identifier.symm
  exact ⟨hidentical, hagrees.issuer, hagrees.holder, hdisclosed, hreveals, hvalues⟩

theorem verified_disclosures_committed {a : Application} {p : Protocol} {signer : Signer}
    {issued : Instant} {source : NonceSource} {d : Document}
    (hissue : a.issue p signer issued source = .ok d) {shown : Presentation}
    (hhash : shown.header.documentHash = d.header.documentHash) {q : Protocol}
    (halgorithm : q.hashAlgorithm = p.hashAlgorithm) {resolver : Resolver} {e : Expectations}
    {now : Instant} {v : VerifiedPresentation}
    (hverify : (shown.verify q resolver e now).result = .ok v) :
    ∃ cs, (∀ source, d.committedStatements p source = .ok cs) ∧
      (Faithful d cs shown v ∨
        p.hashAlgorithm.Collides (issuedTexts cs d.header.terms ++ shown.texts)) := by
  obtain ⟨cs, hd⟩ := issued_of_issue hissue
  obtain ⟨hpasses, rfl⟩ := Presentation.verify_result_ok_iff.mp hverify
  have hhasher : q.hasher = p.hasher := congrArg HashAlgorithm.hasher halgorithm
  have hstatements := hpasses.statements
  have hdigests := hpasses.digests
  rw [hhasher] at hstatements hdigests
  refine ⟨cs, hd.committed, ?_⟩
  by_cases hfree : p.hashAlgorithm.Collides (issuedTexts cs d.header.terms ++ shown.texts)
  · exact .inr hfree
  · exact .inl (faithful_of_issued hd hhash hstatements hdigests hfree)

theorem sample_disclosures_committed : ∃ d shown v cs,
    sampleApplication.issue .standard sampleIssuer default sampleSource = .ok d ∧
    d.present .standard ["r\u00e9sum\u00e9"] sampleHolder "challenge" sampleSource = .ok shown ∧
    (∀ source, d.committedStatements .standard source = .ok cs) ∧
    (shown.verify .standard sampleResolver sampleExpectations sampleTime).result = .ok v ∧
    (Faithful d cs shown v ∨
      HashAlgorithm.sha256.Collides (issuedTexts cs d.header.terms ++ shown.texts)) := by
  obtain ⟨d, shown, hissue, hpresent, hheader, hpasses⟩ := sample_passes
  have hverify := Presentation.verify_result_ok_iff.mpr ⟨hpasses, rfl⟩
  obtain ⟨cs, hcs, hfaithful⟩ := verified_disclosures_committed hissue
    (congrArg Header.documentHash hheader) rfl hverify
  exact ⟨d, shown, _, cs, hissue, hpresent, hcs, hverify, hfaithful⟩

end SelectiveDisclosure
