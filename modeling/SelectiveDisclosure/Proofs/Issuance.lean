import SelectiveDisclosure.Issuance
import SelectiveDisclosure.Proofs.Statement
import SelectiveDisclosure.Proofs.Time

namespace SelectiveDisclosure

theorem hashStatementsFrom_cons (hasher : Hasher) (nonces : NonceMap) (source : NonceSource)
    (drawn : Nat) (t : String) (texts : List String) :
    ∃ nonce drawn', hashStatementsFrom hasher nonces source drawn (t :: texts) =
      hashStatement hasher t nonce :: hashStatementsFrom hasher nonces source drawn' texts ∧
      ∀ recorded, nonces.get? (hasher t none) = some recorded → nonce = recorded := by
  rw [hashStatementsFrom]
  cases hnonce : nonces.get? (hasher t none) with
  | some nonce =>
    refine ⟨nonce, drawn, rfl, ?_⟩
    intro recorded h
    exact Option.some.inj h
  | none =>
    refine ⟨source drawn (hasher t none), drawn + 1, rfl, ?_⟩
    intro recorded h
    cases h

theorem map_statement_hashStatementsFrom (hasher : Hasher) (nonces : NonceMap) (source : NonceSource)
    (drawn : Nat) (texts : List String) :
    (hashStatementsFrom hasher nonces source drawn texts).map HashedStatement.statement = texts := by
  induction texts generalizing drawn with
  | nil => rfl
  | cons t texts ih =>
    obtain ⟨nonce, drawn', h, -⟩ := hashStatementsFrom_cons hasher nonces source drawn t texts
    rw [h, List.map_cons, ih]
    rfl

theorem map_statement_hashStatements (hasher : Hasher) (nonces : NonceMap) (source : NonceSource)
    (texts : List String) :
    (hashStatements hasher nonces source texts).map HashedStatement.statement = texts :=
  map_statement_hashStatementsFrom hasher nonces source 0 texts

theorem hashed_of_mem_hashStatementsFrom {hasher : Hasher} {nonces : NonceMap} {source : NonceSource}
    {drawn : Nat} {texts : List String} {h : HashedStatement}
    (hh : h ∈ hashStatementsFrom hasher nonces source drawn texts) :
    h = hashStatement hasher h.statement h.nonce ∧
      ∀ nonce, nonces.get? h.digest = some nonce → h.nonce = nonce := by
  induction texts generalizing drawn with
  | nil => cases hh
  | cons t texts ih =>
    obtain ⟨nonce, drawn', hcons, hrecorded⟩ :=
      hashStatementsFrom_cons hasher nonces source drawn t texts
    rw [hcons] at hh
    rcases List.mem_cons.mp hh with rfl | hh
    · exact ⟨rfl, hrecorded⟩
    · exact ih hh

theorem map_digest_hashStatements (hasher : Hasher) (nonces : NonceMap) (source : NonceSource)
    (texts : List String) :
    (hashStatements hasher nonces source texts).map HashedStatement.digest =
      texts.map fun t => hasher t none := by
  have hdigest : ∀ x ∈ hashStatements hasher nonces source texts,
      x.digest = hasher x.statement none :=
    fun x hx => congrArg HashedStatement.digest (hashed_of_mem_hashStatementsFrom hx).1
  have hmap := congrArg (List.map fun t => hasher t none)
    (map_statement_hashStatements hasher nonces source texts)
  rw [List.map_map] at hmap
  exact (List.map_congr_left hdigest).trans hmap

theorem hashStatementsFrom_of_recorded {hasher : Hasher} {nonces : NonceMap} {source : NonceSource}
    {drawn : Nat} {hashed : List HashedStatement}
    (h : ∀ x ∈ hashed, x = hashStatement hasher x.statement x.nonce ∧
      nonces.get? x.digest = some x.nonce) :
    hashStatementsFrom hasher nonces source drawn (hashed.map HashedStatement.statement) =
      hashed := by
  induction hashed generalizing drawn with
  | nil => rfl
  | cons x hashed ih =>
    obtain ⟨⟨hx, hnonce⟩, hrest⟩ := List.forall_mem_cons.mp h
    have hdigest : x.digest = hasher x.statement none := congrArg HashedStatement.digest hx
    rw [hdigest] at hnonce
    obtain ⟨nonce, drawn', hcons, hrecorded⟩ := hashStatementsFrom_cons hasher nonces source drawn
      x.statement (hashed.map HashedStatement.statement)
    rw [List.map_cons, hcons, hrecorded x.nonce hnonce, ih hrest]
    exact congrArg (· :: hashed) hx.symm

theorem digests_of_repeatedStatement {cs : List (Statement × HashedStatement)} {seen : List Hash}
    (h : repeatedStatement seen cs = none) :
    (cs.map fun c => c.2.digest).Nodup ∧ ∀ c ∈ cs, c.2.digest ∉ seen := by
  induction cs generalizing seen with
  | nil => exact ⟨List.nodup_nil, List.forall_mem_nil _⟩
  | cons c cs ih =>
    rw [repeatedStatement] at h
    split at h
    · exact absurd h nofun
    · rename_i hc
      obtain ⟨hnodup, hseen⟩ := ih h
      rw [List.contains_iff_mem] at hc
      have hnew : c.2.digest ∉ cs.map fun c => c.2.digest := by
        intro hmem
        obtain ⟨d, hd, hdc⟩ := List.mem_map.mp hmem
        exact hseen d hd (hdc ▸ List.mem_cons_self ..)
      have hrest : ∀ d ∈ cs, d.2.digest ∉ seen := by
        intro d hd hmem
        exact hseen d hd (List.mem_cons_of_mem _ hmem)
      exact ⟨List.nodup_cons.mpr ⟨hnew, hnodup⟩, List.forall_mem_cons.mpr ⟨hc, hrest⟩⟩

theorem get?_nonceMapOf {hashed : List HashedStatement}
    (hnodup : (hashed.map HashedStatement.digest).Nodup) {h : HashedStatement} (hh : h ∈ hashed) :
    (nonceMapOf hashed).get? h.digest = some h.nonce := by
  refine SortedMap.get?_ofList_of_nodup ?_ (List.mem_map_of_mem hh)
  rwa [List.map_map]

structure Commits (hasher : Hasher) (c : Statement × HashedStatement) : Prop where
  encoded : encodeStatement c.1.name c.1.value = .ok c.1.encoded
  statement : c.2.statement = c.1.encoded
  hashed : c.2 = hashStatement hasher c.2.statement c.2.nonce

theorem Commits.digest_eq {hasher : Hasher} {c : Statement × HashedStatement}
    (h : Commits hasher c) : hasher c.1.encoded none = c.2.digest := by
  rw [← h.statement]
  exact (congrArg HashedStatement.digest h.hashed).symm

theorem Commits.salted_eq {hasher : Hasher} {c : Statement × HashedStatement}
    (h : Commits hasher c) : saltedHash hasher c.2.digest c.2.nonce = c.2.saltedHash := by
  rw [← h.digest_eq, ← h.statement]
  exact (congrArg HashedStatement.saltedHash h.hashed).symm

theorem commits_of_mem_zip {hasher : Hasher} {statements : List Statement}
    {hashed : List HashedStatement}
    (hencoded : ∀ s ∈ statements, encodeStatement s.name s.value = .ok s.encoded)
    (htexts : hashed.map HashedStatement.statement = statements.map Statement.encoded)
    (hhashed : ∀ h ∈ hashed, h = hashStatement hasher h.statement h.nonce)
    {c : Statement × HashedStatement} (hc : c ∈ statements.zip hashed) : Commits hasher c := by
  have htext : c.2.statement = c.1.encoded := by
    induction statements generalizing hashed with
    | nil => exact absurd hc nofun
    | cons s statements ih =>
      cases hashed with
      | nil => exact absurd hc nofun
      | cons h hashed =>
        obtain ⟨hhead, htail⟩ := List.cons.inj htexts
        rcases List.mem_cons.mp hc with rfl | hc
        · exact hhead
        · exact ih (fun t ht => hencoded t (List.mem_cons_of_mem _ ht)) htail
            (fun g hg => hhashed g (List.mem_cons_of_mem _ hg)) hc
  exact ⟨hencoded c.1 (List.of_mem_zip hc).1, htext, hhashed c.2 (List.of_mem_zip hc).2⟩

section

variable {statements : List Statement} {hashed : List HashedStatement}
  (htexts : hashed.map HashedStatement.statement = statements.map Statement.encoded)

include htexts

theorem length_of_texts : hashed.length = statements.length := by
  simpa using congrArg List.length htexts

theorem map_statement_zip {α : Type} (f : Statement → α) :
    ((statements.zip hashed).map fun c => f c.1) = statements.map f := by
  have hlength := length_of_texts htexts
  have hfst : (statements.zip hashed).map Prod.fst = statements := List.map_fst_zip (by omega)
  exact List.map_map.symm.trans (congrArg (List.map f) hfst)

theorem map_hashed_zip {α : Type} (f : HashedStatement → α) :
    ((statements.zip hashed).map fun c => f c.2) = hashed.map f := by
  have hlength := length_of_texts htexts
  have hsnd : (statements.zip hashed).map Prod.snd = hashed := List.map_snd_zip (by omega)
  exact List.map_map.symm.trans (congrArg (List.map f) hsnd)

end

structure Committed (d : Document) (p : Protocol) (cs : List (Statement × HashedStatement)) :
    Prop where
  ne_nil : cs ≠ []
  commits : ∀ c ∈ cs, Commits p.hasher c
  recorded : ∀ c ∈ cs, d.nonces.get? c.2.digest = some c.2.nonce
  ascending : (cs.map fun c => c.1.name).Pairwise fun m n => compare m n = .lt

theorem recorded_of_find?_none {hasher : Hasher} {nonces : NonceMap} {source : NonceSource}
    {texts : List String}
    (h : ((hashStatements hasher nonces source texts).find? fun x => !nonces.contains x.digest) = none)
    {x : HashedStatement} (hx : x ∈ hashStatements hasher nonces source texts) :
    x = hashStatement hasher x.statement x.nonce ∧ nonces.get? x.digest = some x.nonce := by
  obtain ⟨hhashed, hrecorded⟩ := hashed_of_mem_hashStatementsFrom hx
  have hsome := mt SortedMap.not_contains_iff.mpr (List.find?_eq_none.mp h x hx)
  obtain ⟨nonce, hnonce⟩ := Option.ne_none_iff_exists'.mp hsome
  rw [hrecorded nonce hnonce]
  exact ⟨hrecorded nonce hnonce ▸ hhashed, hnonce⟩

theorem committed_of_committedStatements {d : Document} {p : Protocol} {source : NonceSource}
    {cs : List (Statement × HashedStatement)} (h : d.committedStatements p source = .ok cs) :
    Committed d p cs := by
  obtain ⟨statements, hstatements, h⟩ := bind_ok_iff.mp h
  have hdecomposed := Content.decomposed_of_decompose (mapError_ok_iff.mp hstatements)
  dsimp only at h
  split at h
  · exact absurd h nofun
  · rename_i hnone
    have htexts := map_statement_hashStatements p.hasher d.nonces source
      (statements.map Statement.encoded)
    rw [← return_ok_iff.mp h]
    refine ⟨?_, ?_, ?_, ?_⟩
    · intro hnil
      have hmap := map_statement_zip htexts id
      rw [hnil, List.map_id, List.map_nil] at hmap
      exact hdecomposed.ne_nil hmap.symm
    · intro c hc
      exact commits_of_mem_zip hdecomposed.encoded htexts
        (fun _ hx => (hashed_of_mem_hashStatementsFrom hx).1) hc
    · intro c hc
      exact (recorded_of_find?_none hnone (List.of_mem_zip hc).2).2
    · rw [map_statement_zip htexts]
      exact hdecomposed.ascending

theorem decompose_of_committedStatements {d : Document} {p : Protocol} {source : NonceSource}
    {cs : List (Statement × HashedStatement)} (h : d.committedStatements p source = .ok cs) :
    d.content.decompose p.decomposition = .ok (cs.map Prod.fst) := by
  obtain ⟨statements, hstatements, h⟩ := bind_ok_iff.mp h
  dsimp only at h
  split at h
  · exact absurd h nofun
  · have hzip := map_statement_zip (map_statement_hashStatements p.hasher d.nonces source
      (statements.map Statement.encoded)) id
    rw [← return_ok_iff.mp h, mapError_ok_iff.mp hstatements]
    exact congrArg Except.ok ((List.map_id statements).symm.trans hzip.symm)

theorem committedStatements_of_recorded {d : Document} {p : Protocol} {source : NonceSource}
    {statements : List Statement} {hashed : List HashedStatement}
    (hd : d.content.decompose p.decomposition = .ok statements)
    (htexts : hashed.map HashedStatement.statement = statements.map Statement.encoded)
    (h : ∀ x ∈ hashed, x = hashStatement p.hasher x.statement x.nonce ∧
      d.nonces.get? x.digest = some x.nonce) :
    d.committedStatements p source = .ok (statements.zip hashed) := by
  have hhashed : hashStatements p.hasher d.nonces source (statements.map Statement.encoded) =
      hashed := by
    rw [← htexts]
    exact hashStatementsFrom_of_recorded h
  have hnone : (hashed.find? fun x => !d.nonces.contains x.digest) = none := by
    refine List.find?_eq_none.mpr ?_
    intro x hx
    rw [SortedMap.contains, (h x hx).2]
    exact Bool.false_ne_true
  rw [Document.committedStatements, hd]
  refine bind_ok_iff.mpr ⟨statements, rfl, ?_⟩
  dsimp only
  rw [hhashed, hnone]
  rfl

theorem committedStatements_of_source {d : Document} {p : Protocol} {source : NonceSource}
    {cs : List (Statement × HashedStatement)} (h : d.committedStatements p source = .ok cs)
    (later : NonceSource) : d.committedStatements p later = .ok cs := by
  obtain ⟨statements, hstatements, h⟩ := bind_ok_iff.mp h
  dsimp only at h
  split at h
  · exact absurd h nofun
  · rename_i hnone
    rw [← return_ok_iff.mp h]
    exact committedStatements_of_recorded (mapError_ok_iff.mp hstatements)
      (map_statement_hashStatements _ _ _ _) fun _ hx => recorded_of_find?_none hnone hx

theorem Document.checkIntegrity_ok_iff {d : Document} {p : Protocol} {source : NonceSource} :
    d.checkIntegrity p source = .ok () ↔ ∃ cs, d.committedStatements p source = .ok cs ∧
      d.header.terms.contentHashes = sortHashes (cs.map fun c => c.2.saltedHash) ∧
      d.header.terms.documentHash p.hasher = .ok d.header.documentHash ∧
      d.header.identifier = ⟨d.header.documentHash⟩ := by
  rw [checkIntegrity, bind_ok_iff]
  refine exists_congr fun cs => and_congr_right fun _ => ?_
  constructor
  · intro h
    obtain ⟨hcontent, h⟩ := throw_ok_iff.mp h
    obtain ⟨hash, hhash, h⟩ := bind_ok_iff.mp h
    obtain ⟨hdocument, h⟩ := throw_ok_iff.mp h
    obtain ⟨hidentifier, -⟩ := throw_ok_iff.mp h
    rw [← Decidable.not_not.mp hdocument]
    exact ⟨(Decidable.not_not.mp hcontent).symm, mapError_ok_iff.mp hhash,
      (Decidable.not_not.mp hidentifier).symm⟩
  · rintro ⟨hcontent, hhash, hidentifier⟩
    refine throw_ok_iff.mpr ⟨not_not_intro hcontent.symm, ?_⟩
    refine bind_ok_iff.mpr ⟨_, mapError_ok_iff.mpr hhash, ?_⟩
    refine throw_ok_iff.mpr ⟨not_not_intro rfl, ?_⟩
    exact throw_ok_iff.mpr ⟨not_not_intro hidentifier.symm, rfl⟩

theorem mem_sortHashes {hashes : List Hash} {h : Hash} : h ∈ sortHashes hashes ↔ h ∈ hashes :=
  List.mem_mergeSort

structure Issued (d : Document) (p : Protocol) (signer : Signer)
    (cs : List (Statement × HashedStatement)) : Prop where
  committed : ∀ source, d.committedStatements p source = .ok cs
  digests : (cs.map fun c => c.2.digest).Nodup
  contentHashes : d.header.terms.contentHashes = sortHashes (cs.map fun c => c.2.saltedHash)
  issuer : d.header.terms.issuer = signer.keyUri.did
  documentHash : d.header.terms.documentHash p.hasher = .ok d.header.documentHash
  identifier : d.header.identifier = ⟨d.header.documentHash⟩
  keyUri : d.header.issuerSignature.keyUri = signer.keyUri
  signature : signer.sign d.header.documentHash.toList = .ok d.header.issuerSignature.bytes
  createdAt : d.header.terms.createdAt.truncate = d.header.terms.createdAt
  validUntil : ∀ limit ∈ d.header.terms.validUntil, limit.truncate = limit

theorem Issued.checkIntegrity {d : Document} {p : Protocol} {signer : Signer}
    {cs : List (Statement × HashedStatement)} (h : Issued d p signer cs) (source : NonceSource) :
    d.checkIntegrity p source = .ok () :=
  Document.checkIntegrity_ok_iff.mpr
    ⟨cs, h.committed source, h.contentHashes, h.documentHash, h.identifier⟩

theorem sign_of_signWithin {s : Signer} {timeout : Nat} {payload bytes : List UInt8}
    (h : s.signWithin timeout payload = .ok bytes) : s.sign payload = .ok bytes := by
  rw [Signer.signWithin] at h
  split at h
  · exact absurd h nofun
  · exact h

theorem checkText_ok_iff {field : OptionalText} {value : Option String} :
    Application.checkText field value = .ok () ↔ value ≠ some "" := by
  rw [Application.checkText]
  split
  · rename_i hempty
    exact iff_of_false (by simp) (not_not_intro hempty)
  · rename_i hfull
    exact iff_of_true rfl hfull

theorem checkWindow_ok_iff {created : Instant} {limit : Option Instant} :
    Application.checkWindow created limit = .ok () ↔ ∀ t ∈ limit, created.before t = true := by
  cases limit with
  | none => exact iff_of_true rfl fun _ h => nomatch h
  | some t =>
    rw [Application.checkWindow]
    split
    · rename_i hbefore
      exact iff_of_true rfl fun _ h => Option.some.inj h ▸ hbefore
    · rename_i hbefore
      exact iff_of_false nofun fun h => hbefore (h t rfl)

theorem checkWindow_error_iff {created : Instant} {limit : Option Instant} :
    Application.checkWindow created limit = .error .invalidWindow ↔
      ∃ t ∈ limit, created.before t = false := by
  cases limit with
  | none => simp [Application.checkWindow]
  | some t =>
    cases hbefore : created.before t <;> simp [Application.checkWindow, hbefore]

structure IssuedFrom (a : Application) (p : Protocol) (signer : Signer) (now : Instant)
    (source : NonceSource) (statements : List Statement) (hashed : List HashedStatement)
    (d : Document) : Prop where
  content : d.content = a.content
  decomposed : a.content.decompose p.decomposition = .ok statements
  hashed_eq : hashed =
    hashStatements p.hasher SortedMap.empty source (statements.map Statement.encoded)
  digests : (hashed.map HashedStatement.digest).Nodup
  nonces : d.nonces = nonceMapOf hashed
  contentHashes : d.header.terms.contentHashes = sortHashes (hashed.map HashedStatement.saltedHash)
  issuer : d.header.terms.issuer = signer.keyUri.did
  holder : a.holder = some d.header.terms.holder
  evidenceIds : d.header.terms.evidenceIds = a.evidenceIds
  authorization : d.header.terms.authorization = a.authorization
  registry : d.header.terms.registry = a.registry
  createdAt : d.header.terms.createdAt = (a.createdAt.getD now).truncate
  validUntil : d.header.terms.validUntil = a.validUntil.map Instant.truncate
  window : ∀ limit ∈ d.header.terms.validUntil, d.header.terms.createdAt.before limit = true
  authorization_ne : a.authorization ≠ some ""
  registry_ne : a.registry ≠ some ""
  documentHash : d.header.terms.documentHash p.hasher = .ok d.header.documentHash
  identifier : d.header.identifier = ⟨d.header.documentHash⟩
  keyUri : d.header.issuerSignature.keyUri = signer.keyUri
  signature : signer.sign d.header.documentHash.toList = .ok d.header.issuerSignature.bytes
  metadata : d.header.metadata = a.metadata

theorem issuedFrom_of_issue {a : Application} {p : Protocol} {signer : Signer} {now : Instant}
    {source : NonceSource} {d : Document} (h : a.issue p signer now source = .ok d) :
    ∃ statements hashed, IssuedFrom a p signer now source statements hashed d := by
  rw [Application.issue] at h
  split at h
  · rename_i holder hholder
    obtain ⟨⟨⟩, hwindow, h⟩ := bind_ok_iff.mp h
    obtain ⟨⟨⟩, hauthorization, h⟩ := bind_ok_iff.mp h
    obtain ⟨⟨⟩, hregistry, h⟩ := bind_ok_iff.mp h
    obtain ⟨statements, hstatements, h⟩ := bind_ok_iff.mp h
    dsimp only at h
    split at h
    · cases h
    · rename_i hrepeated
      obtain ⟨hash, hhash, h⟩ := bind_ok_iff.mp h
      obtain ⟨signature, hsignature, h⟩ := bind_ok_iff.mp h
      have hdigests := (digests_of_repeatedStatement
        (Option.eq_none_iff_forall_ne_some.mpr hrepeated)).1
      rw [map_hashed_zip (map_statement_hashStatements ..) HashedStatement.digest] at hdigests
      have hsigned := sign_of_signWithin (mapError_ok_iff.mp hsignature)
      rw [← return_ok_iff.mp h]
      refine ⟨statements, _, rfl, mapError_ok_iff.mp hstatements, rfl, hdigests, rfl, rfl, rfl,
        hholder, rfl, rfl, rfl, rfl, rfl, checkWindow_ok_iff.mp hwindow,
        checkText_ok_iff.mp hauthorization, checkText_ok_iff.mp hregistry,
        mapError_ok_iff.mp hhash, rfl, rfl, hsigned, rfl⟩
  · cases h

section

variable {a : Application} {p : Protocol} {signer : Signer} {now : Instant} {source : NonceSource}
  {statements : List Statement} {hashed : List HashedStatement} {d : Document}
  (h : IssuedFrom a p signer now source statements hashed d)

include h

theorem IssuedFrom.texts :
    hashed.map HashedStatement.statement = statements.map Statement.encoded := by
  rw [h.hashed_eq]
  exact map_statement_hashStatements ..

theorem IssuedFrom.hashStatement_eq {x : HashedStatement} (hx : x ∈ hashed) :
    x = hashStatement p.hasher x.statement x.nonce := by
  rw [h.hashed_eq] at hx
  exact (hashed_of_mem_hashStatementsFrom hx).1

theorem IssuedFrom.issued : Issued d p signer (statements.zip hashed) where
  committed later := by
    have hdecomposed := h.decomposed
    rw [← h.content] at hdecomposed
    refine committedStatements_of_recorded hdecomposed h.texts fun x hx => ?_
    rw [h.nonces]
    exact ⟨h.hashStatement_eq hx, get?_nonceMapOf h.digests hx⟩
  digests := by
    rw [map_hashed_zip h.texts HashedStatement.digest]
    exact h.digests
  contentHashes := by
    rw [map_hashed_zip h.texts HashedStatement.saltedHash]
    exact h.contentHashes
  issuer := h.issuer
  documentHash := h.documentHash
  identifier := h.identifier
  keyUri := h.keyUri
  signature := h.signature
  createdAt := by simp [h.createdAt]
  validUntil := by
    rw [h.validUntil]
    intro limit hlimit
    obtain ⟨given, -, rfl⟩ := Option.map_eq_some_iff.mp hlimit
    exact Instant.truncate_truncate given

end

theorem issued_of_issue {a : Application} {p : Protocol} {signer : Signer} {now : Instant}
    {source : NonceSource} {d : Document} (h : a.issue p signer now source = .ok d) :
    ∃ cs, Issued d p signer cs := by
  obtain ⟨_, _, hfrom⟩ := issuedFrom_of_issue h
  exact ⟨_, hfrom.issued⟩

end SelectiveDisclosure
