import SelectiveDisclosure.Proofs.Content.Leaves
import SelectiveDisclosure.Proofs.Integrity
import SelectiveDisclosure.Proofs.Soundness

namespace SelectiveDisclosure

structure Restates (ds cs : List (Statement × HashedStatement)) : Prop where
  meaning : (ds.map Prod.fst).map Statement.meaning = (cs.map Prod.fst).map Statement.meaning
  hashed : ds.map Prod.snd = cs.map Prod.snd

theorem hashed_eq_of_saltedHash {a : HashAlgorithm} {texts : List String}
    (hfree : ¬a.Collides texts) {c e : Statement × HashedStatement} (hc : Commits a.hasher c)
    (he : Commits a.hasher e) (hctexts : c.2.texts ⊆ texts) (hetexts : e.2.texts ⊆ texts)
    (hsalted : c.2.saltedHash = e.2.saltedHash) : c.2 = e.2 := by
  obtain ⟨hctext, hcsalt⟩ := hc.texts_mem hctexts
  obtain ⟨hetext, hesalt⟩ := he.texts_mem hetexts
  obtain ⟨hencoded, hnonce⟩ := HashAlgorithm.eq_of_saltedHash hfree hctext hetext hcsalt hesalt
    (by rw [hc.digest_eq, he.digest_eq, hc.salted_eq, he.salted_eq, hsalted])
  rw [hc.hashed, hc.statement, hencoded, hnonce, ← he.statement, ← he.hashed]

def told (c : Statement × HashedStatement) : String × Tree × HashedStatement :=
  (c.1.name, c.1.value.normalForm, c.2)

theorem told_eq_of_hashed {hasher : Hasher} {c e : Statement × HashedStatement}
    (hc : Commits hasher c) (he : Commits hasher e) (hcname : Text.normalize c.1.name = c.1.name)
    (hename : Text.normalize e.1.name = e.1.name) (h : c.2 = e.2) : told c = told e := by
  have htext : c.1.encoded = e.1.encoded := by rw [← hc.statement, h, he.statement]
  obtain ⟨hname, hvalue⟩ := (encodeStatement_eq_iff hc.encoded he.encoded).mp htext
  rw [hcname, hename] at hname
  rw [told, told, hname, hvalue, h]

theorem committed_normalize_name {d : Document} {p : Protocol} {source : NonceSource}
    {cs : List (Statement × HashedStatement)} (h : d.committedStatements p source = .ok cs)
    {c : Statement × HashedStatement} (hc : c ∈ cs) : Text.normalize c.1.name = c.1.name :=
  Content.normalize_of_decompose (decompose_of_committedStatements h) (List.mem_map_of_mem hc)

theorem ascending_told {d : Document} {p : Protocol} {source : NonceSource}
    {cs : List (Statement × HashedStatement)} (h : d.committedStatements p source = .ok cs) :
    Ascending (cs.map told) :=
  List.pairwise_map.mpr (List.pairwise_map.mp (committed_of_committedStatements h).ascending)

theorem told_subset {p : Protocol} {texts : List String} (hfree : ¬p.hashAlgorithm.Collides texts)
    {c d : Document} {source later : NonceSource} {cs ds : List (Statement × HashedStatement)}
    (hcs : c.committedStatements p source = .ok cs) (hds : d.committedStatements p later = .ok ds)
    (hctexts : ∀ x ∈ cs, x.2.texts ⊆ texts) (hdtexts : ∀ x ∈ ds, x.2.texts ⊆ texts)
    (hsalted : ∀ x ∈ cs, x.2.saltedHash ∈ ds.map fun y => y.2.saltedHash) :
    ∀ x ∈ cs.map told, x ∈ ds.map told := by
  intro t ht
  obtain ⟨x, hx, rfl⟩ := List.mem_map.mp ht
  obtain ⟨y, hy, hxy⟩ := List.mem_map.mp (hsalted x hx)
  have hxc := (committed_of_committedStatements hcs).commits x hx
  have hyc := (committed_of_committedStatements hds).commits y hy
  have hhashed := hashed_eq_of_saltedHash hfree hxc hyc (hctexts x hx) (hdtexts y hy) hxy.symm
  rw [told_eq_of_hashed hxc hyc (committed_normalize_name hcs hx) (committed_normalize_name hds hy)
    hhashed]
  exact List.mem_map_of_mem hy

theorem restates_of_perm {p : Protocol} {texts : List String}
    (hfree : ¬p.hashAlgorithm.Collides texts) {c d : Document} {source later : NonceSource}
    {cs ds : List (Statement × HashedStatement)} (hcs : c.committedStatements p source = .ok cs)
    (hds : d.committedStatements p later = .ok ds) (hctexts : ∀ x ∈ cs, x.2.texts ⊆ texts)
    (hdtexts : ∀ x ∈ ds, x.2.texts ⊆ texts)
    (hperm : (cs.map fun x => x.2.saltedHash).Perm (ds.map fun y => y.2.saltedHash)) :
    Restates ds cs := by
  have hcd := told_subset hfree hcs hds hctexts hdtexts fun x hx =>
    hperm.subset (List.mem_map_of_mem hx)
  have hdc := told_subset hfree hds hcs hdtexts hctexts fun y hy =>
    hperm.symm.subset (List.mem_map_of_mem hy)
  -- names ascend in both lists, so the lists differ in nothing once they hold the same
  have htold : ds.map told = cs.map told :=
    eq_of_mem_iff_of_ascending (ascending_told hds) (ascending_told hcs)
      fun t => ⟨hdc t, hcd t⟩
  have hmeaning := congrArg (List.map fun t => (t.1, t.2.1)) htold
  have hhashed := congrArg (List.map fun t => t.2.2) htold
  rw [List.map_map, List.map_map] at hmeaning hhashed
  refine ⟨?_, hhashed⟩
  rw [List.map_map, List.map_map]
  exact hmeaning

theorem restates_of_checkIntegrity {d : Document} {p : Protocol} {signer : Signer}
    {cs : List (Statement × HashedStatement)} (hd : Issued d p signer cs) {other : Document}
    (hhash : other.header.documentHash = d.header.documentHash) {later : NonceSource}
    (hcheck : other.checkIntegrity p later = .ok ()) :
    ∃ ds, (∀ source, other.committedStatements p source = .ok ds) ∧
      (other.header.terms.contentHashes = d.header.terms.contentHashes ∧ Restates ds cs ∨
        p.hashAlgorithm.Collides
          (issuedTexts cs d.header.terms ++ issuedTexts ds other.header.terms)) := by
  obtain ⟨ds, hds, hhashes, hdocument, -⟩ := Document.checkIntegrity_ok_iff.mp hcheck
  refine ⟨ds, committedStatements_of_source hds, ?_⟩
  by_cases hfree : p.hashAlgorithm.Collides
      (issuedTexts cs d.header.terms ++ issuedTexts ds other.header.terms)
  · exact .inr hfree
  have hleft : issuedTexts cs d.header.terms ⊆
      issuedTexts cs d.header.terms ++ issuedTexts ds other.header.terms :=
    List.subset_append_left _ _
  have hright : issuedTexts ds other.header.terms ⊆
      issuedTexts cs d.header.terms ++ issuedTexts ds other.header.terms :=
    List.subset_append_right _ _
  rw [hhash] at hdocument
  have hagrees := Terms.agrees_of_documentHash hfree
    (List.Subset.trans (List.subset_append_right _ _) hright)
    (List.Subset.trans (List.subset_append_right _ _) hleft) hdocument hd.documentHash
  have hsorted := sortHashes_eq_iff.mpr hagrees.contentHashes
  rw [hhashes, hd.contentHashes, sortHashes_sortHashes, sortHashes_sortHashes] at hsorted
  have hrestates := restates_of_perm hfree (hd.committed later) hds
    (fun _ hx => List.Subset.trans (subset_issuedTexts _ hx) hleft)
    (fun _ hx => List.Subset.trans (subset_issuedTexts _ hx) hright)
    (sortHashes_eq_iff.mp hsorted.symm)
  exact .inl ⟨by rw [hhashes, hd.contentHashes, hsorted], hrestates⟩

theorem Restates.nonce {d other : Document} {p : Protocol} {cs ds : List (Statement × HashedStatement)}
    (h : Restates ds cs) (hd : Committed d p cs) (hother : Committed other p ds)
    {c : Statement × HashedStatement} (hc : c ∈ cs) :
    other.nonces.get? c.2.digest = d.nonces.get? c.2.digest := by
  obtain ⟨e, he, heq⟩ := List.mem_map.mp (h.hashed ▸ List.mem_map_of_mem hc)
  rw [hd.recorded c hc, ← heq, hother.recorded e he]

theorem topLevel_content_committed {a : Application} {p : Protocol} {signer : Signer}
    {issued : Instant} {source : NonceSource} {d : Document}
    (hissue : a.issue p signer issued source = .ok d) (hsplit : p.decomposition = .topLevel)
    {other : Document} (hhash : other.header.documentHash = d.header.documentHash)
    {later : NonceSource} (hcheck : other.checkIntegrity p later = .ok ()) :
    ∃ cs ds, (∀ source, d.committedStatements p source = .ok cs) ∧
      (∀ source, other.committedStatements p source = .ok ds) ∧
      (Content.SameTree other.content d.content ∧
          other.header.terms.contentHashes = d.header.terms.contentHashes ∧
          (∀ c ∈ cs, other.nonces.get? c.2.digest = d.nonces.get? c.2.digest) ∨
        p.hashAlgorithm.Collides
          (issuedTexts cs d.header.terms ++ issuedTexts ds other.header.terms)) := by
  obtain ⟨cs, hd⟩ := issued_of_issue hissue
  obtain ⟨ds, hds, hrestates⟩ := restates_of_checkIntegrity hd hhash hcheck
  refine ⟨cs, ds, hd.committed, hds, ?_⟩
  rcases hrestates with ⟨hhashes, hrestates⟩ | hcollides
  · have hcontent := decompose_of_committedStatements (hd.committed later)
    have hother := decompose_of_committedStatements (hds later)
    rw [hsplit] at hcontent hother
    refine .inl ⟨Content.sameTree_of_meaning hother hcontent hrestates.meaning, hhashes, ?_⟩
    intro c hc
    exact hrestates.nonce (committed_of_committedStatements (hd.committed later))
      (committed_of_committedStatements (hds later)) hc
  · exact .inr hcollides

theorem recomposed_content_committed : ∃ d cs ds,
    accentedNote.issue .standard echoSigner default sampleSource = .ok d ∧
    d.recomposed.checkIntegrity .standard sampleSource = .ok () ∧
    (∀ source, d.committedStatements .standard source = .ok cs) ∧
    (∀ source, d.recomposed.committedStatements .standard source = .ok ds) ∧
    (Content.SameTree d.recomposed.content d.content ∧
        d.recomposed.header.terms.contentHashes = d.header.terms.contentHashes ∧
        (∀ c ∈ cs, d.recomposed.nonces.get? c.2.digest = d.nonces.get? c.2.digest) ∨
      HashAlgorithm.sha256.Collides
        (issuedTexts cs d.header.terms ++ issuedTexts ds d.recomposed.header.terms)) := by
  obtain ⟨d, _, hissue, hcheck, -⟩ := recomposed_run
  have hhash : d.recomposed.header.documentHash = d.header.documentHash := rfl
  obtain ⟨cs, ds, hcs, hds, h⟩ := topLevel_content_committed hissue rfl hhash hcheck
  exact ⟨d, cs, ds, hissue, hcheck, hcs, hds, h⟩

def Document.withContent (d : Document) (c : Content) : Document := ⟨d.header, c, d.nonces⟩

theorem checkIntegrity_withContent {d : Document} {p : Protocol} {signer : Signer}
    {cs ds : List (Statement × HashedStatement)} (hd : Issued d p signer cs) {c : Content}
    {source : NonceSource} (hds : (d.withContent c).committedStatements p source = .ok ds)
    (h : ds.map Prod.snd = cs.map Prod.snd) :
    (d.withContent c).checkIntegrity p source = .ok () := by
  refine Document.checkIntegrity_ok_iff.mpr ⟨ds, hds, ?_, hd.documentHash, hd.identifier⟩
  have hsalted := congrArg (List.map HashedStatement.saltedHash) h
  rw [List.map_map, List.map_map] at hsalted
  exact hd.contentHashes.trans (congrArg sortHashes hsalted.symm)

theorem leaf_content_committed {a : Application} {p : Protocol} {signer : Signer}
    {issued : Instant} {source : NonceSource} {d : Document}
    (hissue : a.issue p signer issued source = .ok d) (hsplit : p.decomposition = .leaf)
    {c : Content} {later : NonceSource}
    (hcheck : (d.withContent c).checkIntegrity p later = .ok ()) :
    ∃ cs ds, (∀ source, d.committedStatements p source = .ok cs) ∧
      (∀ source, (d.withContent c).committedStatements p source = .ok ds) ∧
      (List.Forall₂ Statement.Same (ds.map Prod.fst) (cs.map Prod.fst) ∧
          (c.Addressable → d.content.Addressable →
            (Content.SameTree c d.content ↔ Content.SameArrays c d.content)) ∨
        p.hashAlgorithm.Collides
          (issuedTexts cs d.header.terms ++ issuedTexts ds d.header.terms)) := by
  obtain ⟨cs, hd⟩ := issued_of_issue hissue
  have hhash : (d.withContent c).header.documentHash = d.header.documentHash := rfl
  obtain ⟨ds, hds, hrestates⟩ := restates_of_checkIntegrity hd hhash hcheck
  refine ⟨cs, ds, hd.committed, hds, ?_⟩
  rcases hrestates with ⟨-, hrestates⟩ | hcollides
  · have hcontent := decompose_of_committedStatements (hd.committed later)
    have hother := decompose_of_committedStatements (hds later)
    rw [hsplit] at hcontent hother
    have hsame := same_of_meaning (Content.decomposed_of_decompose hother).encoded
      (Content.decomposed_of_decompose hcontent).encoded hrestates.meaning
    exact .inl ⟨hsame, Content.sameTree_iff_sameArrays hother hcontent hrestates.meaning⟩
  · exact .inr hcollides

-- An item of an array and the member of an object whose key is the index have one name.
def leafwise : Protocol := ⟨.sha256, .leaf, 10000, 10000⟩

def indexedNote : Application :=
  noteApplication (.object [("e\u0301", .array [.bool true])])

def indexedContent : Content := .object [("\u00e9", .array [.bool true])]

def keyedContent : Content := .object [("\u00e9", .object [("0", .bool true)])]

theorem indexed_run : ∃ d, indexedNote.issue leafwise echoSigner default sampleSource = .ok d ∧
    ∀ c ∈ [indexedContent, keyedContent],
      (d.withContent c).checkIntegrity leafwise sampleSource = .ok () ∧
      ∀ cs ds, d.committedStatements leafwise sampleSource = .ok cs →
        (d.withContent c).committedStatements leafwise sampleSource = .ok ds →
        ¬HashAlgorithm.sha256.Collides
          (issuedTexts cs d.header.terms ++ issuedTexts ds d.header.terms) := by
  have hrun : yields (indexedNote.issue leafwise echoSigner default sampleSource) (fun d =>
      yields (d.committedStatements leafwise sampleSource) fun cs =>
        decide (cs.flatMap (fun c => [c.2.digest, c.2.saltedHash]) ++
          [d.header.documentHash]).Nodup &&
        [indexedContent, keyedContent].all fun c =>
          yields ((d.withContent c).committedStatements leafwise sampleSource) fun ds =>
            decide (ds.map Prod.snd = cs.map Prod.snd)) = true := by
    decide +kernel
  obtain ⟨d, hissue, hrun⟩ := yields_iff.mp hrun
  obtain ⟨cs, hcs, hrun⟩ := yields_iff.mp hrun
  obtain ⟨hnodup, hrun⟩ := Bool.and_eq_true_iff.mp hrun
  obtain ⟨cs', hd⟩ := issued_of_issue hissue
  cases Except.ok.inj ((hd.committed sampleSource).symm.trans hcs)
  have hfree := not_collides_of_nodup hd (of_decide_eq_true hnodup)
  refine ⟨d, hissue, fun c hc => ?_⟩
  obtain ⟨ds, hds, hhashed⟩ := yields_iff.mp (List.all_eq_true.mp hrun c hc)
  have hhashed := of_decide_eq_true hhashed
  refine ⟨checkIntegrity_withContent hd hds hhashed, ?_⟩
  intro cs' ds' hcs' hds'
  cases Except.ok.inj (hcs.symm.trans hcs')
  cases Except.ok.inj (hds.symm.trans hds')
  rw [issuedTexts_of_hashed _ hhashed]
  rintro ⟨x, hx, y, hy, hxy⟩
  exact hfree ⟨x, by simpa using hx, y, by simpa using hy, hxy⟩

theorem indexed_content_committed : ∃ d,
    indexedNote.issue leafwise echoSigner default sampleSource = .ok d ∧
    ∀ c ∈ [indexedContent, keyedContent],
      (d.withContent c).checkIntegrity leafwise sampleSource = .ok () ∧
      ∃ cs ds, (∀ source, d.committedStatements leafwise source = .ok cs) ∧
        (∀ source, (d.withContent c).committedStatements leafwise source = .ok ds) ∧
        (List.Forall₂ Statement.Same (ds.map Prod.fst) (cs.map Prod.fst) ∧
            (c.Addressable → d.content.Addressable →
              (Content.SameTree c d.content ↔ Content.SameArrays c d.content)) ∨
          HashAlgorithm.sha256.Collides
            (issuedTexts cs d.header.terms ++ issuedTexts ds d.header.terms)) := by
  obtain ⟨d, hissue, hrun⟩ := indexed_run
  refine ⟨d, hissue, fun c hc => ?_⟩
  obtain ⟨hcheck, -⟩ := hrun c hc
  exact ⟨hcheck, leaf_content_committed hissue rfl hcheck⟩

theorem keyed_content_replaces_items :
    ¬∀ (a : Application) (p : Protocol) (signer : Signer) (issued : Instant) (source : NonceSource)
      (d : Document) (c : Content) (later : NonceSource),
      a.issue p signer issued source = .ok d → p.decomposition = .leaf →
      (d.withContent c).checkIntegrity p later = .ok () →
      ∃ cs ds, (∀ source, d.committedStatements p source = .ok cs) ∧
        (∀ source, (d.withContent c).committedStatements p source = .ok ds) ∧
        (Content.SameTree c d.content ∨
          p.hashAlgorithm.Collides
            (issuedTexts cs d.header.terms ++ issuedTexts ds d.header.terms)) := by
  intro h
  obtain ⟨d, hissue, hrun⟩ := indexed_run
  obtain ⟨hcheck, hfree⟩ := hrun keyedContent (by simp)
  obtain ⟨cs, ds, hcs, hds, hsame | hcollides⟩ :=
    h indexedNote leafwise echoSigner default sampleSource d keyedContent sampleSource hissue rfl
      hcheck
  · obtain ⟨_, _, hfrom⟩ := issuedFrom_of_issue hissue
    rw [hfrom.content] at hsame
    obtain ⟨f, hf, hvalue⟩ :=
      (Content.sameTree_object_iff.mp hsame).exists_mem (List.mem_cons_self ..)
    rw [List.mem_singleton.mp hf] at hvalue
    cases hvalue
  · exact hfree cs ds (hcs sampleSource) (hds sampleSource) hcollides

end SelectiveDisclosure
