import SelectiveDisclosure.Proofs.Content.LeafStatements
import SelectiveDisclosure.Proofs.Integrity
import SelectiveDisclosure.Proofs.Recomposition
import SelectiveDisclosure.Proofs.Reproduction

namespace SelectiveDisclosure

namespace Content

theorem decompose_leaf_of_flat {c : Content} (h : ∀ m ∈ c.members, m.2.IsLeaf) :
    c.decompose .leaf = c.decompose .topLevel := by
  cases c with
  | object es =>
    have hparts : parts .leaf es = parts .topLevel es := by
      rw [parts_leaf_eq, parts_topLevel_eq, List.map_eq_flatMap]
      refine List.flatMap_congr fun m hm => ?_
      rw [leaves_eq, if_pos (by decide), if_pos (List.isEmpty_iff.mpr (h m hm))]
    rw [decompose, decompose, hparts]
  | _ => rfl

theorem members_perm_of_decompose {c : Content} {statements : List Statement}
    (h : c.decompose .topLevel = .ok statements) :
    (statements.map fun s => (s.name, s.value)).Perm c.members := by
  obtain ⟨es, named, rfl, hparts, hperm⟩ := decompose_spec h
  rw [parts_topLevel_eq, List.map_inj_right fun _ _ => Option.some.inj] at hparts
  rw [hparts]
  exact hperm.symm

theorem isLeaf_iff_of_encoded {s t : Statement} (hs : encodeStatement s.name s.value = .ok s.encoded)
    (ht : encodeStatement t.name t.value = .ok t.encoded) (h : s.encoded = t.encoded) :
    s.value.IsLeaf ↔ t.value.IsLeaf :=
  isLeaf_iff_of_equivalent
    ⟨1, encodeStatement_ok_iff (e := (s.name, s.value)).mp ⟨_, hs⟩⟩
    ⟨1, encodeStatement_ok_iff (e := (t.name, t.value)).mp ⟨_, ht⟩⟩
    ((encodeStatement_eq_iff hs ht).mp h).2

section

variable {c : Content} {tops leaves : List Statement} (htops : c.decompose .topLevel = .ok tops)
  (hleaves : c.decompose .leaf = .ok leaves) {m : String × Content} (hm : m ∈ c.members)
  (hnode : ¬m.2.IsLeaf)

include htops hleaves hm hnode

-- The value of the member has something below it, and no leaf has.
theorem exists_top_apart : ∃ t ∈ tops, ∀ l ∈ leaves, t.encoded ≠ l.encoded := by
  obtain ⟨t, ht, heq⟩ := List.mem_map.mp ((members_perm_of_decompose htops).symm.subset hm)
  refine ⟨t, ht, fun l hl hencoded => hnode ?_⟩
  obtain ⟨hperm, -⟩ := namedLeaves_of_decompose hleaves
  obtain ⟨path, hpath, hleaf⟩ := List.mem_map.mp (hperm.subset (List.mem_map_of_mem hl))
  have hvalue : l.value.IsLeaf := by
    rw [← (Prod.mk.inj hleaf).2]
    exact (mem_leafPaths_iff.mp hpath).2
  have htop := (isLeaf_iff_of_encoded ((decomposed_of_decompose htops).encoded t ht)
    ((decomposed_of_decompose hleaves).encoded l hl) hencoded).mpr hvalue
  rwa [← (Prod.mk.inj heq).2]

-- A leaf below the member. A top level value with its text would be a leaf of the same name, though a key
-- with full stops in it may look like the path.
theorem exists_leaf_apart : ∃ l ∈ leaves, ∀ t ∈ tops, l.encoded ≠ t.encoded := by
  obtain ⟨hperm, hnames, -⟩ := namedLeaves_of_decompose hleaves
  have hroot : ¬c.IsLeaf := List.ne_nil_of_mem hm
  obtain ⟨⟨path, n⟩, hbelow⟩ := List.exists_mem_of_ne_nil _ (leafPaths_ne_nil m.2)
  have hpath : (m.1 :: path, n) ∈ c.leafPaths := by
    rw [leafPaths_of_not_isLeaf hroot]
    exact List.mem_flatMap.mpr ⟨m, hm, List.mem_map.mpr ⟨_, hbelow, rfl⟩⟩
  obtain ⟨l, hl, heq⟩ := List.mem_map.mp
    (hperm.symm.subset (List.mem_map_of_mem (f := fun l => (pathName l.1, l.2)) hpath))
  obtain ⟨hname, hvalue⟩ := Prod.mk.inj heq
  refine ⟨l, hl, fun t ht hencoded => hnode ?_⟩
  have hlencoded := (decomposed_of_decompose hleaves).encoded l hl
  have htencoded := (decomposed_of_decompose htops).encoded t ht
  have hleaf : t.value.IsLeaf := by
    refine (isLeaf_iff_of_encoded hlencoded htencoded hencoded).mp ?_
    rw [hvalue]
    exact (mem_leafPaths_iff.mp hpath).2
  have hnamed : t.name = pathName (m.1 :: path) := by
    rw [← normalize_of_decompose htops ht, ← hname, ← normalize_of_decompose hleaves hl]
    exact ((encodeStatement_eq_iff hlencoded htencoded).mp hencoded).1.symm
  have htop : ([t.name], t.value) ∈ c.leafPaths :=
    mem_leafPaths_iff.mpr ⟨.step ((members_perm_of_decompose htops).subset (List.mem_map_of_mem ht))
      (.root t.value), hleaf⟩
  rw [namedLeaves, List.map_map] at hnames
  have hsame := List.inj_on_of_nodup_map hnames hpath htop hnamed.symm
  cases (List.cons.inj (Prod.mk.inj hsame).1).2
  have hroot := at_nil_iff.mp (mem_leafPaths_iff.mp hbelow).1
  exact hroot ▸ (mem_leafPaths_iff.mp hbelow).2

end

theorem exists_apart {c : Content} {p q : Decomposition} {statements others : List Statement}
    (hp : c.decompose p = .ok statements) (hq : c.decompose q = .ok others) (hne : q ≠ p)
    {m : String × Content} (hm : m ∈ c.members) (hnode : ¬m.2.IsLeaf) :
    ∃ t ∈ others, ∀ s ∈ statements, t.encoded ≠ s.encoded := by
  cases p with
  | topLevel =>
    cases q with
    | topLevel => exact absurd rfl hne
    | leaf => exact exists_leaf_apart hp hq hm hnode
  | leaf =>
    cases q with
    | topLevel => exact exists_top_apart hq hp hm hnode
    | leaf => exact absurd rfl hne

theorem decompose_of_flat {c : Content} (h : ∀ m ∈ c.members, m.2.IsLeaf) (p q : Decomposition) :
    c.decompose q = c.decompose p := by
  cases p <;> cases q <;> simp only [decompose_leaf_of_flat h]

theorem decompose_eq_iff {c : Content} {p q : Decomposition} {statements : List Statement}
    (h : c.decompose p = .ok statements) :
    c.decompose q = c.decompose p ↔ q = p ∨ ∀ m ∈ c.members, m.2.IsLeaf := by
  constructor
  · intro heq
    by_cases hne : q = p
    · exact .inl hne
    · refine .inr fun m hm => ?_
      by_contra hnode
      obtain ⟨t, ht, hapart⟩ := exists_apart h (heq.trans h) hne hm hnode
      exact hapart t ht rfl
  · rintro (rfl | hflat)
    · rfl
    · exact decompose_of_flat hflat p q

def texts (d : Decomposition) (c : Content) : List String :=
  ((c.decompose d).toOption.getD []).map Statement.encoded

theorem texts_of_decompose {c : Content} {d : Decomposition} {statements : List Statement}
    (h : c.decompose d = .ok statements) : c.texts d = statements.map Statement.encoded := by
  rw [texts, h]
  rfl

end Content

theorem Document.committedStatements_missing {d : Document} {p : Protocol}
    {statements : List Statement} (hd : d.content.decompose p.decomposition = .ok statements)
    {s : Statement} (hs : s ∈ statements) (hnone : d.nonces.get? (p.hasher s.encoded none) = none)
    (source : NonceSource) :
    ∃ missing ∈ statements, d.nonces.get? (p.hasher missing.encoded none) = none ∧
      d.committedStatements p source = .error (.missingNonce (p.hasher missing.encoded none)) := by
  cases hfind : statements.find? fun t => !d.nonces.contains (p.hasher t.encoded none) with
  | none => exact absurd (SortedMap.not_contains_iff.mpr hnone) (List.find?_eq_none.mp hfind s hs)
  | some missing =>
    have hmissed := List.find?_some hfind
    exact ⟨missing, List.mem_of_find?_eq_some hfind, SortedMap.not_contains_iff.mp hmissed,
      committedStatements_of_find? hd hfind source⟩

structure Document.UnfitFor (d : Document) (q : Protocol) (later : NonceSource) : Prop where
  invalidContent : ∀ e, d.content.decompose q.decomposition = .error e →
    d.checkIntegrity q later = .error (.invalidContent e)
  missingNonce : ∀ statements, d.content.decompose q.decomposition = .ok statements →
    ∃ s ∈ statements, d.nonces.get? (q.hasher s.encoded none) = none ∧
      d.checkIntegrity q later = .error (.missingNonce (q.hasher s.encoded none))

theorem Document.unfit_of_missing {d : Document} {q : Protocol} {later : NonceSource}
    (h : ∀ statements, d.content.decompose q.decomposition = .ok statements →
      ∃ s ∈ statements, d.nonces.get? (q.hasher s.encoded none) = none) : d.UnfitFor q later where
  invalidContent e he := by
    rw [checkIntegrity, committedStatements, he]
    rfl
  missingNonce statements hstatements := by
    obtain ⟨s, hs, hnone⟩ := h statements hstatements
    obtain ⟨missing, hmissing, hnone, herror⟩ :=
      committedStatements_missing hstatements hs hnone later
    exact ⟨missing, hmissing, hnone, bind_error_iff.mpr (.inl herror)⟩

theorem Document.UnfitFor.checkIntegrity_ne {d : Document} {q : Protocol} {later : NonceSource}
    (h : d.UnfitFor q later) : d.checkIntegrity q later ≠ .ok () := by
  intro hok
  cases hdecomposed : d.content.decompose q.decomposition with
  | error e => cases hok.symm.trans (h.invalidContent e hdecomposed)
  | ok statements =>
    obtain ⟨s, -, -, herror⟩ := h.missingNonce statements hdecomposed
    cases hok.symm.trans herror

theorem Document.checkIntegrity_congr {d : Document} {p q : Protocol}
    (halgorithm : q.hashAlgorithm = p.hashAlgorithm)
    (h : d.content.decompose q.decomposition = d.content.decompose p.decomposition)
    (source : NonceSource) : d.checkIntegrity q source = d.checkIntegrity p source := by
  have hhasher : q.hasher = p.hasher := congrArg HashAlgorithm.hasher halgorithm
  rw [checkIntegrity, checkIntegrity, committedStatements, committedStatements, hhasher, h]

section

variable {a : Application} {p : Protocol} {signer : Signer} {issued : Instant}
  {source : NonceSource} {statements : List Statement} {hashed : List HashedStatement}
  {d : Document} (h : IssuedFrom a p signer issued source statements hashed d)

include h

theorem IssuedFrom.decompose_content : d.content.decompose p.decomposition = .ok statements :=
  h.content ▸ h.decomposed

theorem IssuedFrom.mem_texts_of_recorded {digest : Hash} (hsome : d.nonces.get? digest ≠ none) :
    ∃ x ∈ d.content.texts p.decomposition, p.hasher x none = digest := by
  obtain ⟨nonce, hnonce⟩ := Option.ne_none_iff_exists'.mp hsome
  have hkey : digest ∈ d.nonces.keys :=
    List.mem_map.mpr ⟨_, SortedMap.get?_eq_some_iff.mp hnonce, rfl⟩
  obtain ⟨s, hs, hdigest⟩ := List.mem_map.mp (h.keys_perm.subset hkey)
  rw [Content.texts_of_decompose h.decompose_content]
  exact ⟨s.encoded, List.mem_map_of_mem hs, hdigest⟩

variable {q : Protocol} (later : NonceSource)

theorem IssuedFrom.unfit_or_collides (halgorithm : q.hashAlgorithm = p.hashAlgorithm)
    (hother : d.content.decompose q.decomposition ≠ d.content.decompose p.decomposition) :
    d.UnfitFor q later ∨ p.hashAlgorithm.Collides
      (d.content.texts p.decomposition ++ d.content.texts q.decomposition) := by
  by_cases hfree : p.hashAlgorithm.Collides
    (d.content.texts p.decomposition ++ d.content.texts q.decomposition)
  · exact .inr hfree
  refine .inl (Document.unfit_of_missing fun others hothers => ?_)
  obtain ⟨hne, hnode⟩ :=
    not_or.mp (mt (Content.decompose_eq_iff h.decompose_content).mpr hother)
  push Not at hnode
  obtain ⟨m, hm, hnode⟩ := hnode
  obtain ⟨t, ht, hapart⟩ := Content.exists_apart h.decompose_content hothers hne hm hnode
  refine ⟨t, ht, ?_⟩
  by_contra hsome
  obtain ⟨x, hx, hdigest⟩ := h.mem_texts_of_recorded hsome
  have htext : t.encoded ∈ d.content.texts q.decomposition := by
    rw [Content.texts_of_decompose hothers]
    exact List.mem_map_of_mem ht
  have hne : x ≠ t.encoded := by
    rintro rfl
    rw [Content.texts_of_decompose h.decompose_content] at hx
    obtain ⟨s, hs, heq⟩ := List.mem_map.mp hx
    exact hapart s hs heq.symm
  refine hfree ⟨x, List.mem_append_left _ hx, _, List.mem_append_right _ htext, hne, ?_⟩
  rwa [Protocol.hasher, Protocol.hasher, halgorithm] at hdigest

theorem IssuedFrom.unfit_or_coincide : d.UnfitFor q later ∨
    ∃ x ∈ d.content.texts p.decomposition, ∃ y ∈ d.content.texts q.decomposition,
      p.hasher x none = q.hasher y none := by
  by_cases hmeet : ∃ x ∈ d.content.texts p.decomposition, ∃ y ∈ d.content.texts q.decomposition,
      p.hasher x none = q.hasher y none
  · exact .inr hmeet
  refine .inl (Document.unfit_of_missing fun others hothers => ?_)
  obtain ⟨t, ht⟩ := List.exists_mem_of_ne_nil _ (Content.decomposed_of_decompose hothers).ne_nil
  refine ⟨t, ht, ?_⟩
  by_contra hsome
  obtain ⟨x, hx, hdigest⟩ := h.mem_texts_of_recorded hsome
  refine hmeet ⟨x, hx, t.encoded, ?_, hdigest⟩
  rw [Content.texts_of_decompose hothers]
  exact List.mem_map_of_mem ht

end

theorem other_configuration_unfit {a : Application} {p : Protocol} {signer : Signer}
    {issued : Instant} {source : NonceSource} {d : Document}
    (hissue : a.issue p signer issued source = .ok d) (q : Protocol) (later : NonceSource) :
    (d.content.decompose q.decomposition = d.content.decompose p.decomposition ↔
      q.decomposition = p.decomposition ∨ ∀ m ∈ d.content.members, m.2.IsLeaf) ∧
    (q.hashAlgorithm = p.hashAlgorithm →
      (d.content.decompose q.decomposition = d.content.decompose p.decomposition →
        d.checkIntegrity q later = .ok ()) ∧
      (d.content.decompose q.decomposition ≠ d.content.decompose p.decomposition →
        d.checkIntegrity q later ≠ .ok () ∧ d.UnfitFor q later ∨
        p.hashAlgorithm.Collides
          (d.content.texts p.decomposition ++ d.content.texts q.decomposition))) ∧
    (q.hashAlgorithm ≠ p.hashAlgorithm →
      d.checkIntegrity q later ≠ .ok () ∧ d.UnfitFor q later ∨
      ∃ x ∈ d.content.texts p.decomposition, ∃ y ∈ d.content.texts q.decomposition,
        p.hasher x none = q.hasher y none) := by
  obtain ⟨statements, hashed, h⟩ := issuedFrom_of_issue hissue
  have hunfit : d.UnfitFor q later → d.checkIntegrity q later ≠ .ok () ∧ d.UnfitFor q later :=
    fun hunfit => ⟨hunfit.checkIntegrity_ne, hunfit⟩
  refine ⟨Content.decompose_eq_iff h.decompose_content, fun halgorithm => ⟨?_, ?_⟩, ?_⟩
  · intro hsame
    exact (Document.checkIntegrity_congr halgorithm hsame later).trans (h.issued.checkIntegrity later)
  · intro hother
    exact (h.unfit_or_collides later halgorithm hother).imp_left hunfit
  · intro _
    exact (h.unfit_or_coincide later).imp_left hunfit

theorem accented_other_configuration_unfit : ∃ d,
    accentedNote.issue .standard echoSigner default sampleSource = .ok d ∧
    (d.checkIntegrity leafwise sampleSource ≠ .ok () ∧ d.UnfitFor leafwise sampleSource ∨
      HashAlgorithm.sha256.Collides (d.content.texts .topLevel ++ d.content.texts .leaf)) ∧
    (d.checkIntegrity ⟨.blake3, .topLevel, 0, 0⟩ sampleSource ≠ .ok () ∧
        d.UnfitFor ⟨.blake3, .topLevel, 0, 0⟩ sampleSource ∨
      ∃ x ∈ d.content.texts .topLevel, ∃ y ∈ d.content.texts .topLevel,
        HashAlgorithm.sha256.hasher x none = HashAlgorithm.blake3.hasher y none) := by
  obtain ⟨d, -, hissue, -⟩ := recomposed_run
  obtain ⟨_, _, hfrom⟩ := issuedFrom_of_issue hissue
  obtain ⟨hiff, hsame, -⟩ := other_configuration_unfit hissue leafwise sampleSource
  obtain ⟨-, -, hother⟩ := other_configuration_unfit hissue ⟨.blake3, .topLevel, 0, 0⟩ sampleSource
  have hne : d.content.decompose .leaf ≠ d.content.decompose .topLevel := by
    refine mt hiff.mp ?_
    rw [hfrom.content]
    rintro (h | h)
    · cases h
    · cases h _ (List.mem_cons_self ..)
  exact ⟨d, hissue, (hsame rfl).2 hne, hother (by decide)⟩

end SelectiveDisclosure
