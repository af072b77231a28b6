import SelectiveDisclosure.Proofs.Content.Depth
import SelectiveDisclosure.Proofs.Content.SameTree

namespace SelectiveDisclosure

def Tree.members : Tree → List (String × Tree)
  | .object es => es
  | .array ts => Content.indexed ts
  | _ => []

namespace Content

theorem mem_indexed_indexText_iff {α : Type} {xs : List α} {i : Nat} {x : α} :
    (indexText i, x) ∈ indexed xs ↔ xs[i]? = some x := by
  rw [mem_indexed_iff]
  constructor
  · rintro ⟨j, hj, hx⟩
    rwa [indexText_inj hj]
  · intro hx
    exact ⟨i, rfl, hx⟩

theorem eq_of_indexed_perm {α : Type} {xs ys : List α} (h : (indexed xs).Perm (indexed ys)) :
    xs = ys := by
  refine List.ext_getElem? fun i => Option.ext fun x => ?_
  rw [← mem_indexed_indexText_iff, ← mem_indexed_indexText_iff, h.mem_iff]

theorem nodup_indexed {α : Type} (xs : List α) : ((indexed xs).map Prod.fst).Nodup := by
  rw [List.nodup_iff_injective_getElem]
  rintro ⟨i, hi⟩ ⟨j, hj⟩ h
  simp only [indexed, List.getElem_map, List.getElem_mapIdx] at h
  exact Fin.ext (indexText_inj h)

theorem map_indexed {α β : Type} (f : α → β) (xs : List α) :
    (indexed xs).map (fun m => (m.1, f m.2)) = indexed (xs.map f) := by
  refine List.ext_getElem? fun i => ?_
  simp [indexed, Function.comp_def]

section

variable {c d : Content} (hc : Normalizes c)

include hc

theorem normalizes_of_mem_members {m : String × Content} (hm : m ∈ c.members) :
    Normalizes m.2 := by
  cases c with
  | object es =>
    obtain ⟨e, he, rfl⟩ := List.mem_map.mp hm
    exact (normalizes_object hc).2 e he
  | array vs =>
    obtain ⟨i, -, hi⟩ := mem_indexed_iff.mp hm
    exact normalizes_array hc _ (List.mem_of_getElem? hi)
  | string s => cases hm
  | number n => cases hm
  | bool b => cases hm

theorem nodup_members : (c.members.map Prod.fst).Nodup := by
  cases c with
  | object es =>
    rw [members, List.map_map]
    exact (normalizes_object hc).1
  | array vs => exact nodup_indexed vs
  | string s => exact List.nodup_nil
  | number n => exact List.nodup_nil
  | bool b => exact List.nodup_nil

theorem member_unique {part : String} {v w : Content} (hv : (part, v) ∈ c.members)
    (hw : (part, w) ∈ c.members) : v = w :=
  congrArg Prod.snd (List.inj_on_of_nodup_map (nodup_members hc) hv hw rfl)

theorem members_perm :
    (c.members.map fun m => (m.1, m.2.normalForm)).Perm c.normalForm.members := by
  cases c with
  | object es =>
    rw [members, List.map_map]
    exact (normalEntries_nil_perm (normalizes_object hc).1).symm
  | array vs =>
    rw [normalForm, normalItems_eq_map]
    exact List.Perm.of_eq (map_indexed normalForm vs)
  | string s => exact .refl _
  | number n => exact .refl _
  | bool b => exact .refl _

theorem mem_normalForm_members {part : String} {t : Tree} :
    (part, t) ∈ c.normalForm.members ↔ ∃ v, (part, v) ∈ c.members ∧ v.normalForm = t := by
  rw [← (members_perm hc).mem_iff, List.mem_map]
  constructor
  · rintro ⟨m, hm, heq⟩
    obtain ⟨rfl, rfl⟩ := Prod.mk.inj heq
    exact ⟨m.2, hm, rfl⟩
  · rintro ⟨v, hv, rfl⟩
    exact ⟨(part, v), hv, rfl⟩

theorem nodup_normalForm_members : c.normalForm.members.Nodup := by
  refine (members_perm hc).nodup_iff.mp (List.Nodup.of_map Prod.fst ?_)
  rw [List.map_map]
  exact nodup_members hc

theorem at_of_equivalent (hd : Normalizes d) (h : Equivalent c d) {path : List String}
    {m n : Content} (hm : At c path m) (hn : At d path n) : Equivalent m n := by
  induction hm generalizing d with
  | root c =>
    rw [at_nil_iff.mp hn]
    exact h
  | step hv _ ih =>
    obtain ⟨w, hw, hn⟩ := at_cons_iff.mp hn
    obtain ⟨w', hw', hvw⟩ := (mem_normalForm_members hd).mp
      (congrArg Tree.members h ▸ (mem_normalForm_members hc).mpr ⟨_, hv, rfl⟩)
    rw [member_unique hd hw' hw] at hvw
    exact ih (normalizes_of_mem_members hc hv) (normalizes_of_mem_members hd hw) hvw.symm hn

end

def HasLeaf (c : Content) (path : List String) (t : Tree) : Prop :=
  ∃ n, At c path n ∧ n.IsLeaf ∧ n.normalForm = t

def SameLeaves (c d : Content) : Prop := ∀ path t, HasLeaf c path t ↔ HasLeaf d path t

-- A path that only one of the two has says nothing.
def SameArrays (c d : Content) : Prop :=
  ∀ path m n, At c path m → At d path n → (m.kind = .array ↔ n.kind = .array)

theorem hasLeaf_cons_iff {c : Content} {part : String} {path : List String} {t : Tree} :
    HasLeaf c (part :: path) t ↔ ∃ v, (part, v) ∈ c.members ∧ HasLeaf v path t := by
  constructor
  · rintro ⟨n, hat, hn⟩
    obtain ⟨v, hv, hat⟩ := at_cons_iff.mp hat
    exact ⟨v, hv, n, hat, hn⟩
  · rintro ⟨v, hv, n, hat, hn⟩
    exact ⟨n, .step hv hat, hn⟩

theorem hasLeaf_root {c : Content} (hc : c.IsLeaf) : HasLeaf c [] c.normalForm :=
  ⟨c, .root c, hc, rfl⟩

theorem eq_of_hasLeaf_root {c : Content} {t : Tree} (h : HasLeaf c [] t) : c.normalForm = t := by
  obtain ⟨n, hat, -, hn⟩ := h
  rw [← hn, at_nil_iff.mp hat]

theorem exists_hasLeaf (c : Content) : ∃ path t, HasLeaf c path t := by
  obtain ⟨l, hl⟩ := List.exists_mem_of_ne_nil _ (leafPaths_ne_nil c)
  obtain ⟨hat, hleaf⟩ := mem_leafPaths_iff.mp hl
  exact ⟨l.1, _, l.2, hat, hleaf, rfl⟩

theorem SameLeaves.symm {c d : Content} (h : SameLeaves c d) : SameLeaves d c :=
  fun path t => (h path t).symm

theorem SameLeaves.exists_member {c d : Content} (h : SameLeaves c d) {part : String} {v : Content}
    (hv : (part, v) ∈ c.members) : ∃ w, (part, w) ∈ d.members := by
  obtain ⟨path, t, hleaf⟩ := exists_hasLeaf v
  obtain ⟨w, hw, -⟩ := hasLeaf_cons_iff.mp ((h _ t).mp (hasLeaf_cons_iff.mpr ⟨v, hv, hleaf⟩))
  exact ⟨w, hw⟩

theorem sameArrays_of_equivalent {c d : Content} (hc : Normalizes c) (hd : Normalizes d)
    (h : Equivalent c d) : SameArrays c d := by
  intro path m n hm hn
  rw [kind_eq_of_equivalent (at_of_equivalent hc hd h hm hn)]

section

variable {c d : Content} (hc : Normalizes c) (hd : Normalizes d)

include hc hd

theorem SameLeaves.member (h : SameLeaves c d) {part : String} {v w : Content}
    (hv : (part, v) ∈ c.members) (hw : (part, w) ∈ d.members) : SameLeaves v w := by
  intro path t
  constructor
  · intro hleaf
    obtain ⟨x, hx, hleaf⟩ :=
      hasLeaf_cons_iff.mp ((h _ t).mp (hasLeaf_cons_iff.mpr ⟨v, hv, hleaf⟩))
    rwa [member_unique hd hw hx]
  · intro hleaf
    obtain ⟨x, hx, hleaf⟩ :=
      hasLeaf_cons_iff.mp ((h _ t).mpr (hasLeaf_cons_iff.mpr ⟨w, hw, hleaf⟩))
    rwa [member_unique hc hv hx]

theorem equivalent_of_members (hcleaf : ¬c.IsLeaf) (hdleaf : ¬d.IsLeaf)
    (harray : c.kind = .array ↔ d.kind = .array)
    (h : ∀ m, m ∈ c.normalForm.members ↔ m ∈ d.normalForm.members) : Equivalent c d := by
  have hperm := (List.perm_ext_iff_of_nodup (nodup_normalForm_members hc)
    (nodup_normalForm_members hd)).mpr h
  cases c with
  | object es =>
    cases d with
    | object fs =>
      have hentries := eq_of_perm_of_ascending (ascending_normalEntries List.Pairwise.nil)
        (ascending_normalEntries List.Pairwise.nil) hperm
      rw [Equivalent, normalForm, normalForm, hentries]
    | array ws => cases harray.mpr rfl
    | _ => exact absurd rfl hdleaf
  | array vs =>
    cases d with
    | object fs => cases harray.mp rfl
    | array ws =>
      rw [Equivalent, normalForm, normalForm, eq_of_indexed_perm hperm]
    | _ => exact absurd rfl hdleaf
  | _ => exact absurd rfl hcleaf

end

theorem equivalent_of_sameLeaves {c d : Content} (hc : Normalizes c) (hd : Normalizes d)
    (harrays : SameArrays c d) (h : SameLeaves c d) : Equivalent c d := by
  induction c using membersInduction generalizing d with
  | node c ih =>
    -- a leaf has the empty path, which only a leaf has
    by_cases hcleaf : c.IsLeaf
    · exact (eq_of_hasLeaf_root ((h _ _).mp (hasLeaf_root hcleaf))).symm
    by_cases hdleaf : d.IsLeaf
    · exact eq_of_hasLeaf_root ((h _ _).mpr (hasLeaf_root hdleaf))
    have hpair : ∀ {part v w}, (part, v) ∈ c.members → (part, w) ∈ d.members → Equivalent v w := by
      intro part v w hv hw
      refine ih _ hv (normalizes_of_mem_members hc hv) (normalizes_of_mem_members hd hw) ?_
        (h.member hc hd hv hw)
      exact fun path m n hm hn => harrays (part :: path) m n (.step hv hm) (.step hw hn)
    refine equivalent_of_members hc hd hcleaf hdleaf (harrays [] c d (.root c) (.root d)) ?_
    rintro ⟨part, t⟩
    rw [mem_normalForm_members hc, mem_normalForm_members hd]
    constructor
    · rintro ⟨v, hv, rfl⟩
      obtain ⟨w, hw⟩ := h.exists_member hv
      exact ⟨w, hw, (hpair hv hw).symm⟩
    · rintro ⟨w, hw, rfl⟩
      obtain ⟨v, hv⟩ := h.symm.exists_member hw
      exact ⟨v, hv, hpair hv hw⟩

-- Being cut into leaves does not take either, as long as the names of the leaves differ.
structure Addressable (c : Content) : Prop where
  apart : ∀ path es, At c path (.object es) → (normalKeys es).Nodup
  undotted : ∀ path es, At c path (.object es) → ∀ k ∈ normalKeys es, '.' ∉ k.toList

theorem Addressable.member {c v : Content} {part : String} (h : Addressable c)
    (hv : (part, v) ∈ c.members) : Addressable v :=
  ⟨fun path es hat => h.apart (part :: path) es (.step hv hat),
    fun path es hat => h.undotted (part :: path) es (.step hv hat)⟩

theorem Addressable.part_undotted {c v : Content} {part : String} (h : Addressable c)
    (hv : (part, v) ∈ c.members) : '.' ∉ part.toList := by
  cases c with
  | object es =>
    obtain ⟨e, he, heq⟩ := List.mem_map.mp hv
    rw [← (Prod.mk.inj heq).1]
    exact h.undotted [] es (.root _) _ (List.mem_map_of_mem he)
  | array vs =>
    obtain ⟨i, hi, -⟩ := mem_indexed_iff.mp hv
    rw [hi]
    exact indexText_undotted i
  | _ => cases hv

theorem Addressable.path_undotted {c n : Content} (h : Addressable c) {path : List String}
    (hat : At c path n) : ∀ part ∈ path, '.' ∉ part.toList := by
  induction hat with
  | root c => exact List.forall_mem_nil _
  | step hv _ ih => exact List.forall_mem_cons.mpr ⟨h.part_undotted hv, ih (h.member hv)⟩

theorem Addressable.leaf_undotted {c : Content} (h : Addressable c) {path : List String} {t : Tree}
    (hleaf : HasLeaf c path t) : ∀ part ∈ path, '.' ∉ part.toList := by
  obtain ⟨n, hat, -⟩ := hleaf
  exact h.path_undotted hat

end Content

def Statement.meaning (s : Statement) : String × Tree := (s.name, s.value.normalForm)

structure Statement.Same (s t : Statement) : Prop where
  name : s.name = t.name
  value : Content.SameTree s.value t.value

theorem Statement.normalizes {s : Statement} (h : encodeStatement s.name s.value = .ok s.encoded) :
    Content.Normalizes s.value :=
  (Content.normalizes_object (Content.normalizes_of_encode h)).2 _ (List.mem_cons_self ..)

theorem same_of_meaning {ss ts : List Statement}
    (hss : ∀ s ∈ ss, encodeStatement s.name s.value = .ok s.encoded)
    (hts : ∀ t ∈ ts, encodeStatement t.name t.value = .ok t.encoded)
    (h : ss.map Statement.meaning = ts.map Statement.meaning) :
    List.Forall₂ Statement.Same ss ts := by
  induction ss generalizing ts with
  | nil =>
    rw [List.map_eq_nil_iff.mp h.symm]
    exact .nil
  | cons s ss ih =>
    cases ts with
    | nil => cases h
    | cons t ts =>
      obtain ⟨hs, hss⟩ := List.forall_mem_cons.mp hss
      obtain ⟨ht, hts⟩ := List.forall_mem_cons.mp hts
      obtain ⟨hhead, htail⟩ := List.cons.inj h
      obtain ⟨hname, hvalue⟩ := Prod.mk.inj hhead
      have hsame := (Content.sameTree_iff_equivalent (Statement.normalizes hs)
        (Statement.normalizes ht)).mpr hvalue
      exact .cons ⟨hname, hsame⟩ (ih hss hts htail)

namespace Content

theorem meaning_perm {named : List (String × Content)} {ss : List Statement}
    (h : named.Perm (ss.map fun s => (s.name, s.value))) :
    (named.map fun e => (e.1, e.2.normalForm)).Perm (ss.map Statement.meaning) := by
  have hmap := h.map fun e => (e.1, e.2.normalForm)
  rw [List.map_map] at hmap
  exact hmap

theorem topLevel_spec {c : Content} {ss : List Statement} (h : c.decompose .topLevel = .ok ss) :
    ∃ es, c = .object es ∧ (normalMembers es).Perm (ss.map Statement.meaning) ∧
      ∀ e ∈ es, Normalizes e.2 := by
  have hencoded := (decomposed_of_decompose h).encoded
  obtain ⟨es, named, rfl, hparts, hperm⟩ := decompose_spec h
  rw [parts_topLevel_eq, List.map_inj_right fun _ _ => Option.some.inj] at hparts
  rw [← hparts, members] at hperm
  refine ⟨es, rfl, ?_, fun e he => ?_⟩
  · have hmap := meaning_perm hperm
    rw [List.map_map] at hmap
    exact hmap
  · obtain ⟨s, hs, heq⟩ := List.mem_map.mp (hperm.subset (List.mem_map_of_mem he))
    rw [← (Prod.mk.inj heq).2]
    exact Statement.normalizes (hencoded s hs)

theorem sameTree_of_meaning {c d : Content} {ss ts : List Statement}
    (hc : c.decompose .topLevel = .ok ss) (hd : d.decompose .topLevel = .ok ts)
    (h : ss.map Statement.meaning = ts.map Statement.meaning) : SameTree c d := by
  obtain ⟨es, rfl, hes, hees⟩ := topLevel_spec hc
  obtain ⟨fs, rfl, hfs, hffs⟩ := topLevel_spec hd
  have hentries := sameEntries_iff fun e he f hf => sameTree_iff_equivalent (hees e he) (hffs f hf)
  exact .object (hentries.mpr (hes.trans (h ▸ hfs.symm)))

section

variable {c d : Content} {ss ts : List Statement} (hc : c.decompose .leaf = .ok ss)

include hc

theorem mem_meaning_iff {name : String} {t : Tree} : (name, t) ∈ ss.map Statement.meaning ↔
    ∃ path, path ≠ [] ∧ HasLeaf c path t ∧ pathName path = name := by
  obtain ⟨es, named, rfl, hparts, hperm⟩ := decompose_spec hc
  have hnone : none ∉ parts .leaf es := by simp [hparts]
  have hmem : (name, t) ∈ ss.map Statement.meaning ↔
      ∃ n, some (name, n) ∈ parts .leaf es ∧ n.normalForm = t := by
    rw [← (meaning_perm hperm).mem_iff, hparts]
    simp
  rw [hmem]
  simp only [mem_parts_leaf_iff hnone]
  constructor
  · rintro ⟨n, ⟨path, hne, hat, hn, hname⟩, ht⟩
    exact ⟨path, hne, ⟨n, hat, hn, ht⟩, hname⟩
  · rintro ⟨path, hne, ⟨n, hat, hn, ht⟩, hname⟩
    exact ⟨n, ⟨path, hne, hat, hn, hname⟩, ht⟩

theorem not_isLeaf_of_decompose : ¬c.IsLeaf := by
  intro hleaf
  obtain ⟨s, rest, hss⟩ := List.exists_cons_of_ne_nil (decomposed_of_decompose hc).ne_nil
  have hs : (s.name, s.value.normalForm) ∈ ss.map Statement.meaning :=
    List.mem_map_of_mem (hss ▸ List.mem_cons_self ..)
  obtain ⟨path, hne, ⟨n, hat, -⟩, -⟩ := (mem_meaning_iff hc).mp hs
  exact hne ((at_of_isLeaf hleaf).mp hat).1

theorem normalizes_of_decompose (h : Addressable c) : Normalizes c :=
  ⟨0, normalizeAt_ok_iff.mpr ⟨shallow_of_decompose hc, h.apart⟩⟩

theorem hasLeaf_of_meaning (hd : d.decompose .leaf = .ok ts)
    (h : ss.map Statement.meaning = ts.map Statement.meaning) (hca : Addressable c)
    (hda : Addressable d) {path : List String} {t : Tree} (hleaf : HasLeaf c path t) :
    HasLeaf d path t := by
  have hne : path ≠ [] := by
    rintro rfl
    obtain ⟨n, hat, hn, -⟩ := hleaf
    exact not_isLeaf_of_decompose hc (at_nil_iff.mp hat ▸ hn)
  have hmem := (mem_meaning_iff hc).mpr ⟨path, hne, hleaf, rfl⟩
  rw [h] at hmem
  obtain ⟨path', hne', hleaf', hname⟩ := (mem_meaning_iff hd).mp hmem
  rwa [← pathName_inj hne' (hda.leaf_undotted hleaf') hne (hca.leaf_undotted hleaf) hname]

end

theorem sameTree_iff_sameArrays {c d : Content} {ss ts : List Statement}
    (hc : c.decompose .leaf = .ok ss) (hd : d.decompose .leaf = .ok ts)
    (h : ss.map Statement.meaning = ts.map Statement.meaning) (hca : Addressable c)
    (hda : Addressable d) : SameTree c d ↔ SameArrays c d := by
  have hcn := normalizes_of_decompose hc hca
  have hdn := normalizes_of_decompose hd hda
  have hleaves : SameLeaves c d := fun path t =>
    ⟨hasLeaf_of_meaning hc hd h hca hda, hasLeaf_of_meaning hd hc h.symm hda hca⟩
  rw [sameTree_iff_equivalent hcn hdn]
  constructor
  · exact sameArrays_of_equivalent hcn hdn
  · exact fun harrays => equivalent_of_sameLeaves hcn hdn harrays hleaves

-- A key with a full stop in it has a name that a path of two parts has too.
example : parts .leaf [("a.b", .bool true)] = parts .leaf [("a", .object [("b", .bool true)])] := rfl

end Content

end SelectiveDisclosure
