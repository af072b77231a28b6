import SelectiveDisclosure.Proofs.Content.Equivalence
import SelectiveDisclosure.Proofs.Number.Numeral
import SelectiveDisclosure.Proofs.Statement
import SelectiveDisclosure.Proofs.Text.Composition

namespace SelectiveDisclosure

namespace Content

theorem indexText_inj {i j : Nat} (h : indexText i = indexText j) : i = j :=
  Digits.decimal_inj (String.ofList_inj.mp h)

theorem digit_undotted : ∀ d < 10, Digits.char d ≠ '.' := by decide

theorem indexText_undotted (i : Nat) : '.' ∉ (indexText i).toList := by
  rw [indexText, String.toList_ofList, Digits.decimal_eq_map]
  intro hmem
  obtain ⟨d, hd, hchar⟩ := List.mem_map.mp hmem
  exact digit_undotted d ((Digits.run_decimalDigits i).lt d hd) hchar

theorem normalize_indexText (i : Nat) : Text.normalize (indexText i) = indexText i := by
  refine Text.normalize_of_lt fun c hc => ?_
  rw [indexText, String.toList_ofList] at hc
  exact Number.lt_of_isNumeral ((Number.isNumeral_decimal i).2 c hc)

def indexed {α : Type} (xs : List α) : List (String × α) := xs.mapIdx fun i x => (indexText i, x)

theorem mem_indexed_iff {α : Type} {xs : List α} {part : String} {x : α} :
    (part, x) ∈ indexed xs ↔ ∃ i, part = indexText i ∧ xs[i]? = some x := by
  rw [indexed, List.mem_mapIdx]
  constructor
  · rintro ⟨i, hi, heq⟩
    obtain ⟨rfl, rfl⟩ := Prod.mk.inj heq
    exact ⟨i, rfl, List.getElem?_eq_getElem hi⟩
  · rintro ⟨i, rfl, h⟩
    obtain ⟨hi, hx⟩ := List.getElem?_eq_some_iff.mp h
    exact ⟨i, hi, by rw [hx]⟩

def members : Content → List (String × Content)
  | .object es => es.map fun e => (Text.normalize e.1, e.2)
  | .array vs => indexed vs
  | _ => []

theorem mem_members_object {es : List (String × Content)} {e : String × Content} (he : e ∈ es) :
    (Text.normalize e.1, e.2) ∈ (object es).members :=
  List.mem_map_of_mem he

@[elab_as_elim]
theorem membersInduction {P : Content → Prop} (node : ∀ c, (∀ m ∈ c.members, P m.2) → P c)
    (c : Content) : P c := by
  induction c using Content.induction with
  | object es ih =>
    refine node _ fun m hm => ?_
    obtain ⟨e, he, rfl⟩ := List.mem_map.mp hm
    exact ih e he
  | array vs ih =>
    refine node _ fun m hm => ?_
    obtain ⟨i, -, hi⟩ := mem_indexed_iff.mp hm
    exact ih _ (List.mem_of_getElem? hi)
  | string s => exact node _ (List.forall_mem_nil _)
  | number n => exact node _ (List.forall_mem_nil _)
  | bool b => exact node _ (List.forall_mem_nil _)

theorem normalize_of_mem_members {c v : Content} {part : String} (h : (part, v) ∈ c.members) :
    Text.normalize part = part := by
  cases c with
  | object es =>
    obtain ⟨e, -, he⟩ := List.mem_map.mp h
    rw [← (Prod.mk.inj he).1]
    exact Text.normalize_normalize e.1
  | array vs =>
    obtain ⟨i, hi, -⟩ := mem_indexed_iff.mp h
    rw [hi]
    exact normalize_indexText i
  | string s => cases h
  | number n => cases h
  | bool b => cases h

inductive At : Content → List String → Content → Prop
  | root (c : Content) : At c [] c
  | step {c v n : Content} {part : String} {path : List String} : (part, v) ∈ c.members →
      At v path n → At c (part :: path) n

theorem at_nil_iff {c n : Content} : At c [] n ↔ n = c := by
  constructor
  · rintro ⟨⟩
    rfl
  · rintro rfl
    exact .root n

theorem at_cons_iff {c n : Content} {part : String} {path : List String} :
    At c (part :: path) n ↔ ∃ v, (part, v) ∈ c.members ∧ At v path n := by
  constructor
  · rintro (- | ⟨hmem, hat⟩)
    exact ⟨_, hmem, hat⟩
  · rintro ⟨v, hmem, hat⟩
    exact .step hmem hat

theorem normalize_of_mem_path {c n : Content} {path : List String} (h : At c path n) :
    ∀ part ∈ path, Text.normalize part = part := by
  induction h with
  | root c => exact List.forall_mem_nil _
  | step hmem _ ih => exact List.forall_mem_cons.mpr ⟨normalize_of_mem_members hmem, ih⟩

def IsLeaf (c : Content) : Prop := c.members = []

theorem at_of_isLeaf {c n : Content} (hc : c.IsLeaf) {path : List String} :
    At c path n ↔ path = [] ∧ n = c := by
  cases path with
  | nil => rw [at_nil_iff, and_iff_right rfl]
  | cons part path =>
    refine iff_of_false ?_ ?_
    · rw [at_cons_iff, hc]
      rintro ⟨_, hmem, -⟩
      cases hmem
    · rintro ⟨h, -⟩
      cases h

-- Where keys meet in normalization two leaves have one path, and it is listed twice.
mutual

def leafPaths : Content → List (List String × Content)
  | .object (e :: es) => entryPaths (e :: es)
  | .array (v :: vs) => itemPaths 0 (v :: vs)
  | leaf => [([], leaf)]

def entryPaths : List (String × Content) → List (List String × Content)
  | [] => []
  | (k, v) :: es => (leafPaths v).map (fun l => (Text.normalize k :: l.1, l.2)) ++ entryPaths es

def itemPaths (i : Nat) : List Content → List (List String × Content)
  | [] => []
  | v :: vs => (leafPaths v).map (fun l => (indexText i :: l.1, l.2)) ++ itemPaths (i + 1) vs

end

def pathsUnder (m : String × Content) : List (List String × Content) :=
  m.2.leafPaths.map fun l => (m.1 :: l.1, l.2)

theorem entryPaths_eq (es : List (String × Content)) :
    entryPaths es = (object es).members.flatMap pathsUnder := by
  rw [members, List.flatMap_map]
  induction es with
  | nil => rfl
  | cons e es ih =>
    rw [entryPaths, ih, List.flatMap_cons]
    rfl

theorem itemPaths_eq (i : Nat) (vs : List Content) :
    itemPaths i vs = (vs.mapIdx fun j v => (indexText (j + i), v)).flatMap pathsUnder := by
  induction vs generalizing i with
  | nil => rfl
  | cons v vs ih =>
    rw [itemPaths, ih, List.mapIdx_cons, List.flatMap_cons, Nat.zero_add]
    simp only [Nat.add_assoc, Nat.add_comm 1]
    rfl

theorem leafPaths_of_isLeaf {c : Content} (hc : c.IsLeaf) : c.leafPaths = [([], c)] := by
  cases c with
  | object es =>
    cases List.map_eq_nil_iff.mp hc
    rfl
  | array vs =>
    cases List.mapIdx_eq_nil_iff.mp hc
    rfl
  | _ => rfl

theorem leafPaths_of_not_isLeaf {c : Content} (hc : ¬c.IsLeaf) :
    c.leafPaths = c.members.flatMap pathsUnder := by
  cases c with
  | object es =>
    cases es with
    | nil => exact absurd rfl hc
    | cons e es => exact entryPaths_eq (e :: es)
  | array vs =>
    cases vs with
    | nil => exact absurd rfl hc
    | cons v vs => exact itemPaths_eq 0 (v :: vs)
  | _ => exact absurd rfl hc

theorem mem_leafPaths_iff {c n : Content} {path : List String} :
    (path, n) ∈ c.leafPaths ↔ At c path n ∧ n.IsLeaf := by
  induction c using membersInduction generalizing path with
  | node c ih =>
    by_cases hc : c.IsLeaf
    · rw [leafPaths_of_isLeaf hc, at_of_isLeaf hc, List.mem_singleton, Prod.mk.injEq]
      refine ⟨fun h => ⟨h, h.2 ▸ hc⟩, And.left⟩
    · rw [leafPaths_of_not_isLeaf hc, List.mem_flatMap]
      constructor
      · rintro ⟨m, hm, hmem⟩
        obtain ⟨l, hl, heq⟩ := List.mem_map.mp hmem
        obtain ⟨rfl, rfl⟩ := Prod.mk.inj heq
        obtain ⟨hat, hleaf⟩ := (ih m hm).mp hl
        exact ⟨.step hm hat, hleaf⟩
      · rintro ⟨hat, hleaf⟩
        cases hat with
        | root => exact absurd hleaf hc
        | step hm hat =>
          exact ⟨_, hm, List.mem_map.mpr ⟨_, (ih _ hm).mpr ⟨hat, hleaf⟩, rfl⟩⟩

theorem leafPaths_ne_nil (c : Content) : c.leafPaths ≠ [] := by
  induction c using membersInduction with
  | node c ih =>
    by_cases hc : c.IsLeaf
    · rw [leafPaths_of_isLeaf hc]
      exact List.cons_ne_nil _ _
    · obtain ⟨m, hm⟩ := List.exists_mem_of_ne_nil _ hc
      rw [leafPaths_of_not_isLeaf hc, ne_eq, List.flatMap_eq_nil_iff]
      exact fun hnil => ih m hm (List.map_eq_nil_iff.mp (hnil m hm))

theorem entryLeaves_eq (path : String) (depth : Nat) (es : List (String × Content)) :
    entryLeaves path depth es =
      (object es).members.flatMap fun m => leaves (joinPath path m.1) depth m.2 := by
  rw [members, List.flatMap_map]
  induction es with
  | nil => rfl
  | cons e es ih => rw [entryLeaves, ih, List.flatMap_cons]

theorem itemLeaves_eq (path : String) (depth i : Nat) (vs : List Content) :
    itemLeaves path depth i vs = (vs.mapIdx fun j v => (indexText (j + i), v)).flatMap fun m =>
      leaves (joinPath path m.1) depth m.2 := by
  induction vs generalizing i with
  | nil => rfl
  | cons v vs ih =>
    rw [itemLeaves, ih, List.mapIdx_cons, List.flatMap_cons, Nat.zero_add]
    simp only [Nat.add_assoc, Nat.add_comm 1]

theorem leaves_eq (path : String) (depth : Nat) (c : Content) : leaves path depth c =
    if depth ≤ maxDepth then
      if c.members.isEmpty then [some (path, c)]
      else c.members.flatMap fun m => leaves (joinPath path m.1) (depth + 1) m.2
    else [none] := by
  cases c with
  | object es =>
    cases es with
    | nil => rfl
    | cons e es =>
      rw [← entryLeaves_eq]
      rfl
  | array vs =>
    cases vs with
    | nil => rfl
    | cons v vs =>
      have hitems := itemLeaves_eq path (depth + 1) 0 (v :: vs)
      have hsome : (array (v :: vs)).members.isEmpty = false := by
        rw [members, indexed, List.mapIdx_cons]
        rfl
      simp only [Nat.add_zero] at hitems
      rw [hsome, members, indexed, ← hitems]
      rfl
  | string s => rfl
  | number n => rfl
  | bool b => rfl

theorem none_notMem_leaves {c : Content} {path : String} {depth : Nat}
    (h : none ∉ leaves path depth c) :
    depth ≤ maxDepth ∧ ∀ m ∈ c.members, none ∉ leaves (joinPath path m.1) (depth + 1) m.2 := by
  rw [leaves_eq] at h
  split at h
  · rename_i hdepth
    refine ⟨hdepth, fun m hm hnone => h ?_⟩
    have hsome : ¬c.members.isEmpty = true :=
      fun hempty => List.ne_nil_of_mem hm (List.isEmpty_iff.mp hempty)
    rw [if_neg hsome]
    exact List.mem_flatMap.mpr ⟨m, hm, hnone⟩
  · exact absurd (List.mem_singleton_self none) h

theorem leaves_eq_leafPaths {c : Content} {path : String} {depth : Nat}
    (h : none ∉ leaves path depth c) :
    leaves path depth c = c.leafPaths.map fun l => some (l.1.foldl joinPath path, l.2) := by
  induction c using membersInduction generalizing path depth with
  | node c ih =>
    obtain ⟨hdepth, hmembers⟩ := none_notMem_leaves h
    rw [leaves_eq, if_pos hdepth]
    by_cases hc : c.IsLeaf
    · rw [if_pos (List.isEmpty_iff.mpr hc), leafPaths_of_isLeaf hc]
      rfl
    · rw [if_neg (mt List.isEmpty_iff.mp hc), leafPaths_of_not_isLeaf hc, List.map_flatMap]
      refine List.flatMap_congr fun m hm => ?_
      rw [ih m hm (hmembers m hm), pathsUnder, List.map_map]
      rfl

theorem mem_leaves_iff {c : Content} {path : String} {depth : Nat}
    (h : none ∉ leaves path depth c) {name : String} {n : Content} :
    some (name, n) ∈ leaves path depth c ↔
      ∃ parts, At c parts n ∧ n.IsLeaf ∧ parts.foldl joinPath path = name := by
  rw [leaves_eq_leafPaths h, List.mem_map]
  constructor
  · rintro ⟨l, hl, heq⟩
    obtain ⟨rfl, rfl⟩ := Prod.mk.inj (Option.some.inj heq)
    obtain ⟨hat, hleaf⟩ := mem_leafPaths_iff.mp hl
    exact ⟨l.1, hat, hleaf, rfl⟩
  · rintro ⟨parts, hat, hleaf, rfl⟩
    exact ⟨(parts, n), mem_leafPaths_iff.mpr ⟨hat, hleaf⟩, rfl⟩

def pathName : List String → String
  | [] => ""
  | part :: parts => parts.foldl joinPath part

theorem toList_joinPath (path part : String) :
    (joinPath path part).toList = path.toList ++ '.' :: part.toList := by
  rw [joinPath, String.toList_append, String.toList_append, List.append_assoc]
  rfl

theorem toList_foldl_joinPath (path : String) (parts : List String) :
    (parts.foldl joinPath path).toList = ['.'].intercalate ((path :: parts).map String.toList) := by
  induction parts generalizing path with
  | nil => rw [List.foldl_nil, List.map_singleton, List.intercalate_singleton]
  | cons part parts ih =>
    rw [List.foldl_cons, ih]
    cases parts with
    | nil => simp [toList_joinPath]
    | cons next parts => simp [toList_joinPath]

theorem splitOn_pathName {path : List String} (hne : path ≠ [])
    (hpath : ∀ part ∈ path, '.' ∉ part.toList) :
    (pathName path).toList.splitOn '.' = path.map String.toList := by
  cases path with
  | nil => exact absurd rfl hne
  | cons part parts =>
    rw [pathName, toList_foldl_joinPath]
    refine List.splitOn_intercalate '.' ?_ (List.cons_ne_nil _ _)
    exact List.forall_mem_map.mpr hpath

theorem pathName_inj {ps qs : List String} (hp : ps ≠ []) (hps : ∀ p ∈ ps, '.' ∉ p.toList)
    (hq : qs ≠ []) (hqs : ∀ q ∈ qs, '.' ∉ q.toList) (h : pathName ps = pathName qs) : ps = qs := by
  have hsplit : ps.map String.toList = qs.map String.toList := by
    rw [← splitOn_pathName hp hps, h, splitOn_pathName hq hqs]
  exact (List.map_inj_right fun _ _ => String.toList_inj.mp).mp hsplit

theorem normalize_joinPath {path part : String} (hpath : Text.normalize path = path)
    (hpart : Text.normalize part = part) :
    Text.normalize (joinPath path part) = joinPath path part := by
  have hstop := Text.composePair?_of_lt_angle (a := '.') (by decide)
  have hchars : ∀ {s : String}, Text.normalize s = s → Text.normalizeChars s.toList = s.toList := by
    intro s hs
    rw [← String.toList_ofList (l := Text.normalizeChars s.toList)]
    exact congrArg String.toList hs
  rw [Text.normalize, toList_joinPath, Text.normalizeChars_append_of_unpaired hstop (by decide),
    hchars hpath, hchars hpart, ← toList_joinPath, String.ofList_toList]

theorem normalize_pathName {path : List String} (h : ∀ part ∈ path, Text.normalize part = part) :
    Text.normalize (pathName path) = pathName path := by
  cases path with
  | nil => rfl
  | cons first parts =>
    obtain ⟨hfirst, hparts⟩ := List.forall_mem_cons.mp h
    rw [pathName]
    clear h
    induction parts generalizing first with
    | nil => exact hfirst
    | cons part parts ih =>
      obtain ⟨hpart, hparts⟩ := List.forall_mem_cons.mp hparts
      exact ih _ (normalize_joinPath hfirst hpart) hparts

theorem parts_topLevel_eq (es : List (String × Content)) :
    parts .topLevel es = (object es).members.map some := by
  rw [members, List.map_map]
  rfl

theorem parts_leaf_eq (es : List (String × Content)) :
    parts .leaf es = (object es).members.flatMap fun m => leaves m.1 1 m.2 := by
  rw [members, List.flatMap_map]
  rfl

theorem mem_parts_leaf_iff {es : List (String × Content)} (h : none ∉ parts .leaf es)
    {name : String} {n : Content} : some (name, n) ∈ parts .leaf es ↔
      ∃ path, path ≠ [] ∧ At (object es) path n ∧ n.IsLeaf ∧ pathName path = name := by
  rw [parts_leaf_eq] at h ⊢
  have hmember : ∀ m ∈ (object es).members, some (name, n) ∈ leaves m.1 1 m.2 ↔
      ∃ parts, At m.2 parts n ∧ n.IsLeaf ∧ parts.foldl joinPath m.1 = name :=
    fun m hm => mem_leaves_iff fun hnone => h (List.mem_flatMap.mpr ⟨m, hm, hnone⟩)
  rw [List.mem_flatMap]
  constructor
  · rintro ⟨m, hm, hleaf⟩
    obtain ⟨parts, hat, hn, hname⟩ := (hmember m hm).mp hleaf
    exact ⟨m.1 :: parts, List.cons_ne_nil _ _, .step hm hat, hn, hname⟩
  · rintro ⟨path, hne, hat, hn, hname⟩
    cases hat with
    | root => exact absurd rfl hne
    | step hmem hat => exact ⟨_, hmem, (hmember _ hmem).mpr ⟨_, hat, hn, hname⟩⟩

theorem normalize_of_mem_parts {d : Decomposition} {es : List (String × Content)}
    (h : none ∉ parts d es) {name : String} {n : Content} (hmem : some (name, n) ∈ parts d es) :
    Text.normalize name = name := by
  cases d with
  | topLevel =>
    obtain ⟨e, -, he⟩ := List.mem_map.mp hmem
    rw [← (Prod.mk.inj (Option.some.inj he)).1]
    exact Text.normalize_normalize e.1
  | leaf =>
    obtain ⟨path, -, hat, -, hname⟩ := (mem_parts_leaf_iff h).mp hmem
    rw [← hname]
    exact normalize_pathName (normalize_of_mem_path hat)

theorem normalize_of_decompose {c : Content} {d : Decomposition} {statements : List Statement}
    (h : c.decompose d = .ok statements) {s : Statement} (hs : s ∈ statements) :
    Text.normalize s.name = s.name := by
  obtain ⟨es, named, rfl, hparts, hperm⟩ := decompose_spec h
  have hnone : none ∉ parts d es := by simp [hparts]
  have hmem : some (s.name, s.value) ∈ parts d es := by
    rw [hparts]
    exact List.mem_map_of_mem (hperm.mem_iff.mpr (List.mem_map_of_mem hs))
  exact normalize_of_mem_parts hnone hmem

end Content

end SelectiveDisclosure
