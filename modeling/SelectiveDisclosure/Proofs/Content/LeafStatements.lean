import SelectiveDisclosure.Proofs.Content.Decomposition

namespace SelectiveDisclosure

namespace Content

def namedLeaves (c : Content) : List (String × Content) :=
  c.leafPaths.map fun l => (pathName l.1, l.2)

theorem parts_leaf_eq_namedLeaves {es : List (String × Content)} (hes : es ≠ [])
    (h : (object es).Shallow 0) : parts .leaf es = (object es).namedLeaves.map some := by
  have hnode : ¬(object es).IsLeaf := mt List.map_eq_nil_iff.mp hes
  rw [namedLeaves, List.map_map, parts_leaf_eq, leafPaths_of_not_isLeaf hnode, List.map_flatMap]
  refine List.flatMap_congr fun m hm => ?_
  have hbelow : none ∉ leaves m.1 1 m.2 := none_notMem_leaves_iff.mpr ((shallow_iff.mp h).2 m hm)
  rw [leaves_eq_leafPaths hbelow, pathsUnder, List.map_map]
  rfl

theorem namedLeaves_of_decompose {c : Content} {statements : List Statement}
    (h : c.decompose .leaf = .ok statements) :
    (statements.map fun s => (s.name, s.value)).Perm c.namedLeaves ∧
      (c.namedLeaves.map Prod.fst).Nodup ∧ ∃ e es, c = object (e :: es) := by
  obtain ⟨es, named, rfl, hparts, hperm⟩ := decompose_spec h
  have hascending := (decomposed_of_decompose h).ascending
  cases es with
  | nil =>
    cases List.map_eq_nil_iff.mp hparts.symm
    cases List.map_eq_nil_iff.mp hperm.nil_eq.symm
    exact absurd rfl (decomposed_of_decompose h).ne_nil
  | cons e es =>
    rw [parts_leaf_eq_namedLeaves (List.cons_ne_nil _ _) (shallow_of_decompose h),
      List.map_inj_right fun _ _ => Option.some.inj] at hparts
    rw [hparts]
    refine ⟨hperm.symm, ?_, e, es, rfl⟩
    rw [(hperm.map Prod.fst).nodup_iff, List.map_map]
    exact nodup_of_ascending (List.pairwise_map.mpr (List.pairwise_map.mp hascending))

theorem decompose_leaf_ok_iff {c : Content} :
    (∃ statements, c.decompose .leaf = .ok statements) ↔
      (∃ e es, c = .object (e :: es)) ∧ c.Shallow 0 ∧ (c.namedLeaves.map Prod.fst).Nodup := by
  constructor
  · rintro ⟨statements, h⟩
    obtain ⟨-, hnames, hsome⟩ := namedLeaves_of_decompose h
    exact ⟨hsome, shallow_of_decompose h, hnames⟩
  · rintro ⟨⟨e, es, rfl⟩, hshallow, hnames⟩
    have hparts := parts_leaf_eq_namedLeaves (List.cons_ne_nil e es) hshallow
    have hne : (object (e :: es)).namedLeaves ≠ [] := mt List.map_eq_nil_iff.mp (leafPaths_ne_nil _)
    refine decompose_ok_iff.mpr ⟨_, hparts, hne, hnames, fun part hpart => ?_⟩
    obtain ⟨l, hl, rfl⟩ := List.mem_map.mp hpart
    exact normalizeAt_of_isLeaf (mem_leafPaths_iff.mp hl).2 (by decide)

theorem leaf_statements (c : Content) :
    ((∃ statements, c.decompose .leaf = .ok statements) ↔
      (∃ e es, c = .object (e :: es)) ∧ (∀ path n, At c path n → path.length ≤ 64) ∧
        (c.namedLeaves.map Prod.fst).Nodup) ∧
    ∀ statements, c.decompose .leaf = .ok statements →
      (statements.map fun s => (s.name, s.value)).Perm c.namedLeaves ∧
      (∀ s ∈ statements, (object [(s.name, s.value)]).encode = .ok s.encoded) ∧
      (statements.map Statement.name).Pairwise fun m n => compare m n = .lt := by
  constructor
  · rw [decompose_leaf_ok_iff, shallow_iff_at]
    simp only [Nat.zero_add, maxDepth]
  · intro statements h
    exact ⟨(namedLeaves_of_decompose h).1, (decomposed_of_decompose h).encoded,
      (decomposed_of_decompose h).ascending⟩

def mixed : Content :=
  .object [("tags", .array [.bool true, .object []]), ("e\u0301", .bool false)]

theorem mixed_run : ∃ statements, mixed.decompose .leaf = .ok statements ∧
    statements.map Statement.name = ["tags.0", "tags.1", "\u00e9"] ∧
    ∃ text, mixed.encode = .ok text := by
  have hrun : yields (mixed.decompose .leaf) (fun statements =>
      statements.map Statement.name = ["tags.0", "tags.1", "\u00e9"] &&
        yields mixed.encode fun _ => true) = true := by
    decide +kernel
  obtain ⟨statements, h, hrun⟩ := yields_iff.mp hrun
  rw [Bool.and_eq_true, decide_eq_true_iff, yields_iff] at hrun
  obtain ⟨hnames, text, htext, -⟩ := hrun
  exact ⟨statements, h, hnames, text, htext⟩

theorem mixed_leaf_statements : ∃ statements, mixed.decompose .leaf = .ok statements ∧
    (statements.map fun s => (s.name, s.value)).Perm mixed.namedLeaves ∧
    statements.map Statement.name = ["tags.0", "tags.1", "\u00e9"] := by
  obtain ⟨statements, h, hnames, -⟩ := mixed_run
  exact ⟨statements, h, ((leaf_statements mixed).2 statements h).1, hnames⟩

def namesUnder (path : List String) (e : String × Content) : List String :=
  e.2.leafPaths.map fun l => pathName (path ++ Text.normalize e.1 :: l.1)

def CollisionsMeet (c : Content) : Prop :=
  ∀ path es, At c path (.object es) → es.Pairwise fun e f =>
    Text.normalize e.1 = Text.normalize f.1 → ∃ name ∈ namesUnder path e, name ∈ namesUnder path f

theorem leafPaths_sublist {c n : Content} {path : List String} (h : At c path n) :
    (n.leafPaths.map fun l => (path ++ l.1, l.2)).Sublist c.leafPaths := by
  induction h with
  | root c => exact (List.map_id c.leafPaths).symm ▸ List.Sublist.refl _
  | @step c v n part path hm hat ih =>
    have hnode : ¬c.IsLeaf := List.ne_nil_of_mem hm
    have hunder := ih.map fun l => (part :: l.1, l.2)
    rw [List.map_map] at hunder
    rw [leafPaths_of_not_isLeaf hnode]
    exact hunder.trans (List.sublist_flatten_of_mem (List.mem_map_of_mem hm))

theorem disjoint_namesUnder {c : Content} (hnames : (c.namedLeaves.map Prod.fst).Nodup)
    {path : List String} {es : List (String × Content)} (hat : At c path (.object es)) :
    es.Pairwise fun e f => (namesUnder path e).Disjoint (namesUnder path f) := by
  cases es with
  | nil => exact List.Pairwise.nil
  | cons e es =>
    have hnode : ¬(object (e :: es)).IsLeaf := List.cons_ne_nil _ _
    -- the names below this object are among those of the whole content, entry by entry
    have hbelow := (leafPaths_sublist hat).map fun l => pathName l.1
    have hflat : (object (e :: es)).leafPaths.map (fun l => pathName (path ++ l.1)) =
        (e :: es).flatMap (namesUnder path) := by
      rw [leafPaths_of_not_isLeaf hnode, members, List.flatMap_map, List.map_flatMap]
      refine List.flatMap_congr fun e _ => ?_
      rw [pathsUnder, List.map_map]
      rfl
    rw [namedLeaves, List.map_map] at hnames
    rw [List.map_map] at hbelow
    exact (List.nodup_flatMap.mp (hflat ▸ hnames.sublist hbelow)).2

theorem keysApart_of_collisionsMeet {c : Content} (hnames : (c.namedLeaves.map Prod.fst).Nodup)
    (h : c.CollisionsMeet) : c.KeysApart := by
  intro path es hat
  refine List.pairwise_map.mpr ((h path es hat).imp₂ ?_ (disjoint_namesUnder hnames hat))
  rintro e f hmeet hdisjoint heq
  obtain ⟨name, he, hf⟩ := hmeet heq
  exact hdisjoint he hf

theorem collisionsMeet_of_keysApart {c : Content} (h : c.KeysApart) : c.CollisionsMeet :=
  fun path es hat => (List.pairwise_map.mp (h path es hat)).imp fun hne heq => absurd heq hne

theorem decomposed_keys_apart_iff {c : Content} {d : Decomposition} {statements : List Statement}
    (h : c.decompose d = .ok statements) :
    (c.KeysApart ↔ ∃ text, c.encode = .ok text) ∧
      (c.KeysApart ↔ (d = .leaf → c.CollisionsMeet)) := by
  have hencoded : c.KeysApart ↔ ∃ text, c.encode = .ok text := by
    rw [encode_ok_iff, normalizeAt_ok_iff, and_iff_right (shallow_of_decompose h)]
  refine ⟨hencoded, fun hapart _ => collisionsMeet_of_keysApart hapart, fun hmeet => ?_⟩
  cases d with
  | topLevel => exact hencoded.mpr (decompose_topLevel_ok_iff.mp ⟨statements, h⟩).2
  | leaf => exact keysApart_of_collisionsMeet (namedLeaves_of_decompose h).2.1 (hmeet rfl)

-- With a leaf of one name below both keys they are noticed.
example : yields ((object [("e\u0301", .object [("a", .bool true)]),
    ("\u00e9", .object [("a", .bool true)])]).decompose .leaf) (fun _ => true) = false := by
  decide +kernel

theorem mixed_keys_apart : ∃ statements, mixed.decompose .leaf = .ok statements ∧
    mixed.KeysApart ∧ mixed.CollisionsMeet := by
  obtain ⟨statements, h, -, hencoded⟩ := mixed_run
  obtain ⟨hiff, hmeet⟩ := decomposed_keys_apart_iff h
  exact ⟨statements, h, hiff.mpr hencoded, hmeet.mp (hiff.mpr hencoded) rfl⟩

def accentedKeys : Content :=
  .object [("e\u0301", .object [("a", .bool true)]), ("\u00e9", .object [("b", .bool true)])]

theorem accented_keys_not_refused :
    ¬∀ (c : Content) (d : Decomposition) (statements : List Statement),
      c.decompose d = .ok statements → c.KeysApart ∧ ∃ text, c.encode = .ok text := by
  intro h
  have hrun : yields (accentedKeys.decompose .leaf) (fun _ =>
      !yields accentedKeys.encode fun _ => true) = true := by
    decide +kernel
  obtain ⟨statements, hstatements, hrun⟩ := yields_iff.mp hrun
  obtain ⟨-, text, htext⟩ := h _ _ statements hstatements
  rw [htext] at hrun
  exact Bool.false_ne_true hrun

end Content

end SelectiveDisclosure
