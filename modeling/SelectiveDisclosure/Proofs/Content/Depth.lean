import SelectiveDisclosure.Proofs.Content.Paths
import SelectiveDisclosure.Proofs.Json.Order

namespace SelectiveDisclosure

namespace Content

theorem itemsOfJson_ok_iff {vs : List Content} {depth : Nat} :
    itemsOfJson depth (itemsToJson vs) = .ok vs ↔ ∀ v ∈ vs, v.Shallow depth := by
  induction vs with
  | nil => exact iff_of_true rfl (List.forall_mem_nil _)
  | cons v vs ih =>
    rw [List.forall_mem_cons, ← ih, itemsToJson, itemsOfJson]
    constructor
    · intro h
      obtain ⟨c, hc, h⟩ := bind_ok_iff.mp h
      obtain ⟨cs, hcs, h⟩ := bind_ok_iff.mp h
      obtain ⟨rfl, rfl⟩ := List.cons.inj (return_ok_iff.mp h)
      exact ⟨hc, hcs⟩
    · rintro ⟨hv, hvs⟩
      exact bind_ok_iff.mpr ⟨v, hv, bind_ok_iff.mpr ⟨vs, hvs, rfl⟩⟩

theorem entriesOfJson_ok_iff {es : List (String × Content)} {depth : Nat} :
    entriesOfJson depth (entriesToJson es) = .ok es ↔ ∀ e ∈ es, e.2.Shallow depth := by
  induction es with
  | nil => exact iff_of_true rfl (List.forall_mem_nil _)
  | cons e es ih =>
    obtain ⟨k, v⟩ := e
    rw [List.forall_mem_cons, ← ih, entriesToJson, entriesOfJson]
    constructor
    · intro h
      obtain ⟨c, hc, h⟩ := bind_ok_iff.mp h
      obtain ⟨fs, hfs, h⟩ := bind_ok_iff.mp h
      cases return_ok_iff.mp h
      exact ⟨hc, hfs⟩
    · rintro ⟨hv, hes⟩
      exact bind_ok_iff.mpr ⟨v, hv, bind_ok_iff.mpr ⟨es, hes, rfl⟩⟩

theorem forall_mem_indexed {α : Type} {xs : List α} {P : α → Prop} :
    (∀ m ∈ indexed xs, P m.2) ↔ ∀ x ∈ xs, P x := by
  constructor
  · intro h x hx
    obtain ⟨i, hi⟩ := List.mem_iff_getElem?.mp hx
    exact h (indexText i, x) (mem_indexed_iff.mpr ⟨i, rfl, hi⟩)
  · intro h m hm
    obtain ⟨i, -, hi⟩ := mem_indexed_iff.mp hm
    exact h m.2 (List.mem_of_getElem? hi)

theorem shallow_object_iff {es : List (String × Content)} {depth : Nat} :
    (object es).Shallow depth ↔ depth ≤ maxDepth ∧ ∀ e ∈ es, e.2.Shallow (depth + 1) := by
  rw [← checkDepth_ok_iff, ← entriesOfJson_ok_iff]
  constructor
  · intro h
    obtain ⟨⟨⟩, hdepth, h⟩ := bind_ok_iff.mp h
    obtain ⟨fs, hfs, h⟩ := bind_ok_iff.mp h
    cases return_ok_iff.mp h
    exact ⟨hdepth, hfs⟩
  · rintro ⟨hdepth, hes⟩
    exact bind_ok_iff.mpr ⟨(), hdepth, bind_ok_iff.mpr ⟨es, hes, rfl⟩⟩

theorem shallow_array_iff {vs : List Content} {depth : Nat} :
    (array vs).Shallow depth ↔ depth ≤ maxDepth ∧ ∀ v ∈ vs, v.Shallow (depth + 1) := by
  rw [← checkDepth_ok_iff, ← itemsOfJson_ok_iff]
  constructor
  · intro h
    obtain ⟨⟨⟩, hdepth, h⟩ := bind_ok_iff.mp h
    obtain ⟨cs, hcs, h⟩ := bind_ok_iff.mp h
    cases return_ok_iff.mp h
    exact ⟨hdepth, hcs⟩
  · rintro ⟨hdepth, hvs⟩
    exact bind_ok_iff.mpr ⟨(), hdepth, bind_ok_iff.mpr ⟨vs, hvs, rfl⟩⟩

theorem checked_eq_iff {depth : Nat} {c : Content} :
    (do checkDepth depth; return c) = Except.ok c ↔ depth ≤ maxDepth := by
  rw [← checkDepth_ok_iff]
  constructor
  · intro h
    obtain ⟨⟨⟩, hdepth, -⟩ := bind_ok_iff.mp h
    exact hdepth
  · exact fun hdepth => bind_ok_iff.mpr ⟨(), hdepth, rfl⟩

theorem shallow_iff {c : Content} {depth : Nat} :
    c.Shallow depth ↔ depth ≤ maxDepth ∧ ∀ m ∈ c.members, m.2.Shallow (depth + 1) := by
  cases c with
  | object es => rw [shallow_object_iff, members, List.forall_mem_map]
  | array vs => rw [shallow_array_iff, members, forall_mem_indexed]
  | string s => exact checked_eq_iff.trans (and_iff_left (List.forall_mem_nil _)).symm
  | number n => exact checked_eq_iff.trans (and_iff_left (List.forall_mem_nil _)).symm
  | bool b => exact checked_eq_iff.trans (and_iff_left (List.forall_mem_nil _)).symm

theorem shallow_of_le {c : Content} {least depth : Nat} (hle : least ≤ depth) (h : c.Shallow depth) :
    c.Shallow least := by
  induction c using membersInduction generalizing least depth with
  | node c ih =>
    obtain ⟨hdepth, hmembers⟩ := shallow_iff.mp h
    exact shallow_iff.mpr ⟨Nat.le_trans hle hdepth,
      fun m hm => ih m hm (Nat.succ_le_succ hle) (hmembers m hm)⟩

theorem shallow_iff_at {c : Content} {depth : Nat} :
    c.Shallow depth ↔ ∀ path n, At c path n → depth + path.length ≤ maxDepth := by
  induction c using membersInduction generalizing depth with
  | node c ih =>
    rw [shallow_iff]
    constructor
    · rintro ⟨hdepth, hmembers⟩ path n hat
      cases hat with
      | root => exact hdepth
      | step hm hat =>
        have hbelow := (ih _ hm).mp (hmembers _ hm) _ _ hat
        rw [List.length_cons]
        omega
    · intro h
      refine ⟨h [] c (.root c), fun m hm => (ih m hm).mpr fun path n hat => ?_⟩
      have hbelow := h (m.1 :: path) n (.step hm hat)
      rw [List.length_cons] at hbelow
      omega

theorem shallow_of_leaves {c : Content} {path : String} {depth : Nat}
    (h : none ∉ leaves path depth c) : c.Shallow depth := by
  induction c using membersInduction generalizing path depth with
  | node c ih =>
    obtain ⟨hdepth, hmembers⟩ := none_notMem_leaves h
    exact shallow_iff.mpr ⟨hdepth, fun m hm => ih m hm (hmembers m hm)⟩

theorem none_notMem_leaves_iff {c : Content} {path : String} {depth : Nat} :
    none ∉ leaves path depth c ↔ c.Shallow depth := by
  refine ⟨shallow_of_leaves, fun h => ?_⟩
  induction c using membersInduction generalizing path depth with
  | node c ih =>
    obtain ⟨hdepth, hmembers⟩ := shallow_iff.mp h
    rw [leaves_eq, if_pos hdepth]
    split
    · exact List.not_mem_cons_of_ne_of_not_mem (Option.some_ne_none _).symm List.not_mem_nil
    · intro hnone
      obtain ⟨m, hm, hnone⟩ := List.mem_flatMap.mp hnone
      exact ih m hm (hmembers m hm) hnone

def KeysApart (c : Content) : Prop :=
  ∀ path es, At c path (.object es) → (normalKeys es).Nodup

theorem keysApart_iff {c : Content} : c.KeysApart ↔
    (∀ es, c = .object es → (normalKeys es).Nodup) ∧ ∀ m ∈ c.members, m.2.KeysApart := by
  constructor
  · intro h
    refine ⟨?_, fun m hm path es hat => h (m.1 :: path) es (.step hm hat)⟩
    rintro es rfl
    exact h [] es (.root _)
  · rintro ⟨hroot, hmembers⟩ path es hat
    cases path with
    | nil => exact hroot es (at_nil_iff.mp hat).symm
    | cons part path =>
      obtain ⟨v, hv, hat⟩ := at_cons_iff.mp hat
      exact hmembers (part, v) hv path es hat

theorem normalizeAt_ok_iff_members {c : Content} {depth : Nat} :
    (∃ n, normalizeAt depth c = .ok n) ↔ depth ≤ maxDepth ∧
      (∀ es, c = .object es → (normalKeys es).Nodup) ∧
      ∀ m ∈ c.members, ∃ n, normalizeAt (depth + 1) m.2 = .ok n := by
  cases c with
  | object es =>
    rw [normalizeAt_object_ok_iff, members, List.forall_mem_map]
    simp only [object.injEq, forall_eq']
  | array vs =>
    rw [normalizeAt_array_ok_iff, members,
      forall_mem_indexed (P := fun v => ∃ n, normalizeAt (depth + 1) v = .ok n)]
    simp only [reduceCtorEq, false_implies, implies_true, true_and]
  | _ => exact checked_return_ok_iff.trans (by simp [members])

theorem normalizeAt_ok_iff {c : Content} {depth : Nat} :
    (∃ n, normalizeAt depth c = .ok n) ↔ c.Shallow depth ∧ c.KeysApart := by
  induction c using membersInduction generalizing depth with
  | node c ih =>
    rw [normalizeAt_ok_iff_members, shallow_iff, keysApart_iff]
    constructor
    · rintro ⟨hdepth, hkeys, hmembers⟩
      exact ⟨⟨hdepth, fun m hm => ((ih m hm).mp (hmembers m hm)).1⟩, hkeys,
        fun m hm => ((ih m hm).mp (hmembers m hm)).2⟩
    · rintro ⟨⟨hdepth, hshallow⟩, hkeys, hapart⟩
      exact ⟨hdepth, hkeys, fun m hm => (ih m hm).mpr ⟨hshallow m hm, hapart m hm⟩⟩

theorem shallow_of_encodeStatement {name text : String} {value : Content}
    (h : encodeStatement name value = .ok text) : value.Shallow 1 := by
  obtain ⟨hshallow, -⟩ := normalizeAt_ok_iff.mp (encode_ok_iff.mp ⟨text, h⟩)
  exact (shallow_object_iff.mp hshallow).2 _ (List.mem_singleton_self _)

theorem shallow_of_decompose {c : Content} {d : Decomposition} {statements : List Statement}
    (h : c.decompose d = .ok statements) : c.Shallow 0 := by
  obtain ⟨es, named, rfl, hparts, hperm⟩ := decompose_spec h
  refine shallow_object_iff.mpr ⟨Nat.zero_le _, fun e he => ?_⟩
  cases d with
  | topLevel =>
    have hmem : some (Text.normalize e.1, e.2) ∈ parts .topLevel es := List.mem_map_of_mem he
    rw [hparts] at hmem
    obtain ⟨x, hx, hpart⟩ := List.mem_map.mp hmem
    obtain ⟨s, hs, rfl⟩ := List.mem_map.mp (hperm.subset hx)
    rw [← (Prod.mk.inj (Option.some.inj hpart)).2]
    exact shallow_of_encodeStatement ((decomposed_of_decompose h).encoded s hs)
  | leaf =>
    have hnone : none ∉ parts .leaf es := by simp [hparts]
    exact shallow_of_leaves fun h => hnone (List.mem_flatMap.mpr ⟨e, he, h⟩)

theorem at_of_decompose {c : Content} {d : Decomposition} {statements : List Statement}
    (h : c.decompose d = .ok statements) {s : Statement} (hs : s ∈ statements) :
    ∃ path, At c path s.value := by
  obtain ⟨es, named, rfl, hparts, hperm⟩ := decompose_spec h
  have hnone : none ∉ parts d es := by simp [hparts]
  have hmem : some (s.name, s.value) ∈ parts d es := by
    rw [hparts]
    exact List.mem_map_of_mem (hperm.mem_iff.mpr (List.mem_map_of_mem hs))
  cases d with
  | topLevel =>
    obtain ⟨e, he, hpart⟩ := List.mem_map.mp hmem
    rw [← (Prod.mk.inj (Option.some.inj hpart)).2]
    exact ⟨_, .step (mem_members_object he) (.root e.2)⟩
  | leaf =>
    obtain ⟨path, -, hat, -⟩ := (mem_parts_leaf_iff hnone).mp hmem
    exact ⟨path, hat⟩

theorem ordered_members {c : Content} (h : c.Ordered) : ∀ m ∈ c.members, m.2.Ordered := by
  cases c with
  | object es =>
    rw [Ordered, toJson, entriesToJson_eq_map] at h
    rw [members, List.forall_mem_map]
    cases h with
    | object _ hes => exact fun e he => hes _ (List.mem_map_of_mem he)
  | array vs =>
    rw [Ordered, toJson, itemsToJson_eq_map] at h
    rw [members, forall_mem_indexed]
    cases h with
    | array hvs => exact fun v hv => hvs _ (List.mem_map_of_mem hv)
  | string s => exact List.forall_mem_nil _
  | number n => exact List.forall_mem_nil _
  | bool b => exact List.forall_mem_nil _

theorem ordered_of_at {c n : Content} {path : List String} (hat : At c path n) (h : c.Ordered) :
    n.Ordered := by
  induction hat with
  | root c => exact h
  | step hmem _ ih => exact ih (ordered_members h _ hmem)

theorem shallow_of_at {c n : Content} {path : List String} (hat : At c path n) (h : c.Shallow 0) :
    n.Shallow 0 := by
  induction hat with
  | root c => exact h
  | step hmem _ ih => exact ih (shallow_of_le (Nat.zero_le 1) ((shallow_iff.mp h).2 _ hmem))

end Content

end SelectiveDisclosure
