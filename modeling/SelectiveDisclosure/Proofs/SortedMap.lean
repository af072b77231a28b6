import Mathlib.Data.List.Nodup
import SelectiveDisclosure.SortedMap

namespace SelectiveDisclosure

variable {κ α : Type} [Ord κ] [Std.LawfulEqOrd κ]

theorem ne_of_compare_lt {j k : κ} (h : compare j k = .lt) : j ≠ k := by
  intro heq
  rw [heq, Std.ReflOrd.compare_self] at h
  cases h

theorem nodup_of_ascending {ks : List κ} (h : ks.Pairwise fun j k => compare j k = .lt) :
    ks.Nodup :=
  h.imp ne_of_compare_lt

theorem mem_of_lookupEntry {k : κ} {a : α} {l : List (κ × α)} (h : lookupEntry k l = some a) :
    (k, a) ∈ l := by
  induction l with
  | nil => exact absurd h nofun
  | cons e l ih =>
    rw [lookupEntry_cons] at h
    split at h
    · rename_i hk
      rw [Std.LawfulEqOrd.eq_of_compare hk, ← Option.some.inj h]
      exact List.mem_cons_self ..
    · exact List.mem_cons_of_mem _ (ih h)

theorem lookupEntry_of_mem {k : κ} {a : α} {l : List (κ × α)} (hl : Ascending l) (h : (k, a) ∈ l) :
    lookupEntry k l = some a := by
  induction l with
  | nil => exact absurd h nofun
  | cons e l ih =>
    obtain ⟨hlt, hl⟩ := List.pairwise_cons.mp hl
    rw [lookupEntry_cons]
    rcases List.mem_cons.mp h with rfl | h
    · rw [if_pos Std.ReflOrd.compare_self]
    · have hne : compare k e.1 ≠ .eq := by
        intro hk
        exact ne_of_compare_lt (hlt (k, a) h) (Std.LawfulEqOrd.eq_of_compare hk).symm
      rw [if_neg hne, ih hl h]

theorem lookupEntry_isSome_of_mem {k : κ} {l : List (κ × α)} (h : k ∈ l.map Prod.fst) :
    (lookupEntry k l).isSome = true := by
  induction l with
  | nil => cases h
  | cons e l ih =>
    rw [lookupEntry_cons]
    split
    · rfl
    · rename_i hk
      rcases List.mem_cons.mp h with rfl | h
      · exact absurd Std.ReflOrd.compare_self hk
      · exact ih h

theorem insertEntry_perm {k : κ} {a : α} {l : List (κ × α)} (h : k ∉ l.map Prod.fst) :
    (insertEntry k a l).Perm ((k, a) :: l) := by
  induction l with
  | nil => exact List.Perm.refl _
  | cons e l ih =>
    rw [List.map_cons, List.mem_cons, not_or] at h
    obtain ⟨-, hi⟩ | ⟨hk, -⟩ | ⟨-, hi⟩ := insertEntry_cons k a e l
    · rw [hi]
    · exact absurd (Std.LawfulEqOrd.eq_of_compare hk) h.1
    · rw [hi]
      exact ((ih h.2).cons e).trans (List.Perm.swap _ _ _)

theorem fresh_insertEntry_iff {k : κ} {a : α} {l : List (κ × α)} (h : k ∉ l.map Prod.fst)
    {ks : List κ} :
    (∀ j ∈ ks, j ∉ (insertEntry k a l).map Prod.fst) ↔
      k ∉ ks ∧ ∀ j ∈ ks, j ∉ l.map Prod.fst := by
  simp only [((insertEntry_perm h).map Prod.fst).mem_iff, List.map_cons, List.mem_cons, not_or,
    forall_and]
  refine and_congr_left fun _ => ⟨fun hne hk => hne k hk rfl, ?_⟩
  rintro hk j hj rfl
  exact hk hj

omit [Std.LawfulEqOrd κ] in
theorem eq_of_perm_of_ascending [Std.TransOrd κ] {l m : List (κ × α)} (hl : Ascending l)
    (hm : Ascending m) (h : l.Perm m) : l = m := by
  refine List.Perm.eq_of_pairwise ?_ hl hm h
  intro a b _ _ hab hba
  rw [Std.OrientedCmp.gt_of_lt hab] at hba
  cases hba

theorem eq_of_mem_iff_of_ascending [Std.TransOrd κ] {l m : List (κ × α)} (hl : Ascending l)
    (hm : Ascending m) (h : ∀ e, e ∈ l ↔ e ∈ m) : l = m := by
  have hnodup : ∀ {l : List (κ × α)}, Ascending l → l.Nodup :=
    fun hl => hl.imp fun hlt heq => ne_of_compare_lt hlt (congrArg Prod.fst heq)
  exact eq_of_perm_of_ascending hl hm ((List.perm_ext_iff_of_nodup (hnodup hl) (hnodup hm)).mpr h)

omit [Std.LawfulEqOrd κ] in
theorem find?_of_ascending_iff [Std.TransOrd κ] {ks : List κ}
    (hks : ks.Pairwise fun j k => compare j k = .lt) {q : κ → Bool} {k : κ} :
    ks.find? q = some k ↔ k ∈ ks ∧ q k ∧ ∀ j ∈ ks, q j → j = k ∨ compare k j = .lt := by
  induction ks with
  | nil => exact iff_of_false (Option.some_ne_none k).symm fun h => List.not_mem_nil h.1
  | cons first ks ih =>
    obtain ⟨hfirst, hks⟩ := List.pairwise_cons.mp hks
    by_cases hq : q first
    · rw [List.find?_cons_of_pos hq, Option.some_inj]
      constructor
      · rintro rfl
        exact ⟨List.mem_cons_self .., hq, fun j hj _ =>
          (List.mem_cons.mp hj).imp_right (hfirst j)⟩
      · rintro ⟨hk, -, hleast⟩
        rcases List.mem_cons.mp hk with rfl | hk
        · rfl
        · refine (hleast first (List.mem_cons_self ..) hq).resolve_right fun hlt => ?_
          cases (Std.OrientedCmp.gt_of_lt (hfirst k hk)).symm.trans hlt
    · rw [List.find?_cons_of_neg hq, ih hks, List.forall_mem_cons, List.mem_cons]
      constructor
      · rintro ⟨hk, hqk, hleast⟩
        exact ⟨.inr hk, hqk, fun h => absurd h hq, hleast⟩
      · rintro ⟨rfl | hk, hqk, -, hleast⟩
        · exact absurd hqk hq
        · exact ⟨hk, hqk, hleast⟩

namespace SortedMap

theorem get?_eq_some_iff {m : SortedMap κ α} {k : κ} {a : α} :
    m.get? k = some a ↔ (k, a) ∈ m.entries :=
  ⟨mem_of_lookupEntry, lookupEntry_of_mem m.ascending⟩

omit [Std.LawfulEqOrd κ] in
theorem not_contains_iff {m : SortedMap κ α} {k : κ} : (!m.contains k) = true ↔ m.get? k = none := by
  rw [contains, Bool.not_eq_true', Option.isSome_eq_false_iff, Option.isNone_iff_eq_none]

theorem get?_erase_ne (m : SortedMap κ α) {k k' : κ} (h : k' ≠ k) :
    (m.erase k).get? k' = m.get? k' := by
  have hkept : (compare k k' != .eq) = true :=
    bne_iff_ne.mpr fun hk => h (Std.LawfulEqOrd.eq_of_compare hk).symm
  refine Option.ext fun a => ?_
  rw [get?_eq_some_iff, get?_eq_some_iff, erase, List.mem_filter]
  exact and_iff_left hkept

variable [Std.TransOrd κ]

theorem get?_insert (m : SortedMap κ α) [DecidableEq κ] (k k' : κ) (a : α) :
    (m.insert k a).get? k' = if k' = k then some a else m.get? k' := by
  split
  · rename_i h
    rw [h, get?_insert_self]
  · rename_i h
    exact get?_insert_ne m a fun hk => h (Std.LawfulEqOrd.eq_of_compare hk)

omit [Std.LawfulEqOrd κ] in
theorem mem_foldl_insert {l : List (κ × α)} {m : SortedMap κ α} {e : κ × α}
    (h : e ∈ (l.foldl (fun m e => m.insert e.1 e.2) m).entries) : e ∈ l ∨ e ∈ m.entries := by
  induction l generalizing m with
  | nil => exact .inr h
  | cons d l ih =>
    rcases ih h with h | h
    · exact .inl (List.mem_cons_of_mem _ h)
    · rcases mem_insertEntry h with h | h
      · exact .inl (h ▸ List.mem_cons_self ..)
      · exact .inr h

omit [Std.LawfulEqOrd κ] in
theorem mem_ofList {l : List (κ × α)} {e : κ × α} (h : e ∈ (ofList l).entries) : e ∈ l :=
  (mem_foldl_insert h).resolve_right nofun

theorem mem_of_get?_ofList {l : List (κ × α)} {k : κ} {a : α} (h : (ofList l).get? k = some a) :
    (k, a) ∈ l :=
  mem_ofList (get?_eq_some_iff.mp h)

theorem get?_foldl_insert_isSome {l : List (κ × α)} {m : SortedMap κ α} {k : κ}
    (h : k ∈ l.map Prod.fst ∨ (m.get? k).isSome) :
    ((l.foldl (fun m e => m.insert e.1 e.2) m).get? k).isSome := by
  classical
  induction l generalizing m with
  | nil => exact h.resolve_left nofun
  | cons d l ih =>
    refine ih ?_
    rw [get?_insert]
    by_cases hk : k = d.1
    · exact .inr (by rw [if_pos hk]; rfl)
    · rw [if_neg hk]
      exact h.imp (fun h => (List.mem_cons.mp h).resolve_left hk) id

theorem get?_ofList {l : List (κ × α)} {k : κ} {a : α} (h : (k, a) ∈ l)
    (hall : ∀ b, (k, b) ∈ l → b = a) : (ofList l).get? k = some a := by
  have hsome : ((ofList l).get? k).isSome :=
    get?_foldl_insert_isSome (.inl (List.mem_map_of_mem h))
  obtain ⟨b, hb⟩ := Option.isSome_iff_exists.mp hsome
  rw [hb, hall b (mem_of_get?_ofList hb)]

theorem get?_ofList_of_nodup {l : List (κ × α)} (hl : (l.map Prod.fst).Nodup) {k : κ} {a : α}
    (h : (k, a) ∈ l) : (ofList l).get? k = some a :=
  get?_ofList h fun _ hb => congrArg Prod.snd (List.inj_on_of_nodup_map hl hb h rfl)

@[simp] theorem mem_keys_ofList {l : List (κ × α)} {k : κ} :
    k ∈ (ofList l).keys ↔ k ∈ l.map Prod.fst := by
  constructor
  · intro h
    obtain ⟨e, he, rfl⟩ := List.mem_map.mp h
    exact List.mem_map_of_mem (mem_ofList he)
  · intro h
    have hsome := get?_foldl_insert_isSome (m := empty) (.inl h)
    obtain ⟨a, ha⟩ := Option.isSome_iff_exists.mp hsome
    exact List.mem_map.mpr ⟨(k, a), get?_eq_some_iff.mp ha, rfl⟩

omit [Std.TransOrd κ] in
theorem nodup_keys (m : SortedMap κ α) : m.keys.Nodup :=
  nodup_of_ascending (List.pairwise_map.mpr m.ascending)

theorem ofList_perm {l : List (κ × α)} (hl : (l.map Prod.fst).Nodup) :
    (ofList l).entries.Perm l := by
  have hentries : (ofList l).entries.Nodup := List.Nodup.of_map Prod.fst (nodup_keys (ofList l))
  refine (List.perm_ext_iff_of_nodup hentries (List.Nodup.of_map Prod.fst hl)).mpr fun e => ?_
  exact ⟨mem_ofList, fun he => get?_eq_some_iff.mp (get?_ofList_of_nodup hl he)⟩

theorem ofList_eq_of_perm {l m : List (κ × α)} (hl : (l.map Prod.fst).Nodup) (h : l.Perm m) :
    ofList l = ofList m := by
  have hm : (m.map Prod.fst).Nodup := (h.map Prod.fst).nodup_iff.mp hl
  have hentries : (ofList l).entries = (ofList m).entries :=
    eq_of_perm_of_ascending (ofList l).ascending (ofList m).ascending
      ((ofList_perm hl).trans (h.trans (ofList_perm hm).symm))
  exact (SortedMap.mk.injEq ..).mpr hentries

omit [Std.LawfulEqOrd κ] in
theorem entries_foldl_insert (l : List (κ × α)) (m : SortedMap κ α) :
    (l.foldl (fun m e => m.insert e.1 e.2) m).entries =
      l.foldl (fun es e => insertEntry e.1 e.2 es) m.entries := by
  induction l generalizing m with
  | nil => rfl
  | cons e l ih => exact ih (m.insert e.1 e.2)

@[simp] theorem ofList_entries (m : SortedMap κ α) : ofList m.entries = m := by
  have hentries := eq_of_perm_of_ascending (ofList m.entries).ascending m.ascending
    (ofList_perm (nodup_keys m))
  exact (SortedMap.mk.injEq ..).mpr hentries

theorem size_ofList {l : List (κ × α)} (hl : (l.map Prod.fst).Nodup) :
    (ofList l).size = l.length :=
  (ofList_perm hl).length_eq

end SortedMap

end SelectiveDisclosure
