import SelectiveDisclosure.Proofs.Text.Normalization

namespace SelectiveDisclosure.Text

theorem mapping?_ne_nil {n : Nat} {ns : List Nat} (h : mapping? n = some ns) : ns ≠ [] := by
  rw [mapping?] at h
  split at h
  · simp at h
  · split at h
    · simp only [Option.some.injEq] at h
      simp [← h]
    · split at h
      · simp only [Option.some.injEq] at h
        simp [← h]
      · obtain ⟨k, -, rfl⟩ := Option.map_eq_some_iff.mp h
        simp

theorem expand_ne_nil (depth n : Nat) : expand depth n ≠ [] := by
  induction depth generalizing n with
  | zero => simp [expand]
  | succ depth ih =>
    rw [expand]
    split
    · simp
    · rename_i ns hn
      obtain ⟨m, ms, rfl⟩ := List.exists_cons_of_ne_nil (mapping?_ne_nil hn)
      simp [ih m]

theorem decomposeChar_ne_nil (c : Char) : decomposeChar c ≠ [] := by
  cases hh : Hangul.decompose? c.toNat with
  | some ns =>
    rw [decomposeChar_of_hangul hh]
    rw [hangul_decompose?_eq] at hh
    split at hh
    · simp only [Option.some.injEq] at hh
      subst hh
      split <;> simp
    · simp at hh
  | none => simp [decomposeChar_eq_expand hh, expand_ne_nil]

@[simp] theorem decompose_eq_nil_iff {cs : List Char} : decompose cs = [] ↔ cs = [] := by
  constructor
  · intro h
    cases cs with
    | nil => rfl
    | cons c cs =>
      obtain ⟨x, xs, hx⟩ := List.exists_cons_of_ne_nil (decomposeChar_ne_nil c)
      have hmem : x ∈ decompose (c :: cs) := by simp [decompose, hx]
      rw [h] at hmem
      cases hmem
  · rintro rfl
    rfl

@[simp] theorem normalizeChars_eq_nil_iff {cs : List Char} : normalizeChars cs = [] ↔ cs = [] := by
  rw [← decompose_eq_nil_iff, decompose_normalizeChars, decompose_eq_nil_iff]

@[simp] theorem normalize_eq_empty_iff {s : String} : normalize s = "" ↔ s = "" := by
  simp [normalize]

theorem le_of_composePair? {a b c : Char} (h : composePair? a b = some c) : 0xC0 ≤ c.toNat := by
  rw [composePair?] at h
  split at h
  · rename_i n hn
    obtain ⟨hv, ns, hd, -⟩ := hangul_composed hn
    have hle := le_of_hangul hd
    rw [← Option.some.inj h, toNat_ofNat hv]
    omega
  · obtain ⟨n, hn, rfl⟩ := Option.map_eq_some_iff.mp h
    obtain ⟨-, hordinary, -⟩ := expand_composite hn
    rw [toNat_ofNat (isOrdinary_iff.mp hordinary).2.1]
    rw [composite?] at hn
    split at hn
    · simp at hn
    · have he := List.all_eq_true.mp tables_settle.1 _ (mem_of_pairComposite hn)
      simp only [settledComposite, Bool.and_eq_true, Nat.ble_eq] at he
      exact he.1.1.1

theorem composePair?_of_escaped {a : Char} (h : isUnescaped a.toNat = false) (b : Char) :
    composePair? a b = none := by
  have hlt : a.toNat < 0x5D := by
    simp only [isUnescaped, Bool.and_eq_false_iff, decide_eq_false_iff_not] at h
    omega
  rw [composePair?, hangul_compose?_eq, if_neg (by omega), if_neg (by omega), Option.map_eq_none_iff]
  cases hc : composite? a.toNat b.toNat with
  | none => rfl
  | some n =>
    have hordinary := (isOrdinary_iff.mp (expand_composite hc).2.2).2.2
    rw [h] at hordinary
    cases hordinary

-- Nothing is composed onto a letter that comes before the less-than sign.
theorem composePair?_of_lt_angle {a : Char} (h : a.toNat < 0x3C) (b : Char) :
    composePair? a b = none := by
  rw [composePair?, hangul_compose?_eq, if_neg (by omega), if_neg (by omega), Option.map_eq_none_iff]
  cases hc : composite? a.toNat b.toNat with
  | none => rfl
  | some n =>
    rw [composite?] at hc
    split at hc
    · cases hc
    · have he := List.all_eq_true.mp tables_settle.2.2.2.2 _ (mem_of_pairComposite hc)
      exact absurd (Nat.ble_eq.mp he) (Nat.not_le_of_lt h)

theorem le_of_joined {a b : Char} (h : (composePair? a b).isSome = true) : 0xC0 ≤ b.toNat := by
  refine Nat.le_of_not_lt fun hlt => ?_
  rw [composePair?_of_lt a hlt] at h
  cases h

theorem le_of_mark {c : Char} (h : 0 < combiningClass c) : 0xC0 ≤ c.toNat := by
  refine Nat.le_of_not_lt fun hlt => ?_
  rw [combiningClass_of_lt hlt] at h
  cases h

theorem forall_mem_composeFrom {P : Char → Prop} (hP : ∀ x : Char, 0xC0 ≤ x.toNat → P x) {s : Char}
    {held : List Char} {last : Nat} {ds : List Char} (hs : P s) (hheld : ∀ x ∈ held, P x)
    (hds : ∀ x ∈ ds, P x) : ∀ x ∈ composeFrom s held last ds, P x := by
  induction ds generalizing s held last with
  | nil =>
    rw [composeFrom, List.forall_mem_cons]
    exact ⟨hs, fun x hx => hheld x (List.mem_reverse.mp hx)⟩
  | cons d ds ih =>
    obtain ⟨hd, hds⟩ := List.forall_mem_cons.mp hds
    simp only [composeFrom]
    split
    · rename_i joined hj
      split at hj
      · exact ih (hP _ (le_of_composePair? hj)) hheld hds
      · cases hj
    · split
      · rw [List.forall_mem_cons, List.forall_mem_append]
        exact ⟨hs, fun x hx => hheld x (List.mem_reverse.mp hx), ih hd (List.forall_mem_nil _) hds⟩
      · exact ih hs (List.forall_mem_cons.mpr ⟨hd, hheld⟩) hds

theorem forall_mem_compose {P : Char → Prop} (hP : ∀ x : Char, 0xC0 ≤ x.toNat → P x) {cs : List Char}
    (h : ∀ x ∈ cs, P x) : ∀ x ∈ compose cs, P x := by
  induction cs with
  | nil => exact h
  | cons c cs ih =>
    obtain ⟨hc, hcs⟩ := List.forall_mem_cons.mp h
    rw [compose]
    split
    · exact forall_mem_composeFrom hP hc (List.forall_mem_nil _) hcs
    · exact List.forall_mem_cons.mpr ⟨hc, ih hcs⟩

theorem composeFrom_append {s : Char} {held : List Char} {last : Nat} {ds ys : List Char}
    (h : ∀ y ∈ ys.head?, y.toNat < 0xC0) :
    composeFrom s held last (ds ++ ys) = composeFrom s held last ds ++ compose ys := by
  induction ds generalizing s held last with
  | nil =>
    cases ys with
    | nil => simp [composeFrom, compose]
    | cons y ys =>
      have hy := h y rfl
      simp [composeFrom, compose, composePair?_of_lt s hy, combiningClass_of_lt hy]
  | cons d ds ih =>
    simp only [List.cons_append, composeFrom]
    split
    · exact ih
    · split
      · rw [ih, List.cons_append, List.append_assoc]
      · exact ih

theorem compose_append {xs ys : List Char} (h : ∀ y ∈ ys.head?, y.toNat < 0xC0) :
    compose (xs ++ ys) = compose xs ++ compose ys := by
  induction xs with
  | nil => rfl
  | cons x xs ih =>
    rw [List.cons_append, compose, compose]
    split
    · exact composeFrom_append h
    · rw [ih, List.cons_append]

theorem normalizeChars_append {xs ys : List Char} (h : ∀ y ∈ ys.head?, y.toNat < 0xC0) :
    normalizeChars (xs ++ ys) = normalizeChars xs ++ normalizeChars ys := by
  cases ys with
  | nil => simp [normalizeChars, decompose, reorder, compose]
  | cons y ys =>
    have hy := h y rfl
    have hsplit := decompose_append_starter (combiningClass_of_lt hy) (atomic_of_lt hy) xs ys
    rw [normalizeChars, hsplit, compose_append (by simpa using hy), normalizeChars, normalizeChars,
      decompose_cons_of_lt hy]

section

variable {s : Char} (hs : ∀ d, composePair? s d = none)

include hs

theorem composeFrom_of_unpaired {held : List Char} {last : Nat} {ds : List Char} :
    composeFrom s held last ds = s :: (held.reverse ++ compose ds) := by
  induction ds generalizing held last with
  | nil => simp [composeFrom, compose]
  | cons d ds ih =>
    simp only [composeFrom, hs, ite_self, compose]
    split
    · rfl
    · simp [ih]

theorem normalizeChars_cons_of_unpaired (hlt : s.toNat < 0xC0) (cs : List Char) :
    normalizeChars (s :: cs) = s :: normalizeChars cs := by
  rw [normalizeChars, decompose_cons_of_lt hlt, compose, if_pos (combiningClass_of_lt hlt),
    composeFrom_of_unpaired hs]
  rfl

theorem normalizeChars_append_of_unpaired (hlt : s.toNat < 0xC0) (xs ys : List Char) :
    normalizeChars (xs ++ s :: ys) = normalizeChars xs ++ s :: normalizeChars ys := by
  have hhead : ∀ y ∈ (s :: ys).head?, y.toNat < 0xC0 := by simpa using hlt
  rw [normalizeChars_append hhead, normalizeChars_cons_of_unpaired hs hlt]

end

theorem compose_cons_of_escaped {c : Char} (hc : isUnescaped c.toNat = false) (cs : List Char) :
    compose (c :: cs) = c :: compose cs := by
  have hlt : c.toNat < 0xC0 := by
    simp only [isUnescaped, Bool.and_eq_false_iff, decide_eq_false_iff_not] at hc
    omega
  rw [compose, if_pos (combiningClass_of_lt hlt), composeFrom_of_unpaired (composePair?_of_escaped hc)]
  rfl

-- A mark that `s` composes with, where every mark in between is of a lower class.
def Joins (s : Char) (ds : List Char) : Prop :=
  ∃ marks d rest, ds = marks ++ d :: rest ∧
    (∀ m ∈ marks, 0 < combiningClass m ∧ combiningClass m < combiningClass d) ∧
    (composePair? s d).isSome = true

theorem composeFrom_of_not_joins {s : Char} {held : List Char} {last : Nat} {ds : List Char}
    (hheld : ∀ m ∈ held, 0 < combiningClass m ∧ combiningClass m ≤ last)
    (hds : ArrangedFrom last ds) (h : ¬Joins s (held.reverse ++ ds)) :
    composeFrom s held last ds = s :: (held.reverse ++ compose ds) := by
  induction ds generalizing held last with
  | nil => simp [composeFrom, compose]
  | cons d ds ih =>
    have hfree : (if held.isEmpty || decide (last < combiningClass d) then composePair? s d
        else none) = none := by
      split
      · rename_i hopen
        refine Option.eq_none_iff_forall_ne_some.mpr fun x hx => h ?_
        refine ⟨held.reverse, d, ds, rfl, fun m hm => ?_, by rw [hx]; rfl⟩
        have hm := List.mem_reverse.mp hm
        have hlast : last < combiningClass d := by
          simpa [List.ne_nil_of_mem hm] using hopen
        exact ⟨(hheld m hm).1, Nat.lt_of_le_of_lt (hheld m hm).2 hlast⟩
      · rfl
    simp only [composeFrom, hfree, compose]
    split
    · rfl
    · rename_i hd
      have hlast := hds.1.resolve_left hd
      rw [ih ?_ hds.2 (by simpa using h)]
      · simp
      · intro m hm
        rcases List.mem_cons.mp hm with rfl | hm
        · omega
        · have hle := hheld m hm
          omega

theorem composeFrom_head {s : Char} (hs : 0xC0 ≤ s.toNat) {held : List Char} {last : Nat}
    {ds : List Char} : ∃ x rest, composeFrom s held last ds = x :: rest ∧ 0xC0 ≤ x.toNat := by
  induction ds generalizing s held last with
  | nil => exact ⟨s, _, rfl, hs⟩
  | cons d ds ih =>
    simp only [composeFrom]
    split
    · rename_i joined hj
      split at hj
      · exact ih (le_of_composePair? hj)
      · cases hj
    · split
      · exact ⟨s, _, rfl, hs⟩
      · exact ih hs

theorem composeFrom_of_joins {s d : Char} {marks rest held : List Char} {last : Nat}
    (hheld : held = [] ∨ last < combiningClass d)
    (hmarks : ∀ m ∈ marks, 0 < combiningClass m ∧ combiningClass m < combiningClass d)
    (hd : (composePair? s d).isSome = true) :
    ∃ x tail, composeFrom s held last (marks ++ d :: rest) = x :: tail ∧ 0xC0 ≤ x.toNat := by
  induction marks generalizing held last with
  | nil =>
    obtain ⟨x, hx⟩ := Option.isSome_iff_exists.mp hd
    have hopen : (held.isEmpty || decide (last < combiningClass d)) = true := by simpa using hheld
    simp only [List.nil_append, composeFrom, hopen, if_true, hx]
    exact composeFrom_head (le_of_composePair? hx)
  | cons m marks ih =>
    obtain ⟨hm, hmarks⟩ := List.forall_mem_cons.mp hmarks
    simp only [List.cons_append, composeFrom]
    split
    · rename_i joined hj
      split at hj
      · exact composeFrom_head (le_of_composePair? hj)
      · cases hj
    · rw [if_neg (by omega)]
      exact ih (.inr hm.2) hmarks

theorem compose_cons_of_not_joins {s : Char} (hs : combiningClass s = 0) {ds : List Char}
    (hds : ArrangedFrom 0 ds) (h : ¬Joins s ds) : compose (s :: ds) = s :: compose ds := by
  rw [compose, if_pos hs]
  exact composeFrom_of_not_joins (List.forall_mem_nil _) hds h

theorem compose_cons_of_joins {s : Char} (hs : combiningClass s = 0) {ds : List Char}
    (h : Joins s ds) : ∃ x rest, compose (s :: ds) = x :: rest ∧ 0xC0 ≤ x.toNat := by
  obtain ⟨marks, d, rest, rfl, hmarks, hd⟩ := h
  rw [compose, if_pos hs]
  exact composeFrom_of_joins (.inl rfl) hmarks hd

theorem compose_of_lt {cs : List Char} (h : ∀ c ∈ cs, c.toNat < 0xC0) : compose cs = cs := by
  cases cs with
  | nil => rfl
  | cons c cs =>
    obtain ⟨hc, hcs⟩ := List.forall_mem_cons.mp h
    rw [compose, if_pos (combiningClass_of_lt hc), composeFrom_of_lt hcs]

end SelectiveDisclosure.Text
