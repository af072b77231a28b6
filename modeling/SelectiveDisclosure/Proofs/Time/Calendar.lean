import SelectiveDisclosure.Time.Calendar

namespace SelectiveDisclosure.Calendar

-- A year has 365.2425 days on average, and the leap days of no span of years stray far from that.
theorem daysBeforeYear_near (y : Int) :
    146097 * y - 396 ≤ 400 * daysBeforeYear y ∧ 400 * daysBeforeYear y ≤ 146097 * y + 699 := by
  rw [daysBeforeYear]
  omega

theorem yearOfDay_spec (n : Int) :
    daysBeforeYear (yearOfDay n) ≤ n ∧ n < daysBeforeYear (yearOfDay n + 1) := by
  have hbefore := daysBeforeYear_near (n * 400 / 146097 - 1)
  have hafter := daysBeforeYear_near (n * 400 / 146097 + 1 + 1)
  rw [yearOfDay]
  split
  · rw [Int.sub_add_cancel]
    omega
  · split
    · omega
    · omega

theorem daysBeforeYear_succ (y : Int) :
    daysBeforeYear (y + 1) = daysBeforeYear y + if isLeap y then 366 else 365 := by
  rw [daysBeforeYear, daysBeforeYear]
  cases h : isLeap y with
  | false =>
    simp [isLeap] at h
    simp only [Bool.false_eq_true, if_false]
    omega
  | true =>
    simp [isLeap] at h
    simp only [if_true]
    omega

theorem foldl_add_cons (n : Nat) (ns : List Nat) :
    (n :: ns).foldl (· + ·) 0 = n + ns.foldl (· + ·) 0 := by
  have hassoc : ns.foldl (· + ·) (n + 0) = n + ns.foldl (· + ·) 0 := List.foldl_assoc
  rw [List.foldl_cons, Nat.zero_add, ← hassoc, Nat.add_zero]

theorem splitMonths_spec (month : Nat) {n : Nat} {lengths : List Nat}
    (h : n < lengths.foldl (· + ·) 0) :
    ∃ k d, splitMonths month lengths n = (month + k, d + 1) ∧ k < lengths.length ∧
      d < lengths.getD k 0 ∧ n = (lengths.take k).foldl (· + ·) 0 + d := by
  induction lengths generalizing month n with
  | nil => exact absurd h (Nat.not_lt_zero n)
  | cons len lengths ih =>
    rw [foldl_add_cons] at h
    rw [splitMonths]
    split
    · rename_i hn
      exact ⟨0, n, rfl, Nat.succ_pos _, hn, (Nat.zero_add n).symm⟩
    · rename_i hn
      have hlater : n - len < lengths.foldl (· + ·) 0 := by omega
      obtain ⟨k, d, hsplit, hk, hd, hrest⟩ := ih (month + 1) hlater
      refine ⟨k + 1, d, ?_, Nat.succ_lt_succ hk, hd, ?_⟩
      · rw [hsplit, Nat.add_assoc, Nat.add_comm 1]
      · rw [List.take_succ_cons, foldl_add_cons]
        omega

theorem sum_monthLengths (leap : Bool) :
    (monthLengths leap).foldl (· + ·) 0 = if leap then 366 else 365 := by
  cases leap <;> rfl

theorem getD_monthLengths_le (leap : Bool) : ∀ k < 12, (monthLengths leap).getD k 0 ≤ 31 := by
  cases leap <;> decide

structure Date.Of (d : Date) (n : Int) : Prop where
  toDays : d.toDays = n
  month : 1 ≤ d.month ∧ d.month ≤ 12
  day : 1 ≤ d.day ∧ d.day ≤ 31
  occurs : d.Exists

theorem of_ofDays (n : Int) : (Date.ofDays n).Of n := by
  obtain ⟨hfirst, hlast⟩ := yearOfDay_spec n
  rw [daysBeforeYear_succ] at hlast
  have hoffset : (n - daysBeforeYear (yearOfDay n)).toNat <
      (monthLengths (isLeap (yearOfDay n))).foldl (· + ·) 0 := by
    rw [sum_monthLengths]
    cases h : isLeap (yearOfDay n) with
    | false =>
      simp [h] at hlast ⊢
      omega
    | true =>
      simp [h] at hlast ⊢
      omega
  obtain ⟨k, d, hsplit, hk, hd, hdays⟩ := splitMonths_spec 1 hoffset
  have hdate : Date.ofDays n = ⟨yearOfDay n, k + 1, d + 1⟩ := by
    rw [Date.ofDays, hsplit, Nat.add_comm]
  have hk : k < 12 := hk
  have hlength := getD_monthLengths_le (isLeap (yearOfDay n)) k hk
  rw [hdate]
  refine ⟨?_, ⟨Nat.succ_pos k, hk⟩, ⟨Nat.succ_pos d, Nat.le_trans hd hlength⟩,
    Nat.succ_pos k, Nat.succ_pos d, hd⟩
  rw [Date.toDays, daysBeforeMonth]
  dsimp only
  rw [Nat.add_sub_cancel, Nat.add_sub_cancel, ← hdays]
  omega

theorem ofDays_inj {m n : Int} (h : Date.ofDays m = Date.ofDays n) : m = n := by
  rw [← (of_ofDays m).toDays, h, (of_ofDays n).toDays]

end SelectiveDisclosure.Calendar
