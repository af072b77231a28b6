import SelectiveDisclosure.Number.Shortest
import SelectiveDisclosure.Proofs.Digits

namespace SelectiveDisclosure

open Digits

namespace Binary64

theorem unitScale_bounds : 0 < unitScale ∧ tenTo 17 * unitScale ≤ tenTo gridPlaces := by
  decide +kernel

theorem roundDiv_eq {n d k : Nat} (hlow : 2 * (k * d) < 2 * n + d)
    (hhigh : 2 * n < 2 * (k * d) + d) : roundDiv n d = k := by
  have hdiv := Nat.div_add_mod' n d
  rw [roundDiv]
  by_cases hle : k * d ≤ n
  · have hquotient : n / d = k := by
      refine Nat.div_eq_of_lt_le hle ?_
      rw [Nat.add_one_mul]
      omega
    rw [hquotient] at hdiv ⊢
    exact if_pos (by omega)
  · obtain ⟨j, rfl⟩ : ∃ j, k = j + 1 := by
      refine Nat.exists_eq_succ_of_ne_zero ?_
      rintro rfl
      omega
    rw [Nat.add_one_mul j d] at hlow hhigh hle
    have hquotient : n / d = j := by
      refine Nat.div_eq_of_lt_le (by omega) ?_
      rw [Nat.add_one_mul]
      omega
    rw [hquotient] at hdiv ⊢
    rw [if_neg (by omega), if_pos (by omega)]

theorem roundDiv_scale (n d : Nat) {k : Nat} (hk : 0 < k) :
    roundDiv (n * k) (d * k) = roundDiv n d := by
  have hlt : ∀ a b, 2 * (a * k) < b * k ↔ 2 * a < b := by
    intro a b
    rw [← Nat.mul_assoc]
    exact Nat.mul_lt_mul_right hk
  have hgt : ∀ a b, b * k < 2 * (a * k) ↔ b < 2 * a := by
    intro a b
    rw [← Nat.mul_assoc]
    exact Nat.mul_lt_mul_right hk
  simp only [roundDiv, Nat.mul_div_mul_right _ _ hk, Nat.mul_mod_mul_right, hlt, hgt]

theorem ofRatio?_scale (negative : Bool) (n d : Nat) {k : Nat} (hk : 0 < k) :
    ofRatio? negative (n * k) (d * k) = ofRatio? negative n d := by
  have hscaled : n * k * unitScale = n * unitScale * k := Nat.mul_right_comm ..
  have hpower : ∀ power, d * k * power = d * power * k := fun power => Nat.mul_right_comm ..
  simp only [ofRatio?, hscaled, hpower, Nat.mul_div_mul_right _ _ hk, roundDiv_scale _ _ hk]

theorem make?_self (x : Binary64) : make? x.negative x.significand x.exponent = some x :=
  dif_pos x.canonical

theorem zero_eq {x : Binary64} (h : x.significand = 0) : zero x.negative = x := by
  obtain ⟨negative, significand, exponent, hcanonical⟩ := x
  dsimp only at h
  subst h
  have hexponent : exponent = 0 := hcanonical.2.2.resolve_left (by decide)
  subst hexponent
  rfl

theorem ofRatio?_zero (negative : Bool) {d : Nat} (hd : 0 < d) :
    ofRatio? negative 0 d = some (zero negative) := by
  have hround : roundDiv 0 (d * Nat.pow 2 0) = 0 := roundDiv_eq (by simpa using hd) (by simpa using hd)
  rw [ofRatio?, Nat.zero_mul, Nat.zero_div, show Nat.log2 0 - 52 = 0 by decide, hround]
  exact make?_self (zero negative)

theorem log2_div {scaled d e : Nat} (hlow : normalStart * (d * Nat.pow 2 e) ≤ scaled)
    (hhigh : scaled < significandEnd * (d * Nat.pow 2 e)) : (scaled / d).log2 = 52 + e := by
  have hd : 0 < d := by
    refine Nat.pos_of_ne_zero ?_
    rintro rfl
    simp at hhigh
  have hle : Nat.pow 2 (52 + e) ≤ scaled / d := by
    rw [Nat.le_div_iff_mul_le hd, Nat.pow_eq, Nat.pow_add, Nat.mul_assoc, Nat.mul_comm _ d]
    exact hlow
  have hlt : scaled / d < Nat.pow 2 (52 + e + 1) := by
    refine Nat.div_lt_of_lt_mul ?_
    rw [show 52 + e + 1 = 53 + e by omega, Nat.pow_eq, Nat.pow_add, Nat.mul_left_comm]
    exact hhigh
  have hne : scaled / d ≠ 0 := Nat.ne_of_gt (Nat.lt_of_lt_of_le (Nat.two_pow_pos _) hle)
  exact (Nat.log2_eq_iff hne).mpr ⟨hle, hlt⟩

theorem log2_div_le {scaled d : Nat} (h : scaled < significandEnd * d) : (scaled / d).log2 ≤ 52 := by
  by_cases hquotient : scaled / d = 0
  · rw [hquotient]
    decide
  · have hlt : scaled / d < Nat.pow 2 53 := Nat.div_lt_of_lt_mul (by rwa [Nat.mul_comm])
    exact Nat.le_of_lt_succ ((Nat.log2_lt hquotient).mpr hlt)

theorem ofRatio?_eq {x : Binary64} {n d : Nat}
    (hexponent : (n * unitScale / d).log2 - 52 = x.exponent)
    (hround : roundDiv (n * unitScale) (d * Nat.pow 2 x.exponent) = x.significand) :
    ofRatio? x.negative n d = some x := by
  simp only [ofRatio?, hexponent, hround]
  rw [if_neg (Nat.ne_of_lt x.canonical.1)]
  exact make?_self x

-- A ratio just under the least significand of its exponent is rounded on the finer grid below it.
theorem ofRatio?_eq_of_carry {x : Binary64} {n d e : Nat} (hsignificand : x.significand = normalStart)
    (hx : x.exponent = e + 1) (hexponent : (n * unitScale / d).log2 - 52 = e)
    (hround : roundDiv (n * unitScale) (d * Nat.pow 2 e) = significandEnd) :
    ofRatio? x.negative n d = some x := by
  simp only [ofRatio?, hexponent, hround, if_true]
  rw [← hsignificand, ← hx]
  exact make?_self x

-- The ratio of `n` to `d` differs from the size of `x` by less than one part in `2 * significandEnd`.
def Near (x : Binary64) (n d : Nat) : Prop :=
  (2 * significandEnd - 1) * (x.units * d) < 2 * significandEnd * (n * unitScale) ∧
    2 * significandEnd * (n * unitScale) < (2 * significandEnd + 1) * (x.units * d)

theorem ofRatio?_of_near {x : Binary64} {n d : Nat} (h : Near x n d) :
    ofRatio? x.negative n d = some x := by
  obtain ⟨hlow, hhigh⟩ := h
  obtain ⟨hs, -, hnormal⟩ := x.canonical
  have hunits : x.units * d = x.significand * (d * Nat.pow 2 x.exponent) := by
    rw [units, Nat.mul_assoc, Nat.mul_comm _ d]
  rw [hunits] at hlow hhigh
  have hsize : x.significand * (d * Nat.pow 2 x.exponent) ≤
      (significandEnd - 1) * (d * Nat.pow 2 x.exponent) := Nat.mul_le_mul_right _ (Nat.le_pred_of_lt hs)
  have hnormalStart : normalStart = 4503599627370496 := rfl
  have hsignificandEnd : significandEnd = 9007199254740992 := rfl
  rw [hsignificandEnd] at hlow hhigh hsize
  have hbound : n * unitScale < significandEnd * (d * Nat.pow 2 x.exponent) := by
    rw [hsignificandEnd]
    omega
  have hround : roundDiv (n * unitScale) (d * Nat.pow 2 x.exponent) = x.significand :=
    roundDiv_eq (by omega) (by omega)
  by_cases hnormalized : normalStart * (d * Nat.pow 2 x.exponent) ≤ n * unitScale
  · refine ofRatio?_eq ?_ hround
    rw [log2_div hnormalized hbound, Nat.add_sub_cancel_left]
  cases hexponent : x.exponent with
  | zero =>
    refine ofRatio?_eq ?_ hround
    rw [hexponent, Nat.pow_eq, Nat.pow_zero, Nat.mul_one] at hbound
    have := log2_div_le hbound
    omega
  | succ e =>
    rw [hnormalStart] at hnormalized
    have hleast : normalStart ≤ x.significand := hnormal.resolve_right (by omega)
    have hsignificand : x.significand = normalStart := by
      refine Nat.le_antisymm (Nat.le_of_not_lt fun hlt => ?_) hleast
      have habove : (normalStart + 1) * (d * Nat.pow 2 x.exponent) ≤
          x.significand * (d * Nat.pow 2 x.exponent) := Nat.mul_le_mul_right _ hlt
      rw [hnormalStart] at habove
      omega
    have hstep : d * Nat.pow 2 x.exponent = 2 * (d * Nat.pow 2 e) := by
      rw [hexponent, Nat.pow_eq, Nat.pow_succ, Nat.mul_comm _ 2, Nat.mul_left_comm, Nat.pow_eq]
    rw [hsignificand, hstep, hnormalStart] at hlow
    rw [hstep] at hnormalized
    have hfiner : normalStart * (d * Nat.pow 2 e) ≤ n * unitScale := by
      rw [hnormalStart]
      omega
    refine ofRatio?_eq_of_carry hsignificand hexponent ?_ ?_
    · rw [log2_div hfiner (by rw [hsignificandEnd]; omega), Nat.add_sub_cancel_left]
    · rw [hsignificandEnd]
      exact roundDiv_eq (by omega) (by omega)

end Binary64

namespace Decimal

open Binary64

theorem toBinary64?_zero (negative : Bool) (exponent : Int) :
    (⟨0, exponent⟩ : Decimal).toBinary64? negative = some (zero negative) := by
  rw [toBinary64?]
  split
  · rw [Nat.zero_mul]
    exact ofRatio?_zero negative Nat.one_pos
  · exact ofRatio?_zero negative (tenTo_pos _)

theorem toBinary64?_scale (negative : Bool) (coefficient : Nat) (exponent : Int) (places : Nat) :
    (⟨coefficient * tenTo places, exponent - places⟩ : Decimal).toBinary64? negative =
      (⟨coefficient, exponent⟩ : Decimal).toBinary64? negative := by
  simp only [toBinary64?]
  by_cases hexponent : 0 ≤ exponent
  · rw [if_pos hexponent]
    by_cases hplaces : (places : Int) ≤ exponent
    · have hpower : exponent.toNat = places + (exponent - places).toNat := by omega
      rw [if_pos (by omega), hpower, tenTo_add, Nat.mul_assoc]
    · have hpower : places = exponent.toNat + (-(exponent - places)).toNat := by omega
      rw [if_neg (by omega), ← ofRatio?_scale negative (coefficient * tenTo exponent.toNat) 1
        (tenTo_pos (-(exponent - places)).toNat), Nat.one_mul, Nat.mul_assoc, ← tenTo_add, ← hpower]
  · have hpower : (-(exponent - places)).toNat = (-exponent).toNat + places := by omega
    rw [if_neg (by omega), if_neg hexponent, hpower, tenTo_add]
    exact ofRatio?_scale negative _ _ (tenTo_pos places)

theorem exists_ratio (coefficient places : Nat) : ∃ n d, 0 < d ∧
    n * tenTo gridPlaces = coefficient * tenTo places * d ∧
    ∀ negative, (⟨coefficient, (places : Int) - gridPlaces⟩ : Decimal).toBinary64? negative =
      ofRatio? negative n d := by
  by_cases hplaces : gridPlaces ≤ places
  · obtain ⟨more, rfl⟩ := Nat.exists_eq_add_of_le hplaces
    refine ⟨coefficient * tenTo more, 1, Nat.one_pos, ?_, fun negative => ?_⟩
    · rw [tenTo_add, Nat.mul_one, Nat.mul_assoc, Nat.mul_comm (tenTo more)]
    · rw [toBinary64?]
      dsimp only
      rw [if_pos (by omega), show ((gridPlaces + more : Nat) - gridPlaces : Int).toNat = more by omega]
  · obtain ⟨more, hmore⟩ := Nat.exists_eq_add_of_le (Nat.le_of_not_le hplaces)
    refine ⟨coefficient, tenTo more, tenTo_pos more, ?_, fun negative => ?_⟩
    · rw [hmore, tenTo_add, Nat.mul_assoc]
    · rw [toBinary64?]
      dsimp only
      rw [if_neg (by omega), show (-(places - gridPlaces : Int)).toNat = more by omega]

end Decimal

namespace Binary64

theorem chooseNeighbour_reads {x : Binary64} {places low : Nat} {found : Decimal}
    (h : chooseNeighbour x places low = some found) : found.toBinary64? x.negative = some x := by
  have hreads : ∀ {hit : Decimal}, decide (hit.toBinary64? x.negative = some x) = true →
      some hit = some found → found.toBinary64? x.negative = some x := by
    rintro hit hdecide ⟨⟩
    exact of_decide_eq_true hdecide
  rw [chooseNeighbour] at h
  split at h
  · rename_i hbelow _
    exact hreads hbelow h
  · rename_i _ habove
    exact hreads habove h
  · rename_i hbelow habove
    split at h
    · exact hreads hbelow h
    · split at h
      · exact hreads habove h
      · split at h
        · exact hreads hbelow h
        · exact hreads habove h
  · cases h

theorem chooseNeighbour_isSome {x : Binary64} {places low : Nat} (hlow : low ≠ 9)
    (h : (⟨low, (places : Int) - gridPlaces⟩ : Decimal).toBinary64? x.negative = some x ∨
      (⟨low + 1, (places : Int) - gridPlaces⟩ : Decimal).toBinary64? x.negative = some x) :
    (chooseNeighbour x places low).isSome := by
  rw [chooseNeighbour]
  split
  · rfl
  · rfl
  · split
    · rfl
    · split
      · rfl
      · split <;> rfl
  · rename_i hbelow habove
    rw [if_neg hlow] at habove
    rcases h with h | h
    · exact absurd h (of_decide_eq_false hbelow)
    · exact absurd h (of_decide_eq_false habove)

theorem searchShortest_reads {x : Binary64} {grid size tries count k : Nat} (hcount : count ≤ k)
    (htries : k < count + tries)
    (hk : (chooseNeighbour x (size - k) (grid / tenTo (size - k))).isSome) :
    (searchShortest x grid size tries count).toBinary64? x.negative = some x := by
  induction tries generalizing count with
  | zero => omega
  | succ tries ih =>
    rw [searchShortest]
    split
    · rename_i found hfound
      exact chooseNeighbour_reads hfound
    · rename_i hnone
      have hne : count ≠ k := by
        rintro rfl
        rw [hnone] at hk
        cases hk
      exact ih (by omega) (by omega)

theorem mul_lt_mul_of_ratio {a b u v m n d k : Nat} (hd : 0 < d) (hu : u * k = m * d)
    (hv : v * k = n * d) (h : a * m < b * n) : a * u < b * v := by
  refine Nat.lt_of_mul_lt_mul_right (a := k) ?_
  rw [Nat.mul_assoc, Nat.mul_assoc, hu, hv, ← Nat.mul_assoc, ← Nat.mul_assoc]
  exact Nat.mul_lt_mul_of_pos_right h hd

theorem reads_of_half_step {x : Binary64} {coefficient places : Nat}
    (hsize : tenTo 16 * (tenTo places * unitScale) ≤ x.units * tenTo gridPlaces)
    (hlow : 2 * (x.units * tenTo gridPlaces) ≤
      2 * (coefficient * (tenTo places * unitScale)) + tenTo places * unitScale)
    (hhigh : 2 * (coefficient * (tenTo places * unitScale)) ≤
      2 * (x.units * tenTo gridPlaces) + tenTo places * unitScale) :
    (⟨coefficient, (places : Int) - gridPlaces⟩ : Decimal).toBinary64? x.negative = some x := by
  obtain ⟨n, d, hd, hratio, hreads⟩ := Decimal.exists_ratio coefficient places
  have hunits : x.units * d * tenTo gridPlaces = x.units * tenTo gridPlaces * d :=
    Nat.mul_right_comm ..
  have hn : n * unitScale * tenTo gridPlaces = coefficient * (tenTo places * unitScale) * d := by
    rw [Nat.mul_right_comm, hratio]
    simp only [Nat.mul_assoc, Nat.mul_comm d]
  have hstep : 0 < tenTo places * unitScale := Nat.mul_pos (tenTo_pos places) unitScale_bounds.1
  generalize tenTo places * unitScale = step at hsize hlow hhigh hstep hn
  have hdigits : tenTo 16 = 10000000000000000 := by decide
  have hprecision : 2 * significandEnd = 18014398509481984 := by decide
  rw [hdigits] at hsize
  have hbelow : (2 * significandEnd - 1) * (x.units * tenTo gridPlaces) <
      2 * significandEnd * (coefficient * step) := by
    rw [hprecision]
    omega
  have habove : 2 * significandEnd * (coefficient * step) <
      (2 * significandEnd + 1) * (x.units * tenTo gridPlaces) := by
    rw [hprecision]
    omega
  rw [hreads]
  exact ofRatio?_of_near ⟨mul_lt_mul_of_ratio hd hunits hn hbelow,
    mul_lt_mul_of_ratio hd hn hunits habove⟩

theorem chooseNeighbour_of_seventeen {x : Binary64} {grid places : Nat}
    (hgrid : x.units * tenTo gridPlaces / unitScale = grid) (hplaces : tenTo 16 * tenTo places ≤ grid) :
    (chooseNeighbour x places (grid / tenTo places)).isSome := by
  have hlow : tenTo 16 ≤ grid / tenTo places :=
    (Nat.le_div_iff_mul_le (tenTo_pos places)).mpr hplaces
  have hfloor : grid / tenTo places * tenTo places ≤ grid := Nat.div_mul_le_self ..
  have hceil : grid + 1 ≤ (grid / tenTo places + 1) * tenTo places :=
    (Nat.div_lt_iff_lt_mul (tenTo_pos places)).mp (Nat.lt_succ_self _)
  have hunits : grid * unitScale ≤ x.units * tenTo gridPlaces := hgrid ▸ Nat.div_mul_le_self ..
  have hnext : x.units * tenTo gridPlaces < (grid + 1) * unitScale :=
    (Nat.div_lt_iff_lt_mul unitScale_bounds.1).mp (hgrid ▸ Nat.lt_succ_self _)
  generalize grid / tenTo places = low at hlow hfloor hceil ⊢
  have hbelow : low * (tenTo places * unitScale) ≤ x.units * tenTo gridPlaces := by
    rw [← Nat.mul_assoc]
    exact Nat.le_trans (Nat.mul_le_mul_right _ hfloor) hunits
  have habove : x.units * tenTo gridPlaces < (low + 1) * (tenTo places * unitScale) := by
    rw [← Nat.mul_assoc]
    exact Nat.lt_of_lt_of_le hnext (Nat.mul_le_mul_right _ hceil)
  have hsize : tenTo 16 * (tenTo places * unitScale) ≤ x.units * tenTo gridPlaces := by
    rw [← Nat.mul_assoc]
    exact Nat.le_trans (Nat.mul_le_mul_right _ hplaces) hunits
  refine chooseNeighbour_isSome (Nat.ne_of_gt (Nat.lt_of_lt_of_le (by decide) hlow)) ?_
  by_cases hhalf : 2 * (x.units * tenTo gridPlaces) ≤
      2 * (low * (tenTo places * unitScale)) + tenTo places * unitScale
  · exact .inl (reads_of_half_step hsize hhalf (by omega))
  · have hstep := Nat.add_one_mul low (tenTo places * unitScale)
    exact .inr (reads_of_half_step hsize (by omega) (by omega))

theorem shortest_reads {x : Binary64} (h : x.significand ≠ 0) :
    x.shortest.toBinary64? x.negative = some x := by
  have hunits : 0 < x.units := Nat.mul_pos (Nat.pos_of_ne_zero h) (Nat.pow_pos (by decide))
  have hgrid : tenTo 17 ≤ x.units * tenTo gridPlaces / unitScale := by
    rw [Nat.le_div_iff_mul_le unitScale_bounds.1]
    exact Nat.le_trans unitScale_bounds.2 (Nat.le_mul_of_pos_left _ hunits)
  rw [shortest]
  refine searchShortest_reads (k := 17) (by decide) (by decide) ?_
  refine chooseNeighbour_of_seventeen rfl ?_
  generalize x.units * tenTo gridPlaces / unitScale = grid at hgrid
  have hlength : tenTo (ofNat 10 grid).length ≤ 10 * grid :=
    pow_length_le (by decide) (Nat.ne_of_gt (Nat.lt_of_lt_of_le (tenTo_pos 17) hgrid))
  rcases Nat.le_total 17 (ofNat 10 grid).length with hle | hle
  · obtain ⟨places, hplaces⟩ := Nat.exists_eq_add_of_le hle
    rw [hplaces, tenTo_add] at hlength
    rw [hplaces, Nat.add_sub_cancel_left]
    have hseventeen : tenTo 17 = 10 * tenTo 16 := by decide
    rw [hseventeen, Nat.mul_assoc] at hlength
    omega
  · rw [Nat.sub_eq_zero_of_le hle]
    exact Nat.le_trans (by decide) hgrid

theorem shortest_coefficient_ne_zero {x : Binary64} (h : x.significand ≠ 0) :
    x.shortest.coefficient ≠ 0 := by
  have hreads := shortest_reads h
  intro hzero
  generalize x.shortest = short at hreads hzero
  obtain ⟨coefficient, exponent⟩ := short
  subst hzero
  rw [Decimal.toBinary64?_zero] at hreads
  have hsignificand := congrArg significand (Option.some.inj hreads)
  exact h hsignificand.symm

end Binary64

end SelectiveDisclosure
