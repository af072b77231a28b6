import Mathlib.Data.List.TakeWhile
import SelectiveDisclosure.Proofs.Except
import SelectiveDisclosure.Proofs.Number.Numeral
import SelectiveDisclosure.Proofs.Time.Rfc3339

namespace SelectiveDisclosure

namespace Text

theorem trimStart_cons {c : Char} (h : isWhiteSpace c = false) (cs : List Char) :
    trimStart (c :: cs) = c :: cs :=
  List.dropWhile_cons_of_neg (by simp [h])

end Text

namespace Rfc3339

open Calendar Digits

theorem char_digit : ∀ d < 10, Text.isWhiteSpace (char d) = false ∧ isDigit (char d) = true ∧
    char d ≠ '-' ∧ char d ≠ '+' := by
  decide

theorem trimStart_digits {ds : List Nat} (h : Run ds) (rest : List Char) :
    Text.trimStart (ds.map char ++ rest) = ds.map char ++ rest := by
  cases ds with
  | nil => exact absurd rfl h.ne_nil
  | cons d ds => exact Text.trimStart_cons (char_digit d (h.lt d (List.mem_cons_self ..))).1 _

def Stops (rest : List Char) : Prop := ∀ c ∈ rest.head?, isDigit c = false

theorem stops_cons {c : Char} (h : isDigit c = false) (rest : List Char) : Stops (c :: rest) :=
  fun _ hc => Option.some.inj hc ▸ h

theorem takeWhile_digits {ds : List Nat} (h : Run ds) {width : Nat} (hwidth : ds.length ≤ width)
    {rest : List Char} (hrest : ds.length = width ∨ Stops rest) :
    ((ds.map char ++ rest).take width).takeWhile isDigit = ds.map char := by
  have hall : ∀ c ∈ ds.map char, isDigit c = true := by
    intro c hc
    obtain ⟨d, hd, rfl⟩ := List.mem_map.mp hc
    exact (char_digit d (h.lt d hd)).2.1
  have hstop : (rest.take (width - ds.length)).takeWhile isDigit = [] := by
    rcases hrest with rfl | hrest
    · rw [Nat.sub_self]
      rfl
    · cases hwidth' : width - ds.length with
      | zero => rfl
      | succ more =>
        cases rest with
        | nil => rfl
        | cons c rest => exact List.takeWhile_cons_of_neg (by simp [hrest c rfl])
  rw [List.take_append, List.length_map, List.take_of_length_le (by rwa [List.length_map]),
    List.takeWhile_append_of_pos hall, hstop, List.append_nil]

theorem numberOf_digits {ds : List Nat} (h : Run ds) : numberOf (ds.map char) = toNat 10 ds := by
  have hvalues : (ds.map char).filterMap value? = ds := by
    rw [List.filterMap_map]
    refine (List.filterMap_congr fun d hd => ?_).trans List.filterMap_some
    exact Reading.value?_char d (h.lt d hd)
  rw [numberOf, hvalues]

theorem takeNumber_digits {ds : List Nat} (h : Run ds) {width : Nat} (hwidth : ds.length ≤ width)
    {rest : List Char} (hrest : ds.length = width ∨ Stops rest) :
    takeNumber width (ds.map char ++ rest) = .ok (toNat 10 ds, rest) := by
  unfold takeNumber
  rw [takeWhile_digits h hwidth hrest]
  cases ds with
  | nil => exact absurd rfl h.ne_nil
  | cons d ds =>
    refine congrArg Except.ok (Prod.ext (numberOf_digits h) ?_)
    exact List.drop_left

theorem takeNumber_padded {width n : Nat} (hwidth : 0 < width) (h : n < tenTo width) (rest : List Char) :
    takeNumber width (paddedDecimal width n ++ rest) = .ok (n, rest) := by
  have hlength := length_padded h
  rw [paddedDecimal, takeNumber_digits (run_padded hwidth n) hlength.le (.inl hlength),
    toNat_padded]

theorem takeLongNumber_padded {width n : Nat} (hwidth : 0 < width) (h : n ≤ numberLimit) {rest : List Char}
    (hrest : Stops rest) : takeLongNumber (paddedDecimal width n ++ rest) = .ok (n, rest) := by
  rw [paddedDecimal]
  have hlength : (padded 10 width n).length ≤ ((padded 10 width n).map char ++ rest).length := by
    rw [List.length_append, List.length_map]
    exact Nat.le_add_right _ _
  rw [takeLongNumber, takeNumber_digits (run_padded hwidth n) hlength (.inr hrest),
    toNat_padded]
  exact if_pos h

theorem takeYear_digits {ds : List Nat} (hds : Run ds) {n : Nat} {rest more : List Char}
    (h : takeNumber 4 (ds.map char ++ rest) = .ok (n, more)) :
    takeYear (ds.map char ++ rest) = .ok ((n : Int), more) := by
  rw [takeYear, trimStart_digits hds]
  cases ds with
  | nil => exact absurd rfl hds.ne_nil
  | cons d ds =>
    obtain ⟨-, -, hminus, hplus⟩ := char_digit d (hds.lt d (List.mem_cons_self ..))
    rw [List.map_cons, List.cons_append] at h ⊢
    split
    · rename_i heq
      exact absurd (List.cons.inj heq).1 hminus
    · rename_i heq
      exact absurd (List.cons.inj heq).1 hplus
    · rw [h]
      rfl

theorem takeYear_minus {cs rest : List Char} {n : Nat} (h : takeLongNumber cs = .ok (n, rest)) :
    takeYear ('-' :: cs) = .ok (-(n : Int), rest) := by
  rw [takeYear, Text.trimStart_cons (by decide)]
  change takeLongNumber cs >>= _ = _
  rw [h]
  rfl

theorem takeYear_plus {cs rest : List Char} {n : Nat} (h : takeLongNumber cs = .ok (n, rest)) :
    takeYear ('+' :: cs) = .ok ((n : Int), rest) := by
  rw [takeYear, Text.trimStart_cons (by decide)]
  change takeLongNumber cs >>= _ = _
  rw [h]
  rfl

theorem takeYear_text {y : Int} (h : y.natAbs ≤ numberLimit) {rest : List Char} (hrest : Stops rest) :
    takeYear (yearText y ++ rest) = .ok (y, rest) := by
  have hlong : takeLongNumber (paddedDecimal 4 y.natAbs ++ rest) = .ok (y.natAbs, rest) :=
    takeLongNumber_padded (by decide) h hrest
  rw [yearText]
  split
  · rename_i hplain
    have hshort : y.natAbs < tenTo 4 := by
      have hten : tenTo 4 = 10000 := rfl
      omega
    refine (takeYear_digits (run_padded (by decide) _) (takeNumber_padded (by decide) hshort rest)).trans ?_
    rw [Int.natAbs_of_nonneg hplain.1]
  · split
    · rename_i hneg
      refine (takeYear_minus hlong).trans (congrArg (fun z => Except.ok (z, rest)) ?_)
      omega
    · rename_i hneg
      refine (takeYear_plus hlong).trans (congrArg (fun z => Except.ok (z, rest)) ?_)
      omega

theorem takeField_two {low high n : Nat} (hn : low ≤ n ∧ n ≤ high) (hshort : n < 100)
    (rest : List Char) : takeField low high (two n ++ rest) = .ok (n, rest) := by
  have htake : takeNumber 2 (paddedDecimal 2 n ++ rest) = .ok (n, rest) :=
    takeNumber_padded (by decide) hshort rest
  rw [paddedDecimal] at htake
  rw [takeField, two, paddedDecimal, trimStart_digits (run_padded (by decide) n), htake]
  exact if_pos hn

theorem takeMark_cons {mark : Char} (h : Text.isWhiteSpace mark = false) (rest : List Char) :
    takeMark mark (mark :: rest) = .ok rest := by
  rw [takeMark, Text.trimStart_cons h]
  exact if_pos rfl

theorem takeDivider_cons (rest : List Char) : takeDivider ('T' :: rest) = .ok rest := rfl

theorem takeFraction_digits {width n : Nat} (hwidth : 0 < width ∧ width ≤ 9) (hn : n < tenTo width)
    {rest : List Char} (hrest : Stops rest) :
    takeFraction ('.' :: (paddedDecimal width n ++ rest)) = .ok (n * tenTo (9 - width), rest) := by
  have hlength := length_padded hn
  have htake : takeNumber 9 (paddedDecimal width n ++ rest) = .ok (n, rest) := by
    have htake := takeNumber_digits (run_padded hwidth.1 n) (hlength.trans_le hwidth.2) (.inr hrest)
    rwa [toNat_padded] at htake
  have hdropped : rest.dropWhile isDigit = rest := by
    cases rest with
    | nil => rfl
    | cons c rest => exact List.dropWhile_cons_of_neg (by simp [hrest c rfl])
  have hwritten : (paddedDecimal width n ++ rest).length - rest.length = width := by
    rw [List.length_append, Nat.add_sub_cancel, paddedDecimal, List.length_map, hlength]
  rw [takeFraction]
  refine bind_ok_iff.mpr ⟨_, htake, ?_⟩
  dsimp only
  rw [hwritten, hdropped]
  rfl

theorem takeFraction_text {nano : Nat} (h : nano < 1000000000) {rest : List Char}
    (hrest : Stops rest) (hpoint : rest.head? ≠ some '.') :
    takeFraction (fractionText nano ++ rest) = .ok (nano, rest) := by
  have hfraction : ∀ width unit : Nat, 0 < width ∧ width ≤ 9 → tenTo (9 - width) = unit →
      nano % unit = 0 → nano / unit < tenTo width →
      takeFraction ('.' :: (paddedDecimal width (nano / unit) ++ rest)) = .ok (nano, rest) := by
    intro width unit hwidth hunit hmod hdiv
    rw [takeFraction_digits hwidth hdiv hrest, hunit, Nat.div_mul_cancel (Nat.dvd_of_mod_eq_zero hmod)]
  rw [fractionText]
  split
  · rename_i hzero
    rw [List.nil_append, takeFraction, hzero]
    intro cs hcs
    exact hpoint (by rw [hcs]; rfl)
  · split
    · rename_i hmilli
      have hthree : nano / 1000000 < 1000 := by omega
      exact hfraction 3 1000000 (by decide) rfl hmilli hthree
    · split
      · rename_i hmicro
        have hsix : nano / 1000 < 1000000 := by omega
        exact hfraction 6 1000 (by decide) rfl hmicro hsix
      · have hnine := hfraction 9 1 (by decide) rfl (Nat.mod_one _)
        rw [Nat.div_one] at hnine
        exact hnine h

theorem daysBeforeYear_le {y z : Int} (h : y ≤ z) : daysBeforeYear y ≤ daysBeforeYear z := by
  rw [daysBeforeYear, daysBeforeYear]
  omega

def InRange (t : Instant) : Prop := firstSecond ≤ t.second ∧ t.second < endSecond

theorem year_of_inRange {t : Instant} (h : InRange t) :
    firstYear ≤ (dateOf t).year ∧ (dateOf t).year ≤ lastYear := by
  obtain ⟨hbefore, hafter⟩ := yearOfDay_spec (t.second / 86400 + epochDay)
  have hfirst : firstSecond = (daysBeforeYear firstYear - epochDay) * 86400 := rfl
  have hend : endSecond = (daysBeforeYear (lastYear + 1) - epochDay) * 86400 := rfl
  have hyear : (dateOf t).year = yearOfDay (t.second / 86400 + epochDay) := rfl
  obtain ⟨hlow, hhigh⟩ := h
  rw [hyear]
  constructor
  · refine Int.le_of_not_gt fun hlt => ?_
    have hdays : daysBeforeYear (yearOfDay (t.second / 86400 + epochDay) + 1) ≤
        daysBeforeYear firstYear := daysBeforeYear_le hlt
    omega
  · refine Int.le_of_not_gt fun hlt => ?_
    have hdays : daysBeforeYear (lastYear + 1) ≤
        daysBeforeYear (yearOfDay (t.second / 86400 + epochDay)) := daysBeforeYear_le hlt
    omega

-- The 60th second is the 59th with a second of nanoseconds more.
theorem assemble_fields {t : Instant} (h : InRange t) (hclock : t.OnClock) :
    assemble (dateOf t) (fieldsOf t).hour (fieldsOf t).minute (fieldsOf t).second
      (t.nano % 1000000000) 0 = .ok t := by
  have hdate := of_ofDays (t.second / 86400 + epochDay)
  have hyear := year_of_inRange h
  have hvalid := t.valid
  have hleap := hclock
  rw [Instant.OnClock] at hleap
  have hshown : (if (fieldsOf t).second = 60 then 59 else (fieldsOf t).second) =
      (t.second % 86400).toNat % 60 := by
    rw [fieldsOf]
    dsimp only
    split <;> omega
  have hextra : (if (fieldsOf t).second = 60 then 1000000000 else 0) =
      t.nano / 1000000000 * 1000000000 := by
    rw [fieldsOf]
    dsimp only
    split <;> omega
  have htotal : ((dateOf t).toDays - epochDay) * 86400 +
      ((fieldsOf t).hour * 3600 + (fieldsOf t).minute * 60 + (t.second % 86400).toNat % 60 : Nat) - 0 =
        t.second := by
    rw [dateOf, hdate.toDays, fieldsOf]
    dsimp only
    omega
  have hnano : t.nano % 1000000000 + t.nano / 1000000000 * 1000000000 = t.nano := by omega
  rw [assemble, if_neg (not_not.mpr ⟨hyear.1, hyear.2, hdate.occurs⟩), if_neg (by decide)]
  dsimp only
  rw [hshown, hextra, htotal, hnano, hclock.make?_eq]
  exact if_pos h

theorem of_assemble {date : Date} {hour minute second nano : Nat} {offset : Int} {t : Instant}
    (h : assemble date hour minute second nano offset = .ok t) : InRange t ∧ t.OnClock := by
  rw [assemble] at h
  generalize (if second = 60 then 59 else second) = shown at h
  generalize (if second = 60 then 1000000000 else 0) = extra at h
  split at h
  · cases h
  · split at h
    · cases h
    · dsimp only at h
      split at h
      · rename_i hrange
        split at h
        · rename_i made hmake
          cases h
          rw [InRange, (Instant.fields_of_make? hmake).1]
          exact ⟨hrange, Instant.onClock_of_make? hmake⟩
        · cases h
      · cases h

theorem yearLimits {y : Int} (h : firstYear ≤ y ∧ y ≤ lastYear) :
    y.natAbs ≤ numberLimit ∧ -yearLimit ≤ y ∧ y < yearLimit := by
  rw [firstYear, lastYear] at h
  rw [numberLimit, yearLimit]
  omega

theorem fieldsOf_le (t : Instant) :
    (fieldsOf t).hour ≤ 23 ∧ (fieldsOf t).minute ≤ 59 ∧ (fieldsOf t).second ≤ 60 := by
  have hvalid := t.valid
  simp only [fieldsOf]
  omega

theorem read_text {t : Instant} (h : InRange t) (hclock : t.OnClock) : read (text t) = .ok t := by
  have hshort := fieldsOf_short t
  have hdate := of_ofDays (t.second / 86400 + epochDay)
  obtain ⟨hlong, hlimit⟩ := yearLimits (year_of_inRange h)
  obtain ⟨hhour, hminute, hsecond⟩ := fieldsOf_le t
  have hnano : t.nano % 1000000000 < 1000000000 := Nat.mod_lt _ (by decide)
  rw [read, text, String.toList_ofList, clockText_eq, Fields.text]
  simp only [List.append_assoc, List.cons_append]
  refine bind_ok_iff.mpr ⟨_, takeYear_text hlong (stops_cons rfl _), ?_⟩
  refine throw_ok_iff.mpr ⟨not_not.mpr hlimit, ?_⟩
  refine bind_ok_iff.mpr ⟨_, takeMark_cons (by decide) _, ?_⟩
  refine bind_ok_iff.mpr ⟨_, takeField_two hdate.month hshort.month _, ?_⟩
  refine bind_ok_iff.mpr ⟨_, takeMark_cons (by decide) _, ?_⟩
  refine bind_ok_iff.mpr ⟨_, takeField_two hdate.day hshort.day _, ?_⟩
  refine bind_ok_iff.mpr ⟨_, takeDivider_cons _, ?_⟩
  refine bind_ok_iff.mpr ⟨_, takeField_two ⟨Nat.zero_le _, hhour⟩ hshort.hour _, ?_⟩
  refine bind_ok_iff.mpr ⟨_, takeMark_cons (by decide) _, ?_⟩
  refine bind_ok_iff.mpr ⟨_, takeField_two ⟨Nat.zero_le _, hminute⟩ hshort.minute _, ?_⟩
  refine bind_ok_iff.mpr ⟨_, takeMark_cons (by decide) _, ?_⟩
  refine bind_ok_iff.mpr ⟨_, takeField_two ⟨Nat.zero_le _, hsecond⟩ hshort.second _, ?_⟩
  refine bind_ok_iff.mpr ⟨_, takeFraction_text hnano (stops_cons rfl _) (by decide), ?_⟩
  refine bind_ok_iff.mpr ⟨(0, []), rfl, ?_⟩
  exact throw_ok_iff.mpr ⟨by decide, assemble_fields h hclock⟩

theorem of_read {s : String} {t : Instant} (h : read s = .ok t) : InRange t ∧ t.OnClock := by
  obtain ⟨_, -, h⟩ := bind_ok_iff.mp h
  obtain ⟨-, h⟩ := throw_ok_iff.mp h
  simp only [bind_ok_iff] at h
  obtain ⟨_, -, _, -, _, -, _, -, _, -, _, -, _, -, _, -, _, -, _, -, _, -, _, -, h⟩ := h
  obtain ⟨-, h⟩ := throw_ok_iff.mp h
  exact of_assemble h

end Rfc3339

end SelectiveDisclosure
