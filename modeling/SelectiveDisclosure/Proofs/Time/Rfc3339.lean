import SelectiveDisclosure.Proofs.Multibase
import SelectiveDisclosure.Proofs.Time
import SelectiveDisclosure.Proofs.Time.Calendar

namespace SelectiveDisclosure

namespace Rfc3339

open Calendar

theorem length_two : ∀ n < 100, (two n).length = 2 := by decide

theorem two_append_inj {m n : Nat} (hm : m < 100) (hn : n < 100) {r s : List Char}
    (h : two m ++ r = two n ++ s) : m = n ∧ r = s := by
  obtain ⟨htwo, hrest⟩ := List.append_inj h (by rw [length_two m hm, length_two n hn])
  exact ⟨Digits.paddedDecimal_inj htwo, hrest⟩

theorem yearText_cases (y : Int) :
    (0 ≤ y ∧ yearText y = Digits.paddedDecimal 4 y.natAbs) ∨
    (0 ≤ y ∧ yearText y = '+' :: Digits.paddedDecimal 4 y.natAbs) ∨
    (y < 0 ∧ yearText y = '-' :: Digits.paddedDecimal 4 y.natAbs) := by
  rw [yearText]
  by_cases hplain : 0 ≤ y ∧ y ≤ 9999
  · exact .inl ⟨hplain.1, if_pos hplain⟩
  · rw [if_neg hplain]
    by_cases hneg : y < 0
    · exact .inr (.inr ⟨hneg, by rw [if_pos hneg]⟩)
    · exact .inr (.inl ⟨by omega, by rw [if_neg hneg]⟩)

theorem paddedDecimal_ne_cons {width n : Nat} {c : Char} (hc : c < '0') (cs : List Char) :
    Digits.paddedDecimal width n ≠ c :: cs := by
  intro h
  have hdecimal := Digits.isDecimal_of_mem_paddedDecimal (h ▸ List.mem_cons_self ..)
  exact absurd hc (Char.not_lt.mpr hdecimal.1)

theorem yearText_inj {y z : Int} (h : yearText y = yearText z) : y = z := by
  have habs : Digits.paddedDecimal 4 y.natAbs = Digits.paddedDecimal 4 z.natAbs →
      y.natAbs = z.natAbs := Digits.paddedDecimal_inj
  rcases yearText_cases y with ⟨hy, htext⟩ | ⟨hy, htext⟩ | ⟨hy, htext⟩
  all_goals rw [htext] at h
  all_goals rcases yearText_cases z with ⟨hz, htext'⟩ | ⟨hz, htext'⟩ | ⟨hz, htext'⟩
  all_goals rw [htext'] at h
  · have := habs h
    omega
  · exact absurd h (paddedDecimal_ne_cons (by decide) _)
  · exact absurd h (paddedDecimal_ne_cons (by decide) _)
  · exact absurd h.symm (paddedDecimal_ne_cons (by decide) _)
  · have := habs (List.cons.inj h).2
    omega
  · exact absurd (List.cons.inj h).1 (by decide)
  · exact absurd h.symm (paddedDecimal_ne_cons (by decide) _)
  · exact absurd (List.cons.inj h).1 (by decide)
  · have := habs (List.cons.inj h).2
    omega

structure Fields where
  month : Nat
  day : Nat
  hour : Nat
  minute : Nat
  second : Nat

namespace Fields

def text (f : Fields) : List Char :=
  '-' :: (two f.month ++ '-' :: (two f.day ++ 'T' ::
    (two f.hour ++ ':' :: (two f.minute ++ ':' :: two f.second))))

structure Short (f : Fields) : Prop where
  month : f.month < 100
  day : f.day < 100
  hour : f.hour < 100
  minute : f.minute < 100
  second : f.second < 100

theorem length_text {f : Fields} (h : f.Short) : f.text.length = 15 := by
  simp [text, length_two _ h.month, length_two _ h.day, length_two _ h.hour, length_two _ h.minute,
    length_two _ h.second]

theorem text_inj {f g : Fields} (hf : f.Short) (hg : g.Short) (h : f.text = g.text) : f = g := by
  obtain ⟨hmonth, h⟩ := two_append_inj hf.month hg.month (List.cons.inj h).2
  obtain ⟨hday, h⟩ := two_append_inj hf.day hg.day (List.cons.inj h).2
  obtain ⟨hhour, h⟩ := two_append_inj hf.hour hg.hour (List.cons.inj h).2
  obtain ⟨hminute, h⟩ := two_append_inj hf.minute hg.minute (List.cons.inj h).2
  have hsecond := Digits.paddedDecimal_inj (List.cons.inj h).2
  cases f; cases g
  simp_all

end Fields

def dateOf (t : Instant) : Date := Date.ofDays (t.second / 86400 + epochDay)

def fieldsOf (t : Instant) : Fields where
  month := (dateOf t).month
  day := (dateOf t).day
  hour := (t.second % 86400).toNat / 3600
  minute := (t.second % 86400).toNat / 60 % 60
  second := (t.second % 86400).toNat % 60 + t.nano / 1000000000

theorem clockText_eq (t : Instant) : clockText t = yearText (dateOf t).year ++ (fieldsOf t).text := rfl

theorem fieldsOf_short (t : Instant) : (fieldsOf t).Short := by
  have hdate := of_ofDays (t.second / 86400 + epochDay)
  have hvalid := t.valid
  refine ⟨Nat.lt_of_le_of_lt hdate.month.2 (by decide), Nat.lt_of_le_of_lt hdate.day.2 (by decide),
    ?_, ?_, ?_⟩
  · simp only [fieldsOf]
    omega
  · simp only [fieldsOf]
    omega
  · simp only [fieldsOf]
    omega

theorem truncate_eq_of_fields {s t : Instant} (hs : s.OnClock) (ht : t.OnClock)
    (hday : s.second / 86400 = t.second / 86400) (hfields : fieldsOf s = fieldsOf t) :
    s.truncate = t.truncate := by
  have hsnano := s.valid
  have htnano := t.valid
  rw [Instant.OnClock] at hs ht
  have hhour := congrArg Fields.hour hfields
  have hminute := congrArg Fields.minute hfields
  have hsecond := congrArg Fields.second hfields
  simp only [fieldsOf] at hhour hminute hsecond
  refine Instant.eq_of_fields ?_ ?_
  · simp only [Instant.truncate_second]
    omega
  · simp only [Instant.truncate_nano]
    split <;> split <;> omega

-- The year has no fixed width, but what follows it has.
theorem truncate_eq_of_clockText {s t : Instant} (hs : s.OnClock) (ht : t.OnClock)
    (h : clockText s = clockText t) : s.truncate = t.truncate := by
  have hsshort := fieldsOf_short s
  have htshort := fieldsOf_short t
  rw [clockText_eq, clockText_eq] at h
  obtain ⟨hyear, hfields⟩ :=
    List.append_inj' h (by rw [Fields.length_text hsshort, Fields.length_text htshort])
  have hfields := Fields.text_inj hsshort htshort hfields
  have hdate : dateOf s = dateOf t := by
    have hmonth := congrArg Fields.month hfields
    have hday := congrArg Fields.day hfields
    rw [fieldsOf, fieldsOf] at hmonth hday
    have hyear := yearText_inj hyear
    generalize dateOf s = d at *
    generalize dateOf t = e at *
    cases d; cases e
    simp_all
  have hday := ofDays_inj hdate
  exact truncate_eq_of_fields hs ht (by omega) hfields

@[simp] theorem clockText_truncate (t : Instant) : clockText t.truncate = clockText t := by
  have hvalid := t.valid
  have hnano : t.truncate.nano / 1000000000 = t.nano / 1000000000 := by
    rw [Instant.truncate_nano]
    split
    · omega
    · omega
  rw [clockText, clockText, Instant.truncate_second, hnano]

theorem dateOf_next {t : Instant} (h : ¬t.OnClock) : dateOf (.whole (t.second + 1)) = dateOf t := by
  have hday : (t.second + 1) / 86400 = t.second / 86400 := by
    rw [Instant.OnClock] at h
    omega
  rw [dateOf, dateOf, Instant.whole, hday]

theorem fieldsOf_next {t : Instant} (h : ¬t.OnClock) :
    fieldsOf (.whole (t.second + 1)) = fieldsOf t := by
  have hvalid := t.valid
  rw [fieldsOf, fieldsOf, dateOf_next h]
  rw [Instant.OnClock] at h
  simp only [Instant.whole, Fields.mk.injEq]
  refine ⟨trivial, trivial, ?_, ?_, ?_⟩
  · omega
  · omega
  · omega

@[simp] theorem clockText_written (t : Instant) : clockText t.written = clockText t := by
  by_cases h : t.OnClock
  · rw [h.written_eq, clockText_truncate]
  · rw [Instant.written_eq_of_not_onClock h, clockText_eq, clockText_eq, fieldsOf_next h, dateOf_next h]

theorem secondsText_eq_iff {s t : Instant} :
    secondsText s = secondsText t ↔ s.written = t.written := by
  rw [secondsText, secondsText, String.ofList_inj, List.append_left_inj, ← clockText_written s,
    ← clockText_written t]
  constructor
  · intro h
    have heq := truncate_eq_of_clockText (Instant.onClock_written s) (Instant.onClock_written t) h
    rwa [Instant.truncate_written, Instant.truncate_written] at heq
  · exact congrArg clockText

@[simp] theorem secondsText_ne_empty (t : Instant) : secondsText t ≠ "" := by
  simp [secondsText]

theorem isBasic_paddedDecimal (width n : Nat) :
    Text.isBasic (Digits.paddedDecimal width n) = true := by
  refine List.all_eq_true.mpr fun c hc => decide_eq_true ?_
  exact Nat.lt_of_le_of_lt (Digits.isDecimal_of_mem_paddedDecimal hc).2 (by decide)

theorem isBasic_clockText (t : Instant) : Text.isBasic (clockText t) = true := by
  have htwo : ∀ n, Text.isBasic (two n) = true := isBasic_paddedDecimal 2
  have hyear : Text.isBasic (yearText (dateOf t).year) = true := by
    have habs := isBasic_paddedDecimal 4 (dateOf t).year.natAbs
    rcases yearText_cases (dateOf t).year with ⟨-, h⟩ | ⟨-, h⟩ | ⟨-, h⟩
    all_goals rw [h]
    · exact habs
    · exact habs
    · exact habs
  rw [clockText_eq, Fields.text]
  simp only [Text.isBasic, List.all_append, List.all_cons] at htwo hyear ⊢
  simp [htwo, hyear]

@[simp] theorem normalize_secondsText (t : Instant) :
    Text.normalize (secondsText t) = secondsText t := by
  refine Text.normalize_of_lt fun c hc => ?_
  rw [secondsText, String.toList_ofList] at hc
  rcases List.mem_append.mp hc with hc | hc
  · exact Text.lt_of_isBasic (isBasic_clockText t) c hc
  · rw [List.mem_singleton.mp hc]
    decide

end Rfc3339

end SelectiveDisclosure
