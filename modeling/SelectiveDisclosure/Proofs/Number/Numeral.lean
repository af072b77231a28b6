import SelectiveDisclosure.Json.Reading
import SelectiveDisclosure.Proofs.Number.Shortest
import SelectiveDisclosure.Proofs.Number.Text

namespace SelectiveDisclosure

namespace Numeral

def digitsText (ds : List Nat) : List Char := ds.map Digits.char

def fractionText : Option (List Nat) → List Char
  | none => []
  | some ds => '.' :: digitsText ds

def exponentText : Option (Bool × List Nat) → List Char
  | none => []
  | some (negative, ds) => 'e' :: (if negative then '-' else '+') :: digitsText ds

def magnitudeText (r : Numeral) : List Char :=
  digitsText r.whole ++ (fractionText r.fraction ++ exponentText r.exponent)

def text (r : Numeral) : List Char :=
  if r.negative then '-' :: r.magnitudeText else r.magnitudeText

structure Proper (r : Numeral) : Prop where
  whole : Digits.Run r.whole
  unpadded : r.whole = [0] ∨ r.whole.head? ≠ some 0
  fraction : ∀ ds ∈ r.fraction, Digits.Run ds
  exponent : ∀ e ∈ r.exponent, Digits.Run e.2

def Ended (rest : List Char) : Prop :=
  ∀ c ∈ rest.head?, Digits.value? c = none ∧ c ≠ '.' ∧ c ≠ 'e' ∧ c ≠ 'E'

end Numeral

namespace Reading

open Numeral

theorem value?_char : ∀ d < 10, Digits.value? (Digits.char d) = some d := by decide

theorem takeDigits_text {ds : List Nat} (h : ∀ d ∈ ds, d < 10) {rest : List Char}
    (hrest : ∀ c ∈ rest.head?, Digits.value? c = none) :
    takeDigits (digitsText ds ++ rest) = (ds, rest) := by
  induction ds with
  | nil =>
    cases rest with
    | nil => rfl
    | cons c rest => simp [digitsText, takeDigits, hrest c rfl]
  | cons d ds ih =>
    obtain ⟨hd, hds⟩ := List.forall_mem_cons.mp h
    have htail := ih hds
    rw [digitsText] at htail
    simp [digitsText, takeDigits, value?_char d hd, htail]

theorem readWhole_text {ds : List Nat} (h : Digits.Run ds)
    (hunpadded : ds = [0] ∨ ds.head? ≠ some 0) {rest : List Char}
    (hrest : ∀ c ∈ rest.head?, Digits.value? c = none) :
    readWhole (digitsText ds ++ rest) = some (ds, rest) := by
  rcases hunpadded with rfl | hhead
  · cases rest with
    | nil => rfl
    | cons c rest =>
      have hc := hrest c rfl
      change (if (Digits.value? c).isSome then none else some ([0], c :: rest)) = _
      rw [hc]
      rfl
  · obtain ⟨d, ds, rfl⟩ := List.exists_cons_of_ne_nil h.ne_nil
    have hne : Digits.char d ≠ '0' := by
      have hall : ∀ d < 10, Digits.char d = '0' → d = 0 := by decide
      intro hzero
      exact hhead (congrArg some (hall d (h.lt d (List.mem_cons_self ..)) hzero))
    have htake := takeDigits_text h.lt hrest
    rw [digitsText, List.map_cons, List.cons_append] at htake ⊢
    rw [readWhole, htake]
    intro cs hcs
    exact absurd (List.cons.inj hcs).1 hne

theorem readFraction_text {f : Option (List Nat)} (h : ∀ ds ∈ f, Digits.Run ds) {rest : List Char}
    (hrest : ∀ c ∈ rest.head?, Digits.value? c = none ∧ c ≠ '.') :
    readFraction (fractionText f ++ rest) = some (f, rest) := by
  cases f with
  | none =>
    rw [fractionText, List.nil_append, readFraction]
    rintro cs rfl
    exact (hrest '.' rfl).2 rfl
  | some ds =>
    have hds := h ds rfl
    rw [fractionText, List.cons_append, readFraction,
      takeDigits_text hds.lt fun c hc => (hrest c hc).1]
    obtain ⟨d, ds, rfl⟩ := List.exists_cons_of_ne_nil hds.ne_nil
    rfl

theorem readExponent_text {e : Option (Bool × List Nat)} (h : ∀ p ∈ e, Digits.Run p.2)
    {rest : List Char} (hrest : Ended rest) :
    readExponent (exponentText e ++ rest) = some (e, rest) := by
  cases e with
  | none =>
    rw [exponentText, List.nil_append, readExponent]
    · rintro cs rfl
      exact (hrest 'e' rfl).2.2.1 rfl
    · rintro cs rfl
      exact (hrest 'E' rfl).2.2.2 rfl
  | some p =>
    obtain ⟨negative, ds⟩ := p
    have hds : Digits.Run ds := h _ rfl
    have htake := takeDigits_text hds.lt fun c hc => (hrest c hc).1
    obtain ⟨d, ds, rfl⟩ := List.exists_cons_of_ne_nil hds.ne_nil
    cases negative with
    | false => simp [exponentText, readExponent, readPower, htake]
    | true => simp [exponentText, readExponent, readPower, htake]

theorem readNumeral_text {r : Numeral} (h : r.Proper) {rest : List Char} (hrest : Ended rest) :
    readNumeral r.negative (r.magnitudeText ++ rest) = some (r, rest) := by
  have hexponent : ∀ c ∈ (exponentText r.exponent ++ rest).head?,
      Digits.value? c = none ∧ c ≠ '.' := by
    cases he : r.exponent with
    | none => exact fun c hc => ⟨(hrest c hc).1, (hrest c hc).2.1⟩
    | some p =>
      rintro c ⟨⟩
      decide
  have hfraction : ∀ c ∈ (fractionText r.fraction ++ (exponentText r.exponent ++ rest)).head?,
      Digits.value? c = none := by
    cases hf : r.fraction with
    | none => exact fun c hc => (hexponent c hc).1
    | some ds =>
      rintro c ⟨⟩
      decide
  rw [readNumeral, magnitudeText, List.append_assoc, List.append_assoc,
    readWhole_text h.whole h.unpadded hfraction]
  simp [readFraction_text h.fraction hexponent, readExponent_text h.exponent hrest]

theorem readValue_minus {ν : Type} (leaf : Numeral → ν) (steps : Nat) (cs : List Char) :
    readValue leaf (steps + 1) ('-' :: cs) = match readNumeral true cs with
      | some (r, rest) => (number (leaf r), some rest)
      | none => (broken, none) := rfl

theorem readValue_digit {ν : Type} (leaf : Numeral → ν) (steps : Nat) {d : Nat} (hd : d < 10)
    (cs : List Char) : readValue leaf (steps + 1) (Digits.char d :: cs) =
      match readNumeral false (Digits.char d :: cs) with
      | some (r, rest) => (number (leaf r), some rest)
      | none => (broken, none) := by
  obtain rfl | rfl | rfl | rfl | rfl | rfl | rfl | rfl | rfl | rfl :
      d = 0 ∨ d = 1 ∨ d = 2 ∨ d = 3 ∨ d = 4 ∨ d = 5 ∨ d = 6 ∨ d = 7 ∨ d = 8 ∨ d = 9 := by omega
  all_goals rfl

theorem readValue_numeral {ν : Type} (leaf : Numeral → ν) (steps : Nat) {r : Numeral} (h : r.Proper)
    {rest : List Char} (hrest : Ended rest) :
    readValue leaf (steps + 1) (r.text ++ rest) = (number (leaf r), some rest) := by
  have hread := readNumeral_text h hrest
  rw [Numeral.text]
  split
  · rename_i hnegative
    rw [hnegative] at hread
    rw [List.cons_append, readValue_minus, hread]
  · rename_i hnegative
    obtain ⟨d, ds, hds⟩ := List.exists_cons_of_ne_nil h.whole.ne_nil
    have htext : r.magnitudeText ++ rest = Digits.char d ::
        (digitsText ds ++ (fractionText r.fraction ++ exponentText r.exponent) ++ rest) := by
      rw [magnitudeText, hds, digitsText, List.map_cons]
      rfl
    rw [Bool.not_eq_true] at hnegative
    rw [hnegative] at hread
    have hd : d < 10 := h.whole.lt d (hds ▸ List.mem_cons_self ..)
    rw [htext, readValue_digit leaf steps hd, ← htext, hread]

end Reading

namespace Numeral

open Digits

def fractionDigits (r : Numeral) : List Nat := r.fraction.getD []

def amount (r : Numeral) : Decimal :=
  ⟨toNat 10 (r.whole ++ r.fractionDigits), r.exponentValue - r.fractionDigits.length⟩

def nearest? (r : Numeral) : Option Number :=
  match r.toInteger?.bind Number.ofInt? with
  | some n => some n
  | none => (r.amount.toBinary64? r.negative).map .float

-- `cs` is a numeral of the decimal `x` without its sign, and not an integer.
def Magnitude (cs : List Char) (x : Decimal) : Prop :=
  ∀ negative, ∃ r : Numeral, r.Proper ∧ r.negative = negative ∧ r.magnitudeText = cs ∧
    r.toInteger? = none ∧ r.amount.toBinary64? negative = x.toBinary64? negative

theorem unpadded_singleton (d : Nat) : [d] = [0] ∨ [d].head? ≠ some 0 := by
  by_cases hd : d = 0
  · exact .inl (congrArg ([·]) hd)
  · exact .inr (by simpa using hd)

theorem run_zero : Run [0] := ⟨List.cons_ne_nil _ _, by decide⟩

theorem magnitude_point {ds es : List Nat} {coefficient : Nat} {exponent : Int} (hds : Run ds)
    (hunpadded : ds = [0] ∨ ds.head? ≠ some 0) (hes : Run es)
    (hcoefficient : toNat 10 (ds ++ es) = coefficient) (hexponent : -(es.length : Int) = exponent) :
    Magnitude (digitsText ds ++ '.' :: digitsText es) ⟨coefficient, exponent⟩ := by
  intro negative
  refine ⟨⟨negative, ds, some es, none⟩, ⟨hds, hunpadded, ?_, fun _ h => nomatch h⟩, rfl, ?_, rfl, ?_⟩
  · rintro _ ⟨⟩
    exact hes
  · simp [magnitudeText, fractionText, exponentText]
  · simp [amount, fractionDigits, exponentValue, hcoefficient, hexponent]

theorem magnitude_leading_zeros {ds : List Nat} (h : Run ds) (zeros : Nat) :
    Magnitude ('0' :: '.' :: (List.replicate zeros '0' ++ digitsText ds))
      ⟨toNat 10 ds, -(zeros + ds.length : Nat)⟩ := by
  have hrun : Run (List.replicate zeros 0 ++ ds) :=
    ⟨by simp [h.ne_nil], List.forall_mem_append.mpr ⟨fun _ => lt_of_mem_zeros, h.lt⟩⟩
  have hcoefficient : toNat 10 ([0] ++ (List.replicate zeros 0 ++ ds)) = toNat 10 ds := by
    rw [toNat_append, toNat_append, toNat_zeros, show toNat 10 [0] = 0 from rfl, Nat.zero_mul,
      Nat.zero_mul, Nat.zero_add, Nat.zero_add]
  have hexponent : -((List.replicate zeros 0 ++ ds).length : Int) = -(zeros + ds.length : Nat) := by
    rw [List.length_append, List.length_replicate]
  have hpoint := magnitude_point run_zero (.inl rfl) hrun hcoefficient hexponent
  simpa [digitsText] using hpoint

-- The zeros before the point and the one after it are more digits of the same decimal.
theorem magnitude_trailing_zeros {ds : List Nat} (h : Run ds) (hhead : ds.head? ≠ some 0) (zeros : Nat) :
    Magnitude (digitsText ds ++ List.replicate zeros '0' ++ ['.', '0']) ⟨toNat 10 ds, zeros⟩ := by
  have hrun := run_append h fun d (hd : d ∈ List.replicate zeros 0) => lt_of_mem_zeros hd
  have hcoefficient : toNat 10 (ds ++ List.replicate zeros 0 ++ [0]) =
      toNat 10 ds * tenTo (zeros + 1) := by
    rw [List.append_assoc, ← List.replicate_succ', toNat_append, toNat_zeros, List.length_replicate,
      Nat.add_zero]
  have hexponent : -([0].length : Int) = zeros - (zeros + 1 : Nat) := by
    rw [List.length_singleton]
    omega
  have hpoint := magnitude_point hrun (.inr (by simpa [h.ne_nil] using hhead)) run_zero
    hcoefficient hexponent
  intro negative
  rw [← Decimal.toBinary64?_scale negative (toNat 10 ds) zeros (zeros + 1)]
  simpa [digitsText] using hpoint negative

theorem magnitude_split {ds : List Nat} (h : Run ds) (hhead : ds.head? ≠ some 0) {whole : Nat}
    (hwhole : whole ≠ 0) (hlength : whole < ds.length) :
    Magnitude (digitsText (ds.take whole) ++ '.' :: digitsText (ds.drop whole))
      ⟨toNat 10 ds, whole - ds.length⟩ := by
  have htake : Run (ds.take whole) :=
    ⟨by simp [h.ne_nil, hwhole], fun d hd => h.lt d (List.mem_of_mem_take hd)⟩
  have hdrop : Run (ds.drop whole) :=
    ⟨by simpa using hlength, fun d hd => h.lt d (List.mem_of_mem_drop hd)⟩
  refine magnitude_point htake (.inr (by simpa [List.head?_take, hwhole] using hhead)) hdrop ?_ ?_
  · rw [List.take_append_drop]
  · rw [List.length_drop]
    omega

theorem magnitude_positionalText {n : Nat} (hn : n ≠ 0) (e : Int) :
    Magnitude (Number.positionalText (decimal n) e) ⟨n, e + 1 - (decimal n).length⟩ := by
  have hrun := run_decimalDigits n
  have hvalue := toNat_decimalDigits n
  have hhead : (decimalDigits n).head? ≠ some 0 := by
    rw [decimalDigits, if_neg hn]
    exact head?_ofNat (by decide) n
  rw [Number.positionalText, decimal_eq_map, List.length_map]
  generalize decimalDigits n = ds at hrun hvalue hhead
  subst hvalue
  split
  · have hlength := List.length_pos_iff.mpr hrun.ne_nil
    rw [show e + 1 - (ds.length : Int) = -((-e).toNat - 1 + ds.length : Nat) by omega]
    exact magnitude_leading_zeros hrun _
  · dsimp only
    split
    · rw [show e + 1 - (ds.length : Int) = (e.toNat + 1 - ds.length : Nat) by omega]
      exact magnitude_trailing_zeros hrun hhead _
    · rename_i hlength
      rw [show e + 1 - (ds.length : Int) = (e.toNat + 1 : Nat) - ds.length by omega,
        ← List.map_take, ← List.map_drop]
      exact magnitude_split hrun hhead (Nat.succ_ne_zero _) (Nat.lt_of_not_le hlength)

theorem magnitude_scientificText (n : Nat) (e : Int) :
    Magnitude (Number.scientificText (decimal n) e) ⟨n, e + 1 - (decimal n).length⟩ := by
  have hrun := run_decimalDigits n
  have hvalue := toNat_decimalDigits n
  have hexponent := run_decimalDigits e.natAbs
  have hpower : ∀ negative ds fraction, (Numeral.mk negative ds fraction
      (some (decide (e < 0), decimalDigits e.natAbs))).exponentValue = e := by
    intro negative ds fraction
    simp only [exponentValue, toNat_decimalDigits, decide_eq_true_eq]
    omega
  unfold Number.scientificText
  rw [decimal_eq_map, decimal_eq_map, List.length_map]
  generalize decimalDigits n = ds at hrun hvalue
  intro negative
  match ds, hrun with
  | [], hrun => exact absurd rfl hrun.ne_nil
  | [d], hrun =>
    refine ⟨⟨negative, [d], none, some (decide (e < 0), decimalDigits e.natAbs)⟩,
      ⟨hrun, unpadded_singleton d, (fun _ h => nomatch h), ?_⟩, rfl, ?_, rfl, ?_⟩
    · rintro _ ⟨⟩
      exact hexponent
    · simp [magnitudeText, digitsText, fractionText, exponentText]
    · simp [amount, fractionDigits, hpower, hvalue]
  | d :: f :: rest, hrun =>
    obtain ⟨hd, hrest⟩ := List.forall_mem_cons.mp hrun.lt
    refine ⟨⟨negative, [d], some (f :: rest), some (decide (e < 0), decimalDigits e.natAbs)⟩,
      ⟨⟨List.cons_ne_nil _ _, by simpa using hd⟩, unpadded_singleton d, ?_, ?_⟩, rfl, ?_, rfl, ?_⟩
    · rintro _ ⟨⟩
      exact ⟨List.cons_ne_nil _ _, hrest⟩
    · rintro _ ⟨⟩
      exact hexponent
    · simp [magnitudeText, digitsText, fractionText, exponentText]
    · have hlength : e - (rest.length + 1 : Nat) = e + 1 - (rest.length + 1 + 1 : Nat) := by omega
      simp only [amount, fractionDigits, hpower, Option.getD_some, List.singleton_append, hvalue,
        List.length_cons, hlength]

theorem text_of_magnitude {cs : List Char} {x : Decimal} {y : Binary64} (h : Magnitude cs x)
    (hx : x.toBinary64? y.negative = some y) : ∃ r : Numeral, r.Proper ∧
      r.text = (if y.negative then ['-'] else []) ++ cs ∧ r.nearest? = some (.float y) := by
  obtain ⟨r, hr, hsign, rfl, hinteger, hamount⟩ := h y.negative
  refine ⟨r, hr, ?_, ?_⟩
  · rw [text, hsign]
    split <;> rfl
  · rw [nearest?, hinteger, hsign, hamount, hx]
    rfl

theorem exists_text_eq_integer (n : Int) (hn : Number.least ≤ n ∧ n ≤ Number.greatest) :
    ∃ r : Numeral, r.Proper ∧ r.text = Number.integerText n ∧
      r.nearest? = some (.integer n hn) := by
  refine ⟨⟨decide (n < 0), decimalDigits n.natAbs, none, none⟩, ⟨run_decimalDigits _,
    head?_decimalDigits _, (fun _ h => nomatch h), fun _ h => nomatch h⟩, ?_, ?_⟩
  · simp [text, magnitudeText, digitsText, fractionText, exponentText, Number.integerText,
      decimal_eq_map]
  · have hinteger : toInteger? ⟨decide (n < 0), decimalDigits n.natAbs, none, none⟩ = some n := by
      simp only [toInteger?, toNat_decimalDigits, decide_eq_true_eq]
      split
      · rw [if_neg (by omega)]
        congr 1
        omega
      · congr 1
        omega
    rw [nearest?, hinteger, Option.bind_some, Number.ofInt?, dif_pos hn]

theorem exists_text_eq_float (x : Binary64) :
    ∃ r : Numeral, r.Proper ∧ r.text = Number.floatText x ∧ r.nearest? = some (.float x) := by
  rw [Number.floatText]
  dsimp only
  split
  · rename_i hx
    have hzero : toNat 10 ([0] ++ [0]) = 0 := rfl
    refine text_of_magnitude (magnitude_point run_zero (.inl rfl) run_zero hzero rfl) ?_
    rw [Decimal.toBinary64?_zero, Binary64.zero_eq hx]
  · rename_i hx
    have hcoefficient := Binary64.shortest_coefficient_ne_zero hx
    have hreads := Binary64.shortest_reads hx
    generalize x.shortest = short at hcoefficient hreads
    obtain ⟨coefficient, exponent⟩ := short
    dsimp only at hcoefficient ⊢
    have hexponent : exponent = exponent + (decimal coefficient).length - 1 + 1 -
        (decimal coefficient).length := by omega
    generalize exponent + ((decimal coefficient).length : Int) - 1 = e at hexponent ⊢
    rw [hexponent] at hreads
    refine text_of_magnitude ?_ hreads
    split
    · exact magnitude_positionalText hcoefficient e
    · exact magnitude_scientificText coefficient e

theorem exists_text_eq (n : Number) :
    ∃ r : Numeral, r.Proper ∧ r.text = n.text ∧ r.nearest? = some n := by
  cases n with
  | integer n hn => exact exists_text_eq_integer n hn
  | float x => exact exists_text_eq_float x

end Numeral

end SelectiveDisclosure
