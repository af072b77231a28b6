import Mathlib.Data.Nat.Digits.Lemmas
import SelectiveDisclosure.Digits
import SelectiveDisclosure.Proofs.Lists

namespace SelectiveDisclosure.Digits

theorem toNat_eq_ofDigits (base : Nat) (ds : List Nat) :
    toNat base ds = Nat.ofDigits base ds.reverse := by
  rw [toNat, Nat.ofDigits_eq_foldr, List.foldr_reverse]
  simp only [Nat.cast_id, Nat.mul_comm base, Nat.add_comm]

-- Halving a number takes no fewer steps than dividing it by a larger base.
theorem ofNatWithin_eq_digits {base : Nat} (hb : 2 ≤ base) {steps n : Nat} (h : n < Nat.pow 2 steps) :
    ofNatWithin base steps n = (Nat.digits base n).reverse := by
  induction steps generalizing n with
  | zero =>
    rw [Nat.lt_one_iff.mp h, Nat.digits_zero]
    rfl
  | succ steps ih =>
    by_cases hn : n = 0
    · rw [hn, Nat.digits_zero]
      rfl
    · have hquotient : n / base < Nat.pow 2 steps := by
        refine Nat.div_lt_of_lt_mul (Nat.lt_of_lt_of_le h ?_)
        rw [Nat.pow_eq, Nat.pow_eq, Nat.pow_succ, Nat.mul_comm]
        exact Nat.mul_le_mul_right _ hb
      rw [ofNatWithin, if_neg hn, ih hquotient, Nat.digits_eq_cons_digits_div hb hn,
        List.reverse_cons]

theorem ofNat_eq_digits {base : Nat} (hb : 2 ≤ base) (n : Nat) :
    ofNat base n = (Nat.digits base n).reverse :=
  ofNatWithin_eq_digits hb Nat.lt_log2_self

section Base

variable {base : Nat} (hb : 2 ≤ base)
include hb

theorem toNat_ofNat (n : Nat) : toNat base (ofNat base n) = n := by
  rw [ofNat_eq_digits hb, toNat_eq_ofDigits, List.reverse_reverse, Nat.ofDigits_digits]

theorem ofNat_lt {n d : Nat} (h : d ∈ ofNat base n) : d < base := by
  rw [ofNat_eq_digits hb, List.mem_reverse] at h
  exact Nat.digits_lt_base hb h

theorem ofNat_ne_nil {n : Nat} (hn : n ≠ 0) : ofNat base n ≠ [] := by
  rw [ofNat_eq_digits hb, ne_eq, List.reverse_eq_nil_iff]
  exact Nat.digits_ne_nil_iff_ne_zero.mpr hn

theorem head?_ofNat (n : Nat) : (ofNat base n).head? ≠ some 0 := by
  rw [ofNat_eq_digits hb, List.head?_reverse]
  by_cases hn : n = 0
  · rw [hn, Nat.digits_zero]
    exact (Option.some_ne_none 0).symm
  · rw [List.getLast?_eq_some_getLast (Nat.digits_ne_nil_iff_ne_zero.mpr hn)]
    exact fun h => Nat.getLast_digit_ne_zero base hn (Option.some.inj h)

theorem length_ofNat_le_iff {n places : Nat} : (ofNat base n).length ≤ places ↔ n < Nat.pow base places := by
  rw [ofNat_eq_digits hb, List.length_reverse, Nat.digits_length_le_iff hb, Nat.pow_eq]

theorem pow_length_le {n : Nat} (hn : n ≠ 0) : Nat.pow base (ofNat base n).length ≤ base * n := by
  rw [ofNat_eq_digits hb, List.length_reverse, Nat.pow_eq]
  exact Nat.base_pow_length_digits_le base n hb hn

theorem toNat_inj {xs ys : List Nat} (hx : ∀ d ∈ xs, d < base) (hy : ∀ d ∈ ys, d < base)
    (hlength : xs.length = ys.length) (h : toNat base xs = toNat base ys) : xs = ys := by
  rw [toNat_eq_ofDigits, toNat_eq_ofDigits] at h
  refine List.reverse_inj.mp (Nat.ofDigits_inj_of_len_eq hb ?_ ?_ ?_ h)
  · rw [List.length_reverse, List.length_reverse, hlength]
  · exact fun d hd => hx d (List.mem_reverse.mp hd)
  · exact fun d hd => hy d (List.mem_reverse.mp hd)

theorem ofNat_toNat {ds : List Nat} (hlt : ∀ d ∈ ds, d < base) (hhead : ds.head? ≠ some 0) :
    ofNat base (toNat base ds) = ds := by
  rw [ofNat_eq_digits hb, toNat_eq_ofDigits, Nat.digits_ofDigits base hb, List.reverse_reverse]
  · exact fun d hd => hlt d (List.mem_reverse.mp hd)
  · intro hnil hlast
    rw [List.getLast_reverse] at hlast
    exact hhead (hlast ▸ List.head?_eq_some_head _)

end Base

@[simp] theorem toNat_replicate_zero (base zeros : Nat) (ds : List Nat) :
    toNat base (List.replicate zeros 0 ++ ds) = toNat base ds := by
  rw [toNat_eq_ofDigits, toNat_eq_ofDigits, List.reverse_append, List.reverse_replicate,
    Nat.ofDigits_append_replicate_zero]

@[simp] theorem toNat_zeros (base zeros : Nat) : toNat base (List.replicate zeros 0) = 0 := by
  rw [toNat_eq_ofDigits, List.reverse_replicate, Nat.ofDigits_replicate_zero]

theorem toNat_append (ds es : List Nat) :
    toNat 10 (ds ++ es) = toNat 10 ds * tenTo es.length + toNat 10 es := by
  rw [toNat_eq_ofDigits, toNat_eq_ofDigits, toNat_eq_ofDigits, List.reverse_append, Nat.ofDigits_append,
    List.length_reverse, tenTo, Nat.pow_eq, Nat.mul_comm, Nat.add_comm]

theorem tenTo_pos (places : Nat) : 0 < tenTo places := Nat.pow_pos (by decide)

theorem tenTo_add (m n : Nat) : tenTo (m + n) = tenTo m * tenTo n := Nat.pow_add 10 m n

theorem char_inj : ∀ d < 16, ∀ e < 16, char d = char e → d = e := by decide

theorem char_lt : ∀ d < 16, (char d).toNat < 0xC0 := by decide

@[simp] theorem char_zero : char 0 = '0' := rfl

theorem map_char_inj {ds es : List Nat} (hds : ∀ d ∈ ds, d < 10) (hes : ∀ e ∈ es, e < 10)
    (h : ds.map char = es.map char) : ds = es := by
  refine eq_of_map_eq (fun d hd e he => ?_) h
  have hd := hds d hd
  have he := hes e he
  exact char_inj d (by omega) e (by omega)

structure Run (ds : List Nat) : Prop where
  ne_nil : ds ≠ []
  lt : ∀ d ∈ ds, d < 10

theorem run_append {ds es : List Nat} (hds : Run ds) (hes : ∀ e ∈ es, e < 10) : Run (ds ++ es) :=
  ⟨by simp [hds.ne_nil], List.forall_mem_append.mpr ⟨hds.lt, hes⟩⟩

theorem lt_of_mem_zeros {n d : Nat} (h : d ∈ List.replicate n 0) : d < 10 := by
  rw [List.eq_of_mem_replicate h]
  decide

def decimalDigits (n : Nat) : List Nat := if n = 0 then [0] else ofNat 10 n

theorem decimal_eq_map (n : Nat) : decimal n = (decimalDigits n).map char := by
  rw [decimal, decimalDigits]
  split
  · rfl
  · rfl

theorem run_decimalDigits (n : Nat) : Run (decimalDigits n) := by
  rw [decimalDigits]
  split
  · exact ⟨List.cons_ne_nil _ _, by decide⟩
  · rename_i hn
    exact ⟨ofNat_ne_nil (by decide) hn, fun d hd => ofNat_lt (by decide) hd⟩

theorem head?_decimalDigits (n : Nat) :
    decimalDigits n = [0] ∨ (decimalDigits n).head? ≠ some 0 := by
  rw [decimalDigits]
  split
  · exact .inl rfl
  · exact .inr (head?_ofNat (by decide) n)

@[simp] theorem toNat_decimalDigits (n : Nat) : toNat 10 (decimalDigits n) = n := by
  rw [decimalDigits]
  split
  · rename_i hn
    rw [hn]
    rfl
  · exact toNat_ofNat (by decide) n

theorem decimal_inj {m n : Nat} (h : decimal m = decimal n) : m = n := by
  rw [decimal_eq_map, decimal_eq_map] at h
  have hdigits := map_char_inj (run_decimalDigits m).lt (run_decimalDigits n).lt h
  rw [← toNat_decimalDigits m, hdigits, toNat_decimalDigits]

theorem padded_lt {width n d : Nat} (h : d ∈ padded 10 width n) : d < 10 :=
  (List.mem_append.mp h).elim lt_of_mem_zeros (ofNat_lt (by decide))

@[simp] theorem toNat_padded (width n : Nat) : toNat 10 (padded 10 width n) = n := by
  rw [padded, toNat_replicate_zero, toNat_ofNat (by decide)]

theorem length_padded {width n : Nat} (h : n < tenTo width) : (padded 10 width n).length = width := by
  have hlength : (ofNat 10 n).length ≤ width := (length_ofNat_le_iff (by decide)).mpr h
  rw [padded, List.length_append, List.length_replicate, Nat.sub_add_cancel hlength]

theorem run_padded {width : Nat} (h : 0 < width) (n : Nat) : Run (padded 10 width n) := by
  refine ⟨fun hnil => ?_, fun d hd => padded_lt hd⟩
  have hlength := congrArg List.length hnil
  rw [padded, List.length_append, List.length_replicate, List.length_nil] at hlength
  omega

theorem paddedDecimal_inj {width m n : Nat} (h : paddedDecimal width m = paddedDecimal width n) :
    m = n := by
  have hdigits := map_char_inj (fun _ => padded_lt) (fun _ => padded_lt) h
  rw [← toNat_padded width m, hdigits, toNat_padded]

theorem isDecimal_of_mem_paddedDecimal {width n : Nat} {c : Char} (h : c ∈ paddedDecimal width n) :
    '0' ≤ c ∧ c ≤ '9' := by
  obtain ⟨d, hd, rfl⟩ := List.mem_map.mp h
  have hall : ∀ d < 10, '0' ≤ char d ∧ char d ≤ '9' := by decide
  exact hall d (padded_lt hd)

end SelectiveDisclosure.Digits
