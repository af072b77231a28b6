import SelectiveDisclosure.Number.Value
import SelectiveDisclosure.Proofs.Digits

namespace SelectiveDisclosure

namespace Number

def isNumeral (c : Char) : Bool := ('0' ≤ c && c ≤ '9') || c ∈ ['-', '+', '.', 'e']

theorem isNumeral_char : ∀ d < 10, isNumeral (Digits.char d) = true := by decide

theorem lt_of_isNumeral {c : Char} (h : isNumeral c = true) : c.toNat < 0xC0 := by
  simp only [isNumeral, Bool.or_eq_true, Bool.and_eq_true, decide_eq_true_eq, List.mem_cons,
    List.not_mem_nil, or_false] at h
  rcases h with ⟨-, h⟩ | rfl | rfl | rfl | rfl
  · exact Nat.lt_of_le_of_lt h (by decide)
  all_goals decide

def IsNumeral (cs : List Char) : Prop := cs ≠ [] ∧ ∀ c ∈ cs, isNumeral c = true

theorem isNumeral_append {xs ys : List Char} (hx : IsNumeral xs) (hy : ∀ c ∈ ys, isNumeral c = true) :
    IsNumeral (xs ++ ys) :=
  ⟨fun h => hx.1 (List.append_eq_nil_iff.mp h).1, fun c hc =>
    (List.mem_append.mp hc).elim (hx.2 c) (hy c)⟩

theorem isNumeral_cons {c : Char} {cs : List Char} (hc : isNumeral c = true)
    (hcs : ∀ d ∈ cs, isNumeral d = true) : IsNumeral (c :: cs) :=
  ⟨List.cons_ne_nil _ _, fun d hd => (List.mem_cons.mp hd).elim (fun h => h ▸ hc) (hcs d)⟩

theorem isNumeral_decimal (n : Nat) : IsNumeral (Digits.decimal n) := by
  have hrun := Digits.run_decimalDigits n
  rw [Digits.decimal_eq_map]
  refine ⟨mt List.map_eq_nil_iff.mp hrun.ne_nil, fun c hc => ?_⟩
  obtain ⟨d, hd, rfl⟩ := List.mem_map.mp hc
  exact isNumeral_char d (hrun.lt d hd)

theorem isNumeral_integerText (n : Int) : IsNumeral (integerText n) := by
  have hn := isNumeral_decimal n.natAbs
  rw [integerText]
  split
  · exact isNumeral_cons (by decide) hn.2
  · exact hn

theorem isNumeral_replicate (n : Nat) : ∀ c ∈ List.replicate n '0', isNumeral c = true := by
  intro c hc
  rw [List.eq_of_mem_replicate hc]
  decide

theorem isNumeral_positionalText {ds : List Char} (h : IsNumeral ds) (e : Int) :
    IsNumeral (positionalText ds e) := by
  have hpoint : isNumeral '.' = true := by decide
  have hzero : isNumeral '0' = true := by decide
  rw [positionalText]
  split
  · apply isNumeral_cons hzero
    intro c hc
    rcases List.mem_cons.mp hc with rfl | hc
    · exact hpoint
    · exact (List.mem_append.mp hc).elim (isNumeral_replicate _ c) (h.2 c)
  · dsimp only
    split
    · refine isNumeral_append (isNumeral_append h (isNumeral_replicate _)) ?_
      exact List.all_eq_true.mp (by decide)
    · constructor
      · intro hnil
        exact absurd (List.append_eq_nil_iff.mp hnil).2 (List.cons_ne_nil _ _)
      · intro c hc
        rcases List.mem_append.mp hc with hc | hc
        · exact h.2 c (List.mem_of_mem_take hc)
        · rcases List.mem_cons.mp hc with rfl | hc
          · exact hpoint
          · exact h.2 c (List.mem_of_mem_drop hc)

theorem isNumeral_scientificText {ds : List Char} (h : IsNumeral ds) (e : Int) :
    IsNumeral (scientificText ds e) := by
  have hexponent : ∀ c ∈ 'e' :: (if e < 0 then '-' else '+') :: Digits.decimal e.natAbs,
      isNumeral c = true := by
    intro c hc
    rcases List.mem_cons.mp hc with rfl | hc
    · decide
    · rcases List.mem_cons.mp hc with rfl | hc
      · split <;> decide
      · exact (isNumeral_decimal e.natAbs).2 c hc
  match ds, h with
  | [], h => exact absurd rfl h.1
  | [d], h => exact isNumeral_append h hexponent
  | d :: f :: rest, h =>
    have hmantissa : IsNumeral (d :: '.' :: f :: rest) := by
      apply isNumeral_cons (h.2 d (List.mem_cons_self ..))
      intro c hc
      rcases List.mem_cons.mp hc with rfl | hc
      · decide
      · exact h.2 c (List.mem_cons_of_mem _ hc)
    exact isNumeral_append hmantissa hexponent

theorem isNumeral_floatText (x : Binary64) : IsNumeral (floatText x) := by
  have hsign : ∀ c ∈ (if x.negative then ['-'] else []), isNumeral c = true := by
    split <;> exact List.all_eq_true.mp (by decide)
  have hsigned : ∀ cs, IsNumeral cs → IsNumeral ((if x.negative then ['-'] else []) ++ cs) :=
    fun cs hcs => ⟨fun h => hcs.1 (List.append_eq_nil_iff.mp h).2, fun c hc =>
      (List.mem_append.mp hc).elim (hsign c) (hcs.2 c)⟩
  have hdigits := isNumeral_decimal x.shortest.coefficient
  rw [floatText]
  dsimp only
  split
  · exact hsigned _ ⟨List.cons_ne_nil _ _, List.all_eq_true.mp (by decide)⟩
  · refine hsigned _ ?_
    split
    · exact isNumeral_positionalText hdigits _
    · exact isNumeral_scientificText hdigits _

theorem isNumeral_text (n : Number) : IsNumeral n.text := by
  cases n with
  | integer n h => exact isNumeral_integerText n
  | float x => exact isNumeral_floatText x

def Delimited (r : List Char) : Prop := ∀ c ∈ r.head?, isNumeral c = false

theorem append_inj_of_isNumeral {xs ys r s : List Char} (hx : ∀ c ∈ xs, isNumeral c = true)
    (hy : ∀ c ∈ ys, isNumeral c = true) (hr : Delimited r) (hs : Delimited s)
    (h : xs ++ r = ys ++ s) : xs = ys ∧ r = s := by
  induction xs generalizing ys with
  | nil =>
    cases ys with
    | nil => exact ⟨rfl, h⟩
    | cons y ys =>
      have hfalse := hr y (by rw [show r = y :: (ys ++ s) from h]; rfl)
      rw [hy y (List.mem_cons_self ..)] at hfalse
      cases hfalse
  | cons x xs ih =>
    cases ys with
    | nil =>
      have hfalse := hs x (by rw [show s = x :: (xs ++ r) from h.symm]; rfl)
      rw [hx x (List.mem_cons_self ..)] at hfalse
      cases hfalse
    | cons y ys =>
      rw [List.cons_append, List.cons_append] at h
      obtain ⟨rfl, htail⟩ := List.cons.inj h
      obtain ⟨rfl, hrs⟩ := ih (fun c hc => hx c (List.mem_cons_of_mem _ hc))
        (fun c hc => hy c (List.mem_cons_of_mem _ hc)) htail
      exact ⟨rfl, hrs⟩

end Number

end SelectiveDisclosure
