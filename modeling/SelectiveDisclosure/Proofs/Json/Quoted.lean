import SelectiveDisclosure.Json.Reading
import SelectiveDisclosure.Proofs.Text.Normalization

namespace SelectiveDisclosure

namespace Reading

def isEscapeOf (n : Nat) : List Char → Bool
  | ['\\', e] => e ≠ 'u' && simpleEscape? e = some (Char.ofNat n)
  | ['\\', 'u', a, b, c, d] => ([a, b, c, d].mapM hexValue?).map (Digits.toNat 16) = some n
  | _ => false

theorem controlEscape_form : ∀ n < 0x20, isEscapeOf n (Json.controlEscape n) = true ∧
    Json.controlEscape n ≠ [] ∧ Text.isBasic (Json.controlEscape n) = true := by
  decide +kernel

def unitChar? : Char ⊕ Nat → Option Char
  | .inl c => some c
  | .inr n => if n < 0xD800 then some (Char.ofNat n) else none

theorem joinUnits_cons {u : Char ⊕ Nat} {c : Char} (h : unitChar? u = some c)
    (us : List (Char ⊕ Nat)) : joinUnits (u :: us) = (joinUnits us).map (c :: ·) := by
  cases u with
  | inl d =>
    simp only [unitChar?, Option.some.injEq] at h
    rw [joinUnits, h]
  | inr n =>
    rw [unitChar?] at h
    split at h
    · rename_i hn
      simp only [Option.some.injEq] at h
      rw [joinUnits.eq_def]
      simp only [hn, true_or, if_true, h]
    · simp at h

theorem readUnits_simple {e c : Char} (hu : e ≠ 'u') (h : simpleEscape? e = some c)
    (rest : List Char) :
    readUnits ('\\' :: e :: rest) = (readUnits rest).map fun p => (.inl c :: p.1, p.2) := by
  rw [readUnits]
  · rw [h]
    cases readUnits rest <;> rfl
  · intro a b c d tail he
    exact absurd he hu

theorem readUnits_word {a b c d : Char} {ns : List Nat} (h : [a, b, c, d].mapM hexValue? = some ns)
    (rest : List Char) :
    readUnits ('\\' :: 'u' :: a :: b :: c :: d :: rest) =
      (readUnits rest).map fun p => (.inr (Digits.toNat 16 ns) :: p.1, p.2) := by
  rw [readUnits, h]
  cases readUnits rest <;> rfl

theorem readUnits_plain {c : Char} (hq : c ≠ '"') (hb : c ≠ '\\') (hc : ¬c.toNat < 0x20)
    (rest : List Char) :
    readUnits (c :: rest) = (readUnits rest).map fun p => (.inl c :: p.1, p.2) := by
  rw [readUnits]
  · simp only [hc, hb, decide_false, Bool.or_self, Bool.false_eq_true, if_false]
    cases readUnits rest <;> rfl
  · exact fun h => absurd h hq
  · intro _ _ _ _ _ h
    exact absurd h hb
  · intro _ _ h
    exact absurd h hb

theorem readUnits_escapeChar (c : Char) (rest : List Char) :
    ∃ u, unitChar? u = some c ∧
      readUnits (Json.escapeChar c ++ rest) = (readUnits rest).map fun p => (u :: p.1, p.2) := by
  rw [Json.escapeChar]
  split
  · rename_i h
    exact ⟨.inl '"', by rw [h]; rfl, readUnits_simple (by decide) rfl rest⟩
  · split
    · rename_i h
      exact ⟨.inl '\\', by rw [h]; rfl, readUnits_simple (by decide) rfl rest⟩
    · split
      · rename_i hn
        have hform := (controlEscape_form c.toNat hn).1
        generalize Json.controlEscape c.toNat = text at hform
        unfold isEscapeOf at hform
        split at hform
        · rename_i e
          simp only [Bool.and_eq_true, decide_eq_true_eq, Char.ofNat_toNat] at hform
          exact ⟨.inl c, rfl, readUnits_simple hform.1 hform.2 rest⟩
        · obtain ⟨ns, hns, hn'⟩ := Option.map_eq_some_iff.mp (of_decide_eq_true hform)
          refine ⟨.inr c.toNat, ?_, hn' ▸ readUnits_word hns rest⟩
          rw [unitChar?, if_pos (by omega), Char.ofNat_toNat]
        · exact absurd hform nofun
      · rename_i hq hb hc
        exact ⟨.inl c, rfl, readUnits_plain hq hb hc rest⟩

theorem readUnits_escaped (cs rest : List Char) :
    ∃ us, joinUnits us = some cs ∧
      readUnits (cs.flatMap Json.escapeChar ++ '"' :: rest) = some (us, rest) := by
  induction cs with
  | nil => exact ⟨[], rfl, rfl⟩
  | cons c cs ih =>
    obtain ⟨us, hjoin, hread⟩ := ih
    obtain ⟨u, hu, hc⟩ := readUnits_escapeChar c (cs.flatMap Json.escapeChar ++ '"' :: rest)
    refine ⟨u :: us, by rw [joinUnits_cons hu, hjoin]; rfl, ?_⟩
    rw [List.flatMap_cons, List.append_assoc, hc, hread]
    rfl

theorem readString_escaped (cs rest : List Char) :
    readString (cs.flatMap Json.escapeChar ++ '"' :: rest) = some (some (String.ofList cs), rest) := by
  obtain ⟨us, hjoin, hread⟩ := readUnits_escaped cs rest
  rw [readString, hread]
  simp [hjoin]

end Reading

namespace Json

open Text

theorem quoted_append (cs rest : List Char) :
    quoted cs ++ rest = '"' :: (cs.flatMap escapeChar ++ '"' :: rest) := by
  simp [quoted]

theorem quoted_append_inj {xs ys r s : List Char} (h : quoted xs ++ r = quoted ys ++ s) :
    xs = ys ∧ r = s := by
  rw [quoted_append, quoted_append, List.cons.injEq] at h
  have hx := Reading.readString_escaped xs r
  rw [h.2, Reading.readString_escaped] at hx
  simpa [eq_comm, String.ofList_inj] using hx

theorem escapeChar_of_unescaped {c : Char} (h : isUnescaped c.toNat = true) : escapeChar c = [c] := by
  simp only [isUnescaped, Bool.and_eq_true, decide_eq_true_eq] at h
  obtain ⟨⟨hc, hq⟩, hb⟩ := h
  rw [escapeChar, if_neg (fun h => hq (by rw [h]; rfl)), if_neg (fun h => hb (by rw [h]; rfl)),
    if_neg (by omega)]

theorem escapeChar_of_escaped {c : Char} (h : isUnescaped c.toNat = false) :
    c.toNat < 0xC0 ∧ escapeChar c ≠ [] ∧ ∀ x ∈ escapeChar c, x.toNat < 0xC0 := by
  rw [escapeChar]
  split
  · rename_i hc
    rw [hc]
    exact ⟨by decide, by decide, lt_of_isBasic (by decide)⟩
  · split
    · rename_i hc
      rw [hc]
      exact ⟨by decide, by decide, lt_of_isBasic (by decide)⟩
    · rename_i hq hb
      have hc : c.toNat < 0x20 := by
        simp only [isUnescaped, Bool.and_eq_false_iff, decide_eq_false_iff_not, ne_eq,
          Decidable.not_not] at h
        rcases h with (h | h) | h
        · omega
        · exact absurd (Char.toNat_inj.mp h) hq
        · exact absurd (Char.toNat_inj.mp h) hb
      rw [if_pos hc]
      obtain ⟨-, hne, hbasic⟩ := Reading.controlEscape_form c.toNat hc
      exact ⟨by omega, hne, lt_of_isBasic hbasic⟩

theorem unescaped_of_mem_decomposeChar {c x : Char} (h : isUnescaped c.toNat = true)
    (hx : x ∈ decomposeChar c) : isUnescaped x.toNat = true := by
  rcases mem_decomposeChar hx with ⟨rfl, -⟩ | ⟨n, hn, rfl⟩
  · exact h
  · obtain ⟨-, hv, hu⟩ := isOrdinary_iff.mp (isOrdinary_of_settles hn)
    rwa [toNat_ofNat hv]

theorem decomposeChar_escapeChar (c : Char) :
    (escapeChar c).flatMap decomposeChar = (decomposeChar c).flatMap escapeChar := by
  cases h : isUnescaped c.toNat with
  | true =>
    have hc : (decomposeChar c).flatMap escapeChar = (decomposeChar c).flatMap ([·]) :=
      List.flatMap_congr fun x hx => escapeChar_of_unescaped (unescaped_of_mem_decomposeChar h hx)
    rw [escapeChar_of_unescaped h, hc, List.flatMap_singleton, List.flatMap_singleton']
  | false =>
    obtain ⟨hc, -, hall⟩ := escapeChar_of_escaped h
    rw [flatMap_atomic fun x hx => atomic_of_lt (hall x hx), atomic_of_lt hc,
      List.flatMap_singleton]

theorem escapeChar_of_mark {c : Char} (hc : 0 < combiningClass c) : escapeChar c = [c] := by
  cases h : isUnescaped c.toNat with
  | true => exact escapeChar_of_unescaped h
  | false =>
    have hstarter := combiningClass_of_lt (escapeChar_of_escaped h).1
    omega

theorem insertMark_escaped {c : Char} (hc : 0 < combiningClass c) (cs : List Char) :
    insertMark c (cs.flatMap escapeChar) = (insertMark c cs).flatMap escapeChar := by
  induction cs with
  | nil => rw [List.flatMap_nil, insertMark, List.flatMap_singleton, escapeChar_of_mark hc]
  | cons d ds ih =>
    by_cases hd : 0 < combiningClass d ∧ combiningClass d < combiningClass c
    · rw [List.flatMap_cons, escapeChar_of_mark hd.1, insertMark_cons_before hd, List.flatMap_cons,
        escapeChar_of_mark hd.1, List.singleton_append, List.singleton_append,
        insertMark_cons_before hd, ih]
    · rw [insertMark_cons_after hd, List.flatMap_cons, List.flatMap_cons, escapeChar_of_mark hc,
        List.singleton_append, List.flatMap_cons]
      cases h : isUnescaped d.toNat with
      | true =>
        rw [escapeChar_of_unescaped h, List.singleton_append, insertMark_cons_after hd]
      | false =>
        obtain ⟨-, hne, hall⟩ := escapeChar_of_escaped h
        obtain ⟨x, xs, he⟩ := List.exists_cons_of_ne_nil hne
        have hx := combiningClass_of_lt (hall x (he ▸ List.mem_cons_self ..))
        rw [he, List.cons_append, insertMark_cons_after (by omega)]

theorem reorder_append_marks_free {xs : List Char} (hxs : ∀ x ∈ xs, combiningClass x = 0)
    (ys : List Char) : reorder (xs ++ ys) = xs ++ reorder ys := by
  induction xs with
  | nil => rfl
  | cons x xs ih =>
    rw [List.cons_append, reorder, ih fun y hy => hxs y (List.mem_cons_of_mem _ hy),
      insertMark_starter (hxs x (List.mem_cons_self ..)), List.cons_append]

theorem reorder_escaped (cs : List Char) :
    reorder (cs.flatMap escapeChar) = (reorder cs).flatMap escapeChar := by
  induction cs with
  | nil => rfl
  | cons c cs ih =>
    rw [List.flatMap_cons, reorder]
    rcases Nat.eq_zero_or_pos (combiningClass c) with hc | hc
    · rw [insertMark_starter hc, List.flatMap_cons, ← ih]
      apply reorder_append_marks_free
      intro x hx
      cases h : isUnescaped c.toNat with
      | true =>
        rw [escapeChar_of_unescaped h, List.mem_singleton] at hx
        rwa [hx]
      | false => exact combiningClass_of_lt ((escapeChar_of_escaped h).2.2 x hx)
    · rw [escapeChar_of_mark hc, List.singleton_append, reorder, ih, insertMark_escaped hc]

theorem decompose_escaped (cs : List Char) :
    decompose (cs.flatMap escapeChar) = (decompose cs).flatMap escapeChar := by
  rw [decompose, decompose, ← reorder_escaped, List.flatMap_assoc, List.flatMap_assoc]
  exact congrArg reorder (List.flatMap_congr fun c _ => decomposeChar_escapeChar c)

theorem decompose_quoted_append (cs rest : List Char) :
    decompose (quoted cs ++ rest) = quoted (decompose cs) ++ decompose rest := by
  have hstarter : combiningClass '"' = 0 := combiningClass_of_lt (by decide)
  have hatomic : Atomic '"' := atomic_of_lt (by decide)
  rw [quoted_append, quoted_append, decompose_cons_starter hstarter hatomic,
    decompose_append_starter hstarter hatomic, decompose_escaped]

end Json

end SelectiveDisclosure
