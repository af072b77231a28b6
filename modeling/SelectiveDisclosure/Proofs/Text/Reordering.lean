import SelectiveDisclosure.Text.Normalization

namespace SelectiveDisclosure.Text

def Atomic (c : Char) : Prop := decomposeChar c = [c]

def ArrangedFrom : Nat → List Char → Prop
  | _, [] => True
  | k, c :: cs =>
      (combiningClass c = 0 ∨ k ≤ combiningClass c) ∧ ArrangedFrom (combiningClass c) cs

theorem arrangedFrom_mono {j k : Nat} (hjk : j ≤ k) {cs : List Char} (h : ArrangedFrom k cs) :
    ArrangedFrom j cs := by
  cases cs with
  | nil => trivial
  | cons c cs => exact ⟨h.1.imp id (Nat.le_trans hjk), h.2⟩

theorem insertMark_starter {c : Char} (hc : combiningClass c = 0) (cs : List Char) :
    insertMark c cs = c :: cs := by
  cases cs <;> simp [insertMark, hc]

theorem insertMark_cons_before {c d : Char}
    (h : 0 < combiningClass d ∧ combiningClass d < combiningClass c) (ds : List Char) :
    insertMark c (d :: ds) = d :: insertMark c ds := if_pos h

theorem insertMark_cons_after {c d : Char}
    (h : ¬(0 < combiningClass d ∧ combiningClass d < combiningClass c)) (ds : List Char) :
    insertMark c (d :: ds) = c :: d :: ds := if_neg h

theorem insertMark_comm {a b : Char} (ha : 0 < combiningClass a)
    (hab : combiningClass a < combiningClass b) (cs : List Char) :
    insertMark a (insertMark b cs) = insertMark b (insertMark a cs) := by
  have hb : ¬(0 < combiningClass b ∧ combiningClass b < combiningClass a) := by omega
  induction cs with
  | nil =>
    rw [insertMark, insertMark, insertMark_cons_after hb, insertMark_cons_before ⟨ha, hab⟩, insertMark]
  | cons d ds ih =>
    by_cases hda : 0 < combiningClass d ∧ combiningClass d < combiningClass a
    · have hdb : 0 < combiningClass d ∧ combiningClass d < combiningClass b := by omega
      rw [insertMark_cons_before hdb, insertMark_cons_before hda, insertMark_cons_before hda,
        insertMark_cons_before hdb, ih]
    · rw [insertMark_cons_after hda, insertMark_cons_before ⟨ha, hab⟩]
      by_cases hdb : 0 < combiningClass d ∧ combiningClass d < combiningClass b
      · rw [insertMark_cons_before hdb, insertMark_cons_after hda]
      · rw [insertMark_cons_after hdb, insertMark_cons_after hb]

theorem foldr_insertMark_comm {c : Char} {held : List Char}
    (h : ∀ a ∈ held, 0 < combiningClass a ∧ combiningClass a < combiningClass c) (cs : List Char) :
    held.foldr insertMark (insertMark c cs) = insertMark c (held.foldr insertMark cs) := by
  induction held with
  | nil => rfl
  | cons a held ih =>
    have ha := h a (List.mem_cons_self ..)
    rw [List.foldr_cons, List.foldr_cons, ih fun b hb => h b (List.mem_cons_of_mem _ hb)]
    exact insertMark_comm ha.1 ha.2 _

theorem insertMark_append {c : Char} (hc : combiningClass c = 0) (x : Char) (l m : List Char) :
    insertMark x (l ++ c :: m) = insertMark x l ++ c :: m := by
  induction l with
  | nil => simp [insertMark, hc]
  | cons d l ih =>
    simp only [List.cons_append, insertMark]
    split
    · rw [ih, List.cons_append]
    · rfl

theorem reorder_append (xs ys : List Char) :
    reorder (xs ++ ys) = xs.foldr insertMark (reorder ys) := by
  induction xs with
  | nil => rfl
  | cons x xs ih => rw [List.cons_append, reorder, ih, List.foldr_cons]

theorem reorder_append_starter {c : Char} (hc : combiningClass c = 0) (xs ys : List Char) :
    reorder (xs ++ c :: ys) = reorder xs ++ c :: reorder ys := by
  induction xs with
  | nil => exact insertMark_starter hc (reorder ys)
  | cons x xs ih => rw [List.cons_append, reorder, ih, insertMark_append hc, reorder]

@[simp] theorem mem_insertMark {x c : Char} {cs : List Char} : x ∈ insertMark c cs ↔ x = c ∨ x ∈ cs := by
  induction cs with
  | nil => simp [insertMark]
  | cons d ds ih =>
    simp only [insertMark]
    split
    · rw [List.mem_cons, ih, List.mem_cons, or_left_comm]
    · simp only [List.mem_cons]

@[simp] theorem mem_reorder {x : Char} {cs : List Char} : x ∈ reorder cs ↔ x ∈ cs := by
  induction cs with
  | nil => rfl
  | cons c cs ih => simp [reorder, ih]

theorem arrangedFrom_insertMark {k : Nat} {c : Char} {cs : List Char} (h : ArrangedFrom k cs)
    (hc : combiningClass c = 0 ∨ k ≤ combiningClass c) : ArrangedFrom k (insertMark c cs) := by
  induction cs generalizing k with
  | nil => exact ⟨hc, trivial⟩
  | cons d ds ih =>
    simp only [insertMark]
    split
    · exact ⟨h.1, ih h.2 (by omega)⟩
    · exact ⟨hc, by omega, h.2⟩

theorem arrangedFrom_reorder (cs : List Char) : ArrangedFrom 0 (reorder cs) := by
  induction cs with
  | nil => trivial
  | cons c cs ih => exact arrangedFrom_insertMark ih (.inr (Nat.zero_le _))

theorem reorder_of_arrangedFrom {k : Nat} {cs : List Char} (h : ArrangedFrom k cs) :
    reorder cs = cs := by
  induction cs generalizing k with
  | nil => rfl
  | cons c cs ih =>
    rw [reorder, ih h.2]
    cases cs with
    | nil => rfl
    | cons d ds =>
      have hd := h.2.1
      rw [insertMark, if_neg (by omega)]

theorem decompose_append (xs ys : List Char) :
    decompose (xs ++ ys) = (xs.flatMap decomposeChar).foldr insertMark (decompose ys) := by
  rw [decompose, List.flatMap_append, reorder_append]
  rfl

theorem decompose_cons (x : Char) (ys : List Char) :
    decompose (x :: ys) = (decomposeChar x).foldr insertMark (decompose ys) := by
  simpa using decompose_append [x] ys

theorem flatMap_atomic {cs : List Char} (h : ∀ c ∈ cs, Atomic c) :
    cs.flatMap decomposeChar = cs := by
  induction cs with
  | nil => rfl
  | cons c cs ih =>
    rw [List.flatMap_cons, ih fun d hd => h d (List.mem_cons_of_mem _ hd)]
    exact congrArg (· ++ cs) (h c (List.mem_cons_self ..))

theorem decompose_append_starter {c : Char} (hc : combiningClass c = 0) (ha : Atomic c)
    (xs ys : List Char) : decompose (xs ++ c :: ys) = decompose xs ++ c :: decompose ys := by
  rw [decompose, List.flatMap_append, List.flatMap_cons, ha, List.singleton_append,
    reorder_append_starter hc]
  rfl

theorem decompose_cons_starter {c : Char} (hc : combiningClass c = 0) (ha : Atomic c)
    (ys : List Char) : decompose (c :: ys) = c :: decompose ys := by
  simpa [decompose, reorder] using decompose_append_starter hc ha [] ys

end SelectiveDisclosure.Text
