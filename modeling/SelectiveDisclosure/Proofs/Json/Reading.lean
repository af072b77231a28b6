import SelectiveDisclosure.Json.Reading

namespace SelectiveDisclosure

namespace Reading

structure ReadsIff {α : Type} (p : Prop) (x : α × Option (List Char)) (a : α) (rest : List Char) :
    Prop where
  reads : p → x = (a, some rest)
  breaks : ¬p → x.2 = none

section

variable {α : Type} {p q : Prop} {x : α × Option (List Char)} {a : α} {rest : List Char}

theorem ReadsIff.eq_of_not (h : ReadsIff p x a rest) (hp : ¬p) : x = (x.1, none) :=
  Prod.ext rfl (h.breaks hp)

theorem ReadsIff.congr (h : ReadsIff p x a rest) (hpq : p ↔ q) : ReadsIff q x a rest :=
  ⟨fun hq => h.reads (hpq.mpr hq), fun hq => h.breaks (mt hpq.mp hq)⟩

theorem ReadsIff.of_eq (h : x = (a, some rest)) : ReadsIff True x a rest :=
  ⟨fun _ => h, fun hp => absurd trivial hp⟩

end

theorem skipBlanks_of_not_blank {c : Char} (hc : isBlank c = false) (cs : List Char) :
    skipBlanks (c :: cs) = c :: cs := by
  rw [skipBlanks, List.dropWhile_cons, hc]
  rfl

structure ReadsStringIff (p : Prop) (cs : List Char) (s : String) (rest : List Char) : Prop where
  reads : p → readString cs = some (some s, rest)
  breaks : ¬p → readString cs = none

variable {ν : Type} {leaf : Numeral → ν} {p q r : Prop} {steps : Nat} {cs more rest : List Char}
  {s : String} {v : Reading ν} {vs : List (Reading ν)} {ms : List (Option String × Reading ν)}

theorem readValue_string (leaf : Numeral → ν) (steps : Nat) (cs : List Char) :
    readValue leaf (steps + 1) ('"' :: cs) = match readString cs with
      | some (s, rest) => (string s, some rest)
      | none => (broken, none) := rfl

theorem readsIff_string (h : ReadsStringIff p cs s rest) :
    ReadsIff p (readValue leaf (steps + 1) ('"' :: cs)) (string (some s)) rest := by
  constructor
  · intro hp
    rw [readValue_string, h.reads hp]
  · intro hp
    rw [readValue_string, h.breaks hp]

theorem readsIff_array_nil :
    ReadsIff True (readValue leaf (steps + 1) ('[' :: ']' :: rest)) (array [] true) rest :=
  .of_eq rfl

theorem readValue_bracket (leaf : Numeral → ν) (steps : Nat) (cs : List Char) :
    readValue leaf (steps + 1) ('[' :: cs) = match skipBlanks cs with
      | ']' :: rest => (array [] true, some rest)
      | rest => match readItems leaf steps rest with
        | (items, some rest) => (array items true, some rest)
        | (items, none) => (array items false, none) := rfl

theorem readValue_items (leaf : Numeral → ν) (steps : Nat) {c : Char} (hblank : isBlank c = false)
    (hc : c ≠ ']') (cs : List Char) : readValue leaf (steps + 1) ('[' :: c :: cs) =
      match readItems leaf steps (c :: cs) with
      | (items, some rest) => (array items true, some rest)
      | (items, none) => (array items false, none) := by
  rw [readValue_bracket, skipBlanks_of_not_blank hblank]
  split
  · rename_i heq
    exact absurd (List.cons.inj heq).1 hc
  · rfl

theorem readsIff_array {c : Char} (hblank : isBlank c = false) (hc : c ≠ ']')
    (h : ReadsIff p (readItems leaf steps (c :: cs)) vs rest) :
    ReadsIff p (readValue leaf (steps + 1) ('[' :: c :: cs)) (array vs true) rest := by
  constructor
  · intro hp
    rw [readValue_items leaf steps hblank hc, h.reads hp]
  · intro hp
    rw [readValue_items leaf steps hblank hc, h.eq_of_not hp]

theorem readsIff_items_last (h : ReadsIff p (readValue leaf steps cs) v (']' :: rest)) :
    ReadsIff p (readItems leaf (steps + 1) cs) [v] rest := by
  constructor
  · intro hp
    rw [readItems, h.reads hp]
    rfl
  · intro hp
    rw [readItems, h.eq_of_not hp]

theorem readsIff_items_cons (h : ReadsIff p (readValue leaf steps cs) v (',' :: more))
    (hmore : ReadsIff q (readItems leaf steps more) vs rest) :
    ReadsIff (p ∧ q) (readItems leaf (steps + 1) cs) (v :: vs) rest := by
  have hnext : p → readItems leaf (steps + 1) cs =
      (v :: (readItems leaf steps more).1, (readItems leaf steps more).2) := by
    intro hp
    rw [readItems, h.reads hp]
    rfl
  constructor
  · rintro ⟨hp, hq⟩
    rw [hnext hp, hmore.reads hq]
  · intro hpq
    by_cases hp : p
    · rw [hnext hp]
      exact hmore.breaks fun hq => hpq ⟨hp, hq⟩
    · rw [readItems, h.eq_of_not hp]

theorem readsIff_object_nil :
    ReadsIff True (readValue leaf (steps + 1) ('\x7b' :: '\x7d' :: rest)) (object [] true) rest :=
  .of_eq rfl

theorem readValue_members (leaf : Numeral → ν) (steps : Nat) (cs : List Char) :
    readValue leaf (steps + 1) ('\x7b' :: '"' :: cs) =
      match readMembers leaf steps ('"' :: cs) with
      | (members, some rest) => (object members true, some rest)
      | (members, none) => (object members false, none) := rfl

theorem readsIff_object (h : ReadsIff p (readMembers leaf steps ('"' :: cs)) ms rest) :
    ReadsIff p (readValue leaf (steps + 1) ('\x7b' :: '"' :: cs)) (object ms true) rest := by
  constructor
  · intro hp
    rw [readValue_members, h.reads hp]
  · intro hp
    rw [readValue_members, h.eq_of_not hp]

theorem readMembers_step (leaf : Numeral → ν) (steps : Nat) (cs : List Char) :
    readMembers leaf (steps + 1) ('"' :: cs) = match readString cs with
      | none => ([], none)
      | some (k, rest) => match skipBlanks rest with
        | ':' :: rest => match readValue leaf steps rest with
          | (v, none) => ([(k, v)], none)
          | (v, some rest) => match skipBlanks rest with
            | '\x7d' :: rest => ([(k, v)], some rest)
            | ',' :: rest => let (ms, rest) := readMembers leaf steps rest; ((k, v) :: ms, rest)
            | _ => ([(k, v)], none)
        | _ => ([(k, broken)], none) := rfl

section Member

variable (hkey : ReadsStringIff p cs s (':' :: more))

include hkey

theorem readMembers_value (hp : p) : readMembers leaf (steps + 1) ('"' :: cs) =
    match readValue leaf steps more with
    | (v, none) => ([(some s, v)], none)
    | (v, some rest) => match skipBlanks rest with
      | '\x7d' :: rest => ([(some s, v)], some rest)
      | ',' :: rest => let (ms, rest) := readMembers leaf steps rest; ((some s, v) :: ms, rest)
      | _ => ([(some s, v)], none) := by
  rw [readMembers_step, hkey.reads hp]
  rfl

theorem readMembers_broken (h : ReadsIff q (readValue leaf steps more) v rest) (hpq : ¬(p ∧ q)) :
    (readMembers leaf (steps + 1) ('"' :: cs)).2 = none := by
  by_cases hp : p
  · rw [readMembers_value hkey hp, h.eq_of_not fun hq => hpq ⟨hp, hq⟩]
  · rw [readMembers_step, hkey.breaks hp]

theorem readsIff_members_last (h : ReadsIff q (readValue leaf steps more) v ('\x7d' :: rest)) :
    ReadsIff (p ∧ q) (readMembers leaf (steps + 1) ('"' :: cs)) [(some s, v)] rest := by
  constructor
  · rintro ⟨hp, hq⟩
    rw [readMembers_value hkey hp, h.reads hq]
    rfl
  · exact readMembers_broken hkey h

theorem readsIff_members_cons {others : List Char}
    (h : ReadsIff q (readValue leaf steps more) v (',' :: others))
    (hothers : ReadsIff r (readMembers leaf steps others) ms rest) :
    ReadsIff ((p ∧ q) ∧ r) (readMembers leaf (steps + 1) ('"' :: cs)) ((some s, v) :: ms) rest := by
  have hnext : p → q → readMembers leaf (steps + 1) ('"' :: cs) =
      ((some s, v) :: (readMembers leaf steps others).1, (readMembers leaf steps others).2) := by
    intro hp hq
    rw [readMembers_value hkey hp, h.reads hq]
    rfl
  constructor
  · rintro ⟨⟨hp, hq⟩, hr⟩
    rw [hnext hp hq, hothers.reads hr]
  · intro hpqr
    by_cases hpq : p ∧ q
    · rw [hnext hpq.1 hpq.2]
      exact hothers.breaks fun hr => hpqr ⟨hpq, hr⟩
    · exact readMembers_broken hkey h hpq

end Member

end Reading

end SelectiveDisclosure
