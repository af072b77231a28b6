import SelectiveDisclosure.Json.Value
import SelectiveDisclosure.Number.Numeral

/-!
A JSON text as far as it can be read. Arrays and objects say whether their closing bracket was
reached, and `broken` stands where no value starts. A string, and the key of a member, is none when
its escapes name no character. What is kept of a numeral is the caller's choice: its digits, or its
value if it has one.
-/

namespace SelectiveDisclosure

inductive Reading (ν : Type) where
  | null
  | bool (b : Bool)
  | number (n : ν)
  | string (s : Option String)
  | array (items : List (Reading ν)) (closed : Bool)
  | object (members : List (Option String × Reading ν)) (closed : Bool)
  | broken

namespace Reading

variable {ν : Type}

instance : Inhabited (Reading ν) := ⟨broken⟩

def isBlank (c : Char) : Bool := c = ' ' || c = '\n' || c = '\t' || c = '\r'

def skipBlanks (cs : List Char) : List Char := cs.dropWhile isBlank

def takeDigits : List Char → List Nat × List Char
  | [] => ([], [])
  | c :: cs => match Digits.value? c with
    | some d => let (ds, rest) := takeDigits cs; (d :: ds, rest)
    | none => ([], c :: cs)

def readWhole : List Char → Option (List Nat × List Char)
  | '0' :: cs => match cs with
    | c :: _ => if (Digits.value? c).isSome then none else some ([0], cs)
    | [] => some ([0], [])
  | cs => match takeDigits cs with
    | ([], _) => none
    | (ds, rest) => some (ds, rest)

def readFraction : List Char → Option (Option (List Nat) × List Char)
  | '.' :: cs => match takeDigits cs with
    | ([], _) => none
    | (ds, rest) => some (some ds, rest)
  | cs => some (none, cs)

def readPower (cs : List Char) : Option (Option (Bool × List Nat) × List Char) :=
  let (negative, digits) := match cs with
    | '+' :: rest => (false, rest)
    | '-' :: rest => (true, rest)
    | rest => (false, rest)
  match takeDigits digits with
  | ([], _) => none
  | (ds, rest) => some (some (negative, ds), rest)

def readExponent : List Char → Option (Option (Bool × List Nat) × List Char)
  | 'e' :: cs => readPower cs
  | 'E' :: cs => readPower cs
  | cs => some (none, cs)

def readNumeral (negative : Bool) (cs : List Char) : Option (Numeral × List Char) := do
  let (whole, cs) ← readWhole cs
  let (fraction, cs) ← readFraction cs
  let (exponent, cs) ← readExponent cs
  return (⟨negative, whole, fraction, exponent⟩, cs)

def hexValue? (c : Char) : Option Nat :=
  if '0' ≤ c ∧ c ≤ '9' then some (c.toNat - 0x30)
  else if 'a' ≤ c ∧ c ≤ 'f' then some (c.toNat - 0x57)
  else if 'A' ≤ c ∧ c ≤ 'F' then some (c.toNat - 0x37)
  else none

def simpleEscape? (c : Char) : Option Char :=
  match c with
  | '"' => some '"'
  | '\\' => some '\\'
  | '/' => some '/'
  | 'b' => some '\x08'
  | 'f' => some '\x0c'
  | 'n' => some '\n'
  | 'r' => some '\r'
  | 't' => some '\t'
  | _ => none

-- Characters written as themselves or by a short escape, and 16 bit words written as `\u` escapes.
def readUnits : List Char → Option (List (Char ⊕ Nat) × List Char)
  | [] => none
  | '"' :: rest => some ([], rest)
  | '\\' :: 'u' :: a :: b :: c :: d :: rest => do
      let ns ← [a, b, c, d].mapM hexValue?
      let (us, rest) ← readUnits rest
      return (.inr (Digits.toNat 16 ns) :: us, rest)
  | '\\' :: c :: rest => do
      let e ← simpleEscape? c
      let (us, rest) ← readUnits rest
      return (.inl e :: us, rest)
  | c :: rest =>
      if c.toNat < 0x20 || c = '\\' then none
      else do
        let (us, rest) ← readUnits rest
        return (.inl c :: us, rest)

def joinSurrogates (high low : Nat) : Char :=
  Char.ofNat (0x10000 + (high - 0xD800) * 0x400 + (low - 0xDC00))

def joinUnits : List (Char ⊕ Nat) → Option (List Char)
  | [] => some []
  | .inl c :: us => (joinUnits us).map (c :: ·)
  | .inr n :: us =>
      if n < 0xD800 ∨ 0xE000 ≤ n then (joinUnits us).map (Char.ofNat n :: ·)
      else if 0xDC00 ≤ n then none
      else match us with
        | .inr m :: rest =>
            if 0xDC00 ≤ m ∧ m < 0xE000 then (joinUnits rest).map (joinSurrogates n m :: ·)
            else none
        | _ => none

def readString (cs : List Char) : Option (Option String × List Char) := do
  let (us, rest) ← readUnits cs
  return ((joinUnits us).map String.ofList, rest)

def readWord (word : List Char) (value : Reading ν) (cs : List Char) :
    Reading ν × Option (List Char) :=
  if word.isPrefixOf cs then (value, some (cs.drop word.length)) else (broken, none)

variable (leaf : Numeral → ν)

mutual

def readValue : Nat → List Char → Reading ν × Option (List Char)
  | 0, _ => (broken, none)
  | steps + 1, cs => match skipBlanks cs with
    | 'n' :: rest => readWord ['u', 'l', 'l'] null rest
    | 't' :: rest => readWord ['r', 'u', 'e'] (bool true) rest
    | 'f' :: rest => readWord ['a', 'l', 's', 'e'] (bool false) rest
    | '"' :: rest => match readString rest with
      | some (s, rest) => (string s, some rest)
      | none => (broken, none)
    | '[' :: rest => match skipBlanks rest with
      | ']' :: rest => (array [] true, some rest)
      | rest => match readItems steps rest with
        | (items, some rest) => (array items true, some rest)
        | (items, none) => (array items false, none)
    | '\x7b' :: rest => match skipBlanks rest with
      | '\x7d' :: rest => (object [] true, some rest)
      | rest => match readMembers steps rest with
        | (members, some rest) => (object members true, some rest)
        | (members, none) => (object members false, none)
    | '-' :: rest => match readNumeral true rest with
      | some (r, rest) => (number (leaf r), some rest)
      | none => (broken, none)
    | rest => match readNumeral false rest with
      | some (r, rest) => (number (leaf r), some rest)
      | none => (broken, none)

def readItems : Nat → List Char → List (Reading ν) × Option (List Char)
  | 0, _ => ([], none)
  | steps + 1, cs => match readValue steps cs with
    | (v, none) => ([v], none)
    | (v, some rest) => match skipBlanks rest with
      | ']' :: rest => ([v], some rest)
      | ',' :: rest => let (vs, rest) := readItems steps rest; (v :: vs, rest)
      | _ => ([v], none)

def readMembers : Nat → List Char → List (Option String × Reading ν) × Option (List Char)
  | 0, _ => ([], none)
  | steps + 1, cs => match skipBlanks cs with
    | '"' :: rest => match readString rest with
      | none => ([], none)
      | some (k, rest) => match skipBlanks rest with
        | ':' :: rest => match readValue steps rest with
          | (v, none) => ([(k, v)], none)
          | (v, some rest) => match skipBlanks rest with
            | '\x7d' :: rest => ([(k, v)], some rest)
            | ',' :: rest => let (ms, rest) := readMembers steps rest; ((k, v) :: ms, rest)
            | _ => ([(k, v)], none)
        | _ => ([(k, broken)], none)
    | _ => ([], none)

end

def ofText (s : String) : Reading ν × Bool :=
  let cs := s.toList
  match readValue leaf (2 * cs.length + 2) cs with
  | (r, some rest) => (r, (skipBlanks rest).isEmpty)
  | (r, none) => (r, false)

def nestingLimit : Nat := 127

mutual

def toJson? : Nat → Reading (Option Number) → Option Json
  | _, null => some .null
  | _, bool b => some (.bool b)
  | _, number n => n.map .number
  | _, string s => s.map .string
  | 0, array _ _ => none
  | depth + 1, array items closed =>
      if closed then (itemsToJson? depth items).map .array else none
  | 0, object _ _ => none
  | depth + 1, object members closed =>
      if closed then (membersToJson? depth members []).map .object else none
  | _, broken => none

def itemsToJson? : Nat → List (Reading (Option Number)) → Option (List Json)
  | _, [] => some []
  | depth, v :: vs => do
      let j ← toJson? depth v
      let js ← itemsToJson? depth vs
      return j :: js

def membersToJson? : Nat → List (Option String × Reading (Option Number)) →
    List (String × Json) → Option (List (String × Json))
  | _, [], done => some done
  | _, (none, _) :: _, _ => none
  | depth, (some k, v) :: ms, done => do
      let j ← toJson? depth v
      membersToJson? depth ms (insertEntry k j done)

end

mutual

def ofJson : Json → Reading (Option Number)
  | .null => null
  | .bool b => bool b
  | .number n => number (some n)
  | .string s => string (some s)
  | .array vs => array (itemsOfJson vs) true
  | .object ms => object (membersOfJson ms) true

def itemsOfJson : List Json → List (Reading (Option Number))
  | [] => []
  | v :: vs => ofJson v :: itemsOfJson vs

def membersOfJson : List (String × Json) → List (Option String × Reading (Option Number))
  | [] => []
  | (k, v) :: ms => (some k, ofJson v) :: membersOfJson ms

end

end Reading

namespace Json

mutual

def depth : Json → Nat
  | .array vs => itemsDepth vs + 1
  | .object ms => membersDepth ms + 1
  | _ => 0

def itemsDepth : List Json → Nat
  | [] => 0
  | v :: vs => max (depth v) (itemsDepth vs)

def membersDepth : List (String × Json) → Nat
  | [] => 0
  | (_, v) :: ms => max (depth v) (membersDepth ms)

end

def read? (s : String) : Option Json :=
  match Reading.ofText Numeral.value? s with
  | (r, true) => r.toJson? Reading.nestingLimit
  | (_, false) => none

end Json

end SelectiveDisclosure
