import SelectiveDisclosure.Json.Reading

namespace SelectiveDisclosure

inductive Content where
  | object (entries : List (String × Content))
  | array (items : List Content)
  | string (s : String)
  | number (n : Number)
  | bool (b : Bool)

inductive UnsupportedValue where
  | null
  | nonFinite
deriving DecidableEq

inductive ContentError where
  | unsupportedValue (what : UnsupportedValue)
  | tooDeep (limit : Nat)
  | duplicateKey (key : String)
deriving DecidableEq

def UnsupportedValue.message : UnsupportedValue → String
  | .null => "null"
  | .nonFinite => "non-finite number"

def ContentError.message : ContentError → String
  | .unsupportedValue what => "unsupported value: " ++ what.message
  | .tooDeep limit =>
      "content is nested deeper than " ++ String.ofList (Digits.decimal limit) ++ " levels"
  | .duplicateKey key => "duplicate key after normalization: " ++ key

namespace Content

instance : Inhabited Content := ⟨.bool false⟩

def maxDepth : Nat := 64

def checkDepth (depth : Nat) : Except ContentError Unit :=
  if depth ≤ maxDepth then .ok () else .error (.tooDeep maxDepth)

mutual

def ofJsonAt (depth : Nat) : Json → Except ContentError Content
  | .null => do checkDepth depth; throw (.unsupportedValue .null)
  | .bool b => do checkDepth depth; return .bool b
  | .number n => do checkDepth depth; return .number n
  | .string s => do checkDepth depth; return .string s
  | .array vs => do checkDepth depth; return .array (← itemsOfJson (depth + 1) vs)
  | .object ms => do checkDepth depth; return .object (← entriesOfJson (depth + 1) ms)

def itemsOfJson (depth : Nat) : List Json → Except ContentError (List Content)
  | [] => return []
  | v :: vs => do
      let c ← ofJsonAt depth v
      let cs ← itemsOfJson depth vs
      return c :: cs

def entriesOfJson (depth : Nat) : List (String × Json) → Except ContentError (List (String × Content))
  | [] => return []
  | (k, v) :: ms => do
      let c ← ofJsonAt depth v
      let es ← entriesOfJson depth ms
      return (k, c) :: es

end

def ofJson (j : Json) : Except ContentError Content := ofJsonAt 0 j.sorted

mutual

def toJson : Content → Json
  | .object es => .object (entriesToJson es)
  | .array vs => .array (itemsToJson vs)
  | .string s => .string s
  | .number n => .number n
  | .bool b => .bool b

def itemsToJson : List Content → List Json
  | [] => []
  | v :: vs => toJson v :: itemsToJson vs

def entriesToJson : List (String × Content) → List (String × Json)
  | [] => []
  | (k, v) :: es => (k, toJson v) :: entriesToJson es

end

def ofEntries (es : List (String × Content)) : Content :=
  .object (SortedMap.ofList es).entries

def ofFloat (x : Option Binary64) : Except ContentError Content :=
  match x with
  | some x => .ok (.number (.float x))
  | none => .error (.unsupportedValue .nonFinite)

def wrapItem : Nat → Content → Content
  | 0, c => c
  | n + 1, c => wrapItem n (.array [c])

end Content

end SelectiveDisclosure
