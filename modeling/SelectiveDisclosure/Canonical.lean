import SelectiveDisclosure.Content
import SelectiveDisclosure.Text.Normalization

namespace SelectiveDisclosure

namespace Content

mutual

def normalizeAt (depth : Nat) : Content → Except ContentError Content
  | .object es => do checkDepth depth; return .object (← normalizeEntries (depth + 1) es [])
  | .array vs => do checkDepth depth; return .array (← normalizeItems (depth + 1) vs)
  | .string s => do checkDepth depth; return .string s
  | .number n => do checkDepth depth; return .number n
  | .bool b => do checkDepth depth; return .bool b

def normalizeItems (depth : Nat) : List Content → Except ContentError (List Content)
  | [] => return []
  | v :: vs => do
      let c ← normalizeAt depth v
      let cs ← normalizeItems depth vs
      return c :: cs

def normalizeEntries (depth : Nat) : List (String × Content) → List (String × Content) →
    Except ContentError (List (String × Content))
  | [], done => return done
  | (k, v) :: es, done =>
      let key := Text.normalize k
      if (lookupEntry key done).isSome then throw (.duplicateKey key)
      else do
        let c ← normalizeAt depth v
        normalizeEntries depth es (insertEntry key c done)

end

def plainText : Content → List Char
  | .string s => s.toList
  | .number n => n.text
  | .bool b => Json.boolText b
  | nested => nested.toJson.text

def encode (c : Content) : Except ContentError String := do
  let normal ← normalizeAt 0 c
  return String.ofList (Text.normalizeChars normal.plainText)

end Content

end SelectiveDisclosure
