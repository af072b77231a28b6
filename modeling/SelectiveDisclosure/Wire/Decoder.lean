import SelectiveDisclosure.Json.Reading
import SelectiveDisclosure.Document

/-!
Decoding of typed values out of JSON. A value decodes either from a JSON text, while it is being read
and in the order of the text, or from a JSON value, whose members come in key order. In a text the
first error that is met wins, be it in the text or in what it says.
-/

namespace SelectiveDisclosure.Wire

inductive Refusal where
  | did (cause : DidError)
  | keyUri (cause : KeyUriError)
  | documentId (cause : DocumentIdError)
  | hex (cause : Hex.HexError)
  | byteCount (found : Nat)
  | content (cause : ContentError)
  | time (cause : Rfc3339.TimeError)
deriving DecidableEq

def Refusal.message : Refusal → String
  | .did cause => cause.message
  | .keyUri cause => cause.message
  | .documentId cause => cause.message
  | .hex cause => cause.message
  | .byteCount found =>
      "Can't convert a Byte Vector of length " ++ String.ofList (Digits.decimal found) ++
        " to the output type."
  | .content cause => cause.message
  | .time cause => cause.message

inductive DecodeError where
  | malformed
  | missingField (name : String)
  | unknownField (name : String)
  | duplicateField (name : String)
  | unknownVariant (name : String)
  | invalidType
  | invalidValue
  | invalidLength
  | refused (cause : Refusal)
deriving DecidableEq

def ticked (name : String) : String := "`" ++ name ++ "`"

def DecodeError.message : DecodeError → Option String
  | .malformed => none
  | .missingField name => some ("missing field " ++ ticked name)
  | .unknownField name => some ("unknown field " ++ ticked name)
  | .duplicateField name => some ("duplicate field " ++ ticked name)
  | .unknownVariant name => some ("unknown variant " ++ ticked name)
  | .invalidType => some "invalid type"
  | .invalidValue => some "invalid value"
  | .invalidLength => some "invalid length"
  | .refused cause => some cause.message

inductive Form where
  | text
  | value
deriving DecidableEq

structure Context where
  form : Form
  room : Nat

def Context.inner (c : Context) : Context := ⟨c.form, c.room - 1⟩

abbrev Source := Reading (Option Number)

abbrev Decoder (α : Type) := Context → Source → Except DecodeError α

def decodeValue {α : Type} (decoder : Decoder α) (j : Json) : Except DecodeError α :=
  decoder ⟨.value, j.depth⟩ (Reading.ofJson j.sorted)

def decodeText {α : Type} (decoder : Decoder α) (s : String) : Except DecodeError α := do
  let (source, ended) := Reading.ofText Numeral.value? s
  let a ← decoder ⟨.text, Reading.nestingLimit⟩ source
  if ended then return a else throw .malformed

def mismatch : Source → DecodeError
  | .broken => .malformed
  | .string none => .malformed
  | .number none => .malformed
  | _ => .invalidType

def string : Decoder String
  | _, .string (some s) => .ok s
  | _, other => .error (mismatch other)

def word : Decoder UInt64
  | _, .number (some (.integer n _)) =>
      if 0 ≤ n then .ok (UInt64.ofNat n.toNat) else .error .invalidValue
  | _, other => .error (mismatch other)

def json : Decoder Json
  | c, source => match source.toJson? c.room with
    | some j => .ok j
    | none => .error .malformed

def optional {α : Type} (decoder : Decoder α) : Decoder (Option α)
  | _, .null => .ok none
  | c, source => (decoder c source).map some

def parsed {α ε : Type} (parse : String → Except ε α) (cause : ε → Refusal) : Decoder α
  | c, source => do
      let s ← string c source
      (parse s).mapError fun e => .refused (cause e)

def items {α : Type} (decoder : Decoder α) (c : Context) : List Source → Except DecodeError (List α)
  | [] => return []
  | v :: vs => do
      let a ← decoder c v
      let as ← items decoder c vs
      return a :: as

def list {α : Type} (decoder : Decoder α) : Decoder (List α)
  | c, .array vs closed => do
      let as ← items decoder c.inner vs
      if closed then return as else throw .malformed
  | _, other => .error (mismatch other)

def entries {α : Type} (decoder : Decoder α) (c : Context) (key : String → Except DecodeError Hash) :
    List (Option String × Source) → SortedMap Hash α → Except DecodeError (SortedMap Hash α)
  | [], done => return done
  | (none, _) :: _, _ => throw .malformed
  | (some k, v) :: ms, done => do
      let hash ← key k
      let a ← decoder c v
      entries decoder c key ms (done.insert hash a)

def hashMap {α : Type} (decoder : Decoder α) (key : String → Except DecodeError Hash) :
    Decoder (SortedMap Hash α)
  | c, .object ms closed => do
      let m ← entries decoder c.inner key ms SortedMap.empty
      if closed then return m else throw .malformed
  | _, other => .error (mismatch other)

def variant {α : Type} (names : List (String × α)) (name : String) : Except DecodeError α :=
  match names.lookup name with
  | some a => .ok a
  | none => .error (.unknownVariant name)

def unit : Source → Except DecodeError Unit
  | .null => .ok ()
  | other => .error (mismatch other)

-- A variant is its name, or an object with the name as its only key and null under it.
def enumeration {α : Type} (names : List (String × α)) : Decoder α
  | _, .string (some s) => variant names s
  | ⟨.value, _⟩, .object [(some k, v)] _ => do
      let a ← variant names k
      unit v
      return a
  | ⟨.value, _⟩, .object _ _ => .error .invalidValue
  | ⟨.text, _⟩, .object ((some k, v) :: others) closed => do
      let a ← variant names k
      unit v
      if others.isEmpty && closed then return a else throw .malformed
  | ⟨.text, _⟩, _ => .error .malformed
  | ⟨.value, _⟩, other => .error (mismatch other)

-- Every field that is present is checked where it stands, and only then are the fields fetched.
abbrev Check := Source → Except DecodeError Unit

structure Fields where
  found : List (String × Source)
  absent : String → DecodeError

def walkMembers (known : List (String × Check)) (strict : Bool) :
    List (String × Source) → List (Option String × Source) →
      Except DecodeError (List (String × Source))
  | found, [] => return found
  | _, (none, _) :: _ => throw .malformed
  | found, (some k, v) :: ms => match known.lookup k with
    | some check =>
        if (found.lookup k).isSome then throw (.duplicateField k)
        else do
          check v
          walkMembers known strict (found ++ [(k, v)]) ms
    | none => if strict then throw (.unknownField k) else walkMembers known strict found ms

def walkItems : List (String × Check) → List Source → Except DecodeError (List (String × Source))
  | (k, check) :: known, v :: vs => do
      check v
      let rest ← walkItems known vs
      return (k, v) :: rest
  | _, _ => return []

-- An array of more items than are asked for is a fault of the text that holds it, or else of its length.
def Context.surplus (c : Context) : DecodeError :=
  if c.form = .text then .malformed else .invalidLength

def fields (known : List (String × Check)) (strict : Bool) : Decoder Fields
  | _, .object ms closed => do
      let found ← walkMembers known strict [] ms
      if closed then return ⟨found, .missingField⟩ else throw .malformed
  | c, .array vs closed => do
      let found ← walkItems known vs
      if !closed then throw .malformed
      if known.length < vs.length then
        throw c.surplus
      return ⟨found, fun _ => .invalidLength⟩
  | _, other => .error (mismatch other)

def check {α : Type} (decoder : Decoder α) (c : Context) : Check :=
  fun source => (decoder c source).map fun _ => ()

namespace Fields

variable {α : Type}

def get (f : Fields) (name : String) (c : Context) (decoder : Decoder α) : Except DecodeError α :=
  match f.found.lookup name with
  | some source => decoder c source
  | none => .error (f.absent name)

def getD (f : Fields) (name : String) (c : Context) (decoder : Decoder α) (standard : α) :
    Except DecodeError α :=
  match f.found.lookup name with
  | some source => decoder c source
  | none => .ok standard

end Fields

end SelectiveDisclosure.Wire
