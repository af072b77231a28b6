import SelectiveDisclosure.Presentation
import SelectiveDisclosure.Wire.Decoder

/-!
Changes from outside, which nothing in the library itself makes: values put at a place inside a JSON value,
content nested in itself, and a header or a presentation hashed or signed anew after a change.
-/

namespace SelectiveDisclosure

namespace Json

def cutAtSlashes : List Char → List Char × List (List Char)
  | [] => ([], [])
  | c :: cs =>
      let (first, others) := cutAtSlashes cs
      if c = '/' then ([], first :: others) else (c :: first, others)

def pathOf (pointer : String) : List String := (cutAtSlashes pointer.toList).2.map String.ofList

def index? (step : String) : Option Nat :=
  let ds := step.toList.filterMap Digits.value?
  if ds.length = step.length ∧ ds ≠ [] then some (Digits.toNat 10 ds) else none

def inside? (step : String) : Json → Option Json
  | object ms => ms.lookup step
  | array vs => (index? step).bind fun i => vs[i]?
  | _ => none

def at? : List String → Json → Option Json
  | [], j => some j
  | step :: path, j => (j.inside? step).bind (at? path)

def setMember (k : String) (v : Json) : List (String × Json) → List (String × Json)
  | [] => [(k, v)]
  | m :: ms => if k = m.1 then (k, v) :: ms else m :: setMember k v ms

def putInside? (j : Json) (step : String) (v : Json) : Option Json :=
  match j with
  | object ms => some (object (setMember step v ms))
  | array vs => (index? step).bind fun i => if i < vs.length then some (array (vs.set i v)) else none
  | _ => none

def dropInside? (j : Json) (step : String) : Option Json :=
  match j with
  | object ms => some (object (ms.filter fun m => m.1 ≠ step))
  | array vs =>
      (index? step).bind fun i => if i < vs.length then some (array (vs.eraseIdx i)) else none
  | _ => none

def append? (j v : Json) : Option Json :=
  match j with
  | array vs => some (array (vs ++ [v]))
  | _ => none

inductive Edit where
  | put (v : Json)
  | push (v : Json)
  | remove

def edit? (e : Edit) : List String → Json → Option Json
  | [], j => match e with
    | .put v => some v
    | .push v => j.append? v
    | .remove => none
  | [step], j => match e with
    | .put v => j.putInside? step v
    | .push v => ((j.inside? step).bind (append? · v)).bind (j.putInside? step)
    | .remove => j.dropInside? step
  | step :: path, j => ((j.inside? step).bind (edit? e path)).bind (j.putInside? step)

end Json

namespace Content

def wrapEntry (key : String) : Nat → Content → Content
  | 0, c => c
  | n + 1, c => wrapEntry key n (.object [(key, c)])

end Content

namespace Header

def rehash (h : Header) (hasher : Hasher) : Except ContentError Header := do
  let hash ← h.terms.documentHash hasher
  return ⟨⟨hash⟩, h.terms, hash, h.issuerSignature, h.metadata⟩

def resign (h : Header) (signer : Signer) : Except SigningError Header := do
  let signature ← signer.signature h.documentHash.toList
  return ⟨h.identifier, h.terms, h.documentHash, signature, h.metadata⟩

end Header

namespace Presentation

inductive ResignError where
  | encoding (cause : ContentError)
  | signing (cause : SigningError)
deriving DecidableEq

def ResignError.message : ResignError → String
  | .encoding cause => cause.message
  | .signing cause => cause.message

def resign (p : Presentation) (signer : Signer) : Except ResignError Presentation := do
  let payload ← (p.payload p.challenge).mapError .encoding
  let signature ← (signer.signature (utf8 payload)).mapError .signing
  return ⟨p.header, p.disclosed, p.nonces, p.challenge, signature⟩

end Presentation

namespace Wire

def bool : Decoder Bool
  | _, .bool b => .ok b
  | _, other => .error (mismatch other)

def integer (low high : Int) : Decoder Int
  | _, .number (some (.integer n _)) => if low ≤ n ∧ n ≤ high then .ok n else .error .invalidValue
  | _, other => .error (mismatch other)

def pair {α β : Type} (first : Decoder α) (second : Decoder β) : Decoder (α × β)
  | c, .array vs closed => do
      let shortage : DecodeError := if closed then .invalidLength else .malformed
      match vs with
      | [] => throw shortage
      | [v] => do
          let _ ← first c.inner v
          throw shortage
      | v :: w :: others => do
          let a ← first c.inner v
          let b ← second c.inner w
          if !closed then throw .malformed
          if others.isEmpty then return (a, b) else throw c.surplus
  | _, other => .error (mismatch other)

end Wire

end SelectiveDisclosure
