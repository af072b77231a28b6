import SelectiveDisclosure.Number.Value

/-!
Numerals as they stand in a JSON text. A numeral without fraction and exponent that fits 64 bits is an
integer. Any other is read in double precision: as many leading digits as fit an unsigned 64 bit word
are rounded once, and the result is scaled by powers of ten up to the 308th, rounding after each step.
-/

namespace SelectiveDisclosure

open Digits

structure Numeral where
  negative : Bool
  whole : List Nat
  fraction : Option (List Nat)
  exponent : Option (Bool × List Nat)
deriving DecidableEq

namespace Numeral

def wordLimit : Nat := 18446744073709551616

def takeFitting (n : Nat) : List Nat → Nat × List Nat
  | [] => (n, [])
  | d :: ds => if n * 10 + d < wordLimit then takeFitting (n * 10 + d) ds else (n, d :: ds)

def powerLimit : Nat := 308

def tenPower? (power : Nat) : Option Binary64 := Binary64.ofNat? (tenTo power)

def scaleUp? (x : Binary64) (power : Nat) : Option Binary64 :=
  if x.significand = 0 then some x
  else if power ≤ powerLimit then (tenPower? power).bind x.mul?
  else none

def scaleDown? : Nat → Binary64 → Nat → Option Binary64
  | 0, x, power => (tenPower? power).bind x.div?
  | steps + 1, x, power =>
      if x.significand = 0 then some x
      else if power ≤ powerLimit then (tenPower? power).bind x.div?
      else ((tenPower? powerLimit).bind x.div?).bind (scaleDown? steps · (power - powerLimit))

def scale? (x : Binary64) (power : Int) : Option Binary64 :=
  if 0 ≤ power then scaleUp? x power.toNat else scaleDown? ((-power).toNat / powerLimit) x (-power).toNat

def signed (negative : Bool) (x : Binary64) : Binary64 := if negative then x.neg else x

def exponentValue (r : Numeral) : Int :=
  match r.exponent with
  | none => 0
  | some (negative, ds) =>
      if negative then -(Digits.toNat 10 ds : Int) else (Digits.toNat 10 ds : Int)

def toBinary64? (r : Numeral) : Option Binary64 :=
  let (head, cut) := takeFitting 0 r.whole
  let (word, power) := match r.fraction with
    | none => (head, (cut.length : Int))
    | some ds =>
        let (all, rest) := takeFitting head ds
        (all, (cut.length : Int) - ((ds.length - rest.length : Nat) : Int))
  ((Binary64.ofNat? word).bind (scale? · (power + r.exponentValue))).map (signed r.negative)

def toInteger? (r : Numeral) : Option Int :=
  match r.fraction, r.exponent with
  | none, none =>
      let n := Digits.toNat 10 r.whole
      if r.negative then (if n = 0 then none else some (-(n : Int))) else some (n : Int)
  | _, _ => none

def value? (r : Numeral) : Option Number :=
  match r.toInteger?.bind Number.ofInt? with
  | some n => some n
  | none => r.toBinary64?.map .float

end Numeral

end SelectiveDisclosure
