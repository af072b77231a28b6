/-!
Finite double-precision numbers. A value is `significand * 2 ^ exponent` in units of the smallest
positive number, `2 ^ -1074`, with a sign that zero keeps too.
-/

namespace SelectiveDisclosure

def Binary64.normalStart : Nat := 4503599627370496

def Binary64.significandEnd : Nat := 9007199254740992

structure Binary64 where
  negative : Bool
  significand : Nat
  exponent : Nat
  canonical : significand < Binary64.significandEnd ∧ exponent ≤ 2045 ∧
    (Binary64.normalStart ≤ significand ∨ exponent = 0)
deriving DecidableEq

namespace Binary64

def unitScale : Nat := Nat.pow 2 1074

def units (x : Binary64) : Nat := x.significand * Nat.pow 2 x.exponent

def zero (negative : Bool) : Binary64 := ⟨negative, 0, 0, by decide⟩

instance : Inhabited Binary64 := ⟨zero false⟩

def neg (x : Binary64) : Binary64 := ⟨!x.negative, x.significand, x.exponent, x.canonical⟩

def roundDiv (n d : Nat) : Nat :=
  let q := n / d
  let r := n % d
  if 2 * r < d then q
  else if d < 2 * r then q + 1
  else if q % 2 = 0 then q
  else q + 1

def make? (negative : Bool) (significand exponent : Nat) : Option Binary64 :=
  if h : significand < significandEnd ∧ exponent ≤ 2045 ∧
      (normalStart ≤ significand ∨ exponent = 0) then some ⟨negative, significand, exponent, h⟩
  else none

-- Halves go to the even significand; there is none past the largest finite number.
def ofRatio? (negative : Bool) (n d : Nat) : Option Binary64 :=
  let scaled := n * unitScale
  let exponent := (scaled / d).log2 - 52
  let significand := roundDiv scaled (d * Nat.pow 2 exponent)
  if significand = significandEnd then make? negative normalStart (exponent + 1)
  else make? negative significand exponent

def ofNat? (n : Nat) : Option Binary64 := ofRatio? false n 1

def mul? (x y : Binary64) : Option Binary64 :=
  ofRatio? (x.negative != y.negative) (x.units * y.units) (unitScale * unitScale)

def div? (x y : Binary64) : Option Binary64 :=
  ofRatio? (x.negative != y.negative) x.units y.units

def ofBits? (bits : Nat) : Option Binary64 :=
  let field := bits / normalStart
  let negative := field / 2048 = 1
  let exponent := field % 2048
  let fraction := bits % normalStart
  if exponent = 0 then make? negative fraction 0
  else make? negative (normalStart + fraction) (exponent - 1)

end Binary64

end SelectiveDisclosure
