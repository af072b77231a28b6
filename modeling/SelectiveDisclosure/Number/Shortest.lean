import SelectiveDisclosure.Number.Binary64
import SelectiveDisclosure.Digits

/-!
The shortest decimal that reads back as a given number: for one digit, two digits, and so on, the
two neighbours of the number on that decimal grid are tried, and the first grid with a hit wins. Of
two hits the nearer is taken, and an exact tie goes to the even last digit.
-/

namespace SelectiveDisclosure

open Digits

structure Decimal where
  coefficient : Nat
  exponent : Int
deriving DecidableEq

namespace Decimal

def toBinary64? (negative : Bool) (x : Decimal) : Option Binary64 :=
  if 0 ≤ x.exponent then
    Binary64.ofRatio? negative (x.coefficient * tenTo x.exponent.toNat) 1
  else Binary64.ofRatio? negative x.coefficient (tenTo (-x.exponent).toNat)

end Decimal

namespace Binary64

def gridPlaces : Nat := 341

def chooseNeighbour (x : Binary64) (places low : Nat) : Option Decimal :=
  let unit : Int := (places : Int) - gridPlaces
  let below : Decimal := ⟨low, unit⟩
  let above : Decimal := if low = 9 then ⟨1, unit + 1⟩ else ⟨low + 1, unit⟩
  let twice := 2 * x.units * tenTo gridPlaces
  let middle := (2 * low + 1) * tenTo places * unitScale
  match decide (below.toBinary64? x.negative = some x), decide (above.toBinary64? x.negative = some x) with
  | true, false => some below
  | false, true => some above
  | true, true =>
      if twice < middle then some below
      else if middle < twice then some above
      else if low % 2 = 0 then some below else some above
  | false, false => none

def searchShortest (x : Binary64) (grid size : Nat) : Nat → Nat → Decimal
  | 0, count => ⟨grid / tenTo (size - count), (size - count : Int) - gridPlaces⟩
  | tries + 1, count =>
      match chooseNeighbour x (size - count) (grid / tenTo (size - count)) with
      | some found => found
      | none => searchShortest x grid size tries (count + 1)

def shortest (x : Binary64) : Decimal :=
  let grid := x.units * tenTo gridPlaces / unitScale
  searchShortest x grid (Digits.ofNat 10 grid).length 17 1

end Binary64

end SelectiveDisclosure
