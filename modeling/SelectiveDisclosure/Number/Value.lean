import SelectiveDisclosure.Number.Shortest

namespace SelectiveDisclosure

def Number.least : Int := -9223372036854775808

def Number.greatest : Int := 18446744073709551615

inductive Number where
  | integer (n : Int) (inRange : Number.least ≤ n ∧ n ≤ Number.greatest)
  | float (x : Binary64)
deriving DecidableEq

namespace Number

instance : Inhabited Number := ⟨.integer 0 (by decide)⟩

def ofInt? (n : Int) : Option Number :=
  if h : least ≤ n ∧ n ≤ greatest then some (.integer n h) else none

def ofWord (n : UInt64) : Number :=
  .integer n.toNat ⟨by simp only [least]; omega, by have := n.toNat_lt; simp only [greatest]; omega⟩

def integerText (n : Int) : List Char :=
  if n < 0 then '-' :: Digits.decimal n.natAbs else Digits.decimal n.natAbs

def leastPositional : Int := -5
def mostPositional : Int := 15

-- `ds` are the digits of a decimal whose first digit counts `10 ^ e`.
def positionalText (ds : List Char) (e : Int) : List Char :=
  if e < 0 then '0' :: '.' :: (List.replicate ((-e).toNat - 1) '0' ++ ds)
  else
    let whole := e.toNat + 1
    if ds.length ≤ whole then ds ++ List.replicate (whole - ds.length) '0' ++ ['.', '0']
    else ds.take whole ++ '.' :: ds.drop whole

def scientificText (ds : List Char) (e : Int) : List Char :=
  let mantissa := match ds with
    | d :: rest@(_ :: _) => d :: '.' :: rest
    | short => short
  mantissa ++ 'e' :: (if e < 0 then '-' else '+') :: Digits.decimal e.natAbs

def floatText (x : Binary64) : List Char :=
  let sign := if x.negative then ['-'] else []
  if x.significand = 0 then sign ++ ['0', '.', '0']
  else
    let short := x.shortest
    let ds := Digits.decimal short.coefficient
    let e := short.exponent + (ds.length : Int) - 1
    sign ++ (if leastPositional ≤ e ∧ e ≤ mostPositional then positionalText ds e
      else scientificText ds e)

def text : Number → List Char
  | .integer n _ => integerText n
  | .float x => floatText x

end Number

end SelectiveDisclosure
