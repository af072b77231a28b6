import SelectiveDisclosure.Octets

/-!
The curve `y ^ 2 = x ^ 3 + 7` over the integers modulo a 256 bit prime, and its group of points. Points
are computed in Jacobian coordinates: `(x, y, z)` stands for `(x / z ^ 2, y / z ^ 3)`, and the neutral
element has `z = 0`.
-/

namespace SelectiveDisclosure.Curve

def fieldPrime : Nat := 0xfffffffffffffffffffffffffffffffffffffffffffffffffffffffefffffc2f
def order : Nat := 0xfffffffffffffffffffffffffffffffebaaedce6af48a03bbfd25e8cd0364141

def power (modulus base : Nat) : Nat → Nat → Nat
  | 0, _ => 1 % modulus
  | bits + 1, n =>
      let half := power modulus base bits (n / 2)
      let square := half * half % modulus
      if n % 2 = 1 then square * base % modulus else square

def inverse (modulus n : Nat) : Nat := power modulus n 256 (modulus - 2)

def squareRoot (n : Nat) : Nat := power fieldPrime n 256 ((fieldPrime + 1) / 4)

def add (a b : Nat) : Nat := (a + b) % fieldPrime
def sub (a b : Nat) : Nat := (a + (fieldPrime - b)) % fieldPrime
def mul (a b : Nat) : Nat := a * b % fieldPrime

structure Point where
  x : Nat
  y : Nat
  z : Nat

namespace Point

def neutral : Point := ⟨1, 1, 0⟩

def generator : Point :=
  ⟨0x79be667ef9dcbbac55a06295ce870b07029bfcdb2dce28d959f2815b16f81798,
   0x483ada7726a3c4655da4fbfc0e1108a8fd17b448a68554199c47d08ffb10d4b8, 1⟩

def double (p : Point) : Point :=
  if p.z = 0 ∨ p.y = 0 then neutral
  else
    let yy := mul p.y p.y
    let s := mul 4 (mul p.x yy)
    let m := mul 3 (mul p.x p.x)
    let x := sub (mul m m) (mul 2 s)
    let y := sub (mul m (sub s x)) (mul 8 (mul yy yy))
    ⟨x, y, mul 2 (mul p.y p.z)⟩

def plus (p q : Point) : Point :=
  if p.z = 0 then q
  else if q.z = 0 then p
  else
    let pzz := mul p.z p.z
    let qzz := mul q.z q.z
    let u1 := mul p.x qzz
    let u2 := mul q.x pzz
    let s1 := mul p.y (mul qzz q.z)
    let s2 := mul q.y (mul pzz p.z)
    if u1 = u2 then (if s1 = s2 then double p else neutral)
    else
      let h := sub u2 u1
      let r := sub s2 s1
      let hh := mul h h
      let hhh := mul hh h
      let v := mul u1 hh
      let x := sub (sub (mul r r) hhh) (mul 2 v)
      let y := sub (mul r (sub v x)) (mul s1 hhh)
      ⟨x, y, mul h (mul p.z q.z)⟩

def times (p : Point) : Nat → Nat → Point
  | 0, _ => neutral
  | bits + 1, n =>
      let twice := double (times p bits (n / 2))
      if n % 2 = 1 then plus twice p else twice

def scale (p : Point) (n : Nat) : Point := times p 256 n

def affine? (p : Point) : Option (Nat × Nat) :=
  if p.z = 0 then none
  else
    let inv := inverse fieldPrime p.z
    let inv2 := mul inv inv
    some (mul p.x inv2, mul p.y (mul inv2 inv))

def compress (p : Point) : Octets 33 :=
  let (x, y) := p.affine?.getD (0, 0)
  ⟨(if y % 2 = 0 then 2 else 3) :: bigEndianBytes 32 x, by simp [length_bigEndianBytes]⟩

def lift? (x : Nat) (odd : Bool) : Option Point :=
  let yy := add (mul x (mul x x)) 7
  let y := squareRoot yy
  if x < fieldPrime ∧ mul y y = yy then
    some ⟨x, if (y % 2 = 1) = odd then y else sub 0 y, 1⟩
  else none

-- A bare `x` under tag 5 means the point with even `y`.
def decompress? (bytes : List UInt8) : Option Point :=
  match bytes with
  | [] => none
  | tag :: rest =>
      if tag = 2 ∨ tag = 5 then lift? (bigEndian rest) false
      else if tag = 3 then lift? (bigEndian rest) true
      else none

end Point

end SelectiveDisclosure.Curve
