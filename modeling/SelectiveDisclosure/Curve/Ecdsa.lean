import SelectiveDisclosure.Curve.Point
import SelectiveDisclosure.Hash.Sha256

namespace SelectiveDisclosure.Ecdsa

open Curve

structure SecretKey where
  scalar : Nat
  valid : 0 < scalar ∧ scalar < order

namespace SecretKey

instance : Inhabited SecretKey := ⟨⟨1, by decide⟩⟩

def ofBytes? (bytes : Octets 32) : Option SecretKey :=
  let n := bigEndian bytes.toList
  if h : 0 < n ∧ n < order then some ⟨n, h⟩ else none

def publicKey (k : SecretKey) : Octets 33 := (Point.generator.scale k.scalar).compress

end SecretKey

def messageScalar (payload : List UInt8) : Nat := bigEndian (Sha256.digest payload).toList % order

structure Generator where
  key : List UInt8
  value : List UInt8

namespace Generator

def absorb (g : Generator) (tag : UInt8) (seed : List UInt8) : Generator :=
  let key := Sha256.authenticate g.key (g.value ++ tag :: seed)
  ⟨key, Sha256.authenticate key g.value⟩

def start (seed : List UInt8) : Generator :=
  let fresh : Generator := ⟨List.replicate 32 0, List.replicate 32 1⟩
  (fresh.absorb 0 seed).absorb 1 seed

def next (g : Generator) : Generator := ⟨g.key, Sha256.authenticate g.key g.value⟩

end Generator

def attempts : Nat := 64

def drawScalar : Nat → Generator → Nat
  | 0, _ => 1
  | tries + 1, g =>
      let g := g.next
      let n := bigEndian g.value
      if 0 < n ∧ n < order then n else drawScalar tries (g.absorb 0 [])

def ephemeral (k : SecretKey) (z : Nat) : Nat :=
  drawScalar attempts (Generator.start (bigEndianBytes 32 k.scalar ++ bigEndianBytes 32 z))

def lowerHalf (s : Nat) : Nat := if order / 2 < s then order - s else s

def sign (k : SecretKey) (payload : List UInt8) : List UInt8 :=
  let z := messageScalar payload
  let e := ephemeral k z
  let x := (((Point.generator.scale e).affine?).getD (0, 0)).1
  let r := x % order
  let s := inverse order e * (z + r * k.scalar) % order
  bigEndianBytes 32 r ++ bigEndianBytes 32 (lowerHalf s)

def accepts (q : Point) (payload : List UInt8) (r s : Nat) : Bool :=
  let z := messageScalar payload
  let inv := inverse order s
  let u1 := z * inv % order
  let u2 := r * inv % order
  match ((Point.generator.scale u1).plus (q.scale u2)).affine? with
  | some (x, _) => x % order = r
  | none => false

inductive InvalidSignature where
  | publicKey
  | signature
deriving DecidableEq

def InvalidSignature.message : InvalidSignature → String
  | .publicKey => "invalid public key"
  | .signature => "invalid signature"

def verify (publicKey : Octets 33) (payload signature : List UInt8) : Except InvalidSignature Unit :=
  match Point.decompress? publicKey.toList with
  | none => .error .publicKey
  | some q =>
      let r := bigEndian (signature.take 32)
      let s := bigEndian (signature.drop 32)
      if signature.length = 64 ∧ 0 < r ∧ r < order ∧ 0 < s ∧ s ≤ order / 2 ∧
          accepts q payload r s = true then .ok ()
      else .error .signature

end SelectiveDisclosure.Ecdsa
