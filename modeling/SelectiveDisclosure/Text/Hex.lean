import SelectiveDisclosure.Octets
import SelectiveDisclosure.Digits

namespace SelectiveDisclosure.Hex

inductive HexError where
  | oddLength
  | invalidLength
  | invalidCharacter (byte : UInt8) (position : Nat)
deriving DecidableEq

def isPrintable (n : Nat) : Bool := (0x20 ≤ n && n < 0x7F) || (0xA1 ≤ n && n ≠ 0xAD)

def shown (n : Nat) : List Char :=
  match n with
  | 0 => ['\\', '0']
  | 9 => ['\\', 't']
  | 10 => ['\\', 'n']
  | 13 => ['\\', 'r']
  | 0x27 => ['\\', '\'']
  | 0x5C => ['\\', '\\']
  | _ =>
      if isPrintable n then [Char.ofNat n]
      else ['\\', 'u', '\x7b'] ++ (Digits.ofNat 16 n).map Digits.char ++ ['\x7d']

def HexError.message : HexError → String
  | .oddLength => "Odd number of digits"
  | .invalidLength => "Invalid string length"
  | .invalidCharacter byte position =>
      "Invalid character '" ++ String.ofList (shown byte.toNat) ++ "' at position " ++
        String.ofList (Digits.decimal position)

def encodeByte (b : UInt8) : List Char :=
  [Digits.char (b.toNat / 16), Digits.char (b.toNat % 16)]

def encode (bytes : List UInt8) : String := String.ofList (bytes.flatMap encodeByte)

def digitValue? (b : UInt8) : Option Nat :=
  let n := b.toNat
  if 0x30 ≤ n ∧ n ≤ 0x39 then some (n - 0x30)
  else if 0x61 ≤ n ∧ n ≤ 0x66 then some (n - 0x57)
  else if 0x41 ≤ n ∧ n ≤ 0x46 then some (n - 0x37)
  else none

def digit (b : UInt8) (position : Nat) : Except HexError Nat :=
  match digitValue? b with
  | some d => .ok d
  | none => .error (.invalidCharacter b position)

def decodePairs (position : Nat) : List UInt8 → Except HexError (List UInt8)
  | a :: b :: rest => do
      let high ← digit a position
      let low ← digit b (position + 1)
      let others ← decodePairs (position + 2) rest
      return UInt8.ofNat (high * 16 + low) :: others
  | [_] => throw .oddLength
  | [] => return []

def decode (s : String) : Except HexError (List UInt8) :=
  let bytes := utf8 s
  if bytes.length % 2 = 0 then decodePairs 0 bytes else .error .oddLength

def decodeExactly (n : Nat) (s : String) : Except HexError (Octets n) :=
  let bytes := utf8 s
  if bytes.length % 2 ≠ 0 then .error .oddLength
  else if bytes.length ≠ 2 * n then .error .invalidLength
  else do
    match Octets.ofList? n (← decodePairs 0 bytes) with
    | some a => return a
    | none => throw .invalidLength

end SelectiveDisclosure.Hex

namespace SelectiveDisclosure

def Octets.hex {n : Nat} (a : Octets n) : String := Hex.encode a.toList

end SelectiveDisclosure
