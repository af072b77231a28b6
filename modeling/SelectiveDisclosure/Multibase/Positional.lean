import SelectiveDisclosure.Octets
import SelectiveDisclosure.Digits

namespace SelectiveDisclosure.Multibase

def indexOf? (c : Char) : List Char → Option Nat
  | [] => none
  | a :: rest => if a = c then some 0 else (indexOf? c rest).map (· + 1)

def values? (alphabet : List Char) (cs : List Char) : Option (List Nat) :=
  cs.mapM (indexOf? · alphabet)

def convert (fromBase toBase : Nat) (ds : List Nat) : List Nat :=
  List.replicate (ds.takeWhile (· = 0)).length 0 ++ Digits.ofNat toBase (Digits.toNat fromBase ds)

def encodePositional (alphabet : List Char) (bytes : List UInt8) : List Char :=
  (convert 256 alphabet.length (bytes.map UInt8.toNat)).map fun d => alphabet.getD d '?'

def decodePositional (alphabet : List Char) (cs : List Char) : Option (List UInt8) :=
  (values? alphabet cs).map fun ds => (convert alphabet.length 256 ds).map UInt8.ofNat

def base58 : List Char :=
  ['1', '2', '3', '4', '5', '6', '7', '8', '9',
   'A', 'B', 'C', 'D', 'E', 'F', 'G', 'H', 'J', 'K', 'L', 'M', 'N', 'P', 'Q', 'R', 'S', 'T', 'U', 'V',
   'W', 'X', 'Y', 'Z',
   'a', 'b', 'c', 'd', 'e', 'f', 'g', 'h', 'i', 'j', 'k', 'm', 'n', 'o', 'p', 'q', 'r', 's', 't', 'u',
   'v', 'w', 'x', 'y', 'z']

end SelectiveDisclosure.Multibase
