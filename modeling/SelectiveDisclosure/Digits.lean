namespace SelectiveDisclosure.Digits

def ofNatWithin (base : Nat) : Nat → Nat → List Nat
  | 0, _ => []
  | steps + 1, n => if n = 0 then [] else ofNatWithin base steps (n / base) ++ [n % base]

def ofNat (base n : Nat) : List Nat := ofNatWithin base (n.log2 + 1) n

def toNat (base : Nat) (ds : List Nat) : Nat := ds.foldl (fun n d => n * base + d) 0

def tenTo (places : Nat) : Nat := Nat.pow 10 places

def padded (base width n : Nat) : List Nat :=
  let ds := ofNat base n
  List.replicate (width - ds.length) 0 ++ ds

def char (d : Nat) : Char :=
  if d < 10 then Char.ofNat (0x30 + d) else Char.ofNat (0x57 + d)

def value? (c : Char) : Option Nat :=
  if '0' ≤ c ∧ c ≤ '9' then some (c.toNat - 0x30) else none

def decimal (n : Nat) : List Char :=
  if n = 0 then ['0'] else (ofNat 10 n).map char

def paddedDecimal (width n : Nat) : List Char := (padded 10 width n).map char

end SelectiveDisclosure.Digits
