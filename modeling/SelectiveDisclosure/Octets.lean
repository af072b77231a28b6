namespace SelectiveDisclosure

structure Octets (n : Nat) where
  toList : List UInt8
  length_eq : toList.length = n
deriving DecidableEq

namespace Octets

variable {n : Nat}

instance : Inhabited (Octets n) := ⟨⟨List.replicate n 0, List.length_replicate⟩⟩

instance : Ord (Octets n) := ⟨compareOn Octets.toList⟩

instance : Std.TransOrd (Octets n) :=
  inferInstanceAs (Std.TransCmp (compareOn Octets.toList))

instance : Std.LawfulEqOrd (Octets n) where
  compare_self {a} := (Std.ReflOrd.compare_self : compare a.toList a.toList = .eq)
  eq_of_compare {a b} h := by
    have h : a.toList = b.toList := Std.LawfulEqOrd.eq_of_compare h
    cases a; cases b
    simpa using h

def ofList? (n : Nat) (l : List UInt8) : Option (Octets n) :=
  if h : l.length = n then some ⟨l, h⟩ else none

theorem ofList?_eq_some_iff {l : List UInt8} {a : Octets n} : ofList? n l = some a ↔ a.toList = l := by
  cases a with
  | mk m hm =>
    simp only [ofList?]
    split
    · simp [eq_comm]
    · rename_i hl
      constructor
      · intro h; simp at h
      · intro h; exact absurd (h ▸ hm) hl

end Octets

def bigEndian (bytes : List UInt8) : Nat := bytes.foldl (fun n b => n * 256 + b.toNat) 0

def bigEndianBytes : Nat → Nat → List UInt8
  | 0, _ => []
  | width + 1, n => bigEndianBytes width (n / 256) ++ [UInt8.ofNat n]

theorem length_bigEndianBytes (width n : Nat) : (bigEndianBytes width n).length = width := by
  induction width generalizing n with
  | zero => rfl
  | succ width ih => simp [bigEndianBytes, ih]

def Octets.ofNat (width n : Nat) : Octets width := ⟨bigEndianBytes width n, length_bigEndianBytes width n⟩

def groupsWithin {α : Type} (n : Nat) : Nat → List α → List (List α)
  | 0, _ => []
  | _, [] => []
  | steps + 1, l => l.take n :: groupsWithin n steps (l.drop n)

def groups {α : Type} (n : Nat) (l : List α) : List (List α) := groupsWithin n l.length l

def utf8 (s : String) : List UInt8 := s.toUTF8.data.toList

end SelectiveDisclosure
