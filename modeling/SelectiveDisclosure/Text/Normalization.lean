import SelectiveDisclosure.Text.CombiningClass
import SelectiveDisclosure.Text.CanonicalMapping

namespace SelectiveDisclosure.Text

namespace Hangul

def syllableBase : Nat := 0xAC00
def leadBase : Nat := 0x1100
def vowelBase : Nat := 0x1161
def trailBase : Nat := 0x11A7
def leadCount : Nat := 19
def vowelCount : Nat := 21
def trailCount : Nat := 28
def syllableCount : Nat := leadCount * vowelCount * trailCount

def decompose? (n : Nat) : Option (List Nat) :=
  if syllableBase ≤ n ∧ n < syllableBase + syllableCount then
    let i := n - syllableBase
    let lead := leadBase + i / (vowelCount * trailCount)
    let vowel := vowelBase + i % (vowelCount * trailCount) / trailCount
    let trail := i % trailCount
    some (if trail = 0 then [lead, vowel] else [lead, vowel, trailBase + trail])
  else none

def compose? (a b : Nat) : Option Nat :=
  if leadBase ≤ a ∧ a < leadBase + leadCount ∧ vowelBase ≤ b ∧ b < vowelBase + vowelCount then
    some (syllableBase + ((a - leadBase) * vowelCount + (b - vowelBase)) * trailCount)
  else if syllableBase ≤ a ∧ a < syllableBase + syllableCount ∧
      (a - syllableBase) % trailCount = 0 ∧ trailBase < b ∧ b < trailBase + trailCount then
    some (a + (b - trailBase))
  else none

end Hangul

def expand : Nat → Nat → List Nat
  | 0, n => [n]
  | depth + 1, n => match mapping? n with
    | none => [n]
    | some ns => ns.flatMap (expand depth)

def mappingDepth : Nat := 3

def decomposeChar (c : Char) : List Char :=
  if c.toNat < 0xC0 then [c]
  else match Hangul.decompose? c.toNat with
    | some ns => ns.map Char.ofNat
    | none => (expand mappingDepth c.toNat).map Char.ofNat

def composePair? (a b : Char) : Option Char :=
  match Hangul.compose? a.toNat b.toNat with
  | some n => some (Char.ofNat n)
  | none => (composite? a.toNat b.toNat).map Char.ofNat

def insertMark (c : Char) : List Char → List Char
  | [] => [c]
  | d :: ds =>
      if 0 < combiningClass d ∧ combiningClass d < combiningClass c then d :: insertMark c ds
      else c :: d :: ds

def reorder : List Char → List Char
  | [] => []
  | c :: cs => insertMark c (reorder cs)

def decompose (cs : List Char) : List Char :=
  reorder (cs.flatMap decomposeChar)

def composeFrom (starter : Char) (held : List Char) (last : Nat) : List Char → List Char
  | [] => starter :: held.reverse
  | d :: ds =>
      let k := combiningClass d
      let joined := if held.isEmpty || decide (last < k) then composePair? starter d else none
      match joined with
      | some s => composeFrom s held last ds
      | none =>
          if k = 0 then starter :: (held.reverse ++ composeFrom d [] 0 ds)
          else composeFrom starter (d :: held) k ds

def compose : List Char → List Char
  | [] => []
  | c :: cs => if combiningClass c = 0 then composeFrom c [] 0 cs else c :: compose cs

def normalizeChars (cs : List Char) : List Char :=
  compose (decompose cs)

def normalize (s : String) : String :=
  String.ofList (normalizeChars s.toList)

end SelectiveDisclosure.Text
