import SelectiveDisclosure.Time.Calendar
import SelectiveDisclosure.Digits

/-!
Points in time: whole seconds since the start of 1970 and nanoseconds within the second. A leap second
is kept on the second before it, as nanoseconds from 1000000000 on. Every second can carry one, but a time
that is made of two numbers or read from a text has one on a 59th second only.
-/

namespace SelectiveDisclosure

structure Instant where
  second : Int
  nano : Nat
  valid : nano < 2000000000
deriving DecidableEq

namespace Instant

def make? (second : Int) (nano : Nat) : Option Instant :=
  if h : nano < 2000000000 ∧ (1000000000 ≤ nano → second % 60 = 59) then some ⟨second, nano, h.1⟩
  else none

def whole (second : Int) : Instant := ⟨second, 0, by decide⟩

instance : Inhabited Instant := ⟨whole 0⟩

def before (a b : Instant) : Bool :=
  a.second < b.second || (a.second = b.second && a.nano < b.nano)

def notAfter (a b : Instant) : Bool := !b.before a

def truncate (a : Instant) : Instant :=
  if a.nano < 1000000000 then whole a.second else ⟨a.second, 1000000000, by decide⟩

end Instant

def dropTrailingZeros (ds : List Char) : List Char :=
  (ds.reverse.dropWhile (· = '0')).reverse

-- Spans of whole milliseconds are written with the largest unit that they fill.
def spanText (milliseconds : Nat) : String :=
  let seconds := milliseconds / 1000
  let part := milliseconds % 1000
  if milliseconds = 0 then "0ns"
  else if seconds = 0 then String.ofList (Digits.decimal part ++ ['m', 's'])
  else if part = 0 then String.ofList (Digits.decimal seconds ++ ['s'])
  else String.ofList
    (Digits.decimal seconds ++ '.' :: (dropTrailingZeros (Digits.paddedDecimal 3 part) ++ ['s']))

end SelectiveDisclosure
