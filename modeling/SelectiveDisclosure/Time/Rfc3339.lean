import SelectiveDisclosure.Time.Instant
import SelectiveDisclosure.Text.WhiteSpace

/-!
Times in RFC 3339 text. Writing is canonical: UTC with a Z, and 0, 3, 6 or 9 digits of fraction.
Reading is lenient: blanks may stand before fields and separators, fields may be short, the date and
the time may be parted by a blank, and the offset may be written in several ways.
-/

namespace SelectiveDisclosure.Rfc3339

open Text

inductive TimeError where
  | outOfRange
  | impossible
  | invalid
  | tooShort
  | trailing
deriving DecidableEq

def TimeError.message : TimeError → String
  | .outOfRange => "input is out of range"
  | .impossible => "no possible date and time matching input"
  | .invalid => "input contains invalid characters"
  | .tooShort => "premature end of input"
  | .trailing => "trailing input"

def isDigit (c : Char) : Bool := (Digits.value? c).isSome

def numberOf (cs : List Char) : Nat := Digits.toNat 10 (cs.filterMap Digits.value?)

def takeNumber (width : Nat) (cs : List Char) : Except TimeError (Nat × List Char) :=
  let ds := (cs.take width).takeWhile isDigit
  match ds, cs with
  | [], [] => .error .tooShort
  | [], _ :: _ => .error .invalid
  | _, _ => .ok (numberOf ds, cs.drop ds.length)

def numberLimit : Nat := 9223372036854775807

def takeLongNumber (cs : List Char) : Except TimeError (Nat × List Char) := do
  let (n, rest) ← takeNumber cs.length cs
  if n ≤ numberLimit then return (n, rest) else throw .outOfRange

def takeYear (cs : List Char) : Except TimeError (Int × List Char) :=
  match trimStart cs with
  | '-' :: rest => do
      let (n, rest) ← takeLongNumber rest
      return (-(n : Int), rest)
  | '+' :: rest => do
      let (n, rest) ← takeLongNumber rest
      return ((n : Int), rest)
  | rest => do
      let (n, rest) ← takeNumber 4 rest
      return ((n : Int), rest)

def takeField (low high : Nat) (cs : List Char) : Except TimeError (Nat × List Char) := do
  let (n, rest) ← takeNumber 2 (trimStart cs)
  if low ≤ n ∧ n ≤ high then return (n, rest) else throw .outOfRange

def takeMark (mark : Char) (cs : List Char) : Except TimeError (List Char) :=
  match trimStart cs with
  | [] => .error .tooShort
  | c :: rest => if c = mark then .ok rest else .error .invalid

def takeDivider : List Char → Except TimeError (List Char)
  | [] => .error .tooShort
  | c :: rest => if c = 'T' ∨ c = 't' ∨ c = ' ' then .ok rest else .error .invalid

def takeFraction : List Char → Except TimeError (Nat × List Char)
  | '.' :: cs => do
      let (n, rest) ← takeNumber 9 cs
      let width := cs.length - rest.length
      return (n * Digits.tenTo (9 - width), rest.dropWhile isDigit)
  | cs => .ok (0, cs)

def isAscii (c : Char) : Bool := c.toNat < 0x80

def takeTwoDigits : List Char → Except TimeError (Nat × Nat × List Char)
  | [] => .error .tooShort
  | [c] => if isAscii c then .error .tooShort else .error .invalid
  | c :: d :: rest => match Digits.value? c, Digits.value? d with
      | some m, some n => .ok (m, n, rest)
      | _, _ => .error .invalid

def isUtcWord (a b c : Char) : Bool :=
  (a = 'U' || a = 'u') && (b = 'T' || b = 't') && (c = 'C' || c = 'c')

def takeSign : List Char → Except TimeError (Bool × List Char)
  | [] => .error .tooShort
  | c :: rest =>
      if c = '+' then .ok (false, rest)
      else if c = '-' ∨ c.toNat = 0x2212 then .ok (true, rest)
      else .error .invalid

def takeSignedOffset (cs : List Char) : Except TimeError (Int × List Char) := do
  let (negative, rest) ← takeSign cs
  let (h1, h2, rest) ← takeTwoDigits rest
  let (m1, m2, rest) ← takeTwoDigits (rest.dropWhile fun c => c = ':' || isWhiteSpace c)
  if 6 ≤ m1 then throw .outOfRange
  let seconds : Int := ((h1 * 10 + h2) * 3600 + (m1 * 10 + m2) * 60 : Nat)
  return (if negative then -seconds else seconds, rest)

def takeOffset (cs : List Char) : Except TimeError (Int × List Char) :=
  match trimStart cs with
  | 'Z' :: rest => .ok (0, rest)
  | 'z' :: rest => .ok (0, rest)
  | a :: b :: c :: rest => if isUtcWord a b c then .ok (0, rest) else takeSignedOffset (a :: b :: c :: rest)
  | rest => takeSignedOffset rest

def yearLimit : Int := 2147483648

def firstYear : Int := -262143
def lastYear : Int := 262142

def firstSecond : Int := (Calendar.Date.toDays ⟨firstYear, 1, 1⟩ - Calendar.epochDay) * 86400
def endSecond : Int := (Calendar.Date.toDays ⟨lastYear + 1, 1, 1⟩ - Calendar.epochDay) * 86400

def assemble (date : Calendar.Date) (hour minute second nano : Nat) (offset : Int) :
    Except TimeError Instant :=
  if ¬ (firstYear ≤ date.year ∧ date.year ≤ lastYear ∧ date.Exists) then .error .outOfRange
  else if ¬ (-86400 < offset ∧ offset < 86400) then .error .outOfRange
  else
    let shown := if second = 60 then 59 else second
    let extra := if second = 60 then 1000000000 else 0
    let total := (date.toDays - Calendar.epochDay) * 86400 +
      (hour * 3600 + minute * 60 + shown : Nat) - offset
    if firstSecond ≤ total ∧ total < endSecond then
      match Instant.make? total (nano + extra) with
      | some t => .ok t
      | none => .error .outOfRange
    else .error .impossible

def read (s : String) : Except TimeError Instant := do
  let (year, cs) ← takeYear s.toList
  if ¬ (-yearLimit ≤ year ∧ year < yearLimit) then throw .outOfRange
  let cs ← takeMark '-' cs
  let (month, cs) ← takeField 1 12 cs
  let cs ← takeMark '-' cs
  let (day, cs) ← takeField 1 31 cs
  let cs ← takeDivider cs
  let (hour, cs) ← takeField 0 23 cs
  let cs ← takeMark ':' cs
  let (minute, cs) ← takeField 0 59 cs
  let cs ← takeMark ':' cs
  let (second, cs) ← takeField 0 60 cs
  let (nano, cs) ← takeFraction cs
  let (offset, cs) ← takeOffset cs
  if ¬ (trimStart cs).isEmpty then throw .trailing
  assemble ⟨year, month, day⟩ hour minute second nano offset

def yearText (y : Int) : List Char :=
  if 0 ≤ y ∧ y ≤ 9999 then Digits.paddedDecimal 4 y.natAbs
  else (if y < 0 then '-' else '+') :: Digits.paddedDecimal 4 y.natAbs

def two (n : Nat) : List Char := Digits.paddedDecimal 2 n

def fractionText (nano : Nat) : List Char :=
  if nano = 0 then []
  else if nano % 1000000 = 0 then '.' :: Digits.paddedDecimal 3 (nano / 1000000)
  else if nano % 1000 = 0 then '.' :: Digits.paddedDecimal 6 (nano / 1000)
  else '.' :: Digits.paddedDecimal 9 nano

def clockText (t : Instant) : List Char :=
  let date := Calendar.Date.ofDays (t.second / 86400 + Calendar.epochDay)
  let ofDay := (t.second % 86400).toNat
  let second := ofDay % 60 + t.nano / 1000000000
  yearText date.year ++ '-' :: (two date.month ++ '-' :: (two date.day ++ 'T' ::
    (two (ofDay / 3600) ++ ':' :: (two (ofDay / 60 % 60) ++ ':' :: two second))))

def secondsText (t : Instant) : String := String.ofList (clockText t ++ ['Z'])

def text (t : Instant) : String :=
  String.ofList (clockText t ++ fractionText (t.nano % 1000000000) ++ ['Z'])

end SelectiveDisclosure.Rfc3339
