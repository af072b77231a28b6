import SelectiveDisclosure.Number.Value
import SelectiveDisclosure.SortedMap

namespace SelectiveDisclosure

inductive Json where
  | null
  | bool (b : Bool)
  | number (n : Number)
  | string (s : String)
  | array (items : List Json)
  | object (members : List (String × Json))

namespace Json

instance : Inhabited Json := ⟨null⟩

def controlEscape (n : Nat) : List Char :=
  match n with
  | 8 => ['\\', 'b']
  | 9 => ['\\', 't']
  | 10 => ['\\', 'n']
  | 12 => ['\\', 'f']
  | 13 => ['\\', 'r']
  | _ => '\\' :: 'u' :: (Digits.padded 16 4 n).map Digits.char

def escapeChar (c : Char) : List Char :=
  if c = '"' then ['\\', '"']
  else if c = '\\' then ['\\', '\\']
  else if c.toNat < 0x20 then controlEscape c.toNat
  else [c]

def quoted (cs : List Char) : List Char :=
  '"' :: (cs.flatMap escapeChar ++ ['"'])

def boolText (b : Bool) : List Char :=
  if b then ['t', 'r', 'u', 'e'] else ['f', 'a', 'l', 's', 'e']

mutual

def text : Json → List Char
  | null => ['n', 'u', 'l', 'l']
  | bool b => boolText b
  | number n => n.text
  | string s => quoted s.toList
  | array [] => ['[', ']']
  | array (v :: vs) => '[' :: (text v ++ itemsText vs)
  | object [] => ['\x7b', '\x7d']
  | object ((k, v) :: ms) => '\x7b' :: (quoted k.toList ++ ':' :: (text v ++ membersText ms))

def itemsText : List Json → List Char
  | [] => [']']
  | v :: vs => ',' :: (text v ++ itemsText vs)

def membersText : List (String × Json) → List Char
  | [] => ['\x7d']
  | (k, v) :: ms => ',' :: (quoted k.toList ++ ':' :: (text v ++ membersText ms))

end

mutual

def sorted : Json → Json
  | array vs => array (sortedItems vs)
  | object ms => object (sortedMembers ms [])
  | other => other

def sortedItems : List Json → List Json
  | [] => []
  | v :: vs => sorted v :: sortedItems vs

def sortedMembers : List (String × Json) → List (String × Json) → List (String × Json)
  | [], done => done
  | (k, v) :: ms, done => sortedMembers ms (insertEntry k (sorted v) done)

end

def compact (j : Json) : String := String.ofList j.text

end Json

end SelectiveDisclosure
