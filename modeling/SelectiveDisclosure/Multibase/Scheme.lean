import SelectiveDisclosure.Multibase.Positional

/-!
The encodings that a multibase text can announce by its first character. Grouped encodings cut the
bytes into equal runs of bits; left over bits must be too few for another symbol and must be zero.
Of a number that two last symbols of base 45 write, the low byte counts. An encoding that has one case
of letters in its alphabet reads both, base 32 in its human-oriented alphabet excepted.
-/

namespace SelectiveDisclosure.Multibase

inductive Scheme where
  | plain
  | positional (alphabet : List Char)
  | grouped (width : Nat) (padded : Bool) (alphabet : List Char)
  | triples (alphabet : List Char)
  | symbols (alphabet : List Char)

def lowerDigits : List Char := "0123456789abcdefghijklmnopqrstuvwxyz".toList
def upperDigits : List Char := "0123456789ABCDEFGHIJKLMNOPQRSTUVWXYZ".toList
def lowerLetters : List Char := "abcdefghijklmnopqrstuvwxyz".toList
def upperLetters : List Char := "ABCDEFGHIJKLMNOPQRSTUVWXYZ".toList
def decimalDigits : List Char := "0123456789".toList

def base32 : List Char := lowerLetters ++ "234567".toList
def base32Upper : List Char := upperLetters ++ "234567".toList
def base32Hex : List Char := lowerDigits.take 32
def base32HexUpper : List Char := upperDigits.take 32
def base32Z : List Char := "ybndrfg8ejkmcpqxot1uwisza345h769".toList
def base45 : List Char := upperDigits ++ " $%*+-./:".toList
def base58Flickr : List Char :=
  "123456789abcdefghijkmnopqrstuvwxyzABCDEFGHJKLMNPQRSTUVWXYZ".toList
def base64 : List Char := upperLetters ++ lowerLetters ++ decimalDigits ++ ['+', '/']
def base64Url : List Char := upperLetters ++ lowerLetters ++ decimalDigits ++ ['-', '_']

def emoji : List Char :=
  ("🚀🪐☄🛰🌌🌑🌒🌓🌔🌕🌖🌗🌘🌍🌏🌎🐉☀💻🖥💾💿😂❤😍🤣😊🙏💕😭😘👍" ++
   "😅👏😁🔥🥰💔💖💙😢🤔😆🙄💪😉☺👌🤗💜😔😎😇🌹🤦🎉💞✌✨🤷😱😌🌸🙌" ++
   "😋💗💚😏💛🙂💓🤩😄😀🖤😃💯🙈👇🎶😒🤭❣😜💋👀😪😑💥🙋😞😩😡🤪👊🥳" ++
   "😥🤤👉💃😳✋😚😝😴🌟😬🙃🍀🌷😻😓⭐✅🥺🌈😈🤘💦✔😣🏃💐☹🎊💘😠☝" ++
   "😕🌺🎂🌻😐🖕💝🙊😹🗣💫💀👑🎵🤞😛🔴😤🌼😫⚽🤙☕🏆🤫👈😮🙆🍻🍃🐶💁" ++
   "😲🌿🧡🎁⚡🌞🎈❌✊👋😰🤨😶🤝🚶💰🍓💢🤟🙁🚨💨🤬✈🎀🍺🤓😙💟🌱😖👶" ++
   "🥴▶➡❓💎💸⬇😨🌚🦋😷🕺⚠🙅😟😵👎🤲🤠🤧📌🔵💅🧐🐾🍒😗🤑🌊🤯🐷☎" ++
   "💧😯💆👆🎤🙇🍑❄🌴💣🐸💌📍🥀🤢👅💡💩👐📸👻🤐🤮🎼🥵🚩🍎🍊👼💍📣🥂").toList

def bytesOfBits (width : Nat) (ds : List Nat) : Option (List UInt8) :=
  let bits := ds.length * width
  let spare := bits % 8
  let n := Digits.toNat (Nat.pow 2 width) ds
  let unit := Nat.pow 2 spare
  if spare < width ∧ n % unit = 0 then some (bigEndianBytes (bits / 8) (n / unit))
  else none

def blockLength (width : Nat) : Nat := if width = 5 then 8 else 4

def decodeBlock (width : Nat) (alphabet : List Char) (block : List Char) : Option (List UInt8) :=
  let body := (block.reverse.dropWhile (· = '=')).reverse
  if body.isEmpty then none else (values? alphabet body).bind (bytesOfBits width)

def decodePadded (width : Nat) (alphabet : List Char) (cs : List Char) : Option (List UInt8) :=
  if cs.length % blockLength width = 0 then
    ((groups (blockLength width) cs).mapM (decodeBlock width alphabet)).map List.flatten
  else none

def decodeTriple : List Nat → Option (List UInt8)
  | [a, b, c] =>
      let n := a + 45 * b + 2025 * c
      if n < 65536 then some (bigEndianBytes 2 n) else none
  | [a, b] => some [UInt8.ofNat (a + 45 * b)]
  | _ => none

namespace Scheme

def decode : Scheme → List Char → Option (List UInt8)
  | .plain, cs => some (utf8 (String.ofList cs))
  | .positional alphabet, cs => decodePositional alphabet cs
  | .grouped width false alphabet, cs => (values? alphabet cs).bind (bytesOfBits width)
  | .grouped width true alphabet, cs => decodePadded width alphabet cs
  | .triples alphabet, cs =>
      (values? alphabet cs).bind fun ds => ((groups 3 ds).mapM decodeTriple).map List.flatten
  | .symbols alphabet, cs => (values? alphabet cs).map (·.map UInt8.ofNat)

end Scheme

inductive LetterCase where
  | given
  | lower
  | upper

def LetterCase.fold : LetterCase → Char → Char
  | .given, c => c
  | .lower, c => c.toLower
  | .upper, c => c.toUpper

def bitDigits : List Char := ['0', '1']

def scheme? (code : Char) : Option (LetterCase × Scheme) :=
  match code with
  | '\x00' => some (.given, .plain)
  | '0' => some (.given, .grouped 1 false bitDigits)
  | '7' => some (.given, .grouped 3 false (decimalDigits.take 8))
  | '9' => some (.given, .positional decimalDigits)
  | 'f' => some (.lower, .grouped 4 false (lowerDigits.take 16))
  | 'F' => some (.upper, .grouped 4 false (upperDigits.take 16))
  | 'b' => some (.lower, .grouped 5 false base32)
  | 'B' => some (.upper, .grouped 5 false base32Upper)
  | 'c' => some (.lower, .grouped 5 true base32)
  | 'C' => some (.upper, .grouped 5 true base32Upper)
  | 'v' => some (.lower, .grouped 5 false base32Hex)
  | 'V' => some (.upper, .grouped 5 false base32HexUpper)
  | 't' => some (.lower, .grouped 5 true base32Hex)
  | 'T' => some (.upper, .grouped 5 true base32HexUpper)
  | 'h' => some (.given, .grouped 5 false base32Z)
  | 'k' => some (.lower, .positional lowerDigits)
  | 'K' => some (.upper, .positional upperDigits)
  | 'R' => some (.upper, .triples base45)
  | 'Z' => some (.given, .positional base58Flickr)
  | 'z' => some (.given, .positional base58)
  | 'm' => some (.given, .grouped 6 false base64)
  | 'M' => some (.given, .grouped 6 true base64)
  | 'u' => some (.given, .grouped 6 false base64Url)
  | 'U' => some (.given, .grouped 6 true base64Url)
  | '🚀' => some (.given, .symbols emoji)
  | _ => none

def base58Code : Char := 'z'

def encodeBase58 (bytes : List UInt8) : List Char := base58Code :: encodePositional base58 bytes

def decode? : List Char → Option (Char × List UInt8)
  | [] => none
  | code :: cs =>
      (scheme? code).bind fun (letters, scheme) =>
        (scheme.decode (cs.map letters.fold)).map fun bytes => (code, bytes)

end SelectiveDisclosure.Multibase
