import SelectiveDisclosure.Octets
import SelectiveDisclosure.Multibase.Scheme

namespace SelectiveDisclosure

abbrev PublicKey := Octets 33

structure Did where
  publicKey : PublicKey
deriving DecidableEq, Inhabited

instance : Ord Did := ⟨compareOn Did.publicKey⟩

instance : Std.TransOrd Did := inferInstanceAs (Std.TransCmp (compareOn Did.publicKey))

instance : Std.LawfulEqOrd Did where
  compare_self {a} := (Std.ReflOrd.compare_self : compare a.publicKey a.publicKey = .eq)
  eq_of_compare {a b} h := by
    have h : a.publicKey = b.publicKey := Std.LawfulEqOrd.eq_of_compare h
    cases a; cases b
    simpa using h

inductive DidError where
  | wrongMethod
  | multibase
  | unsupportedMultibase
  | unsupportedMulticodec
  | keyLength
deriving DecidableEq

def DidError.message : DidError → String
  | .wrongMethod => "not a valid Did prefix"
  | .multibase => "invalid multibase encoding"
  | .unsupportedMultibase => "unsupported multibase encoding, expected base58btc"
  | .unsupportedMulticodec => "unsupported multicodec, expected secp256k1-pub"
  | .keyLength => "invalid public key length"

namespace Did

def scheme : List Char := ['d', 'i', 'd', ':', 'k', 'e', 'y', ':']

def keyCodec : List UInt8 := [0xe7, 0x01]

def text (d : Did) : String :=
  String.ofList (scheme ++ Multibase.encodeBase58 (keyCodec ++ d.publicKey.toList))

def parseKey (cs : List Char) : Except DidError PublicKey :=
  match Multibase.decode? cs with
  | none => .error .multibase
  | some (code, bytes) =>
      if code ≠ Multibase.base58Code then .error .unsupportedMultibase
      else match keyCodec.isPrefixOf? bytes with
        | none => .error .unsupportedMulticodec
        | some key => match Octets.ofList? 33 key with
          | some key => .ok key
          | none => .error .keyLength

def parseChars (cs : List Char) : Except DidError Did :=
  match scheme.isPrefixOf? cs with
  | none => .error .wrongMethod
  | some rest => (parseKey rest).map Did.mk

def parse (s : String) : Except DidError Did := parseChars s.toList

end Did

structure KeyUri where
  did : Did
  fragment : String
deriving DecidableEq, Inhabited

inductive KeyUriError where
  | noFragment
  | emptyFragment
  | did (cause : DidError)
deriving DecidableEq

def KeyUriError.message : KeyUriError → String
  | .noFragment => "no fragment in key URI"
  | .emptyFragment => "empty fragment in key URI"
  | .did cause => "invalid DID: " ++ cause.message

namespace KeyUri

def text (u : KeyUri) : String := u.did.text ++ "#" ++ u.fragment

def parse (s : String) : Except KeyUriError KeyUri :=
  match s.toList.span (· ≠ '#') with
  | (_, []) => .error .noFragment
  | (_, [_]) => .error .emptyFragment
  | (did, _ :: fragment) =>
      match Did.parseChars did with
      | .ok did => .ok ⟨did, String.ofList fragment⟩
      | .error e => .error (.did e)

end KeyUri

end SelectiveDisclosure
