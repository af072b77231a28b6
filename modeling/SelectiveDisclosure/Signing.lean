import SelectiveDisclosure.Did.Basic
import SelectiveDisclosure.Curve.Ecdsa
import SelectiveDisclosure.Time.Instant

namespace SelectiveDisclosure

structure DidSignature where
  keyUri : KeyUri
  bytes : List UInt8
deriving DecidableEq, Inhabited

def DidSignature.verify (s : DidSignature) (payload : List UInt8) (publicKey : PublicKey) :
    Except Ecdsa.InvalidSignature Unit :=
  Ecdsa.verify publicKey payload s.bytes

inductive SigningError where
  | unavailable (reason : String)
  | timeout (milliseconds : Nat)
deriving DecidableEq

def SigningError.message : SigningError → String
  | .unavailable reason => "signing unavailable: " ++ reason
  | .timeout milliseconds => "signing timed out after " ++ spanText milliseconds

structure Signer where
  keyUri : KeyUri
  delay : Nat
  sign : List UInt8 → Except SigningError (List UInt8)

namespace Signer

def signWithin (s : Signer) (timeout : Nat) (payload : List UInt8) :
    Except SigningError (List UInt8) :=
  if timeout < s.delay then .error (.timeout timeout) else s.sign payload

def signature (s : Signer) (payload : List UInt8) : Except SigningError DidSignature :=
  (s.sign payload).map (DidSignature.mk s.keyUri)

def ofKey (key : Ecdsa.SecretKey) (keyUri : KeyUri) : Signer :=
  ⟨keyUri, 0, fun payload => .ok (Ecdsa.sign key payload)⟩

def delayed (s : Signer) (milliseconds : Nat) : Signer := ⟨s.keyUri, milliseconds, s.sign⟩

def refusing (s : Signer) (reason : String) : Signer :=
  ⟨s.keyUri, s.delay, fun _ => .error (.unavailable reason)⟩

end Signer

def Ecdsa.SecretKey.did (key : Ecdsa.SecretKey) : Did := ⟨key.publicKey⟩

end SelectiveDisclosure
