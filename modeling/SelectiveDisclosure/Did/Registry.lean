import SelectiveDisclosure.Did.Document
import SelectiveDisclosure.SortedMap
import SelectiveDisclosure.Time.Instant

namespace SelectiveDisclosure

structure ResolvedKey where
  keyUri : KeyUri
  controller : Did
  publicKey : PublicKey
  purposes : List Relationship
deriving DecidableEq

def ResolvedKey.allows (k : ResolvedKey) (r : Relationship) : Bool := k.purposes.contains r

inductive ResolveError where
  | keyNotFound (keyUri : KeyUri)
  | deactivated (did : Did)
  | unavailable (reason : String)
  | timeout (milliseconds : Nat)
deriving DecidableEq

def ResolveError.message : ResolveError → String
  | .keyNotFound keyUri => "key not found: " ++ keyUri.text
  | .deactivated did => "did is revoked or deactivated: " ++ did.text
  | .unavailable reason => "resolver unavailable: " ++ reason
  | .timeout milliseconds => "key resolution timed out after " ++ spanText milliseconds

structure Registry where
  documents : SortedMap Did DidDocument
  deactivated : List Did

namespace Registry

def empty : Registry := ⟨SortedMap.empty, []⟩

instance : Inhabited Registry := ⟨empty⟩

def isDeactivated (r : Registry) (did : Did) : Bool := r.deactivated.contains did

def register (r : Registry) (document : DidDocument) : Except ResolveError Registry :=
  if r.isDeactivated document.id then .error (.deactivated document.id)
  else .ok ⟨r.documents.insert document.id document, r.deactivated⟩

def deactivate (r : Registry) (did : Did) : Registry :=
  ⟨r.documents.erase did, did :: r.deactivated⟩

def document (r : Registry) (did : Did) : Except ResolveError DidDocument :=
  if r.isDeactivated did then .error (.deactivated did)
  else .ok ((r.documents.get? did).getD (DidDocument.minimal did))

def resolve (r : Registry) (keyUri : KeyUri) : Except ResolveError ResolvedKey :=
  match r.document keyUri.did with
  | .error e => .error e
  | .ok document => match document.findKey keyUri.fragment with
    | none => .error (.keyNotFound keyUri)
    | some (key, purposes) => .ok ⟨keyUri, document.id, key.publicKey, purposes⟩

inductive Call where
  | register (document : DidDocument)
  | deactivate (did : Did)

def call (r : Registry) : Call → Registry
  | .register document => match r.register document with
    | .ok next => next
    | .error _ => r
  | .deactivate did => r.deactivate did

def after (calls : List Call) : Registry := calls.foldl call empty

end Registry

structure Resolver where
  delay : Nat
  resolve : KeyUri → Except ResolveError ResolvedKey

namespace Resolver

def ofRegistry (r : Registry) : Resolver := ⟨0, r.resolve⟩

def delayed (r : Resolver) (milliseconds : Nat) : Resolver := ⟨milliseconds, r.resolve⟩

def refusing (r : Resolver) (reason : String) : Resolver :=
  ⟨r.delay, fun _ => .error (.unavailable reason)⟩

def resolveWithin (r : Resolver) (timeout : Nat) (keyUri : KeyUri) :
    Except ResolveError ResolvedKey :=
  if timeout < r.delay then .error (.timeout timeout) else r.resolve keyUri

end Resolver

end SelectiveDisclosure
