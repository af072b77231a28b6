import SelectiveDisclosure.Did.Basic

namespace SelectiveDisclosure

inductive Relationship where
  | authentication
  | assertionMethod
  | capabilityDelegation
deriving DecidableEq, Inhabited

namespace Relationship

def text : Relationship → String
  | .authentication => "authentication"
  | .assertionMethod => "assertionMethod"
  | .capabilityDelegation => "capabilityDelegation"

def all : List Relationship := [.authentication, .assertionMethod, .capabilityDelegation]

theorem mem_all (r : Relationship) : r ∈ all := by cases r <;> simp [all]

end Relationship

structure VerificationKey where
  id : String
  publicKey : PublicKey
deriving DecidableEq, Inhabited

structure DidDocument where
  id : Did
  authentication : List VerificationKey
  assertionMethod : List VerificationKey
  capabilityDelegation : List VerificationKey
deriving DecidableEq, Inhabited

namespace DidDocument

def authenticationId : String := "authentication"

def minimal (did : Did) : DidDocument := ⟨did, [⟨authenticationId, did.publicKey⟩], [], []⟩

def keys (d : DidDocument) : Relationship → List VerificationKey
  | .authentication => d.authentication
  | .assertionMethod => d.assertionMethod
  | .capabilityDelegation => d.capabilityDelegation

def addKey (d : DidDocument) (r : Relationship) (key : VerificationKey) : DidDocument :=
  match r with
  | .authentication => ⟨d.id, d.authentication ++ [key], d.assertionMethod, d.capabilityDelegation⟩
  | .assertionMethod => ⟨d.id, d.authentication, d.assertionMethod ++ [key], d.capabilityDelegation⟩
  | .capabilityDelegation =>
      ⟨d.id, d.authentication, d.assertionMethod, d.capabilityDelegation ++ [key]⟩

def listed (d : DidDocument) (fragment : String) (r : Relationship) :
    Option (VerificationKey × Relationship) :=
  ((d.keys r).find? (·.id = fragment)).map fun key => (key, r)

def findKey (d : DidDocument) (fragment : String) :
    Option (VerificationKey × List Relationship) :=
  match Relationship.all.filterMap (d.listed fragment) with
  | [] => none
  | found@((key, _) :: _) => some (key, found.map Prod.snd)

end DidDocument

end SelectiveDisclosure
