import SelectiveDisclosure.Wire.Leaf
import SelectiveDisclosure.Presentation

namespace SelectiveDisclosure.Wire

def protocolFields (c : Context) : List (String × Check) :=
  [("hashAlgorithm", check hashAlgorithm c), ("decomposition", check decomposition c),
   ("signingTimeout", check word c), ("resolveTimeout", check word c)]

def protocol : Decoder Protocol
  | c, source => do
      let c := c.inner
      let f ← fields (protocolFields c) true c source
      let algorithm ← f.getD "hashAlgorithm" c hashAlgorithm Protocol.standard.hashAlgorithm
      let decomposition ← f.getD "decomposition" c decomposition Protocol.standard.decomposition
      let signing ← f.getD "signingTimeout" c word Protocol.standard.signingTimeout
      let resolving ← f.getD "resolveTimeout" c word Protocol.standard.resolveTimeout
      return ⟨algorithm, decomposition, signing, resolving⟩

def ofProtocol (p : Protocol) : Json :=
  .object
    [("decomposition", ofDecomposition p.decomposition),
     ("hashAlgorithm", ofHashAlgorithm p.hashAlgorithm),
     ("resolveTimeout", .number (.ofWord p.resolveTimeout)),
     ("signingTimeout", .number (.ofWord p.signingTimeout))]

def signatureFields (c : Context) : List (String × Check) :=
  [("keyUri", check keyUri c), ("signature", check bytes c)]

def signature : Decoder DidSignature
  | c, source => do
      let c := c.inner
      let f ← fields (signatureFields c) false c source
      let uri ← f.get "keyUri" c keyUri
      let signed ← f.get "signature" c bytes
      return ⟨uri, signed⟩

def ofSignature (s : DidSignature) : Json :=
  .object [("keyUri", ofKeyUri s.keyUri), ("signature", .string (Hex.encode s.bytes))]

def verificationKeyFields (c : Context) : List (String × Check) :=
  [("id", check string c), ("publicKey", check publicKey c)]

def verificationKey : Decoder VerificationKey
  | c, source => do
      let c := c.inner
      let f ← fields (verificationKeyFields c) false c source
      let id ← f.get "id" c string
      let key ← f.get "publicKey" c publicKey
      return ⟨id, key⟩

def ofVerificationKey (k : VerificationKey) : Json :=
  .object [("id", .string k.id), ("publicKey", ofPublicKey k.publicKey)]

def didDocumentFields (c : Context) : List (String × Check) :=
  [("id", check did c), ("authentication", check (list verificationKey) c),
   ("assertionMethod", check (list verificationKey) c),
   ("capabilityDelegation", check (list verificationKey) c)]

def didDocument : Decoder DidDocument
  | c, source => do
      let c := c.inner
      let f ← fields (didDocumentFields c) false c source
      let id ← f.get "id" c did
      let authentication ← f.get "authentication" c (list verificationKey)
      let assertion ← f.getD "assertionMethod" c (list verificationKey) []
      let delegation ← f.getD "capabilityDelegation" c (list verificationKey) []
      return ⟨id, authentication, assertion, delegation⟩

def ofKeys (name : String) (keys : List VerificationKey) : List (String × Json) :=
  if keys.isEmpty then [] else [(name, .array (keys.map ofVerificationKey))]

def ofDidDocument (d : DidDocument) : Json :=
  .object
    (ofKeys "assertionMethod" d.assertionMethod ++
      [("authentication", .array (d.authentication.map ofVerificationKey))] ++
      ofKeys "capabilityDelegation" d.capabilityDelegation ++ [("id", ofDid d.id)])

def metadataFields (c : Context) : List (String × Check) :=
  [("templates", check (list string) c), ("labels", check (list string) c)]

def metadata : Decoder Metadata
  | c, source => do
      let c := c.inner
      let f ← fields (metadataFields c) false c source
      let templates ← f.getD "templates" c (list string) []
      let labels ← f.getD "labels" c (list string) []
      return ⟨templates, labels⟩

def ofStringsUnlessEmpty (name : String) (l : List String) : List (String × Json) :=
  if l.isEmpty then [] else [(name, ofStrings l)]

def ofMetadata (m : Metadata) : Json :=
  .object (ofStringsUnlessEmpty "labels" m.labels ++ ofStringsUnlessEmpty "templates" m.templates)

def disclosedFields (c : Context) : List (String × Check) :=
  [("attribute", check string c), ("value", check content c), ("digest", check hash c),
   ("saltedHash", check hash c)]

def disclosed : Decoder DisclosedStatement
  | c, source => do
      let c := c.inner
      let f ← fields (disclosedFields c) true c source
      let name ← f.get "attribute" c string
      let value ← f.get "value" c content
      let digest ← f.get "digest" c hash
      let salted ← f.get "saltedHash" c hash
      return ⟨name, value, digest, salted⟩

def ofDisclosed (s : DisclosedStatement) : Json :=
  .object
    [("attribute", .string s.name), ("digest", ofHash s.digest),
     ("saltedHash", ofHash s.saltedHash), ("value", s.value.toJson)]

end SelectiveDisclosure.Wire
