import SelectiveDisclosure.Wire.Record

namespace SelectiveDisclosure.Wire

def headFields (c : Context) : List (String × Check) :=
  [("identifier", check documentId c), ("issuer", check did c), ("holder", check did c)]

def termFields (c : Context) : List (String × Check) :=
  [("evidenceIds", check (list documentId) c), ("authorization", check (optional string) c),
   ("registry", check (optional string) c), ("createdAt", check time c),
   ("validUntil", check (optional time) c), ("documentHash", check hash c),
   ("issuerSignature", check signature c), ("metadata", check metadata c)]

def documentFields (c : Context) : List (String × Check) :=
  headFields c ++
    [("content", check content c), ("contentHashes", check (list hash) c),
     ("contentNonceMap", check nonceMap c)] ++ termFields c

def document : Decoder Document
  | c, source => do
      let c := c.inner
      let f ← fields (documentFields c) true c source
      let identifier ← f.get "identifier" c documentId
      let issuer ← f.get "issuer" c did
      let holder ← f.get "holder" c did
      let body ← f.get "content" c content
      let hashes ← f.get "contentHashes" c (list hash)
      let nonces ← f.get "contentNonceMap" c nonceMap
      let evidence ← f.getD "evidenceIds" c (list documentId) []
      let authorization ← f.getD "authorization" c (optional string) none
      let registry ← f.getD "registry" c (optional string) none
      let created ← f.get "createdAt" c time
      let limit ← f.getD "validUntil" c (optional time) none
      let documentHash ← f.get "documentHash" c hash
      let signed ← f.get "issuerSignature" c signature
      let about ← f.getD "metadata" c metadata ⟨[], []⟩
      let terms : Terms :=
        ⟨hashes, issuer, holder, evidence, authorization, registry, created, limit⟩
      return ⟨⟨identifier, terms, documentHash, signed, about⟩, body, nonces⟩

def presentationFields (c : Context) : List (String × Check) :=
  headFields c ++ [("contentHashes", check (list hash) c)] ++ termFields c ++
    [("disclosed", check (list disclosed) c), ("nonceMap", check nonceMap c),
     ("challenge", check string c), ("holderSignature", check signature c)]

def presentation : Decoder Presentation
  | c, source => do
      let c := c.inner
      let f ← fields (presentationFields c) true c source
      let identifier ← f.get "identifier" c documentId
      let issuer ← f.get "issuer" c did
      let holder ← f.get "holder" c did
      let hashes ← f.get "contentHashes" c (list hash)
      let evidence ← f.getD "evidenceIds" c (list documentId) []
      let authorization ← f.getD "authorization" c (optional string) none
      let registry ← f.getD "registry" c (optional string) none
      let created ← f.get "createdAt" c time
      let limit ← f.getD "validUntil" c (optional time) none
      let documentHash ← f.get "documentHash" c hash
      let signed ← f.get "issuerSignature" c signature
      let about ← f.getD "metadata" c metadata ⟨[], []⟩
      let shown ← f.get "disclosed" c (list disclosed)
      let nonces ← f.get "nonceMap" c nonceMap
      let challenge ← f.get "challenge" c string
      let holderSigned ← f.get "holderSignature" c signature
      let terms : Terms :=
        ⟨hashes, issuer, holder, evidence, authorization, registry, created, limit⟩
      return ⟨⟨identifier, terms, documentHash, signed, about⟩, shown, nonces, challenge, holderSigned⟩

def ofOptional {α : Type} (name : String) (encode : α → Json) : Option α → List (String × Json)
  | none => []
  | some a => [(name, encode a)]

def ofHeader (h : Header) : List (String × Json) :=
  [("identifier", ofDocumentId h.identifier), ("issuer", ofDid h.terms.issuer),
   ("holder", ofDid h.terms.holder), ("contentHashes", ofHashes h.terms.contentHashes),
   ("evidenceIds", .array (h.terms.evidenceIds.map ofDocumentId))] ++
  ofOptional "authorization" .string h.terms.authorization ++
  ofOptional "registry" .string h.terms.registry ++
  [("createdAt", ofTime h.terms.createdAt)] ++
  ofOptional "validUntil" ofTime h.terms.validUntil ++
  [("documentHash", ofHash h.documentHash), ("issuerSignature", ofSignature h.issuerSignature)]

def ofDocument (d : Document) : Json :=
  .object
    (ofHeader d.header ++
      (if d.header.metadata.isEmpty then [] else [("metadata", ofMetadata d.header.metadata)]) ++
      [("content", d.content.toJson), ("contentNonceMap", ofNonceMap d.nonces)])

def ofPresentation (p : Presentation) : Json :=
  .object
    (ofHeader p.header ++
      [("metadata", ofMetadata p.header.metadata), ("disclosed", .array (p.disclosed.map ofDisclosed)),
       ("nonceMap", ofNonceMap p.nonces), ("challenge", .string p.challenge),
       ("holderSignature", ofSignature p.holderSignature)])

end SelectiveDisclosure.Wire
