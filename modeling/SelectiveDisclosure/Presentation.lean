import SelectiveDisclosure.Document

namespace SelectiveDisclosure

structure DisclosedStatement where
  name : String
  value : Content
  digest : Hash
  saltedHash : Hash

structure Presentation where
  header : Header
  disclosed : List DisclosedStatement
  nonces : NonceMap
  challenge : String
  holderSignature : DidSignature

def holderPayload (challenge : String) (digests : List Hash) (documentHash : Hash) :
    Except ContentError String :=
  (Content.object
    [("challenge", .string challenge),
     ("digests", hashTexts digests),
     ("documentHash", .string documentHash.hex)]).encode

namespace Presentation

def digests (p : Presentation) : List Hash := p.disclosed.map DisclosedStatement.digest

def payload (p : Presentation) (challenge : String) : Except ContentError String :=
  holderPayload challenge p.digests p.header.documentHash

end Presentation

inductive PresentationError where
  | unknownName (name : String)
  | nothingRequested
  | holderMismatch (signer : Did)
  | invalidDocument (cause : IntegrityError)
  | encoding (cause : ContentError)
  | signing (cause : SigningError)
deriving DecidableEq

def PresentationError.message : PresentationError → String
  | .unknownName name => "no statement for attribute '" ++ name ++ "'"
  | .nothingRequested => "at least one attribute must be disclosed"
  | .holderMismatch signer => signer.text ++ " is not the document's holder"
  | .invalidDocument cause => "invalid document: " ++ cause.message
  | .encoding cause => "encoding holder signature payload: " ++ cause.message
  | .signing cause => "signing failed: " ++ cause.message

def requestedNames (names : List String) : List String :=
  (SortedMap.ofList (names.map fun n => (Text.normalize n, ()))).keys

def disclose (c : Statement × HashedStatement) : DisclosedStatement :=
  ⟨c.1.name, c.1.value, c.2.digest, c.2.saltedHash⟩

namespace Document

def present (d : Document) (p : Protocol) (names : List String) (signer : Signer)
    (challenge : String) (source : NonceSource) : Except PresentationError Presentation := do
  if signer.keyUri.did ≠ d.header.terms.holder then throw (.holderMismatch signer.keyUri.did)
  let requested := requestedNames names
  if requested.isEmpty then throw .nothingRequested
  let committed ← (d.committedStatements p source).mapError .invalidDocument
  if let some unknown := requested.find? fun n => !committed.any fun c => c.1.name = n then
    throw (.unknownName unknown)
  let disclosed := (committed.filter fun c => requested.contains c.1.name).map disclose
  let digests := disclosed.map DisclosedStatement.digest
  let payload ← (holderPayload challenge digests d.header.documentHash).mapError .encoding
  let signature ← (signer.signWithin p.signingTimeout.toNat (utf8 payload)).mapError .signing
  return ⟨d.header, disclosed, d.nonces.restrictedTo digests, challenge, ⟨signer.keyUri, signature⟩⟩

end Document

end SelectiveDisclosure
