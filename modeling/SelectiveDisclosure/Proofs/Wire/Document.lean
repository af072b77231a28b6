import SelectiveDisclosure.Wire.Document
import SelectiveDisclosure.Proofs.Wire.Record

namespace SelectiveDisclosure

structure Header.Portable (h : Header) : Prop where
  signature : h.issuerSignature.keyUri.Portable
  created : h.terms.createdAt.Portable
  limit : ∀ t ∈ h.terms.validUntil, t.Portable

structure Document.Portable (d : Document) : Prop where
  header : d.header.Portable
  content : d.content.Portable

structure Presentation.Portable (p : Presentation) : Prop where
  header : p.header.Portable
  disclosed : ∀ s ∈ p.disclosed, s.value.Portable
  signature : p.holderSignature.keyUri.Portable

namespace Wire

def writtenHeader (h : Header) : List (String × Option Json) :=
  [("identifier", some (ofDocumentId h.identifier)), ("issuer", some (ofDid h.terms.issuer)),
   ("holder", some (ofDid h.terms.holder)), ("contentHashes", some (ofHashes h.terms.contentHashes)),
   ("evidenceIds", some (.array (h.terms.evidenceIds.map ofDocumentId))),
   ("authorization", h.terms.authorization.map .string), ("registry", h.terms.registry.map .string),
   ("createdAt", some (ofTime h.terms.createdAt)), ("validUntil", h.terms.validUntil.map ofTime),
   ("documentHash", some (ofHash h.documentHash)),
   ("issuerSignature", some (ofSignature h.issuerSignature))]

theorem ofHeader_eq_present (h : Header) : ofHeader h = present (writtenHeader h) := by
  rw [ofHeader, writtenHeader]
  cases h.terms.authorization <;> cases h.terms.registry <;> cases h.terms.validUntil <;> rfl

def headerFields (c : Context) : List (String × Check) :=
  headFields c ++ ("contentHashes", check (list hash) c) :: termFields c

structure FindsHeader (f : Fields) (c : Context) (h : Header) : Prop where
  identifier : f.get "identifier" c documentId = .ok h.identifier
  issuer : f.get "issuer" c did = .ok h.terms.issuer
  holder : f.get "holder" c did = .ok h.terms.holder
  hashes : f.get "contentHashes" c (list hash) = .ok h.terms.contentHashes
  evidence : f.getD "evidenceIds" c (list documentId) [] = .ok h.terms.evidenceIds
  authorization : f.getD "authorization" c (optional string) none = .ok h.terms.authorization
  registry : f.getD "registry" c (optional string) none = .ok h.terms.registry
  created : f.get "createdAt" c time = .ok h.terms.createdAt
  limit : f.getD "validUntil" c (optional time) none = .ok h.terms.validUntil
  documentHash : f.get "documentHash" c hash = .ok h.documentHash
  signature : f.get "issuerSignature" c signature = .ok h.issuerSignature

theorem FindsHeader.portable {f : Fields} {c : Context} {h : Header} (hf : FindsHeader f c h) :
    h.Portable where
  signature := Fields.get_yields yields_signature hf.signature
  created := Fields.get_yields yields_time hf.created
  limit := Fields.getD_yields (yields_optional yields_time)
    (fun _ ht => absurd ht (Option.not_mem_none _)) hf.limit

section Header

variable {h : Header}

theorem carries_text (o : Option String) :
    Carries (optional string) none o (o.map .string) :=
  carries_optional fun s _ => reads_string s

theorem carries_limit (hportable : h.Portable) :
    Carries (optional time) none h.terms.validUntil (h.terms.validUntil.map ofTime) :=
  carries_optional fun _ ht => reads_time (hportable.limit _ ht)

theorem known_header (hportable : h.Portable) {c : Context} :
    ∀ w ∈ writtenHeader h, Known (headerFields c) c w := by
  simp only [writtenHeader, List.forall_mem_cons]
  exact ⟨.written (reads_documentId _) (by simp [headerFields, headFields]),
    .written (reads_did _) (by simp [headerFields, headFields]),
    .written (reads_did _) (by simp [headerFields, headFields]),
    .written (reads_hashes _) (by simp [headerFields]),
    .written (reads_documentIds _) (by simp [headerFields, termFields]),
    .carried (carries_text _) (by simp [headerFields, termFields]),
    .carried (carries_text _) (by simp [headerFields, termFields]),
    .written (reads_time hportable.created) (by simp [headerFields, termFields]),
    .carried (carries_limit hportable) (by simp [headerFields, termFields]),
    .written (reads_hash _) (by simp [headerFields, termFields]),
    .written (reads_signature hportable.signature) (by simp [headerFields, termFields]),
    List.forall_mem_nil _⟩

theorem Finds.header {f : Fields} {c : Context} {ws : List (String × Option Json)}
    (hportable : h.Portable) (hf : Finds f c (writtenHeader h ++ ws)) : FindsHeader f c h where
  identifier := hf.get (by simp [writtenHeader]) (reads_documentId _)
  issuer := hf.get (by simp [writtenHeader]) (reads_did _)
  holder := hf.get (by simp [writtenHeader]) (reads_did _)
  hashes := hf.get (by simp [writtenHeader]) (reads_hashes _)
  evidence := hf.getD (by simp [writtenHeader]) (carries_some (reads_documentIds _))
  authorization := hf.getD (by simp [writtenHeader]) (carries_text _)
  registry := hf.getD (by simp [writtenHeader]) (carries_text _)
  created := hf.get (by simp [writtenHeader]) (reads_time hportable.created)
  limit := hf.getD (by simp [writtenHeader]) (carries_limit hportable)
  documentHash := hf.get (by simp [writtenHeader]) (reads_hash _)
  signature := hf.get (by simp [writtenHeader]) (reads_signature hportable.signature)

end Header

def writtenDocument (d : Document) : List (String × Option Json) :=
  writtenHeader d.header ++
    [("metadata", if d.header.metadata.isEmpty then none else some (ofMetadata d.header.metadata)),
     ("content", some d.content.toJson), ("contentNonceMap", some (ofNonceMap d.nonces))]

theorem ofDocument_eq_present (d : Document) :
    ofDocument d = .object (present (writtenDocument d)) := by
  rw [ofDocument, writtenDocument, ofHeader_eq_present, unless_eq_present, present_append,
    List.append_assoc]
  cases d.header.metadata.isEmpty <;> rfl

theorem carries_metadata (m : Metadata) :
    Carries metadata ⟨[], []⟩ m (if m.isEmpty then none else some (ofMetadata m)) := by
  refine carries_unless (reads_metadata m) fun h => ?_
  obtain ⟨htemplates, hlabels⟩ := (Bool.and_eq_true ..).mp h
  cases m
  exact congrArg₂ Metadata.mk (List.isEmpty_iff.mp htemplates).symm (List.isEmpty_iff.mp hlabels).symm

theorem headerFields_subset_documentFields (c : Context) : headerFields c ⊆ documentFields c := by
  simp [headerFields, documentFields, headFields, termFields]

theorem document_ok_iff {c : Context} {source : Source} {d : Document} :
    document c source = .ok d ↔ ∃ f, fields (documentFields c.inner) true c.inner source = .ok f ∧
      FindsHeader f c.inner d.header ∧ f.get "content" c.inner content = .ok d.content ∧
      f.get "contentNonceMap" c.inner nonceMap = .ok d.nonces ∧
      f.getD "metadata" c.inner metadata ⟨[], []⟩ = .ok d.header.metadata := by
  simp only [document, bind_ok_iff, return_ok_iff]
  constructor
  · rintro ⟨f, hf, _, hidentifier, _, hissuer, _, hholder, _, hcontent, _, hhashes, _, hnonces,
      _, hevidence, _, hauthorization, _, hregistry, _, hcreated, _, hlimit, _, hdocumentHash,
      _, hsignature, _, hmetadata, rfl⟩
    exact ⟨f, hf, ⟨hidentifier, hissuer, hholder, hhashes, hevidence, hauthorization, hregistry,
      hcreated, hlimit, hdocumentHash, hsignature⟩, hcontent, hnonces, hmetadata⟩
  · rintro ⟨f, hf, h, hcontent, hnonces, hmetadata⟩
    exact ⟨f, hf, _, h.identifier, _, h.issuer, _, h.holder, _, hcontent, _, h.hashes, _, hnonces,
      _, h.evidence, _, h.authorization, _, h.registry, _, h.created, _, h.limit, _, h.documentHash,
      _, h.signature, _, hmetadata, rfl⟩

theorem reads_document {d : Document} (h : d.Portable) : Reads document (ofDocument d) d := by
  intro c hroom
  have hmetadata := carries_metadata d.header.metadata
  have hcontent := reads_content h.content
  have hnonces := reads_nonceMap d.nonces
  have hknown : ∀ w ∈ writtenDocument d, Known (documentFields c.inner) c.inner w := by
    refine List.forall_mem_append.mpr ⟨fun w hw =>
      (known_header h.header w hw).mono (headerFields_subset_documentFields _), ?_⟩
    simp only [List.forall_mem_cons]
    exact ⟨.carried hmetadata (by simp [documentFields, termFields]),
      .written hcontent (by simp [documentFields]), .written hnonces (by simp [documentFields]),
      List.forall_mem_nil _⟩
  rw [ofDocument_eq_present] at hroom ⊢
  obtain ⟨f, hf, hfinds⟩ := fields_present true hknown
    (by simp [documentFields, headFields, termFields]) (by simp [writtenDocument, writtenHeader]) hroom
  exact document_ok_iff.mpr ⟨f, hf, Finds.header h.header hfinds,
    hfinds.get (by simp [writtenDocument]) hcontent, hfinds.get (by simp [writtenDocument]) hnonces,
    hfinds.getD (by simp [writtenDocument]) hmetadata⟩

theorem yields_document : Yields document Document.Portable := by
  intro c source d h
  obtain ⟨f, -, hheader, hcontent, -, -⟩ := document_ok_iff.mp h
  exact ⟨hheader.portable, Fields.get_yields yields_content hcontent⟩

def writtenPresentation (p : Presentation) : List (String × Option Json) :=
  writtenHeader p.header ++
    [("metadata", some (ofMetadata p.header.metadata)),
     ("disclosed", some (.array (p.disclosed.map ofDisclosed))),
     ("nonceMap", some (ofNonceMap p.nonces)), ("challenge", some (.string p.challenge)),
     ("holderSignature", some (ofSignature p.holderSignature))]

theorem ofPresentation_eq_present (p : Presentation) :
    ofPresentation p = .object (present (writtenPresentation p)) := by
  rw [ofPresentation, writtenPresentation, ofHeader_eq_present, present_append]
  rfl

theorem headerFields_subset_presentationFields (c : Context) :
    headerFields c ⊆ presentationFields c := by
  simp [headerFields, presentationFields, headFields, termFields]

theorem presentation_ok_iff {c : Context} {source : Source} {p : Presentation} :
    presentation c source = .ok p ↔ ∃ f, fields (presentationFields c.inner) true c.inner source = .ok f ∧
      FindsHeader f c.inner p.header ∧
      f.getD "metadata" c.inner metadata ⟨[], []⟩ = .ok p.header.metadata ∧
      f.get "disclosed" c.inner (list disclosed) = .ok p.disclosed ∧
      f.get "nonceMap" c.inner nonceMap = .ok p.nonces ∧
      f.get "challenge" c.inner string = .ok p.challenge ∧
      f.get "holderSignature" c.inner signature = .ok p.holderSignature := by
  simp only [presentation, bind_ok_iff, return_ok_iff]
  constructor
  · rintro ⟨f, hf, _, hidentifier, _, hissuer, _, hholder, _, hhashes, _, hevidence,
      _, hauthorization, _, hregistry, _, hcreated, _, hlimit, _, hdocumentHash, _, hsignature,
      _, hmetadata, _, hdisclosed, _, hnonces, _, hchallenge, _, hsigned, rfl⟩
    exact ⟨f, hf, ⟨hidentifier, hissuer, hholder, hhashes, hevidence, hauthorization, hregistry,
      hcreated, hlimit, hdocumentHash, hsignature⟩, hmetadata, hdisclosed, hnonces, hchallenge, hsigned⟩
  · rintro ⟨f, hf, h, hmetadata, hdisclosed, hnonces, hchallenge, hsigned⟩
    exact ⟨f, hf, _, h.identifier, _, h.issuer, _, h.holder, _, h.hashes, _, h.evidence,
      _, h.authorization, _, h.registry, _, h.created, _, h.limit, _, h.documentHash, _, h.signature,
      _, hmetadata, _, hdisclosed, _, hnonces, _, hchallenge, _, hsigned, rfl⟩

theorem reads_presentation {p : Presentation} (h : p.Portable) :
    Reads presentation (ofPresentation p) p := by
  intro c hroom
  have hmetadata : Carries metadata ⟨[], []⟩ p.header.metadata
      (some (ofMetadata p.header.metadata)) := carries_some (reads_metadata p.header.metadata)
  have hdisclosed : Reads (list disclosed) (.array (p.disclosed.map ofDisclosed)) p.disclosed :=
    reads_list fun s hs => reads_disclosed (h.disclosed s hs)
  have hnonces := reads_nonceMap p.nonces
  have hchallenge := reads_string p.challenge
  have hsignature := reads_signature h.signature
  have hknown : ∀ w ∈ writtenPresentation p, Known (presentationFields c.inner) c.inner w := by
    refine List.forall_mem_append.mpr ⟨fun w hw =>
      (known_header h.header w hw).mono (headerFields_subset_presentationFields _), ?_⟩
    simp only [List.forall_mem_cons]
    exact ⟨.carried hmetadata (by simp [presentationFields, termFields]),
      .written hdisclosed (by simp [presentationFields]),
      .written hnonces (by simp [presentationFields]),
      .written hchallenge (by simp [presentationFields]),
      .written hsignature (by simp [presentationFields]), List.forall_mem_nil _⟩
  rw [ofPresentation_eq_present] at hroom ⊢
  obtain ⟨f, hf, hfinds⟩ := fields_present true hknown
    (by simp [presentationFields, headFields, termFields])
    (by simp [writtenPresentation, writtenHeader]) hroom
  exact presentation_ok_iff.mpr ⟨f, hf, Finds.header h.header hfinds,
    hfinds.getD (by simp [writtenPresentation]) hmetadata,
    hfinds.get (by simp [writtenPresentation]) hdisclosed,
    hfinds.get (by simp [writtenPresentation]) hnonces,
    hfinds.get (by simp [writtenPresentation]) hchallenge,
    hfinds.get (by simp [writtenPresentation]) hsignature⟩

theorem yields_presentation : Yields presentation Presentation.Portable := by
  intro c source p h
  obtain ⟨f, -, hheader, -, hdisclosed, -, -, hsignature⟩ := presentation_ok_iff.mp h
  exact ⟨hheader.portable, Fields.get_yields (yields_list yields_disclosed) hdisclosed,
    Fields.get_yields yields_signature hsignature⟩

end Wire

inductive WireType where
  | document
  | presentation
  | disclosedStatement
  | signature
  | didDocument
  | verificationKey
  | metadata
  | nonceMap
  | protocol
  | content
  | hash
  | documentId
  | did
  | keyUri
deriving DecidableEq

namespace WireType

open Wire

abbrev Value : WireType → Type
  | document => Document
  | presentation => Presentation
  | disclosedStatement => DisclosedStatement
  | signature => DidSignature
  | didDocument => DidDocument
  | verificationKey => VerificationKey
  | metadata => Metadata
  | nonceMap => NonceMap
  | protocol => Protocol
  | content => Content
  | hash => Hash
  | documentId => DocumentId
  | did => Did
  | keyUri => KeyUri

def decoder : (t : WireType) → Decoder t.Value
  | document => Wire.document
  | presentation => Wire.presentation
  | disclosedStatement => Wire.disclosed
  | signature => Wire.signature
  | didDocument => Wire.didDocument
  | verificationKey => Wire.verificationKey
  | metadata => Wire.metadata
  | nonceMap => Wire.nonceMap
  | protocol => Wire.protocol
  | content => Wire.content
  | hash => Wire.hash
  | documentId => Wire.documentId
  | did => Wire.did
  | keyUri => Wire.keyUri

def encode : (t : WireType) → t.Value → Json
  | document => ofDocument
  | presentation => ofPresentation
  | disclosedStatement => ofDisclosed
  | signature => ofSignature
  | didDocument => ofDidDocument
  | verificationKey => ofVerificationKey
  | metadata => ofMetadata
  | nonceMap => ofNonceMap
  | protocol => ofProtocol
  | content => Content.toJson
  | hash => ofHash
  | documentId => ofDocumentId
  | did => ofDid
  | keyUri => ofKeyUri

theorem reads_of_decoded (t : WireType) {c : Context} {source : Source} {x : t.Value}
    (h : t.decoder c source = .ok x) : Reads t.decoder (t.encode x) x := by
  cases t with
  | document => exact reads_document (yields_document h)
  | presentation => exact reads_presentation (yields_presentation h)
  | disclosedStatement => exact reads_disclosed (yields_disclosed h)
  | signature => exact reads_signature (yields_signature h)
  | didDocument => exact reads_didDocument x
  | verificationKey => exact reads_verificationKey x
  | metadata => exact reads_metadata x
  | nonceMap => exact reads_nonceMap x
  | protocol => exact reads_protocol x
  | content => exact reads_content (yields_content h)
  | hash => exact reads_hash x
  | documentId => exact reads_documentId x
  | did => exact reads_did x
  | keyUri => exact reads_keyUri (yields_keyUri h)

theorem decoded_read_back {t : WireType} {j : Json} {x : t.Value}
    (h : decodeValue t.decoder j = .ok x) : decodeValue t.decoder (t.encode x) = .ok x :=
  (reads_of_decoded t h).decodeValue

def sparseProtocol : Json :=
  .object [("signingTimeout", .number (.ofWord 250)), ("hashAlgorithm", .object [("blake3", .null)])]

theorem sparse_protocol_read_back :
    decodeValue protocol.decoder sparseProtocol = .ok ⟨.blake3, .topLevel, 250, 10000⟩ ∧
      decodeValue protocol.decoder (protocol.encode ⟨.blake3, .topLevel, 250, 10000⟩) =
        .ok ⟨.blake3, .topLevel, 250, 10000⟩ := by
  have hdecoded : decodeValue protocol.decoder sparseProtocol = .ok ⟨.blake3, .topLevel, 250, 10000⟩ := by
    rfl
  exact ⟨hdecoded, decoded_read_back hdecoded⟩

end WireType

end SelectiveDisclosure
