import SelectiveDisclosure.Proofs.Soundness
import SelectiveDisclosure.Proofs.Text.Composition

namespace SelectiveDisclosure

namespace Terms

structure TellsPresence (s t : Terms) : Prop where
  authorization : s.authorization.isSome = t.authorization.isSome ↔ s.authorization ≠ some ""
  registry : s.registry.isSome = t.registry.isSome ↔ s.registry ≠ some ""
  validUntil : s.validUntil.isSome = t.validUntil.isSome

theorem isSome_eq_iff_of_normalize {x y : Option String} (hy : y ≠ some "")
    (h : Text.normalize (x.getD "") = Text.normalize (y.getD "")) :
    x.isSome = y.isSome ↔ x ≠ some "" := by
  have hempty : x.getD "" = "" ↔ y.getD "" = "" := by
    rw [← Text.normalize_eq_empty_iff, h, Text.normalize_eq_empty_iff]
  cases x <;> cases y <;> simp_all

theorem Agrees.tellsPresence {s t : Terms} (h : s.Agrees t) (hauthorization : t.authorization ≠ some "")
    (hregistry : t.registry ≠ some "") : s.TellsPresence t where
  authorization := isSome_eq_iff_of_normalize hauthorization h.authorization
  registry := isSome_eq_iff_of_normalize hregistry h.registry
  validUntil := by simpa using congrArg Option.isSome h.validUntil

theorem tellsPresence_or_collides {a : HashAlgorithm} {s t : Terms} {hash : Hash}
    (hs : s.documentHash a.hasher = .ok hash) (ht : t.documentHash a.hasher = .ok hash)
    (hauthorization : t.authorization ≠ some "") (hregistry : t.registry ≠ some "") :
    s.TellsPresence t ∨ a.Collides (s.texts ++ t.texts) :=
  (agrees_or_collides (List.subset_append_left _ _) (List.subset_append_right _ _) hs ht).imp_left
    fun hagrees => hagrees.tellsPresence hauthorization hregistry

end Terms

structure StatesTexts (a : Application) (d : Document) : Prop where
  authorization : d.header.terms.authorization = a.authorization
  registry : d.header.terms.registry = a.registry
  authorization_ne : a.authorization ≠ some ""
  registry_ne : a.registry ≠ some ""

theorem statesTexts_of_issue {a : Application} {p : Protocol} {signer : Signer} {now : Instant}
    {source : NonceSource} {d : Document} (h : a.issue p signer now source = .ok d) :
    StatesTexts a d := by
  obtain ⟨_, _, hfrom⟩ := issuedFrom_of_issue h
  exact ⟨hfrom.authorization, hfrom.registry, hfrom.authorization_ne, hfrom.registry_ne⟩

theorem presence_committed {a : Application} {p : Protocol} {signer : Signer} {now : Instant}
    {source : NonceSource} {d : Document} (hissue : a.issue p signer now source = .ok d) :
    (∀ shown : Presentation, shown.header.documentHash = d.header.documentHash →
      shown.proveDigests p.hasher = .ok () →
      shown.header.terms.TellsPresence d.header.terms ∨
        p.hashAlgorithm.Collides (shown.header.terms.texts ++ d.header.terms.texts)) ∧
    ∀ (other : Document) (q : Protocol) (later : NonceSource),
      q.hashAlgorithm = p.hashAlgorithm → other.header.documentHash = d.header.documentHash →
      other.checkIntegrity q later = .ok () →
      other.header.terms.TellsPresence d.header.terms ∨
        p.hashAlgorithm.Collides (other.header.terms.texts ++ d.header.terms.texts) := by
  obtain ⟨cs, hd⟩ := issued_of_issue hissue
  obtain ⟨hauthorization, hregistry, hne, hnr⟩ := statesTexts_of_issue hissue
  rw [← hauthorization] at hne
  rw [← hregistry] at hnr
  constructor
  · intro shown hhash hdigests
    obtain ⟨-, -, hshown, -⟩ := Presentation.proveDigests_ok_iff.mp hdigests
    rw [hhash] at hshown
    exact Terms.tellsPresence_or_collides hshown hd.documentHash hne hnr
  · intro other q later halgorithm hhash hintegrity
    obtain ⟨-, -, -, hother, -⟩ := Document.checkIntegrity_ok_iff.mp hintegrity
    rw [hhash, Protocol.hasher, halgorithm] at hother
    exact Terms.tellsPresence_or_collides hother hd.documentHash hne hnr

theorem sample_presence_committed : ∃ d shown,
    sampleApplication.issue .standard sampleIssuer default sampleSource = .ok d ∧
    d.present .standard ["r\u00e9sum\u00e9"] sampleHolder "challenge" sampleSource = .ok shown ∧
    shown.header.documentHash = d.header.documentHash ∧
    shown.proveDigests Protocol.standard.hasher = .ok () ∧
    (shown.header.terms.TellsPresence d.header.terms ∨
      HashAlgorithm.sha256.Collides (shown.header.terms.texts ++ d.header.terms.texts)) ∧
    d.checkIntegrity .standard sampleSource = .ok () ∧
    (d.header.terms.TellsPresence d.header.terms ∨
      HashAlgorithm.sha256.Collides (d.header.terms.texts ++ d.header.terms.texts)) := by
  obtain ⟨d, shown, hissue, hpresent, hheader, hpasses⟩ := sample_passes
  obtain ⟨cs, hd⟩ := issued_of_issue hissue
  have hhash : shown.header.documentHash = d.header.documentHash := congrArg _ hheader
  have hintegrity := hd.checkIntegrity sampleSource
  obtain ⟨hshown, hother⟩ := presence_committed hissue
  exact ⟨d, shown, hissue, hpresent, hhash, hpasses.digests, hshown shown hhash hpasses.digests,
    hintegrity, hother d .standard sampleSource rfl rfl hintegrity⟩

def Terms.authorizedBy (t : Terms) (authorization : Option String) : Terms :=
  ⟨t.contentHashes, t.issuer, t.holder, t.evidenceIds, authorization, t.registry, t.createdAt,
    t.validUntil⟩

def Presentation.authorizedBy (p : Presentation) (authorization : Option String) : Presentation :=
  ⟨⟨p.header.identifier, p.header.terms.authorizedBy authorization, p.header.documentHash,
    p.header.issuerSignature, p.header.metadata⟩, p.disclosed, p.nonces, p.challenge,
    p.holderSignature⟩

section

variable {p : Presentation} (h : p.header.terms.authorization = none)

include h

theorem payload_authorizedBy_empty :
    (p.authorizedBy (some "")).header.terms.payload = p.header.terms.payload := by
  rw [Presentation.authorizedBy, Terms.authorizedBy, Terms.payload, Terms.payload, h]
  rfl

theorem proveDigests_authorizedBy_empty (hasher : Hasher) :
    (p.authorizedBy (some "")).proveDigests hasher = p.proveDigests hasher := by
  rw [Presentation.proveDigests, Presentation.proveDigests, Terms.documentHash, Terms.documentHash,
    payload_authorizedBy_empty h]
  rfl

end

theorem empty_authorization_unnoticed :
    ¬∀ (a : Application) (p : Protocol) (signer : Signer) (now : Instant) (source : NonceSource)
      (d : Document) (shown : Presentation), a.issue p signer now source = .ok d →
      shown.header.documentHash = d.header.documentHash →
      shown.proveDigests p.hasher = .ok () →
      (shown.header.terms.authorization.isSome = d.header.terms.authorization.isSome ∧
        shown.header.terms.registry.isSome = d.header.terms.registry.isSome ∧
        shown.header.terms.validUntil.isSome = d.header.terms.validUntil.isSome) ∨
        p.hashAlgorithm.Collides (shown.header.terms.texts ++ d.header.terms.texts) := by
  intro h
  obtain ⟨d, shown, hissue, -, hheader, hpasses⟩ := sample_passes
  have hnone : shown.header.terms.authorization = none := by
    rw [hheader]
    exact (statesTexts_of_issue hissue).authorization
  have hpayload := payload_authorizedBy_empty hnone
  have hdigests := (proveDigests_authorizedBy_empty hnone _).trans hpasses.digests
  have hhash : (shown.authorizedBy (some "")).header.documentHash = d.header.documentHash := by
    rw [Presentation.authorizedBy, hheader]
  rcases h sampleApplication .standard sampleIssuer default sampleSource d
    (shown.authorizedBy (some "")) hissue hhash hdigests with ⟨hpresence, -⟩ | ⟨x, hx, y, hy, hne, -⟩
  · rw [← hheader, hnone] at hpresence
    cases hpresence
  · -- both texts are the one payload, so they cannot differ
    rw [Terms.texts, Terms.texts, hpayload, ← hheader, List.mem_append, or_self] at hx hy
    exact hne (Except.ok.inj ((Terms.mem_texts.mp hx).symm.trans (Terms.mem_texts.mp hy)))

end SelectiveDisclosure
