import SelectiveDisclosure.Proofs.Confidentiality
import SelectiveDisclosure.Proofs.Soundness

namespace SelectiveDisclosure

def DidSignature.OnlyFor (s : DidSignature) (key : PublicKey) (signed : List UInt8)
    (texts : List String) : Prop :=
  ∀ t ∈ texts, s.verify (utf8 t) key = .ok () → utf8 t = signed

def DisclosedStatement.normal (s : DisclosedStatement) : String × Tree :=
  (Text.normalize s.name, s.value.normalForm)

namespace Presentation

def signedTexts (p : Presentation) (challenge : String) : List String :=
  (p.payload challenge).toOption.toList

theorem mem_signedTexts {p : Presentation} {challenge x : String} :
    x ∈ p.signedTexts challenge ↔ p.payload challenge = .ok x := by
  rw [signedTexts]
  cases p.payload challenge <;> simp [Except.toOption, eq_comm]

structure SameDisclosure (p q : Presentation) : Prop where
  identifier : p.header.identifier = q.header.identifier
  issuer : p.header.terms.issuer = q.header.terms.issuer
  holder : p.header.terms.holder = q.header.terms.holder
  documentHash : p.header.documentHash = q.header.documentHash
  disclosed : (p.disclosed.map DisclosedStatement.normal).Perm
    (q.disclosed.map DisclosedStatement.normal)

end Presentation

theorem normal_eq_of_digest {a : HashAlgorithm} {texts : List String} (hfree : ¬a.Collides texts)
    {nonces salts : NonceMap} {s t : DisclosedStatement} {x y k l : String}
    (hs : Presentation.Opens a.hasher nonces s x k) (ht : Presentation.Opens a.hasher salts t y l)
    (hstexts : s.texts nonces ⊆ texts) (httexts : t.texts salts ⊆ texts) (h : s.digest = t.digest) :
    s.normal = t.normal := by
  have hxy : x = y := by
    refine HashAlgorithm.eq_of_digest hfree (hstexts hs.text_mem) (httexts ht.text_mem) ?_
    rw [hs.digest, ht.digest, h]
  obtain ⟨hname, hvalue⟩ := (encodeStatement_eq_iff hs.encoded ht.encoded).mp hxy
  exact Prod.ext hname hvalue

theorem sameDisclosure_of_digests {a : HashAlgorithm} {p q : Presentation}
    (hfree : ¬a.Collides (p.texts ++ q.texts))
    (hps : p.proveStatements a.hasher = .ok ()) (hpd : p.proveDigests a.hasher = .ok ())
    (hqs : q.proveStatements a.hasher = .ok ()) (hqd : q.proveDigests a.hasher = .ok ())
    (hdigests : sortHashes p.digests = sortHashes q.digests)
    (hhash : p.header.documentHash = q.header.documentHash) : p.SameDisclosure q := by
  obtain ⟨-, -, hpopens⟩ := Presentation.proveStatements_ok_iff.mp hps
  obtain ⟨-, -, hqopens⟩ := Presentation.proveStatements_ok_iff.mp hqs
  obtain ⟨-, -, hpdocument, hpidentifier⟩ := Presentation.proveDigests_ok_iff.mp hpd
  obtain ⟨-, -, hqdocument, hqidentifier⟩ := Presentation.proveDigests_ok_iff.mp hqd
  have hptexts : p.texts ⊆ p.texts ++ q.texts := List.subset_append_left _ _
  have hqtexts : q.texts ⊆ p.texts ++ q.texts := List.subset_append_right _ _
  have hagrees := Terms.agrees_of_documentHash hfree
    (List.Subset.trans p.terms_subset_texts hptexts)
    (List.Subset.trans q.terms_subset_texts hqtexts) hpdocument (hhash ▸ hqdocument)
  -- the document hash fixes identifier and parties, the digests fix the statements
  refine ⟨?_, hagrees.issuer, hagrees.holder, hhash, ?_⟩
  · rw [hpidentifier, hqidentifier, hhash]
  · refine perm_map_of_perm_map (sortHashes_eq_iff.mp hdigests) ?_
    intro s hs t ht heq
    obtain ⟨x, k, hsopens⟩ := hpopens s hs
    obtain ⟨y, l, htopens⟩ := hqopens t ht
    exact normal_eq_of_digest hfree hsopens htopens
      (List.Subset.trans (Presentation.subset_texts hs) hptexts)
      (List.Subset.trans (Presentation.subset_texts ht) hqtexts) heq

theorem signature_fixes_disclosure {p q : Presentation} (hsignature : p.holderSignature = q.holderSignature)
    {protocol : Protocol} {registry : Registry} {e f : Expectations}
    (hchallenge : e.challenge = f.challenge) {delay later : Nat} {now next : Instant}
    {v w : VerifiedPresentation}
    (hp : (p.verify protocol ⟨delay, registry.resolve⟩ e now).result = .ok v)
    (hq : (q.verify protocol ⟨later, registry.resolve⟩ f next).result = .ok w) {signed : List UInt8}
    (honly : ∀ key, registry.resolve p.holderSignature.keyUri = .ok key →
      p.holderSignature.OnlyFor key.publicKey signed
        (p.signedTexts e.challenge ++ q.signedTexts e.challenge)) :
    p.SameDisclosure q ∨ protocol.hashAlgorithm.Collides (p.texts ++ q.texts) := by
  obtain ⟨hppasses, -⟩ := Presentation.verify_result_ok_iff.mp hp
  obtain ⟨hqpasses, -⟩ := Presentation.verify_result_ok_iff.mp hq
  obtain ⟨-, key, hkey, -, -, x, hx, hpverify⟩ :=
    Presentation.proveHolderSignature_ok_iff.mp hppasses.holderSignature
  obtain ⟨-, key', hkey', -, -, y, hy, hqverify⟩ :=
    Presentation.proveHolderSignature_ok_iff.mp hqpasses.holderSignature
  have hresolve := (Resolver.resolveWithin_ok_iff.mp hkey).2
  have hresolve' := (Resolver.resolveWithin_ok_iff.mp hkey').2
  rw [← hsignature] at hresolve' hqverify
  rw [← hchallenge] at hy
  have hsame : key = key' := Except.ok.inj (hresolve.symm.trans hresolve')
  rw [← hsame] at hqverify
  -- both payloads are the text that was signed
  have hxy : x = y := by
    have hxsigned := honly key hresolve x
      (List.mem_append_left _ (Presentation.mem_signedTexts.mpr hx)) hpverify
    have hysigned := honly key hresolve y
      (List.mem_append_right _ (Presentation.mem_signedTexts.mpr hy)) hqverify
    exact utf8_inj (hxsigned.trans hysigned.symm)
  obtain ⟨-, hdigests, hhash⟩ := (holderPayload_eq_iff hx hy).mp hxy
  by_cases hfree : protocol.hashAlgorithm.Collides (p.texts ++ q.texts)
  · exact .inr hfree
  · exact .inl (sameDisclosure_of_digests hfree hppasses.statements hppasses.digests
      hqpasses.statements hqpasses.digests hdigests hhash)

def Presentation.labelled (p : Presentation) (m : Metadata) : Presentation :=
  ⟨⟨p.header.identifier, p.header.terms, p.header.documentHash, p.header.issuerSignature, m⟩,
    p.disclosed, p.nonces, p.challenge, p.holderSignature⟩

-- No proof reads the metadata.
theorem Presentation.Passes.labelled {p : Presentation} {q : Protocol} {resolver : Resolver}
    {e : Expectations} {now : Instant} (h : p.Passes q resolver e now) (m : Metadata) :
    (p.labelled m).Passes q resolver e now :=
  ⟨h.statements, h.digests, h.issuerSignature, h.holderSignature, h.validity⟩

theorem labels_keep_disclosure : ∃ (p q : Presentation) (v w : VerifiedPresentation),
    p.header.metadata ≠ q.header.metadata ∧ p.holderSignature = q.holderSignature ∧
    (p.verify .standard sampleResolver sampleExpectations sampleTime).result = .ok v ∧
    (q.verify .standard sampleResolver sampleExpectations sampleTime).result = .ok w ∧
    (p.SameDisclosure q ∨ HashAlgorithm.sha256.Collides (p.texts ++ q.texts)) := by
  obtain ⟨-, shown, -, -, -, hpasses⟩ := sample_passes
  have hp := Presentation.verify_result_ok_iff.mpr ⟨hpasses.labelled ⟨["a"], []⟩, rfl⟩
  have hq := Presentation.verify_result_ok_iff.mpr ⟨hpasses.labelled ⟨["b"], []⟩, rfl⟩
  obtain ⟨x, hx⟩ := holderPayload_ok sampleExpectations.challenge shown.digests
    shown.header.documentHash
  have honly : ∀ key : ResolvedKey, (Registry.after sampleCalls).resolve
      (shown.labelled ⟨["a"], []⟩).holderSignature.keyUri = .ok key →
      (shown.labelled ⟨["a"], []⟩).holderSignature.OnlyFor key.publicKey (utf8 x)
        ((shown.labelled ⟨["a"], []⟩).signedTexts sampleExpectations.challenge ++
          (shown.labelled ⟨["b"], []⟩).signedTexts sampleExpectations.challenge) := by
    intro key _ t ht _
    have ht : t ∈ shown.signedTexts sampleExpectations.challenge := (List.mem_append.mp ht).elim id id
    rw [Except.ok.inj ((Presentation.mem_signedTexts.mp ht).symm.trans hx)]
  have hlabels : (⟨["a"], []⟩ : Metadata) ≠ ⟨["b"], []⟩ := by decide
  have hsignature : (shown.labelled ⟨["a"], []⟩).holderSignature =
      (shown.labelled ⟨["b"], []⟩).holderSignature := rfl
  exact ⟨_, _, _, _, hlabels, hsignature, hp, hq,
    signature_fixes_disclosure hsignature rfl hp hq honly⟩

theorem replayed_signature_rejected {d : Document} {p : Protocol} {names : List String}
    {holder : Signer} {challenge : String} {source : NonceSource} {shown : Presentation}
    (hpresent : d.present p names holder challenge source = .ok shown) {replayed : Presentation}
    (hsignature : replayed.holderSignature = shown.holderSignature) {e : Expectations}
    (hchallenge : Text.normalize e.challenge ≠ Text.normalize challenge) {resolver : Resolver}
    {timeout : Nat}
    (honly : ∀ key signed, resolver.resolve shown.holderSignature.keyUri = .ok key →
      holder.sign signed = .ok shown.holderSignature.bytes →
      shown.holderSignature.OnlyFor key.publicKey signed (replayed.signedTexts e.challenge)) :
    ∃ error, replayed.proveHolderSignature resolver timeout e = .error error ∧
      Presentation.HolderRejection error := by
  cases hproof : replayed.proveHolderSignature resolver timeout e with
  | error error => exact ⟨error, rfl, Presentation.proveHolderSignature_error hproof⟩
  | ok u =>
    obtain ⟨-, key, hkey, -, -, y, hy, hverify⟩ :=
      Presentation.proveHolderSignature_ok_iff.mp hproof
    obtain ⟨cs, -, hpresented⟩ := presented_of_present hpresent
    obtain ⟨x, hx, hsigned⟩ := hpresented.signed
    have hresolve := (Resolver.resolveWithin_ok_iff.mp hkey).2
    rw [hsignature] at hresolve hverify
    -- an accepted replay shows the payload that was signed, and with it the first challenge
    have hyx := honly key _ hresolve hsigned y (Presentation.mem_signedTexts.mpr hy) hverify
    exact absurd ((holderPayload_eq_iff hy hx).mp (utf8_inj hyx)).1 hchallenge

def membershipPayload (challenge : String) : String :=
  (holderPayload challenge [membership.digest] default).toOption.getD ""

def membershipSignature : DidSignature where
  keyUri := ⟨⟨generatorKey⟩, "authentication"⟩
  bytes :=
    bigEndianBytes 32 0xcc88ffff1337579df5d08d8299556ddc6342588c7835241c444626de9f747cc3 ++
      bigEndianBytes 32 0x16d335b6c2c1c375c86efc44df47c1fb1073612eff7b2d33f48c5ad0059aaad1

-- It signs a single payload, the membership behind an accented challenge.
def memberSigner : Signer where
  keyUri := membershipSignature.keyUri
  delay := 0
  sign payload :=
    if payload = utf8 (membershipPayload "\u00e9") then .ok membershipSignature.bytes
    else .error (.unavailable "")

theorem memberSigner_sign {payload bytes : List UInt8} (h : memberSigner.sign payload = .ok bytes) :
    payload = utf8 (membershipPayload "\u00e9") ∧ bytes = membershipSignature.bytes := by
  rw [memberSigner] at h
  dsimp only at h
  split at h
  · exact ⟨‹_›, (Except.ok.inj h).symm⟩
  · cases h

theorem membership_run :
    yields (namedMember.present .standard ["member"] memberSigner "\u00e9" sampleSource)
        (fun shown => decide (shown.digests = [membership.digest])) = true ∧
      Text.normalize "e\u0301" = Text.normalize "\u00e9" ∧
      Text.normalize "other" ≠ Text.normalize "\u00e9" ∧
      membershipSignature.verify (utf8 (membershipPayload "\u00e9")) generatorKey = .ok () ∧
      membershipSignature.verify (utf8 (membershipPayload "other")) generatorKey ≠ .ok () := by
  decide +kernel

theorem membershipPayload_ok (challenge : String) :
    holderPayload challenge [membership.digest] default = .ok (membershipPayload challenge) := by
  obtain ⟨x, hx⟩ := holderPayload_ok challenge [membership.digest] default
  rw [membershipPayload, hx]
  rfl

def Presentation.rechallenged (p : Presentation) (challenge : String) : Presentation :=
  ⟨p.header, p.disclosed, p.nonces, challenge, p.holderSignature⟩

theorem membership_shown : ∃ shown,
    namedMember.present .standard ["member"] memberSigner "\u00e9" sampleSource = .ok shown ∧
    shown.header = memberHeader ∧ shown.holderSignature = membershipSignature ∧
    ∀ challenge, (shown.rechallenged challenge).payload challenge =
      .ok (membershipPayload challenge) := by
  obtain ⟨shown, hpresent, hdigests⟩ := yields_iff.mp membership_run.1
  obtain ⟨cs, -, h⟩ := presented_of_present hpresent
  have hheader : shown.header = memberHeader := h.header.trans (header_memberDocument _ _)
  obtain ⟨payload, -, hsigned⟩ := h.signed
  have hsignature : shown.holderSignature = membershipSignature := by
    have hbytes := (memberSigner_sign hsigned).2
    have huri : shown.holderSignature.keyUri = membershipSignature.keyUri := h.keyUri
    exact congrArg₂ DidSignature.mk huri hbytes
  refine ⟨shown, hpresent, hheader, hsignature, fun challenge => ?_⟩
  have hpayload : (shown.rechallenged challenge).payload challenge =
      holderPayload challenge shown.digests shown.header.documentHash := rfl
  rw [hpayload, of_decide_eq_true hdigests, hheader]
  exact membershipPayload_ok challenge

def memberKey : ResolvedKey :=
  ⟨membershipSignature.keyUri, memberHeader.terms.holder, generatorKey, [.authentication]⟩

def memberResolver : Resolver := ⟨0, Registry.empty.resolve⟩

theorem memberResolver_resolves :
    memberResolver.resolve membershipSignature.keyUri = .ok memberKey := rfl

theorem other_challenge_rejected : ∃ shown error,
    namedMember.present .standard ["member"] memberSigner "\u00e9" sampleSource = .ok shown ∧
    Text.normalize "other" ≠ Text.normalize "\u00e9" ∧
    (shown.rechallenged "other").proveHolderSignature memberResolver 0 ⟨"other", none, false⟩ =
      .error error ∧
    Presentation.HolderRejection error := by
  obtain ⟨-, -, hother, -, hinvalid⟩ := membership_run
  obtain ⟨shown, hpresent, -, hsignature, hpayload⟩ := membership_shown
  have honly : ∀ (key : ResolvedKey) (signed : List UInt8),
      memberResolver.resolve shown.holderSignature.keyUri = .ok key →
      memberSigner.sign signed = .ok shown.holderSignature.bytes →
      shown.holderSignature.OnlyFor key.publicKey signed
        ((shown.rechallenged "other").signedTexts "other") := by
    intro key signed hkey _ t ht hverify
    rw [hsignature, memberResolver_resolves] at hkey
    have hpublic : key.publicKey = generatorKey := by rw [← Except.ok.inj hkey, memberKey]
    have htext := Except.ok.inj
      ((hpayload "other").symm.trans (Presentation.mem_signedTexts.mp ht))
    rw [hsignature, hpublic, ← htext] at hverify
    exact absurd hverify hinvalid
  have hkept : (shown.rechallenged "other").holderSignature = shown.holderSignature := rfl
  obtain ⟨error, herror, hrejection⟩ := replayed_signature_rejected (e := ⟨"other", none, false⟩)
    hpresent hkept hother honly
  exact ⟨shown, error, hpresent, hother, herror, hrejection⟩

theorem equivalent_challenge_replayed :
    ¬∀ (d : Document) (p : Protocol) (names : List String) (holder : Signer) (challenge : String)
      (source : NonceSource) (shown replayed : Presentation) (e : Expectations) (resolver : Resolver)
      (timeout : Nat), d.present p names holder challenge source = .ok shown →
      replayed.holderSignature = shown.holderSignature → e.challenge ≠ challenge →
      (∀ key signed, resolver.resolve shown.holderSignature.keyUri = .ok key →
        holder.sign signed = .ok shown.holderSignature.bytes →
        shown.holderSignature.OnlyFor key.publicKey signed (replayed.signedTexts e.challenge)) →
      ∃ error, replayed.proveHolderSignature resolver timeout e = .error error ∧
        Presentation.HolderRejection error := by
  intro h
  obtain ⟨-, hequal, -, hvalid, -⟩ := membership_run
  obtain ⟨shown, hpresent, hheader, hsignature, hpayload⟩ := membership_shown
  have htext : membershipPayload "e\u0301" = membershipPayload "\u00e9" :=
    (holderPayload_eq_iff (membershipPayload_ok _) (membershipPayload_ok _)).mpr ⟨hequal, rfl, rfl⟩
  have hreplayed := hpayload "e\u0301"
  rw [htext] at hreplayed
  have honly : ∀ (key : ResolvedKey) (signed : List UInt8),
      memberResolver.resolve shown.holderSignature.keyUri = .ok key →
      memberSigner.sign signed = .ok shown.holderSignature.bytes →
      shown.holderSignature.OnlyFor key.publicKey signed
        ((shown.rechallenged "e\u0301").signedTexts "e\u0301") := by
    intro key signed _ hsigned t ht _
    rw [(memberSigner_sign hsigned).1,
      Except.ok.inj ((Presentation.mem_signedTexts.mp ht).symm.trans hreplayed)]
  have hkept : (shown.rechallenged "e\u0301").holderSignature = shown.holderSignature := rfl
  have hdistinct : "e\u0301" ≠ "\u00e9" := by decide
  obtain ⟨error, herror, -⟩ := h namedMember .standard ["member"] memberSigner "\u00e9" sampleSource
    shown (shown.rechallenged "e\u0301") ⟨"e\u0301", none, false⟩ memberResolver 0 hpresent hkept
    hdistinct honly
  have hpasses : (shown.rechallenged "e\u0301").proveHolderSignature memberResolver 0
      ⟨"e\u0301", none, false⟩ = .ok () := by
    have hresolve : memberResolver.resolve (shown.rechallenged "e\u0301").holderSignature.keyUri =
        .ok memberKey := by
      rw [hkept, hsignature, memberResolver_resolves]
    have hpurpose : Relationship.authentication ∈ memberKey.purposes := List.mem_singleton_self _
    have hcontroller : memberKey.controller =
        (shown.rechallenged "e\u0301").header.terms.holder := by
      rw [memberKey, Presentation.rechallenged, hheader]
    rw [← hsignature, ← hkept] at hvalid
    exact Presentation.proveHolderSignature_ok_iff.mpr ⟨rfl, memberKey,
      Resolver.resolveWithin_ok_iff.mpr ⟨Nat.le_refl 0, hresolve⟩, hpurpose, hcontroller,
      _, hreplayed, hvalid⟩
  rw [hpasses] at herror
  cases herror

end SelectiveDisclosure
