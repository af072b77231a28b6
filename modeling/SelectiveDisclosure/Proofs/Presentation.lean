import SelectiveDisclosure.Proofs.Registry
import SelectiveDisclosure.Proofs.Request

namespace SelectiveDisclosure

structure Presented (d : Document) (p : Protocol) (names : List String) (signer : Signer)
    (challenge : String) (cs : List (Statement × HashedStatement)) (shown : Presentation) : Prop where
  holder : signer.keyUri.did = d.header.terms.holder
  requested : requestedNames names ≠ []
  committed : Committed d p cs
  known : ∀ n ∈ requestedNames names, ∃ c ∈ cs, c.1.name = n
  header : shown.header = d.header
  disclosed : shown.disclosed =
    (cs.filter fun c => (requestedNames names).contains c.1.name).map disclose
  nonces : shown.nonces = d.nonces.restrictedTo shown.digests
  bound : shown.challenge = challenge
  keyUri : shown.holderSignature.keyUri = signer.keyUri
  signed : ∃ payload, holderPayload challenge shown.digests d.header.documentHash = .ok payload ∧
    signer.sign (utf8 payload) = .ok shown.holderSignature.bytes

theorem presented_of_present {d : Document} {p : Protocol} {names : List String} {signer : Signer}
    {challenge : String} {source : NonceSource} {shown : Presentation}
    (h : d.present p names signer challenge source = .ok shown) :
    ∃ cs, d.committedStatements p source = .ok cs ∧
      Presented d p names signer challenge cs shown := by
  obtain ⟨cs, bytes, hcs, hanswer, rfl⟩ := present_ok_iff.mp h
  obtain ⟨payload, hpayload, hsigned⟩ := hanswer.signed
  have hdigests := digests_showing d names challenge cs ⟨signer.keyUri, bytes⟩
  have hknown : ∀ n ∈ requestedNames names, ∃ c ∈ cs, c.1.name = n := by
    intro n hn
    obtain ⟨m, hm, rfl⟩ := List.mem_map.mp (mem_requestedNames.mp hn)
    exact hanswer.known m hm
  rw [← hdigests] at hpayload
  refine ⟨cs, hcs, hanswer.holder, ?_, committed_of_committedStatements hcs, hknown, rfl, ?_, ?_,
    rfl, rfl, payload, hpayload, sign_of_signWithin hsigned⟩
  · exact fun hnil => hanswer.requested (requestedNames_isEmpty.mp (hnil ▸ rfl))
  · rw [filter_requestedNames]
    rfl
  · rw [hdigests]
    rfl

theorem presented_of_issued {d : Document} {p : Protocol} {issuer signer : Signer}
    {cs : List (Statement × HashedStatement)} (hd : Issued d p issuer cs) {names : List String}
    {challenge : String} {source : NonceSource} {shown : Presentation}
    (h : d.present p names signer challenge source = .ok shown) :
    Presented d p names signer challenge cs shown := by
  obtain ⟨cs', hcs, hshown⟩ := presented_of_present h
  rw [hd.committed source] at hcs
  rwa [Except.ok.inj hcs]

section

variable {d : Document} {p : Protocol} {names : List String} {signer : Signer} {challenge : String}
  {cs : List (Statement × HashedStatement)} {shown : Presentation}
  (h : Presented d p names signer challenge cs shown)

include h

theorem mem_disclosed {s : DisclosedStatement} :
    s ∈ shown.disclosed ↔ ∃ c ∈ cs, c.1.name ∈ requestedNames names ∧ disclose c = s := by
  rw [h.disclosed, List.mem_map]
  simp only [List.mem_filter, List.contains_iff_mem, and_assoc]

theorem disclosed_ne_nil : shown.disclosed ≠ [] := by
  obtain ⟨n, hn⟩ := List.exists_mem_of_ne_nil _ h.requested
  obtain ⟨c, hc, rfl⟩ := h.known n hn
  exact List.ne_nil_of_mem ((mem_disclosed h).mpr ⟨c, hc, hn, rfl⟩)

theorem disclosed_names_nodup : (shown.disclosed.map DisclosedStatement.name).Nodup := by
  have hnames : (cs.map fun c => c.1.name).Nodup := nodup_of_ascending h.committed.ascending
  rw [h.disclosed, List.map_map]
  exact (List.filter_sublist.map _).nodup hnames

theorem opens_disclosed {c : Statement × HashedStatement} (hc : c ∈ cs)
    (hname : c.1.name ∈ requestedNames names) :
    Presentation.Opens p.hasher shown.nonces (disclose c) c.1.encoded c.2.nonce := by
  have hcommits := h.committed.commits c hc
  refine ⟨hcommits.encoded, hcommits.digest_eq, ?_, hcommits.salted_eq⟩
  have hdisclosed : disclose c ∈ shown.disclosed := (mem_disclosed h).mpr ⟨c, hc, hname, rfl⟩
  rw [h.nonces]
  exact get?_restrictedTo (List.mem_map_of_mem hdisclosed) (h.committed.recorded c hc)

theorem presented_proveStatements : shown.proveStatements p.hasher = .ok () := by
  refine Presentation.proveStatements_ok_iff.mpr
    ⟨disclosed_ne_nil h, disclosed_names_nodup h, ?_⟩
  intro s hs
  obtain ⟨c, hc, hname, rfl⟩ := (mem_disclosed h).mp hs
  exact ⟨_, _, opens_disclosed h hc hname⟩

theorem presented_values {n : String} {value : Content} :
    shown.claimed.values.get? n = some value ↔
      n ∈ names.map Text.normalize ∧ ∃ c ∈ cs, c.1.name = n ∧ c.1.value = value := by
  have hkeys : ((shown.disclosed.map fun s => (s.name, s.value)).map Prod.fst).Nodup := by
    rw [List.map_map]
    exact disclosed_names_nodup h
  rw [← mem_requestedNames]
  constructor
  · intro hget
    obtain ⟨s, hs, hpair⟩ := List.mem_map.mp (SortedMap.mem_of_get?_ofList hget)
    obtain ⟨rfl, rfl⟩ := Prod.mk.inj hpair
    obtain ⟨c, hc, hname, rfl⟩ := (mem_disclosed h).mp hs
    exact ⟨hname, c, hc, rfl, rfl⟩
  · rintro ⟨hname, c, hc, rfl, rfl⟩
    refine SortedMap.get?_ofList_of_nodup hkeys ?_
    exact List.mem_map.mpr ⟨disclose c, (mem_disclosed h).mpr ⟨c, hc, hname, rfl⟩, rfl⟩

end

theorem proveDigests_of_checkIntegrity {d : Document} {p : Protocol} {names : List String}
    {signer : Signer} {challenge : String} {cs : List (Statement × HashedStatement)}
    {shown : Presentation} (h : Presented d p names signer challenge cs shown)
    {source later : NonceSource} (hcs : d.committedStatements p source = .ok cs)
    (hcheck : d.checkIntegrity p later = .ok ()) (hdistinct : d.header.terms.contentHashes.Nodup) :
    shown.proveDigests p.hasher = .ok () := by
  obtain ⟨cs', hcs', hcontent, hdocument, hidentifier⟩ := Document.checkIntegrity_ok_iff.mp hcheck
  obtain rfl : cs' = cs :=
    Except.ok.inj (hcs'.symm.trans (committedStatements_of_source hcs later))
  refine Presentation.proveDigests_ok_iff.mpr ?_
  rw [h.header]
  have hcommitted : ∀ s ∈ shown.disclosed, s.saltedHash ∈ d.header.terms.contentHashes := by
    intro s hs
    obtain ⟨c, hc, -, rfl⟩ := (mem_disclosed h).mp hs
    rw [hcontent, mem_sortHashes]
    exact List.mem_map_of_mem hc
  exact ⟨hdistinct, hcommitted, hdocument, hidentifier⟩

def Signer.SignsFor (s : Signer) (key : PublicKey) : Prop :=
  ∀ payload bytes, s.sign payload = .ok bytes → Ecdsa.verify key payload bytes = .ok ()

section

variable {d : Document} {p : Protocol} {names : List String} {issuer holder : Signer}
  {challenge : String} {cs : List (Statement × HashedStatement)} {shown : Presentation}
  (hd : Issued d p issuer cs) (h : Presented d p names holder challenge cs shown)

include hd h

theorem presented_proveDigests (hdistinct : d.header.terms.contentHashes.Nodup) :
    shown.proveDigests p.hasher = .ok () :=
  proveDigests_of_checkIntegrity h (hd.committed fun _ _ => "") (hd.checkIntegrity fun _ _ => "")
    hdistinct

variable {calls : List Registry.Call} {delay : Nat} (hdelay : delay ≤ p.resolveTimeout.toNat)
  {key : ResolvedKey} {e : Expectations}

include hdelay

omit hd h in
theorem resolveWithin_after {u : KeyUri} (hkey : (Registry.after calls).resolve u = .ok key) :
    Resolver.resolveWithin ⟨delay, (Registry.after calls).resolve⟩ p.resolveTimeout.toNat u =
        .ok key ∧ key.controller = u.did := by
  obtain ⟨_, _, hvouched⟩ := Registry.vouched_of_resolve hkey
  exact ⟨Resolver.resolveWithin_ok_iff.mpr ⟨hdelay, hkey⟩, hvouched.controller⟩

theorem presented_proveIssuerSignature
    (hkey : (Registry.after calls).resolve issuer.keyUri = .ok key)
    (hpurpose : .assertionMethod ∈ key.purposes) (hsigns : issuer.SignsFor key.publicKey)
    (hexpected : ∀ expected ∈ e.issuer, expected = d.header.terms.issuer) :
    shown.proveIssuerSignature ⟨delay, (Registry.after calls).resolve⟩ p.resolveTimeout.toNat e =
      .ok () := by
  obtain ⟨hresolve, hcontroller⟩ := resolveWithin_after hdelay hkey
  have hmatches : ∀ expected ∈ e.issuer, key.controller = expected := by
    intro expected hmem
    rw [hexpected expected hmem, hd.issuer, hcontroller]
  refine Presentation.proveIssuerSignature_ok_iff.mpr ⟨key, ?_⟩
  rw [h.header, hd.keyUri, hd.issuer]
  exact ⟨hresolve, hpurpose, hcontroller, hmatches, hsigns _ _ hd.signature⟩

omit hd in
theorem presented_proveHolderSignature
    (hkey : (Registry.after calls).resolve holder.keyUri = .ok key)
    (hpurpose : .authentication ∈ key.purposes) (hsigns : holder.SignsFor key.publicKey)
    (hchallenge : e.challenge = challenge) :
    shown.proveHolderSignature ⟨delay, (Registry.after calls).resolve⟩ p.resolveTimeout.toNat e =
      .ok () := by
  obtain ⟨hresolve, hcontroller⟩ := resolveWithin_after hdelay hkey
  obtain ⟨payload, hpayload, hsigned⟩ := h.signed
  have hbound : shown.payload e.challenge = .ok payload := by
    rw [Presentation.payload, h.header, hchallenge]
    exact hpayload
  refine Presentation.proveHolderSignature_ok_iff.mpr ⟨h.bound.trans hchallenge.symm, key, ?_⟩
  rw [h.keyUri, h.header, ← h.holder]
  exact ⟨hresolve, hpurpose, hcontroller, payload, hbound, hsigns _ _ hsigned⟩

theorem passes_of_presented {now : Instant} (hdistinct : d.header.terms.contentHashes.Nodup)
    {issuerKey holderKey : ResolvedKey}
    (hissuer : (Registry.after calls).resolve issuer.keyUri = .ok issuerKey)
    (hassertion : .assertionMethod ∈ issuerKey.purposes)
    (hissued : issuer.SignsFor issuerKey.publicKey)
    (hholder : (Registry.after calls).resolve holder.keyUri = .ok holderKey)
    (hauthentication : .authentication ∈ holderKey.purposes)
    (hheld : holder.SignsFor holderKey.publicKey) (hchallenge : e.challenge = challenge)
    (hexpected : ∀ expected ∈ e.issuer, expected = d.header.terms.issuer)
    (hcreated : d.header.terms.createdAt.notAfter now = true)
    (hlimit : ∀ limit ∈ d.header.terms.validUntil, now.before limit = true) :
    shown.Passes p ⟨delay, (Registry.after calls).resolve⟩ e now where
  statements := presented_proveStatements h
  digests := presented_proveDigests hd h hdistinct
  issuerSignature := presented_proveIssuerSignature hd h hdelay hissuer hassertion hissued hexpected
  holderSignature := presented_proveHolderSignature h hdelay hholder hauthentication hheld hchallenge
  validity _ := by
    refine Presentation.proveValidity_of_window ?_ ?_ ?_
    · rwa [h.header]
    · rwa [h.header]
    · rw [h.header]
      exact hd.validUntil

end

def sampleApplication : Application where
  content := .object [("re\u0301sume\u0301", .array [.string "A", .bool true])]
  holder := some ⟨doubledKey⟩
  evidenceIds := []
  authorization := none
  registry := none
  createdAt := some (.whole 1000)
  validUntil := some (.whole 2000)
  metadata := default

def sampleSource : NonceSource := fun drawn _ => uuidText drawn

def signerOf (keyUri : KeyUri) (key : PublicKey) (signature : List UInt8) : Signer where
  keyUri := keyUri
  delay := 0
  sign payload := match Ecdsa.verify key payload signature with
    | .ok _ => .ok signature
    | .error e => .error (.unavailable e.message)

def sampleIssuer : Signer :=
  signerOf ⟨⟨generatorKey⟩, "key"⟩ generatorKey
    (bigEndianBytes 32 0x33190c8e610894399e61a65d5f01a031b82700648350fe823c20560ea0a08a0c ++
      bigEndianBytes 32 0x24d7dd4f8bcee403198b836c9bfbea4c90f81ca15cde55d7cd0eeedd793ea452)

def sampleHolder : Signer :=
  signerOf ⟨⟨doubledKey⟩, "authentication"⟩ doubledKey
    (bigEndianBytes 32 0xa0f99148c37c35f21e232d12440abb8d8a1bec8d33c0b18e56cc5fbbb4b1165e ++
      bigEndianBytes 32 0x2c714ea6da7e294bd9c826f974ce847d03fc66543091549b53298e6caf991fa3)

theorem signsFor_signerOf (keyUri : KeyUri) (key : PublicKey) (signature : List UInt8) :
    (signerOf keyUri key signature).SignsFor key := by
  intro payload bytes h
  rw [signerOf] at h
  dsimp only at h
  split at h
  · rename_i hverify
    rw [← Except.ok.inj h]
    exact hverify
  · exact absurd h nofun

def sampleCalls : List Registry.Call := [.register (twoKeyDocument generatorKey generatorKey)]

def sampleResolver : Resolver := ⟨0, (Registry.after sampleCalls).resolve⟩

def sampleTime : Instant := .whole 1500

def sampleExpectations : Expectations := ⟨"challenge", some ⟨generatorKey⟩, true⟩

theorem sample_run : ∃ d shown,
    sampleApplication.issue .standard sampleIssuer default sampleSource = .ok d ∧
    d.present .standard ["r\u00e9sum\u00e9"] sampleHolder "challenge" sampleSource = .ok shown ∧
    d.header.terms.contentHashes.Nodup ∧ d.header.terms.createdAt.notAfter sampleTime = true ∧
    (∀ limit ∈ d.header.terms.validUntil, sampleTime.before limit = true) ∧
    d.header.terms.issuer = ⟨generatorKey⟩ := by
  have hrun : yields (sampleApplication.issue .standard sampleIssuer default sampleSource) (fun d =>
      yields (d.present .standard ["r\u00e9sum\u00e9"] sampleHolder "challenge" sampleSource)
        fun _ => decide (d.header.terms.contentHashes.Nodup ∧
          d.header.terms.createdAt.notAfter sampleTime = true ∧
          (∀ limit ∈ d.header.terms.validUntil, sampleTime.before limit = true) ∧
          d.header.terms.issuer = ⟨generatorKey⟩)) = true := by
    decide +kernel
  obtain ⟨d, hissue, hrun⟩ := yields_iff.mp hrun
  obtain ⟨shown, hpresent, hrun⟩ := yields_iff.mp hrun
  exact ⟨d, shown, hissue, hpresent, of_decide_eq_true hrun⟩

theorem sampleIssuer_resolves : (Registry.after sampleCalls).resolve sampleIssuer.keyUri =
    .ok ⟨sampleIssuer.keyUri, ⟨generatorKey⟩, generatorKey, [.authentication, .assertionMethod]⟩ :=
  rfl

theorem sampleHolder_resolves : (Registry.after sampleCalls).resolve sampleHolder.keyUri =
    .ok ⟨sampleHolder.keyUri, ⟨doubledKey⟩, doubledKey, [.authentication]⟩ :=
  rfl

theorem sample_passes : ∃ d shown,
    sampleApplication.issue .standard sampleIssuer default sampleSource = .ok d ∧
    d.present .standard ["r\u00e9sum\u00e9"] sampleHolder "challenge" sampleSource = .ok shown ∧
    shown.header = d.header ∧
    shown.Passes .standard sampleResolver sampleExpectations sampleTime := by
  obtain ⟨d, shown, hissue, hpresent, hdistinct, hcreated, hlimit, hissuer⟩ := sample_run
  obtain ⟨cs, hd⟩ := issued_of_issue hissue
  have h := presented_of_issued hd hpresent
  have hexpected : ∀ expected ∈ sampleExpectations.issuer, expected = d.header.terms.issuer := by
    rintro expected ⟨⟩
    exact hissuer.symm
  refine ⟨d, shown, hissue, hpresent, h.header, ?_⟩
  exact passes_of_presented hd h (Nat.zero_le _) hdistinct sampleIssuer_resolves (by decide)
    (signsFor_signerOf _ _ _) sampleHolder_resolves (by decide) (signsFor_signerOf _ _ _) rfl
    hexpected hcreated hlimit

theorem presented_as_requested (d : Document) (p : Protocol) (names : List String) (signer : Signer)
    (challenge : String) (source : NonceSource) :
    ((∃ shown, d.present p names signer challenge source = .ok shown) ↔
      ∃ cs bytes, d.committedStatements p source = .ok cs ∧
        Answerable d p names signer challenge cs bytes) ∧
    (∀ shown, d.present p names signer challenge source = .ok shown →
      ∃ cs, d.committedStatements p source = .ok cs ∧ Shows d names challenge cs shown) ∧
    (∀ others, (∀ n, n ∈ names.map Text.normalize ↔ n ∈ others.map Text.normalize) →
      d.present p others signer challenge source = d.present p names signer challenge source) ∧
    ∀ e, d.present p names signer challenge source = .error e ↔
      Refused d p names signer challenge source e := by
  refine ⟨?_, ?_, ?_, fun _ => present_error_iff⟩
  · constructor
    · rintro ⟨shown, h⟩
      obtain ⟨cs, bytes, hcs, hanswer, -⟩ := present_ok_iff.mp h
      exact ⟨cs, bytes, hcs, hanswer⟩
    · rintro ⟨cs, bytes, hcs, hanswer⟩
      exact ⟨_, present_of_answerable hcs hanswer⟩
  · intro shown h
    obtain ⟨cs, bytes, hcs, -, rfl⟩ := present_ok_iff.mp h
    exact ⟨cs, hcs, shows_showing (committed_of_committedStatements hcs) _ _ _⟩
  · intro others h
    exact present_congr h d p signer challenge source

theorem resume_presented_as_requested : ∃ d shown cs,
    sampleApplication.issue .standard sampleIssuer default sampleSource = .ok d ∧
    d.present .standard ["re\u0301sume\u0301", "r\u00e9sum\u00e9"] sampleHolder "challenge"
      sampleSource = .ok shown ∧
    d.committedStatements .standard sampleSource = .ok cs ∧
    Shows d ["r\u00e9sum\u00e9"] "challenge" cs shown := by
  obtain ⟨d, shown, hissue, hpresent, -⟩ := sample_run
  obtain ⟨-, hshows, hsame, -⟩ := presented_as_requested d .standard ["r\u00e9sum\u00e9"] sampleHolder
    "challenge" sampleSource
  obtain ⟨cs, hcs, hshown⟩ := hshows shown hpresent
  have hnames : Text.normalize "re\u0301sume\u0301" = Text.normalize "r\u00e9sum\u00e9" := by
    decide +kernel
  refine ⟨d, shown, cs, hissue, (hsame _ fun n => ?_).trans hpresent, hcs, hshown⟩
  simp [hnames]

end SelectiveDisclosure
