import SelectiveDisclosure.Proofs.Presentation
import SelectiveDisclosure.Proofs.Terms

namespace SelectiveDisclosure

namespace Presentation

def arranged (p : Presentation) (hashes : List Hash) (disclosed : List DisclosedStatement) :
    Presentation :=
  { p with header.terms.contentHashes := hashes, disclosed := disclosed }

section

variable {p : Presentation} {hashes : List Hash} {disclosed : List DisclosedStatement}
  (hhashes : hashes.Perm p.header.terms.contentHashes) (hdisclosed : disclosed.Perm p.disclosed)

include hhashes in
theorem arranged_agrees : (p.arranged hashes disclosed).header.terms.Agrees p.header.terms where
  contentHashes := hhashes
  issuer := rfl
  holder := rfl
  evidenceIds := rfl
  authorization := rfl
  registry := rfl
  createdAt := rfl
  validUntil := rfl

include hdisclosed

theorem proveStatements_arranged {hasher : Hasher} (h : p.proveStatements hasher = .ok ()) :
    (p.arranged hashes disclosed).proveStatements hasher = .ok () := by
  obtain ⟨hsome, hnames, hopens⟩ := proveStatements_ok_iff.mp h
  refine proveStatements_ok_iff.mpr ⟨?_, ?_, ?_⟩
  · intro hnil
    exact hsome (List.Perm.nil_eq (hnil ▸ hdisclosed)).symm
  · exact (hdisclosed.map DisclosedStatement.name).nodup_iff.mpr hnames
  · intro s hs
    exact hopens s (hdisclosed.mem_iff.mp hs)

theorem payload_arranged {challenge : String} {payload : String}
    (h : p.payload challenge = .ok payload) :
    (p.arranged hashes disclosed).payload challenge = .ok payload := by
  have hdigests : sortHashes (p.arranged hashes disclosed).digests = sortHashes p.digests :=
    sortHashes_eq_iff.mpr (hdisclosed.map DisclosedStatement.digest)
  rw [← h, Presentation.payload, Presentation.payload, holderPayload, holderPayload, hashTexts,
    hashTexts, hdigests]
  rfl

theorem proveHolderSignature_arranged {resolver : Resolver} {timeout : Nat} {e : Expectations}
    (h : p.proveHolderSignature resolver timeout e = .ok ()) :
    (p.arranged hashes disclosed).proveHolderSignature resolver timeout e = .ok () := by
  obtain ⟨hchallenge, key, hkey, hpurpose, hcontroller, payload, hpayload, hverify⟩ :=
    proveHolderSignature_ok_iff.mp h
  exact proveHolderSignature_ok_iff.mpr ⟨hchallenge, key, hkey, hpurpose, hcontroller, payload,
    payload_arranged hdisclosed hpayload, hverify⟩

theorem claimed_arranged (hnames : (p.disclosed.map DisclosedStatement.name).Nodup) :
    (p.arranged hashes disclosed).claimed = p.claimed := by
  have hkeys : ((disclosed.map fun s => (s.name, s.value)).map Prod.fst).Nodup := by
    rw [List.map_map]
    exact (hdisclosed.map DisclosedStatement.name).nodup_iff.mpr hnames
  have hvalues := SortedMap.ofList_eq_of_perm hkeys (hdisclosed.map fun s => (s.name, s.value))
  exact congrArg (VerifiedPresentation.mk p.header.identifier p.header.terms.issuer
    p.header.terms.holder) hvalues

include hhashes

theorem proveDigests_arranged {hasher : Hasher} (h : p.proveDigests hasher = .ok ()) :
    (p.arranged hashes disclosed).proveDigests hasher = .ok () := by
  obtain ⟨hnodup, hcommitted, hdocument, hidentifier⟩ := proveDigests_ok_iff.mp h
  refine proveDigests_ok_iff.mpr ⟨hhashes.nodup_iff.mpr hnodup, ?_,
    (Terms.documentHash_eq_of_agrees (arranged_agrees hhashes) hasher).trans hdocument, hidentifier⟩
  intro s hs
  exact hhashes.mem_iff.mpr (hcommitted s (hdisclosed.mem_iff.mp hs))

theorem Passes.arranged {q : Protocol} {resolver : Resolver} {e : Expectations} {now : Instant}
    (h : p.Passes q resolver e now) : (p.arranged hashes disclosed).Passes q resolver e now where
  statements := proveStatements_arranged hdisclosed h.statements
  digests := proveDigests_arranged hhashes hdisclosed h.digests
  issuerSignature := h.issuerSignature
  holderSignature := proveHolderSignature_arranged hdisclosed h.holderSignature
  validity := h.validity

theorem result_arranged {q : Protocol} {resolver : Resolver} {e : Expectations} {now : Instant}
    {v : VerifiedPresentation} (h : (p.verify q resolver e now).result = .ok v) :
    ((p.arranged hashes disclosed).verify q resolver e now).result = .ok v := by
  obtain ⟨hpasses, rfl⟩ := verify_result_ok_iff.mp h
  obtain ⟨-, hnames, -⟩ := proveStatements_ok_iff.mp hpasses.statements
  exact verify_result_ok_iff.mpr
    ⟨hpasses.arranged hhashes hdisclosed, (claimed_arranged hdisclosed hnames).symm⟩

end

theorem verify_arranged {p : Presentation} {hashes : List Hash} {disclosed : List DisclosedStatement}
    (hhashes : hashes.Perm p.header.terms.contentHashes) (hdisclosed : disclosed.Perm p.disclosed)
    (q : Protocol) (resolver : Resolver) (e : Expectations) (now : Instant) :
    ((p.arranged hashes disclosed).verify q resolver e now).isVerified =
        (p.verify q resolver e now).isVerified ∧
      ∀ v, ((p.arranged hashes disclosed).verify q resolver e now).result = .ok v ↔
        (p.verify q resolver e now).result = .ok v := by
  have hresult : ∀ v, ((p.arranged hashes disclosed).verify q resolver e now).result = .ok v ↔
      (p.verify q resolver e now).result = .ok v := by
    intro v
    -- the old order is itself an arrangement of the new one
    exact ⟨result_arranged (p := p.arranged hashes disclosed) hhashes.symm hdisclosed.symm,
      result_arranged hhashes hdisclosed⟩
  refine ⟨Bool.eq_iff_iff.mpr ?_, hresult⟩
  rw [VerificationReport.isVerified_iff, VerificationReport.isVerified_iff]
  exact exists_congr hresult

end Presentation

def memberStatement : DisclosedStatement where
  name := "member"
  value := .bool true
  digest := Octets.ofNat 32 0x5e65698181e5f62a97bd584f49e5190f1015eea233c841e325c2f117f22db00c
  saltedHash := Octets.ofNat 32 0xf9d83ed564dddc0e83f22a30562fe5f6df6ceef45095deb9a42a65200340fde4

def nameStatement : DisclosedStatement where
  name := "name"
  value := .string "Ann"
  digest := Octets.ofNat 32 0xfb782b5cf1b735bfe202a30415a038c4ed123eed33e98f6d40211a8955e63203
  saltedHash := Octets.ofNat 32 0x463379d8d02d32499b0b129d3eb6873e0330aecf12323785ed575260e24142ea

def pairTerms : Terms where
  contentHashes := [nameStatement.saltedHash, memberStatement.saltedHash]
  issuer := ⟨generatorKey⟩
  holder := ⟨generatorKey⟩
  evidenceIds := []
  authorization := none
  registry := none
  createdAt := sampleApplication.createdAt.getD sampleTime
  validUntil := sampleApplication.validUntil

def pairHash : Hash :=
  Octets.ofNat 32 0xff7923d7fed4b155af6869623406b31f93bfea59d0ba8ead7cb431861b5adca2

def pairPresentation : Presentation where
  header :=
    ⟨⟨pairHash⟩, pairTerms, pairHash, ⟨sampleIssuer.keyUri,
      bigEndianBytes 32 0xb4ffc805fd064b2b0bf48fe7398318a5e28c046308734487746dce4590affec1 ++
        bigEndianBytes 32 0x5a27a185dde2f9cba278bbd4d0331cbcc0fda1193f389d0fca2cbbf5306736d7⟩,
      default⟩
  disclosed := [memberStatement, nameStatement]
  nonces := nonceMapOf
    [⟨"", memberStatement.digest, uuidText 0, memberStatement.saltedHash⟩,
      ⟨"", nameStatement.digest, uuidText 1, nameStatement.saltedHash⟩]
  challenge := "challenge"
  holderSignature :=
    ⟨sampleIssuer.keyUri,
      bigEndianBytes 32 0x748d33c511c54456a6809594b37a84a4dfecee670beea4e6cad46f69946ed40d ++
        bigEndianBytes 32 0x25fb21ae5f06079196ca5a658fdd4486f3d2515d70f0188fb7d10a509a78f4eb⟩

theorem pair_passes :
    pairPresentation.Passes .standard sampleResolver sampleExpectations sampleTime := by
  have hhashes : sortHashes pairTerms.contentHashes =
      [nameStatement.saltedHash, memberStatement.saltedHash] := sortHashes_of_pairwise (by decide)
  have hdigests : sortHashes pairPresentation.digests =
      [memberStatement.digest, nameStatement.digest] := sortHashes_of_pairwise (by decide)
  have hrun : pairPresentation.proveStatements Protocol.standard.hasher = .ok () ∧
      pairTerms.documentHash Protocol.standard.hasher = .ok pairHash ∧
      pairPresentation.header.issuerSignature.verify pairHash.toList generatorKey = .ok () ∧
      yields (pairPresentation.payload "challenge") (fun payload =>
        decide (pairPresentation.holderSignature.verify (utf8 payload) generatorKey = .ok ())) =
          true := by
    rw [Presentation.payload, holderPayload, Terms.documentHash, Terms.payload, hashTexts, hashTexts,
      hhashes, hdigests]
    decide +kernel
  obtain ⟨hstatements, hdocument, hissuer, hholder⟩ := hrun
  obtain ⟨payload, hpayload, hholder⟩ := yields_iff.mp hholder
  have hresolve : sampleResolver.resolveWithin 10000 sampleIssuer.keyUri = .ok _ :=
    Resolver.resolveWithin_ok_iff.mpr ⟨Nat.zero_le _, sampleIssuer_resolves⟩
  have hexpected : ∀ expected ∈ sampleExpectations.issuer, (⟨generatorKey⟩ : Did) = expected := by
    rintro expected ⟨⟩
    rfl
  have hdigests : pairPresentation.proveDigests Protocol.standard.hasher = .ok () :=
    Presentation.proveDigests_ok_iff.mpr ⟨by decide, by decide, hdocument, rfl⟩
  exact ⟨hstatements, hdigests,
    Presentation.proveIssuerSignature_ok_iff.mpr
      ⟨_, hresolve, by decide, rfl, hexpected, hissuer⟩,
    Presentation.proveHolderSignature_ok_iff.mpr
      ⟨rfl, _, hresolve, by decide, rfl, payload, hpayload, of_decide_eq_true hholder⟩,
    fun _ => rfl⟩

theorem pair_reversed_verifies :
    pairPresentation.header.terms.contentHashes.reverse.Perm
        pairPresentation.header.terms.contentHashes ∧
      pairPresentation.header.terms.contentHashes.reverse ≠
        pairPresentation.header.terms.contentHashes ∧
      [nameStatement, memberStatement].Perm pairPresentation.disclosed ∧
      ∃ v, (pairPresentation.verify .standard sampleResolver sampleExpectations sampleTime).result =
          .ok v ∧
        ((pairPresentation.arranged pairPresentation.header.terms.contentHashes.reverse
          [nameStatement, memberStatement]).verify .standard sampleResolver sampleExpectations
            sampleTime).result = .ok v := by
  have hdisclosed : [nameStatement, memberStatement].Perm pairPresentation.disclosed :=
    List.Perm.swap memberStatement nameStatement []
  have hresult := Presentation.verify_result_ok_iff.mpr ⟨pair_passes, rfl⟩
  obtain ⟨-, hsame⟩ := Presentation.verify_arranged (List.reverse_perm _) hdisclosed .standard
    sampleResolver sampleExpectations sampleTime
  exact ⟨List.reverse_perm _, by decide, hdisclosed, _, hresult, (hsame _).mpr hresult⟩

end SelectiveDisclosure
