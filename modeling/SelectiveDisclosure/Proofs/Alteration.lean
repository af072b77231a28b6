import SelectiveDisclosure.Proofs.Arrangement
import SelectiveDisclosure.Proofs.Failures
import SelectiveDisclosure.Proofs.Soundness

namespace SelectiveDisclosure

namespace Presentation

-- All that the proofs of the signatures and of the window read.
structure SameFrame (p t : Presentation) : Prop where
  issuer : t.header.terms.issuer = p.header.terms.issuer
  holder : t.header.terms.holder = p.header.terms.holder
  createdAt : t.header.terms.createdAt = p.header.terms.createdAt
  validUntil : t.header.terms.validUntil = p.header.terms.validUntil
  documentHash : t.header.documentHash = p.header.documentHash
  issuerSignature : t.header.issuerSignature = p.header.issuerSignature
  digests : t.digests = p.digests
  challenge : t.challenge = p.challenge
  holderSignature : t.holderSignature = p.holderSignature

section

variable {p t : Presentation} (h : p.SameFrame t)

include h

theorem SameFrame.proveIssuerSignature (resolver : Resolver) (timeout : Nat) (e : Expectations) :
    t.proveIssuerSignature resolver timeout e = p.proveIssuerSignature resolver timeout e := by
  rw [Presentation.proveIssuerSignature, Presentation.proveIssuerSignature, h.issuerSignature,
    h.issuer, h.documentHash]

theorem SameFrame.proveHolderSignature (resolver : Resolver) (timeout : Nat) (e : Expectations) :
    t.proveHolderSignature resolver timeout e = p.proveHolderSignature resolver timeout e := by
  rw [Presentation.proveHolderSignature, Presentation.proveHolderSignature, payload, payload,
    h.challenge, h.holderSignature, h.holder, h.digests, h.documentHash]

theorem SameFrame.proveValidity (now : Instant) : t.proveValidity now = p.proveValidity now := by
  rw [Presentation.proveValidity, Presentation.proveValidity, h.createdAt, h.validUntil]

theorem SameFrame.failures {q : Protocol} {resolver : Resolver} {e : Expectations} {now : Instant}
    (hpasses : p.Passes q resolver e now) : (t.verify q resolver e now).failures =
      ProofOutcome.failed ⟨.statement, t.proveStatements q.hasher⟩ ++
        ProofOutcome.failed ⟨.digest, t.proveDigests q.hasher⟩ := by
  have hissuer := (h.proveIssuerSignature ..).trans hpasses.issuerSignature
  have hholder := (h.proveHolderSignature ..).trans hpasses.holderSignature
  have hvalidity : e.checkValidity = true → t.proveValidity now = .ok () :=
    fun hcheck => (h.proveValidity now).trans (hpasses.validity hcheck)
  rw [failures_eq_flatMap, verify]
  cases hcheck : e.checkValidity with
  | false =>
    simp only [Bool.false_eq_true, if_false, List.flatMap_cons, List.flatMap_nil, List.append_nil,
      failed_of_passed hissuer, failed_of_passed hholder]
  | true =>
    simp only [if_true, List.cons_append, List.nil_append, List.flatMap_cons, List.flatMap_nil,
      List.append_nil, failed_of_passed hissuer, failed_of_passed hholder,
      failed_of_passed (hvalidity hcheck)]

end

section

variable {hasher : Hasher} {nonces : NonceMap} {s t : DisclosedStatement} {text salt : String}

theorem proveStatement_of_not_encoded {cause : ContentError}
    (h : encodeStatement s.name s.value = .error cause) :
    proveStatement hasher nonces s = .error .encoding := by
  rw [proveStatement, h]
  rfl

theorem proveStatement_of_digest_ne (h : encodeStatement s.name s.value = .ok text)
    (hne : hasher text none ≠ s.digest) : proveStatement hasher nonces s = .error .digestMismatch := by
  rw [proveStatement, h]
  exact throw_error_iff.mpr (.inl ⟨hne, rfl⟩)

theorem proveStatement_of_saltedHash_ne (h : encodeStatement s.name s.value = .ok text)
    (hdigest : hasher text none = s.digest) (hnonce : nonces.get? s.digest = some salt)
    (hne : saltedHash hasher s.digest salt ≠ s.saltedHash) :
    proveStatement hasher nonces s = .error .saltedHashMismatch := by
  rw [proveStatement, h]
  refine throw_error_iff.mpr (.inr ⟨not_not_intro hdigest, ?_⟩)
  rw [hnonce]
  exact if_pos hne

-- The statements before the changed one pass as they did, and it is the first to fail.
theorem proveStatementsFrom_altered {front back : List DisclosedStatement} {seen : List String}
    {reason : TamperKind} (h : proveStatementsFrom hasher nonces seen (front ++ s :: back) = .ok ())
    (hname : t.name = s.name) (ht : proveStatement hasher nonces t = .error reason) :
    proveStatementsFrom hasher nonces seen (front ++ t :: back) =
      .error (.statementTampered s.name reason) := by
  induction front generalizing seen with
  | nil =>
    obtain ⟨hseen, -⟩ := bind_unit_ok_iff.mp h
    rw [List.nil_append, proveStatementsFrom, hname, hseen, ht]
    rfl
  | cons u front ih =>
    obtain ⟨hseen, h⟩ := bind_unit_ok_iff.mp h
    obtain ⟨hu, h⟩ := bind_unit_ok_iff.mp h
    rw [List.cons_append, proveStatementsFrom, hseen, hu]
    exact ih h

end

end Presentation

namespace DisclosedStatement

def withValue (s : DisclosedStatement) (value : Content) : DisclosedStatement :=
  { s with value := value }

def withSaltedHash (s : DisclosedStatement) (hash : Hash) : DisclosedStatement :=
  { s with saltedHash := hash }

end DisclosedStatement

namespace Presentation

def disclosing (p : Presentation) (disclosed : List DisclosedStatement) : Presentation :=
  { p with disclosed := disclosed }

section

variable {p : Presentation} {front back : List DisclosedStatement} {s t : DisclosedStatement}
  (hp : p.disclosed = front ++ s :: back)

include hp

theorem sameFrame_disclosing (hdigest : t.digest = s.digest) :
    p.SameFrame (p.disclosing (front ++ t :: back)) where
  issuer := rfl
  holder := rfl
  createdAt := rfl
  validUntil := rfl
  documentHash := rfl
  issuerSignature := rfl
  digests := by
    rw [digests, digests, hp, disclosing, List.map_append, List.map_append, List.map_cons,
      List.map_cons, hdigest]
  challenge := rfl
  holderSignature := rfl

theorem mem_disclosed : s ∈ p.disclosed := by
  rw [hp]
  exact List.mem_append_right _ (List.mem_cons_self ..)

theorem proveStatements_disclosing {hasher : Hasher} (h : p.proveStatements hasher = .ok ())
    (hname : t.name = s.name) {reason : TamperKind}
    (ht : proveStatement hasher p.nonces t = .error reason) :
    (p.disclosing (front ++ t :: back)).proveStatements hasher =
      .error (.statementTampered s.name reason) := by
  obtain ⟨-, h⟩ := bind_unit_ok_iff.mp h
  rw [hp] at h
  have haltered := proveStatementsFrom_altered h hname ht
  have hsome : (front ++ t :: back).isEmpty = false := by simp
  rw [proveStatements, disclosing]
  dsimp only
  rw [hsome, haltered]
  rfl

theorem proveDigests_disclosing {hasher : Hasher} (h : p.proveDigests hasher = .ok ())
    (hsalted : t.saltedHash = s.saltedHash) :
    (p.disclosing (front ++ t :: back)).proveDigests hasher = .ok () := by
  obtain ⟨hnodup, hcommitted, hdocument⟩ := proveDigests_ok_iff.mp h
  refine proveDigests_ok_iff.mpr ⟨hnodup, ?_, hdocument⟩
  rw [hp, List.forall_mem_append, List.forall_mem_cons] at hcommitted
  obtain ⟨hfront, hs, hback⟩ := hcommitted
  exact List.forall_mem_append.mpr ⟨hfront, List.forall_mem_cons.mpr ⟨hsalted ▸ hs, hback⟩⟩

theorem proveDigests_disclosing_error {hasher : Hasher} (h : p.proveDigests hasher = .ok ())
    (ht : t.saltedHash ∉ p.header.terms.contentHashes) :
    (p.disclosing (front ++ t :: back)).proveDigests hasher =
      .error (.digestNotCommitted t.saltedHash) := by
  obtain ⟨hnodup, hcommitted, -⟩ := proveDigests_ok_iff.mp h
  rw [hp] at hcommitted
  have hfront := (List.forall_mem_append.mp hcommitted).1
  exact proveDigests_error_iff.mpr (.statement hnodup rfl hfront ht)

variable {q : Protocol} {resolver : Resolver} {e : Expectations} {now : Instant}
  (hpasses : p.Passes q resolver e now)

include hpasses

theorem failures_withValue {value : Content} {reason : TamperKind}
    (h : proveStatement q.hasher p.nonces (s.withValue value) = .error reason) :
    ((p.disclosing (front ++ s.withValue value :: back)).verify q resolver e now).failures =
      [(.statement, .statementTampered s.name reason)] := by
  have hframe := sameFrame_disclosing (t := s.withValue value) hp rfl
  have hstatements := proveStatements_disclosing hp hpasses.statements (t := s.withValue value) rfl h
  have hdigests := proveDigests_disclosing hp hpasses.digests (t := s.withValue value) rfl
  rw [hframe.failures hpasses, failed_of_error hstatements, failed_of_passed hdigests,
    List.append_nil]

theorem failures_withSaltedHash {hash : Hash} (h : hash ∉ p.header.terms.contentHashes) :
    ((p.disclosing (front ++ s.withSaltedHash hash :: back)).verify q resolver e now).failures =
      [(.statement, .statementTampered s.name .saltedHashMismatch),
        (.digest, .digestNotCommitted hash)] := by
  obtain ⟨-, hcommitted, -⟩ := proveDigests_ok_iff.mp hpasses.digests
  obtain ⟨-, -, hopens⟩ := proveStatements_ok_iff.mp hpasses.statements
  obtain ⟨text, salt, hs⟩ := hopens s (mem_disclosed hp)
  have hne : saltedHash q.hasher s.digest salt ≠ hash := by
    rintro rfl
    rw [hs.salted] at h
    exact h (hcommitted s (mem_disclosed hp))
  have hstatement : proveStatement q.hasher p.nonces (s.withSaltedHash hash) =
      .error .saltedHashMismatch :=
    proveStatement_of_saltedHash_ne hs.encoded hs.digest hs.nonce hne
  have hframe := sameFrame_disclosing (t := s.withSaltedHash hash) hp rfl
  have hstatements :=
    proveStatements_disclosing hp hpasses.statements (t := s.withSaltedHash hash) rfl hstatement
  have hdigests := proveDigests_disclosing_error hp hpasses.digests (t := s.withSaltedHash hash) h
  rw [hframe.failures hpasses, failed_of_error hstatements, failed_of_error hdigests,
    List.singleton_append, DisclosedStatement.withSaltedHash]

theorem proveStatement_withValue {value : Content} {text : String}
    (htext : encodeStatement s.name value = .ok text)
    (hother : encodeStatement s.name s.value ≠ .ok text) :
    proveStatement q.hasher p.nonces (s.withValue value) = .error .digestMismatch ∨
      q.hashAlgorithm.Collides
        (p.texts ++ (p.disclosing (front ++ s.withValue value :: back)).texts) := by
  obtain ⟨-, -, hopens⟩ := proveStatements_ok_iff.mp hpasses.statements
  obtain ⟨original, salt, hs⟩ := hopens s (mem_disclosed hp)
  by_cases hdigest : q.hasher text none = s.digest
  · have hmem : text ∈ (p.disclosing (front ++ s.withValue value :: back)).texts := by
      refine subset_texts (List.mem_append_right front (List.mem_cons_self ..)) ?_
      rw [DisclosedStatement.texts, DisclosedStatement.withValue, htext]
      exact List.mem_append_left _ (List.mem_cons_self ..)
    have hne : original ≠ text := by
      rintro rfl
      exact hother hs.encoded
    exact .inr ⟨original, List.mem_append_left _ (subset_texts (mem_disclosed hp) hs.text_mem),
      text, List.mem_append_right _ hmem, hne, hs.digest.trans hdigest.symm⟩
  · exact .inl (proveStatement_of_digest_ne htext hdigest)

end

end Presentation

-- Terms that only the hash of a document commits to.
inductive Terms.Altered (t : Terms) : Terms → Prop
  | contentHashes {hashes : List Hash} (h : ¬hashes.Perm t.contentHashes) :
      Altered t { t with contentHashes := hashes }
  | evidenceIds {ids : List DocumentId} (h : ids ≠ t.evidenceIds) :
      Altered t { t with evidenceIds := ids }
  | authorization {text : Option String}
      (h : Text.normalize (text.getD "") ≠ Text.normalize (t.authorization.getD "")) :
      Altered t { t with authorization := text }
  | registry {text : Option String}
      (h : Text.normalize (text.getD "") ≠ Text.normalize (t.registry.getD "")) :
      Altered t { t with registry := text }

theorem Terms.Altered.not_agrees {s t : Terms} (h : t.Altered s) : ¬s.Agrees t := by
  intro hagrees
  cases h with
  | contentHashes h => exact h hagrees.contentHashes
  | evidenceIds h => exact h hagrees.evidenceIds
  | authorization h => exact h hagrees.authorization
  | registry h => exact h hagrees.registry

namespace Presentation

def onTerms (p : Presentation) (terms : Terms) : Presentation :=
  { p with header.terms := terms }

section

variable {p : Presentation} {terms : Terms}

theorem sameFrame_onTerms (h : p.header.terms.Altered terms) : p.SameFrame (p.onTerms terms) := by
  cases h <;> exact ⟨rfl, rfl, rfl, rfl, rfl, rfl, rfl, rfl, rfl⟩

theorem proveDigests_onTerms {a : HashAlgorithm} (h : p.proveDigests a.hasher = .ok ())
    (hterms : ¬terms.Agrees p.header.terms) :
    (∃ error, (p.onTerms terms).proveDigests a.hasher = .error error) ∨
      a.Collides (p.texts ++ (p.onTerms terms).texts) := by
  obtain ⟨-, -, hdocument, -⟩ := proveDigests_ok_iff.mp h
  cases hresult : (p.onTerms terms).proveDigests a.hasher with
  | error error => exact .inl ⟨error, rfl⟩
  | ok _ =>
    obtain ⟨-, -, hchanged, -⟩ := proveDigests_ok_iff.mp hresult
    have hold := List.Subset.trans p.terms_subset_texts
      (List.subset_append_left _ (p.onTerms terms).texts)
    have hnew := List.Subset.trans (p.onTerms terms).terms_subset_texts
      (List.subset_append_right p.texts _)
    exact .inr ((Terms.agrees_or_collides hnew hold hchanged hdocument).resolve_left hterms)

-- As long as the hashes stay, only the document's hash can tell.
theorem proveDigests_onTerms_error {hasher : Hasher} (h : p.proveDigests hasher = .ok ())
    (hhashes : terms.contentHashes = p.header.terms.contentHashes) {error : ProofError}
    (herror : (p.onTerms terms).proveDigests hasher = .error error) :
    error = .documentHashMismatch := by
  obtain ⟨hnodup, hcommitted, -, hidentifier⟩ := proveDigests_ok_iff.mp h
  rw [← hhashes] at hnodup hcommitted
  cases proveDigests_error_iff.mp herror with
  | duplicates hduplicates => exact absurd hnodup hduplicates
  | statement _ hdisclosed _ hs =>
    exact absurd (hcommitted _ (hdisclosed ▸ List.mem_append_right _ (List.mem_cons_self ..))) hs
  | document => rfl
  | identifier _ _ _ hother => exact absurd hidentifier.symm hother

theorem failures_onTerms {q : Protocol} {resolver : Resolver} {e : Expectations} {now : Instant}
    (hpasses : p.Passes q resolver e now) (h : p.header.terms.Altered terms) :
    (∃ error, ((p.onTerms terms).verify q resolver e now).failures = [(.digest, error)] ∧
      (terms.contentHashes = p.header.terms.contentHashes → error = .documentHashMismatch)) ∨
    q.hashAlgorithm.Collides (p.texts ++ (p.onTerms terms).texts) := by
  refine (proveDigests_onTerms hpasses.digests h.not_agrees).imp_left ?_
  rintro ⟨error, herror⟩
  have hstatements : (p.onTerms terms).proveStatements q.hasher = .ok () := hpasses.statements
  have hdigests : (p.onTerms terms).proveDigests q.hasher = .error error := herror
  refine ⟨error, ?_, fun hhashes => proveDigests_onTerms_error hpasses.digests hhashes hdigests⟩
  rw [(sameFrame_onTerms h).failures hpasses, failed_of_passed hstatements, failed_of_error hdigests,
    List.nil_append]

end

theorem alteration_reported {p : Presentation} {q : Protocol} {resolver : Resolver}
    {e : Expectations} {now : Instant} {v : VerifiedPresentation}
    (h : (p.verify q resolver e now).result = .ok v) :
    (∀ front s back, p.disclosed = front ++ s :: back →
      (∀ value cause, encodeStatement s.name value = .error cause →
        ((p.disclosing (front ++ s.withValue value :: back)).verify q resolver e now).failures =
          [(.statement, .statementTampered s.name .encoding)]) ∧
      (∀ value text, encodeStatement s.name value = .ok text →
        encodeStatement s.name s.value ≠ .ok text →
        ((p.disclosing (front ++ s.withValue value :: back)).verify q resolver e now).failures =
          [(.statement, .statementTampered s.name .digestMismatch)] ∨
        q.hashAlgorithm.Collides
          (p.texts ++ (p.disclosing (front ++ s.withValue value :: back)).texts)) ∧
      ∀ hash, hash ∉ p.header.terms.contentHashes →
        ((p.disclosing (front ++ s.withSaltedHash hash :: back)).verify q resolver e now).failures =
          [(.statement, .statementTampered s.name .saltedHashMismatch),
            (.digest, .digestNotCommitted hash)]) ∧
    ∀ terms, p.header.terms.Altered terms →
      (∃ error, ((p.onTerms terms).verify q resolver e now).failures = [(.digest, error)] ∧
        (terms.contentHashes = p.header.terms.contentHashes → error = .documentHashMismatch)) ∨
      q.hashAlgorithm.Collides (p.texts ++ (p.onTerms terms).texts) := by
  obtain ⟨hpasses, -⟩ := verify_result_ok_iff.mp h
  refine ⟨fun front s back hp => ⟨?_, ?_, ?_⟩, fun terms hterms => failures_onTerms hpasses hterms⟩
  · intro value cause hcause
    exact failures_withValue hp hpasses (proveStatement_of_not_encoded hcause)
  · intro value text htext hother
    exact (proveStatement_withValue hp hpasses htext hother).imp_left
      (failures_withValue hp hpasses)
  · intro hash hhash
    exact failures_withSaltedHash hp hpasses hhash

end Presentation

def pairUnderEvidence : Terms := { pairTerms with evidenceIds := [⟨pairHash⟩] }

theorem pair_alteration_reported :
    (((pairPresentation.disclosing [memberStatement.withValue (.bool false), nameStatement]).verify
        .standard sampleResolver sampleExpectations sampleTime).failures =
      [(.statement, .statementTampered "member" .digestMismatch)] ∨
      HashAlgorithm.sha256.Collides (pairPresentation.texts ++ (pairPresentation.disclosing
        [memberStatement.withValue (.bool false), nameStatement]).texts)) ∧
    ((pairPresentation.disclosing [memberStatement.withSaltedHash pairHash, nameStatement]).verify
        .standard sampleResolver sampleExpectations sampleTime).failures =
      [(.statement, .statementTampered "member" .saltedHashMismatch),
        (.digest, .digestNotCommitted pairHash)] ∧
    ((∃ error, ((pairPresentation.onTerms pairUnderEvidence).verify .standard sampleResolver
        sampleExpectations sampleTime).failures = [(.digest, error)] ∧
        (pairUnderEvidence.contentHashes = pairTerms.contentHashes →
          error = .documentHashMismatch)) ∨
      HashAlgorithm.sha256.Collides
        (pairPresentation.texts ++ (pairPresentation.onTerms pairUnderEvidence).texts)) := by
  have hverifies := Presentation.verify_result_ok_iff.mpr ⟨pair_passes, rfl⟩
  have htrue : encodeStatement "member" (.bool true) = .ok "\x7b\"member\":true\x7d" := rfl
  have hfalse : encodeStatement "member" (.bool false) = .ok "\x7b\"member\":false\x7d" := rfl
  have hne : encodeStatement "member" (.bool true) ≠ .ok "\x7b\"member\":false\x7d" := by
    rw [htrue]
    decide
  obtain ⟨hdisclosed, hterms⟩ := Presentation.alteration_reported hverifies
  obtain ⟨-, hvalue, hsalted⟩ := hdisclosed [] memberStatement [nameStatement] rfl
  exact ⟨hvalue _ _ hfalse hne, hsalted pairHash (by decide),
    hterms pairUnderEvidence (.evidenceIds (List.cons_ne_nil _ _))⟩

end SelectiveDisclosure
