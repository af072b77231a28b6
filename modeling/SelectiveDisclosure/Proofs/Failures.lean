import SelectiveDisclosure.Proofs.Refusal
import SelectiveDisclosure.Proofs.Request
import SelectiveDisclosure.Proofs.Verification

namespace SelectiveDisclosure

namespace Presentation

theorem proveCommitted_error_iff {committed : List Hash} {ss : List DisclosedStatement}
    {e : ProofError} :
    proveCommitted committed ss = .error e ↔ ∃ front s back, ss = front ++ s :: back ∧
      (∀ t ∈ front, t.saltedHash ∈ committed) ∧ s.saltedHash ∉ committed ∧
      e = .digestNotCommitted s.saltedHash := by
  induction ss with
  | nil => simp [proveCommitted, pure, Except.pure]
  | cons t ss ih =>
    rw [proveCommitted, require_bind_error_iff, ih, List.contains_iff_mem, ← Bool.not_eq_true,
      List.contains_iff_mem]
    constructor
    · rintro (⟨ht, rfl⟩ | ⟨ht, front, s, back, rfl, hfront, hs⟩)
      · exact ⟨[], t, ss, rfl, List.forall_mem_nil _, ht, rfl⟩
      · exact ⟨t :: front, s, back, rfl, List.forall_mem_cons.mpr ⟨ht, hfront⟩, hs⟩
    · rintro ⟨front, s, back, hss, hfront, hs, rfl⟩
      cases front with
      | nil =>
        obtain ⟨rfl, -⟩ := List.cons.inj hss
        exact .inl ⟨hs, rfl⟩
      | cons u front =>
        obtain ⟨rfl, hrest⟩ := List.cons.inj hss
        obtain ⟨ht, hfront⟩ := List.forall_mem_cons.mp hfront
        exact .inr ⟨ht, front, s, back, hrest, hfront, hs, rfl⟩

inductive Uncommitted (p : Presentation) (hasher : Hasher) : ProofError → Prop
  | duplicates : ¬p.header.terms.contentHashes.Nodup →
      Uncommitted p hasher .duplicateContentHashes
  | statement {front back : List DisclosedStatement} {s : DisclosedStatement} :
      p.header.terms.contentHashes.Nodup → p.disclosed = front ++ s :: back →
      (∀ t ∈ front, t.saltedHash ∈ p.header.terms.contentHashes) →
      s.saltedHash ∉ p.header.terms.contentHashes →
      Uncommitted p hasher (.digestNotCommitted s.saltedHash)
  | document {hash : Hash} : p.header.terms.contentHashes.Nodup →
      (∀ s ∈ p.disclosed, s.saltedHash ∈ p.header.terms.contentHashes) →
      p.header.terms.documentHash hasher = .ok hash → hash ≠ p.header.documentHash →
      Uncommitted p hasher .documentHashMismatch
  | identifier : p.header.terms.contentHashes.Nodup →
      (∀ s ∈ p.disclosed, s.saltedHash ∈ p.header.terms.contentHashes) →
      p.header.terms.documentHash hasher = .ok p.header.documentHash →
      DocumentId.mk p.header.documentHash ≠ p.header.identifier →
      Uncommitted p hasher .identifierMismatch

theorem uncommitted_of_proveDigests {p : Presentation} {hasher : Hasher} {e : ProofError}
    (h : p.proveDigests hasher = .error e) : p.Uncommitted hasher e := by
  rcases require_bind_error_iff.mp h with ⟨hduplicates, rfl⟩ | ⟨hnodup, h⟩
  · exact .duplicates (of_decide_eq_false hduplicates)
  have hnodup := of_decide_eq_true hnodup
  rcases bind_error_iff.mp h with h | ⟨⟨⟩, hcommitted, h⟩
  · obtain ⟨front, s, back, hdisclosed, hfront, hs, rfl⟩ := proveCommitted_error_iff.mp h
    exact .statement hnodup hdisclosed hfront hs
  have hcommitted := proveCommitted_ok_iff.mp hcommitted
  -- the terms have a hash, whatever they are
  obtain ⟨hash, hhash, h⟩ := (mapError_bind_error_iff (p.header.terms.documentHash_ok hasher)).mp h
  rcases require_bind_error_iff.mp h with ⟨hdocument, rfl⟩ | ⟨hdocument, h⟩
  · exact .document hnodup hcommitted hhash (of_decide_eq_false hdocument)
  obtain rfl := of_decide_eq_true hdocument
  obtain ⟨hidentifier, rfl⟩ := require_error_iff.mp h
  exact .identifier hnodup hcommitted hhash (of_decide_eq_false hidentifier)

theorem proveDigests_of_uncommitted {p : Presentation} {hasher : Hasher} {e : ProofError}
    (h : p.Uncommitted hasher e) : p.proveDigests hasher = .error e := by
  cases h with
  | duplicates hduplicates =>
    exact require_bind_error_iff.mpr (.inl ⟨decide_eq_false hduplicates, rfl⟩)
  | statement hnodup hdisclosed hfront hs =>
    refine require_bind_error_iff.mpr (.inr ⟨decide_eq_true hnodup, ?_⟩)
    refine bind_error_iff.mpr (.inl (proveCommitted_error_iff.mpr ?_))
    exact ⟨_, _, _, hdisclosed, hfront, hs, rfl⟩
  | document hnodup hcommitted hhash hdocument =>
    refine require_bind_error_iff.mpr (.inr ⟨decide_eq_true hnodup, ?_⟩)
    refine bind_error_iff.mpr (.inr ⟨(), proveCommitted_ok_iff.mpr hcommitted, ?_⟩)
    refine bind_error_iff.mpr (.inr ⟨_, mapError_ok_iff.mpr hhash, ?_⟩)
    exact require_bind_error_iff.mpr (.inl ⟨decide_eq_false hdocument, rfl⟩)
  | identifier hnodup hcommitted hhash hidentifier =>
    refine require_bind_error_iff.mpr (.inr ⟨decide_eq_true hnodup, ?_⟩)
    refine bind_error_iff.mpr (.inr ⟨(), proveCommitted_ok_iff.mpr hcommitted, ?_⟩)
    refine bind_error_iff.mpr (.inr ⟨_, mapError_ok_iff.mpr hhash, ?_⟩)
    refine require_bind_error_iff.mpr (.inr ⟨decide_eq_true rfl, ?_⟩)
    exact require_error_iff.mpr ⟨decide_eq_false hidentifier, rfl⟩

theorem proveDigests_error_iff {p : Presentation} {hasher : Hasher} {e : ProofError} :
    p.proveDigests hasher = .error e ↔ p.Uncommitted hasher e :=
  ⟨uncommitted_of_proveDigests, proveDigests_of_uncommitted⟩

theorem proveHolderSignature_invalid_iff {p : Presentation} {resolver : Resolver} {timeout : Nat}
    {e : Expectations} :
    p.proveHolderSignature resolver timeout e = .error .holderSignatureInvalid ↔
      p.challenge = e.challenge ∧
      ∃ key, resolver.resolveWithin timeout p.holderSignature.keyUri = .ok key ∧
        .authentication ∈ key.purposes ∧ key.controller = p.header.terms.holder ∧
        ∃ text, p.payload e.challenge = .ok text ∧
          ∃ cause, p.holderSignature.verify (utf8 text) key.publicKey = .error cause := by
  constructor
  · intro h
    rcases require_bind_error_iff.mp h with ⟨-, h⟩ | ⟨hchallenge, h⟩
    · cases h
    rcases bind_error_iff.mp h with h | ⟨key, hkey, h⟩
    · obtain ⟨_, -, h⟩ := mapError_error_iff.mp h
      cases h
    rcases bind_error_iff.mp h with h | ⟨⟨⟩, hauthority, h⟩
    · obtain ⟨_, h⟩ := authorize_error h
      cases h
    obtain ⟨hpurpose, hcontroller⟩ := authorize_ok_iff.mp hauthority
    -- what the holder had to sign has a text, whatever the challenge
    obtain ⟨text, htext, h⟩ := (mapError_bind_error_iff (holderPayload_ok ..)).mp h
    obtain ⟨cause, hcause, -⟩ := mapError_error_iff.mp h
    exact ⟨of_decide_eq_true hchallenge, key, mapError_ok_iff.mp hkey, hpurpose, hcontroller, text,
      htext, cause, hcause⟩
  · rintro ⟨hchallenge, key, hkey, hpurpose, hcontroller, text, htext, cause, hcause⟩
    refine require_bind_error_iff.mpr (.inr ⟨decide_eq_true hchallenge, ?_⟩)
    refine bind_error_iff.mpr (.inr ⟨key, mapError_ok_iff.mpr hkey, ?_⟩)
    refine bind_error_iff.mpr (.inr ⟨(), authorize_ok_iff.mpr ⟨hpurpose, hcontroller⟩, ?_⟩)
    refine bind_error_iff.mpr (.inr ⟨text, mapError_ok_iff.mpr htext, ?_⟩)
    exact mapError_error_iff.mpr ⟨cause, hcause, rfl⟩

end Presentation

inductive ProofKind.Reports : ProofKind → ProofError → Prop
  | nothingDisclosed : Reports .statement .nothingDisclosed
  | statementTampered (name : String) (reason : TamperKind) :
      Reports .statement (.statementTampered name reason)
  | duplicateContentHashes : Reports .digest .duplicateContentHashes
  | digestNotCommitted (saltedHash : Hash) : Reports .digest (.digestNotCommitted saltedHash)
  | documentHashMismatch : Reports .digest .documentHashMismatch
  | identifierMismatch : Reports .digest .identifierMismatch
  | issuerKeyResolution (cause : ResolveError) : Reports .signature (.keyResolution cause)
  | issuerKeyNotAuthorized (keyUri : KeyUri) (reason : AuthorizationFailure) :
      Reports .signature (.keyNotAuthorized keyUri reason)
  | issuerSignatureInvalid : Reports .signature .issuerSignatureInvalid
  | holderRejection {e : ProofError} : Presentation.HolderRejection e → Reports .selfSignature e
  | documentNotYetValid : Reports .validity .documentNotYetValid
  | documentExpired : Reports .validity .documentExpired

namespace Presentation

variable {p : Presentation} {q : Protocol} {resolver : Resolver} {e : Expectations} {now : Instant}
  {kind : ProofKind} {error : ProofError}

theorem proveStatementsFrom_error {hasher : Hasher} {nonces : NonceMap} {seen : List String}
    {ss : List DisclosedStatement} (h : proveStatementsFrom hasher nonces seen ss = .error error) :
    ∃ name reason, error = .statementTampered name reason := by
  induction ss generalizing seen with
  | nil => cases h
  | cons s ss ih =>
    rcases require_bind_error_iff.mp h with ⟨-, rfl⟩ | ⟨-, h⟩
    · exact ⟨s.name, .duplicateName, rfl⟩
    rcases bind_error_iff.mp h with h | ⟨⟨⟩, -, h⟩
    · obtain ⟨reason, -, rfl⟩ := mapError_error_iff.mp h
      exact ⟨s.name, reason, rfl⟩
    · exact ih h

theorem proveStatements_error {hasher : Hasher} (h : p.proveStatements hasher = .error error) :
    ProofKind.statement.Reports error := by
  rcases require_bind_error_iff.mp h with ⟨-, rfl⟩ | ⟨-, h⟩
  · exact .nothingDisclosed
  · obtain ⟨name, reason, rfl⟩ := proveStatementsFrom_error h
    exact .statementTampered name reason

theorem proveDigests_error {hasher : Hasher} (h : p.proveDigests hasher = .error error) :
    ProofKind.digest.Reports error := by
  cases proveDigests_error_iff.mp h with
  | duplicates => exact .duplicateContentHashes
  | statement => exact .digestNotCommitted _
  | document => exact .documentHashMismatch
  | identifier => exact .identifierMismatch

theorem proveIssuerSignature_error {timeout : Nat}
    (h : p.proveIssuerSignature resolver timeout e = .error error) :
    ProofKind.signature.Reports error := by
  rcases bind_error_iff.mp h with h | ⟨key, -, h⟩
  · obtain ⟨cause, -, rfl⟩ := mapError_error_iff.mp h
    exact .issuerKeyResolution cause
  rcases bind_error_iff.mp h with h | ⟨⟨⟩, -, h⟩
  · obtain ⟨reason, rfl⟩ := authorize_error h
    exact .issuerKeyNotAuthorized _ reason
  split at h
  · rcases bind_error_iff.mp h with h | ⟨⟨⟩, -, h⟩
    · obtain ⟨reason, rfl⟩ := authorize_error h
      exact .issuerKeyNotAuthorized _ reason
    · obtain ⟨_, -, rfl⟩ := mapError_error_iff.mp h
      exact .issuerSignatureInvalid
  · obtain ⟨_, -, rfl⟩ := mapError_error_iff.mp h
    exact .issuerSignatureInvalid

theorem proveValidity_error (h : p.proveValidity now = .error error) :
    ProofKind.validity.Reports error := by
  rcases require_bind_error_iff.mp h with ⟨-, rfl⟩ | ⟨-, h⟩
  · exact .documentNotYetValid
  split at h
  · cases h
  · obtain ⟨-, rfl⟩ := require_error_iff.mp h
    exact .documentExpired

def prove (p : Presentation) (q : Protocol) (resolver : Resolver) (e : Expectations)
    (now : Instant) : ProofKind → Except ProofError Unit
  | .statement => p.proveStatements q.hasher
  | .digest => p.proveDigests q.hasher
  | .signature => p.proveIssuerSignature resolver q.resolveTimeout.toNat e
  | .selfSignature => p.proveHolderSignature resolver q.resolveTimeout.toNat e
  | .validity => if e.checkValidity then p.proveValidity now else .ok ()

theorem reports_of_prove (h : p.prove q resolver e now kind = .error error) : kind.Reports error := by
  cases kind with
  | statement => exact proveStatements_error h
  | digest => exact proveDigests_error h
  | signature => exact proveIssuerSignature_error h
  | selfSignature => exact .holderRejection (proveHolderSignature_error h)
  | validity =>
    rw [prove] at h
    split at h
    · exact proveValidity_error h
    · cases h

theorem mem_failures_iff : (kind, error) ∈ (p.verify q resolver e now).failures ↔
    p.prove q resolver e now kind = .error error := by
  rw [failures_eq_flatMap, List.mem_flatMap]
  simp only [ProofOutcome.mem_failed_iff, verify]
  cases hcheck : e.checkValidity with
  | false =>
    simp only [Bool.false_eq_true, if_false]
    cases kind <;> simp [prove, hcheck]
  | true =>
    simp only [if_true]
    cases kind <;> simp [prove, hcheck]

theorem documentHashMismatch_mem_failures_iff :
    (kind, .documentHashMismatch) ∈ (p.verify q resolver e now).failures ↔
      kind = .digest ∧ p.header.terms.contentHashes.Nodup ∧
        (∀ s ∈ p.disclosed, s.saltedHash ∈ p.header.terms.contentHashes) ∧
        ∃ hash, p.header.terms.documentHash q.hasher = .ok hash ∧ hash ≠ p.header.documentHash := by
  rw [mem_failures_iff]
  constructor
  · intro h
    cases reports_of_prove h with
    | documentHashMismatch =>
      cases proveDigests_error_iff.mp h with
      | document hnodup hcommitted hhash hdocument =>
        exact ⟨rfl, hnodup, hcommitted, _, hhash, hdocument⟩
    | holderRejection h => cases h
  · rintro ⟨rfl, hnodup, hcommitted, hash, hhash, hdocument⟩
    exact proveDigests_error_iff.mpr (.document hnodup hcommitted hhash hdocument)

theorem holderSignatureInvalid_mem_failures_iff :
    (kind, .holderSignatureInvalid) ∈ (p.verify q resolver e now).failures ↔
      kind = .selfSignature ∧ p.challenge = e.challenge ∧
        ∃ key, resolver.resolveWithin q.resolveTimeout.toNat p.holderSignature.keyUri = .ok key ∧
          .authentication ∈ key.purposes ∧ key.controller = p.header.terms.holder ∧
          ∃ text, p.payload e.challenge = .ok text ∧
            ∃ cause, p.holderSignature.verify (utf8 text) key.publicKey = .error cause := by
  rw [mem_failures_iff]
  constructor
  · intro h
    cases reports_of_prove h with
    | holderRejection => exact ⟨rfl, proveHolderSignature_invalid_iff.mp h⟩
  · rintro ⟨rfl, h⟩
    exact proveHolderSignature_invalid_iff.mpr h

end Presentation

theorem encoding_never_fails (hasher : Hasher) (t : Terms) (a : Application) (d : Document)
    (shown : Presentation) (p : Protocol) (signer : Signer) (now : Instant) (source : NonceSource)
    (names : List String) (challenge : String) (digests : List Hash) (documentHash : Hash)
    (resolver : Resolver) (e : Expectations) (kind : ProofKind) :
    (∃ hash, t.documentHash hasher = .ok hash) ∧
    (∃ text, holderPayload challenge digests documentHash = .ok text) ∧
    (∀ cause, a.issue p signer now source ≠ .error (.encoding cause) ∧
      d.committedStatements p source ≠ .error (.encoding cause) ∧
      d.checkIntegrity p source ≠ .error (.encoding cause) ∧
      d.present p names signer challenge source ≠ .error (.encoding cause) ∧
      d.present p names signer challenge source ≠ .error (.invalidDocument (.encoding cause))) ∧
    ((kind, .documentHashMismatch) ∈ (shown.verify p resolver e now).failures ↔
      kind = .digest ∧ shown.header.terms.contentHashes.Nodup ∧
        (∀ s ∈ shown.disclosed, s.saltedHash ∈ shown.header.terms.contentHashes) ∧
        ∃ hash, shown.header.terms.documentHash p.hasher = .ok hash ∧
          hash ≠ shown.header.documentHash) ∧
    ((kind, .holderSignatureInvalid) ∈ (shown.verify p resolver e now).failures ↔
      kind = .selfSignature ∧ shown.challenge = e.challenge ∧
        ∃ key, resolver.resolveWithin p.resolveTimeout.toNat shown.holderSignature.keyUri = .ok key ∧
          .authentication ∈ key.purposes ∧ key.controller = shown.header.terms.holder ∧
          ∃ text, shown.payload e.challenge = .ok text ∧
            ∃ cause, shown.holderSignature.verify (utf8 text) key.publicKey = .error cause) := by
  have hcommitted : ∀ cause, d.committedStatements p source ≠ .error (.encoding cause) := by
    intro cause h
    rcases Document.committedStatements_error_iff.mp h with ⟨_, -, h⟩ | ⟨_, _, -, -, h⟩
    · cases h
    · cases h
  refine ⟨t.documentHash_ok hasher, holderPayload_ok challenge digests documentHash,
    fun cause => ⟨?_, hcommitted cause, ?_, ?_, ?_⟩,
    Presentation.documentHashMismatch_mem_failures_iff,
    Presentation.holderSignatureInvalid_mem_failures_iff⟩
  · intro h
    cases Application.issue_error_iff.mp h
  · intro h
    cases Document.checkIntegrity_error_iff.mp h with
    | statements h => exact hcommitted cause h
  · intro h
    cases present_error_iff.mp h
  · intro h
    cases present_error_iff.mp h with
    | document _ _ h => exact hcommitted cause h

end SelectiveDisclosure
