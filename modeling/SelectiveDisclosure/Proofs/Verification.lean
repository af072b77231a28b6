import Mathlib.Data.List.Basic
import SelectiveDisclosure.Proofs.Except
import SelectiveDisclosure.Proofs.Time
import SelectiveDisclosure.Verification

namespace SelectiveDisclosure

@[simp] theorem require_ok_iff {condition : Bool} {error : ProofError} :
    require condition error = .ok () ↔ condition = true := by
  cases condition <;> simp [require]

theorem require_error_iff {condition : Bool} {error e : ProofError} :
    require condition error = .error e ↔ condition = false ∧ error = e := by
  cases condition <;> simp [require]

@[simp] theorem bind_unit_ok_iff {ε : Type} {x y : Except ε Unit} :
    (do x; y) = .ok () ↔ x = .ok () ∧ y = .ok () := by
  rw [bind_ok_iff]
  exact ⟨fun ⟨_, hx, hy⟩ => ⟨hx, hy⟩, fun ⟨hx, hy⟩ => ⟨(), hx, hy⟩⟩

theorem require_bind_error_iff {condition : Bool} {error e : ProofError}
    {x : Except ProofError Unit} :
    (do require condition error; x) = .error e ↔
      condition = false ∧ error = e ∨ condition = true ∧ x = .error e := by
  rw [bind_error_iff, require_error_iff]
  refine or_congr_right ⟨fun ⟨_, h, hx⟩ => ⟨require_ok_iff.mp h, hx⟩, fun ⟨h, hx⟩ => ?_⟩
  exact ⟨(), require_ok_iff.mpr h, hx⟩

namespace Presentation

structure Opens (hasher : Hasher) (nonces : NonceMap) (s : DisclosedStatement) (text salt : String) :
    Prop where
  encoded : encodeStatement s.name s.value = .ok text
  digest : hasher text none = s.digest
  nonce : nonces.get? s.digest = some salt
  salted : saltedHash hasher s.digest salt = s.saltedHash

theorem proveStatement_ok_iff {hasher : Hasher} {nonces : NonceMap} {s : DisclosedStatement} :
    proveStatement hasher nonces s = .ok () ↔
      ∃ text salt, Opens hasher nonces s text salt := by
  rw [proveStatement, bind_ok_iff]
  constructor
  · rintro ⟨text, htext, h⟩
    obtain ⟨hdigest, h⟩ := throw_ok_iff.mp h
    split at h
    · exact absurd h nofun
    · rename_i salt hsalt
      obtain ⟨hsalted, -⟩ := throw_ok_iff.mp h
      exact ⟨text, salt, mapError_ok_iff.mp htext, Decidable.not_not.mp hdigest, hsalt,
        Decidable.not_not.mp hsalted⟩
  · rintro ⟨text, salt, h⟩
    refine ⟨text, mapError_ok_iff.mpr h.encoded, ?_⟩
    dsimp only
    rw [if_neg (Decidable.not_not.mpr h.digest), h.nonce]
    exact if_neg (Decidable.not_not.mpr h.salted)

theorem proveStatementsFrom_ok_iff {hasher : Hasher} {nonces : NonceMap} {seen : List String}
    {ss : List DisclosedStatement} :
    proveStatementsFrom hasher nonces seen ss = .ok () ↔
      (ss.map DisclosedStatement.name).Nodup ∧ (∀ s ∈ ss, s.name ∉ seen) ∧
        ∀ s ∈ ss, ∃ text salt, Opens hasher nonces s text salt := by
  induction ss generalizing seen with
  | nil => simp [proveStatementsFrom, pure, Except.pure]
  | cons s ss ih =>
    rw [proveStatementsFrom, bind_unit_ok_iff, bind_unit_ok_iff, require_ok_iff, mapError_ok_iff,
      proveStatement_ok_iff, ih, List.map_cons, List.nodup_cons, List.forall_mem_cons,
      List.forall_mem_cons, Bool.not_eq_true', ← Bool.not_eq_true, List.contains_iff_mem]
    constructor
    · rintro ⟨hs, hopens, hnodup, hseen, hall⟩
      have hnew : s.name ∉ ss.map DisclosedStatement.name := by
        intro hmem
        obtain ⟨t, ht, hname⟩ := List.mem_map.mp hmem
        exact hseen t ht (hname ▸ List.mem_cons_self ..)
      have hrest : ∀ t ∈ ss, t.name ∉ seen := by
        intro t ht hmem
        exact hseen t ht (List.mem_cons_of_mem _ hmem)
      exact ⟨⟨hnew, hnodup⟩, ⟨hs, hrest⟩, hopens, hall⟩
    · rintro ⟨⟨hnew, hnodup⟩, ⟨hs, hrest⟩, hopens, hall⟩
      refine ⟨hs, hopens, hnodup, ?_, hall⟩
      intro t ht hmem
      rcases List.mem_cons.mp hmem with hname | hmem
      · exact hnew (hname ▸ List.mem_map_of_mem ht)
      · exact hrest t ht hmem

theorem proveStatements_ok_iff {p : Presentation} {hasher : Hasher} :
    p.proveStatements hasher = .ok () ↔
      p.disclosed ≠ [] ∧ (p.disclosed.map DisclosedStatement.name).Nodup ∧
        ∀ s ∈ p.disclosed, ∃ text salt, Opens hasher p.nonces s text salt := by
  rw [proveStatements, bind_unit_ok_iff, require_ok_iff, proveStatementsFrom_ok_iff,
    Bool.not_eq_true', List.isEmpty_eq_false_iff]
  simp

theorem proveCommitted_ok_iff {committed : List Hash} {ss : List DisclosedStatement} :
    proveCommitted committed ss = .ok () ↔ ∀ s ∈ ss, s.saltedHash ∈ committed := by
  induction ss with
  | nil => simp [proveCommitted, pure, Except.pure]
  | cons s ss ih =>
    rw [proveCommitted, bind_unit_ok_iff, require_ok_iff, ih, List.forall_mem_cons,
      List.contains_iff_mem]

theorem proveDigests_ok_iff {p : Presentation} {hasher : Hasher} :
    p.proveDigests hasher = .ok () ↔
      p.header.terms.contentHashes.Nodup ∧
      (∀ s ∈ p.disclosed, s.saltedHash ∈ p.header.terms.contentHashes) ∧
      p.header.terms.documentHash hasher = .ok p.header.documentHash ∧
      p.header.identifier = ⟨p.header.documentHash⟩ := by
  rw [proveDigests, bind_unit_ok_iff, bind_unit_ok_iff, require_ok_iff, proveCommitted_ok_iff,
    bind_ok_iff, decide_eq_true_iff]
  refine and_congr_right fun _ => and_congr_right fun _ => ?_
  constructor
  · rintro ⟨hash, hhash, h⟩
    obtain ⟨hdocument, hidentifier⟩ := bind_unit_ok_iff.mp h
    rw [require_ok_iff, decide_eq_true_iff] at hdocument hidentifier
    rw [← hdocument]
    exact ⟨mapError_ok_iff.mp hhash, hidentifier.symm⟩
  · rintro ⟨hhash, hidentifier⟩
    refine ⟨_, mapError_ok_iff.mpr hhash, bind_unit_ok_iff.mpr ?_⟩
    rw [require_ok_iff, require_ok_iff, decide_eq_true_iff, decide_eq_true_iff]
    exact ⟨rfl, hidentifier.symm⟩

theorem authorize_ok_iff {key : ResolvedKey} {r : Relationship} {controller : Did} :
    authorize key r controller = .ok () ↔ r ∈ key.purposes ∧ key.controller = controller := by
  rw [authorize, bind_unit_ok_iff, require_ok_iff, require_ok_iff, ResolvedKey.allows,
    List.contains_iff_mem, decide_eq_true_iff]

theorem proveIssuerSignature_ok_iff {p : Presentation} {resolver : Resolver} {timeout : Nat}
    {e : Expectations} :
    p.proveIssuerSignature resolver timeout e = .ok () ↔
      ∃ key, resolver.resolveWithin timeout p.header.issuerSignature.keyUri = .ok key ∧
        .assertionMethod ∈ key.purposes ∧ key.controller = p.header.terms.issuer ∧
        (∀ expected ∈ e.issuer, key.controller = expected) ∧
        p.header.issuerSignature.verify p.header.documentHash.toList key.publicKey = .ok () := by
  rw [proveIssuerSignature, bind_ok_iff]
  refine exists_congr fun key => ?_
  rw [mapError_ok_iff, bind_unit_ok_iff, authorize_ok_iff, and_assoc]
  refine and_congr_right fun _ => and_congr_right fun hpurpose => and_congr_right fun _ => ?_
  cases e.issuer with
  | none =>
    rw [mapError_ok_iff]
    exact (and_iff_right fun _ h => nomatch h).symm
  | some expected =>
    dsimp only
    rw [bind_unit_ok_iff, authorize_ok_iff, mapError_ok_iff, and_iff_right hpurpose]
    refine and_congr_left fun _ => ?_
    simp

theorem proveHolderSignature_ok_iff {p : Presentation} {resolver : Resolver} {timeout : Nat}
    {e : Expectations} :
    p.proveHolderSignature resolver timeout e = .ok () ↔
      p.challenge = e.challenge ∧
      ∃ key, resolver.resolveWithin timeout p.holderSignature.keyUri = .ok key ∧
        .authentication ∈ key.purposes ∧ key.controller = p.header.terms.holder ∧
        ∃ payload, p.payload e.challenge = .ok payload ∧
          p.holderSignature.verify (utf8 payload) key.publicKey = .ok () := by
  rw [proveHolderSignature, bind_unit_ok_iff, require_ok_iff, decide_eq_true_iff, bind_ok_iff]
  refine and_congr_right fun _ => exists_congr fun key => ?_
  rw [mapError_ok_iff, bind_unit_ok_iff, authorize_ok_iff, bind_ok_iff, and_assoc]
  simp only [mapError_ok_iff]

theorem authorize_error {key : ResolvedKey} {r : Relationship} {controller : Did} {e : ProofError}
    (h : authorize key r controller = .error e) :
    ∃ reason, e = .keyNotAuthorized key.keyUri reason := by
  rcases require_bind_error_iff.mp h with ⟨-, rfl⟩ | ⟨-, h⟩
  · exact ⟨_, rfl⟩
  · exact ⟨_, (require_error_iff.mp h).2.symm⟩

inductive HolderRejection : ProofError → Prop
  | challengeMismatch : HolderRejection .challengeMismatch
  | holderSignatureInvalid : HolderRejection .holderSignatureInvalid
  | keyResolution (cause : ResolveError) : HolderRejection (.keyResolution cause)
  | keyNotAuthorized (keyUri : KeyUri) (reason : AuthorizationFailure) :
      HolderRejection (.keyNotAuthorized keyUri reason)

theorem proveHolderSignature_error {p : Presentation} {resolver : Resolver} {timeout : Nat}
    {e : Expectations} {error : ProofError}
    (h : p.proveHolderSignature resolver timeout e = .error error) : HolderRejection error := by
  rcases require_bind_error_iff.mp h with ⟨-, rfl⟩ | ⟨-, h⟩
  · exact .challengeMismatch
  rcases bind_error_iff.mp h with h | ⟨key, -, h⟩
  · obtain ⟨cause, -, rfl⟩ := mapError_error_iff.mp h
    exact .keyResolution cause
  rcases bind_error_iff.mp h with h | ⟨-, -, h⟩
  · obtain ⟨reason, rfl⟩ := authorize_error h
    exact .keyNotAuthorized _ reason
  rcases bind_error_iff.mp h with h | ⟨payload, -, h⟩
  · obtain ⟨-, -, rfl⟩ := mapError_error_iff.mp h
    exact .holderSignatureInvalid
  · obtain ⟨-, -, rfl⟩ := mapError_error_iff.mp h
    exact .holderSignatureInvalid

theorem proveValidity_ok_iff {p : Presentation} {now : Instant} :
    p.proveValidity now = .ok () ↔
      p.header.terms.createdAt.truncate.notAfter now.truncate = true ∧
        ∀ limit ∈ p.header.terms.validUntil, now.truncate.before limit.truncate = true := by
  rw [proveValidity, bind_unit_ok_iff, require_ok_iff]
  refine and_congr_right fun _ => ?_
  cases p.header.terms.validUntil with
  | none => exact iff_of_true rfl (fun _ h => nomatch h)
  | some limit => simp

theorem proveValidity_of_window {p : Presentation} {now : Instant}
    (hcreated : p.header.terms.createdAt.notAfter now = true)
    (hlimit : ∀ limit ∈ p.header.terms.validUntil, now.before limit = true)
    (hwhole : ∀ limit ∈ p.header.terms.validUntil, limit.truncate = limit) :
    p.proveValidity now = .ok () := by
  refine proveValidity_ok_iff.mpr ⟨Instant.truncate_notAfter_truncate hcreated, ?_⟩
  intro limit h
  rw [hwhole limit h]
  exact Instant.truncate_before (hlimit limit h)

end Presentation

def ProofOutcome.failed (o : ProofOutcome) : List (ProofKind × ProofError) :=
  ((refusal? o.result).map fun e => (o.kind, e)).toList

theorem failed_of_passed {kind : ProofKind} {result : Except ProofError Unit} (h : result = .ok ()) :
    ProofOutcome.failed ⟨kind, result⟩ = [] := by
  rw [h]
  rfl

theorem failed_of_error {kind : ProofKind} {result : Except ProofError Unit} {e : ProofError}
    (h : result = .error e) : ProofOutcome.failed ⟨kind, result⟩ = [(kind, e)] := by
  rw [h]
  rfl

theorem ProofOutcome.failed_eq_nil_iff {o : ProofOutcome} : o.failed = [] ↔ o.result = .ok () := by
  rw [failed, Option.toList_eq_nil_iff, Option.map_eq_none_iff, refusal_eq_none_iff]
  exact ⟨fun ⟨_, h⟩ => h, fun h => ⟨(), h⟩⟩

theorem ProofOutcome.mem_failed_iff {o : ProofOutcome} {kind : ProofKind} {error : ProofError} :
    (kind, error) ∈ o.failed ↔ kind = o.kind ∧ o.result = .error error := by
  rw [failed, Option.mem_toList, Option.map_eq_some_iff]
  simp only [refusal_eq_some_iff, Prod.mk.injEq]
  constructor
  · rintro ⟨_, h, rfl, rfl⟩
    exact ⟨rfl, h⟩
  · rintro ⟨rfl, h⟩
    exact ⟨error, h, rfl, rfl⟩

theorem failures_eq_flatMap (r : VerificationReport) :
    r.failures = r.outcomes.flatMap ProofOutcome.failed := by
  rw [VerificationReport.failures, List.filterMap_eq_flatMap_toList]
  refine List.flatMap_congr fun o _ => ?_
  obtain ⟨kind, _ | _⟩ := o <;> rfl

theorem VerificationReport.result_ok_iff {r : VerificationReport} {v : VerifiedPresentation} :
    r.result = .ok v ↔ (∀ o ∈ r.outcomes, o.result = .ok ()) ∧ v = r.claimed := by
  have hfailures : r.failures = [] ↔ ∀ o ∈ r.outcomes, o.result = .ok () := by
    rw [failures_eq_flatMap, List.flatMap_eq_nil_iff]
    exact forall₂_congr fun o _ => ProofOutcome.failed_eq_nil_iff
  rw [result]
  split
  · rename_i h
    rw [Except.ok.injEq, and_iff_right (hfailures.mp (List.isEmpty_iff.mp h)), eq_comm]
  · rename_i h
    exact iff_of_false nofun fun hall => h (List.isEmpty_iff.mpr (hfailures.mpr hall.1))

theorem VerificationReport.isVerified_iff {r : VerificationReport} :
    r.isVerified = true ↔ ∃ v, r.result = .ok v := by
  rw [isVerified, result]
  split
  · rename_i h
    exact iff_of_true h ⟨_, rfl⟩
  · rename_i h
    exact iff_of_false h nofun

structure Presentation.Passes (p : Presentation) (q : Protocol) (resolver : Resolver)
    (e : Expectations) (now : Instant) : Prop where
  statements : p.proveStatements q.hasher = .ok ()
  digests : p.proveDigests q.hasher = .ok ()
  issuerSignature : p.proveIssuerSignature resolver q.resolveTimeout.toNat e = .ok ()
  holderSignature : p.proveHolderSignature resolver q.resolveTimeout.toNat e = .ok ()
  validity : e.checkValidity = true → p.proveValidity now = .ok ()

theorem Presentation.verify_result_ok_iff {p : Presentation} {q : Protocol} {resolver : Resolver}
    {e : Expectations} {now : Instant} {v : VerifiedPresentation} :
    (p.verify q resolver e now).result = .ok v ↔
      p.Passes q resolver e now ∧ v = p.claimed := by
  rw [VerificationReport.result_ok_iff, verify]
  refine and_congr_left fun _ => ?_
  cases hcheck : e.checkValidity with
  | false =>
    simp only [Bool.false_eq_true, if_false, List.forall_mem_cons]
    constructor
    · rintro ⟨hs, hd, hi, hh, -⟩
      exact ⟨hs, hd, hi, hh, fun h => absurd (hcheck.symm.trans h) nofun⟩
    · rintro ⟨hs, hd, hi, hh, -⟩
      exact ⟨hs, hd, hi, hh, List.forall_mem_nil _⟩
  | true =>
    simp only [if_true, List.cons_append, List.nil_append, List.forall_mem_cons]
    constructor
    · rintro ⟨hs, hd, hi, hh, hv, -⟩
      exact ⟨hs, hd, hi, hh, fun _ => hv⟩
    · rintro ⟨hs, hd, hi, hh, hv⟩
      exact ⟨hs, hd, hi, hh, hv hcheck, List.forall_mem_nil _⟩

end SelectiveDisclosure
