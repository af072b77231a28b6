import SelectiveDisclosure.Proofs.Reproduction
import SelectiveDisclosure.Proofs.Terms

namespace SelectiveDisclosure

-- With a nonce drawn for every statement.
def Protocol.freshHashes (p : Protocol) (source : NonceSource) (statements : List Statement) :
    List HashedStatement :=
  hashStatements p.hasher SortedMap.empty source (statements.map Statement.encoded)

namespace Application

variable {a : Application} {p : Protocol} {signer : Signer} {now : Instant} {source : NonceSource}

theorem checkText_error_iff {field : OptionalText} {value : Option String} {e : IssuanceError} :
    checkText field value = .error e ↔ value = some "" ∧ e = .emptyText field := by
  rw [checkText]
  split
  · rename_i hempty
    rw [and_iff_right hempty, Except.error.injEq, eq_comm]
  · rename_i hfull
    exact iff_of_false (by simp) fun h => hfull h.1

theorem eq_invalidWindow_of_checkWindow {created : Instant} {limit : Option Instant}
    {e : IssuanceError} (h : checkWindow created limit = .error e) : e = .invalidWindow := by
  cases limit with
  | none => cases h
  | some t =>
    rw [checkWindow] at h
    split at h
    · cases h
    · exact (Except.error.inj h).symm

-- The times that are signed, to whole seconds.
def created (a : Application) (now : Instant) : Instant := (a.createdAt.getD now).truncate

def limit (a : Application) : Option Instant := a.validUntil.map Instant.truncate

def terms (a : Application) (signer : Signer) (now : Instant) (holder : Did)
    (hashed : List HashedStatement) : Terms :=
  ⟨sortHashes (hashed.map HashedStatement.saltedHash), signer.keyUri.did, holder, a.evidenceIds,
    a.authorization, a.registry, a.created now, a.limit⟩

-- All that is asked of an application before its content is looked at.
structure Admitted (a : Application) (now : Instant) (holder : Did) : Prop where
  holder : a.holder = some holder
  window : ∀ limit ∈ a.limit, (a.created now).before limit = true
  authorization : a.authorization ≠ some ""
  registry : a.registry ≠ some ""

inductive Declined (a : Application) (p : Protocol) (signer : Signer) (now : Instant)
    (source : NonceSource) : IssuanceError → Prop
  | holder : a.holder = none → Declined a p signer now source .missingHolder
  | window {holder : Did} : a.holder = some holder →
      (∃ limit ∈ a.limit, (a.created now).before limit = false) →
      Declined a p signer now source .invalidWindow
  | authorization {holder : Did} : a.holder = some holder →
      (∀ limit ∈ a.limit, (a.created now).before limit = true) → a.authorization = some "" →
      Declined a p signer now source (.emptyText .authorization)
  | registry {holder : Did} : a.holder = some holder →
      (∀ limit ∈ a.limit, (a.created now).before limit = true) → a.authorization ≠ some "" →
      a.registry = some "" → Declined a p signer now source (.emptyText .registry)
  | content {holder : Did} {cause : DecompositionError} : a.Admitted now holder →
      a.content.decompose p.decomposition = .error cause →
      Declined a p signer now source (.invalidContent cause)
  | repeated {holder : Did} {statements : List Statement} {s : Statement} : a.Admitted now holder →
      a.content.decompose p.decomposition = .ok statements →
      repeatedStatement [] (statements.zip (p.freshHashes source statements)) = some s →
      Declined a p signer now source (.invalidContent (.duplicateStatement s.name))
  | signing {holder : Did} {statements : List Statement} {hash : Hash} {cause : SigningError} :
      a.Admitted now holder → a.content.decompose p.decomposition = .ok statements →
      repeatedStatement [] (statements.zip (p.freshHashes source statements)) = none →
      (a.terms signer now holder (p.freshHashes source statements)).documentHash p.hasher = .ok hash →
      signer.signWithin p.signingTimeout.toNat hash.toList = .error cause →
      Declined a p signer now source (.signing cause)

theorem declined_of_issue {e : IssuanceError} (h : a.issue p signer now source = .error e) :
    Declined a p signer now source e := by
  rw [issue] at h
  split at h
  · rename_i holder hholder
    rcases bind_error_iff.mp h with h | ⟨⟨⟩, hwindow, h⟩
    · obtain rfl := eq_invalidWindow_of_checkWindow h
      exact .window hholder (checkWindow_error_iff.mp h)
    have hwindow := checkWindow_ok_iff.mp hwindow
    rcases bind_error_iff.mp h with h | ⟨⟨⟩, hauthorization, h⟩
    · obtain ⟨hempty, rfl⟩ := checkText_error_iff.mp h
      exact .authorization hholder hwindow hempty
    have hauthorization := checkText_ok_iff.mp hauthorization
    rcases bind_error_iff.mp h with h | ⟨⟨⟩, hregistry, h⟩
    · obtain ⟨hempty, rfl⟩ := checkText_error_iff.mp h
      exact .registry hholder hwindow hauthorization hempty
    have hadmitted : a.Admitted now holder :=
      ⟨hholder, hwindow, hauthorization, checkText_ok_iff.mp hregistry⟩
    rcases bind_error_iff.mp h with h | ⟨statements, hstatements, h⟩
    · obtain ⟨cause, hcause, rfl⟩ := mapError_error_iff.mp h
      exact .content hadmitted hcause
    have hstatements := mapError_ok_iff.mp hstatements
    dsimp only at h
    split at h
    · rename_i s hs
      cases h
      exact .repeated hadmitted hstatements hs
    rename_i hnone
    have hnone := Option.eq_none_iff_forall_ne_some.mpr hnone
    obtain ⟨hash, hhash, h⟩ := (mapError_bind_error_iff (Terms.documentHash_ok _ p.hasher)).mp h
    rcases bind_error_iff.mp h with h | ⟨bytes, -, h⟩
    · obtain ⟨cause, hcause, rfl⟩ := mapError_error_iff.mp h
      exact .signing hadmitted hstatements hnone hhash hcause
    · cases h
  · rename_i hholder
    cases h
    exact .holder (Option.eq_none_iff_forall_ne_some.mpr hholder)

section

variable {holder : Did} (h : a.Admitted now holder)

include h

theorem Admitted.checkWindow :
    Application.checkWindow (a.createdAt.getD now).truncate (a.validUntil.map Instant.truncate) =
      .ok () :=
  checkWindow_ok_iff.mpr h.window

theorem Admitted.checkAuthorization : checkText .authorization a.authorization = .ok () :=
  checkText_ok_iff.mpr h.authorization

theorem Admitted.checkRegistry : checkText .registry a.registry = .ok () :=
  checkText_ok_iff.mpr h.registry

end

theorem issue_of_declined {e : IssuanceError} (h : Declined a p signer now source e) :
    a.issue p signer now source = .error e := by
  cases h with
  | holder hholder =>
    rw [issue, hholder]
    rfl
  | window hholder hwindow =>
    rw [issue, hholder]
    exact bind_error_iff.mpr (.inl (checkWindow_error_iff.mpr hwindow))
  | authorization hholder hwindow hempty =>
    rw [issue, hholder]
    refine bind_error_iff.mpr (.inr ⟨(), checkWindow_ok_iff.mpr hwindow, ?_⟩)
    exact bind_error_iff.mpr (.inl (checkText_error_iff.mpr ⟨hempty, rfl⟩))
  | registry hholder hwindow hauthorization hempty =>
    rw [issue, hholder]
    refine bind_error_iff.mpr (.inr ⟨(), checkWindow_ok_iff.mpr hwindow, ?_⟩)
    refine bind_error_iff.mpr (.inr ⟨(), checkText_ok_iff.mpr hauthorization, ?_⟩)
    exact bind_error_iff.mpr (.inl (checkText_error_iff.mpr ⟨hempty, rfl⟩))
  | content hadmitted hcause =>
    rw [issue, hadmitted.holder]
    simp only [hadmitted.checkWindow, hadmitted.checkAuthorization, hadmitted.checkRegistry, hcause]
    rfl
  | repeated hadmitted hstatements hs =>
    rw [Protocol.freshHashes] at hs
    rw [issue, hadmitted.holder]
    simp only [hadmitted.checkWindow, hadmitted.checkAuthorization, hadmitted.checkRegistry,
      hstatements, mapError_ok_bind, hs]
    rfl
  | signing hadmitted hstatements hnone hhash hcause =>
    rw [Protocol.freshHashes] at hnone hhash
    rw [terms, created, limit] at hhash
    rw [issue, hadmitted.holder]
    simp only [hadmitted.checkWindow, hadmitted.checkAuthorization, hadmitted.checkRegistry,
      hstatements, mapError_ok_bind, hnone, hhash, hcause]
    rfl

theorem issue_error_iff {e : IssuanceError} :
    a.issue p signer now source = .error e ↔ Declined a p signer now source e :=
  ⟨declined_of_issue, issue_of_declined⟩

end Application

namespace Document

variable {d : Document} {p : Protocol} {source : NonceSource}

inductive Unsound (d : Document) (p : Protocol) (source : NonceSource) : IntegrityError → Prop
  | statements {e : IntegrityError} : d.committedStatements p source = .error e → Unsound d p source e
  | contentHashes {cs : List (Statement × HashedStatement)} :
      d.committedStatements p source = .ok cs →
      sortHashes (cs.map fun c => c.2.saltedHash) ≠ d.header.terms.contentHashes →
      Unsound d p source .contentHashesMismatch
  | documentHash {cs : List (Statement × HashedStatement)} {hash : Hash} :
      d.committedStatements p source = .ok cs →
      sortHashes (cs.map fun c => c.2.saltedHash) = d.header.terms.contentHashes →
      d.header.terms.documentHash p.hasher = .ok hash → hash ≠ d.header.documentHash →
      Unsound d p source .documentHashMismatch
  | identifier {cs : List (Statement × HashedStatement)} :
      d.committedStatements p source = .ok cs →
      sortHashes (cs.map fun c => c.2.saltedHash) = d.header.terms.contentHashes →
      d.header.terms.documentHash p.hasher = .ok d.header.documentHash →
      DocumentId.mk d.header.documentHash ≠ d.header.identifier →
      Unsound d p source .identifierMismatch

theorem unsound_of_checkIntegrity {e : IntegrityError} (h : d.checkIntegrity p source = .error e) :
    Unsound d p source e := by
  rcases bind_error_iff.mp h with h | ⟨cs, hcs, h⟩
  · exact .statements h
  rcases throw_error_iff.mp h with ⟨hcontent, rfl⟩ | ⟨hcontent, h⟩
  · exact .contentHashes hcs hcontent
  have hcontent := Decidable.not_not.mp hcontent
  obtain ⟨hash, hhash, h⟩ := (mapError_bind_error_iff (Terms.documentHash_ok _ p.hasher)).mp h
  rcases throw_error_iff.mp h with ⟨hdocument, rfl⟩ | ⟨hdocument, h⟩
  · exact .documentHash hcs hcontent hhash hdocument
  obtain rfl := Decidable.not_not.mp hdocument
  rcases throw_error_iff.mp h with ⟨hidentifier, rfl⟩ | ⟨-, h⟩
  · exact .identifier hcs hcontent hhash hidentifier
  · cases h

theorem checkIntegrity_of_unsound {e : IntegrityError} (h : Unsound d p source e) :
    d.checkIntegrity p source = .error e := by
  cases h with
  | statements h => exact bind_error_iff.mpr (.inl h)
  | contentHashes hcs hcontent =>
    exact bind_error_iff.mpr (.inr ⟨_, hcs, throw_error_iff.mpr (.inl ⟨hcontent, rfl⟩)⟩)
  | documentHash hcs hcontent hhash hdocument =>
    refine bind_error_iff.mpr (.inr ⟨_, hcs, throw_error_iff.mpr (.inr ⟨not_not_intro hcontent, ?_⟩)⟩)
    refine bind_error_iff.mpr (.inr ⟨_, mapError_ok_iff.mpr hhash, ?_⟩)
    exact throw_error_iff.mpr (.inl ⟨hdocument, rfl⟩)
  | identifier hcs hcontent hhash hidentifier =>
    refine bind_error_iff.mpr (.inr ⟨_, hcs, throw_error_iff.mpr (.inr ⟨not_not_intro hcontent, ?_⟩)⟩)
    refine bind_error_iff.mpr (.inr ⟨_, mapError_ok_iff.mpr hhash, ?_⟩)
    refine throw_error_iff.mpr (.inr ⟨not_not_intro rfl, ?_⟩)
    exact throw_error_iff.mpr (.inl ⟨hidentifier, rfl⟩)

theorem checkIntegrity_error_iff {e : IntegrityError} :
    d.checkIntegrity p source = .error e ↔ Unsound d p source e :=
  ⟨unsound_of_checkIntegrity, checkIntegrity_of_unsound⟩

end Document

end SelectiveDisclosure
