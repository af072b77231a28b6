import SelectiveDisclosure.Proofs.Arrangement
import SelectiveDisclosure.Proofs.Integrity
import SelectiveDisclosure.Proofs.Refusal

namespace SelectiveDisclosure

namespace Presentation

-- The signed text of a time names all that a time on the clock is compared with.
theorem proveValidity_congr {s t : Presentation}
    (hcreated : s.header.terms.createdAt.written = t.header.terms.createdAt.written)
    (hlimit : s.header.terms.validUntil.map Instant.written =
      t.header.terms.validUntil.map Instant.written) {now : Instant}
    (h : now.OnClock ∨ s.header.terms.OnClock ∧ t.header.terms.OnClock) :
    s.proveValidity now = t.proveValidity now := by
  rw [proveValidity, proveValidity,
    Instant.truncate_notAfter_congr hcreated (h.imp_right (And.imp And.left And.left))]
  cases hs : s.header.terms.validUntil with
  | none =>
    rw [hs, Option.map_none, eq_comm, Option.map_eq_none_iff] at hlimit
    rw [hlimit]
  | some limit =>
    rw [hs, Option.map_some, eq_comm, Option.map_eq_some_iff] at hlimit
    obtain ⟨other, ht, hlimit⟩ := hlimit
    dsimp only
    rw [ht, Instant.truncate_before_congr hlimit.symm
      (h.imp_right fun hboth => ⟨hboth.1.2 limit hs, hboth.2.2 other ht⟩)]

end Presentation

namespace Application

theorem issue_invalidWindow_iff {a : Application} (hholder : a.holder.isSome) (p : Protocol)
    (signer : Signer) (now : Instant) (source : NonceSource) :
    a.issue p signer now source = .error .invalidWindow ↔
      checkWindow (a.createdAt.getD now).truncate (a.validUntil.map Instant.truncate) =
        .error .invalidWindow := by
  obtain ⟨holder, hholder⟩ := Option.isSome_iff_exists.mp hholder
  rw [issue_error_iff, checkWindow_error_iff]
  constructor
  · intro h
    cases h with
    | window _ hwindow => exact hwindow
  · exact .window hholder

end Application

namespace Presentation

-- A window that any time is in, has its own beginning in it.
theorem proveValidity_ne_ok_iff {shown : Presentation} :
    (∀ now, shown.proveValidity now ≠ .ok ()) ↔
      ∃ limit ∈ shown.header.terms.validUntil.map Instant.truncate,
        shown.header.terms.createdAt.truncate.before limit = false := by
  constructor
  · intro h
    have hcreated := mt proveValidity_ok_iff.mpr (h shown.header.terms.createdAt.truncate)
    rw [Instant.truncate_truncate, not_and, not_forall₂] at hcreated
    obtain ⟨limit, hlimit, hbefore⟩ :=
      hcreated (Instant.notAfter_iff.mpr (.inr ⟨rfl, Nat.le_refl _⟩))
    exact ⟨limit.truncate, Option.mem_map_of_mem _ hlimit, Bool.eq_false_iff.mpr hbefore⟩
  · rintro ⟨_, hmap, hbefore⟩ now hnow
    obtain ⟨limit, hlimit, rfl⟩ := Option.map_eq_some_iff.mp hmap
    obtain ⟨hcreated, hall⟩ := proveValidity_ok_iff.mp hnow
    exact Bool.eq_false_iff.mp hbefore (Instant.before_of_notAfter_of_before hcreated (hall _ hlimit))

end Presentation

theorem validity_of_signed (a : Application) (p : Protocol) (signer : Signer) (issued : Instant)
    (source : NonceSource) (hasher : Hasher) (s t : Presentation) :
    (∀ i : Instant, i.IsLastWhole i.truncate) ∧
    (∀ now, s.proveValidity now = .ok () ↔
      s.header.terms.createdAt.truncate.notAfter now.truncate = true ∧
        ∀ limit ∈ s.header.terms.validUntil, now.truncate.before limit.truncate = true) ∧
    (s.header.documentHash = t.header.documentHash →
      s.proveDigests hasher = .ok () → t.proveDigests hasher = .ok () →
      (∀ now : Instant, now.OnClock ∨ s.header.terms.OnClock ∧ t.header.terms.OnClock →
          s.proveValidity now = t.proveValidity now) ∨
        ∃ x y, s.header.terms.payload.encode = .ok x ∧ t.header.terms.payload.encode = .ok y ∧
          x ≠ y ∧ hasher x none = hasher y none) ∧
    (a.holder.isSome →
      s.header.terms.createdAt.truncate = (a.createdAt.getD issued).truncate →
      s.header.terms.validUntil.map Instant.truncate = a.validUntil.map Instant.truncate →
      (a.issue p signer issued source = .error .invalidWindow ↔
        ∀ now, s.proveValidity now ≠ .ok ())) := by
  refine ⟨Instant.isLastWhole_truncate, fun _ => Presentation.proveValidity_ok_iff, ?_, ?_⟩
  · intro hhash hs ht
    obtain ⟨-, -, hs, -⟩ := Presentation.proveDigests_ok_iff.mp hs
    obtain ⟨-, -, ht, -⟩ := Presentation.proveDigests_ok_iff.mp ht
    rw [← hhash] at ht
    refine (Terms.agrees_or_payloads_collide hs ht).imp_left fun hagrees => ?_
    exact fun _ => Presentation.proveValidity_congr hagrees.createdAt hagrees.validUntil
  · intro hholder hcreated hlimit
    rw [Application.issue_invalidWindow_iff hholder, checkWindow_error_iff,
      Presentation.proveValidity_ne_ok_iff, hcreated, hlimit]

def pairWithin (created : Instant) (limit : Option Instant) : Presentation :=
  { pairPresentation with
    header := { pairPresentation.header with
      terms := { pairTerms with createdAt := created, validUntil := limit } } }

theorem pairWithin_agrees {created : Instant} (h : created.written = pairTerms.createdAt.written) :
    (pairWithin created pairTerms.validUntil).header.terms.Agrees pairTerms where
  contentHashes := .refl _
  issuer := rfl
  holder := rfl
  evidenceIds := rfl
  authorization := rfl
  registry := rfl
  createdAt := h
  validUntil := rfl

theorem pairWithin_proveDigests {created : Instant}
    (h : created.written = pairTerms.createdAt.written) :
    (pairWithin created pairTerms.validUntil).proveDigests Protocol.standard.hasher = .ok () := by
  obtain ⟨hnodup, hcommitted, hdocument, hidentifier⟩ :=
    Presentation.proveDigests_ok_iff.mp pair_passes.digests
  exact Presentation.proveDigests_ok_iff.mpr ⟨hnodup, hcommitted,
    (Terms.documentHash_eq_of_agrees (pairWithin_agrees h) _).trans hdocument, hidentifier⟩

def laterInSecond : Instant := (Instant.make? 1000 7).getD default

theorem laterInSecond_valid :
    ((∀ now, (pairWithin laterInSecond pairTerms.validUntil).proveValidity now =
        pairPresentation.proveValidity now) ∨
      ∃ x y, (pairWithin laterInSecond pairTerms.validUntil).header.terms.payload.encode = .ok x ∧
        pairTerms.payload.encode = .ok y ∧
        x ≠ y ∧ Protocol.standard.hasher x none = Protocol.standard.hasher y none) ∧
    sampleApplication.issue .standard sampleIssuer sampleTime sampleSource ≠
      .error .invalidWindow := by
  obtain ⟨-, -, hverdict, hwindow⟩ := validity_of_signed sampleApplication .standard sampleIssuer
    sampleTime sampleSource Protocol.standard.hasher (pairWithin laterInSecond pairTerms.validUntil)
    pairPresentation
  have hclock : (pairWithin laterInSecond pairTerms.validUntil).header.terms.OnClock ∧
      pairPresentation.header.terms.OnClock := by decide
  refine ⟨(hverdict rfl (pairWithin_proveDigests rfl) pair_passes.digests).imp_left ?_,
    fun herror => ?_⟩
  · exact fun hall now => hall now (.inr hclock)
  · exact (hwindow rfl rfl rfl).mp herror sampleTime rfl

-- The leap second at the end of 2016.
def leapSecond : Instant := (Instant.make? 1483228799 1000000000).getD default

def offClockSecond : Instant := ⟨999, leapSecond.nano, leapSecond.valid⟩

def leapApplication : Application :=
  { sampleApplication with
    createdAt := some leapSecond
    validUntil := some (.whole 1483228800) }

-- The text of the off-clock second names the next one, but a clock at that second tells them apart. The
-- window of the application is a leap second alone, which a clock without leap seconds never shows.
theorem leap_seconds_told_apart :
    ((pairWithin offClockSecond pairTerms.validUntil).header.documentHash =
        pairPresentation.header.documentHash ∧
      (pairWithin offClockSecond pairTerms.validUntil).header.terms.payload.encode =
        pairPresentation.header.terms.payload.encode ∧
      (pairWithin offClockSecond pairTerms.validUntil).proveDigests Protocol.standard.hasher = .ok () ∧
      pairPresentation.proveDigests Protocol.standard.hasher = .ok () ∧
      (pairWithin offClockSecond pairTerms.validUntil).proveValidity offClockSecond = .ok () ∧
      pairPresentation.proveValidity offClockSecond = .error .documentNotYetValid) ∧
    leapApplication.issue .standard sampleIssuer sampleTime sampleSource ≠ .error .invalidWindow ∧
    ∀ now : Instant, now.nano < 1000000000 →
      (pairWithin leapSecond (some (.whole 1483228800))).proveValidity now ≠ .ok () := by
  refine ⟨⟨rfl, Terms.encode_payload_eq_iff.mpr (pairWithin_agrees rfl), pairWithin_proveDigests rfl,
    pair_passes.digests, rfl, rfl⟩, ?_, fun now hnow hvalid => ?_⟩
  · rw [ne_eq, Application.issue_invalidWindow_iff rfl]
    decide
  · have hwhole : now.truncate = .whole now.second := if_pos hnow
    obtain ⟨hcreated, hlimit⟩ := Presentation.proveValidity_ok_iff.mp hvalid
    have hlimit := hlimit _ rfl
    rw [hwhole] at hcreated hlimit
    have hafter : 1483228799 < now.second ∨ 1483228799 = now.second ∧ 1000000000 ≤ 0 :=
      Instant.notAfter_iff.mp hcreated
    have hbefore : now.second < 1483228800 ∨ now.second = 1483228800 ∧ 0 < 0 :=
      Instant.before_iff.mp hlimit
    omega

end SelectiveDisclosure
