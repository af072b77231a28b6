import SelectiveDisclosure.Proofs.Payload
import SelectiveDisclosure.Proofs.Time.Rfc3339

namespace SelectiveDisclosure

namespace Terms

-- Times agree in the second that their RFC 3339 text names.
structure Agrees (s t : Terms) : Prop where
  contentHashes : s.contentHashes.Perm t.contentHashes
  issuer : s.issuer = t.issuer
  holder : s.holder = t.holder
  evidenceIds : s.evidenceIds = t.evidenceIds
  authorization : Text.normalize (s.authorization.getD "") = Text.normalize (t.authorization.getD "")
  registry : Text.normalize (s.registry.getD "") = Text.normalize (t.registry.getD "")
  createdAt : s.createdAt.written = t.createdAt.written
  validUntil : s.validUntil.map Instant.written = t.validUntil.map Instant.written

def OnClock (t : Terms) : Prop := t.createdAt.OnClock ∧ ∀ limit ∈ t.validUntil, limit.OnClock

instance (t : Terms) : Decidable t.OnClock :=
  inferInstanceAs (Decidable (_ ∧ ∀ limit ∈ t.validUntil, limit.OnClock))

theorem limitText_eq_iff {s t : Option Instant} :
    Text.normalize ((s.map Rfc3339.secondsText).getD "") =
        Text.normalize ((t.map Rfc3339.secondsText).getD "") ↔
      s.map Instant.written = t.map Instant.written := by
  have hempty : Text.normalize "" = "" := rfl
  cases s with
  | none =>
    cases t with
    | none => simp
    | some t => simp [hempty, (Rfc3339.secondsText_ne_empty t).symm]
  | some s =>
    cases t with
    | none => simp [hempty]
    | some t => simp [Rfc3339.secondsText_eq_iff]

theorem payload_equivalent_iff_agrees {s t : Terms} :
    Content.Equivalent s.payload t.payload ↔ s.Agrees t := by
  rw [payload_equivalent_iff, sortHashes_eq_iff, Rfc3339.normalize_secondsText,
    Rfc3339.normalize_secondsText, Rfc3339.secondsText_eq_iff, limitText_eq_iff]
  constructor
  · rintro ⟨hauthorization, hhashes, hcreated, hevidence, hholder, hissuer, hregistry, hlimit⟩
    exact ⟨hhashes, hissuer, hholder, hevidence, hauthorization, hregistry, hcreated, hlimit⟩
  · rintro ⟨hhashes, hissuer, hholder, hevidence, hauthorization, hregistry, hcreated, hlimit⟩
    exact ⟨hauthorization, hhashes, hcreated, hevidence, hholder, hissuer, hregistry, hlimit⟩

theorem payload_ok (t : Terms) : ∃ x, t.payload.encode = .ok x := by
  have hhashes := hashTexts_normalizes (by decide : 1 < Content.maxDepth) t.contentHashes
  have hevidence : ∃ n, Content.normalizeAt 1 (.array (t.evidenceIds.map fun i => .string i.text)) =
      .ok n := by
    refine Content.normalizeAt_array_ok_iff.mpr ⟨by decide, fun v hv => ?_⟩
    obtain ⟨i, -, rfl⟩ := List.mem_map.mp hv
    exact Content.normalizeAt_string_ok_iff.mpr (by decide)
  refine Content.encode_ok_iff.mpr (Content.normalizeAt_object_ok_iff.mpr ⟨by decide, ?_, ?_⟩)
  · rw [Content.normalKeys_of_basic payloadNames rfl (by decide)]
    decide
  · simp only [List.forall_mem_cons, Content.normalizeAt_string_ok_iff]
    exact ⟨by decide, hhashes, by decide, hevidence, by decide, by decide, by decide, by decide,
      List.forall_mem_nil _⟩

theorem documentHash_of_payload {t : Terms} {x : String} (hx : t.payload.encode = .ok x)
    (hasher : Hasher) : t.documentHash hasher = .ok (hasher x none) := by
  rw [documentHash, hx]
  rfl

theorem documentHash_ok (t : Terms) (hasher : Hasher) : ∃ hash, t.documentHash hasher = .ok hash := by
  obtain ⟨x, hx⟩ := payload_ok t
  exact ⟨_, documentHash_of_payload hx hasher⟩

theorem encode_payload_eq_iff {s t : Terms} :
    s.payload.encode = t.payload.encode ↔ s.Agrees t := by
  obtain ⟨x, hx⟩ := payload_ok s
  obtain ⟨y, hy⟩ := payload_ok t
  rw [← payload_equivalent_iff_agrees,
    ← Content.encode_eq_iff (c := s.payload) (d := t.payload) trivial trivial hx hy, hx, hy,
    Except.ok.injEq]

theorem documentHash_eq_of_agrees {s t : Terms} (h : s.Agrees t) (hasher : Hasher) :
    s.documentHash hasher = t.documentHash hasher := by
  rw [documentHash, documentHash, encode_payload_eq_iff.mpr h]

theorem agrees_or_payloads_collide {hasher : Hasher} {s t : Terms} {hash : Hash}
    (hs : s.documentHash hasher = .ok hash) (ht : t.documentHash hasher = .ok hash) :
    s.Agrees t ∨ ∃ x y, s.payload.encode = .ok x ∧ t.payload.encode = .ok y ∧
      x ≠ y ∧ hasher x none = hasher y none := by
  obtain ⟨x, hx⟩ := payload_ok s
  obtain ⟨y, hy⟩ := payload_ok t
  rw [documentHash_of_payload hx] at hs
  rw [documentHash_of_payload hy] at ht
  by_cases hxy : x = y
  · exact .inl (encode_payload_eq_iff.mp (by rw [hx, hy, hxy]))
  · exact .inr ⟨x, y, hx, hy, hxy, Except.ok.inj (hs.trans ht.symm)⟩

end Terms

end SelectiveDisclosure
