import SelectiveDisclosure.Proofs.Presentation

namespace SelectiveDisclosure

namespace Registry

def Registered (calls : List Call) (document : DidDocument) : Prop :=
  ∃ earlier later next, calls = earlier ++ .register document :: later ∧
    (after earlier).register document = .ok next

theorem registered_append {calls : List Call} {document : DidDocument}
    (h : Registered calls document) (more : List Call) : Registered (calls ++ more) document := by
  obtain ⟨earlier, later, next, rfl, hnext⟩ := h
  refine ⟨earlier, later ++ more, next, ?_, hnext⟩
  rw [List.append_assoc, List.cons_append]

theorem mem_deactivated_call {r : Registry} {c : Call} {did : Did} :
    did ∈ (r.call c).deactivated ↔ did ∈ r.deactivated ∨ .deactivate did = c := by
  cases c with
  | register document =>
    have hsame : (r.call (.register document)).deactivated = r.deactivated := by
      rw [call, register]
      split
      · rename_i next hnext
        split at hnext
        · cases hnext
        · rw [← Except.ok.inj hnext]
      · rfl
    rw [hsame]
    simp
  | deactivate other =>
    rw [call, deactivate, List.mem_cons, Call.deactivate.injEq]
    exact Or.comm

theorem mem_deactivated_foldl {calls : List Call} {r : Registry} {did : Did} :
    did ∈ (calls.foldl call r).deactivated ↔ did ∈ r.deactivated ∨ .deactivate did ∈ calls := by
  induction calls generalizing r with
  | nil => simp
  | cons c calls ih => rw [List.foldl_cons, ih, mem_deactivated_call, List.mem_cons, or_assoc]

theorem isDeactivated_after_iff {calls : List Call} {did : Did} :
    (after calls).isDeactivated did = true ↔ .deactivate did ∈ calls := by
  rw [isDeactivated, List.contains_iff_mem, after, mem_deactivated_foldl]
  simp [empty]

theorem not_mem_of_document_after {calls : List Call} {did : Did} {d : DidDocument}
    (h : (after calls).document did = .ok d) : .deactivate did ∉ calls := by
  intro hmem
  rw [document, if_pos (isDeactivated_after_iff.mpr hmem)] at h
  cases h

theorem registered_of_mem_call {calls : List Call} {c : Call} {e : Did × DidDocument}
    (h : e ∈ ((after calls).call c).documents.entries) :
    e ∈ (after calls).documents.entries ∨ Registered (calls ++ [c]) e.2 := by
  cases c with
  | register document =>
    rw [call] at h
    split at h
    · rename_i next hnext
      have hnext' := hnext
      rw [register] at hnext'
      split at hnext'
      · cases hnext'
      · rw [← Except.ok.inj hnext'] at h
        rcases mem_insertEntry h with rfl | h
        · exact .inr ⟨calls, [], next, rfl, hnext⟩
        · exact .inl h
    · exact .inl h
  | deactivate did => exact .inl (List.mem_of_mem_filter h)

-- The calls before stand for the registry they lead to, since a registration is judged by them.
theorem registered_of_mem_foldl {calls earlier : List Call} {e : Did × DidDocument}
    (hearlier : ∀ e ∈ (after earlier).documents.entries, Registered earlier e.2)
    (h : e ∈ (calls.foldl call (after earlier)).documents.entries) :
    Registered (earlier ++ calls) e.2 := by
  induction calls generalizing earlier with
  | nil =>
    rw [List.append_nil]
    exact hearlier e h
  | cons c calls ih =>
    have hstep : after (earlier ++ [c]) = (after earlier).call c := by
      rw [after, after, List.foldl_append, List.foldl_cons, List.foldl_nil]
    have hnext : ∀ e ∈ (after (earlier ++ [c])).documents.entries,
        Registered (earlier ++ [c]) e.2 := by
      intro e he
      rw [hstep] at he
      rcases registered_of_mem_call he with he | he
      · exact registered_append (hearlier e he) [c]
      · exact he
    rw [List.foldl_cons, ← hstep] at h
    rw [List.append_cons]
    exact ih hnext h

theorem registered_of_mem_after {calls : List Call} {e : Did × DidDocument}
    (h : e ∈ (after calls).documents.entries) : Registered calls e.2 := by
  have hnone : ∀ e ∈ (after []).documents.entries, Registered [] e.2 := List.forall_mem_nil _
  exact registered_of_mem_foldl hnone h

theorem registered_of_names_assertionMethod {calls : List Call} {did : Did} {d : DidDocument}
    {fragment : String} (hd : (after calls).document did = .ok d)
    (hnames : d.Names .assertionMethod fragment) : Registered calls d := by
  rw [document] at hd
  split at hd
  · cases hd
  · rw [← Except.ok.inj hd] at hnames ⊢
    cases hget : (after calls).documents.get? did with
    | none =>
      rw [hget] at hnames
      obtain ⟨key, hkey, -⟩ := hnames
      exact absurd hkey List.not_mem_nil
    | some stored => exact registered_of_mem_after (SortedMap.get?_eq_some_iff.mp hget)

end Registry

theorem verified_parties_active {calls : List Registry.Call} {delay : Nat} {p : Presentation}
    {q : Protocol} {e : Expectations} {now : Instant} {v : VerifiedPresentation}
    (h : (p.verify q ⟨delay, (Registry.after calls).resolve⟩ e now).result = .ok v) :
    (∃ document, document.id = p.header.terms.issuer ∧ Registry.Registered calls document) ∧
      .deactivate p.header.terms.issuer ∉ calls ∧ .deactivate p.header.terms.holder ∉ calls := by
  obtain ⟨hpasses, -⟩ := Presentation.verify_result_ok_iff.mp h
  obtain ⟨k, hk, hpurpose, hissuer, -⟩ :=
    Presentation.proveIssuerSignature_ok_iff.mp hpasses.issuerSignature
  obtain ⟨d, first, hvouched⟩ := Registry.vouched_of_resolve (Resolver.resolveWithin_ok_iff.mp hk).2
  have hissued := hvouched.document
  rw [← hvouched.controller, hissuer] at hissued
  obtain ⟨_, _, _, hheld, -⟩ := holder_key_authority hpasses.holderSignature
  have hregistered :=
    Registry.registered_of_names_assertionMethod hissued ((hvouched.purposes _).mp hpurpose)
  exact ⟨⟨d, Registry.document_id (Registry.keyed_after calls) hissued, hregistered⟩,
    Registry.not_mem_of_document_after hissued, Registry.not_mem_of_document_after hheld⟩

theorem sample_parties_active : ∃ d shown v,
    sampleApplication.issue .standard sampleIssuer default sampleSource = .ok d ∧
    d.present .standard ["r\u00e9sum\u00e9"] sampleHolder "challenge" sampleSource = .ok shown ∧
    (shown.verify .standard sampleResolver sampleExpectations sampleTime).result = .ok v ∧
    (∃ document, document.id = shown.header.terms.issuer ∧
      Registry.Registered sampleCalls document) ∧
    .deactivate shown.header.terms.issuer ∉ sampleCalls ∧
    .deactivate shown.header.terms.holder ∉ sampleCalls := by
  obtain ⟨d, shown, hissue, hpresent, -, hpasses⟩ := sample_passes
  have hverify := Presentation.verify_result_ok_iff.mpr ⟨hpasses, rfl⟩
  exact ⟨d, shown, _, hissue, hpresent, hverify, verified_parties_active hverify⟩

end SelectiveDisclosure
