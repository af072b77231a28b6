import SelectiveDisclosure.Proofs.Deactivation

namespace SelectiveDisclosure

namespace DidDocument

theorem firstKey?_eq_none_iff {d : DidDocument} {fragment : String} :
    d.firstKey? fragment = none ↔ ∀ r, ¬d.Names r fragment := by
  rw [firstKey?, List.find?_eq_none]
  constructor
  · rintro h r ⟨e, he, hid⟩
    refine h e ?_ (decide_eq_true hid)
    cases r with
    | authentication => exact List.mem_append_left _ he
    | assertionMethod => exact List.mem_append_right _ (List.mem_append_left _ he)
    | capabilityDelegation => exact List.mem_append_right _ (List.mem_append_right _ he)
  · intro h e he hid
    have hid := of_decide_eq_true hid
    rcases List.mem_append.mp he with he | he
    · exact h .authentication ⟨e, he, hid⟩
    · rcases List.mem_append.mp he with he | he
      · exact h .assertionMethod ⟨e, he, hid⟩
      · exact h .capabilityDelegation ⟨e, he, hid⟩

end DidDocument

namespace Registry

def Call.did : Call → Did
  | .register document => document.id
  | .deactivate did => did

def Call.registered? (did : Did) : Call → Option DidDocument
  | .register document => if document.id = did then some document else none
  | .deactivate _ => none

theorem Call.registered?_of_did_ne {c : Call} {did : Did} (h : c.did ≠ did) :
    c.registered? did = none := by
  cases c with
  | register document => exact if_neg h
  | deactivate other => rfl

def lastRegistered? (calls : List Call) (did : Did) : Option DidDocument :=
  (calls.filterMap (Call.registered? did)).getLast?

theorem lastRegistered?_cons (c : Call) (calls : List Call) (did : Did) :
    lastRegistered? (c :: calls) did = (lastRegistered? calls did).or (c.registered? did) := by
  rw [lastRegistered?, List.filterMap_cons]
  cases c.registered? did with
  | none => exact (Option.or_none).symm
  | some document =>
    dsimp only
    rw [List.getLast?_cons, lastRegistered?]
    cases (calls.filterMap (Call.registered? did)).getLast? <;> rfl

def documentOf (calls : List Call) (did : Did) : DidDocument :=
  (lastRegistered? calls did).getD (DidDocument.minimal did)

theorem call_register_of_deactivated {r : Registry} {document : DidDocument}
    (h : document.id ∈ r.deactivated) : r.call (.register document) = r := by
  have hrefused : r.register document = .error (.deactivated document.id) :=
    if_pos (List.contains_iff_mem.mpr h)
  rw [call, hrefused]

theorem call_register_of_active {r : Registry} {document : DidDocument}
    (h : document.id ∉ r.deactivated) :
    r.call (.register document) = ⟨r.documents.insert document.id document, r.deactivated⟩ := by
  have htaken : r.register document =
      .ok ⟨r.documents.insert document.id document, r.deactivated⟩ :=
    if_neg (mt List.contains_iff_mem.mp h)
  rw [call, htaken]

theorem get?_call {r : Registry} {c : Call} {did : Did} (hactive : did ∉ r.deactivated)
    (hc : .deactivate did ≠ c) :
    (r.call c).documents.get? did = (c.registered? did).or (r.documents.get? did) := by
  cases c with
  | register document =>
    by_cases hid : document.id = did
    · rw [call_register_of_active (hid ▸ hactive), Call.registered?, if_pos hid, hid]
      simp
    · rw [Call.registered?, if_neg hid, Option.none_or]
      by_cases hother : document.id ∈ r.deactivated
      · rw [call_register_of_deactivated hother]
      · rw [call_register_of_active hother, SortedMap.get?_insert, if_neg (Ne.symm hid)]
  | deactivate other =>
    have hne : did ≠ other := fun h => hc (congrArg Call.deactivate h)
    exact SortedMap.get?_erase_ne r.documents hne

-- The registry that the calls start from is general: what it holds is what is left when none of them
-- registers the identifier.
theorem get?_foldl {calls : List Call} {r : Registry} {did : Did} (hactive : did ∉ r.deactivated)
    (h : .deactivate did ∉ calls) :
    (calls.foldl call r).documents.get? did =
      (lastRegistered? calls did).or (r.documents.get? did) := by
  induction calls generalizing r with
  | nil => rfl
  | cons c calls ih =>
    obtain ⟨hc, hcalls⟩ := List.ne_and_not_mem_of_not_mem_cons h
    have hnext : did ∉ (r.call c).deactivated :=
      mt mem_deactivated_call.mp (not_or.mpr ⟨hactive, hc⟩)
    rw [List.foldl_cons, ih hnext hcalls, get?_call hactive hc, lastRegistered?_cons, Option.or_assoc]

theorem document_after_of_active {calls : List Call} {did : Did} (h : .deactivate did ∉ calls) :
    (after calls).document did = .ok (documentOf calls did) := by
  have hnone : empty.documents.get? did = none := rfl
  have hget := get?_foldl (r := empty) List.not_mem_nil h
  rw [hnone, Option.or_none] at hget
  rw [document, if_neg (mt isDeactivated_after_iff.mp h), documentOf, after, hget]

structure Refuses (r : Registry) (did : Did) : Prop where
  document : r.document did = .error (.deactivated did)
  resolve : ∀ fragment, r.resolve ⟨did, fragment⟩ = .error (.deactivated did)
  register : ∀ document, document.id = did → r.register document = .error (.deactivated did)
  unchanged : ∀ document, document.id = did → r.call (.register document) = r

theorem resolve_of_document_error {r : Registry} {u : KeyUri} {e : ResolveError}
    (h : r.document u.did = .error e) : r.resolve u = .error e := by
  rw [resolve, h]

theorem refuses_after_of_deactivated {calls : List Call} {did : Did}
    (h : .deactivate did ∈ calls) : (after calls).Refuses did := by
  have hdeactivated := isDeactivated_after_iff.mpr h
  have hdocument : (after calls).document did = .error (.deactivated did) := if_pos hdeactivated
  refine ⟨hdocument, fun fragment => resolve_of_document_error hdocument, ?_, ?_⟩
  · rintro document rfl
    exact if_pos hdeactivated
  · rintro document rfl
    exact call_register_of_deactivated (List.contains_iff_mem.mp hdeactivated)

theorem Refuses.after_skip {calls : List Call} {document : DidDocument}
    (h : (after calls).Refuses document.id) (more : List Call) :
    after (calls ++ .register document :: more) = after (calls ++ more) := by
  rw [after, after, List.foldl_append, List.foldl_append, List.foldl_cons]
  exact congrArg (more.foldl call) (h.unchanged document rfl)

structure AnswersFrom (r : Registry) (u : KeyUri) (d : DidDocument) : Prop where
  document : r.document u.did = .ok d
  resolve_ok_iff : ∀ k, r.resolve u = .ok k ↔ ∃ key, d.firstKey? u.fragment = some key ∧
    k = ⟨u, u.did, key.publicKey, Relationship.all.filter fun q => d.Names q u.fragment⟩
  resolve_error_iff : ∀ e, r.resolve u = .error e ↔
    e = .keyNotFound u ∧ ∀ q, ¬d.Names q u.fragment

theorem answersFrom_of_document {r : Registry} {u : KeyUri} {d : DidDocument} (hkeyed : r.Keyed)
    (hd : r.document u.did = .ok d) : r.AnswersFrom u d where
  document := hd
  resolve_ok_iff k := by
    rw [resolve_ok_iff, hd, ← document_id hkeyed hd]
    constructor
    · rintro ⟨_, key, h, hkey, hk⟩
      cases h
      exact ⟨key, hkey, hk⟩
    · rintro ⟨key, hkey, hk⟩
      exact ⟨d, key, rfl, hkey, hk⟩
  resolve_error_iff e := by
    rw [← DidDocument.firstKey?_eq_none_iff, resolve, hd]
    dsimp only
    rw [DidDocument.findKey_eq]
    cases d.firstKey? u.fragment with
    | none =>
      rw [Option.map_none]
      exact ⟨fun h => ⟨(Except.error.inj h).symm, rfl⟩, fun h => congrArg Except.error h.1.symm⟩
    | some key =>
      constructor
      · intro h
        cases h
      · rintro ⟨-, h⟩
        cases h

theorem answersFrom_after_of_active {calls : List Call} {u : KeyUri}
    (h : .deactivate u.did ∉ calls) : (after calls).AnswersFrom u (documentOf calls u.did) :=
  answersFrom_of_document (keyed_after calls) (document_after_of_active h)

theorem documentOf_filter (calls : List Call) (did : Did) :
    documentOf (calls.filter fun c => c.did = did) did = documentOf calls did := by
  have hregistered : ∀ c : Call,
      (if decide (c.did = did) = true then c.registered? did else none) = c.registered? did := by
    intro c
    split
    · rfl
    · rename_i hc
      exact (Call.registered?_of_did_ne (mt decide_eq_true hc)).symm
  rw [documentOf, documentOf, lastRegistered?, lastRegistered?, List.filterMap_filter]
  simp only [hregistered]

theorem deactivate_mem_filter_iff {calls : List Call} {did : Did} :
    .deactivate did ∈ calls.filter (fun c => c.did = did) ↔ .deactivate did ∈ calls := by
  rw [List.mem_filter]
  exact and_iff_left (decide_eq_true rfl)

theorem document_after_filter (calls : List Call) (did : Did) :
    (after (calls.filter fun c => c.did = did)).document did = (after calls).document did := by
  by_cases h : .deactivate did ∈ calls
  · rw [(refuses_after_of_deactivated h).document,
      (refuses_after_of_deactivated (deactivate_mem_filter_iff.mpr h)).document]
  · rw [document_after_of_active h, document_after_of_active (mt deactivate_mem_filter_iff.mp h),
      documentOf_filter]

theorem resolve_congr {r s : Registry} {u : KeyUri} (h : r.document u.did = s.document u.did) :
    r.resolve u = s.resolve u := by
  rw [resolve, resolve, h]

theorem history_decides_answers (calls : List Call) (u : KeyUri) :
    (.deactivate u.did ∈ calls → (after calls).Refuses u.did ∧
      ∀ document, document.id = u.did → ∀ more,
        after (calls ++ .register document :: more) = after (calls ++ more)) ∧
    (.deactivate u.did ∉ calls → (after calls).AnswersFrom u (documentOf calls u.did)) ∧
    (after (calls.filter fun c => c.did = u.did)).document u.did = (after calls).document u.did ∧
    (after (calls.filter fun c => c.did = u.did)).resolve u = (after calls).resolve u := by
  have hsame := document_after_filter calls u.did
  refine ⟨fun h => ?_, answersFrom_after_of_active, hsame, resolve_congr hsame⟩
  have hrefuses := refuses_after_of_deactivated h
  refine ⟨hrefuses, ?_⟩
  intro document hid more
  exact Refuses.after_skip (hid ▸ hrefuses) more

def reregisteredCalls : List Call :=
  [.register (twoKeyDocument generatorKey generatorKey), .deactivate ⟨doubledKey⟩,
    .register (twoKeyDocument generatorKey doubledKey), .register (.minimal ⟨doubledKey⟩)]

theorem reregistered_history_answers :
    (after reregisteredCalls).Refuses ⟨doubledKey⟩ ∧
    (after reregisteredCalls).AnswersFrom ⟨⟨generatorKey⟩, "key"⟩
      (twoKeyDocument generatorKey doubledKey) := by
  have hdeactivated : .deactivate ⟨doubledKey⟩ ∈ reregisteredCalls :=
    List.mem_cons_of_mem _ (List.mem_cons_self ..)
  have hactive : .deactivate ⟨generatorKey⟩ ∉ reregisteredCalls := by
    have hne : generatorKey ≠ doubledKey := by decide
    simp [reregisteredCalls, hne]
  obtain ⟨hrefuses, -⟩ := history_decides_answers reregisteredCalls ⟨⟨doubledKey⟩, "key"⟩
  obtain ⟨-, hanswers, -⟩ := history_decides_answers reregisteredCalls ⟨⟨generatorKey⟩, "key"⟩
  exact ⟨(hrefuses hdeactivated).1, hanswers hactive⟩

end Registry

end SelectiveDisclosure
