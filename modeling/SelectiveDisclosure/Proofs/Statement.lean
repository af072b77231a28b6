import SelectiveDisclosure.Statement
import SelectiveDisclosure.Proofs.Except
import SelectiveDisclosure.Proofs.SortedMap

namespace SelectiveDisclosure

namespace Content

theorem ascending_of_collectParts {parts : List (Option (String × Content))}
    {done out : List (String × Content)} (hdone : Ascending done)
    (h : collectParts parts done = .ok out) : Ascending out := by
  induction parts generalizing done with
  | nil =>
    rw [collectParts, return_ok_iff] at h
    rwa [← h]
  | cons part parts ih =>
    cases part with
    | none => exact absurd h nofun
    | some e =>
      obtain ⟨-, h⟩ := throw_ok_iff.mp h
      exact ih (ascending_insertEntry e.1 e.2 hdone) h

theorem makeStatements_ok {named : List (String × Content)} {statements : List Statement}
    (h : makeStatements named = .ok statements) :
    statements.map (fun s => (s.name, s.value)) = named ∧
      ∀ s ∈ statements, encodeStatement s.name s.value = .ok s.encoded := by
  induction named generalizing statements with
  | nil =>
    rw [makeStatements, return_ok_iff] at h
    rw [← h]
    exact ⟨rfl, List.forall_mem_nil _⟩
  | cons e named ih =>
    obtain ⟨first, hfirst, h⟩ := bind_ok_iff.mp h
    obtain ⟨others, hothers, h⟩ := bind_ok_iff.mp h
    obtain ⟨encoded, hencoded, hmade⟩ := bind_ok_iff.mp (mapError_ok_iff.mp hfirst)
    obtain ⟨hmap, hall⟩ := ih hothers
    rw [← return_ok_iff.mp h, ← return_ok_iff.mp hmade, List.map_cons, hmap]
    exact ⟨rfl, List.forall_mem_cons.mpr ⟨hencoded, hall⟩⟩

theorem collectParts_spec {parts : List (Option (String × Content))}
    {done out : List (String × Content)} (h : collectParts parts done = .ok out) :
    ∃ named, parts = named.map some ∧ (named ++ done).Perm out := by
  induction parts generalizing done with
  | nil =>
    rw [collectParts, return_ok_iff] at h
    rw [← h]
    exact ⟨[], rfl, .refl _⟩
  | cons part parts ih =>
    cases part with
    | none => exact absurd h nofun
    | some e =>
      obtain ⟨hnone, h⟩ := throw_ok_iff.mp h
      obtain ⟨named, rfl, hperm⟩ := ih h
      have hnew : e.1 ∉ done.map Prod.fst := fun hmem => hnone (lookupEntry_isSome_of_mem hmem)
      refine ⟨e :: named, rfl, List.Perm.trans ?_ hperm⟩
      exact List.perm_middle.symm.trans ((insertEntry_perm hnew).symm.append_left named)

theorem decompose_spec {c : Content} {d : Decomposition} {statements : List Statement}
    (h : c.decompose d = .ok statements) : ∃ es named : List (String × Content),
      c = .object es ∧ parts d es = named.map some ∧
      named.Perm (statements.map fun s => (s.name, s.value)) := by
  cases c with
  | object es =>
    obtain ⟨out, hout, h⟩ := bind_ok_iff.mp h
    obtain ⟨-, h⟩ := throw_ok_iff.mp h
    obtain ⟨named, hnamed, hperm⟩ := collectParts_spec hout
    rw [List.append_nil] at hperm
    rw [(makeStatements_ok h).1]
    exact ⟨es, named, rfl, hnamed, hperm⟩
  | array vs => exact absurd h nofun
  | string s => exact absurd h nofun
  | number n => exact absurd h nofun
  | bool b => exact absurd h nofun

structure Decomposed (statements : List Statement) : Prop where
  ne_nil : statements ≠ []
  encoded : ∀ s ∈ statements, encodeStatement s.name s.value = .ok s.encoded
  ascending : (statements.map Statement.name).Pairwise fun m n => compare m n = .lt

theorem decomposed_of_decompose {c : Content} {d : Decomposition} {statements : List Statement}
    (h : c.decompose d = .ok statements) : Decomposed statements := by
  cases c with
  | object es =>
    obtain ⟨named, hnamed, h⟩ := bind_ok_iff.mp h
    obtain ⟨hne, h⟩ := throw_ok_iff.mp h
    obtain ⟨hmap, hencoded⟩ := makeStatements_ok h
    refine ⟨fun hnil => hne ?_, hencoded, ?_⟩
    · rw [← hmap, hnil]
      rfl
    · have hascending := ascending_of_collectParts List.Pairwise.nil hnamed
      rw [← hmap] at hascending
      exact List.pairwise_map.mpr (List.pairwise_map.mp hascending)
  | array vs => exact absurd h nofun
  | string s => exact absurd h nofun
  | number n => exact absurd h nofun
  | bool b => exact absurd h nofun

end Content

end SelectiveDisclosure
