import SelectiveDisclosure.Canonical
import SelectiveDisclosure.Proofs.Except
import SelectiveDisclosure.Proofs.SortedMap

namespace SelectiveDisclosure

namespace Content

def normalKeys (es : List (String × Content)) : List String := es.map fun e => Text.normalize e.1

theorem normalizeEntries_ok_iff {es done : List (String × Content)} {depth : Nat} :
    (∃ out, normalizeEntries depth es done = .ok out) ↔
      (normalKeys es).Nodup ∧ (∀ k ∈ normalKeys es, k ∉ done.map Prod.fst) ∧
        ∀ e ∈ es, ∃ n, normalizeAt depth e.2 = .ok n := by
  induction es generalizing done with
  | nil =>
    refine iff_of_true ⟨done, rfl⟩ ⟨List.nodup_nil, ?_, ?_⟩
    · exact List.forall_mem_nil _
    · exact List.forall_mem_nil _
  | cons e es ih =>
    constructor
    · rintro ⟨out, h⟩
      obtain ⟨hnone, h⟩ := throw_ok_iff.mp h
      obtain ⟨n, hn, h⟩ := bind_ok_iff.mp h
      have hnew : Text.normalize e.1 ∉ done.map Prod.fst :=
        fun hmem => hnone (lookupEntry_isSome_of_mem hmem)
      obtain ⟨hes, hdone, hall⟩ := ih.mp ⟨out, h⟩
      obtain ⟨hhead, htail⟩ := (fresh_insertEntry_iff hnew).mp hdone
      exact ⟨List.nodup_cons.mpr ⟨hhead, hes⟩, List.forall_mem_cons.mpr ⟨hnew, htail⟩,
        List.forall_mem_cons.mpr ⟨⟨n, hn⟩, hall⟩⟩
    · rintro ⟨hes, hdone, hall⟩
      obtain ⟨hhead, hes⟩ := List.nodup_cons.mp hes
      obtain ⟨hnew, htail⟩ := List.forall_mem_cons.mp hdone
      obtain ⟨⟨n, hn⟩, hall⟩ := List.forall_mem_cons.mp hall
      obtain ⟨out, hout⟩ := ih.mpr ⟨hes, (fresh_insertEntry_iff hnew).mpr ⟨hhead, htail⟩, hall⟩
      refine ⟨out, throw_ok_iff.mpr ⟨fun hsome => hnew ?_, bind_ok_iff.mpr ⟨n, hn, hout⟩⟩⟩
      obtain ⟨m, hm⟩ := Option.isSome_iff_exists.mp hsome
      exact List.mem_map_of_mem (mem_of_lookupEntry hm)

theorem normalizeItems_ok_iff {vs : List Content} {depth : Nat} :
    (∃ out, normalizeItems depth vs = .ok out) ↔ ∀ v ∈ vs, ∃ n, normalizeAt depth v = .ok n := by
  induction vs with
  | nil => exact iff_of_true ⟨[], rfl⟩ (List.forall_mem_nil _)
  | cons v vs ih =>
    rw [List.forall_mem_cons, ← ih]
    constructor
    · rintro ⟨out, h⟩
      obtain ⟨n, hn, h⟩ := bind_ok_iff.mp h
      obtain ⟨ns, hns, -⟩ := bind_ok_iff.mp h
      exact ⟨⟨n, hn⟩, ns, hns⟩
    · rintro ⟨⟨n, hn⟩, ns, hns⟩
      exact ⟨n :: ns, bind_ok_iff.mpr ⟨n, hn, bind_ok_iff.mpr ⟨ns, hns, rfl⟩⟩⟩

theorem checkDepth_ok_iff {depth : Nat} : checkDepth depth = .ok () ↔ depth ≤ maxDepth := by
  rw [checkDepth]
  split
  · exact iff_of_true rfl ‹_›
  · exact iff_of_false nofun ‹_›

theorem checked_ok_iff {α : Type} {depth : Nat} {x : Except ContentError α} {f : α → Content} :
    (∃ n, (do checkDepth depth; return f (← x)) = .ok n) ↔ depth ≤ maxDepth ∧ ∃ a, x = .ok a := by
  rw [← checkDepth_ok_iff]
  constructor
  · rintro ⟨n, h⟩
    obtain ⟨⟨⟩, hdepth, h⟩ := bind_ok_iff.mp h
    obtain ⟨a, ha, -⟩ := bind_ok_iff.mp h
    exact ⟨hdepth, a, ha⟩
  · rintro ⟨hdepth, a, ha⟩
    exact ⟨f a, bind_ok_iff.mpr ⟨(), hdepth, bind_ok_iff.mpr ⟨a, ha, rfl⟩⟩⟩

theorem checked_return_ok_iff {depth : Nat} {c : Content} :
    (∃ n, (do checkDepth depth; return c) = .ok n) ↔ depth ≤ maxDepth := by
  rw [← checkDepth_ok_iff]
  constructor
  · rintro ⟨n, h⟩
    obtain ⟨⟨⟩, hdepth, -⟩ := bind_ok_iff.mp h
    exact hdepth
  · intro hdepth
    exact ⟨c, bind_ok_iff.mpr ⟨(), hdepth, rfl⟩⟩

theorem normalizeAt_object_ok_iff {es : List (String × Content)} {depth : Nat} :
    (∃ n, normalizeAt depth (object es) = .ok n) ↔
      depth ≤ maxDepth ∧ (normalKeys es).Nodup ∧
        ∀ e ∈ es, ∃ n, normalizeAt (depth + 1) e.2 = .ok n := by
  have hentries : (∃ out, normalizeEntries (depth + 1) es [] = .ok out) ↔
      (normalKeys es).Nodup ∧ ∀ e ∈ es, ∃ n, normalizeAt (depth + 1) e.2 = .ok n := by
    rw [normalizeEntries_ok_iff]
    exact and_congr_right fun _ => and_iff_right fun _ _ => List.not_mem_nil
  rw [← hentries]
  exact checked_ok_iff

theorem normalizeAt_array_ok_iff {vs : List Content} {depth : Nat} :
    (∃ n, normalizeAt depth (array vs) = .ok n) ↔
      depth ≤ maxDepth ∧ ∀ v ∈ vs, ∃ n, normalizeAt (depth + 1) v = .ok n := by
  rw [← normalizeItems_ok_iff]
  exact checked_ok_iff

theorem normalizeAt_string_ok_iff {s : String} {depth : Nat} :
    (∃ n, normalizeAt depth (string s) = .ok n) ↔ depth ≤ maxDepth :=
  checked_return_ok_iff

theorem encode_ok_iff {c : Content} :
    (∃ x, c.encode = .ok x) ↔ ∃ n, normalizeAt 0 c = .ok n := by
  constructor
  · rintro ⟨x, h⟩
    obtain ⟨n, hn, -⟩ := bind_ok_iff.mp h
    exact ⟨n, hn⟩
  · rintro ⟨n, hn⟩
    exact ⟨_, bind_ok_iff.mpr ⟨n, hn, rfl⟩⟩

theorem normalizeItems_error {vs : List Content} {depth : Nat} {e : ContentError}
    (h : normalizeItems depth vs = .error e) : ∃ v ∈ vs, normalizeAt depth v = .error e := by
  induction vs with
  | nil => cases h
  | cons v vs ih =>
    rcases bind_error_iff.mp h with h | ⟨_, -, h⟩
    · exact ⟨v, List.mem_cons_self .., h⟩
    rcases bind_error_iff.mp h with h | ⟨_, -, h⟩
    · obtain ⟨w, hw, h⟩ := ih h
      exact ⟨w, List.mem_cons_of_mem _ hw, h⟩
    · cases h

theorem normalizeEntries_error {es done : List (String × Content)} {depth : Nat} {e : ContentError}
    (h : normalizeEntries depth es done = .error e) :
    (∃ key, e = .duplicateKey key) ∨ ∃ f ∈ es, normalizeAt depth f.2 = .error e := by
  induction es generalizing done with
  | nil => cases h
  | cons f es ih =>
    rcases throw_error_iff.mp h with ⟨-, rfl⟩ | ⟨-, h⟩
    · exact .inl ⟨_, rfl⟩
    rcases bind_error_iff.mp h with h | ⟨_, -, h⟩
    · exact .inr ⟨f, List.mem_cons_self .., h⟩
    · refine (ih h).imp_right ?_
      rintro ⟨g, hg, h⟩
      exact ⟨g, List.mem_cons_of_mem _ hg, h⟩

theorem checked_error {α : Type} {depth : Nat} {x : Except ContentError α} {f : α → Content}
    {e : ContentError} (h : (do checkDepth depth; return f (← x)) = .error e)
    (hdepth : depth ≤ maxDepth) : x = .error e := by
  rw [checkDepth_ok_iff.mpr hdepth] at h
  rcases bind_error_iff.mp h with h | ⟨_, -, h⟩
  · cases h
  rcases bind_error_iff.mp h with h | ⟨_, -, h⟩
  · exact h
  · cases h

theorem normalizeAt_scalar_ok {c : Content} {depth : Nat} (hdepth : depth ≤ maxDepth) :
    (do checkDepth depth; return c) = Except.ok c := by
  rw [checkDepth_ok_iff.mpr hdepth]
  rfl

end Content

end SelectiveDisclosure
