import SelectiveDisclosure.Proofs.Json.Quoted
import SelectiveDisclosure.Proofs.Text.Composition

namespace SelectiveDisclosure

namespace Json

open Text

def escapeEnd (c : Char) : Char := (escapeChar c).getLastD c

-- `ds` is decomposed. No control character in it stands before a mark that takes the last letter of its escape.
def EscapesStand (ds : List Char) : Prop :=
  ∀ before c after, ds = before ++ c :: after → c.toNat < 0x20 → ¬Joins (escapeEnd c) after

theorem escapesStand_nil : EscapesStand [] := by
  intro before c after h
  simp at h

theorem escapesStand_cons_iff {c : Char} {ds : List Char} :
    EscapesStand (c :: ds) ↔ (c.toNat < 0x20 → ¬Joins (escapeEnd c) ds) ∧ EscapesStand ds := by
  constructor
  · intro h
    refine ⟨h [] c ds rfl, ?_⟩
    rintro before d after rfl
    exact h (c :: before) d after rfl
  · rintro ⟨hhead, htail⟩ before d after h
    cases before with
    | nil =>
      obtain ⟨rfl, rfl⟩ := List.cons.inj h
      exact hhead
    | cons b before => exact htail before d after (List.cons.inj h).2

theorem escapeChar_eq_dropLast {c : Char} (hc : isUnescaped c.toNat = false) :
    escapeChar c = (escapeChar c).dropLast ++ [escapeEnd c] := by
  obtain ⟨-, hne, -⟩ := escapeChar_of_escaped hc
  rw [escapeEnd, List.getLastD_eq_getLast?, List.getLast?_eq_some_getLast hne, Option.getD_some,
    List.dropLast_append_getLast]

theorem escapeEnd_lt {c : Char} (hc : isUnescaped c.toNat = false) : (escapeEnd c).toNat < 0xC0 := by
  apply (escapeChar_of_escaped hc).2.2
  rw [escapeChar_eq_dropLast hc]
  exact List.mem_append_right _ (List.mem_singleton_self _)

theorem escapeEnd_of_quoting {c : Char} (hc : isUnescaped c.toNat = false) (hn : ¬c.toNat < 0x20) :
    escapeEnd c = c := by
  have hquoting : c = '"' ∨ c = '\\' := by
    simp only [isUnescaped, Bool.and_eq_false_iff, decide_eq_false_iff_not, ne_eq,
      Decidable.not_not] at hc
    rcases hc with (hc | hc) | hc
    · exact absurd hc (by omega)
    · exact .inl (Char.toNat_inj.mp hc)
    · exact .inr (Char.toNat_inj.mp hc)
  rcases hquoting with rfl | rfl <;> rfl

theorem not_joins_escaped {c : Char} (hc : isUnescaped c.toNat = false) (ds : List Char) :
    ¬Joins c ds := by
  rintro ⟨_, d, _, _, -, hd⟩
  rw [composePair?_of_escaped hc] at hd
  cases hd

theorem not_joins_escapeEnd {c : Char} {ds : List Char} (hc : isUnescaped c.toNat = false)
    (h : c.toNat < 0x20 → ¬Joins (escapeEnd c) ds) : ¬Joins (escapeEnd c) ds := by
  by_cases hn : c.toNat < 0x20
  · exact h hn
  · rw [escapeEnd_of_quoting hc hn]
    exact not_joins_escaped hc ds

theorem unescaped_of_le {c : Char} (h : 0xC0 ≤ c.toNat) : isUnescaped c.toNat = true := by
  simp only [isUnescaped, Bool.and_eq_true, decide_eq_true_eq]
  omega

theorem joins_escaped_of_joins {s : Char} {ds : List Char} (h : Joins s ds) :
    Joins s (ds.flatMap escapeChar) := by
  obtain ⟨marks, d, rest, rfl, hmarks, hd⟩ := h
  refine ⟨marks, d, rest.flatMap escapeChar, ?_, hmarks, hd⟩
  have hkept : marks.flatMap escapeChar = marks.flatMap ([·]) :=
    List.flatMap_congr fun m hm => escapeChar_of_mark (hmarks m hm).1
  rw [List.flatMap_append, hkept, List.flatMap_singleton', List.flatMap_cons,
    escapeChar_of_unescaped (unescaped_of_le (le_of_joined hd)), List.singleton_append]

theorem cons_of_escaped {y : Char} (hy : 0xC0 ≤ y.toNat) {ds rest : List Char}
    (h : ds.flatMap escapeChar = y :: rest) : ∃ es, ds = y :: es ∧ es.flatMap escapeChar = rest := by
  cases ds with
  | nil => simp at h
  | cons c ds =>
    cases hc : isUnescaped c.toNat with
    | true =>
      rw [List.flatMap_cons, escapeChar_of_unescaped hc] at h
      obtain ⟨rfl, hrest⟩ := List.cons.inj h
      exact ⟨ds, rfl, hrest⟩
    | false =>
      obtain ⟨-, hne, hlt⟩ := escapeChar_of_escaped hc
      obtain ⟨x, xs, hx⟩ := List.exists_cons_of_ne_nil hne
      rw [List.flatMap_cons, hx] at h
      have hxlt := hlt x (by simp [hx])
      rw [(List.cons.inj h).1] at hxlt
      omega

theorem joins_of_joins_escaped {s : Char} {ds : List Char} (h : Joins s (ds.flatMap escapeChar)) :
    Joins s ds := by
  obtain ⟨marks, d, rest, heq, hmarks, hd⟩ := h
  suffices hds : ∃ rest, ds = marks ++ d :: rest by
    obtain ⟨rest, hds⟩ := hds
    exact ⟨marks, d, rest, hds, hmarks, hd⟩
  induction marks generalizing ds with
  | nil =>
    obtain ⟨es, rfl, -⟩ := cons_of_escaped (le_of_joined hd) heq
    exact ⟨es, rfl⟩
  | cons m marks ih =>
    obtain ⟨hm, hmarks⟩ := List.forall_mem_cons.mp hmarks
    obtain ⟨es, rfl, hes⟩ := cons_of_escaped (le_of_mark hm.1) heq
    obtain ⟨rest, rfl⟩ := ih hes hmarks
    exact ⟨rest, rfl⟩

theorem joins_escaped_iff {s : Char} {ds : List Char} :
    Joins s (ds.flatMap escapeChar) ↔ Joins s ds :=
  ⟨joins_of_joins_escaped, joins_escaped_of_joins⟩

theorem arrangedFrom_escaped {ds : List Char} (h : ArrangedFrom 0 ds) :
    ArrangedFrom 0 (ds.flatMap escapeChar) := by
  rw [← reorder_of_arrangedFrom h, ← reorder_escaped]
  exact arrangedFrom_reorder _

section Escape

variable {c : Char} (hc : isUnescaped c.toNat = false) {ds : List Char}

include hc

theorem compose_escape_split :
    compose (escapeChar c ++ ds) = (escapeChar c).dropLast ++ compose (escapeEnd c :: ds) := by
  have hlt : ∀ x ∈ (escapeChar c).dropLast, x.toNat < 0xC0 :=
    fun x hx => (escapeChar_of_escaped hc).2.2 x (List.dropLast_subset _ hx)
  have hend := escapeEnd_lt hc
  calc compose (escapeChar c ++ ds)
      = compose ((escapeChar c).dropLast ++ escapeEnd c :: ds) := by
        conv_lhs => rw [escapeChar_eq_dropLast hc, List.append_assoc, List.singleton_append]
    _ = (escapeChar c).dropLast ++ compose (escapeEnd c :: ds) := by
        rw [compose_append (by simpa using hend), compose_of_lt hlt]

theorem compose_escape (hds : ArrangedFrom 0 ds) (h : ¬Joins (escapeEnd c) ds) :
    compose (escapeChar c ++ ds) = escapeChar c ++ compose ds := by
  have hstarter := combiningClass_of_lt (escapeEnd_lt hc)
  rw [compose_escape_split hc, compose_cons_of_not_joins hstarter hds h, ← List.singleton_append,
    ← List.append_assoc, ← escapeChar_eq_dropLast hc]

theorem compose_escape_joined (h : Joins (escapeEnd c) ds) :
    ∃ x rest, compose (escapeChar c ++ ds) = (escapeChar c).dropLast ++ x :: rest ∧
      0xC0 ≤ x.toNat := by
  have hstarter := combiningClass_of_lt (escapeEnd_lt hc)
  obtain ⟨x, rest, hcompose, hx⟩ := compose_cons_of_joins hstarter h
  exact ⟨x, rest, by rw [compose_escape_split hc, hcompose], hx⟩

theorem escape_head (ds : List Char) : ∀ y ∈ (escapeChar c ++ ds).head?, y.toNat < 0xC0 := by
  obtain ⟨-, hne, hlt⟩ := escapeChar_of_escaped hc
  obtain ⟨x, xs, hx⟩ := List.exists_cons_of_ne_nil hne
  have hxlt := hlt x (by simp [hx])
  simpa [hx] using hxlt

end Escape

theorem flatMap_unescaped {us : List Char} (h : ∀ u ∈ us, isUnescaped u.toNat = true) :
    us.flatMap escapeChar = us := by
  have hkept : us.flatMap escapeChar = us.flatMap ([·]) :=
    List.flatMap_congr fun u hu => escapeChar_of_unescaped (h u hu)
  rw [hkept, List.flatMap_singleton']

-- A run of letters without escapes is taken along until an escape ends it.
theorem compose_escaped {us ds : List Char} (hus : ∀ u ∈ us, isUnescaped u.toNat = true)
    (hds : ArrangedFrom 0 ds) (h : EscapesStand ds) :
    compose (us ++ ds.flatMap escapeChar) = (compose (us ++ ds)).flatMap escapeChar := by
  induction ds generalizing us with
  | nil =>
    have hcompose := forall_mem_compose (fun _ => unescaped_of_le) hus
    rw [List.flatMap_nil, List.append_nil, flatMap_unescaped hcompose]
  | cons d ds ih =>
    obtain ⟨hd, hstand⟩ := escapesStand_cons_iff.mp h
    have hrest := arrangedFrom_mono (Nat.zero_le _) hds.2
    cases hesc : isUnescaped d.toNat with
    | true =>
      have hnext : ∀ u ∈ us ++ [d], isUnescaped u.toNat = true := by
        simpa [or_imp, forall_and, hesc] using hus
      rw [List.flatMap_cons, escapeChar_of_unescaped hesc, ← List.append_assoc,
        ih hnext hrest hstand, List.append_assoc, List.singleton_append]
    | false =>
      have hlt := (escapeChar_of_escaped hesc).1
      have hjoins := not_joins_escapeEnd hesc hd
      have hcompose := forall_mem_compose (fun _ => unescaped_of_le) hus
      have htail := ih (List.forall_mem_nil _) hrest hstand
      rw [List.nil_append, List.nil_append] at htail
      rw [List.flatMap_cons, compose_append (escape_head hesc _),
        compose_escape hesc (arrangedFrom_escaped hrest) (mt joins_escaped_iff.mp hjoins), htail,
        compose_append (by simpa using hlt), compose_cons_of_escaped hesc, List.flatMap_append,
        flatMap_unescaped hcompose, List.flatMap_cons]

end Json

namespace Reading

open Json Text

theorem readUnits_unescaped {us : List Char} (h : ∀ u ∈ us, isUnescaped u.toNat = true)
    {rest : List Char} (hrest : readUnits rest = none) : readUnits (us ++ rest) = none := by
  induction us with
  | nil => exact hrest
  | cons u us ih =>
    obtain ⟨hu, hus⟩ := List.forall_mem_cons.mp h
    obtain ⟨v, -, hread⟩ := readUnits_escapeChar u (us ++ rest)
    rw [escapeChar_of_unescaped hu] at hread
    rw [List.cons_append, ← List.singleton_append, hread, ih hus, Option.map_none]

theorem hexValue?_of_le {x : Char} (h : 0xC0 ≤ x.toNat) : hexValue? x = none := by
  have hgt : ∀ y : Char, y.toNat < 0xC0 → ¬x ≤ y := by
    intro y hy hle
    have hle : x.toNat ≤ y.toNat := hle
    omega
  rw [hexValue?, if_neg fun hx => hgt '9' (by decide) hx.2, if_neg fun hx => hgt 'f' (by decide) hx.2,
    if_neg fun hx => hgt 'F' (by decide) hx.2]

theorem simpleEscape?_of_le {x : Char} (h : 0xC0 ≤ x.toNat) : simpleEscape? x = none := by
  rw [simpleEscape?.eq_def]
  split <;> first | rfl | exact absurd h (by decide)

theorem readUnits_broken_escape {n : Nat} (hn : n < 0x20) {x : Char} (hx : 0xC0 ≤ x.toNat)
    (rest : List Char) : readUnits ((controlEscape n).dropLast ++ x :: rest) = none := by
  have hu : x ≠ 'u' := by
    rintro rfl
    exact absurd hx (by decide)
  have hform := (controlEscape_form n hn).1
  generalize controlEscape n = text at hform
  unfold isEscapeOf at hform
  split at hform
  · rw [List.dropLast_cons_cons, List.dropLast_singleton, List.singleton_append, readUnits,
      simpleEscape?_of_le hx]
    · rfl
    · intro _ _ _ _ _ h
      exact absurd h hu
  · rename_i a b c d
    simp only [List.dropLast_cons_cons, List.dropLast_singleton, List.cons_append, List.nil_append]
    rw [readUnits]
    simp [hexValue?_of_le hx]
  · cases hform

theorem readUnits_broken {us ds : List Char} (hus : ∀ u ∈ us, isUnescaped u.toNat = true)
    (hds : ArrangedFrom 0 ds) (h : ¬EscapesStand ds) (rest : List Char) :
    readUnits (compose (us ++ ds.flatMap escapeChar) ++ '"' :: rest) = none := by
  induction ds generalizing us with
  | nil => exact absurd escapesStand_nil h
  | cons d ds ih =>
    have hrest := arrangedFrom_mono (Nat.zero_le _) hds.2
    cases hesc : isUnescaped d.toNat with
    | true =>
      have hd : d.toNat < 0x20 → ¬Joins (escapeEnd d) ds := by
        intro hlt
        simp only [isUnescaped, Bool.and_eq_true, decide_eq_true_eq] at hesc
        omega
      have hnext : ∀ u ∈ us ++ [d], isUnescaped u.toNat = true := by
        simpa [or_imp, forall_and, hesc] using hus
      rw [List.flatMap_cons, escapeChar_of_unescaped hesc, ← List.append_assoc]
      exact ih hnext hrest fun hstand => h (escapesStand_cons_iff.mpr ⟨hd, hstand⟩)
    | false =>
      have hcompose := forall_mem_compose (fun _ => unescaped_of_le) hus
      rw [List.flatMap_cons, compose_append (escape_head hesc _), List.append_assoc]
      apply readUnits_unescaped hcompose
      by_cases hd : d.toNat < 0x20 → ¬Joins (escapeEnd d) ds
      · have hbroken := ih (List.forall_mem_nil _) hrest
          fun hstand => h (escapesStand_cons_iff.mpr ⟨hd, hstand⟩)
        have hjoins := not_joins_escapeEnd hesc hd
        obtain ⟨u, -, hread⟩ := readUnits_escapeChar d
          (compose (ds.flatMap escapeChar) ++ '"' :: rest)
        rw [List.nil_append] at hbroken
        rw [compose_escape hesc (arrangedFrom_escaped hrest) (mt joins_escaped_iff.mp hjoins),
          List.append_assoc, hread, hbroken, Option.map_none]
      · obtain ⟨hlt, hjoins⟩ := Classical.not_imp.mp hd
        have hjoins := joins_escaped_iff.mpr (Classical.not_not.mp hjoins)
        obtain ⟨x, tail, htext, hx⟩ := compose_escape_joined hesc hjoins
        have hcontrol : escapeChar d = controlEscape d.toNat := by
          rw [escapeChar, if_neg, if_neg, if_pos hlt]
          · rintro rfl
            exact absurd hlt (by decide)
          · rintro rfl
            exact absurd hlt (by decide)
        rw [htext, List.append_assoc, List.cons_append, hcontrol]
        exact readUnits_broken_escape hlt hx _

section

variable {cs : List Char} (rest : List Char)

theorem normalizeChars_escaped : normalizeChars (cs.flatMap escapeChar) =
    compose ([] ++ (decompose cs).flatMap escapeChar) := by
  rw [normalizeChars, decompose_escaped, List.nil_append]

theorem readString_of_stand (h : EscapesStand (decompose cs)) :
    readString (normalizeChars (cs.flatMap escapeChar) ++ '"' :: rest) =
      some (some (String.ofList (normalizeChars cs)), rest) := by
  rw [normalizeChars_escaped, compose_escaped (List.forall_mem_nil _) (arrangedFrom_decompose cs) h,
    List.nil_append, readString_escaped]
  rfl

theorem readString_of_broken (h : ¬EscapesStand (decompose cs)) :
    readString (normalizeChars (cs.flatMap escapeChar) ++ '"' :: rest) = none := by
  rw [normalizeChars_escaped, readString,
    readUnits_broken (List.forall_mem_nil _) (arrangedFrom_decompose cs) h]
  rfl

end

end Reading

end SelectiveDisclosure
