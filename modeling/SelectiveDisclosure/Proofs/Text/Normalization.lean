import SelectiveDisclosure.Proofs.Text.MappingTables
import SelectiveDisclosure.Proofs.Text.Reordering

namespace SelectiveDisclosure.Text

theorem toNat_ofNat {n : Nat} (h : n.isValidChar) : (Char.ofNat n).toNat = n := by
  rw [Char.ofNat, dif_pos h]
  rfl

theorem hangul_decompose?_eq (n : Nat) : Hangul.decompose? n =
    if 0xAC00 ≤ n ∧ n < 0xD7A4 then
      some (if (n - 0xAC00) % 28 = 0 then
        [0x1100 + (n - 0xAC00) / 588, 0x1161 + (n - 0xAC00) % 588 / 28]
      else
        [0x1100 + (n - 0xAC00) / 588, 0x1161 + (n - 0xAC00) % 588 / 28, 0x11A7 + (n - 0xAC00) % 28])
    else none := rfl

theorem hangul_compose?_eq (a b : Nat) : Hangul.compose? a b =
    if 0x1100 ≤ a ∧ a < 0x1113 ∧ 0x1161 ≤ b ∧ b < 0x1176 then
      some (0xAC00 + ((a - 0x1100) * 21 + (b - 0x1161)) * 28)
    else if 0xAC00 ≤ a ∧ a < 0xD7A4 ∧ (a - 0xAC00) % 28 = 0 ∧ 0x11A7 < b ∧ b < 0x11C3 then
      some (a + (b - 0x11A7))
    else none := rfl

theorem le_of_hangul {n : Nat} {ns : List Nat} (h : Hangul.decompose? n = some ns) : 0xAC00 ≤ n := by
  rw [hangul_decompose?_eq] at h
  split at h
  · omega
  · simp at h

theorem decomposeChar_eq_expand {c : Char} (h : Hangul.decompose? c.toNat = none) :
    decomposeChar c = (expand mappingDepth c.toNat).map Char.ofNat := by
  rw [decomposeChar]
  split
  · rename_i hc
    have hm : mapping? c.toNat = none := if_pos hc
    rw [expand_of_mapping?_none hm, List.map_singleton, Char.ofNat_toNat]
  · rw [h]

theorem atomic_of_mapping? {c : Char} (h : Hangul.decompose? c.toNat = none)
    (hm : mapping? c.toNat = none) : Atomic c := by
  rw [Atomic, decomposeChar_eq_expand h, expand_of_mapping?_none hm, List.map_singleton,
    Char.ofNat_toNat]

theorem atomic_ofNat {n : Nat} (h : settlesWithin 0 n = true) : Atomic (Char.ofNat n) := by
  obtain ⟨ho, hm⟩ := settlesWithin_zero_iff.mp h
  obtain ⟨hh, hv, -⟩ := isOrdinary_iff.mp ho
  rw [← toNat_ofNat hv] at hh hm
  exact atomic_of_mapping? hh hm

theorem jamo_settles {n : Nat} (h : 0x1100 ≤ n ∧ n < 0x11C3) : settlesWithin 0 n = true := by
  have hmem : n - 0x1100 ∈ List.range 0xC3 := List.mem_range.mpr (by omega)
  have hsettles := List.all_eq_true.mp tables_settle.2.2.2.1 _ hmem
  rwa [show 0x1100 + (n - 0x1100) = n by omega] at hsettles

theorem settles_of_hangul {n m : Nat} {ns : List Nat} (h : Hangul.decompose? n = some ns)
    (hm : m ∈ ns) : settlesWithin 0 m = true := by
  rw [hangul_decompose?_eq] at h
  split at h
  · simp only [Option.some.injEq] at h
    subst h
    apply jamo_settles
    split at hm <;> simp only [List.mem_cons, List.not_mem_nil, or_false] at hm <;> omega
  · simp at h

theorem decomposeChar_of_hangul {c : Char} {ns : List Nat} (h : Hangul.decompose? c.toNat = some ns) :
    decomposeChar c = ns.map Char.ofNat := by
  have hle := le_of_hangul h
  rw [decomposeChar, if_neg (by omega), h]

theorem mem_decomposeChar {c x : Char} (hx : x ∈ decomposeChar c) :
    x = c ∧ Atomic c ∨ ∃ n, settlesWithin 0 n = true ∧ x = Char.ofNat n := by
  cases hh : Hangul.decompose? c.toNat with
  | some ns =>
    rw [decomposeChar_of_hangul hh] at hx
    obtain ⟨n, hn, rfl⟩ := List.mem_map.mp hx
    exact .inr ⟨n, settles_of_hangul hh hn, rfl⟩
  | none =>
    rw [decomposeChar_eq_expand hh] at hx
    obtain ⟨n, hn, rfl⟩ := List.mem_map.mp hx
    rcases mem_expand hn with h | ⟨rfl, hm⟩
    · exact .inr ⟨n, h, rfl⟩
    · exact .inl ⟨Char.ofNat_toNat c, atomic_of_mapping? hh hm⟩

theorem atomic_of_mem_decomposeChar {c x : Char} (hx : x ∈ decomposeChar c) : Atomic x := by
  rcases mem_decomposeChar hx with ⟨rfl, h⟩ | ⟨n, h, rfl⟩
  · exact h
  · exact atomic_ofNat h

theorem atomic_of_mem_decompose {x : Char} {cs : List Char} (hx : x ∈ decompose cs) : Atomic x := by
  obtain ⟨c, -, hx⟩ := List.mem_flatMap.mp (mem_reorder.mp hx)
  exact atomic_of_mem_decomposeChar hx

theorem arrangedFrom_decompose (cs : List Char) : ArrangedFrom 0 (decompose cs) :=
  arrangedFrom_reorder _

theorem decompose_eq_self {cs : List Char} (ha : ∀ c ∈ cs, Atomic c) (hr : ArrangedFrom 0 cs) :
    decompose cs = cs := by
  rw [decompose, flatMap_atomic ha, reorder_of_arrangedFrom hr]

theorem hangul_composed {a b n : Nat} (h : Hangul.compose? a b = some n) :
    n.isValidChar ∧ ∃ ns, Hangul.decompose? n = some (ns ++ [b]) ∧
      (Hangul.decompose? a = some ns ∨ ns = [a] ∧ settlesWithin 0 a = true) := by
  rw [hangul_compose?_eq] at h
  split at h
  · simp only [Option.some.injEq] at h
    refine ⟨.inl (by omega), [a], ?_, .inr ⟨rfl, jamo_settles (by omega)⟩⟩
    rw [hangul_decompose?_eq, if_pos (by omega), if_pos (by omega)]
    simp only [List.singleton_append, Option.some.injEq, List.cons.injEq, and_true]
    omega
  · split at h
    · simp only [Option.some.injEq] at h
      refine ⟨.inl (by omega), [0x1100 + (a - 0xAC00) / 588, 0x1161 + (a - 0xAC00) % 588 / 28], ?_,
        .inl (by rw [hangul_decompose?_eq, if_pos (by omega), if_pos (by omega)])⟩
      rw [hangul_decompose?_eq, if_pos (by omega), if_neg (by omega)]
      simp only [List.cons_append, List.nil_append, Option.some.injEq, List.cons.injEq, and_true]
      omega
    · simp at h

theorem decomposeChar_composed {a b c : Char} (h : composePair? a b = some c) :
    decomposeChar c = decomposeChar a ++ [b] := by
  rw [composePair?] at h
  split at h
  · rename_i n hn
    simp only [Option.some.injEq] at h
    obtain ⟨hv, ns, hd, ha⟩ := hangul_composed hn
    rw [← h, decomposeChar_of_hangul (by rwa [toNat_ofNat hv]), List.map_append, List.map_singleton,
      Char.ofNat_toNat]
    rcases ha with ha | ⟨rfl, ha⟩
    · rw [decomposeChar_of_hangul ha]
    · have hatomic := atomic_ofNat ha
      rw [Char.ofNat_toNat] at hatomic
      rw [hatomic, List.map_singleton, Char.ofNat_toNat]
  · obtain ⟨n, hn, rfl⟩ := Option.map_eq_some_iff.mp h
    obtain ⟨he, ho, ha⟩ := expand_composite hn
    obtain ⟨hh, hv, -⟩ := isOrdinary_iff.mp ho
    rw [decomposeChar_eq_expand (by rwa [toNat_ofNat hv]), toNat_ofNat hv, he, List.map_append,
      List.map_singleton, Char.ofNat_toNat, decomposeChar_eq_expand (isOrdinary_iff.mp ha).1]

def Held (last : Nat) (held : List Char) : Prop :=
  (held = [] → last = 0) ∧
    ∀ c ∈ held, Atomic c ∧ 0 < combiningClass c ∧ combiningClass c ≤ last

theorem held_nil : Held 0 [] := ⟨fun _ => rfl, fun _ h => nomatch h⟩

theorem held_cons {d : Char} {last : Nat} {held : List Char} (h : Held last held) (ha : Atomic d)
    (hd : combiningClass d ≠ 0) (hlast : last ≤ combiningClass d) :
    Held (combiningClass d) (d :: held) := by
  refine ⟨by simp, ?_⟩
  intro c hc
  rcases List.mem_cons.mp hc with rfl | hc
  · exact ⟨ha, by omega, Nat.le_refl _⟩
  · obtain ⟨hc, hpos, hle⟩ := h.2 c hc
    exact ⟨hc, hpos, by omega⟩

theorem reorder_joined {d : Char} {last : Nat} {held : List Char} (h : Held last held)
    (hd : held = [] ∨ last < combiningClass d) (xs ds : List Char) :
    reorder (xs ++ d :: (held.reverse ++ ds)) = reorder (xs ++ (held.reverse ++ d :: ds)) := by
  have hpass : ∀ c ∈ held.reverse, 0 < combiningClass c ∧ combiningClass c < combiningClass d := by
    intro c hc
    have hc := List.mem_reverse.mp hc
    obtain ⟨-, hpos, hle⟩ := h.2 c hc
    exact ⟨hpos, Nat.lt_of_le_of_lt hle (hd.resolve_left (List.ne_nil_of_mem hc))⟩
  rw [reorder_append xs, reorder_append xs, reorder_append, reorder, reorder, reorder_append,
    foldr_insertMark_comm hpass]

-- The marks held back stand in ascending classes, so a mark that joins the starter passes them all.
theorem decompose_composeFrom (ds : List Char) (starter : Char) (held : List Char) (last : Nat)
    (hheld : Held last held) (hds : ∀ d ∈ ds, Atomic d) (harranged : ArrangedFrom last ds) :
    decompose (composeFrom starter held last ds) =
      reorder (decomposeChar starter ++ (held.reverse ++ ds)) := by
  induction ds generalizing starter held last with
  | nil =>
    have hflat : held.reverse.flatMap decomposeChar = held.reverse :=
      flatMap_atomic fun c hc => (hheld.2 c (List.mem_reverse.mp hc)).1
    rw [composeFrom, decompose, List.flatMap_cons, hflat, List.append_nil]
  | cons d ds ih =>
    have hd := hds d (List.mem_cons_self ..)
    have hrest : ∀ e ∈ ds, Atomic e := fun e he => hds e (List.mem_cons_of_mem _ he)
    simp only [composeFrom]
    split
    · rename_i joined hj
      split at hj
      · rename_i hfree
        have hfree : held = [] ∨ last < combiningClass d := by simpa using hfree
        have hlast : last ≤ combiningClass d := by
          rcases hfree with h | h
          · have hnone := hheld.1 h
            omega
          · omega
        rw [ih joined held last hheld hrest (arrangedFrom_mono hlast harranged.2),
          decomposeChar_composed hj, List.append_assoc, List.singleton_append,
          reorder_joined hheld hfree]
      · simp at hj
    · split
      · rename_i hk
        have hflat : held.reverse.flatMap decomposeChar = held.reverse :=
          flatMap_atomic fun c hc => (hheld.2 c (List.mem_reverse.mp hc)).1
        have hstart := ih d [] 0 held_nil hrest (by rw [← hk]; exact harranged.2)
        rw [hd, List.reverse_nil, List.nil_append, List.singleton_append] at hstart
        rw [decompose_cons, decompose_append, hflat, hstart, ← reorder_append, ← reorder_append]
      · rename_i hk
        have hlast := harranged.1.resolve_left hk
        rw [ih starter (d :: held) _ (held_cons hheld hd hk hlast) hrest harranged.2,
          List.reverse_cons, List.append_assoc, List.singleton_append]

theorem decompose_compose {cs : List Char} (ha : ∀ c ∈ cs, Atomic c) (hr : ArrangedFrom 0 cs) :
    decompose (compose cs) = reorder cs := by
  induction cs with
  | nil => rfl
  | cons c cs ih =>
    have hc := ha c (List.mem_cons_self ..)
    have hcs : ∀ d ∈ cs, Atomic d := fun d hd => ha d (List.mem_cons_of_mem _ hd)
    have hrest := arrangedFrom_mono (Nat.zero_le _) hr.2
    rw [compose]
    split
    · rw [decompose_composeFrom cs c [] 0 held_nil hcs hrest, hc]
      rfl
    · rw [decompose_cons, hc, ih hcs hrest]
      rfl

theorem decompose_normalizeChars (cs : List Char) :
    decompose (normalizeChars cs) = decompose cs := by
  rw [normalizeChars, decompose_compose (fun _ => atomic_of_mem_decompose) (arrangedFrom_decompose cs),
    reorder_of_arrangedFrom (arrangedFrom_decompose cs)]

theorem normalizeChars_eq_iff {xs ys : List Char} :
    normalizeChars xs = normalizeChars ys ↔ decompose xs = decompose ys := by
  constructor
  · intro h
    rw [← decompose_normalizeChars xs, h, decompose_normalizeChars]
  · intro h
    rw [normalizeChars, h, normalizeChars]

def decomposed (s : String) : String := String.ofList (decompose s.toList)

theorem normalize_eq_iff {s t : String} : normalize s = normalize t ↔ decomposed s = decomposed t := by
  rw [normalize, normalize, decomposed, decomposed, String.ofList_inj, String.ofList_inj,
    normalizeChars_eq_iff]

theorem normalize_eq_iff_decompose {s t : String} :
    normalize s = normalize t ↔ decompose s.toList = decompose t.toList := by
  rw [normalize_eq_iff, decomposed, decomposed, String.ofList_inj]

@[simp] theorem normalize_normalize (s : String) : normalize (normalize s) = normalize s := by
  rw [normalize_eq_iff, decomposed, decomposed, normalize, String.toList_ofList,
    decompose_normalizeChars]

def isBasic (cs : List Char) : Bool := cs.all fun c => c.toNat < 0xC0

theorem lt_of_isBasic {cs : List Char} (h : isBasic cs = true) : ∀ c ∈ cs, c.toNat < 0xC0 := by
  simpa [isBasic] using h

theorem atomic_of_lt {c : Char} (h : c.toNat < 0xC0) : Atomic c := if_pos h

theorem combiningClass_of_lt {c : Char} (h : c.toNat < 0xC0) : combiningClass c = 0 :=
  if_pos (by omega)

theorem decompose_cons_of_lt {c : Char} (h : c.toNat < 0xC0) (cs : List Char) :
    decompose (c :: cs) = c :: decompose cs :=
  decompose_cons_starter (combiningClass_of_lt h) (atomic_of_lt h) cs

theorem decompose_append_of_lt {xs : List Char} (h : ∀ x ∈ xs, x.toNat < 0xC0) (ys : List Char) :
    decompose (xs ++ ys) = xs ++ decompose ys := by
  induction xs with
  | nil => rfl
  | cons x xs ih =>
    rw [List.cons_append, decompose_cons_of_lt (h x (List.mem_cons_self ..)),
      ih fun y hy => h y (List.mem_cons_of_mem _ hy), List.cons_append]

theorem arrangedFrom_of_starters {k : Nat} {cs : List Char} (h : ∀ c ∈ cs, combiningClass c = 0) :
    ArrangedFrom k cs := by
  induction cs generalizing k with
  | nil => trivial
  | cons c cs ih =>
    exact ⟨.inl (h c (List.mem_cons_self ..)), ih fun d hd => h d (List.mem_cons_of_mem _ hd)⟩

theorem composePair?_of_lt (a : Char) {b : Char} (h : b.toNat < 0xC0) : composePair? a b = none := by
  have hangul : Hangul.compose? a.toNat b.toNat = none := by
    rw [hangul_compose?_eq, if_neg (by omega), if_neg (by omega)]
  rw [composePair?, hangul, composite?, if_pos (by omega)]
  rfl

theorem composeFrom_of_lt {c : Char} {cs : List Char} (h : ∀ d ∈ cs, d.toNat < 0xC0) :
    composeFrom c [] 0 cs = c :: cs := by
  induction cs generalizing c with
  | nil => rfl
  | cons d ds ih =>
    have hd := h d (List.mem_cons_self ..)
    simp only [composeFrom, List.isEmpty_nil, Bool.true_or, if_true, composePair?_of_lt c hd,
      combiningClass_of_lt hd, List.reverse_nil, List.nil_append,
      ih fun e he => h e (List.mem_cons_of_mem _ he)]

theorem normalizeChars_of_lt {cs : List Char} (h : ∀ c ∈ cs, c.toNat < 0xC0) :
    normalizeChars cs = cs := by
  have hd : decompose cs = cs :=
    decompose_eq_self (fun c hc => atomic_of_lt (h c hc))
      (arrangedFrom_of_starters fun c hc => combiningClass_of_lt (h c hc))
  rw [normalizeChars, hd]
  cases cs with
  | nil => rfl
  | cons c cs =>
    rw [compose, if_pos (combiningClass_of_lt (h c (List.mem_cons_self ..)))]
    exact composeFrom_of_lt fun d hd => h d (List.mem_cons_of_mem _ hd)

theorem normalize_of_lt {s : String} (h : ∀ c ∈ s.toList, c.toNat < 0xC0) : normalize s = s := by
  rw [normalize, normalizeChars_of_lt h, String.ofList_toList]

end SelectiveDisclosure.Text
