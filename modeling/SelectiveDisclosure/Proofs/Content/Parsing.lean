import SelectiveDisclosure.Proofs.Content.Encoding
import SelectiveDisclosure.Proofs.Json.Escapes
import SelectiveDisclosure.Proofs.Json.Reading
import SelectiveDisclosure.Proofs.Number.Numeral

namespace SelectiveDisclosure

mutual

def Tree.reading : Tree → Reading (List Char)
  | .object es => .object (readingMembers es) true
  | .array ts => .array (readingItems ts) true
  | .string s => .string (some s)
  | .number text => .number text
  | .bool b => .bool b

def Tree.readingItems : List Tree → List (Reading (List Char))
  | [] => []
  | t :: ts => t.reading :: readingItems ts

def Tree.readingMembers : List (String × Tree) → List (Option String × Reading (List Char))
  | [] => []
  | (k, t) :: es => (some k, t.reading) :: readingMembers es

end

namespace Content

open Text

mutual

def strings : Content → List String
  | .object es => memberStrings es
  | .array vs => itemStrings vs
  | .string s => [s]
  | .number _ => []
  | .bool _ => []

def itemStrings : List Content → List String
  | [] => []
  | v :: vs => strings v ++ itemStrings vs

def memberStrings : List (String × Content) → List String
  | [] => []
  | (k, v) :: es => k :: (strings v ++ memberStrings es)

end

def EscapesStand (c : Content) : Prop := ∀ s ∈ c.strings, Json.EscapesStand (Text.decompose s.toList)

theorem normalizeChars_quoted_append (cs rest : List Char) :
    normalizeChars (Json.quoted cs ++ rest) =
      '"' :: (normalizeChars (cs.flatMap Json.escapeChar) ++ '"' :: normalizeChars rest) := by
  have hquote := composePair?_of_escaped (a := '"') (by decide)
  rw [Json.quoted_append, normalizeChars_cons_of_unpaired hquote (by decide),
    normalizeChars_append_of_unpaired hquote (by decide)]

theorem normalizeChars_cons_of_lt {c : Char} (hc : c.toNat < 0xC0) {cs : List Char}
    (hcs : ∀ y ∈ cs.head?, y.toNat < 0xC0) : normalizeChars (c :: cs) = c :: normalizeChars cs := by
  have hhead : normalizeChars [c] = [c] := normalizeChars_of_lt (by simpa using hc)
  rw [← List.singleton_append, normalizeChars_append hcs, hhead, List.singleton_append]

theorem lt_of_openedBy {x : Char} {k : Kind} (h : openedBy x = some k) : x.toNat < 0xC0 := by
  rw [openedBy] at h
  split at h
  · rename_i hx
    rw [hx]
    decide
  split at h
  · rename_i hx
    rw [hx]
    decide
  split at h
  · rename_i hx
    rw [hx]
    decide
  split at h
  · rename_i hx
    exact Number.lt_of_isNumeral hx
  split at h
  · rename_i hx
    rcases hx with rfl | rfl <;> decide
  · cases h

theorem not_blank_of_openedBy {x : Char} {k : Kind} (h : openedBy x = some k) :
    Reading.isBlank x = false ∧ x ≠ ']' := by
  have hne : ∀ y, openedBy y = none → x ≠ y := by
    rintro y hy rfl
    rw [hy] at h
    cases h
  refine ⟨?_, hne _ (by decide)⟩
  simp only [Reading.isBlank, Bool.or_eq_false_iff, decide_eq_false_iff_not]
  exact ⟨⟨⟨hne _ (by decide), hne _ (by decide)⟩, hne _ (by decide)⟩, hne _ (by decide)⟩

theorem text_head (c : Content) :
    ∃ x rest, c.toJson.text = x :: rest ∧ openedBy x = some c.kind := by
  cases c with
  | object es => cases es <;> exact ⟨_, _, rfl, rfl⟩
  | array vs => cases vs <;> exact ⟨_, _, rfl, rfl⟩
  | string s => exact ⟨_, _, rfl, rfl⟩
  | number n =>
    obtain ⟨x, xs, hx⟩ := List.exists_cons_of_ne_nil (Number.isNumeral_text n).1
    refine ⟨x, xs, hx, ?_⟩
    exact openedBy_of_isNumeral ((Number.isNumeral_text n).2 x (hx ▸ List.mem_cons_self ..))
  | bool b => cases b <;> exact ⟨_, _, rfl, rfl⟩

theorem text_head_lt (c : Content) (r : List Char) :
    ∀ y ∈ (c.toJson.text ++ r).head?, y.toNat < 0xC0 := by
  obtain ⟨x, rest, hx, hopened⟩ := text_head c
  rw [hx]
  rintro y ⟨⟩
  exact lt_of_openedBy hopened

theorem itemsText_head_lt (vs : List Content) :
    ∀ y ∈ (Json.itemsText (itemsToJson vs)).head?, y.toNat < 0xC0 := by
  cases vs with
  | nil =>
    rintro y ⟨⟩
    decide
  | cons v vs =>
    rintro y ⟨⟩
    decide

theorem membersText_head_lt (es : List (String × Content)) :
    ∀ y ∈ (Json.membersText (entriesToJson es)).head?, y.toNat < 0xC0 := by
  cases es with
  | nil =>
    rintro y ⟨⟩
    decide
  | cons e es =>
    rintro y ⟨⟩
    decide

def normalText (c : Content) : List Char := normalizeChars c.toJson.text

def normalItemsText (vs : List Content) : List Char :=
  normalizeChars (Json.itemsText (itemsToJson vs))

def normalMembersText (es : List (String × Content)) : List Char :=
  normalizeChars (Json.membersText (entriesToJson es))

def normalString (s : String) : List Char := normalizeChars (s.toList.flatMap Json.escapeChar)

theorem normalText_string (s : String) : (string s).normalText = '"' :: (normalString s ++ ['"']) := by
  rw [normalText, text_string, ← List.append_nil (Json.quoted _), normalizeChars_quoted_append]
  rfl

theorem normalText_number (n : Number) : (number n).normalText = n.text :=
  normalizeChars_of_lt fun c hc => Number.lt_of_isNumeral ((Number.isNumeral_text n).2 c hc)

theorem normalText_bool (b : Bool) : (bool b).normalText = Json.boolText b := by
  refine normalizeChars_of_lt (lt_of_isBasic ?_)
  cases b <;> decide

theorem normalText_array_nil : (array []).normalText = ['[', ']'] :=
  normalizeChars_of_lt (lt_of_isBasic (by decide))

theorem normalText_array_cons (v : Content) (vs : List Content) :
    (array (v :: vs)).normalText = '[' :: (v.normalText ++ normalItemsText vs) := by
  rw [normalText, text_array_cons, normalizeChars_cons_of_lt (by decide) (text_head_lt v _),
    normalizeChars_append (itemsText_head_lt vs)]
  rfl

theorem normalItemsText_nil : normalItemsText [] = [']'] :=
  normalizeChars_of_lt (lt_of_isBasic (by decide))

theorem normalItemsText_cons (v : Content) (vs : List Content) :
    normalItemsText (v :: vs) = ',' :: (v.normalText ++ normalItemsText vs) := by
  rw [normalItemsText, itemsText_cons, normalizeChars_cons_of_lt (by decide) (text_head_lt v _),
    normalizeChars_append (itemsText_head_lt vs)]
  rfl

theorem normalizeChars_entry (e : String × Content) (es : List (String × Content)) :
    normalizeChars (Json.quoted e.1.toList ++
        ':' :: (e.2.toJson.text ++ Json.membersText (entriesToJson es))) =
      '"' :: (normalString e.1 ++ '"' :: ':' :: (e.2.normalText ++ normalMembersText es)) := by
  rw [normalizeChars_quoted_append, normalizeChars_cons_of_lt (by decide) (text_head_lt e.2 _),
    normalizeChars_append (membersText_head_lt es)]
  rfl

theorem quoted_head_lt (cs rest : List Char) :
    ∀ y ∈ (Json.quoted cs ++ rest).head?, y.toNat < 0xC0 := by
  rintro y ⟨⟩
  decide

theorem normalText_object_nil : (object []).normalText = ['\x7b', '\x7d'] :=
  normalizeChars_of_lt (lt_of_isBasic (by decide))

theorem normalText_object_cons (e : String × Content) (es : List (String × Content)) :
    (object (e :: es)).normalText =
      '\x7b' :: '"' :: (normalString e.1 ++ '"' :: ':' :: (e.2.normalText ++ normalMembersText es)) := by
  rw [normalText, text_object_cons, normalizeChars_cons_of_lt (by decide) (quoted_head_lt _ _),
    normalizeChars_entry]

theorem normalMembersText_nil : normalMembersText [] = ['\x7d'] :=
  normalizeChars_of_lt (lt_of_isBasic (by decide))

theorem normalMembersText_cons (e : String × Content) (es : List (String × Content)) :
    normalMembersText (e :: es) =
      ',' :: '"' :: (normalString e.1 ++ '"' :: ':' :: (e.2.normalText ++ normalMembersText es)) := by
  rw [normalMembersText, membersText_cons, normalizeChars_cons_of_lt (by decide) (quoted_head_lt _ _),
    normalizeChars_entry]

theorem normalText_head (c : Content) :
    ∃ x rest, c.normalText = x :: rest ∧ openedBy x = some c.kind := by
  cases c with
  | object es =>
    cases es with
    | nil => exact ⟨_, _, normalText_object_nil, rfl⟩
    | cons e es => exact ⟨_, _, normalText_object_cons e es, rfl⟩
  | array vs =>
    cases vs with
    | nil => exact ⟨_, _, normalText_array_nil, rfl⟩
    | cons v vs => exact ⟨_, _, normalText_array_cons v vs, rfl⟩
  | string s => exact ⟨_, _, normalText_string s, rfl⟩
  | number n =>
    rw [normalText_number]
    exact text_head (number n)
  | bool b =>
    rw [normalText_bool]
    exact text_head (bool b)

open Reading

theorem readsStringIff_normalString (s : String) (rest : List Char) :
    ReadsStringIff (Json.EscapesStand (Text.decompose s.toList)) (normalString s ++ '"' :: rest)
      (Text.normalize s) rest :=
  ⟨readString_of_stand rest, readString_of_broken rest⟩

def Parses (c : Content) : Prop :=
  ∀ {steps : Nat} {rest : List Char}, Numeral.Ended rest →
    2 * (c.normalText ++ rest).length ≤ steps →
      ReadsIff c.EscapesStand (readValue Numeral.text steps (c.normalText ++ rest)) c.tree.reading rest

theorem ended_cons {x : Char} (hx : Digits.value? x = none ∧ x ≠ '.' ∧ x ≠ 'e' ∧ x ≠ 'E')
    (rest : List Char) : Numeral.Ended (x :: rest) := by
  rintro y ⟨⟩
  exact hx

-- A text is longer than its value is deep, and every level takes two steps.
theorem readsIff_items {v : Content} {vs : List Content} (h : ∀ u ∈ v :: vs, Parses u) {steps : Nat}
    {rest : List Char}
    (hsteps : 2 * (v.normalText ++ (normalItemsText vs ++ rest)).length + 1 ≤ steps) :
    ReadsIff (∀ s ∈ itemStrings (v :: vs), Json.EscapesStand (Text.decompose s.toList))
      (readItems Numeral.text steps (v.normalText ++ (normalItemsText vs ++ rest)))
      (Tree.readingItems (treeItems (v :: vs))) rest := by
  obtain ⟨hv, hvs⟩ := List.forall_mem_cons.mp h
  obtain ⟨steps, rfl⟩ := Nat.exists_eq_succ_of_ne_zero (by omega : steps ≠ 0)
  induction vs generalizing v steps with
  | nil =>
    rw [normalItemsText_nil, List.singleton_append] at hsteps ⊢
    have hread := hv (ended_cons (x := ']') (by decide) rest) (by omega : _ ≤ steps)
    exact (readsIff_items_last hread).congr (by simp [itemStrings, EscapesStand])
  | cons w vs ih =>
    rw [normalItemsText_cons, List.cons_append, List.append_assoc] at hsteps ⊢
    simp only [List.length_append, List.length_cons] at hsteps
    have hread := hv (ended_cons (x := ',') (by decide)
      (w.normalText ++ (normalItemsText vs ++ rest))) (by simp; omega : _ ≤ steps)
    obtain ⟨hw, htail⟩ := List.forall_mem_cons.mp hvs
    obtain ⟨steps, rfl⟩ := Nat.exists_eq_succ_of_ne_zero (by omega : steps ≠ 0)
    have hmore := ih hvs hw htail steps (by simp; omega)
    exact (readsIff_items_cons hread hmore).congr
      (by simp [itemStrings, EscapesStand, or_imp, forall_and])

theorem readsIff_members {e : String × Content} {es : List (String × Content)}
    (h : ∀ f ∈ e :: es, Parses f.2) {steps : Nat} {rest : List Char}
    (hsteps : 2 * ('"' :: (normalString e.1 ++ '"' :: ':' ::
      (e.2.normalText ++ (normalMembersText es ++ rest)))).length + 1 ≤ steps) :
    ReadsIff (∀ s ∈ memberStrings (e :: es), Json.EscapesStand (Text.decompose s.toList))
      (readMembers Numeral.text steps ('"' :: (normalString e.1 ++ '"' :: ':' ::
        (e.2.normalText ++ (normalMembersText es ++ rest)))))
      (Tree.readingMembers (treeEntries (e :: es))) rest := by
  obtain ⟨he, hes⟩ := List.forall_mem_cons.mp h
  obtain ⟨steps, rfl⟩ := Nat.exists_eq_succ_of_ne_zero (by omega : steps ≠ 0)
  simp only [List.length_append, List.length_cons] at hsteps
  induction es generalizing e steps with
  | nil =>
    rw [normalMembersText_nil] at hsteps ⊢
    rw [List.singleton_append]
    have hkey := readsStringIff_normalString e.1 (':' :: (e.2.normalText ++ '\x7d' :: rest))
    have hread := he (ended_cons (x := '\x7d') (by decide) rest)
      (by simp at hsteps ⊢; omega : _ ≤ steps)
    exact (readsIff_members_last hkey hread).congr (by simp [memberStrings, EscapesStand])
  | cons f es ih =>
    rw [normalMembersText_cons] at hsteps ⊢
    simp only [List.cons_append, List.append_assoc, List.length_append, List.length_cons] at hsteps ⊢
    have hkey := readsStringIff_normalString e.1 (':' :: (e.2.normalText ++ ',' :: '"' ::
      (normalString f.1 ++ '"' :: ':' :: (f.2.normalText ++ (normalMembersText es ++ rest)))))
    have hread := he (ended_cons (x := ',') (by decide) ('"' :: (normalString f.1 ++ '"' :: ':' ::
      (f.2.normalText ++ (normalMembersText es ++ rest))))) (by simp; omega : _ ≤ steps)
    obtain ⟨hf, htail⟩ := List.forall_mem_cons.mp hes
    obtain ⟨steps, rfl⟩ := Nat.exists_eq_succ_of_ne_zero (by omega : steps ≠ 0)
    have hmore := ih hes hf htail steps (by omega)
    exact (readsIff_members_cons hkey hread hmore).congr
      (by simp [memberStrings, EscapesStand, or_imp, forall_and, and_assoc])

theorem parses_array {vs : List Content} (h : ∀ v ∈ vs, Parses v) : Parses (array vs) := by
  intro steps rest _ hsteps
  cases vs with
  | nil =>
    rw [normalText_array_nil] at hsteps ⊢
    obtain ⟨steps, rfl⟩ := Nat.exists_eq_succ_of_ne_zero (by simp at hsteps; omega : steps ≠ 0)
    exact readsIff_array_nil.congr (by simp [EscapesStand, strings, itemStrings])
  | cons v vs =>
    rw [normalText_array_cons, List.cons_append, List.append_assoc] at hsteps ⊢
    rw [List.length_cons] at hsteps
    obtain ⟨steps, rfl⟩ := Nat.exists_eq_succ_of_ne_zero (by omega : steps ≠ 0)
    have hfuel : 2 * (v.normalText ++ (normalItemsText vs ++ rest)).length + 1 ≤ steps := by omega
    have hitems := readsIff_items h hfuel
    obtain ⟨x, xs, hx, hopened⟩ := normalText_head v
    obtain ⟨hblank, hclosing⟩ := not_blank_of_openedBy hopened
    rw [hx, List.cons_append] at hitems ⊢
    exact readsIff_array hblank hclosing hitems

theorem parses_object {es : List (String × Content)} (h : ∀ e ∈ es, Parses e.2) :
    Parses (object es) := by
  intro steps rest _ hsteps
  cases es with
  | nil =>
    rw [normalText_object_nil] at hsteps ⊢
    obtain ⟨steps, rfl⟩ := Nat.exists_eq_succ_of_ne_zero (by simp at hsteps; omega : steps ≠ 0)
    exact readsIff_object_nil.congr (by simp [EscapesStand, strings, memberStrings])
  | cons e es =>
    rw [normalText_object_cons] at hsteps ⊢
    simp only [List.cons_append, List.append_assoc] at hsteps ⊢
    rw [List.length_cons] at hsteps
    obtain ⟨steps, rfl⟩ := Nat.exists_eq_succ_of_ne_zero (by omega : steps ≠ 0)
    exact readsIff_object (readsIff_members h (by omega : _ ≤ steps))

theorem parses_string (s : String) : Parses (string s) := by
  intro steps rest _ hsteps
  rw [normalText_string, List.cons_append, List.append_assoc, List.singleton_append] at hsteps ⊢
  obtain ⟨steps, rfl⟩ := Nat.exists_eq_succ_of_ne_zero (by simp at hsteps; omega : steps ≠ 0)
  exact (readsIff_string (readsStringIff_normalString s rest)).congr
    (by simp [EscapesStand, strings])

theorem parses_number (n : Number) : Parses (number n) := by
  intro steps rest hrest hsteps
  obtain ⟨r, hr, htext, -⟩ := Numeral.exists_text_eq n
  have hne := (Number.isNumeral_text n).1
  rw [normalText_number] at hsteps ⊢
  obtain ⟨steps, rfl⟩ := Nat.exists_eq_succ_of_ne_zero
    (by have := List.length_pos_iff.mpr hne; simp at hsteps; omega : steps ≠ 0)
  have hread := readValue_numeral Numeral.text steps hr hrest
  rw [htext] at hread
  exact (ReadsIff.of_eq hread).congr (by simp [EscapesStand, strings])

theorem parses_bool (b : Bool) : Parses (bool b) := by
  intro steps rest _ hsteps
  rw [normalText_bool] at hsteps ⊢
  cases b with
  | false =>
    obtain ⟨steps, rfl⟩ := Nat.exists_eq_succ_of_ne_zero
      (by simp [Json.boolText] at hsteps; omega : steps ≠ 0)
    exact (ReadsIff.of_eq rfl).congr (by simp [EscapesStand, strings])
  | true =>
    obtain ⟨steps, rfl⟩ := Nat.exists_eq_succ_of_ne_zero
      (by simp [Json.boolText] at hsteps; omega : steps ≠ 0)
    exact (ReadsIff.of_eq rfl).congr (by simp [EscapesStand, strings])

theorem parses (c : Content) : Parses c := by
  induction c using Content.induction with
  | object es ih => exact parses_object ih
  | array vs ih => exact parses_array ih
  | string s => exact parses_string s
  | number n => exact parses_number n
  | bool b => exact parses_bool b

end Content

end SelectiveDisclosure
