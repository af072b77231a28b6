import SelectiveDisclosure.Proofs.Content.Parsing
import SelectiveDisclosure.Proofs.Content.SameTree

namespace SelectiveDisclosure

inductive Tree.Ordered : Tree → Prop
  | object {es : List (String × Tree)} : Ascending es → (∀ e ∈ es, Ordered e.2) →
      Ordered (.object es)
  | array {ts : List Tree} : (∀ t ∈ ts, Ordered t) → Ordered (.array ts)
  | string (s : String) : Ordered (.string s)
  | number (text : List Char) : Ordered (.number text)
  | bool (b : Bool) : Ordered (.bool b)

namespace Content

theorem mem_normalEntries {es : List (String × Content)} {done : List (String × Tree)}
    {f : String × Tree} (h : f ∈ normalEntries es done) :
    (∃ e ∈ es, f.2 = e.2.normalForm) ∨ f ∈ done := by
  induction es generalizing done with
  | nil => exact .inr h
  | cons e es ih =>
    rcases ih h with ⟨d, hd, hf⟩ | h
    · exact .inl ⟨d, List.mem_cons_of_mem _ hd, hf⟩
    · rcases mem_insertEntry h with rfl | h
      · exact .inl ⟨e, List.mem_cons_self .., rfl⟩
      · exact .inr h

theorem ordered_normalForm (c : Content) : c.normalForm.Ordered := by
  induction c using Content.induction with
  | object es ih =>
    rw [normalForm]
    refine .object (ascending_normalEntries List.Pairwise.nil) fun f hf => ?_
    obtain ⟨e, he, hfe⟩ := (mem_normalEntries hf).resolve_right List.not_mem_nil
    rw [hfe]
    exact ih e he
  | array vs ih =>
    rw [normalForm, normalItems_eq_map]
    refine .array fun t ht => ?_
    obtain ⟨v, hv, rfl⟩ := List.mem_map.mp ht
    exact ih v hv
  | string s => exact .string _
  | number n => exact .number _
  | bool b => exact .bool b

theorem sameEntries_of_perm {es fs gs : List (String × Content)} (h : SameEntries es fs)
    (hperm : fs.Perm gs) : SameEntries es gs := by
  induction es generalizing fs gs with
  | nil =>
    cases h
    rw [← hperm.nil_eq]
    exact .nil
  | cons e es ih =>
    obtain - | @⟨_, l, _, w, _, before, after, hkey, hvalue, hrest⟩ := h
    obtain ⟨front, back, rfl⟩ := List.append_of_mem
      (hperm.subset (List.mem_append_right before (List.mem_cons_self (a := (l, w)))))
    have hrest' : (before ++ after).Perm (front ++ back) :=
      List.Perm.cons_inv ((List.perm_middle.symm.trans hperm).trans List.perm_middle)
    exact .cons hkey hvalue (ih hrest hrest')

def NormalizesTo (depth : Nat) (e f : String × Content) : Prop :=
  f.1 = Text.normalize e.1 ∧ normalizeAt depth e.2 = .ok f.2

theorem normalizeItems_spec {depth : Nat} {vs ws : List Content}
    (h : normalizeItems depth vs = .ok ws) :
    List.Forall₂ (fun v w => normalizeAt depth v = .ok w) vs ws := by
  induction vs generalizing ws with
  | nil =>
    rw [← return_ok_iff.mp h]
    exact .nil
  | cons v vs ih =>
    obtain ⟨w, hw, h⟩ := bind_ok_iff.mp h
    obtain ⟨ws, hws, h⟩ := bind_ok_iff.mp h
    rw [← return_ok_iff.mp h]
    exact .cons hw (ih hws)

theorem normalizeEntries_spec {depth : Nat} {es done out : List (String × Content)}
    (h : normalizeEntries depth es done = .ok out) :
    ∃ fs, List.Forall₂ (NormalizesTo depth) es fs ∧ (fs ++ done).Perm out := by
  induction es generalizing done with
  | nil =>
    rw [← return_ok_iff.mp h]
    exact ⟨[], .nil, .refl _⟩
  | cons e es ih =>
    obtain ⟨hnone, h⟩ := throw_ok_iff.mp h
    obtain ⟨c, hc, h⟩ := bind_ok_iff.mp h
    obtain ⟨fs, hfs, hperm⟩ := ih h
    have hnew : Text.normalize e.1 ∉ done.map Prod.fst :=
      fun hmem => hnone (lookupEntry_isSome_of_mem hmem)
    refine ⟨(Text.normalize e.1, c) :: fs, .cons ⟨rfl, hc⟩ hfs, List.Perm.trans ?_ hperm⟩
    exact List.perm_middle.symm.trans ((insertEntry_perm hnew).symm.append_left fs)

theorem normalizeAt_array_spec {depth : Nat} {vs : List Content} {n : Content}
    (h : normalizeAt depth (array vs) = .ok n) :
    ∃ ws, n = array ws ∧ List.Forall₂ (fun v w => normalizeAt (depth + 1) v = .ok w) vs ws := by
  obtain ⟨-, -, h⟩ := bind_ok_iff.mp h
  obtain ⟨ws, hws, h⟩ := bind_ok_iff.mp h
  exact ⟨ws, (return_ok_iff.mp h).symm, normalizeItems_spec hws⟩

theorem normalizeAt_object_spec {depth : Nat} {es : List (String × Content)} {n : Content}
    (h : normalizeAt depth (object es) = .ok n) :
    ∃ fs out, n = object out ∧ List.Forall₂ (NormalizesTo (depth + 1)) es fs ∧ fs.Perm out := by
  obtain ⟨-, -, h⟩ := bind_ok_iff.mp h
  obtain ⟨out, hout, h⟩ := bind_ok_iff.mp h
  obtain ⟨fs, hfs, hperm⟩ := normalizeEntries_spec hout
  rw [List.append_nil] at hperm
  exact ⟨fs, out, (return_ok_iff.mp h).symm, hfs, hperm⟩

theorem sameTree_of_normalizeAt (c : Content) {depth : Nat} {n : Content}
    (h : normalizeAt depth c = .ok n) : SameTree c n := by
  induction c using Content.induction generalizing depth n with
  | object es ih =>
    obtain ⟨fs, out, rfl, hfs, hperm⟩ := normalizeAt_object_spec h
    refine .object (sameEntries_of_perm ?_ hperm)
    clear h hperm
    induction hfs with
    | nil => exact .nil
    | @cons e f es fs hef _ ihs =>
      obtain ⟨he, hes⟩ := List.forall_mem_cons.mp ih
      have hkey : Text.normalize e.1 = Text.normalize f.1 := by simp [hef.1]
      have hhead : SameEntries (e :: es) ([] ++ (f.1, f.2) :: fs) := .cons hkey (he hef.2) (ihs hes)
      exact hhead
  | array vs ih =>
    obtain ⟨ws, rfl, hws⟩ := normalizeAt_array_spec h
    refine .array ?_
    clear h
    induction hws with
    | nil => exact .nil
    | cons hvw _ ihs =>
      obtain ⟨hv, hvs⟩ := List.forall_mem_cons.mp ih
      exact .cons (hv hvw) (ihs hvs)
  | string s =>
    obtain ⟨-, -, h⟩ := bind_ok_iff.mp h
    rw [← return_ok_iff.mp h]
    exact .string rfl
  | number m =>
    obtain ⟨-, -, h⟩ := bind_ok_iff.mp h
    rw [← return_ok_iff.mp h]
    exact .number rfl
  | bool b =>
    obtain ⟨-, -, h⟩ := bind_ok_iff.mp h
    rw [← return_ok_iff.mp h]
    exact .bool

theorem forall_mem_itemStrings {P : String → Prop} {vs : List Content} :
    (∀ s ∈ itemStrings vs, P s) ↔ ∀ v ∈ vs, ∀ s ∈ v.strings, P s := by
  induction vs with
  | nil => simp [itemStrings]
  | cons v vs ih => rw [itemStrings, List.forall_mem_append, ih, List.forall_mem_cons]

theorem forall_mem_memberStrings {P : String → Prop} {es : List (String × Content)} :
    (∀ s ∈ memberStrings es, P s) ↔ ∀ e ∈ es, P e.1 ∧ ∀ s ∈ e.2.strings, P s := by
  induction es with
  | nil => simp [memberStrings]
  | cons e es ih =>
    rw [memberStrings, List.forall_mem_cons, List.forall_mem_append, ih, List.forall_mem_cons,
      and_assoc]

-- A predicate that does not tell a string from its normalization holds before as after.
theorem forall_mem_strings_of_normalizeAt {P : String → Prop} (hP : ∀ s, P (Text.normalize s) ↔ P s)
    (c : Content) {depth : Nat} {n : Content} (h : normalizeAt depth c = .ok n) :
    (∀ s ∈ n.strings, P s) ↔ ∀ s ∈ c.strings, P s := by
  induction c using Content.induction generalizing depth n with
  | object es ih =>
    obtain ⟨fs, out, rfl, hfs, hperm⟩ := normalizeAt_object_spec h
    rw [strings, strings, forall_mem_memberStrings, forall_mem_memberStrings]
    simp only [← hperm.mem_iff]
    clear h hperm
    induction hfs with
    | nil => rfl
    | @cons e f es fs hef _ ihs =>
      obtain ⟨he, hes⟩ := List.forall_mem_cons.mp ih
      rw [List.forall_mem_cons, List.forall_mem_cons, ihs hes, hef.1, hP, he hef.2]
  | array vs ih =>
    obtain ⟨ws, rfl, hws⟩ := normalizeAt_array_spec h
    rw [strings, strings, forall_mem_itemStrings, forall_mem_itemStrings]
    clear h
    induction hws with
    | nil => rfl
    | cons hvw _ ihs =>
      obtain ⟨hv, hvs⟩ := List.forall_mem_cons.mp ih
      rw [List.forall_mem_cons, List.forall_mem_cons, ihs hvs, hv hvw]
  | string s =>
    obtain ⟨-, -, h⟩ := bind_ok_iff.mp h
    rw [← return_ok_iff.mp h]
  | number m =>
    obtain ⟨-, -, h⟩ := bind_ok_iff.mp h
    rw [← return_ok_iff.mp h]
  | bool b =>
    obtain ⟨-, -, h⟩ := bind_ok_iff.mp h
    rw [← return_ok_iff.mp h]

theorem escapesStand_of_normalizeAt {c : Content} {depth : Nat} {n : Content}
    (h : normalizeAt depth c = .ok n) : n.EscapesStand ↔ c.EscapesStand := by
  refine forall_mem_strings_of_normalizeAt (fun s => ?_) c h
  rw [Text.normalize, String.toList_ofList, Text.decompose_normalizeChars]

end Content

def Json.IsText (s : String) : Prop := (Reading.ofText Numeral.text s).2 = true

namespace Content

theorem reads_normalText (c : Content) : Reading.ReadsIff c.EscapesStand
    (Reading.readValue Numeral.text (2 * c.normalText.length + 2) c.normalText) c.tree.reading [] := by
  have hend : Numeral.Ended [] := fun _ h => nomatch h
  have hfuel : 2 * (c.normalText ++ []).length ≤ 2 * c.normalText.length + 2 := by simp
  have hread := parses c hend hfuel
  rwa [List.append_nil] at hread

theorem ofText_of_stand {c : Content} (h : c.EscapesStand) :
    Reading.ofText Numeral.text (String.ofList c.normalText) = (c.tree.reading, true) := by
  rw [Reading.ofText, String.toList_ofList, (reads_normalText c).reads h]
  rfl

theorem ofText_of_broken {c : Content} (h : ¬c.EscapesStand) :
    (Reading.ofText Numeral.text (String.ofList c.normalText)).2 = false := by
  rw [Reading.ofText, String.toList_ofList, (reads_normalText c).eq_of_not h]

theorem isText_normalText_iff {c : Content} :
    Json.IsText (String.ofList c.normalText) ↔ c.EscapesStand := by
  by_cases h : c.EscapesStand
  · refine iff_of_true ?_ h
    rw [Json.IsText, ofText_of_stand h]
  · refine iff_of_false ?_ h
    rw [Json.IsText, ofText_of_broken h]
    exact Bool.false_ne_true

theorem canonical_text_isText_iff {c : Content} (hc : c.IsStructure) {s : String}
    (hs : c.encode = .ok s) :
    (Json.IsText s ↔ c.EscapesStand) ∧
      (Json.IsText s → ∃ d : Content, Reading.ofText Numeral.text s = (d.tree.reading, true) ∧
        d.tree.Ordered ∧ SameTree c d) := by
  obtain ⟨n, hn, hs⟩ := bind_ok_iff.mp hs
  have htext : s = String.ofList n.normalText := by
    rw [← return_ok_iff.mp hs, plainText_of_normalizeAt hc hn, normalText]
  have hiff : Json.IsText s ↔ c.EscapesStand := by
    rw [htext, isText_normalText_iff, escapesStand_of_normalizeAt hn]
  refine ⟨hiff, fun h => ⟨n, ?_, ?_, sameTree_of_normalizeAt c hn⟩⟩
  · rw [htext, ofText_of_stand ((escapesStand_of_normalizeAt hn).mpr (hiff.mp h))]
  · rw [tree_of_normalizeAt c hn]
    exact ordered_normalForm c

def accentAfter (c : Char) : Content := .array [.string (String.ofList [c, '\u0301'])]

theorem accentAfter_encoded :
    (accentAfter '\x01').encode = .ok "[\"\\u0001\u0301\"]" ∧
      (accentAfter '\n').encode = .ok "[\"\\\u0144\"]" := by
  decide +kernel

theorem accent_after_word_escape : ∃ s, (accentAfter '\x01').encode = .ok s ∧ Json.IsText s ∧
    ∃ d : Content, Reading.ofText Numeral.text s = (d.tree.reading, true) ∧ d.tree.Ordered ∧
      SameTree (accentAfter '\x01') d := by
  have htext : Json.IsText "[\"\\u0001\u0301\"]" := by
    rw [Json.IsText]
    decide +kernel
  have hread := canonical_text_isText_iff (c := accentAfter '\x01') trivial accentAfter_encoded.1
  exact ⟨_, accentAfter_encoded.1, htext, hread.2 htext⟩

theorem accent_after_short_escape :
    ¬∀ (c : Content) (s : String), c.IsStructure → c.encode = .ok s → Json.IsText s ∧
      ∃ d : Content, Reading.ofText Numeral.text s = (d.tree.reading, true) ∧ d.tree.Ordered ∧
        SameTree c d := by
  intro h
  obtain ⟨htext, -⟩ := h (accentAfter '\n') _ trivial accentAfter_encoded.2
  rw [Json.IsText] at htext
  exact absurd htext (by decide +kernel)

end Content

end SelectiveDisclosure
