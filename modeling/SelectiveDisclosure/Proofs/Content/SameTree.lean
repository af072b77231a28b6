import SelectiveDisclosure.Proofs.Content.Acceptance
import SelectiveDisclosure.Proofs.Content.Encoding
import SelectiveDisclosure.Proofs.Number.Numeral

namespace SelectiveDisclosure

namespace Content

mutual

inductive SameTree : Content → Content → Prop
  | object {es fs : List (String × Content)} : SameEntries es fs → SameTree (.object es) (.object fs)
  | array {vs ws : List Content} : SameItems vs ws → SameTree (.array vs) (.array ws)
  | string {s t : String} : Text.normalize s = Text.normalize t → SameTree (.string s) (.string t)
  | number {m n : Number} : m.text = n.text → SameTree (.number m) (.number n)
  | bool {b : Bool} : SameTree (.bool b) (.bool b)

inductive SameItems : List Content → List Content → Prop
  | nil : SameItems [] []
  | cons {v w : Content} {vs ws : List Content} : SameTree v w → SameItems vs ws →
      SameItems (v :: vs) (w :: ws)

-- The member that pairs with the first one may stand anywhere among the others.
inductive SameEntries : List (String × Content) → List (String × Content) → Prop
  | nil : SameEntries [] []
  | cons {k l : String} {v w : Content} {es fs gs : List (String × Content)} :
      Text.normalize k = Text.normalize l → SameTree v w → SameEntries es (fs ++ gs) →
      SameEntries ((k, v) :: es) (fs ++ (l, w) :: gs)

end

def normalMembers (es : List (String × Content)) : List (String × Tree) :=
  es.map fun e => (Text.normalize e.1, e.2.normalForm)

theorem normalEntries_perm {es : List (String × Content)} {done : List (String × Tree)}
    (hes : (normalKeys es).Nodup) (hdone : ∀ k ∈ normalKeys es, k ∉ done.map Prod.fst) :
    (normalEntries es done).Perm (normalMembers es ++ done) := by
  induction es generalizing done with
  | nil => exact List.Perm.refl _
  | cons e es ih =>
    obtain ⟨hnew, hes⟩ := List.nodup_cons.mp hes
    obtain ⟨hfresh, hdone⟩ := List.forall_mem_cons.mp hdone
    have hrest : ∀ k ∈ normalKeys es,
        k ∉ (insertEntry (Text.normalize e.1) e.2.normalForm done).map Prod.fst :=
      (fresh_insertEntry_iff hfresh).mpr ⟨hnew, hdone⟩
    rw [normalEntries]
    refine (ih hes hrest).trans ?_
    exact ((insertEntry_perm hfresh).append_left _).trans List.perm_middle

theorem normalEntries_nil_perm {es : List (String × Content)} (hes : (normalKeys es).Nodup) :
    (normalEntries es []).Perm (normalMembers es) := by
  have h := normalEntries_perm hes fun _ _ (hmem : _ ∈ [].map Prod.fst) => nomatch hmem
  rwa [List.append_nil] at h

theorem ascending_normalEntries {es : List (String × Content)} {done : List (String × Tree)}
    (hdone : Ascending done) : Ascending (normalEntries es done) := by
  induction es generalizing done with
  | nil => exact hdone
  | cons e es ih =>
    rw [normalEntries]
    exact ih (ascending_insertEntry _ _ hdone)

theorem normalEntries_eq_iff {es fs : List (String × Content)} (hes : (normalKeys es).Nodup)
    (hfs : (normalKeys fs).Nodup) :
    normalEntries es [] = normalEntries fs [] ↔ (normalMembers es).Perm (normalMembers fs) := by
  have hes := normalEntries_nil_perm hes
  have hfs := normalEntries_nil_perm hfs
  constructor
  · intro h
    exact hes.symm.trans (h ▸ hfs)
  · intro h
    exact eq_of_perm_of_ascending (ascending_normalEntries List.Pairwise.nil)
      (ascending_normalEntries List.Pairwise.nil) (hes.trans (h.trans hfs.symm))

def Normalizes (c : Content) : Prop := ∃ depth n, normalizeAt depth c = .ok n

theorem normalizes_object {es : List (String × Content)} (h : Normalizes (object es)) :
    (normalKeys es).Nodup ∧ ∀ e ∈ es, Normalizes e.2 := by
  obtain ⟨depth, h⟩ := h
  obtain ⟨-, hkeys, hall⟩ := normalizeAt_object_ok_iff.mp h
  exact ⟨hkeys, fun e he => ⟨depth + 1, hall e he⟩⟩

theorem normalizes_array {vs : List Content} (h : Normalizes (array vs)) :
    ∀ v ∈ vs, Normalizes v := by
  obtain ⟨depth, h⟩ := h
  obtain ⟨-, hall⟩ := normalizeAt_array_ok_iff.mp h
  exact fun v hv => ⟨depth + 1, hall v hv⟩

theorem sameItems_iff {vs ws : List Content}
    (h : ∀ v ∈ vs, ∀ w ∈ ws, SameTree v w ↔ v.normalForm = w.normalForm) :
    SameItems vs ws ↔ normalItems vs = normalItems ws := by
  induction vs generalizing ws with
  | nil =>
    cases ws with
    | nil => exact iff_of_true .nil rfl
    | cons w ws => exact iff_of_false nofun nofun
  | cons v vs ih =>
    cases ws with
    | nil => exact iff_of_false nofun nofun
    | cons w ws =>
      have hhead := h v (List.mem_cons_self ..) w (List.mem_cons_self ..)
      have htail := ih fun u hu x hx =>
        h u (List.mem_cons_of_mem _ hu) x (List.mem_cons_of_mem _ hx)
      rw [normalItems, normalItems, List.cons.injEq, ← hhead, ← htail]
      constructor
      · rintro (- | ⟨hv, hvs⟩)
        exact ⟨hv, hvs⟩
      · rintro ⟨hv, hvs⟩
        exact .cons hv hvs

theorem sameEntries_iff {es fs : List (String × Content)}
    (h : ∀ e ∈ es, ∀ f ∈ fs, SameTree e.2 f.2 ↔ e.2.normalForm = f.2.normalForm) :
    SameEntries es fs ↔ (normalMembers es).Perm (normalMembers fs) := by
  induction es generalizing fs with
  | nil =>
    cases fs with
    | nil => exact iff_of_true .nil (List.Perm.refl _)
    | cons f fs =>
      exact iff_of_false nofun fun hperm => absurd hperm.length_eq nofun
  | cons e es ih =>
    -- the members of fs that remain once f is taken out
    have htail : ∀ {f gs hs}, fs = gs ++ f :: hs →
        (SameEntries es (gs ++ hs) ↔ (normalMembers es).Perm (normalMembers (gs ++ hs))) := by
      rintro f gs hs rfl
      refine ih fun d hd g hg => h d (List.mem_cons_of_mem _ hd) g ?_
      exact (List.sublist_cons_self f hs).append_left gs |>.subset hg
    have hmiddle : ∀ {f gs hs}, (normalMembers (gs ++ f :: hs)).Perm
        ((Text.normalize f.1, f.2.normalForm) :: normalMembers (gs ++ hs)) := by
      intro f gs hs
      exact List.perm_middle.map _
    constructor
    · rintro (- | @⟨k, l, v, w, _, gs, hs, hkey, hvalue, hrest⟩)
      have hmem : (l, w) ∈ gs ++ (l, w) :: hs := List.mem_append_right _ (List.mem_cons_self ..)
      have hw := (h (k, v) (List.mem_cons_self ..) (l, w) hmem).mp hvalue
      refine List.Perm.trans ?_ hmiddle.symm
      rw [normalMembers, List.map_cons, hkey, hw]
      exact ((htail rfl).mp hrest).cons _
    · intro hperm
      obtain ⟨gs, f, hs, rfl, heq, hrest⟩ := exists_append_of_perm_map hperm
      obtain ⟨hkey, hvalue⟩ := Prod.mk.inj heq
      have hmem : f ∈ gs ++ f :: hs := List.mem_append_right _ (List.mem_cons_self ..)
      have hsame := (h e (List.mem_cons_self ..) f hmem).mpr hvalue.symm
      exact .cons hkey.symm hsame ((htail rfl).mpr hrest)

theorem SameEntries.exists_mem {es fs : List (String × Content)} (h : SameEntries es fs)
    {e : String × Content} (he : e ∈ es) : ∃ f ∈ fs, SameTree e.2 f.2 := by
  induction es generalizing fs with
  | nil => cases he
  | cons d es ih =>
    obtain - | @⟨_, l, _, w, _, gs, hs, -, hvalue, hrest⟩ := h
    rcases List.mem_cons.mp he with rfl | he
    · exact ⟨(l, w), List.mem_append_right _ (List.mem_cons_self ..), hvalue⟩
    · obtain ⟨f, hf, hsame⟩ := ih hrest he
      exact ⟨f, ((List.sublist_cons_self (l, w) hs).append_left gs).subset hf, hsame⟩

theorem sameTree_object_iff {es fs : List (String × Content)} :
    SameTree (object es) (object fs) ↔ SameEntries es fs :=
  ⟨fun | .object h => h, .object⟩

theorem sameTree_array_iff {vs ws : List Content} :
    SameTree (array vs) (array ws) ↔ SameItems vs ws :=
  ⟨fun | .array h => h, .array⟩

@[simp] theorem sameTree_string_iff {s t : String} :
    SameTree (string s) (string t) ↔ Text.normalize s = Text.normalize t :=
  ⟨fun | .string h => h, .string⟩

@[simp] theorem sameTree_number_iff {m n : Number} : SameTree (number m) (number n) ↔ m.text = n.text :=
  ⟨fun | .number h => h, .number⟩

@[simp] theorem sameTree_bool_iff {a b : Bool} : SameTree (bool a) (bool b) ↔ a = b :=
  ⟨fun | .bool => rfl, fun h => h ▸ .bool⟩

theorem kind_eq_of_equivalent {c d : Content} (h : Equivalent c d) : c.kind = d.kind := by
  cases c <;> cases d <;> first | rfl | exact absurd h nofun

-- Contents of two kinds are neither the same tree nor equivalent.
theorem sameTree_iff_of_kind {c d : Content}
    (h : c.kind = d.kind → (SameTree c d ↔ Equivalent c d)) : SameTree c d ↔ Equivalent c d := by
  by_cases hkind : c.kind = d.kind
  · exact h hkind
  · constructor
    · intro hsame
      exact absurd (by cases hsame <;> rfl) hkind
    · intro hequivalent
      exact absurd (kind_eq_of_equivalent hequivalent) hkind

theorem sameTree_iff_equivalent {c d : Content} (hc : Normalizes c) (hd : Normalizes d) :
    SameTree c d ↔ Equivalent c d := by
  induction c using Content.induction generalizing d with
  | object es ih =>
    refine sameTree_iff_of_kind fun hkind => ?_
    cases d with
    | object fs =>
      obtain ⟨hes, hees⟩ := normalizes_object hc
      obtain ⟨hfs, hffs⟩ := normalizes_object hd
      rw [sameTree_object_iff, Equivalent, normalForm, normalForm, Tree.object.injEq,
        normalEntries_eq_iff hes hfs]
      exact sameEntries_iff fun e he f hf => ih e he (hees e he) (hffs f hf)
    | _ => cases hkind
  | array vs ih =>
    refine sameTree_iff_of_kind fun hkind => ?_
    cases d with
    | array ws =>
      have hvs := normalizes_array hc
      have hws := normalizes_array hd
      rw [sameTree_array_iff, Equivalent, normalForm, normalForm, Tree.array.injEq]
      exact sameItems_iff fun v hv w hw => ih v hv (hvs v hv) (hws w hw)
    | _ => cases hkind
  | string s =>
    refine sameTree_iff_of_kind fun hkind => ?_
    cases d with
    | string t =>
      rw [Equivalent, normalForm, normalForm, Tree.string.injEq]
      exact sameTree_string_iff
    | _ => cases hkind
  | number m =>
    refine sameTree_iff_of_kind fun hkind => ?_
    cases d with
    | number n =>
      rw [Equivalent, normalForm, normalForm, Tree.number.injEq]
      exact sameTree_number_iff
    | _ => cases hkind
  | bool a =>
    refine sameTree_iff_of_kind fun hkind => ?_
    cases d with
    | bool b =>
      rw [Equivalent, normalForm, normalForm, Tree.bool.injEq]
      exact sameTree_bool_iff
    | _ => cases hkind

theorem normalizes_of_encode {c : Content} {x : String} (h : c.encode = .ok x) : Normalizes c :=
  ⟨0, encode_ok_iff.mp ⟨x, h⟩⟩

theorem canonical_text_eq_iff {c d : Content} (hc : c.IsStructure) (hd : d.IsStructure)
    {x y : String} (hx : c.encode = .ok x) (hy : d.encode = .ok y) : x = y ↔ SameTree c d := by
  have hnormal := sameTree_iff_equivalent (normalizes_of_encode hx) (normalizes_of_encode hy)
  rw [encode_eq_iff hc hd hx hy, hnormal]

def accentFirst : Content := .object [("e\u0301", .array [.string "e\u0301"]), ("f", .bool true)]

def accentLast : Content := .object [("f", .bool true), ("\u00e9", .array [.string "\u00e9"])]

theorem accents_written_alike : ∃ x y, accentFirst.encode = .ok x ∧ accentLast.encode = .ok y ∧
    x = y ∧ SameTree accentFirst accentLast := by
  have h : ∀ c ∈ [accentFirst, accentLast],
      c.encode = .ok "\x7b\"f\":true,\"\u00e9\":[\"\u00e9\"]\x7d" := by
    decide +kernel
  have hfirst := h accentFirst (List.mem_cons_self ..)
  have hlast := h accentLast (List.mem_cons_of_mem _ (List.mem_cons_self ..))
  have hiff := canonical_text_eq_iff (c := accentFirst) (d := accentLast) trivial trivial hfirst hlast
  exact ⟨_, _, hfirst, hlast, rfl, hiff.mp rfl⟩

end Content

end SelectiveDisclosure
