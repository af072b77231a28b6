import SelectiveDisclosure.Statement
import SelectiveDisclosure.Proofs.Content.Equivalence
import SelectiveDisclosure.Proofs.Json.Quoted
import SelectiveDisclosure.Proofs.Number.Text

namespace SelectiveDisclosure

namespace Content

inductive Kind where
  | object
  | array
  | string
  | number
  | bool
deriving DecidableEq

def kind : Content → Kind
  | .object _ => .object
  | .array _ => .array
  | .string _ => .string
  | .number _ => .number
  | .bool _ => .bool

def openedBy (x : Char) : Option Kind :=
  if x = '\x7b' then some .object
  else if x = '[' then some .array
  else if x = '"' then some .string
  else if Number.isNumeral x then some .number
  else if x = 't' ∨ x = 'f' then some .bool
  else none

theorem openedBy_of_isNumeral {x : Char} (h : Number.isNumeral x = true) :
    openedBy x = some .number := by
  have hne : ∀ y, Number.isNumeral y = false → x ≠ y := by
    intro y hy hxy
    rw [← hxy, h] at hy
    cases hy
  rw [openedBy, if_neg (hne _ (by decide)), if_neg (hne _ (by decide)), if_neg (hne _ (by decide)),
    if_pos h]

theorem text_string (s : String) : (string s).toJson.text = Json.quoted s.toList := rfl

theorem text_number (n : Number) : (number n).toJson.text = n.text := rfl

theorem text_bool (b : Bool) : (bool b).toJson.text = Json.boolText b := rfl

theorem itemsText_nil : Json.itemsText (itemsToJson []) = [']'] := rfl

theorem itemsText_cons (v : Content) (vs : List Content) :
    Json.itemsText (itemsToJson (v :: vs)) =
      ',' :: (v.toJson.text ++ Json.itemsText (itemsToJson vs)) := rfl

theorem text_array_nil : (array []).toJson.text = ['[', ']'] := rfl

theorem text_array_cons (v : Content) (vs : List Content) :
    (array (v :: vs)).toJson.text = '[' :: (v.toJson.text ++ Json.itemsText (itemsToJson vs)) := rfl

theorem membersText_nil : Json.membersText (entriesToJson []) = ['\x7d'] := rfl

theorem membersText_cons (e : String × Content) (es : List (String × Content)) :
    Json.membersText (entriesToJson (e :: es)) =
      ',' :: (Json.quoted e.1.toList ++
        ':' :: (e.2.toJson.text ++ Json.membersText (entriesToJson es))) := rfl

theorem text_object_nil : (object []).toJson.text = ['\x7b', '\x7d'] := rfl

theorem text_object_cons (e : String × Content) (es : List (String × Content)) :
    (object (e :: es)).toJson.text =
      '\x7b' :: (Json.quoted e.1.toList ++
        ':' :: (e.2.toJson.text ++ Json.membersText (entriesToJson es))) := rfl

@[simp] theorem decompose_number_append (n : Number) (r : List Char) :
    Text.decompose ((number n).toJson.text ++ r) = n.text ++ Text.decompose r := by
  rw [text_number]
  exact Text.decompose_append_of_lt
    (fun c hc => Number.lt_of_isNumeral ((Number.isNumeral_text n).2 c hc)) r

@[simp] theorem decompose_bool_append (b : Bool) (r : List Char) :
    Text.decompose ((bool b).toJson.text ++ r) = Json.boolText b ++ Text.decompose r := by
  rw [text_bool]
  refine Text.decompose_append_of_lt (Text.lt_of_isBasic ?_) r
  cases b <;> decide

@[simp] theorem decompose_string_append (s : String) (r : List Char) :
    Text.decompose ((string s).toJson.text ++ r) =
      Json.quoted (Text.decompose s.toList) ++ Text.decompose r := by
  rw [text_string, Json.decompose_quoted_append]

@[simp] theorem decompose_items_nil (r : List Char) :
    Text.decompose (Json.itemsText (itemsToJson []) ++ r) = ']' :: Text.decompose r := by
  rw [itemsText_nil]
  exact Text.decompose_cons_of_lt (by decide) r

@[simp] theorem decompose_items_cons (v : Content) (vs : List Content) (r : List Char) :
    Text.decompose (Json.itemsText (itemsToJson (v :: vs)) ++ r) =
      ',' :: Text.decompose (v.toJson.text ++ (Json.itemsText (itemsToJson vs) ++ r)) := by
  rw [itemsText_cons, List.cons_append, Text.decompose_cons_of_lt (by decide),
    List.append_assoc]

@[simp] theorem decompose_array_nil (r : List Char) :
    Text.decompose ((array []).toJson.text ++ r) = '[' :: ']' :: Text.decompose r := by
  rw [text_array_nil, List.cons_append, Text.decompose_cons_of_lt (by decide)]
  exact congrArg _ (Text.decompose_cons_of_lt (by decide) r)

@[simp] theorem decompose_array_cons (v : Content) (vs : List Content) (r : List Char) :
    Text.decompose ((array (v :: vs)).toJson.text ++ r) =
      '[' :: Text.decompose (v.toJson.text ++ (Json.itemsText (itemsToJson vs) ++ r)) := by
  rw [text_array_cons, List.cons_append, Text.decompose_cons_of_lt (by decide),
    List.append_assoc]

theorem decompose_entry_append (k : String) (v : Content) (rest r : List Char) :
    Text.decompose (Json.quoted k.toList ++ ':' :: (v.toJson.text ++ rest) ++ r) =
      Json.quoted (Text.decompose k.toList) ++
        ':' :: Text.decompose (v.toJson.text ++ (rest ++ r)) := by
  rw [List.append_assoc, Json.decompose_quoted_append, List.cons_append,
    Text.decompose_cons_of_lt (by decide), List.append_assoc]

@[simp] theorem decompose_members_nil (r : List Char) :
    Text.decompose (Json.membersText (entriesToJson []) ++ r) = '\x7d' :: Text.decompose r := by
  rw [membersText_nil]
  exact Text.decompose_cons_of_lt (by decide) r

@[simp] theorem decompose_members_cons (e : String × Content) (es : List (String × Content))
    (r : List Char) :
    Text.decompose (Json.membersText (entriesToJson (e :: es)) ++ r) =
      ',' :: (Json.quoted (Text.decompose e.1.toList) ++
        ':' :: Text.decompose (e.2.toJson.text ++ (Json.membersText (entriesToJson es) ++ r))) := by
  rw [membersText_cons, List.cons_append, Text.decompose_cons_of_lt (by decide),
    decompose_entry_append]

@[simp] theorem decompose_object_nil (r : List Char) :
    Text.decompose ((object []).toJson.text ++ r) = '\x7b' :: '\x7d' :: Text.decompose r := by
  rw [text_object_nil, List.cons_append, Text.decompose_cons_of_lt (by decide)]
  exact congrArg _ (Text.decompose_cons_of_lt (by decide) r)

@[simp] theorem decompose_object_cons (e : String × Content) (es : List (String × Content))
    (r : List Char) :
    Text.decompose ((object (e :: es)).toJson.text ++ r) =
      '\x7b' :: (Json.quoted (Text.decompose e.1.toList) ++
        ':' :: Text.decompose (e.2.toJson.text ++ (Json.membersText (entriesToJson es) ++ r))) := by
  rw [text_object_cons, List.cons_append, Text.decompose_cons_of_lt (by decide),
    decompose_entry_append]

theorem openedBy_decompose (c : Content) (r : List Char) :
    (Text.decompose (c.toJson.text ++ r)).head?.bind openedBy = some c.kind := by
  cases c with
  | object es =>
    cases es with
    | nil => rw [decompose_object_nil]; rfl
    | cons e es => rw [decompose_object_cons]; rfl
  | array vs =>
    cases vs with
    | nil => rw [decompose_array_nil]; rfl
    | cons v vs => rw [decompose_array_cons]; rfl
  | string s => rw [decompose_string_append]; rfl
  | number n =>
    obtain ⟨x, xs, hx⟩ := List.exists_cons_of_ne_nil (Number.isNumeral_text n).1
    rw [decompose_number_append, hx]
    exact openedBy_of_isNumeral ((Number.isNumeral_text n).2 x (hx ▸ List.mem_cons_self ..))
  | bool b =>
    rw [decompose_bool_append]
    cases b <;> rfl

theorem decompose_ne_closing (c : Content) (r s : List Char) :
    Text.decompose (c.toJson.text ++ r) ≠ ']' :: s := by
  intro h
  have hopened : openedBy ']' = some c.kind := by
    rw [← openedBy_decompose c r, h]
    rfl
  rw [show openedBy ']' = none by decide] at hopened
  exact absurd hopened nofun

theorem kind_eq_of_decompose {c d : Content} {r s : List Char}
    (h : Text.decompose (c.toJson.text ++ r) = Text.decompose (d.toJson.text ++ s)) :
    c.kind = d.kind := by
  have hc := openedBy_decompose c r
  rw [h, openedBy_decompose d s] at hc
  exact (Option.some.inj hc).symm

theorem kind_eq_of_tree {c d : Content} (h : c.tree = d.tree) : c.kind = d.kind := by
  cases c <;> cases d <;> first | rfl | exact absurd h nofun

def Legible (c : Content) : Prop :=
  ∀ {d : Content} {r s : List Char}, Number.Delimited (Text.decompose r) →
    Number.Delimited (Text.decompose s) →
    (Text.decompose (c.toJson.text ++ r) = Text.decompose (d.toJson.text ++ s) ↔
      c.tree = d.tree ∧ Text.decompose r = Text.decompose s)

theorem legible_of_kind {c : Content} (h : ∀ (d : Content) (r s : List Char), c.kind = d.kind →
    Number.Delimited (Text.decompose r) → Number.Delimited (Text.decompose s) →
    (Text.decompose (c.toJson.text ++ r) = Text.decompose (d.toJson.text ++ s) ↔
      c.tree = d.tree ∧ Text.decompose r = Text.decompose s)) : Legible c := by
  intro d r s hr hs
  by_cases hkind : c.kind = d.kind
  · exact h d r s hkind hr hs
  · exact ⟨fun htext => absurd (kind_eq_of_decompose htext) hkind,
      fun htree => absurd (kind_eq_of_tree htree.1) hkind⟩

theorem delimited_items (vs : List Content) (r : List Char) :
    Number.Delimited (Text.decompose (Json.itemsText (itemsToJson vs) ++ r)) := by
  cases vs with
  | nil =>
    rw [decompose_items_nil]
    exact fun c hc => Option.some.inj hc ▸ by decide
  | cons v vs =>
    rw [decompose_items_cons]
    exact fun c hc => Option.some.inj hc ▸ by decide

theorem delimited_members (es : List (String × Content)) (r : List Char) :
    Number.Delimited (Text.decompose (Json.membersText (entriesToJson es) ++ r)) := by
  cases es with
  | nil =>
    rw [decompose_members_nil]
    exact fun c hc => Option.some.inj hc ▸ by decide
  | cons e es =>
    rw [decompose_members_cons]
    exact fun c hc => Option.some.inj hc ▸ by decide

theorem legible_items {vs : List Content} (h : ∀ v ∈ vs, Legible v) {ws : List Content}
    {r s : List Char} :
    Text.decompose (Json.itemsText (itemsToJson vs) ++ r) =
        Text.decompose (Json.itemsText (itemsToJson ws) ++ s) ↔
      treeItems vs = treeItems ws ∧ Text.decompose r = Text.decompose s := by
  induction vs generalizing ws with
  | nil =>
    cases ws with
    | nil => simp
    | cons w ws => simp [treeItems]
  | cons v vs ih =>
    cases ws with
    | nil => simp [treeItems]
    | cons w ws =>
      rw [decompose_items_cons, decompose_items_cons, List.cons_inj_right,
        h v (List.mem_cons_self ..) (delimited_items vs r) (delimited_items ws s),
        ih fun u hu => h u (List.mem_cons_of_mem _ hu), treeItems, treeItems, List.cons.injEq,
        and_assoc]

theorem legible_entry {v : Content} (h : Legible v) {k l : String} {w : Content} {r s : List Char}
    (hr : Number.Delimited (Text.decompose r)) (hs : Number.Delimited (Text.decompose s)) :
    Json.quoted (Text.decompose k.toList) ++ ':' :: Text.decompose (v.toJson.text ++ r) =
        Json.quoted (Text.decompose l.toList) ++ ':' :: Text.decompose (w.toJson.text ++ s) ↔
      (Text.normalize k, v.tree) = (Text.normalize l, w.tree) ∧
        Text.decompose r = Text.decompose s := by
  rw [Prod.mk.injEq, Text.normalize_eq_iff_decompose, and_assoc, ← h hr hs]
  constructor
  · intro heq
    obtain ⟨hkey, hrest⟩ := Json.quoted_append_inj heq
    exact ⟨hkey, (List.cons.inj hrest).2⟩
  · rintro ⟨hkey, hrest⟩
    rw [hkey, hrest]

theorem legible_members {es : List (String × Content)} (h : ∀ e ∈ es, Legible e.2)
    {fs : List (String × Content)} {r s : List Char} :
    Text.decompose (Json.membersText (entriesToJson es) ++ r) =
        Text.decompose (Json.membersText (entriesToJson fs) ++ s) ↔
      treeEntries es = treeEntries fs ∧ Text.decompose r = Text.decompose s := by
  induction es generalizing fs with
  | nil =>
    cases fs with
    | nil => simp
    | cons f fs => simp [treeEntries]
  | cons e es ih =>
    cases fs with
    | nil => simp [treeEntries]
    | cons f fs =>
      rw [decompose_members_cons, decompose_members_cons, List.cons_inj_right,
        legible_entry (h e (List.mem_cons_self ..)) (delimited_members es r)
          (delimited_members fs s),
        ih fun u hu => h u (List.mem_cons_of_mem _ hu), treeEntries, treeEntries, List.cons.injEq,
        and_assoc]

theorem legible_object {es : List (String × Content)} (h : ∀ e ∈ es, Legible e.2) :
    Legible (object es) := by
  refine legible_of_kind ?_
  rintro (fs | ws | t | n | b) r s hkind - -
  case object =>
    rw [tree, tree, Tree.object.injEq]
    cases es with
    | nil =>
      cases fs with
      | nil => simp
      | cons f fs => simp [treeEntries, Json.quoted]
    | cons e es =>
      cases fs with
      | nil => simp [treeEntries, Json.quoted]
      | cons f fs =>
        rw [decompose_object_cons, decompose_object_cons, List.cons_inj_right,
          legible_entry (h e (List.mem_cons_self ..)) (delimited_members es r)
            (delimited_members fs s),
          legible_members fun u hu => h u (List.mem_cons_of_mem _ hu), treeEntries, treeEntries,
          List.cons.injEq, and_assoc]
  all_goals cases hkind

theorem legible_array {vs : List Content} (h : ∀ v ∈ vs, Legible v) : Legible (array vs) := by
  refine legible_of_kind ?_
  rintro (fs | ws | t | n | b) r s hkind - -
  case array =>
    rw [tree, tree, Tree.array.injEq]
    cases vs with
    | nil =>
      cases ws with
      | nil => simp
      | cons w ws =>
        simp [treeItems,
          (decompose_ne_closing w _ _).symm]
    | cons v vs =>
      cases ws with
      | nil => simp [treeItems, decompose_ne_closing]
      | cons w ws =>
        rw [decompose_array_cons, decompose_array_cons, List.cons_inj_right,
          h v (List.mem_cons_self ..) (delimited_items vs r) (delimited_items ws s),
          legible_items fun u hu => h u (List.mem_cons_of_mem _ hu), treeItems, treeItems,
          List.cons.injEq, and_assoc]
  all_goals cases hkind

theorem legible_string (s : String) : Legible (string s) := by
  refine legible_of_kind ?_
  rintro (fs | ws | t | n | b) r s hkind - -
  case string =>
    rw [tree, tree, Tree.string.injEq, Text.normalize_eq_iff_decompose, decompose_string_append,
      decompose_string_append]
    exact ⟨Json.quoted_append_inj, fun h => by rw [h.1, h.2]⟩
  all_goals cases hkind

theorem legible_number (m : Number) : Legible (number m) := by
  refine legible_of_kind ?_
  rintro (fs | ws | t | n | b) r s hkind hr hs
  case number =>
    rw [tree, tree, Tree.number.injEq, decompose_number_append, decompose_number_append]
    exact ⟨Number.append_inj_of_isNumeral (Number.isNumeral_text m).2 (Number.isNumeral_text n).2
      hr hs, fun h => by rw [h.1, h.2]⟩
  all_goals cases hkind

theorem legible_bool (a : Bool) : Legible (bool a) := by
  refine legible_of_kind ?_
  rintro (fs | ws | t | n | b) r s hkind - -
  case bool =>
    rw [tree, tree, Tree.bool.injEq, decompose_bool_append, decompose_bool_append]
    cases a <;> cases b <;> simp [Json.boolText]
  all_goals cases hkind

theorem legible (c : Content) : Legible c := by
  induction c using Content.induction with
  | object es ih => exact legible_object ih
  | array vs ih => exact legible_array ih
  | string s => exact legible_string s
  | number n => exact legible_number n
  | bool b => exact legible_bool b

theorem decompose_text_eq_iff {c d : Content} :
    Text.decompose c.toJson.text = Text.decompose d.toJson.text ↔ c.tree = d.tree := by
  have hnil : Number.Delimited (Text.decompose []) := fun _ h => nomatch h
  have h := legible c (d := d) (r := []) (s := []) hnil hnil
  rwa [List.append_nil, List.append_nil, and_iff_left rfl] at h

def IsStructure : Content → Prop
  | .object _ => True
  | .array _ => True
  | _ => False

theorem plainText_of_normalizeAt {c n : Content} (hc : c.IsStructure) {depth : Nat}
    (h : normalizeAt depth c = .ok n) : n.plainText = n.toJson.text := by
  cases c with
  | object es =>
    obtain ⟨-, -, h⟩ := bind_ok_iff.mp h
    obtain ⟨out, -, h⟩ := bind_ok_iff.mp h
    rw [← return_ok_iff.mp h, plainText]
    all_goals exact fun _ h => nomatch h
  | array vs =>
    obtain ⟨-, -, h⟩ := bind_ok_iff.mp h
    obtain ⟨out, -, h⟩ := bind_ok_iff.mp h
    rw [← return_ok_iff.mp h, plainText]
    all_goals exact fun _ h => nomatch h
  | string s => exact hc.elim
  | number n => exact hc.elim
  | bool b => exact hc.elim

theorem encode_eq_iff {c d : Content} (hc : c.IsStructure) (hd : d.IsStructure) {x y : String}
    (hx : c.encode = .ok x) (hy : d.encode = .ok y) : x = y ↔ Equivalent c d := by
  obtain ⟨m, hm, hx⟩ := bind_ok_iff.mp hx
  obtain ⟨n, hn, hy⟩ := bind_ok_iff.mp hy
  rw [← return_ok_iff.mp hx, ← return_ok_iff.mp hy, String.ofList_inj,
    Text.normalizeChars_eq_iff, plainText_of_normalizeAt hc hm, plainText_of_normalizeAt hd hn,
    decompose_text_eq_iff, tree_of_normalizeAt c hm, tree_of_normalizeAt d hn, Equivalent]

end Content

theorem encodeStatement_eq_iff {k l : String} {v w : Content} {x y : String}
    (hx : encodeStatement k v = .ok x) (hy : encodeStatement l w = .ok y) :
    x = y ↔ Text.normalize k = Text.normalize l ∧ Content.Equivalent v w := by
  have h := Content.encode_eq_iff (c := .object [(k, v)]) (d := .object [(l, w)])
    trivial trivial hx hy
  simpa [Content.Equivalent, Content.normalForm, Content.normalEntries, insertEntry]
    using h

end SelectiveDisclosure
