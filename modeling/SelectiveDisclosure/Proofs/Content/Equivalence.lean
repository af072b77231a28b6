import SelectiveDisclosure.Canonical
import SelectiveDisclosure.Proofs.Except
import SelectiveDisclosure.Proofs.Text.Normalization

namespace SelectiveDisclosure

inductive Tree where
  | object (entries : List (String × Tree))
  | array (items : List Tree)
  | string (s : String)
  | number (text : List Char)
  | bool (b : Bool)

namespace Content

@[elab_as_elim]
theorem induction {P : Content → Prop}
    (object : ∀ es : List (String × Content), (∀ e ∈ es, P e.2) → P (.object es))
    (array : ∀ vs : List Content, (∀ v ∈ vs, P v) → P (.array vs))
    (string : ∀ s, P (.string s)) (number : ∀ n, P (.number n)) (bool : ∀ b, P (.bool b))
    (c : Content) : P c :=
  @Content.rec P (fun es => ∀ e ∈ es, P e.2) (fun vs => ∀ v ∈ vs, P v) (fun e => P e.2)
    object array string number bool
    (List.forall_mem_nil _) (fun _ _ he hes => List.forall_mem_cons.mpr ⟨he, hes⟩)
    (List.forall_mem_nil _) (fun _ _ hv hvs => List.forall_mem_cons.mpr ⟨hv, hvs⟩)
    (fun _ _ hv => hv) c

mutual

def tree : Content → Tree
  | .object es => .object (treeEntries es)
  | .array vs => .array (treeItems vs)
  | .string s => .string (Text.normalize s)
  | .number n => .number n.text
  | .bool b => .bool b

def treeItems : List Content → List Tree
  | [] => []
  | v :: vs => tree v :: treeItems vs

def treeEntries : List (String × Content) → List (String × Tree)
  | [] => []
  | (k, v) :: es => (Text.normalize k, tree v) :: treeEntries es

end

mutual

def normalForm : Content → Tree
  | .object es => .object (normalEntries es [])
  | .array vs => .array (normalItems vs)
  | .string s => .string (Text.normalize s)
  | .number n => .number n.text
  | .bool b => .bool b

def normalItems : List Content → List Tree
  | [] => []
  | v :: vs => normalForm v :: normalItems vs

def normalEntries : List (String × Content) → List (String × Tree) → List (String × Tree)
  | [], done => done
  | (k, v) :: es, done => normalEntries es (insertEntry (Text.normalize k) (normalForm v) done)

end

theorem normalItems_eq_map (vs : List Content) : normalItems vs = vs.map normalForm := by
  induction vs with
  | nil => rfl
  | cons v vs ih => rw [normalItems, ih, List.map_cons]

def Equivalent (c d : Content) : Prop := c.normalForm = d.normalForm

theorem treeEntries_insertEntry {k : String} (hk : Text.normalize k = k) (v : Content)
    {es : List (String × Content)} (hes : ∀ e ∈ es, Text.normalize e.1 = e.1) :
    treeEntries (insertEntry k v es) = insertEntry k v.tree (treeEntries es) := by
  induction es with
  | nil => simp only [insertEntry, treeEntries, hk]
  | cons e es ih =>
    have he := hes e (List.mem_cons_self ..)
    rw [treeEntries, he, insertEntry, insertEntry]
    dsimp only
    cases compare k e.1 with
    | lt => rw [treeEntries, treeEntries, hk, he]
    | eq => rw [treeEntries, hk]
    | gt => rw [treeEntries, he, ih fun d hd => hes d (List.mem_cons_of_mem _ hd)]

theorem treeItems_of_normalizeItems {vs ws : List Content}
    (ih : ∀ v ∈ vs, ∀ {depth c}, normalizeAt depth v = .ok c → c.tree = v.normalForm)
    {depth : Nat} (h : normalizeItems depth vs = .ok ws) : treeItems ws = normalItems vs := by
  induction vs generalizing ws with
  | nil =>
    rw [normalizeItems, return_ok_iff] at h
    rw [← h]
    rfl
  | cons v vs hvs =>
    rw [normalizeItems, bind_ok_iff] at h
    obtain ⟨c, hc, h⟩ := h
    obtain ⟨cs, hcs, h⟩ := bind_ok_iff.mp h
    rw [← return_ok_iff.mp h, treeItems, normalItems, ih v (List.mem_cons_self ..) hc,
      hvs (fun w hw => ih w (List.mem_cons_of_mem _ hw)) hcs]

theorem treeEntries_of_normalizeEntries {es done out : List (String × Content)}
    (ih : ∀ e ∈ es, ∀ {depth c}, normalizeAt depth e.2 = .ok c → c.tree = e.2.normalForm)
    (hdone : ∀ e ∈ done, Text.normalize e.1 = e.1)
    {depth : Nat} (h : normalizeEntries depth es done = .ok out) :
    treeEntries out = normalEntries es (treeEntries done) := by
  induction es generalizing done with
  | nil =>
    rw [normalizeEntries, return_ok_iff] at h
    rw [← h]
    rfl
  | cons e es hes =>
    have hkey := Text.normalize_normalize e.1
    obtain ⟨-, h⟩ := throw_ok_iff.mp h
    obtain ⟨c, hc, h⟩ := bind_ok_iff.mp h
    have hinsert : ∀ d ∈ insertEntry (Text.normalize e.1) c done, Text.normalize d.1 = d.1 := by
      intro d hd
      rcases mem_insertEntry hd with rfl | hd
      · exact hkey
      · exact hdone d hd
    rw [hes (fun d hd => ih d (List.mem_cons_of_mem _ hd)) hinsert h, normalEntries,
      treeEntries_insertEntry hkey c hdone, ih e (List.mem_cons_self ..) hc]

theorem tree_of_normalizeAt (c : Content) {depth : Nat} {d : Content}
    (h : normalizeAt depth c = .ok d) : d.tree = c.normalForm := by
  induction c using Content.induction generalizing depth d with
  | object es ih =>
    obtain ⟨-, -, h⟩ := bind_ok_iff.mp h
    obtain ⟨out, hout, h⟩ := bind_ok_iff.mp h
    rw [← return_ok_iff.mp h, tree, normalForm,
      treeEntries_of_normalizeEntries ih (List.forall_mem_nil _) hout, treeEntries]
  | array vs ih =>
    obtain ⟨-, -, h⟩ := bind_ok_iff.mp h
    obtain ⟨out, hout, h⟩ := bind_ok_iff.mp h
    rw [← return_ok_iff.mp h, tree, normalForm, treeItems_of_normalizeItems ih hout]
  | string s =>
    obtain ⟨-, -, h⟩ := bind_ok_iff.mp h
    rw [← return_ok_iff.mp h, tree, normalForm]
  | number n =>
    obtain ⟨-, -, h⟩ := bind_ok_iff.mp h
    rw [← return_ok_iff.mp h, tree, normalForm]
  | bool b =>
    obtain ⟨-, -, h⟩ := bind_ok_iff.mp h
    rw [← return_ok_iff.mp h, tree, normalForm]

end Content

end SelectiveDisclosure
