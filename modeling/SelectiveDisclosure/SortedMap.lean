namespace SelectiveDisclosure

variable {κ α : Type} [Ord κ]

def insertEntry (k : κ) (a : α) : List (κ × α) → List (κ × α)
  | [] => [(k, a)]
  | e :: rest => match compare k e.1 with
    | .lt => (k, a) :: e :: rest
    | .eq => (k, a) :: rest
    | .gt => e :: insertEntry k a rest

def lookupEntry (k : κ) : List (κ × α) → Option α
  | [] => none
  | e :: rest => if compare k e.1 = .eq then some e.2 else lookupEntry k rest

def Ascending (l : List (κ × α)) : Prop :=
  l.Pairwise (fun a b => compare a.1 b.1 = .lt)

theorem insertEntry_cons (k : κ) (a : α) (e : κ × α) (rest : List (κ × α)) :
    (compare k e.1 = .lt ∧ insertEntry k a (e :: rest) = (k, a) :: e :: rest) ∨
    (compare k e.1 = .eq ∧ insertEntry k a (e :: rest) = (k, a) :: rest) ∨
    (compare k e.1 = .gt ∧ insertEntry k a (e :: rest) = e :: insertEntry k a rest) := by
  rw [insertEntry]
  cases compare k e.1 with
  | lt => exact .inl ⟨rfl, rfl⟩
  | eq => exact .inr (.inl ⟨rfl, rfl⟩)
  | gt => exact .inr (.inr ⟨rfl, rfl⟩)

theorem lookupEntry_cons (k : κ) (e : κ × α) (rest : List (κ × α)) :
    lookupEntry k (e :: rest) = if compare k e.1 = .eq then some e.2 else lookupEntry k rest := rfl

theorem mem_insertEntry {k : κ} {a : α} {e : κ × α} {l : List (κ × α)}
    (h : e ∈ insertEntry k a l) : e = (k, a) ∨ e ∈ l := by
  induction l with
  | nil => exact .inl (List.mem_singleton.mp h)
  | cons d rest ih =>
    obtain ⟨-, hi⟩ | ⟨-, hi⟩ | ⟨-, hi⟩ := insertEntry_cons k a d rest
    · rw [hi] at h
      exact List.mem_cons.mp h
    · rw [hi] at h
      exact (List.mem_cons.mp h).imp id (List.mem_cons_of_mem _)
    · rw [hi] at h
      rcases List.mem_cons.mp h with h | h
      · exact .inr (h ▸ List.mem_cons_self ..)
      · exact (ih h).imp id (List.mem_cons_of_mem _)

theorem ascending_insertEntry [Std.TransOrd κ] (k : κ) (a : α) {l : List (κ × α)}
    (h : Ascending l) : Ascending (insertEntry k a l) := by
  induction l with
  | nil => exact List.pairwise_singleton ..
  | cons d rest ih =>
    obtain ⟨hd, hrest⟩ := List.pairwise_cons.mp h
    obtain ⟨hk, hi⟩ | ⟨hk, hi⟩ | ⟨hk, hi⟩ := insertEntry_cons k a d rest
    · rw [hi]
      refine List.pairwise_cons.mpr ⟨fun e he => ?_, h⟩
      rcases List.mem_cons.mp he with rfl | he
      · exact hk
      · exact Std.TransCmp.lt_trans hk (hd e he)
    · rw [hi]
      exact List.pairwise_cons.mpr ⟨fun e he => Std.TransCmp.lt_of_eq_of_lt hk (hd e he), hrest⟩
    · rw [hi]
      refine List.pairwise_cons.mpr ⟨fun e he => ?_, ih hrest⟩
      rcases mem_insertEntry he with rfl | he
      · exact Std.OrientedCmp.lt_of_gt hk
      · exact hd e he

theorem ascending_filter (p : κ × α → Bool) {l : List (κ × α)} (h : Ascending l) :
    Ascending (l.filter p) :=
  List.Pairwise.filter p h

theorem lookup_insertEntry_self [Std.TransOrd κ] (k : κ) (a : α) (l : List (κ × α)) :
    lookupEntry k (insertEntry k a l) = some a := by
  induction l with
  | nil => exact if_pos Std.ReflCmp.compare_self
  | cons d rest ih =>
    obtain ⟨-, hi⟩ | ⟨-, hi⟩ | ⟨hk, hi⟩ := insertEntry_cons k a d rest
    · rw [hi, lookupEntry_cons, if_pos Std.ReflCmp.compare_self]
    · rw [hi, lookupEntry_cons, if_pos Std.ReflCmp.compare_self]
    · rw [hi, lookupEntry_cons, hk, if_neg (by decide), ih]

theorem lookup_insertEntry_ne [Std.TransOrd κ] {k k' : κ} (a : α) (l : List (κ × α))
    (h : compare k' k ≠ .eq) : lookupEntry k' (insertEntry k a l) = lookupEntry k' l := by
  induction l with
  | nil => exact if_neg h
  | cons d rest ih =>
    obtain ⟨-, hi⟩ | ⟨hk, hi⟩ | ⟨-, hi⟩ := insertEntry_cons k a d rest
    · rw [hi, lookupEntry_cons, if_neg h]
    · have hd : compare k' d.1 ≠ .eq :=
        fun hd => h (Std.TransCmp.eq_trans hd (Std.OrientedCmp.eq_symm hk))
      rw [hi, lookupEntry_cons, lookupEntry_cons, if_neg h, if_neg hd]
    · rw [hi, lookupEntry_cons, lookupEntry_cons, ih]

structure SortedMap (κ α : Type) [Ord κ] where
  entries : List (κ × α)
  ascending : Ascending entries
deriving DecidableEq

namespace SortedMap

def empty : SortedMap κ α := ⟨[], List.Pairwise.nil⟩

instance : Inhabited (SortedMap κ α) := ⟨empty⟩

def get? (m : SortedMap κ α) (k : κ) : Option α := lookupEntry k m.entries

def contains (m : SortedMap κ α) (k : κ) : Bool := (m.get? k).isSome

def size (m : SortedMap κ α) : Nat := m.entries.length

def isEmpty (m : SortedMap κ α) : Bool := m.entries.isEmpty

def keys (m : SortedMap κ α) : List κ := m.entries.map Prod.fst

variable [Std.TransOrd κ]

def insert (m : SortedMap κ α) (k : κ) (a : α) : SortedMap κ α :=
  ⟨insertEntry k a m.entries, ascending_insertEntry k a m.ascending⟩

def erase (m : SortedMap κ α) (k : κ) : SortedMap κ α :=
  ⟨m.entries.filter (fun e => compare k e.1 != .eq), ascending_filter _ m.ascending⟩

def ofList (l : List (κ × α)) : SortedMap κ α :=
  l.foldl (fun m e => m.insert e.1 e.2) empty

@[simp] theorem get?_insert_self (m : SortedMap κ α) (k : κ) (a : α) :
    (m.insert k a).get? k = some a :=
  lookup_insertEntry_self k a m.entries

theorem get?_insert_ne (m : SortedMap κ α) {k k' : κ} (a : α) (h : compare k' k ≠ .eq) :
    (m.insert k a).get? k' = m.get? k' :=
  lookup_insertEntry_ne a m.entries h

end SortedMap

end SelectiveDisclosure
