import SelectiveDisclosure.Content
import SelectiveDisclosure.Proofs.Content.Acceptance

namespace SelectiveDisclosure

namespace Json

@[elab_as_elim]
theorem induction {P : Json → Prop} (null : P .null) (bool : ∀ b, P (.bool b))
    (number : ∀ n, P (.number n)) (string : ∀ s, P (.string s))
    (array : ∀ vs : List Json, (∀ v ∈ vs, P v) → P (.array vs))
    (object : ∀ ms : List (String × Json), (∀ m ∈ ms, P m.2) → P (.object ms)) (j : Json) : P j :=
  @Json.rec P (fun vs => ∀ v ∈ vs, P v) (fun ms => ∀ m ∈ ms, P m.2) (fun m => P m.2)
    null bool number string array object
    (List.forall_mem_nil _) (fun _ _ hv hvs => List.forall_mem_cons.mpr ⟨hv, hvs⟩)
    (List.forall_mem_nil _) (fun _ _ hm hms => List.forall_mem_cons.mpr ⟨hm, hms⟩)
    (fun _ _ hv => hv) j

theorem sortedItems_eq_map (vs : List Json) : sortedItems vs = vs.map sorted := by
  induction vs with
  | nil => rfl
  | cons v vs ih => rw [sortedItems, ih, List.map_cons]

theorem sortedMembers_eq_foldl (ms done : List (String × Json)) : sortedMembers ms done =
    (ms.map fun m => (m.1, m.2.sorted)).foldl (fun es e => insertEntry e.1 e.2 es) done := by
  induction ms generalizing done with
  | nil => rfl
  | cons m ms ih => rw [sortedMembers, ih, List.map_cons, List.foldl_cons]

theorem sortedMembers_eq (ms : List (String × Json)) :
    sortedMembers ms [] = (SortedMap.ofList (ms.map fun m => (m.1, m.2.sorted))).entries := by
  rw [sortedMembers_eq_foldl, SortedMap.ofList, SortedMap.entries_foldl_insert]
  rfl

theorem sorted_object {ms : List (String × Json)} (h : (ms.map Prod.fst).Nodup) :
    ∃ es, (Json.object ms).sorted = .object es ∧ es.Perm (ms.map fun m => (m.1, m.2.sorted)) := by
  refine ⟨sortedMembers ms [], by rw [sorted], ?_⟩
  rw [sortedMembers_eq]
  refine SortedMap.ofList_perm ?_
  rwa [List.map_map]

inductive Ordered : Json → Prop
  | null : Ordered .null
  | bool (b : Bool) : Ordered (.bool b)
  | number (n : Number) : Ordered (.number n)
  | string (s : String) : Ordered (.string s)
  | array {vs : List Json} : (∀ v ∈ vs, Ordered v) → Ordered (.array vs)
  | object {ms : List (String × Json)} : Ascending ms → (∀ m ∈ ms, Ordered m.2) →
      Ordered (.object ms)

theorem ordered_sorted (j : Json) : j.sorted.Ordered := by
  induction j using Json.induction with
  | null => exact .null
  | bool b => exact .bool b
  | number n => exact .number n
  | string s => exact .string s
  | array vs ih =>
    rw [sorted, sortedItems_eq_map]
    exact .array (List.forall_mem_map.mpr ih)
  | object ms ih =>
    rw [sorted, sortedMembers_eq]
    refine .object (SortedMap.ascending _) fun m hm => ?_
    obtain ⟨n, hn, rfl⟩ := List.mem_map.mp (SortedMap.mem_ofList hm)
    exact ih n hn

theorem Ordered.sorted_eq {j : Json} (h : j.Ordered) : j.sorted = j := by
  induction h with
  | null => rfl
  | bool b => rfl
  | number n => rfl
  | string s => rfl
  | array _ ih =>
    rw [sorted, sortedItems_eq_map, List.map_congr_left ih, List.map_id']
  | @object ms hascending _ ih =>
    have hmap : (ms.map fun m => (m.1, m.2.sorted)) = ms := by
      refine (List.map_congr_left fun m hm => ?_).trans (List.map_id ms)
      exact Prod.ext rfl (ih m hm)
    rw [sorted, sortedMembers_eq, hmap, SortedMap.ofList_entries ⟨ms, hascending⟩]

theorem itemsDepth_le_iff {vs : List Json} {room : Nat} :
    itemsDepth vs ≤ room ↔ ∀ v ∈ vs, v.depth ≤ room := by
  induction vs with
  | nil => exact iff_of_true (Nat.zero_le _) (List.forall_mem_nil _)
  | cons v vs ih => rw [itemsDepth, Nat.max_le, ih, List.forall_mem_cons]

theorem membersDepth_le_iff {ms : List (String × Json)} {room : Nat} :
    membersDepth ms ≤ room ↔ ∀ m ∈ ms, m.2.depth ≤ room := by
  induction ms with
  | nil => exact iff_of_true (Nat.zero_le _) (List.forall_mem_nil _)
  | cons m ms ih => rw [membersDepth, Nat.max_le, ih, List.forall_mem_cons]

end Json

namespace Reading

@[simp] theorem ofJson_sorted_string (s : String) : ofJson (Json.string s).sorted = .string (some s) := rfl

@[simp] theorem ofJson_sorted_number (n : Number) : ofJson (Json.number n).sorted = .number (some n) := rfl

@[simp] theorem ofJson_sorted_array (vs : List Json) :
    ofJson (Json.array vs).sorted = .array (itemsOfJson (Json.sortedItems vs)) true := rfl

theorem itemsToJson?_ofJson {vs : List Json} {room : Nat}
    (h : ∀ v ∈ vs, toJson? room (ofJson v) = some v.sorted) :
    itemsToJson? room (itemsOfJson vs) = some (Json.sortedItems vs) := by
  induction vs with
  | nil => rfl
  | cons v vs ih =>
    obtain ⟨hv, hvs⟩ := List.forall_mem_cons.mp h
    rw [itemsOfJson, itemsToJson?, hv, ih hvs, Json.sortedItems]
    rfl

theorem membersToJson?_ofJson {ms : List (String × Json)} {room : Nat}
    (h : ∀ m ∈ ms, toJson? room (ofJson m.2) = some m.2.sorted) (done : List (String × Json)) :
    membersToJson? room (membersOfJson ms) done = some (Json.sortedMembers ms done) := by
  induction ms generalizing done with
  | nil => rfl
  | cons m ms ih =>
    obtain ⟨hm, hms⟩ := List.forall_mem_cons.mp h
    rw [membersOfJson, membersToJson?, hm, Json.sortedMembers]
    exact ih hms _

theorem toJson?_ofJson {j : Json} {room : Nat} (h : j.depth ≤ room) :
    toJson? room (ofJson j) = some j.sorted := by
  induction j using Json.induction generalizing room with
  | null => cases room <;> rfl
  | bool b => cases room <;> rfl
  | number n => cases room <;> rfl
  | string s => cases room <;> rfl
  | array vs ih =>
    cases room with
    | zero => cases h
    | succ room =>
      have hvs := Json.itemsDepth_le_iff.mp (Nat.le_of_succ_le_succ h)
      rw [ofJson, toJson?, if_pos rfl, itemsToJson?_ofJson fun v hv => ih v hv (hvs v hv)]
      rfl
  | object ms ih =>
    cases room with
    | zero => cases h
    | succ room =>
      have hms := Json.membersDepth_le_iff.mp (Nat.le_of_succ_le_succ h)
      rw [ofJson, toJson?, if_pos rfl, membersToJson?_ofJson fun m hm => ih m hm (hms m hm)]
      rfl

end Reading

namespace Content

def Ordered (c : Content) : Prop := c.toJson.Ordered

-- No value of it is deeper than content may be.
def Shallow (depth : Nat) (c : Content) : Prop := ofJsonAt depth c.toJson = .ok c

theorem itemsToJson_eq_map (vs : List Content) : itemsToJson vs = vs.map toJson := by
  induction vs with
  | nil => rfl
  | cons v vs ih => rw [itemsToJson, ih, List.map_cons]

theorem entriesToJson_eq_map (es : List (String × Content)) :
    entriesToJson es = es.map fun e => (e.1, e.2.toJson) := by
  induction es with
  | nil => rfl
  | cons e es ih => rw [entriesToJson, ih, List.map_cons]

theorem toJson_of_itemsOfJson {vs : List Json} {depth : Nat} {cs : List Content}
    (ih : ∀ v ∈ vs, ∀ {depth c}, ofJsonAt depth v = .ok c → c.toJson = v)
    (h : itemsOfJson depth vs = .ok cs) : itemsToJson cs = vs := by
  induction vs generalizing cs with
  | nil =>
    rw [← return_ok_iff.mp h]
    rfl
  | cons v vs hvs =>
    obtain ⟨hv, hrest⟩ := List.forall_mem_cons.mp ih
    obtain ⟨c, hc, h⟩ := bind_ok_iff.mp h
    obtain ⟨ds, hds, h⟩ := bind_ok_iff.mp h
    rw [← return_ok_iff.mp h, itemsToJson, hv hc, hvs hrest hds]

theorem toJson_of_entriesOfJson {ms : List (String × Json)} {depth : Nat}
    {es : List (String × Content)}
    (ih : ∀ m ∈ ms, ∀ {depth c}, ofJsonAt depth m.2 = .ok c → c.toJson = m.2)
    (h : entriesOfJson depth ms = .ok es) : entriesToJson es = ms := by
  induction ms generalizing es with
  | nil =>
    rw [← return_ok_iff.mp h]
    rfl
  | cons m ms hms =>
    obtain ⟨hm, hrest⟩ := List.forall_mem_cons.mp ih
    obtain ⟨c, hc, h⟩ := bind_ok_iff.mp h
    obtain ⟨fs, hfs, h⟩ := bind_ok_iff.mp h
    rw [← return_ok_iff.mp h, entriesToJson, hm hc, hms hrest hfs]

theorem toJson_of_ofJsonAt {j : Json} {depth : Nat} {c : Content} (h : ofJsonAt depth j = .ok c) :
    c.toJson = j := by
  induction j using Json.induction generalizing depth c with
  | null =>
    obtain ⟨-, -, h⟩ := bind_ok_iff.mp h
    cases h
  | bool b =>
    obtain ⟨-, -, h⟩ := bind_ok_iff.mp h
    rw [← return_ok_iff.mp h, toJson]
  | number n =>
    obtain ⟨-, -, h⟩ := bind_ok_iff.mp h
    rw [← return_ok_iff.mp h, toJson]
  | string s =>
    obtain ⟨-, -, h⟩ := bind_ok_iff.mp h
    rw [← return_ok_iff.mp h, toJson]
  | array vs ih =>
    obtain ⟨-, -, h⟩ := bind_ok_iff.mp h
    obtain ⟨cs, hcs, h⟩ := bind_ok_iff.mp h
    rw [← return_ok_iff.mp h, toJson, toJson_of_itemsOfJson ih hcs]
  | object ms ih =>
    obtain ⟨-, -, h⟩ := bind_ok_iff.mp h
    obtain ⟨es, hes, h⟩ := bind_ok_iff.mp h
    rw [← return_ok_iff.mp h, toJson, toJson_of_entriesOfJson ih hes]

theorem shallow_of_ofJsonAt {j : Json} {depth : Nat} {c : Content} (h : ofJsonAt depth j = .ok c) :
    c.Shallow depth := by
  rw [Shallow, toJson_of_ofJsonAt h, h]

theorem ofJson_eq_of_ordered {c : Content} (hc : c.Ordered) (hshallow : c.Shallow 0) :
    ofJson c.toJson = .ok c := by
  rw [ofJson, hc.sorted_eq]
  exact hshallow

theorem ordered_of_ofJson {j : Json} {c : Content} (h : ofJson j = .ok c) :
    c.Ordered ∧ c.Shallow 0 := by
  refine ⟨?_, shallow_of_ofJsonAt h⟩
  rw [Ordered, toJson_of_ofJsonAt h]
  exact Json.ordered_sorted j

end Content

end SelectiveDisclosure
