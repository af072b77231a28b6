import SelectiveDisclosure.Proofs.Content.Depth

namespace SelectiveDisclosure

namespace Json

-- Each node with its depth, in the order in which the members stand.
mutual

def nodes (depth : Nat) : Json → List (Nat × Json)
  | array vs => (depth, array vs) :: itemNodes (depth + 1) vs
  | object ms => (depth, object ms) :: memberNodes (depth + 1) ms
  | leaf => [(depth, leaf)]

def itemNodes (depth : Nat) : List Json → List (Nat × Json)
  | [] => []
  | v :: vs => nodes depth v ++ itemNodes depth vs

def memberNodes (depth : Nat) : List (String × Json) → List (Nat × Json)
  | [] => []
  | (_, v) :: ms => nodes depth v ++ memberNodes depth ms

end

theorem nodes_null (depth : Nat) : null.nodes depth = [(depth, null)] := rfl

end Json

namespace Content

def offence (node : Nat × Json) : Option ContentError :=
  if maxDepth < node.1 then some (.tooDeep maxDepth)
  else match node.2 with
    | .null => some (.unsupportedValue .null)
    | _ => none

theorem offence_of_tooDeep {depth : Nat} (j : Json) (h : maxDepth < depth) :
    offence (depth, j) = some (.tooDeep maxDepth) :=
  if_pos h

theorem offence_null {depth : Nat} (h : depth ≤ maxDepth) :
    offence (depth, .null) = some (.unsupportedValue .null) :=
  if_neg (Nat.not_lt_of_le h)

theorem offence_of_ne_null {depth : Nat} {j : Json} (h : depth ≤ maxDepth) (hj : j ≠ .null) :
    offence (depth, j) = none := by
  rw [offence, if_neg (Nat.not_lt_of_le h)]
  cases j with
  | null => exact absurd rfl hj
  | _ => rfl

theorem offence_eq_none_iff {depth : Nat} {j : Json} :
    offence (depth, j) = none ↔ depth ≤ maxDepth ∧ j ≠ .null := by
  constructor
  · intro h
    have hdepth : depth ≤ maxDepth := by
      refine Nat.le_of_not_lt fun hdeep => ?_
      cases (offence_of_tooDeep j hdeep).symm.trans h
    refine ⟨hdepth, ?_⟩
    rintro rfl
    cases (offence_null hdepth).symm.trans h
  · rintro ⟨hdepth, hj⟩
    exact offence_of_ne_null hdepth hj

theorem refusal_checkDepth_bind {j : Json} {depth : Nat} {rest : List (Nat × Json)}
    {x : Except ContentError Content} (hj : j ≠ .null) (hx : refusal? x = rest.findSome? offence) :
    refusal? (do checkDepth depth; x) = ((depth, j) :: rest).findSome? offence := by
  rw [List.findSome?_cons]
  by_cases hdepth : depth ≤ maxDepth
  · rw [offence_of_ne_null hdepth hj, ← hx, checkDepth, if_pos hdepth]
    rfl
  · rw [offence_of_tooDeep j (Nat.lt_of_not_le hdepth), checkDepth, if_neg hdepth]
    rfl

theorem refusal_itemsOfJson {vs : List Json} {depth : Nat}
    (ih : ∀ v ∈ vs, refusal? (ofJsonAt depth v) = (v.nodes depth).findSome? offence) :
    refusal? (itemsOfJson depth vs) = (Json.itemNodes depth vs).findSome? offence := by
  induction vs with
  | nil => rfl
  | cons v vs hvs =>
    obtain ⟨hv, hrest⟩ := List.forall_mem_cons.mp ih
    rw [Json.itemNodes, List.findSome?_append, ← hv, ← hvs hrest]
    exact refusal_bind fun _ => refusal_bind_return

theorem refusal_entriesOfJson {ms : List (String × Json)} {depth : Nat}
    (ih : ∀ m ∈ ms, refusal? (ofJsonAt depth m.2) = (m.2.nodes depth).findSome? offence) :
    refusal? (entriesOfJson depth ms) = (Json.memberNodes depth ms).findSome? offence := by
  induction ms with
  | nil => rfl
  | cons m ms hms =>
    obtain ⟨hm, hrest⟩ := List.forall_mem_cons.mp ih
    rw [Json.memberNodes, List.findSome?_append, ← hm, ← hms hrest]
    exact refusal_bind fun _ => refusal_bind_return

theorem refusal_ofJsonAt (j : Json) (depth : Nat) :
    refusal? (ofJsonAt depth j) = (j.nodes depth).findSome? offence := by
  induction j using Json.induction generalizing depth with
  | null =>
    by_cases hdepth : depth ≤ maxDepth
    · rw [ofJsonAt, checkDepth, if_pos hdepth, Json.nodes_null, List.findSome?_cons, offence_null hdepth]
      rfl
    · rw [ofJsonAt, checkDepth, if_neg hdepth, Json.nodes_null, List.findSome?_cons,
        offence_of_tooDeep _ (Nat.lt_of_not_le hdepth)]
      rfl
  | bool b => exact refusal_checkDepth_bind (by simp) rfl
  | number n => exact refusal_checkDepth_bind (by simp) rfl
  | string s => exact refusal_checkDepth_bind (by simp) rfl
  | array vs ih =>
    have hitems := refusal_itemsOfJson fun v hv => ih v hv (depth + 1)
    exact refusal_checkDepth_bind (by simp) (refusal_bind_return.trans hitems)
  | object ms ih =>
    have hmembers := refusal_entriesOfJson fun m hm => ih m hm (depth + 1)
    exact refusal_checkDepth_bind (by simp) (refusal_bind_return.trans hmembers)

theorem refusal_ofJson (j : Json) : refusal? (ofJson j) = (j.sorted.nodes 0).findSome? offence :=
  refusal_ofJsonAt j.sorted 0

theorem ofJson_ok_iff {j : Json} :
    (∃ c, ofJson j = .ok c) ↔ ∀ node ∈ j.sorted.nodes 0, node.1 ≤ maxDepth ∧ node.2 ≠ .null := by
  rw [← refusal_eq_none_iff, refusal_ofJson, List.findSome?_eq_none_iff]
  exact forall₂_congr fun node _ => offence_eq_none_iff

theorem ofJson_error_iff {j : Json} {e : ContentError} :
    ofJson j = .error e ↔ (j.sorted.nodes 0).findSome? offence = some e := by
  rw [← refusal_eq_some_iff, refusal_ofJson]

theorem ofJson_toJson {c : Content} (hc : c.Ordered)
    (h : ∀ path n, At c path n → path.length ≤ maxDepth) : ofJson c.toJson = .ok c :=
  ofJson_eq_of_ordered hc (shallow_iff_at.mpr fun path n hat => by
    rw [Nat.zero_add]
    exact h path n hat)

theorem conversion_exact (j : Json) (c : Content) :
    ((∃ d, ofJson j = .ok d) ↔ ∀ node ∈ j.sorted.nodes 0, node.1 ≤ 64 ∧ node.2 ≠ .null) ∧
    (∀ d, ofJson j = .ok d → d.toJson = j.sorted) ∧
    (∀ e, ofJson j = .error e ↔ (j.sorted.nodes 0).findSome? offence = some e) ∧
    (j.sorted.Ordered ∧ (j.Ordered → j.sorted = j)) ∧
    (c.Ordered → (∀ path n, At c path n → path.length ≤ 64) → ofJson c.toJson = .ok c) :=
  ⟨ofJson_ok_iff, fun _ h => toJson_of_ofJsonAt h, fun _ => ofJson_error_iff,
    ⟨Json.ordered_sorted j, Json.Ordered.sorted_eq⟩, ofJson_toJson⟩

-- Null stands before what is too deep until the members are in order.
def crowded : Json := .object [("null", .null), ("deep", (wrapItem 64 (.bool true)).toJson)]

def flagged : Content := .object [("flag", .array [.bool true])]

theorem crowded_refused : ofJson crowded = .error (.tooDeep 64) ∧
    ofJson flagged.toJson = .ok flagged := by
  have hfirst : (crowded.sorted.nodes 0).findSome? offence = some (.tooDeep 64) := by
    decide +kernel
  have hordered : flagged.Ordered :=
    .object (List.pairwise_singleton _ _) (List.forall_mem_singleton.mpr
      (.array (List.forall_mem_singleton.mpr (.bool true))))
  have hshallow : flagged.Shallow 0 := rfl
  obtain ⟨-, -, herror, -, hback⟩ := conversion_exact crowded flagged
  refine ⟨(herror _).mpr hfirst, hback hordered fun path n hat => ?_⟩
  exact Nat.le_trans (Nat.le_add_left _ 0) (shallow_iff_at.mp hshallow path n hat)

end Content

end SelectiveDisclosure
