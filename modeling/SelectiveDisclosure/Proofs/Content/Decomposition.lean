import SelectiveDisclosure.Proofs.Content.Depth

namespace SelectiveDisclosure

namespace Content

theorem collectParts_ok {named done : List (String × Content)} (hnamed : (named.map Prod.fst).Nodup)
    (hdone : ∀ k ∈ named.map Prod.fst, k ∉ done.map Prod.fst) :
    ∃ out, collectParts (named.map some) done = .ok out := by
  induction named generalizing done with
  | nil => exact ⟨done, rfl⟩
  | cons e named ih =>
    obtain ⟨hhead, hnamed⟩ := List.nodup_cons.mp hnamed
    obtain ⟨hnew, hdone⟩ := List.forall_mem_cons.mp hdone
    obtain ⟨out, hout⟩ := ih hnamed ((fresh_insertEntry_iff hnew).mpr ⟨hhead, hdone⟩)
    refine ⟨out, throw_ok_iff.mpr ⟨fun hsome => hnew ?_, hout⟩⟩
    obtain ⟨v, hv⟩ := Option.isSome_iff_exists.mp hsome
    exact List.mem_map.mpr ⟨_, mem_of_lookupEntry hv, rfl⟩

theorem collectParts_perm {named out : List (String × Content)}
    (h : collectParts (named.map some) [] = .ok out) : named.Perm out := by
  obtain ⟨given, hgiven, hperm⟩ := collectParts_spec h
  rwa [List.append_nil, ← (List.map_inj_right fun _ _ => Option.some.inj).mp hgiven] at hperm

theorem collectParts_ok_iff {ps : List (Option (String × Content))} :
    (∃ out, collectParts ps [] = .ok out) ↔
      ∃ named : List (String × Content), ps = named.map some ∧ (named.map Prod.fst).Nodup := by
  constructor
  · rintro ⟨out, hout⟩
    have hascending := ascending_of_collectParts List.Pairwise.nil hout
    obtain ⟨named, rfl, -⟩ := collectParts_spec hout
    refine ⟨named, rfl, ((collectParts_perm hout).map Prod.fst).nodup_iff.mpr ?_⟩
    exact nodup_of_ascending (List.pairwise_map.mpr hascending)
  · rintro ⟨named, rfl, hnames⟩
    exact collectParts_ok hnames fun _ _ => List.not_mem_nil

theorem exists_map_some {α : Type} {ps : List (Option α)} (h : none ∉ ps) :
    ∃ named : List α, ps = named.map some := by
  induction ps with
  | nil => exact ⟨[], rfl⟩
  | cons part ps ih =>
    obtain ⟨hhead, htail⟩ := List.ne_and_not_mem_of_not_mem_cons h
    obtain ⟨named, rfl⟩ := ih htail
    obtain ⟨e, rfl⟩ := Option.ne_none_iff_exists'.mp hhead.symm
    exact ⟨e :: named, rfl⟩

def Fits (e : String × Content) : Prop := ∃ n, normalizeAt 1 e.2 = .ok n

theorem encodeStatement_ok_iff {e : String × Content} :
    (∃ text, encodeStatement e.1 e.2 = .ok text) ↔ Fits e := by
  rw [encodeStatement, encode_ok_iff, normalizeAt_object_ok_iff, List.forall_mem_singleton]
  exact and_iff_right (Nat.zero_le _) |>.trans (and_iff_right (List.nodup_singleton _))

theorem makeStatements_ok_iff {named : List (String × Content)} :
    (∃ statements, makeStatements named = .ok statements) ↔ ∀ e ∈ named, Fits e := by
  induction named with
  | nil => exact iff_of_true ⟨[], rfl⟩ (List.forall_mem_nil _)
  | cons e named ih =>
    rw [List.forall_mem_cons, ← ih, ← encodeStatement_ok_iff]
    constructor
    · rintro ⟨statements, h⟩
      obtain ⟨first, hfirst, h⟩ := bind_ok_iff.mp h
      obtain ⟨others, hothers, -⟩ := bind_ok_iff.mp h
      obtain ⟨text, htext, -⟩ := bind_ok_iff.mp (mapError_ok_iff.mp hfirst)
      exact ⟨⟨text, htext⟩, others, hothers⟩
    · rintro ⟨⟨text, htext⟩, others, hothers⟩
      refine ⟨⟨e.1, e.2, text⟩ :: others, bind_ok_iff.mpr ⟨⟨e.1, e.2, text⟩, ?_, ?_⟩⟩
      · exact mapError_ok_iff.mpr (bind_ok_iff.mpr ⟨text, htext, rfl⟩)
      · exact bind_ok_iff.mpr ⟨others, hothers, rfl⟩

theorem decompose_ok_iff {es : List (String × Content)} {d : Decomposition} :
    (∃ statements, (object es).decompose d = .ok statements) ↔
      ∃ named, parts d es = named.map some ∧ named ≠ [] ∧ (named.map Prod.fst).Nodup ∧
        ∀ e ∈ named, Fits e := by
  constructor
  · rintro ⟨statements, h⟩
    obtain ⟨out, hout, h⟩ := bind_ok_iff.mp h
    obtain ⟨hne, h⟩ := throw_ok_iff.mp h
    obtain ⟨named, hparts, hnames⟩ := collectParts_ok_iff.mp ⟨out, hout⟩
    rw [hparts] at hout
    have hperm := collectParts_perm hout
    refine ⟨named, hparts, ?_, hnames, ?_⟩
    · rintro rfl
      exact hne (List.isEmpty_iff.mpr hperm.nil_eq.symm)
    · exact fun e he => makeStatements_ok_iff.mp ⟨statements, h⟩ e (hperm.mem_iff.mp he)
  · rintro ⟨named, hparts, hne, hnames, hfits⟩
    obtain ⟨out, hout⟩ := collectParts_ok_iff.mpr ⟨named, rfl, hnames⟩
    have hperm := collectParts_perm hout
    obtain ⟨statements, hstatements⟩ :=
      makeStatements_ok_iff.mpr fun e he => hfits e (hperm.mem_iff.mpr he)
    rw [← hparts] at hout
    refine ⟨statements, bind_ok_iff.mpr ⟨out, hout, throw_ok_iff.mpr ⟨?_, hstatements⟩⟩⟩
    rw [List.isEmpty_iff]
    rintro rfl
    exact hne (List.perm_nil.mp hperm)

theorem normalizeAt_of_isLeaf {c : Content} (hc : c.IsLeaf) {depth : Nat} (h : depth ≤ maxDepth) :
    ∃ n, normalizeAt depth c = .ok n := by
  cases c with
  | object es =>
    cases List.map_eq_nil_iff.mp hc
    exact normalizeAt_object_ok_iff.mpr ⟨h, List.nodup_nil, List.forall_mem_nil _⟩
  | array vs =>
    cases List.mapIdx_eq_nil_iff.mp hc
    exact normalizeAt_array_ok_iff.mpr ⟨h, List.forall_mem_nil _⟩
  | string s => exact checked_return_ok_iff.mpr h
  | number n => exact checked_return_ok_iff.mpr h
  | bool b => exact checked_return_ok_iff.mpr h

theorem normalizeAt_ne_tooDeep {c : Content} {depth limit : Nat} (h : c.Shallow depth) :
    normalizeAt depth c ≠ .error (.tooDeep limit) := by
  intro herror
  induction c using Content.induction generalizing depth with
  | object es ih =>
    obtain ⟨hdepth, hes⟩ := shallow_object_iff.mp h
    rcases normalizeEntries_error (checked_error herror hdepth) with ⟨key, hkey⟩ | ⟨e, he, herror⟩
    · cases hkey
    · exact ih e he (hes e he) herror
  | array vs ih =>
    obtain ⟨hdepth, hvs⟩ := shallow_array_iff.mp h
    obtain ⟨v, hv, herror⟩ := normalizeItems_error (checked_error herror hdepth)
    exact ih v hv (hvs v hv) herror
  | _ => cases (normalizeAt_scalar_ok (shallow_iff.mp h).1).symm.trans herror

theorem encode_ne_tooDeep {c : Content} {limit : Nat} (h : c.Shallow 0) :
    c.encode ≠ .error (.tooDeep limit) := by
  intro herror
  rcases bind_error_iff.mp herror with herror | ⟨_, -, herror⟩
  · exact normalizeAt_ne_tooDeep h herror
  · cases herror

theorem shallow_of_isLeaf {c : Content} (hc : c.IsLeaf) {depth : Nat} (h : depth ≤ maxDepth) :
    c.Shallow depth :=
  shallow_iff.mpr ⟨h, hc ▸ List.forall_mem_nil _⟩

theorem none_notMem_parts {es : List (String × Content)} (h : (object es).Shallow 0)
    (d : Decomposition) : none ∉ parts d es := by
  obtain ⟨-, hmembers⟩ := shallow_iff.mp h
  intro hnone
  cases d with
  | topLevel =>
    rw [parts_topLevel_eq] at hnone
    obtain ⟨m, -, hm⟩ := List.mem_map.mp hnone
    cases hm
  | leaf =>
    rw [parts_leaf_eq] at hnone
    obtain ⟨m, hm, hnone⟩ := List.mem_flatMap.mp hnone
    exact none_notMem_leaves_iff.mpr (hmembers m hm) hnone

theorem shallow_of_mem_parts {es : List (String × Content)} (h : (object es).Shallow 0)
    {d : Decomposition} {e : String × Content} (he : some e ∈ parts d es) : e.2.Shallow 1 := by
  cases d with
  | topLevel =>
    rw [parts_topLevel_eq] at he
    obtain ⟨m, hm, heq⟩ := List.mem_map.mp he
    exact Option.some.inj heq ▸ (shallow_iff.mp h).2 m hm
  | leaf =>
    obtain ⟨-, -, -, hleaf, -⟩ := (mem_parts_leaf_iff (none_notMem_parts h .leaf)).mp he
    exact shallow_of_isLeaf hleaf (by decide)

theorem collectParts_error {ps : List (Option (String × Content))} (hps : none ∉ ps)
    {done : List (String × Content)} {e : DecompositionError} (h : collectParts ps done = .error e) :
    ∃ name, e = .duplicateStatement name := by
  induction ps generalizing done with
  | nil => cases h
  | cons part ps ih =>
    obtain ⟨hpart, hrest⟩ := List.ne_and_not_mem_of_not_mem_cons hps
    obtain ⟨entry, rfl⟩ := Option.ne_none_iff_exists'.mp hpart.symm
    rcases throw_error_iff.mp h with ⟨-, rfl⟩ | ⟨-, h⟩
    · exact ⟨_, rfl⟩
    · exact ih hrest h

theorem makeStatements_error {named : List (String × Content)} {e : DecompositionError}
    (h : makeStatements named = .error e) :
    ∃ part ∈ named, ∃ cause, encodeStatement part.1 part.2 = .error cause ∧ e = .encoding cause := by
  induction named with
  | nil => cases h
  | cons part named ih =>
    rcases bind_error_iff.mp h with h | ⟨_, -, h⟩
    · obtain ⟨cause, hcause, rfl⟩ := mapError_error_iff.mp h
      rcases bind_error_iff.mp hcause with hcause | ⟨_, -, hcause⟩
      · exact ⟨part, List.mem_cons_self .., cause, hcause, rfl⟩
      · cases hcause
    rcases bind_error_iff.mp h with h | ⟨_, -, h⟩
    · obtain ⟨other, hother, herror⟩ := ih h
      exact ⟨other, List.mem_cons_of_mem _ hother, herror⟩
    · cases h

theorem decompose_ne_tooDeep {c : Content} {limit : Nat} (h : c.Shallow 0) (d : Decomposition) :
    c.decompose d ≠ .error (.encoding (.tooDeep limit)) := by
  intro herror
  cases c with
  | object es =>
    rcases bind_error_iff.mp herror with herror | ⟨named, hnamed, herror⟩
    · obtain ⟨name, hname⟩ := collectParts_error (none_notMem_parts h d) herror
      cases hname
    rcases throw_error_iff.mp herror with ⟨-, herror⟩ | ⟨-, herror⟩
    · cases herror
    -- a part is encoded one level below the name that it gets, which is where it was
    obtain ⟨part, hpart, cause, hcause, heq⟩ := makeStatements_error herror
    cases heq
    obtain ⟨given, hgiven, hperm⟩ := collectParts_spec hnamed
    rw [List.append_nil] at hperm
    have hmem : some part ∈ parts d es := hgiven ▸ List.mem_map_of_mem (hperm.mem_iff.mpr hpart)
    refine encode_ne_tooDeep (shallow_object_iff.mpr ⟨Nat.zero_le _, ?_⟩) hcause
    exact List.forall_mem_singleton.mpr (shallow_of_mem_parts h hmem)
  | _ => cases herror

theorem decompose_topLevel_ok_iff {c : Content} :
    (∃ statements, c.decompose .topLevel = .ok statements) ↔
      (∃ e es, c = .object (e :: es)) ∧ ∃ text, c.encode = .ok text := by
  cases c with
  | object es =>
    have hnamed : ∀ named, parts .topLevel es = named.map some ↔ named = (object es).members := by
      intro named
      rw [parts_topLevel_eq, List.map_inj_right fun _ _ => Option.some.inj, eq_comm]
    have hkeys : (object es).members.map Prod.fst = normalKeys es := by
      rw [members, List.map_map]
      rfl
    have hfits : (∀ e ∈ (object es).members, Fits e) ↔ ∀ e ∈ es, ∃ n, normalizeAt 1 e.2 = .ok n :=
      List.forall_mem_map
    have hsome : (object es).members ≠ [] ↔ ∃ e fs, object es = object (e :: fs) := by
      rw [members, ne_eq, List.map_eq_nil_iff, ← ne_eq, List.ne_nil_iff_exists_cons]
      simp only [object.injEq]
    rw [decompose_ok_iff, encode_ok_iff, normalizeAt_object_ok_iff, ← hsome, ← hkeys, ← hfits]
    simp only [hnamed, exists_eq_left, Nat.zero_le, true_and]
  | _ =>
    refine iff_of_false ?_ ?_
    · rintro ⟨_, h⟩
      cases h
    · rintro ⟨⟨_, _, h⟩, -⟩
      cases h

theorem accepted_alike (c : Content) :
    ((∃ text, c.encode = .ok text) ↔
      (∀ path n, At c path n → path.length ≤ 64) ∧ c.KeysApart) ∧
    ((∃ statements, c.decompose .topLevel = .ok statements) ↔
      (∃ e es, c = .object (e :: es)) ∧ ∃ text, c.encode = .ok text) ∧
    (∀ es statements, c = .object es → c.decompose .topLevel = .ok statements →
      (statements.map fun s => (s.name, s.value)).Perm (es.map fun e => (Text.normalize e.1, e.2)) ∧
        (statements.map Statement.name).Pairwise fun m n => compare m n = .lt) ∧
    ∀ j, ofJson j = .ok c → ∀ limit, c.encode ≠ .error (.tooDeep limit) ∧
      ∀ d, c.decompose d ≠ .error (.encoding (.tooDeep limit)) := by
  refine ⟨?_, decompose_topLevel_ok_iff, ?_, ?_⟩
  · rw [encode_ok_iff, normalizeAt_ok_iff, shallow_iff_at]
    simp only [Nat.zero_add, maxDepth]
  · rintro es statements rfl h
    refine ⟨?_, (decomposed_of_decompose h).ascending⟩
    obtain ⟨fs, named, hes, hparts, hperm⟩ := decompose_spec h
    cases hes
    rw [parts_topLevel_eq, List.map_inj_right fun _ _ => Option.some.inj] at hparts
    exact (hparts ▸ hperm).symm
  · intro j hj limit
    obtain ⟨-, hshallow⟩ := ordered_of_ofJson hj
    exact ⟨encode_ne_tooDeep hshallow, decompose_ne_tooDeep hshallow⟩

def stacked : Content := .object [("deep", wrapItem 63 (.bool true))]

theorem stacked_accepted : ∃ c, ofJson stacked.toJson = .ok c ∧
    (∃ text, c.encode = .ok text) ∧ (∃ statements, c.decompose .topLevel = .ok statements) ∧
    ∀ d limit, c.decompose d ≠ .error (.encoding (.tooDeep limit)) := by
  have hrun : yields (ofJson stacked.toJson) (fun c =>
      yields (c.decompose .topLevel) fun _ => true) = true := by
    decide +kernel
  obtain ⟨c, hc, hrun⟩ := yields_iff.mp hrun
  obtain ⟨statements, hstatements, -⟩ := yields_iff.mp hrun
  have h := accepted_alike c
  exact ⟨c, hc, (h.2.1.mp ⟨statements, hstatements⟩).2, ⟨statements, hstatements⟩,
    fun d limit => (h.2.2.2 _ hc limit).2 d⟩

-- One level more is one too many.
example : yields (ofJson (object [("deep", wrapItem 64 (.bool true))]).toJson) (fun _ => true) =
    false := by
  decide +kernel

end Content

end SelectiveDisclosure
