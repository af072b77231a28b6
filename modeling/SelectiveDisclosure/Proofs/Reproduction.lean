import SelectiveDisclosure.Proofs.Issuance

namespace SelectiveDisclosure

section

variable {hasher : Hasher} {nonces : NonceMap} {source : NonceSource} {texts : List String}

theorem exists_selected {α β : Type} {f : α → β} {xs : List α} {positions : List Nat} {ys : List β}
    (h : positions.map ((xs.map f)[·]?) = ys.map some) :
    ∃ selected : List α, selected.map some = positions.map (xs[·]?) ∧ selected.map f = ys := by
  induction positions generalizing ys with
  | nil =>
    rw [List.map_nil] at h
    exact ⟨[], rfl, (List.map_eq_nil_iff.mp h.symm).symm⟩
  | cons i positions ih =>
    cases ys with
    | nil => cases h
    | cons y ys =>
      obtain ⟨hhead, htail⟩ := List.cons.inj h
      obtain ⟨x, hx, rfl⟩ := Option.map_eq_some_iff.mp (List.getElem?_map.symm.trans hhead)
      obtain ⟨selected, hselected, rfl⟩ := ih htail
      refine ⟨x :: selected, ?_, rfl⟩
      rw [List.map_cons, List.map_cons, hselected, hx]

-- The first run may have drawn a nonce for every position; its map finds them by digest, and tells them apart
-- because no digest occurs twice.
theorem hashes_reproduced (hdistinct : (texts.map fun t => hasher t none).Nodup)
    {positions : List Nat} {chosen : List String}
    (hchosen : positions.map (texts[·]?) = chosen.map some) (later : NonceSource) :
    (hashStatements hasher (nonceMapOf (hashStatements hasher nonces source texts)) later chosen).map
        some =
      positions.map ((hashStatements hasher nonces source texts)[·]?) := by
  have hnodup : ((hashStatements hasher nonces source texts).map HashedStatement.digest).Nodup :=
    map_digest_hashStatements hasher nonces source texts ▸ hdistinct
  rw [← map_statement_hashStatements hasher nonces source texts] at hchosen
  obtain ⟨selected, hselected, rfl⟩ := exists_selected hchosen
  rw [← hselected, hashStatements, hashStatementsFrom_of_recorded]
  intro x hx
  have hmem : some x ∈ positions.map ((hashStatements hasher nonces source texts)[·]?) :=
    hselected ▸ List.mem_map_of_mem hx
  obtain ⟨i, -, hi⟩ := List.mem_map.mp hmem
  have hx := List.mem_of_getElem? hi
  exact ⟨(hashed_of_mem_hashStatementsFrom hx).1, get?_nonceMapOf hnodup hx⟩

end

def twoTexts : List String := ["name: Alice", "country: PK"]

def keptNonce : NonceMap :=
  nonceMapOf [hashStatement HashAlgorithm.sha256.hasher "country: PK" "kept"]

theorem two_hashes_reproduced :
    (twoTexts.map fun t => HashAlgorithm.sha256.hasher t none).Nodup ∧
    [1, 0, 1].map (twoTexts[·]?) = ["country: PK", "name: Alice", "country: PK"].map some ∧
    (hashStatements HashAlgorithm.sha256.hasher
        (nonceMapOf (hashStatements HashAlgorithm.sha256.hasher keptNonce (fun drawn _ => uuidText drawn)
          twoTexts))
        (fun _ _ => "") ["country: PK", "name: Alice", "country: PK"]).map some =
      [1, 0, 1].map ((hashStatements HashAlgorithm.sha256.hasher keptNonce
        (fun drawn _ => uuidText drawn) twoTexts)[·]?) := by
  have hdistinct : (twoTexts.map fun t => HashAlgorithm.sha256.hasher t none).Nodup := by
    decide +kernel
  exact ⟨hdistinct, rfl, hashes_reproduced hdistinct rfl _⟩

namespace Document

variable {d : Document} {p : Protocol}

structure Reproduces (d : Document) (p : Protocol) (c : Statement × HashedStatement) : Prop where
  statement : c.2.statement = c.1.encoded
  digest : c.2.digest = p.hasher c.1.encoded none
  nonce : d.nonces.get? c.2.digest = some c.2.nonce
  salted : c.2.saltedHash = saltedHash p.hasher c.2.digest c.2.nonce

theorem committedStatements_ok_iff {source : NonceSource} {cs : List (Statement × HashedStatement)} :
    d.committedStatements p source = .ok cs ↔
      d.content.decompose p.decomposition = .ok (cs.map Prod.fst) ∧ ∀ c ∈ cs, d.Reproduces p c := by
  constructor
  · intro h
    have hcommitted := committed_of_committedStatements h
    refine ⟨decompose_of_committedStatements h, fun c hc => ?_⟩
    have hcommits := hcommitted.commits c hc
    exact ⟨hcommits.statement, hcommits.digest_eq.symm, hcommitted.recorded c hc,
      hcommits.salted_eq.symm⟩
  · rintro ⟨hdecomposed, hall⟩
    have htexts : (cs.map Prod.snd).map HashedStatement.statement =
        (cs.map Prod.fst).map Statement.encoded := by
      rw [List.map_map, List.map_map]
      exact List.map_congr_left fun c hc => (hall c hc).statement
    have hzip : cs = (cs.map Prod.fst).zip (cs.map Prod.snd) := List.zip_of_prod rfl rfl
    rw [committedStatements_of_recorded hdecomposed htexts, ← hzip]
    intro x hx
    obtain ⟨c, hc, rfl⟩ := List.mem_map.mp hx
    have hc := hall c hc
    refine ⟨?_, hc.nonce⟩
    have hdigest : c.2.digest = p.hasher c.2.statement none := hc.statement ▸ hc.digest
    rw [hashStatement, HashedStatement.mk.injEq]
    exact ⟨rfl, hdigest, rfl, hdigest ▸ hc.salted⟩

structure FirstUnrecorded (d : Document) (p : Protocol) (statements : List Statement)
    (s : Statement) : Prop where
  mem : s ∈ statements
  unrecorded : d.nonces.get? (p.hasher s.encoded none) = none
  first : ∀ t ∈ statements, d.nonces.get? (p.hasher t.encoded none) = none →
    t = s ∨ compare s.name t.name = .lt

theorem FirstUnrecorded.unique {statements : List Statement} {s t : Statement}
    (hs : d.FirstUnrecorded p statements s) (ht : d.FirstUnrecorded p statements t) : s = t := by
  rcases hs.first t ht.mem ht.unrecorded with h | hst
  · exact h.symm
  · rcases ht.first s hs.mem hs.unrecorded with h | hts
    · exact h
    · cases (Std.OrientedCmp.gt_of_lt hst).symm.trans hts

theorem firstUnrecorded_of_find? {statements : List Statement} {s : Statement}
    (hascending : (statements.map Statement.name).Pairwise fun m n => compare m n = .lt)
    (h : (statements.find? fun t => !d.nonces.contains (p.hasher t.encoded none)) = some s) :
    d.FirstUnrecorded p statements s := by
  obtain ⟨hs, front, back, rfl, hfront⟩ := List.find?_eq_some_iff_append.mp h
  refine ⟨List.mem_append_right _ (List.mem_cons_self ..), SortedMap.not_contains_iff.mp hs, ?_⟩
  intro t ht hnone
  rw [List.pairwise_map, List.pairwise_append, List.pairwise_cons] at hascending
  rcases List.mem_append.mp ht with ht | ht
  · have hrecorded := hfront t ht
    rw [SortedMap.not_contains_iff.mpr hnone] at hrecorded
    cases hrecorded
  · exact (List.mem_cons.mp ht).imp_right (hascending.2.1.1 t)

-- A digest does not depend on the nonce, so the search among the hashed statements stops where a search
-- among the statements themselves does.
theorem committedStatements_of_find? {statements : List Statement} {s : Statement}
    (hd : d.content.decompose p.decomposition = .ok statements)
    (h : (statements.find? fun t => !d.nonces.contains (p.hasher t.encoded none)) = some s)
    (source : NonceSource) :
    d.committedStatements p source = .error (.missingNonce (p.hasher s.encoded none)) := by
  have hdigests := map_digest_hashStatements p.hasher d.nonces source
    (statements.map Statement.encoded)
  have hfound : ((hashStatements p.hasher d.nonces source (statements.map Statement.encoded)).find?
      fun x => !d.nonces.contains x.digest).map HashedStatement.digest =
      some (p.hasher s.encoded none) := by
    have hfind := congrArg (List.find? fun digest => !d.nonces.contains digest) hdigests
    rw [List.map_map, List.find?_map, List.find?_map] at hfind
    exact hfind.trans (congrArg (Option.map _) h)
  obtain ⟨x, hx, hdigest⟩ := Option.map_eq_some_iff.mp hfound
  rw [committedStatements, hd, ← hdigest]
  refine bind_error_iff.mpr (.inr ⟨statements, rfl, ?_⟩)
  dsimp only
  rw [hx]
  rfl

theorem committedStatements_of_find?_none {statements : List Statement}
    (hd : d.content.decompose p.decomposition = .ok statements)
    (h : (statements.find? fun t => !d.nonces.contains (p.hasher t.encoded none)) = none)
    (source : NonceSource) : ∃ cs, d.committedStatements p source = .ok cs := by
  refine ⟨_, committedStatements_of_recorded hd
    (map_statement_hashStatements p.hasher d.nonces source _) fun x hx => ?_⟩
  refine recorded_of_find?_none (List.find?_eq_none.mpr fun y hy => ?_) hx
  have hdigest := List.mem_map_of_mem (f := HashedStatement.digest) hy
  rw [map_digest_hashStatements, List.map_map] at hdigest
  obtain ⟨s, hs, hdigest⟩ := List.mem_map.mp hdigest
  exact hdigest ▸ List.find?_eq_none.mp h s hs

theorem committedStatements_isOk_iff {source : NonceSource} :
    (∃ cs, d.committedStatements p source = .ok cs) ↔
      ∃ statements, d.content.decompose p.decomposition = .ok statements ∧
        ∀ s ∈ statements, ∃ nonce, d.nonces.get? (p.hasher s.encoded none) = some nonce := by
  constructor
  · rintro ⟨cs, h⟩
    obtain ⟨hdecomposed, hall⟩ := committedStatements_ok_iff.mp h
    refine ⟨_, hdecomposed, fun s hs => ?_⟩
    obtain ⟨c, hc, rfl⟩ := List.mem_map.mp hs
    exact ⟨c.2.nonce, (hall c hc).digest ▸ (hall c hc).nonce⟩
  · rintro ⟨statements, hdecomposed, hall⟩
    refine committedStatements_of_find?_none hdecomposed (List.find?_eq_none.mpr ?_) source
    intro s hs hmissing
    obtain ⟨nonce, hnonce⟩ := hall s hs
    cases hnonce.symm.trans (SortedMap.not_contains_iff.mp hmissing)

theorem committedStatements_error_iff {source : NonceSource} {e : IntegrityError} :
    d.committedStatements p source = .error e ↔
      (∃ cause, d.content.decompose p.decomposition = .error cause ∧ e = .invalidContent cause) ∨
      ∃ statements s, d.content.decompose p.decomposition = .ok statements ∧
        d.FirstUnrecorded p statements s ∧ e = .missingNonce (p.hasher s.encoded none) := by
  cases hd : d.content.decompose p.decomposition with
  | error cause =>
    have hrefused : d.committedStatements p source = .error (.invalidContent cause) := by
      rw [committedStatements, hd]
      rfl
    rw [hrefused]
    constructor
    · rintro ⟨⟩
      exact .inl ⟨cause, rfl, rfl⟩
    · rintro (⟨_, ⟨⟩, rfl⟩ | ⟨_, _, ⟨⟩, -⟩)
      rfl
  | ok statements =>
    cases hfind : statements.find? fun t => !d.nonces.contains (p.hasher t.encoded none) with
    | none =>
      obtain ⟨cs, hcs⟩ := committedStatements_of_find?_none hd hfind source
      rw [hcs]
      constructor
      · intro h
        cases h
      · rintro (⟨_, ⟨⟩, -⟩ | ⟨_, s, ⟨⟩, hs, -⟩)
        exact absurd (SortedMap.not_contains_iff.mpr hs.unrecorded)
          (List.find?_eq_none.mp hfind s hs.mem)
    | some s =>
      have hs := firstUnrecorded_of_find? (Content.decomposed_of_decompose hd).ascending hfind
      rw [committedStatements_of_find? hd hfind source]
      constructor
      · rintro ⟨⟩
        exact .inr ⟨statements, s, rfl, hs, rfl⟩
      · rintro (⟨_, ⟨⟩, -⟩ | ⟨_, t, ⟨⟩, ht, rfl⟩)
        rw [hs.unique ht]

theorem committedStatements_source (d : Document) (p : Protocol) (source later : NonceSource) :
    d.committedStatements p later = d.committedStatements p source := by
  cases h : d.committedStatements p source with
  | ok cs => exact committedStatements_of_source h later
  | error e => exact committedStatements_error_iff.mpr (committedStatements_error_iff.mp h)

theorem checkIntegrity_source (d : Document) (p : Protocol) (source later : NonceSource) :
    d.checkIntegrity p later = d.checkIntegrity p source := by
  rw [checkIntegrity, checkIntegrity, committedStatements_source d p source later]

theorem reproduced_from_recorded (d : Document) (p : Protocol) (source : NonceSource) :
    ((∃ cs, d.committedStatements p source = .ok cs) ↔
      ∃ statements, d.content.decompose p.decomposition = .ok statements ∧
        ∀ s ∈ statements, ∃ nonce, d.nonces.get? (p.hasher s.encoded none) = some nonce) ∧
    (∀ cs, d.committedStatements p source = .ok cs ↔
      d.content.decompose p.decomposition = .ok (cs.map Prod.fst) ∧ ∀ c ∈ cs, d.Reproduces p c) ∧
    (∀ statements, d.content.decompose p.decomposition = .ok statements →
      (statements.map Statement.name).Pairwise fun m n => compare m n = .lt) ∧
    (∀ e, d.committedStatements p source = .error e ↔
      (∃ cause, d.content.decompose p.decomposition = .error cause ∧ e = .invalidContent cause) ∨
      ∃ statements s, d.content.decompose p.decomposition = .ok statements ∧
        d.FirstUnrecorded p statements s ∧ e = .missingNonce (p.hasher s.encoded none)) ∧
    ∀ later, d.committedStatements p later = d.committedStatements p source ∧
      d.checkIntegrity p later = d.checkIntegrity p source := by
  refine ⟨committedStatements_isOk_iff, fun _ => committedStatements_ok_iff, ?_,
    fun _ => committedStatements_error_iff, ?_⟩
  · intro statements hstatements
    exact (Content.decomposed_of_decompose hstatements).ascending
  · intro later
    exact ⟨committedStatements_source d p source later, checkIntegrity_source d p source later⟩

end Document

end SelectiveDisclosure
