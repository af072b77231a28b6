import SelectiveDisclosure.Presentation
import SelectiveDisclosure.Proofs.Content.Acceptance
import SelectiveDisclosure.Proofs.Content.Encoding
import SelectiveDisclosure.Proofs.Multibase

namespace SelectiveDisclosure

theorem insertEntry_last {κ α : Type} [Ord κ] [Std.OrientedOrd κ] {k : κ} {a : α}
    {l : List (κ × α)} (h : ∀ e ∈ l, compare e.1 k = .lt) : insertEntry k a l = l ++ [(k, a)] := by
  induction l with
  | nil => rfl
  | cons e l ih =>
    have hgt : compare k e.1 = .gt := Std.OrientedCmp.gt_of_lt (h e (List.mem_cons_self ..))
    rw [insertEntry, hgt, ih fun d hd => h d (List.mem_cons_of_mem _ hd), List.cons_append]

namespace Content

theorem normalEntries_of_ascending {es : List (String × Content)} {done : List (String × Tree)}
    (hnormal : ∀ e ∈ es, Text.normalize e.1 = e.1) (hes : Ascending es)
    (hdone : ∀ d ∈ done, ∀ e ∈ es, compare d.1 e.1 = .lt) :
    normalEntries es done = done ++ es.map fun e => (e.1, e.2.normalForm) := by
  induction es generalizing done with
  | nil => rw [normalEntries, List.map_nil, List.append_nil]
  | cons e es ih =>
    obtain ⟨hhead, htail⟩ := List.pairwise_cons.mp hes
    have hlast : ∀ d ∈ done, compare d.1 e.1 = .lt :=
      fun d hd => hdone d hd e (List.mem_cons_self ..)
    have hnext : ∀ d ∈ done ++ [(e.1, e.2.normalForm)], ∀ f ∈ es, compare d.1 f.1 = .lt := by
      intro d hd f hf
      rcases List.mem_append.mp hd with hd | hd
      · exact hdone d hd f (List.mem_cons_of_mem _ hf)
      · rw [List.mem_singleton.mp hd]
        exact hhead f hf
    rw [normalEntries, hnormal e (List.mem_cons_self ..), insertEntry_last hlast,
      ih (fun f hf => hnormal f (List.mem_cons_of_mem _ hf)) htail hnext, List.append_assoc,
      List.map_cons, List.singleton_append]

theorem normalForm_of_ascending (ks : List String) {es : List (String × Content)}
    (hkeys : es.map Prod.fst = ks) (hbasic : ∀ k ∈ ks, Text.isBasic k.toList = true)
    (hes : ks.Pairwise fun j k => compare j k = .lt) :
    (object es).normalForm = .object (es.map fun e => (e.1, e.2.normalForm)) := by
  subst hkeys
  have hnormal : ∀ e ∈ es, Text.normalize e.1 = e.1 :=
    fun e he => Text.normalize_of_lt (Text.lt_of_isBasic (hbasic e.1 (List.mem_map_of_mem he)))
  rw [normalForm, normalEntries_of_ascending hnormal (List.pairwise_map.mp hes)
    (List.forall_mem_nil _), List.nil_append]

@[simp] theorem equivalent_string_iff {s t : String} :
    Equivalent (string s) (string t) ↔ Text.normalize s = Text.normalize t := by
  rw [Equivalent, normalForm, normalForm, Tree.string.injEq]

theorem equivalent_strings_iff {α : Type} {f : α → String} (hf : ∀ a b, f a = f b → a = b)
    (hlt : ∀ a, ∀ c ∈ (f a).toList, c.toNat < 0xC0) {xs ys : List α} :
    Equivalent (array (xs.map fun a => string (f a))) (array (ys.map fun a => string (f a))) ↔
      xs = ys := by
  have hnormal : ∀ a, (string (f a)).normalForm = .string (f a) := by
    intro a
    rw [normalForm, Text.normalize_of_lt (hlt a)]
  rw [Equivalent, normalForm, normalForm, Tree.array.injEq, normalItems_eq_map, normalItems_eq_map,
    List.map_map, List.map_map]
  refine List.map_inj_right fun a b h => hf a b ?_
  rw [Function.comp_apply, Function.comp_apply, hnormal, hnormal] at h
  exact Tree.string.inj h

end Content

theorem sortHashes_perm (hashes : List Hash) : (sortHashes hashes).Perm hashes :=
  List.mergeSort_perm hashes _

theorem pairwise_sortHashes (hashes : List Hash) :
    (sortHashes hashes).Pairwise fun a b => (compare a b).isLE = true := by
  have htrans : ∀ a b c : Hash, (compare a b).isLE = true → (compare b c).isLE = true →
      (compare a c).isLE = true := fun _ _ _ => Std.TransCmp.isLE_trans
  have htotal : ∀ a b : Hash, ((compare a b).isLE || (compare b a).isLE) = true := by
    intro a b
    have hswap : compare b a = (compare a b).swap := Std.OrientedCmp.eq_swap
    rw [hswap]
    cases compare a b <;> rfl
  exact List.pairwise_mergeSort htrans htotal hashes

theorem sortHashes_eq_iff {xs ys : List Hash} : sortHashes xs = sortHashes ys ↔ xs.Perm ys := by
  constructor
  · intro h
    exact (sortHashes_perm xs).symm.trans (h ▸ sortHashes_perm ys)
  · intro h
    refine List.Perm.eq_of_pairwise ?_ (pairwise_sortHashes xs) (pairwise_sortHashes ys)
      ((sortHashes_perm xs).trans (h.trans (sortHashes_perm ys).symm))
    intro a b _ _ hab hba
    exact Std.LawfulEqOrd.eq_of_compare (Std.OrientedCmp.isLE_antisymm hab hba)

theorem sortHashes_of_pairwise {hashes : List Hash}
    (h : hashes.Pairwise fun a b => (compare a b).isLE = true) : sortHashes hashes = hashes :=
  List.mergeSort_of_pairwise h

theorem sortHashes_sortHashes (hashes : List Hash) :
    sortHashes (sortHashes hashes) = sortHashes hashes :=
  sortHashes_eq_iff.mpr (sortHashes_perm hashes)

theorem equivalent_hashTexts_iff {xs ys : List Hash} :
    Content.Equivalent (hashTexts xs) (hashTexts ys) ↔ sortHashes xs = sortHashes ys :=
  Content.equivalent_strings_iff (fun _ _ => Octets.hex_inj) (fun _ _ => Hex.encode_lt)

def Terms.payloadNames : List String :=
  ["authorization", "contentHashes", "createdAt", "evidenceIds", "holder", "issuer", "registry",
    "validUntil"]

theorem Terms.payload_equivalent_iff {s t : Terms} :
    Content.Equivalent s.payload t.payload ↔
      Text.normalize (s.authorization.getD "") = Text.normalize (t.authorization.getD "") ∧
      sortHashes s.contentHashes = sortHashes t.contentHashes ∧
      Text.normalize (Rfc3339.secondsText s.createdAt) =
        Text.normalize (Rfc3339.secondsText t.createdAt) ∧
      s.evidenceIds = t.evidenceIds ∧ s.holder = t.holder ∧ s.issuer = t.issuer ∧
      Text.normalize (s.registry.getD "") = Text.normalize (t.registry.getD "") ∧
      Text.normalize ((s.validUntil.map Rfc3339.secondsText).getD "") =
        Text.normalize ((t.validUntil.map Rfc3339.secondsText).getD "") := by
  have hdid : ∀ d e : Did,
      Content.Equivalent (.string d.text) (.string e.text) ↔ d = e := by
    intro d e
    rw [Content.equivalent_string_iff, Text.normalize_of_lt fun _ => Did.text_lt,
      Text.normalize_of_lt fun _ => Did.text_lt]
    exact ⟨Did.text_inj, congrArg Did.text⟩
  have hevidence : Content.Equivalent (.array (s.evidenceIds.map fun i => .string i.text))
      (.array (t.evidenceIds.map fun i => .string i.text)) ↔ s.evidenceIds = t.evidenceIds :=
    Content.equivalent_strings_iff (fun _ _ => DocumentId.text_inj) fun _ _ => DocumentId.text_lt
  rw [← hdid s.holder, ← hdid s.issuer, ← hevidence, ← equivalent_hashTexts_iff,
    ← Content.equivalent_string_iff, ← Content.equivalent_string_iff,
    ← Content.equivalent_string_iff, ← Content.equivalent_string_iff, Content.Equivalent, payload,
    payload, Content.normalForm_of_ascending payloadNames rfl (by decide) (by decide),
    Content.normalForm_of_ascending payloadNames rfl (by decide) (by decide)]
  simp [Content.Equivalent]

def holderPayloadNames : List String := ["challenge", "digests", "documentHash"]

theorem holderPayload_eq_iff {c d : String} {cs ds : List Hash} {g h : Hash} {x y : String}
    (hx : holderPayload c cs g = .ok x) (hy : holderPayload d ds h = .ok y) :
    x = y ↔ Text.normalize c = Text.normalize d ∧ sortHashes cs = sortHashes ds ∧ g = h := by
  have hhash : Content.Equivalent (.string g.hex) (.string h.hex) ↔ g = h := by
    have hnormal : ∀ k : Hash, Text.normalize k.hex = k.hex :=
      fun _ => Text.normalize_of_lt fun _ => Hex.encode_lt
    rw [Content.equivalent_string_iff, hnormal, hnormal]
    exact ⟨Octets.hex_inj, congrArg Octets.hex⟩
  have hiff := Content.encode_eq_iff (c := .object _) (d := .object _) trivial trivial hx hy
  rw [hiff, ← Content.equivalent_string_iff,
    ← equivalent_hashTexts_iff, ← hhash, Content.Equivalent,
    Content.normalForm_of_ascending holderPayloadNames rfl (by decide) (by decide),
    Content.normalForm_of_ascending holderPayloadNames rfl (by decide) (by decide)]
  simp [Content.Equivalent]

theorem Content.normalKeys_of_basic (ks : List String) {es : List (String × Content)}
    (hkeys : es.map Prod.fst = ks) (hbasic : ∀ k ∈ ks, Text.isBasic k.toList = true) :
    normalKeys es = ks := by
  subst hkeys
  refine List.map_congr_left fun e he => ?_
  exact Text.normalize_of_lt (Text.lt_of_isBasic (hbasic e.1 (List.mem_map_of_mem he)))

theorem hashTexts_normalizes {depth : Nat} (hdepth : depth < Content.maxDepth) (hashes : List Hash) :
    ∃ n, Content.normalizeAt depth (hashTexts hashes) = .ok n := by
  refine Content.normalizeAt_array_ok_iff.mpr ⟨Nat.le_of_lt hdepth, fun v hv => ?_⟩
  obtain ⟨h, -, rfl⟩ := List.mem_map.mp hv
  exact Content.normalizeAt_string_ok_iff.mpr hdepth

theorem holderPayload_ok (challenge : String) (digests : List Hash) (documentHash : Hash) :
    ∃ x, holderPayload challenge digests documentHash = .ok x := by
  have hdigests := hashTexts_normalizes (by decide : 1 < Content.maxDepth) digests
  refine Content.encode_ok_iff.mpr (Content.normalizeAt_object_ok_iff.mpr ⟨by decide, ?_, ?_⟩)
  · rw [Content.normalKeys_of_basic holderPayloadNames rfl (by decide)]
    decide
  · simp only [List.forall_mem_cons, Content.normalizeAt_string_ok_iff]
    exact ⟨by decide, hdigests, by decide, List.forall_mem_nil _⟩

theorem holderPayload_determines (c d : String) (cs ds : List Hash) (g h : Hash) :
    ∃ x y, holderPayload c cs g = .ok x ∧ holderPayload d ds h = .ok y ∧
      (x = y ↔ cs.Perm ds ∧ g = h ∧ Text.normalize c = Text.normalize d) := by
  obtain ⟨x, hx⟩ := holderPayload_ok c cs g
  obtain ⟨y, hy⟩ := holderPayload_ok d ds h
  refine ⟨x, y, hx, hy, ?_⟩
  rw [holderPayload_eq_iff hx hy, sortHashes_eq_iff]
  constructor
  · rintro ⟨hchallenge, hdigests, hhash⟩
    exact ⟨hdigests, hhash, hchallenge⟩
  · rintro ⟨hdigests, hhash, hchallenge⟩
    exact ⟨hchallenge, hdigests, hhash⟩

end SelectiveDisclosure
