import SelectiveDisclosure.Proofs.Content.Encoding
import SelectiveDisclosure.Proofs.Hash
import SelectiveDisclosure.Proofs.Issuance
import SelectiveDisclosure.Proofs.Verification

namespace SelectiveDisclosure

namespace Presentation

def names (p : Presentation) : List String := p.disclosed.map DisclosedStatement.name

def statementTexts (p : Presentation) : List String :=
  p.disclosed.filterMap fun s => (encodeStatement s.name s.value).toOption

def WrittenOneWay (p : Presentation) : Prop :=
  ∀ m ∈ p.names, ∀ n ∈ p.names, Text.normalize m = Text.normalize n → m = n

theorem digests_nodup {p : Presentation} {hasher : Hasher} (h : p.proveStatements hasher = .ok ())
    (hfree : ¬hasher.Collides p.statementTexts) (hnames : (p.names.map Text.normalize).Nodup) :
    p.digests.Nodup := by
  obtain ⟨-, -, hopens⟩ := proveStatements_ok_iff.mp h
  rw [names, List.map_map] at hnames
  have hnames := List.pairwise_map.mp hnames
  refine List.pairwise_map.mpr (hnames.imp_of_mem ?_)
  intro s t hs ht hne heq
  obtain ⟨x, _, hx⟩ := hopens s hs
  obtain ⟨y, _, hy⟩ := hopens t ht
  have hmem : ∀ {u z}, u ∈ p.disclosed → encodeStatement u.name u.value = .ok z →
      z ∈ p.statementTexts := by
    intro u z hu hz
    exact List.mem_filterMap.mpr ⟨u, hu, by rw [hz]; rfl⟩
  by_cases hxy : x = y
  · have hsame := (encodeStatement_eq_iff hx.encoded hy.encoded).mp hxy
    exact hne hsame.1
  · refine hfree ⟨x, hmem hs hx.encoded, y, hmem ht hy.encoded, hxy, ?_⟩
    rw [hx.digest, hy.digest, heq]

theorem digest_eq_of_equivalent {p : Presentation} {hasher : Hasher}
    (h : p.proveStatements hasher = .ok ()) {s t : DisclosedStatement} (hs : s ∈ p.disclosed)
    (ht : t ∈ p.disclosed) (hname : Text.normalize s.name = Text.normalize t.name)
    (hvalue : Content.Equivalent s.value t.value) : s.digest = t.digest := by
  obtain ⟨-, -, hopens⟩ := proveStatements_ok_iff.mp h
  obtain ⟨x, _, hx⟩ := hopens s hs
  obtain ⟨y, _, hy⟩ := hopens t ht
  have hxy : x = y := (encodeStatement_eq_iff hx.encoded hy.encoded).mpr ⟨hname, hvalue⟩
  rw [← hx.digest, ← hy.digest, hxy]

theorem claimed_values {p : Presentation} {hasher : Hasher} (h : p.proveStatements hasher = .ok ()) :
    p.claimed.values.size = p.disclosed.length ∧
      ∀ s ∈ p.disclosed, p.claimed.values.get? s.name = some s.value := by
  obtain ⟨-, hnames, -⟩ := proveStatements_ok_iff.mp h
  have hkeys : ((p.disclosed.map fun s => (s.name, s.value)).map Prod.fst).Nodup := by
    rwa [List.map_map]
  constructor
  · rw [claimed, SortedMap.size_ofList hkeys, List.length_map]
  · intro s hs
    exact SortedMap.get?_ofList_of_nodup hkeys (List.mem_map_of_mem hs)

theorem disclosed_once_iff {p : Presentation} {hasher : Hasher}
    (h : p.proveStatements hasher = .ok ()) :
    ((p.names.map Text.normalize).Nodup ↔ p.WrittenOneWay) ∧
      (p.WrittenOneWay → p.digests.Nodup ∨ hasher.Collides p.statementTexts) ∧
      p.claimed.values.size = p.disclosed.length ∧
      (∀ s ∈ p.disclosed, p.claimed.values.get? s.name = some s.value) ∧
      ∀ s ∈ p.disclosed, ∀ t ∈ p.disclosed, Text.normalize s.name = Text.normalize t.name →
        Content.Equivalent s.value t.value → s.digest = t.digest := by
  obtain ⟨-, hnames, -⟩ := proveStatements_ok_iff.mp h
  have hiff : (p.names.map Text.normalize).Nodup ↔ p.WrittenOneWay :=
    List.nodup_map_iff_inj_on hnames
  have hdigests : p.WrittenOneWay → p.digests.Nodup ∨ hasher.Collides p.statementTexts := by
    intro hwritten
    by_cases hfree : hasher.Collides p.statementTexts
    · exact .inr hfree
    · exact .inl (digests_nodup h hfree (hiff.mpr hwritten))
  obtain ⟨hsize, hvalues⟩ := claimed_values h
  refine ⟨hiff, hdigests, hsize, hvalues, ?_⟩
  intro s hs t ht hname hvalue
  exact digest_eq_of_equivalent h hs ht hname hvalue

def accentedText : String := "\x7b\"\u00e9\":true\x7d"

theorem encodeStatement_accented :
    ∀ n ∈ ["\u00e9", "e\u0301"], encodeStatement n (.bool true) = .ok accentedText := by
  decide +kernel

def accented (names : List String) : Presentation :=
  let hashed := hashStatement HashAlgorithm.sha256.hasher accentedText "salt"
  ⟨default, names.map fun name => ⟨name, .bool true, hashed.digest, hashed.saltedHash⟩,
    nonceMapOf [hashed], "", default⟩

theorem accented_proveStatements {names : List String} (hne : names ≠ []) (hnodup : names.Nodup)
    (hencoded : ∀ n ∈ names, encodeStatement n (.bool true) = .ok accentedText) :
    (accented names).proveStatements HashAlgorithm.sha256.hasher = .ok () := by
  refine proveStatements_ok_iff.mpr ⟨by simpa [accented] using hne, ?_, ?_⟩
  · simpa [accented, Function.comp_def] using hnodup
  · intro s hs
    obtain ⟨n, hn, rfl⟩ := List.mem_map.mp hs
    refine ⟨accentedText, "salt", hencoded n hn, rfl, ?_, rfl⟩
    refine get?_nonceMapOf ?_ (List.mem_singleton_self (hashStatement _ accentedText "salt"))
    exact List.nodup_singleton _

theorem accented_disclosed_once :
    (accented ["\u00e9"]).proveStatements HashAlgorithm.sha256.hasher = .ok () ∧
      ((accented ["\u00e9"]).names.map Text.normalize).Nodup := by
  have h : (accented ["\u00e9"]).proveStatements HashAlgorithm.sha256.hasher = .ok () :=
    accented_proveStatements (List.cons_ne_nil _ _) (List.nodup_singleton _)
      fun n hn => encodeStatement_accented n (List.mem_singleton.mp hn ▸ List.mem_cons_self ..)
  refine ⟨h, (disclosed_once_iff h).1.mpr ?_⟩
  intro m hm n hn _
  rw [List.mem_singleton.mp hm, List.mem_singleton.mp hn]

theorem accented_disclosed_twice :
    ¬∀ (p : Presentation) (hasher : Hasher), p.proveStatements hasher = .ok () →
      (p.names.map Text.normalize).Nodup := by
  intro h
  have hnodup := h (accented ["\u00e9", "e\u0301"]) HashAlgorithm.sha256.hasher
    (accented_proveStatements (List.cons_ne_nil _ _) (by decide) encodeStatement_accented)
  have hname := (encodeStatement_eq_iff (encodeStatement_accented "\u00e9" (by decide))
    (encodeStatement_accented "e\u0301" (by decide))).mp rfl
  exact (List.nodup_cons.mp hnodup).1 (List.mem_singleton.mpr hname.1)

end Presentation

end SelectiveDisclosure
