import SelectiveDisclosure.Proofs.Issuance
import SelectiveDisclosure.Proofs.Payload

namespace SelectiveDisclosure

@[simp] theorem mem_requestedNames {names : List String} {n : String} :
    n ∈ requestedNames names ↔ n ∈ names.map Text.normalize := by
  rw [requestedNames, SortedMap.mem_keys_ofList, List.map_map]
  rfl

theorem ascending_requestedNames (names : List String) :
    (requestedNames names).Pairwise fun m n => compare m n = .lt :=
  List.pairwise_map.mpr (SortedMap.ofList _).ascending

theorem requestedNames_congr {names others : List String}
    (h : ∀ n, n ∈ names.map Text.normalize ↔ n ∈ others.map Text.normalize) :
    requestedNames names = requestedNames others := by
  have hkeys : ∀ (m : SortedMap String Unit) (e : String × Unit), e ∈ m.entries ↔ e.1 ∈ m.keys := by
    intro m e
    refine ⟨List.mem_map_of_mem, fun hkey => ?_⟩
    obtain ⟨e', he', heq⟩ := List.mem_map.mp hkey
    exact Prod.ext heq rfl ▸ he'
  refine congrArg (List.map Prod.fst) (eq_of_mem_iff_of_ascending (SortedMap.ofList _).ascending
    (SortedMap.ofList _).ascending fun e => ?_)
  rw [hkeys, hkeys]
  exact mem_requestedNames.trans ((h e.1).trans mem_requestedNames.symm)

theorem requestedNames_isEmpty {names : List String} :
    (requestedNames names).isEmpty = true ↔ names = [] := by
  rw [List.isEmpty_iff, List.eq_nil_iff_forall_not_mem]
  simp only [mem_requestedNames]
  rw [← List.eq_nil_iff_forall_not_mem, List.map_eq_nil_iff]

def requestedStatements (names : List String) (cs : List (Statement × HashedStatement)) :
    List (Statement × HashedStatement) :=
  cs.filter fun c => c.1.name ∈ names.map Text.normalize

theorem filter_requestedNames (names : List String) (cs : List (Statement × HashedStatement)) :
    (cs.filter fun c => (requestedNames names).contains c.1.name) = requestedStatements names cs := by
  refine List.filter_congr fun c _ => Bool.eq_iff_iff.mpr ?_
  simp

def requestedDigests (names : List String) (cs : List (Statement × HashedStatement)) : List Hash :=
  (requestedStatements names cs).map fun c => c.2.digest

def Known (names : List String) (cs : List (Statement × HashedStatement)) : Prop :=
  ∀ n ∈ names, ∃ c ∈ cs, c.1.name = Text.normalize n

structure LeastUnknown (names : List String) (cs : List (Statement × HashedStatement)) (n : String) :
    Prop where
  requested : n ∈ names.map Text.normalize
  unknown : ∀ c ∈ cs, c.1.name ≠ n
  least : ∀ m ∈ names.map Text.normalize, (∀ c ∈ cs, c.1.name ≠ m) → m = n ∨ compare n m = .lt

section

variable {names : List String} {cs : List (Statement × HashedStatement)}

theorem unknown_iff {n : String} :
    (!cs.any fun c => c.1.name = n) = true ↔ ∀ c ∈ cs, c.1.name ≠ n := by
  simp

theorem find?_unknown_eq_none_iff :
    ((requestedNames names).find? fun n => !cs.any fun c => c.1.name = n) = none ↔
      Known names cs := by
  simp only [List.find?_eq_none, unknown_iff, mem_requestedNames, List.forall_mem_map]
  simp only [not_forall, not_not, exists_prop, Known]

theorem find?_unknown_eq_some_iff {n : String} :
    ((requestedNames names).find? fun n => !cs.any fun c => c.1.name = n) = some n ↔
      LeastUnknown names cs n := by
  rw [find?_of_ascending_iff (ascending_requestedNames names)]
  simp only [unknown_iff, mem_requestedNames]
  constructor
  · rintro ⟨hn, hunknown, hleast⟩
    exact ⟨hn, hunknown, hleast⟩
  · intro h
    exact ⟨h.requested, h.unknown, h.least⟩

theorem known_or_leastUnknown (names : List String) (cs : List (Statement × HashedStatement)) :
    Known names cs ∨ ∃ n, LeastUnknown names cs n := by
  rw [← find?_unknown_eq_none_iff]
  simp only [← find?_unknown_eq_some_iff]
  exact Option.eq_none_or_eq_some _

end

def Document.showing (d : Document) (names : List String) (challenge : String)
    (cs : List (Statement × HashedStatement)) (signature : DidSignature) : Presentation :=
  ⟨d.header, (requestedStatements names cs).map disclose,
    d.nonces.restrictedTo (requestedDigests names cs), challenge, signature⟩

theorem digests_showing (d : Document) (names : List String) (challenge : String)
    (cs : List (Statement × HashedStatement)) (signature : DidSignature) :
    (d.showing names challenge cs signature).digests = requestedDigests names cs :=
  List.map_map

structure Answerable (d : Document) (p : Protocol) (names : List String) (signer : Signer)
    (challenge : String) (cs : List (Statement × HashedStatement)) (bytes : List UInt8) : Prop where
  holder : signer.keyUri.did = d.header.terms.holder
  requested : names ≠ []
  known : Known names cs
  signed : ∃ payload,
    holderPayload challenge (requestedDigests names cs) d.header.documentHash = .ok payload ∧
      signer.signWithin p.signingTimeout.toNat (utf8 payload) = .ok bytes

inductive Refused (d : Document) (p : Protocol) (names : List String) (signer : Signer)
    (challenge : String) (source : NonceSource) : PresentationError → Prop
  | holder : signer.keyUri.did ≠ d.header.terms.holder →
      Refused d p names signer challenge source (.holderMismatch signer.keyUri.did)
  | nothing : signer.keyUri.did = d.header.terms.holder → names = [] →
      Refused d p names signer challenge source .nothingRequested
  | document {cause : IntegrityError} : signer.keyUri.did = d.header.terms.holder → names ≠ [] →
      d.committedStatements p source = .error cause →
      Refused d p names signer challenge source (.invalidDocument cause)
  | unknown {cs : List (Statement × HashedStatement)} {n : String} :
      signer.keyUri.did = d.header.terms.holder → names ≠ [] →
      d.committedStatements p source = .ok cs → LeastUnknown names cs n →
      Refused d p names signer challenge source (.unknownName n)
  | signing {cs : List (Statement × HashedStatement)} {payload : String} {cause : SigningError} :
      signer.keyUri.did = d.header.terms.holder → names ≠ [] →
      d.committedStatements p source = .ok cs → Known names cs →
      holderPayload challenge (requestedDigests names cs) d.header.documentHash = .ok payload →
      signer.signWithin p.signingTimeout.toNat (utf8 payload) = .error cause →
      Refused d p names signer challenge source (.signing cause)

theorem answerable_or_refused (d : Document) (p : Protocol) (names : List String) (signer : Signer)
    (challenge : String) (source : NonceSource) :
    (∃ cs bytes, d.committedStatements p source = .ok cs ∧
      Answerable d p names signer challenge cs bytes) ∨
    ∃ e, Refused d p names signer challenge source e := by
  by_cases hholder : signer.keyUri.did = d.header.terms.holder
  swap
  · exact .inr ⟨_, .holder hholder⟩
  by_cases hnames : names = []
  · exact .inr ⟨_, .nothing hholder hnames⟩
  cases hcs : d.committedStatements p source with
  | error cause => exact .inr ⟨_, .document hholder hnames hcs⟩
  | ok cs =>
    rcases known_or_leastUnknown names cs with hknown | ⟨n, hn⟩
    swap
    · exact .inr ⟨_, .unknown hholder hnames hcs hn⟩
    -- what the holder signs always has a text, so no request fails for its encoding
    obtain ⟨payload, hpayload⟩ :=
      holderPayload_ok challenge (requestedDigests names cs) d.header.documentHash
    cases hsigned : signer.signWithin p.signingTimeout.toNat (utf8 payload) with
    | error cause => exact .inr ⟨_, .signing hholder hnames hcs hknown hpayload hsigned⟩
    | ok bytes =>
      exact .inl ⟨cs, bytes, rfl, hholder, hnames, hknown, payload, hpayload, hsigned⟩

section

variable {d : Document} {p : Protocol} {names : List String} {signer : Signer} {challenge : String}
  {source : NonceSource} {cs : List (Statement × HashedStatement)}

theorem present_of_unknown (hholder : signer.keyUri.did = d.header.terms.holder)
    (hnames : names ≠ []) (hcs : d.committedStatements p source = .ok cs) {n : String}
    (hn : LeastUnknown names cs n) :
    d.present p names signer challenge source = .error (.unknownName n) := by
  rw [Document.present, if_neg (not_not.mpr hholder)]
  simp only [if_neg (mt requestedNames_isEmpty.mp hnames), hcs, mapError_ok_bind,
    find?_unknown_eq_some_iff.mpr hn]
  rfl

theorem present_of_known (hholder : signer.keyUri.did = d.header.terms.holder)
    (hnames : names ≠ []) (hcs : d.committedStatements p source = .ok cs) (hknown : Known names cs)
    {payload : String}
    (hpayload : holderPayload challenge (requestedDigests names cs) d.header.documentHash =
      .ok payload) :
    d.present p names signer challenge source =
      (signer.signWithin p.signingTimeout.toNat (utf8 payload)).mapError .signing >>= fun bytes =>
        return d.showing names challenge cs ⟨signer.keyUri, bytes⟩ := by
  have hdigests : ((requestedStatements names cs).map disclose).map DisclosedStatement.digest =
      requestedDigests names cs := List.map_map
  rw [Document.present, if_neg (not_not.mpr hholder)]
  simp only [if_neg (mt requestedNames_isEmpty.mp hnames), hcs, mapError_ok_bind,
    find?_unknown_eq_none_iff.mpr hknown, filter_requestedNames, hdigests, hpayload]
  rfl

theorem present_of_answerable {bytes : List UInt8} (hcs : d.committedStatements p source = .ok cs)
    (h : Answerable d p names signer challenge cs bytes) :
    d.present p names signer challenge source =
      .ok (d.showing names challenge cs ⟨signer.keyUri, bytes⟩) := by
  obtain ⟨payload, hpayload, hsigned⟩ := h.signed
  rw [present_of_known h.holder h.requested hcs h.known hpayload, hsigned]
  rfl

theorem present_of_refused {e : PresentationError}
    (h : Refused d p names signer challenge source e) :
    d.present p names signer challenge source = .error e := by
  cases h with
  | holder hholder =>
    rw [Document.present, if_pos hholder]
    rfl
  | nothing hholder hnames =>
    rw [Document.present, if_neg (not_not.mpr hholder), hnames]
    rfl
  | document hholder hnames hcause =>
    rw [Document.present, if_neg (not_not.mpr hholder)]
    simp only [if_neg (mt requestedNames_isEmpty.mp hnames), hcause]
    rfl
  | unknown hholder hnames hcs hn => exact present_of_unknown hholder hnames hcs hn
  | signing hholder hnames hcs hknown hpayload hcause =>
    rw [present_of_known hholder hnames hcs hknown hpayload, hcause]
    rfl

theorem present_ok_iff {shown : Presentation} :
    d.present p names signer challenge source = .ok shown ↔
      ∃ cs bytes, d.committedStatements p source = .ok cs ∧
        Answerable d p names signer challenge cs bytes ∧
        shown = d.showing names challenge cs ⟨signer.keyUri, bytes⟩ := by
  constructor
  · intro h
    obtain ⟨cs, bytes, hcs, hanswer⟩ | ⟨e, hrefused⟩ := answerable_or_refused d p names
      signer challenge source
    · rw [present_of_answerable hcs hanswer] at h
      exact ⟨cs, bytes, hcs, hanswer, (Except.ok.inj h).symm⟩
    · cases (present_of_refused hrefused).symm.trans h
  · rintro ⟨cs, bytes, hcs, hanswer, rfl⟩
    exact present_of_answerable hcs hanswer

theorem present_error_iff {e : PresentationError} :
    d.present p names signer challenge source = .error e ↔
      Refused d p names signer challenge source e := by
  refine ⟨fun h => ?_, present_of_refused⟩
  obtain ⟨cs, bytes, hcs, hanswer⟩ | ⟨e', hrefused⟩ := answerable_or_refused d p names
    signer challenge source
  · cases (present_of_answerable hcs hanswer).symm.trans h
  · rw [present_of_refused hrefused] at h
    exact Except.error.inj h ▸ hrefused

end

theorem present_congr {names others : List String}
    (h : ∀ n, n ∈ names.map Text.normalize ↔ n ∈ others.map Text.normalize) (d : Document)
    (p : Protocol) (signer : Signer) (challenge : String) (source : NonceSource) :
    d.present p others signer challenge source = d.present p names signer challenge source := by
  rw [Document.present, Document.present, requestedNames_congr h]

structure Shows (d : Document) (names : List String) (challenge : String)
    (cs : List (Statement × HashedStatement)) (shown : Presentation) : Prop where
  header : shown.header = d.header
  disclosed : shown.disclosed = (requestedStatements names cs).map disclose
  ascending : (shown.disclosed.map DisclosedStatement.name).Pairwise fun m n => compare m n = .lt
  nonces : ∀ digest ∈ shown.digests, ∃ nonce,
    d.nonces.get? digest = some nonce ∧ shown.nonces.get? digest = some nonce
  no_others : ∀ digest ∉ shown.digests, shown.nonces.get? digest = none
  bound : shown.challenge = challenge

theorem get?_restrictedTo {m : NonceMap} {digests : List Hash} {digest : Hash} {nonce : String}
    (hmem : digest ∈ digests) (hget : m.get? digest = some nonce) :
    (m.restrictedTo digests).get? digest = some nonce := by
  have hkept : (digest, nonce) ∈ digests.filterMap fun k => (m.get? k).map fun v => (k, v) :=
    List.mem_filterMap.mpr ⟨digest, hmem, by rw [hget]; rfl⟩
  refine SortedMap.get?_ofList hkept ?_
  intro other hother
  obtain ⟨digest', -, hother⟩ := List.mem_filterMap.mp hother
  obtain ⟨nonce', hnonce', hpair⟩ := Option.map_eq_some_iff.mp hother
  obtain ⟨rfl, rfl⟩ := Prod.mk.inj hpair
  exact Option.some.inj (hnonce'.symm.trans hget)

theorem mem_of_get?_restrictedTo {m : NonceMap} {digests : List Hash} {digest : Hash}
    {nonce : String} (h : (m.restrictedTo digests).get? digest = some nonce) : digest ∈ digests := by
  obtain ⟨digest', hdigest', hkept⟩ := List.mem_filterMap.mp (SortedMap.mem_of_get?_ofList h)
  obtain ⟨_, -, hpair⟩ := Option.map_eq_some_iff.mp hkept
  exact (Prod.mk.inj hpair).1 ▸ hdigest'

theorem shows_showing {d : Document} {p : Protocol} {cs : List (Statement × HashedStatement)}
    (h : Committed d p cs) (names : List String) (challenge : String) (signature : DidSignature) :
    Shows d names challenge cs (d.showing names challenge cs signature) := by
  refine ⟨rfl, rfl, ?_, ?_, ?_, rfl⟩
  · rw [Document.showing, List.map_map]
    exact List.pairwise_map.mpr ((List.pairwise_map.mp h.ascending).filter _)
  · intro digest hdigest
    rw [digests_showing] at hdigest
    obtain ⟨c, hc, rfl⟩ := List.mem_map.mp hdigest
    have hrecorded := h.recorded c (List.mem_of_mem_filter hc)
    exact ⟨c.2.nonce, hrecorded, get?_restrictedTo hdigest hrecorded⟩
  · intro digest hdigest
    rw [digests_showing] at hdigest
    exact Option.eq_none_iff_forall_ne_some.mpr fun _ hget => hdigest (mem_of_get?_restrictedTo hget)

end SelectiveDisclosure
