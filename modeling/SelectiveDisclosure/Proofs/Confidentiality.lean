import Mathlib.Data.List.Find
import SelectiveDisclosure.Proofs.Presentation
import SelectiveDisclosure.Proofs.Text.Normalization

namespace SelectiveDisclosure

structure Opening where
  name : String
  value : Content
  digest : Hash
  nonce : String

def opening (c : Statement × HashedStatement) : Opening :=
  ⟨c.1.name, c.1.value, c.2.digest, c.2.nonce⟩

def Opening.disclosed (hasher : Hasher) (o : Opening) : DisclosedStatement :=
  ⟨o.name, o.value, o.digest, saltedHash hasher o.digest o.nonce⟩

def SameOpenings (names : List String) (cs ds : List (Statement × HashedStatement)) : Prop :=
  ∀ o : Opening, o.name ∈ names.map Text.normalize → (o ∈ cs.map opening ↔ o ∈ ds.map opening)

def requestedOpenings (names : List String) (cs : List (Statement × HashedStatement)) :
    List Opening :=
  (cs.filter fun c => (requestedNames names).contains c.1.name).map opening

theorem mem_requestedOpenings {names : List String} {cs : List (Statement × HashedStatement)}
    {o : Opening} :
    o ∈ requestedOpenings names cs ↔ o.name ∈ names.map Text.normalize ∧ o ∈ cs.map opening := by
  rw [← mem_requestedNames, requestedOpenings, List.mem_map, List.mem_map]
  constructor
  · rintro ⟨c, hc, rfl⟩
    obtain ⟨hc, hname⟩ := List.mem_filter.mp hc
    exact ⟨List.contains_iff_mem.mp hname, c, hc, rfl⟩
  · rintro ⟨hname, c, hc, rfl⟩
    exact ⟨c, List.mem_filter.mpr ⟨hc, List.contains_iff_mem.mpr hname⟩, rfl⟩

theorem requestedOpenings_eq {names : List String} {cs ds : List (Statement × HashedStatement)}
    (hcs : (cs.map fun c => c.1.name).Pairwise fun m n => compare m n = .lt)
    (hds : (ds.map fun c => c.1.name).Pairwise fun m n => compare m n = .lt)
    (h : SameOpenings names cs ds) : requestedOpenings names cs = requestedOpenings names ds := by
  have hascending : ∀ {cs : List (Statement × HashedStatement)},
      (cs.map fun c => c.1.name).Pairwise (fun m n => compare m n = .lt) →
        Ascending ((requestedOpenings names cs).map fun o => (o.name, o)) := by
    intro cs hcs
    rw [requestedOpenings, List.map_map]
    exact List.pairwise_map.mpr ((List.pairwise_map.mp hcs).filter _)
  have hentries : (requestedOpenings names cs).map (fun o => (o.name, o)) =
      (requestedOpenings names ds).map fun o => (o.name, o) := by
    refine eq_of_mem_iff_of_ascending (hascending hcs) (hascending hds) ?_
    have hmem : ∀ o, o ∈ requestedOpenings names cs ↔ o ∈ requestedOpenings names ds := by
      intro o
      rw [mem_requestedOpenings, mem_requestedOpenings]
      exact and_congr_right (h o)
    intro e
    simp only [List.mem_map, hmem]
  have hinj : Function.Injective fun o : Opening => (o.name, o) :=
    fun _ _ heq => congrArg Prod.snd heq
  exact (List.map_injective_iff.mpr hinj) hentries

section

variable {d : Document} {p : Protocol} {cs : List (Statement × HashedStatement)}
  (h : Committed d p cs) (names : List String)

include h

theorem map_disclose_eq : (cs.filter fun c => (requestedNames names).contains c.1.name).map disclose =
    (requestedOpenings names cs).map (Opening.disclosed p.hasher) := by
  rw [requestedOpenings, List.map_map]
  refine List.map_congr_left fun c hc => ?_
  have hsalted := (h.commits c (List.mem_of_mem_filter hc)).salted_eq
  rw [disclose, Function.comp_apply, Opening.disclosed, opening, hsalted]

theorem restrictedTo_requestedOpenings :
    d.nonces.restrictedTo ((requestedOpenings names cs).map Opening.digest) =
      SortedMap.ofList ((requestedOpenings names cs).map fun o => (o.digest, o.nonce)) := by
  have hrecorded : ∀ o ∈ requestedOpenings names cs, d.nonces.get? o.digest = some o.nonce := by
    intro o ho
    obtain ⟨c, hc, rfl⟩ := List.mem_map.mp (mem_requestedOpenings.mp ho).2
    exact h.recorded c hc
  rw [NonceMap.restrictedTo, List.filterMap_map, ← List.filterMap_eq_map]
  refine congrArg SortedMap.ofList (List.filterMap_congr fun o ho => ?_)
  rw [Function.comp_apply, hrecorded o ho]
  rfl

end

-- A requested name is known among all statements exactly when it is among the requested ones.
theorem find?_unknown_eq {names : List String} {cs : List (Statement × HashedStatement)} :
    ((requestedNames names).find? fun n => !cs.any fun c => c.1.name = n) =
      (requestedNames names).find? fun n => !(requestedOpenings names cs).any fun o => o.name = n := by
  refine List.find?_congr fun n hn => congrArg not ?_
  rw [Bool.eq_iff_iff, List.any_eq_true, List.any_eq_true]
  simp only [decide_eq_true_iff]
  constructor
  · rintro ⟨c, hc, rfl⟩
    refine ⟨opening c, mem_requestedOpenings.mpr ⟨mem_requestedNames.mp hn, ?_⟩, rfl⟩
    exact List.mem_map_of_mem hc
  · rintro ⟨o, ho, rfl⟩
    obtain ⟨c, hc, rfl⟩ := List.mem_map.mp (mem_requestedOpenings.mp ho).2
    exact ⟨c, hc, rfl⟩

def Header.presentOpenings (h : Header) (p : Protocol) (names : List String) (signer : Signer)
    (challenge : String) (os : List Opening) (nonces : NonceMap) :
    Except PresentationError Presentation := do
  if signer.keyUri.did ≠ h.terms.holder then throw (.holderMismatch signer.keyUri.did)
  if (requestedNames names).isEmpty then throw .nothingRequested
  if let some unknown := (requestedNames names).find? fun n => !os.any fun o => o.name = n then
    throw (.unknownName unknown)
  let digests := os.map Opening.digest
  let payload ← (holderPayload challenge digests h.documentHash).mapError .encoding
  let signature ← (signer.signWithin p.signingTimeout.toNat (utf8 payload)).mapError .signing
  return ⟨h, os.map (Opening.disclosed p.hasher), nonces, challenge, ⟨signer.keyUri, signature⟩⟩

theorem present_eq_presentOpenings {d : Document} {p : Protocol} {source : NonceSource}
    {cs : List (Statement × HashedStatement)} (h : d.committedStatements p source = .ok cs)
    (names : List String) (signer : Signer) (challenge : String) :
    d.present p names signer challenge source =
      d.header.presentOpenings p names signer challenge (requestedOpenings names cs)
        (SortedMap.ofList ((requestedOpenings names cs).map fun o => (o.digest, o.nonce))) := by
  have hcommitted := committed_of_committedStatements h
  have hdigests : ((requestedOpenings names cs).map (Opening.disclosed p.hasher)).map
      DisclosedStatement.digest = (requestedOpenings names cs).map Opening.digest := List.map_map
  rw [Document.present, h]
  simp only [mapError_ok_bind, find?_unknown_eq, map_disclose_eq hcommitted, hdigests,
    restrictedTo_requestedOpenings hcommitted]
  rfl

theorem presentation_depends_on_requested {d e : Document} {p : Protocol} {names : List String}
    (hheader : d.header = e.header) {s t : NonceSource} {cs ds : List (Statement × HashedStatement)}
    (hcs : d.committedStatements p s = .ok cs) (hds : e.committedStatements p t = .ok ds)
    (hsame : SameOpenings names cs ds) (signer : Signer) (challenge : String)
    (source later : NonceSource) :
    d.present p names signer challenge source = e.present p names signer challenge later := by
  have hopenings := requestedOpenings_eq (committed_of_committedStatements hcs).ascending
    (committed_of_committedStatements hds).ascending hsame
  rw [present_eq_presentOpenings (committedStatements_of_source hcs source),
    present_eq_presentOpenings (committedStatements_of_source hds later), hopenings, hheader]

def membershipText : String := "\x7b\"member\":true\x7d"

def membership : Opening :=
  ⟨"member", .bool true, HashAlgorithm.sha256.hasher membershipText none, uuidText 0⟩

def isMembership (c : Statement × HashedStatement) : Bool :=
  match c.1.value with
  | .bool true => c.2.digest = membership.digest && c.2.nonce = membership.nonce
  | _ => false

def tellsMembership (cs : List (Statement × HashedStatement)) : Bool :=
  cs.any (fun c => c.1.name = "member") && cs.all fun c => c.1.name ≠ "member" || isMembership c

theorem opening_of_isMembership {c : Statement × HashedStatement} (hname : c.1.name = "member")
    (h : isMembership c = true) : opening c = membership := by
  rw [isMembership] at h
  split at h
  · rename_i hvalue
    obtain ⟨hdigest, hnonce⟩ := Bool.and_eq_true_iff.mp h
    rw [opening, hname, hvalue, of_decide_eq_true hdigest, of_decide_eq_true hnonce]
    rfl
  · cases h

theorem mem_openings_iff_of_tellsMembership {cs : List (Statement × HashedStatement)}
    (h : tellsMembership cs = true) {o : Opening} (ho : o.name = "member") :
    o ∈ cs.map opening ↔ o = membership := by
  obtain ⟨hany, hall⟩ := Bool.and_eq_true_iff.mp h
  have hmembership : ∀ c ∈ cs, c.1.name = "member" → opening c = membership := by
    intro c hc hname
    have hc := List.all_eq_true.mp hall c hc
    rw [Bool.or_eq_true, decide_eq_true_iff] at hc
    exact opening_of_isMembership hname (hc.resolve_left fun hne => hne hname)
  constructor
  · intro hmem
    obtain ⟨c, hc, rfl⟩ := List.mem_map.mp hmem
    exact hmembership c hc ho
  · rintro rfl
    obtain ⟨c, hc, hname⟩ := List.any_eq_true.mp hany
    exact List.mem_map.mpr ⟨c, hc, hmembership c hc (of_decide_eq_true hname)⟩

def echoSigner : Signer := ⟨⟨⟨generatorKey⟩, "key"⟩, 0, .ok⟩

def memberHeader : Header :=
  ⟨default, ⟨[], default, ⟨generatorKey⟩, [], none, none, default, none⟩, default, default, default⟩

def memberDocument (other : String × Content) (text : String) : Document where
  header := memberHeader
  content := .object [("member", .bool true), other]
  nonces := nonceMapOf (hashStatements HashAlgorithm.sha256.hasher SortedMap.empty sampleSource
    [membershipText, text])

theorem header_memberDocument (other : String × Content) (text : String) :
    (memberDocument other text).header = memberHeader := rfl

def namedMember : Document := memberDocument ("name", .string "Alice") "\x7b\"name\":\"Alice\"\x7d"

def paidMember : Document := memberDocument ("salary", .array []) "\x7b\"salary\":[]\x7d"

theorem members_present_alike : ∃ cs ds shown,
    namedMember.committedStatements .standard sampleSource = .ok cs ∧
    paidMember.committedStatements .standard sampleSource = .ok ds ∧
    SameOpenings ["member"] cs ds ∧
    namedMember.present .standard ["member"] echoSigner "challenge" sampleSource = .ok shown ∧
    paidMember.present .standard ["member"] echoSigner "challenge" sampleSource = .ok shown := by
  have hrun : yields (namedMember.committedStatements .standard sampleSource) (fun cs =>
      yields (paidMember.committedStatements .standard sampleSource) fun ds =>
        yields (namedMember.present .standard ["member"] echoSigner "challenge" sampleSource) fun _ =>
          tellsMembership cs && tellsMembership ds) = true := by
    decide +kernel
  obtain ⟨cs, hcs, hrun⟩ := yields_iff.mp hrun
  obtain ⟨ds, hds, hrun⟩ := yields_iff.mp hrun
  obtain ⟨shown, hshown, hrun⟩ := yields_iff.mp hrun
  obtain ⟨hnamed, hpaid⟩ := Bool.and_eq_true_iff.mp hrun
  have hsame : SameOpenings ["member"] cs ds := by
    intro o ho
    have ho : o.name = "member" := by
      rw [List.mem_singleton.mp ho, Text.normalize_of_lt (Text.lt_of_isBasic (by decide))]
    rw [mem_openings_iff_of_tellsMembership hnamed ho, mem_openings_iff_of_tellsMembership hpaid ho]
  have hheader : namedMember.header = paidMember.header :=
    (header_memberDocument _ _).trans (header_memberDocument _ _).symm
  have heq := presentation_depends_on_requested hheader hcs hds hsame echoSigner "challenge"
    sampleSource sampleSource
  exact ⟨cs, ds, shown, hcs, hds, hsame, hshown, heq ▸ hshown⟩

end SelectiveDisclosure
