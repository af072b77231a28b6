import SelectiveDisclosure.Wire.Record
import SelectiveDisclosure.Proofs.Wire.Leaf

namespace SelectiveDisclosure

namespace Wire

theorem lookup_of_mem {α : Type} {k : String} {a : α} {l : List (String × α)}
    (hl : (l.map Prod.fst).Nodup) (h : (k, a) ∈ l) : l.lookup k = some a := by
  obtain ⟨before, after, rfl⟩ := List.append_of_mem h
  refine List.lookup_eq_some_iff.mpr ⟨before, after, rfl, fun e he => bne_iff_ne.mpr ?_⟩
  intro heq
  rw [List.map_append, List.map_cons] at hl
  have hk : k ∈ before.map Prod.fst := List.mem_map.mpr ⟨e, he, heq.symm⟩
  exact (List.nodup_middle.mp hl).notMem (List.mem_append_left _ hk)

def present (ws : List (String × Option Json)) : List (String × Json) :=
  ws.filterMap fun w => w.2.map fun j => (w.1, j)

theorem present_append (ws xs : List (String × Option Json)) :
    present (ws ++ xs) = present ws ++ present xs :=
  List.filterMap_append

theorem mem_present {ws : List (String × Option Json)} {m : String × Json} :
    m ∈ present ws ↔ (m.1, some m.2) ∈ ws := by
  rw [present, List.mem_filterMap]
  constructor
  · rintro ⟨⟨k, o⟩, hw, h⟩
    obtain ⟨j, rfl, rfl⟩ := Option.map_eq_some_iff.mp h
    exact hw
  · exact fun h => ⟨_, h, rfl⟩

theorem keys_present (ws : List (String × Option Json)) :
    ((present ws).map Prod.fst).Sublist (ws.map Prod.fst) := by
  induction ws with
  | nil => exact .slnil
  | cons w ws ih =>
    obtain ⟨name, o⟩ := w
    cases o with
    | none => exact ih.cons name
    | some j => exact ih.cons_cons name

theorem unless_eq_present (p : Prop) [Decidable p] (name : String) (j : Json) :
    (if p then [] else [(name, j)]) = present [(name, if p then none else some j)] := by
  split
  · rfl
  · rfl

-- Every member is a field of the record and passes the field's check.
theorem walkMembers_ofJson {known : List (String × Check)} {strict : Bool} {ms : List (String × Json)}
    (h : ∀ m ∈ ms, ∃ check, known.lookup m.1 = some check ∧ check (Reading.ofJson m.2) = .ok ())
    {found : List (String × Source)} (hnodup : (found.map Prod.fst ++ ms.map Prod.fst).Nodup) :
    walkMembers known strict found (Reading.membersOfJson ms) =
      .ok (found ++ ms.map fun m => (m.1, Reading.ofJson m.2)) := by
  induction ms generalizing found with
  | nil =>
    rw [List.map_nil, List.append_nil]
    rfl
  | cons m ms ih =>
    obtain ⟨⟨check, hknown, hcheck⟩, hms⟩ := List.forall_mem_cons.mp h
    have hfresh : (found.lookup m.1).isSome = false := by
      rw [Option.isSome_eq_false_iff, Option.isNone_iff_eq_none]
      refine List.lookup_eq_none_iff.mpr fun e he => bne_iff_ne.mpr ?_
      intro heq
      rw [List.map_cons] at hnodup
      have hm : m.1 ∈ found.map Prod.fst := List.mem_map.mpr ⟨e, he, heq.symm⟩
      exact (List.nodup_middle.mp hnodup).notMem (List.mem_append_left _ hm)
    have hrest : ((found ++ [(m.1, Reading.ofJson m.2)]).map Prod.fst ++ ms.map Prod.fst).Nodup := by
      rwa [List.map_append, List.append_assoc]
    rw [Reading.membersOfJson, walkMembers, hknown]
    dsimp only
    rw [hfresh, hcheck]
    refine (ih hms hrest).trans ?_
    rw [List.append_assoc]
    rfl

-- A field that may be left out, and then stands for the standard value.
structure Carries {α : Type} (decoder : Decoder α) (standard a : α) (o : Option Json) : Prop where
  reads : ∀ j ∈ o, Reads decoder j a
  standard : o = none → standard = a

section Carries

variable {α : Type} {decoder : Decoder α} {standard a : α}

theorem carries_some {j : Json} (h : Reads decoder j a) : Carries decoder standard a (some j) :=
  ⟨fun _ hj => Option.some.inj hj ▸ h, fun hnone => absurd hnone (Option.some_ne_none j)⟩

theorem carries_unless {p : Prop} [Decidable p] {j : Json} (h : Reads decoder j a)
    (hp : p → standard = a) : Carries decoder standard a (if p then none else some j) := by
  split
  · rename_i hcase
    exact ⟨fun _ hj => absurd hj (Option.not_mem_none _), fun _ => hp hcase⟩
  · exact carries_some h

theorem carries_optional {text : α → String} {o : Option α}
    (h : ∀ a ∈ o, Reads decoder (.string (text a)) a) :
    Carries (optional decoder) none o (o.map fun a => .string (text a)) := by
  cases o with
  | none => exact ⟨fun _ hj => absurd hj (Option.not_mem_none _), fun _ => rfl⟩
  | some a => exact carries_some (reads_optional (h a rfl))

end Carries

inductive Known (known : List (String × Check)) (c : Context) (w : String × Option Json) : Prop
  | intro {α : Type} {decoder : Decoder α} {a : α} : (∀ j ∈ w.2, Reads decoder j a) →
      (w.1, check decoder c) ∈ known → Known known c w

namespace Known

variable {α : Type} {known : List (String × Check)} {c : Context} {name : String}
  {decoder : Decoder α} {a : α}

theorem written {j : Json} (h : Reads decoder j a) (hknown : (name, check decoder c) ∈ known) :
    Known known c (name, some j) :=
  ⟨fun _ hj => Option.some.inj hj ▸ h, hknown⟩

theorem carried {standard : α} {o : Option Json} (h : Carries decoder standard a o)
    (hknown : (name, check decoder c) ∈ known) : Known known c (name, o) :=
  ⟨h.reads, hknown⟩

theorem mono {more : List (String × Check)} {w : String × Option Json} (h : Known known c w)
    (hsub : known ⊆ more) : Known more c w := by
  obtain ⟨hreads, hmem⟩ := h
  exact ⟨hreads, hsub hmem⟩

end Known

structure Finds (f : Fields) (c : Context) (ws : List (String × Option Json)) : Prop where
  room : ∀ {name j}, (name, some j) ∈ ws → j.depth ≤ c.room
  found : ∀ {name j}, (name, some j) ∈ ws → f.found.lookup name = some (Reading.ofJson j.sorted)
  missing : ∀ {name}, (name, none) ∈ ws → f.found.lookup name = none

namespace Finds

variable {α : Type} {f : Fields} {c : Context} {ws : List (String × Option Json)} {decoder : Decoder α}
  {name : String} {a : α}

theorem get (h : Finds f c ws) {j : Json} (hj : (name, some j) ∈ ws) (hreads : Reads decoder j a) :
    f.get name c decoder = .ok a := by
  rw [Fields.get, h.found hj]
  exact hreads c (h.room hj)

theorem getD (h : Finds f c ws) {o : Option Json} {standard : α} (ho : (name, o) ∈ ws)
    (hcarries : Carries decoder standard a o) : f.getD name c decoder standard = .ok a := by
  cases o with
  | none =>
    rw [Fields.getD, h.missing ho]
    exact congrArg Except.ok (hcarries.standard rfl)
  | some j =>
    rw [Fields.getD, h.found ho]
    exact hcarries.reads j rfl c (h.room ho)

end Finds

theorem Fields.get_yields {α : Type} {f : Fields} {c : Context} {name : String} {decoder : Decoder α}
    {P : α → Prop} (h : Yields decoder P) {a : α} (ha : f.get name c decoder = .ok a) : P a := by
  unfold Fields.get at ha
  split at ha
  · exact h ha
  · cases ha

theorem Fields.getD_yields {α : Type} {f : Fields} {c : Context} {name : String} {decoder : Decoder α}
    {P : α → Prop} (h : Yields decoder P) {standard a : α} (hstandard : P standard)
    (ha : f.getD name c decoder standard = .ok a) : P a := by
  unfold Fields.getD at ha
  split at ha
  · exact h ha
  · exact Except.ok.inj ha ▸ hstandard

theorem fields_present {known : List (String × Check)} (strict : Bool) {c : Context}
    {ws : List (String × Option Json)} (h : ∀ w ∈ ws, Known known c.inner w)
    (hknown : (known.map Prod.fst).Nodup) (hws : (ws.map Prod.fst).Nodup)
    (hroom : (Json.object (present ws)).depth ≤ c.room) :
    ∃ f, fields known strict c (Reading.ofJson (Json.object (present ws)).sorted) = .ok f ∧
      Finds f c.inner ws := by
  have hinner := Json.membersDepth_le_iff.mp (Nat.le_sub_of_add_le hroom)
  have hkeys : ((present ws).map Prod.fst).Nodup := (keys_present ws).nodup hws
  obtain ⟨ms, hsorted, hperm⟩ := Json.sorted_object hkeys
  have hmsKeys : (ms.map Prod.fst).Nodup := by
    rw [(hperm.map Prod.fst).nodup_iff, List.map_map]
    exact hkeys
  have hchecked : ∀ m ∈ ms, ∃ check, known.lookup m.1 = some check ∧
      check (Reading.ofJson m.2) = .ok () := by
    intro m hm
    obtain ⟨n, hn, rfl⟩ := List.mem_map.mp (hperm.subset hm)
    obtain ⟨hreads, hmem⟩ := h _ (mem_present.mp hn)
    refine ⟨_, lookup_of_mem hknown hmem, ?_⟩
    rw [check, hreads n.2 rfl c.inner (hinner n hn)]
    rfl
  have hwalk : walkMembers known strict [] (Reading.membersOfJson ms) =
      .ok (ms.map fun m => (m.1, Reading.ofJson m.2)) := walkMembers_ofJson hchecked hmsKeys
  refine ⟨⟨ms.map fun m => (m.1, Reading.ofJson m.2), .missingField⟩, ?_, ?_, ?_, ?_⟩
  · rw [hsorted, Reading.ofJson, fields, hwalk]
    rfl
  · intro name j hw
    exact hinner (name, j) (mem_present.mpr hw)
  · intro name j hw
    refine lookup_of_mem ?_ ?_
    · rwa [List.map_map]
    · exact List.mem_map.mpr ⟨(name, j.sorted),
        hperm.mem_iff.mpr (List.mem_map.mpr ⟨(name, j), mem_present.mpr hw, rfl⟩), rfl⟩
  · intro name hw
    refine List.lookup_eq_none_iff.mpr fun e he => bne_iff_ne.mpr fun heq => ?_
    obtain ⟨m, hm, rfl⟩ := List.mem_map.mp he
    obtain ⟨n, hn, rfl⟩ := List.mem_map.mp (hperm.subset hm)
    cases List.inj_on_of_nodup_map hws hw (mem_present.mp hn) heq

theorem signature_ok_iff {c : Context} {source : Source} {s : DidSignature} :
    signature c source = .ok s ↔ ∃ f, fields (signatureFields c.inner) false c.inner source = .ok f ∧
      f.get "keyUri" c.inner keyUri = .ok s.keyUri ∧ f.get "signature" c.inner bytes = .ok s.bytes := by
  simp only [signature, bind_ok_iff, return_ok_iff]
  constructor
  · rintro ⟨f, hf, _, huri, _, hbytes, rfl⟩
    exact ⟨f, hf, huri, hbytes⟩
  · rintro ⟨f, hf, huri, hbytes⟩
    exact ⟨f, hf, _, huri, _, hbytes, rfl⟩

theorem reads_signature {s : DidSignature} (h : s.keyUri.Portable) :
    Reads signature (ofSignature s) s := by
  intro c hroom
  have huri := reads_keyUri h
  have hbytes := reads_bytes s.bytes
  have hknown : ∀ w ∈ [("keyUri", some (ofKeyUri s.keyUri)),
      ("signature", some (.string (Hex.encode s.bytes)))], Known (signatureFields c.inner) c.inner w := by
    simp only [List.forall_mem_cons]
    exact ⟨.written huri (by simp [signatureFields]), .written hbytes (by simp [signatureFields]),
      List.forall_mem_nil _⟩
  obtain ⟨f, hf, hfinds⟩ := fields_present false hknown (by simp [signatureFields]) (by simp) hroom
  exact signature_ok_iff.mpr
    ⟨f, hf, hfinds.get (by simp) huri, hfinds.get (by simp) hbytes⟩

theorem yields_signature : Yields signature fun s => s.keyUri.Portable := by
  intro c source s h
  obtain ⟨f, -, huri, -⟩ := signature_ok_iff.mp h
  exact Fields.get_yields yields_keyUri huri

theorem reads_verificationKey (k : VerificationKey) : Reads verificationKey (ofVerificationKey k) k := by
  intro c hroom
  have hid := reads_string k.id
  have hkey := reads_publicKey k.publicKey
  have hknown : ∀ w ∈ [("id", some (.string k.id)), ("publicKey", some (ofPublicKey k.publicKey))],
      Known (verificationKeyFields c.inner) c.inner w := by
    simp only [List.forall_mem_cons]
    exact ⟨.written hid (by simp [verificationKeyFields]),
      .written hkey (by simp [verificationKeyFields]), List.forall_mem_nil _⟩
  obtain ⟨f, hf, hfinds⟩ := fields_present false hknown (by simp [verificationKeyFields]) (by simp) hroom
  refine bind_ok_iff.mpr ⟨f, hf, ?_⟩
  refine bind_ok_iff.mpr ⟨_, hfinds.get (by simp) hid, ?_⟩
  refine bind_ok_iff.mpr ⟨_, hfinds.get (by simp) hkey, ?_⟩
  rfl

theorem disclosed_ok_iff {c : Context} {source : Source} {s : DisclosedStatement} :
    disclosed c source = .ok s ↔ ∃ f, fields (disclosedFields c.inner) true c.inner source = .ok f ∧
      f.get "attribute" c.inner string = .ok s.name ∧ f.get "value" c.inner content = .ok s.value ∧
      f.get "digest" c.inner hash = .ok s.digest ∧ f.get "saltedHash" c.inner hash = .ok s.saltedHash := by
  simp only [disclosed, bind_ok_iff, return_ok_iff]
  constructor
  · rintro ⟨f, hf, _, hname, _, hvalue, _, hdigest, _, hsalted, rfl⟩
    exact ⟨f, hf, hname, hvalue, hdigest, hsalted⟩
  · rintro ⟨f, hf, hname, hvalue, hdigest, hsalted⟩
    exact ⟨f, hf, _, hname, _, hvalue, _, hdigest, _, hsalted, rfl⟩

theorem reads_disclosed {s : DisclosedStatement} (h : s.value.Portable) :
    Reads disclosed (ofDisclosed s) s := by
  intro c hroom
  have hname := reads_string s.name
  have hdigest := reads_hash s.digest
  have hsalted := reads_hash s.saltedHash
  have hvalue := reads_content h
  have hknown : ∀ w ∈ [("attribute", some (.string s.name)), ("digest", some (ofHash s.digest)),
      ("saltedHash", some (ofHash s.saltedHash)), ("value", some s.value.toJson)],
      Known (disclosedFields c.inner) c.inner w := by
    simp only [List.forall_mem_cons]
    exact ⟨.written hname (by simp [disclosedFields]), .written hdigest (by simp [disclosedFields]),
      .written hsalted (by simp [disclosedFields]), .written hvalue (by simp [disclosedFields]),
      List.forall_mem_nil _⟩
  obtain ⟨f, hf, hfinds⟩ := fields_present true hknown (by simp [disclosedFields]) (by simp) hroom
  exact disclosed_ok_iff.mpr ⟨f, hf, hfinds.get (by simp) hname, hfinds.get (by simp) hvalue,
    hfinds.get (by simp) hdigest, hfinds.get (by simp) hsalted⟩

theorem yields_disclosed : Yields disclosed fun s => s.value.Portable := by
  intro c source s h
  obtain ⟨f, -, -, hvalue, -, -⟩ := disclosed_ok_iff.mp h
  exact Fields.get_yields yields_content hvalue

theorem reads_protocol (p : Protocol) : Reads protocol (ofProtocol p) p := by
  intro c hroom
  have halgorithm := reads_hashAlgorithm p.hashAlgorithm
  have hdecomposition := reads_decomposition p.decomposition
  have hsigning := reads_word p.signingTimeout
  have hresolving := reads_word p.resolveTimeout
  have hknown : ∀ w ∈ [("decomposition", some (ofDecomposition p.decomposition)),
      ("hashAlgorithm", some (ofHashAlgorithm p.hashAlgorithm)),
      ("resolveTimeout", some (.number (.ofWord p.resolveTimeout))),
      ("signingTimeout", some (.number (.ofWord p.signingTimeout)))],
      Known (protocolFields c.inner) c.inner w := by
    simp only [List.forall_mem_cons]
    exact ⟨.written hdecomposition (by simp [protocolFields]),
      .written halgorithm (by simp [protocolFields]), .written hresolving (by simp [protocolFields]),
      .written hsigning (by simp [protocolFields]), List.forall_mem_nil _⟩
  obtain ⟨f, hf, hfinds⟩ := fields_present true hknown (by simp [protocolFields]) (by simp) hroom
  refine bind_ok_iff.mpr ⟨f, hf, ?_⟩
  refine bind_ok_iff.mpr ⟨_, hfinds.getD (by simp) (carries_some halgorithm), ?_⟩
  refine bind_ok_iff.mpr ⟨_, hfinds.getD (by simp) (carries_some hdecomposition), ?_⟩
  refine bind_ok_iff.mpr ⟨_, hfinds.getD (by simp) (carries_some hsigning), ?_⟩
  refine bind_ok_iff.mpr ⟨_, hfinds.getD (by simp) (carries_some hresolving), ?_⟩
  rfl

theorem reads_keys (keys : List VerificationKey) :
    Reads (list verificationKey) (.array (keys.map ofVerificationKey)) keys :=
  reads_list fun k _ => reads_verificationKey k

def writtenKeys (keys : List VerificationKey) : Option Json :=
  if keys.isEmpty then none else some (.array (keys.map ofVerificationKey))

theorem ofKeys_eq_present (name : String) (keys : List VerificationKey) :
    ofKeys name keys = present [(name, writtenKeys keys)] :=
  unless_eq_present _ _ _

theorem carries_keys (keys : List VerificationKey) :
    Carries (list verificationKey) [] keys (writtenKeys keys) :=
  carries_unless (reads_keys keys) fun h => (List.isEmpty_iff.mp h).symm

def writtenDidDocument (d : DidDocument) : List (String × Option Json) :=
  [("assertionMethod", writtenKeys d.assertionMethod),
   ("authentication", some (.array (d.authentication.map ofVerificationKey))),
   ("capabilityDelegation", writtenKeys d.capabilityDelegation), ("id", some (ofDid d.id))]

theorem ofDidDocument_eq_present (d : DidDocument) :
    ofDidDocument d = .object (present (writtenDidDocument d)) := by
  have hauthentication : [("authentication", Json.array (d.authentication.map ofVerificationKey))] =
      present [("authentication", some (.array (d.authentication.map ofVerificationKey)))] := rfl
  have hid : [("id", ofDid d.id)] = present [("id", some (ofDid d.id))] := rfl
  rw [ofDidDocument, ofKeys_eq_present, ofKeys_eq_present, hauthentication, hid, ← present_append,
    ← present_append, ← present_append]
  rfl

theorem reads_didDocument (d : DidDocument) : Reads didDocument (ofDidDocument d) d := by
  intro c hroom
  have hid := reads_did d.id
  have hauthentication := reads_keys d.authentication
  have hassertion := carries_keys d.assertionMethod
  have hdelegation := carries_keys d.capabilityDelegation
  have hknown : ∀ w ∈ writtenDidDocument d, Known (didDocumentFields c.inner) c.inner w := by
    simp only [writtenDidDocument, List.forall_mem_cons]
    exact ⟨.carried hassertion (by simp [didDocumentFields]),
      .written hauthentication (by simp [didDocumentFields]),
      .carried hdelegation (by simp [didDocumentFields]), .written hid (by simp [didDocumentFields]),
      List.forall_mem_nil _⟩
  rw [ofDidDocument_eq_present] at hroom ⊢
  obtain ⟨f, hf, hfinds⟩ := fields_present false hknown (by simp [didDocumentFields])
    (by simp [writtenDidDocument]) hroom
  refine bind_ok_iff.mpr ⟨f, hf, ?_⟩
  refine bind_ok_iff.mpr ⟨_, hfinds.get (by simp [writtenDidDocument]) hid, ?_⟩
  refine bind_ok_iff.mpr ⟨_, hfinds.get (by simp [writtenDidDocument]) hauthentication, ?_⟩
  refine bind_ok_iff.mpr ⟨_, hfinds.getD (by simp [writtenDidDocument]) hassertion, ?_⟩
  refine bind_ok_iff.mpr ⟨_, hfinds.getD (by simp [writtenDidDocument]) hdelegation, ?_⟩
  rfl

def writtenStrings (l : List String) : Option Json := if l.isEmpty then none else some (ofStrings l)

theorem ofStringsUnlessEmpty_eq_present (name : String) (l : List String) :
    ofStringsUnlessEmpty name l = present [(name, writtenStrings l)] :=
  unless_eq_present _ _ _

theorem carries_strings (l : List String) : Carries (list string) [] l (writtenStrings l) :=
  carries_unless (reads_strings l) fun h => (List.isEmpty_iff.mp h).symm

theorem ofMetadata_eq_present (m : Metadata) : ofMetadata m =
    .object (present [("labels", writtenStrings m.labels), ("templates", writtenStrings m.templates)]) := by
  rw [ofMetadata, ofStringsUnlessEmpty_eq_present, ofStringsUnlessEmpty_eq_present, ← present_append]
  rfl

theorem reads_metadata (m : Metadata) : Reads metadata (ofMetadata m) m := by
  intro c hroom
  have htemplates := carries_strings m.templates
  have hlabels := carries_strings m.labels
  have hknown : ∀ w ∈ [("labels", writtenStrings m.labels), ("templates", writtenStrings m.templates)],
      Known (metadataFields c.inner) c.inner w := by
    simp only [List.forall_mem_cons]
    exact ⟨.carried hlabels (by simp [metadataFields]), .carried htemplates (by simp [metadataFields]),
      List.forall_mem_nil _⟩
  rw [ofMetadata_eq_present] at hroom ⊢
  obtain ⟨f, hf, hfinds⟩ := fields_present false hknown (by simp [metadataFields]) (by simp) hroom
  refine bind_ok_iff.mpr ⟨f, hf, ?_⟩
  refine bind_ok_iff.mpr ⟨_, hfinds.getD (by simp) htemplates, ?_⟩
  refine bind_ok_iff.mpr ⟨_, hfinds.getD (by simp) hlabels, ?_⟩
  rfl

end Wire

end SelectiveDisclosure
