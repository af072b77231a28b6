import Mathlib.Data.List.Perm.Basic
import SelectiveDisclosure.Wire.Leaf
import SelectiveDisclosure.Proofs.Identifiers
import SelectiveDisclosure.Proofs.Json.Order
import SelectiveDisclosure.Proofs.Time.Reading

namespace SelectiveDisclosure

def Instant.Portable (t : Instant) : Prop := Rfc3339.InRange t ∧ t.OnClock

def KeyUri.Portable (u : KeyUri) : Prop := u.fragment ≠ ""

def Content.Portable (c : Content) : Prop := c.Ordered ∧ c.Shallow 0

namespace Wire

variable {α : Type}

def Reads (decoder : Decoder α) (j : Json) (a : α) : Prop :=
  ∀ c : Context, j.depth ≤ c.room → decoder c (Reading.ofJson j.sorted) = .ok a

def Yields (decoder : Decoder α) (P : α → Prop) : Prop :=
  ∀ {c source a}, decoder c source = .ok a → P a

theorem Reads.decodeValue {decoder : Decoder α} {j : Json} {a : α} (h : Reads decoder j a) :
    decodeValue decoder j = .ok a :=
  h ⟨.value, j.depth⟩ (Nat.le_refl _)

theorem reads_string (s : String) : Reads string (.string s) s := fun _ _ => rfl

section Parsed

variable {ε : Type} {parse : String → Except ε α} {cause : ε → Refusal}

theorem reads_parsed {s : String} {a : α} (h : parse s = .ok a) :
    Reads (parsed parse cause) (.string s) a := by
  intro c _
  exact mapError_ok_iff.mpr h

theorem yields_parsed {P : α → Prop} (h : ∀ {s a}, parse s = .ok a → P a) :
    Yields (parsed parse cause) P := by
  intro c source a hparsed
  obtain ⟨s, -, hparsed⟩ := bind_ok_iff.mp hparsed
  exact h (mapError_ok_iff.mp hparsed)

end Parsed

theorem reads_hash (h : Hash) : Reads hash (ofHash h) h := reads_parsed (Hex.decodeExactly_hex h)

theorem reads_did (d : Did) : Reads did (ofDid d) d := reads_parsed d.parse_text

theorem reads_documentId (i : DocumentId) : Reads documentId (ofDocumentId i) i :=
  reads_parsed i.parse_text

theorem reads_bytes (l : List UInt8) : Reads bytes (.string (Hex.encode l)) l :=
  reads_parsed (Hex.decode_encode l)

theorem reads_keyUri {u : KeyUri} (h : u.Portable) : Reads keyUri (ofKeyUri u) u :=
  reads_parsed (KeyUri.parse_text h)

theorem yields_keyUri : Yields keyUri KeyUri.Portable := yields_parsed KeyUri.fragment_ne_empty

theorem reads_time {t : Instant} (h : t.Portable) : Reads time (ofTime t) t :=
  reads_parsed (Rfc3339.read_text h.1 h.2)

theorem yields_time : Yields time Instant.Portable := yields_parsed Rfc3339.of_read

theorem reads_publicKey (k : PublicKey) : Reads publicKey (ofPublicKey k) k := by
  intro c hroom
  have hbytes := reads_bytes k.toList c hroom
  refine bind_ok_iff.mpr ⟨_, hbytes, ?_⟩
  rw [k.ofList?_toList]
  rfl

theorem reads_content {body : Content} (h : body.Portable) : Reads content body.toJson body := by
  intro c hroom
  have hjson : json c (Reading.ofJson body.toJson.sorted) = .ok body.toJson := by
    rw [h.1.sorted_eq, json, Reading.toJson?_ofJson hroom, h.1.sorted_eq]
  refine bind_ok_iff.mpr ⟨_, hjson, ?_⟩
  exact mapError_ok_iff.mpr (Content.ofJson_eq_of_ordered h.1 h.2)

theorem yields_content : Yields content Content.Portable := by
  intro c source body h
  obtain ⟨j, -, h⟩ := bind_ok_iff.mp h
  exact Content.ordered_of_ofJson (mapError_ok_iff.mp h)

theorem reads_optional {decoder : Decoder α} {s : String} {a : α} (h : Reads decoder (.string s) a) :
    Reads (optional decoder) (.string s) (some a) := by
  intro c hroom
  have hsome : decoder c (.string (some s)) = .ok a := h c hroom
  exact congrArg (Except.map some) hsome

theorem yields_optional {decoder : Decoder α} {P : α → Prop} (h : Yields decoder P) :
    Yields (optional decoder) fun o => ∀ a ∈ o, P a := by
  intro c source o ho a ha
  unfold optional at ho
  split at ho
  · rw [← Except.ok.inj ho] at ha
    cases ha
  · cases hdecoded : decoder c source with
    | error e =>
      rw [hdecoded] at ho
      cases ho
    | ok b =>
      rw [hdecoded] at ho
      rw [← Except.ok.inj ho] at ha
      exact Option.some.inj ha ▸ h hdecoded

theorem reads_items {decoder : Decoder α} {c : Context} {encode : α → Json} {as : List α}
    (h : ∀ a ∈ as, decoder c (Reading.ofJson (encode a).sorted) = .ok a) :
    items decoder c (Reading.itemsOfJson (Json.sortedItems (as.map encode))) = .ok as := by
  induction as with
  | nil => rfl
  | cons a as ih =>
    obtain ⟨ha, has⟩ := List.forall_mem_cons.mp h
    rw [List.map_cons, Json.sortedItems, Reading.itemsOfJson, items, ha, ih has]
    rfl

theorem reads_list {decoder : Decoder α} {encode : α → Json} {as : List α}
    (h : ∀ a ∈ as, Reads decoder (encode a) a) : Reads (list decoder) (.array (as.map encode)) as := by
  intro c hroom
  have hitems := Json.itemsDepth_le_iff.mp (Nat.le_sub_of_add_le hroom)
  rw [Reading.ofJson_sorted_array, list, reads_items fun a ha =>
    h a ha c.inner (hitems _ (List.mem_map_of_mem ha))]
  rfl

theorem yields_items {decoder : Decoder α} {P : α → Prop} (h : Yields decoder P) {c : Context}
    {sources : List Source} {as : List α} (hitems : items decoder c sources = .ok as) :
    ∀ a ∈ as, P a := by
  induction sources generalizing as with
  | nil =>
    rw [← return_ok_iff.mp hitems]
    exact List.forall_mem_nil _
  | cons source sources ih =>
    obtain ⟨a, ha, hitems⟩ := bind_ok_iff.mp hitems
    obtain ⟨bs, hbs, hitems⟩ := bind_ok_iff.mp hitems
    rw [← return_ok_iff.mp hitems]
    exact List.forall_mem_cons.mpr ⟨h ha, ih hbs⟩

theorem yields_list {decoder : Decoder α} {P : α → Prop} (h : Yields decoder P) :
    Yields (list decoder) fun as => ∀ a ∈ as, P a := by
  intro c source as has
  unfold list at has
  split at has
  · rename_i sources closed
    obtain ⟨bs, hbs, has⟩ := bind_ok_iff.mp has
    split at has
    · rw [← return_ok_iff.mp has]
      exact yields_items h hbs
    · cases has
  · cases has

theorem reads_strings (l : List String) : Reads (list string) (ofStrings l) l :=
  reads_list fun s _ => reads_string s

theorem reads_hashes (l : List Hash) : Reads (list hash) (ofHashes l) l :=
  reads_list fun h _ => reads_hash h

theorem reads_documentIds (l : List DocumentId) :
    Reads (list documentId) (.array (l.map ofDocumentId)) l :=
  reads_list fun i _ => reads_documentId i

theorem reads_enumeration {names : List (String × α)} {name : String} {a : α}
    (h : names.lookup name = some a) : Reads (enumeration names) (.string name) a := by
  intro c _
  rw [Reading.ofJson_sorted_string, enumeration, variant, h]

theorem reads_hashAlgorithm (a : HashAlgorithm) : Reads hashAlgorithm (ofHashAlgorithm a) a := by
  cases a with
  | sha256 => exact reads_enumeration rfl
  | blake3 => exact reads_enumeration rfl

theorem reads_decomposition (d : Decomposition) : Reads decomposition (ofDecomposition d) d := by
  cases d with
  | topLevel => exact reads_enumeration rfl
  | leaf => exact reads_enumeration rfl

theorem reads_word (n : UInt64) : Reads word (.number (.ofWord n)) n := by
  intro c _
  rw [Reading.ofJson_sorted_number, Number.ofWord, word, if_pos (Int.natCast_nonneg _),
    Int.toNat_natCast, UInt64.ofNat_toNat]

theorem entries_cons {decoder : Decoder α} {c : Context} {key : String → Except DecodeError Hash}
    {k : String} {v : Source} {hash : Hash} {a : α} (hkey : key k = .ok hash)
    (hvalue : decoder c v = .ok a) (ms : List (Option String × Source)) (done : SortedMap Hash α) :
    entries decoder c key ((some k, v) :: ms) done =
      entries decoder c key ms (done.insert hash a) := by
  have hstep : entries decoder c key ((some k, v) :: ms) done = (key k >>= fun hash =>
      decoder c v >>= fun a => entries decoder c key ms (done.insert hash a)) := rfl
  rw [hstep, hkey, hvalue]
  rfl

-- The members may come in any order: each of them ends up in the map under its own key.
theorem entries_ofJson {c : Context} {ms : List (String × Json)} {es : List (Hash × String)}
    (h : List.Forall₂ (fun m e => m = (e.1.hex, .string e.2)) ms es) (done : NonceMap) :
    entries string c hashKey (Reading.membersOfJson ms) done =
      .ok (es.foldl (fun m e => m.insert e.1 e.2) done) := by
  induction h generalizing done with
  | nil => rfl
  | @cons m e ms es hm _ ih =>
    have hkey : hashKey e.1.hex = .ok e.1 := mapError_ok_iff.mpr (Hex.decodeExactly_hex e.1)
    rw [hm, Reading.membersOfJson, entries_cons hkey rfl, ih, List.foldl_cons]

theorem reads_nonceMap (m : NonceMap) : Reads nonceMap (ofNonceMap m) m := by
  intro c _
  have hkeys : ((m.entries.map fun e => (e.1.hex, Json.string e.2)).map Prod.fst).Nodup := by
    have hhex : (m.keys.map Octets.hex).Nodup :=
      (SortedMap.nodup_keys m).map fun _ _ h => Octets.hex_inj h
    rw [SortedMap.keys, List.map_map] at hhex
    rwa [List.map_map]
  obtain ⟨ms, hsorted, hperm⟩ := Json.sorted_object hkeys
  rw [List.map_map] at hperm
  have hwritten : List.Forall₂ (fun m e => m = (e.1.hex, Json.string e.2))
      (m.entries.map ((fun m => (m.1, m.2.sorted)) ∘ fun e => (e.1.hex, Json.string e.2)))
      m.entries := by
    rw [List.forall₂_map_left_iff]
    exact List.forall₂_same.mpr fun e _ => rfl
  obtain ⟨es, hes, hm⟩ := List.perm_comp_forall₂ hperm hwritten
  have hmap : SortedMap.ofList es = m := by
    rw [← SortedMap.ofList_eq_of_perm (SortedMap.nodup_keys m) hm.symm, SortedMap.ofList_entries]
  rw [ofNonceMap, hsorted, nonceMap, Reading.ofJson, hashMap, entries_ofJson hes]
  exact congrArg Except.ok hmap

end Wire

end SelectiveDisclosure
