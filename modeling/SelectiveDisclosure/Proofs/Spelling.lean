import Mathlib.Logic.ExistsUnique
import SelectiveDisclosure.Proofs.Identifiers

namespace SelectiveDisclosure

namespace Multibase

theorem getD_of_indexOf? {c : Char} {alphabet : List Char} {d : Nat}
    (h : indexOf? c alphabet = some d) : d < alphabet.length ∧ alphabet.getD d '?' = c := by
  induction alphabet generalizing d with
  | nil => cases h
  | cons a alphabet ih =>
    rw [indexOf?] at h
    split at h
    · rename_i ha
      cases h
      exact ⟨Nat.zero_lt_succ _, ha⟩
    · obtain ⟨e, he, rfl⟩ := Option.map_eq_some_iff.mp h
      obtain ⟨hlt, hc⟩ := ih he
      exact ⟨Nat.succ_lt_succ hlt, hc⟩

theorem map_getD_of_values? {alphabet cs : List Char} {ds : List Nat}
    (h : values? alphabet cs = some ds) :
    (∀ d ∈ ds, d < alphabet.length) ∧ ds.map (fun d => alphabet.getD d '?') = cs := by
  rw [values?] at h
  induction cs generalizing ds with
  | nil =>
    cases h
    exact ⟨List.forall_mem_nil _, rfl⟩
  | cons c cs ih =>
    rw [List.mapM_cons] at h
    obtain ⟨d, hd, h⟩ := Option.bind_eq_some_iff.mp h
    obtain ⟨rest, hrest, h⟩ := Option.bind_eq_some_iff.mp h
    cases h
    obtain ⟨hlt, hc⟩ := getD_of_indexOf? hd
    obtain ⟨hall, hcs⟩ := ih hrest
    refine ⟨List.forall_mem_cons.mpr ⟨hlt, hall⟩, ?_⟩
    rw [List.map_cons, hc, hcs]

-- Leading zero digits are kept as zero bytes and the other way round, so no text loses any in between.
theorem encodePositional_of_decodePositional {alphabet cs : List Char} {bytes : List UInt8}
    (hbase : 2 ≤ alphabet.length) (h : decodePositional alphabet cs = some bytes) :
    encodePositional alphabet bytes = cs := by
  obtain ⟨ds, hds, rfl⟩ := Option.map_eq_some_iff.mp h
  obtain ⟨hlt, hcs⟩ := map_getD_of_values? hds
  have hbytes : ((convert alphabet.length 256 ds).map UInt8.ofNat).map UInt8.toNat =
      convert alphabet.length 256 ds := by
    rw [List.map_map]
    refine (List.map_congr_left fun d hd => ?_).trans (List.map_id _)
    exact UInt8.toNat_ofNat_of_lt (convert_lt (by decide) hd)
  rw [encodePositional, hbytes, convert_convert hbase (by decide) hlt, hcs]

theorem decodePositional_base58_iff {cs : List Char} {bytes : List UInt8} :
    decodePositional base58 cs = some bytes ↔ cs = encodePositional base58 bytes := by
  constructor
  · intro h
    exact (encodePositional_of_decodePositional (by decide) h).symm
  · rintro rfl
    exact decodePositional_encodePositional bytes

theorem decode?_base58_iff {cs : List Char} {bytes : List UInt8} :
    decode? cs = some (base58Code, bytes) ↔ cs = encodeBase58 bytes := by
  constructor
  · intro h
    cases cs with
    | nil => cases h
    | cons code cs =>
      obtain ⟨⟨letters, scheme⟩, hscheme, h⟩ := Option.bind_eq_some_iff.mp h
      obtain ⟨_, hbytes, hpair⟩ := Option.map_eq_some_iff.mp h
      obtain ⟨rfl, rfl⟩ := Prod.mk.inj hpair
      obtain ⟨rfl, rfl⟩ : LetterCase.given = letters ∧ Scheme.positional base58 = scheme :=
        Prod.mk.inj (Option.some.inj hscheme)
      have hfold : cs.map LetterCase.given.fold = cs := List.map_id _
      rw [hfold] at hbytes
      rw [encodeBase58, ← decodePositional_base58_iff.mp hbytes]
  · rintro rfl
    exact decode?_encodeBase58 bytes

end Multibase

namespace Did

theorem encodeBase58_of_parseKey {cs : List Char} {key : PublicKey} (h : parseKey cs = .ok key) :
    cs = Multibase.encodeBase58 (keyCodec ++ key.toList) := by
  rw [parseKey] at h
  split at h
  · cases h
  · rename_i code bytes hdecode
    split at h
    · cases h
    · rename_i hcode
      split at h
      · cases h
      · rename_i rest hprefix
        split at h
        · rename_i hkey
          cases h
          rw [not_not.mp hcode, Multibase.decode?_base58_iff] at hdecode
          rw [hdecode, Octets.ofList?_eq_some_iff.mp hkey, List.append_eq_of_isPrefixOf?_eq_some hprefix]
        · cases h

theorem parseChars_ok_iff {cs : List Char} {d : Did} :
    parseChars cs = .ok d ↔ cs = d.text.toList := by
  constructor
  · intro h
    rw [parseChars] at h
    split at h
    · cases h
    · rename_i rest hprefix
      cases hkey : parseKey rest with
      | error e =>
        rw [hkey] at h
        cases h
      | ok key =>
        rw [hkey] at h
        cases h
        rw [text, String.toList_ofList, ← encodeBase58_of_parseKey hkey,
          List.append_eq_of_isPrefixOf?_eq_some hprefix]
  · rintro rfl
    exact d.parseChars_text

theorem parse_ok_iff {s : String} {d : Did} : parse s = .ok d ↔ s = d.text :=
  parseChars_ok_iff.trans String.toList_inj

end Did

theorem DocumentId.parse_ok_iff {s : String} {i : DocumentId} : parse s = .ok i ↔ s = i.text := by
  constructor
  · intro h
    rw [parse] at h
    split at h
    · cases h
    · rename_i rest hprefix
      split at h
      · cases h
      · rename_i code bytes hdecode
        split at h
        · cases h
        · rename_i hcode
          split at h
          · rename_i hash hhash
            cases h
            rw [not_not.mp hcode, Multibase.decode?_base58_iff] at hdecode
            rw [text, Octets.ofList?_eq_some_iff.mp hhash, ← hdecode,
              List.append_eq_of_isPrefixOf?_eq_some hprefix, String.ofList_toList]
          · cases h
  · rintro rfl
    exact i.parse_text

namespace KeyUri

theorem eq_append_of_span {cs did fragment : List Char} {c : Char}
    (h : cs.span (· ≠ '#') = (did, c :: fragment)) : cs = did ++ '#' :: fragment := by
  rw [List.span_eq_takeWhile_dropWhile] at h
  obtain ⟨hdid, hrest⟩ := Prod.mk.inj h
  have hseparator := List.head?_dropWhile_not (· ≠ '#') cs
  rw [hrest, List.head?_cons] at hseparator
  have hc : c = '#' := by simpa using hseparator
  rw [← hc, ← hdid, ← hrest, List.takeWhile_append_dropWhile]

theorem parse_ok_iff {s : String} {u : KeyUri} :
    parse s = .ok u ↔ u.fragment ≠ "" ∧ s = u.text := by
  constructor
  · intro h
    refine ⟨fragment_ne_empty h, String.toList_inj.mp ?_⟩
    rw [parse] at h
    split at h
    · cases h
    · cases h
    · rename_i cs c fragment _ hspan
      split at h
      · rename_i did hdid
        cases h
        rw [toList_text, String.toList_ofList, eq_append_of_span hspan, Did.parseChars_ok_iff.mp hdid]
      · cases h
  · rintro ⟨hfragment, rfl⟩
    exact parse_text hfragment

end KeyUri

theorem identifier_spellings (s : String) :
    ((∃ i, DocumentId.parse s = .ok i) ↔ ∃! h : Hash, s = (DocumentId.mk h).text) ∧
    (∀ h : Hash, DocumentId.parse s = .ok ⟨h⟩ ↔ s = (DocumentId.mk h).text) ∧
    (∀ key : PublicKey, Did.parse s = .ok ⟨key⟩ ↔ s = (Did.mk key).text) ∧
    ∀ (did : Did) (fragment : String),
      KeyUri.parse s = .ok ⟨did, fragment⟩ ↔ fragment ≠ "" ∧ s = did.text ++ "#" ++ fragment := by
  refine ⟨⟨?_, ?_⟩, fun _ => DocumentId.parse_ok_iff, fun _ => Did.parse_ok_iff,
    fun _ _ => KeyUri.parse_ok_iff⟩
  · rintro ⟨⟨h⟩, hparse⟩
    refine ⟨h, DocumentId.parse_ok_iff.mp hparse, fun other hother => ?_⟩
    exact DocumentId.mk.inj (DocumentId.text_inj (hother.symm.trans (DocumentId.parse_ok_iff.mp hparse)))
  · rintro ⟨h, htext, -⟩
    exact ⟨⟨h⟩, DocumentId.parse_ok_iff.mpr htext⟩

end SelectiveDisclosure
