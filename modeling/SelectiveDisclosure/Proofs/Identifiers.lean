import Mathlib.Data.List.TakeDrop
import Mathlib.Data.List.TakeWhile
import SelectiveDisclosure.Proofs.Except
import SelectiveDisclosure.Proofs.Multibase
import SelectiveDisclosure.Proofs.Number.Numeral

namespace SelectiveDisclosure

theorem utf8_ofList (cs : List Char) :
    utf8 (String.ofList cs) = cs.flatMap String.utf8EncodeChar := by
  rw [utf8, String.toUTF8_eq_toByteArray, String.toByteArray_ofList, List.utf8Encode,
    List.data_toByteArray]

namespace Digits

theorem utf8_char : ∀ d < 16, String.utf8EncodeChar (char d) = [UInt8.ofNat (char d).toNat] ∧
    Hex.digitValue? (UInt8.ofNat (char d).toNat) = some d := by
  decide

end Digits

namespace Hex

theorem decodePairs_encodeByte (position : Nat) (b : UInt8) (rest : List UInt8) :
    decodePairs position ((encodeByte b).flatMap String.utf8EncodeChar ++ rest) =
      (decodePairs (position + 2) rest).map (b :: ·) := by
  have hb := b.toNat_lt
  obtain ⟨hhigh, hhighValue⟩ := Digits.utf8_char (b.toNat / 16) (by omega)
  obtain ⟨hlow, hlowValue⟩ := Digits.utf8_char (b.toNat % 16) (by omega)
  have hbyte : UInt8.ofNat (b.toNat / 16 * 16 + b.toNat % 16) = b := by
    rw [Nat.mul_comm, Nat.div_add_mod, UInt8.ofNat_toNat]
  rw [encodeByte, List.flatMap_cons, List.flatMap_singleton, hhigh, hlow]
  simp only [List.cons_append, List.nil_append]
  rw [decodePairs, digit, hhighValue, digit, hlowValue]
  cases decodePairs (position + 2) rest with
  | error e => rfl
  | ok bytes => exact congrArg (fun c => Except.ok (c :: bytes)) hbyte

theorem decodePairs_encode (position : Nat) (bytes : List UInt8) :
    decodePairs position (utf8 (encode bytes)) = .ok bytes := by
  rw [encode, utf8_ofList]
  induction bytes generalizing position with
  | nil => rfl
  | cons b bytes ih =>
    rw [List.flatMap_cons, List.flatMap_append, decodePairs_encodeByte, ih]
    rfl

theorem length_utf8_encode (bytes : List UInt8) : (utf8 (encode bytes)).length = 2 * bytes.length := by
  rw [encode, utf8_ofList]
  induction bytes with
  | nil => rfl
  | cons b bytes ih =>
    have hb := b.toNat_lt
    have hhigh := (Digits.utf8_char (b.toNat / 16) (by omega)).1
    have hlow := (Digits.utf8_char (b.toNat % 16) (by omega)).1
    rw [List.flatMap_cons, List.flatMap_append, List.length_append, ih, encodeByte, List.flatMap_cons,
      List.flatMap_singleton, hhigh, hlow, List.length_cons]
    simp only [List.singleton_append, List.length_cons, List.length_nil]
    omega

theorem decode_encode (bytes : List UInt8) : decode (encode bytes) = .ok bytes := by
  rw [decode, length_utf8_encode, if_pos (Nat.mul_mod_right 2 _), decodePairs_encode]

end Hex

@[simp] theorem Octets.ofList?_toList {n : Nat} (a : Octets n) : Octets.ofList? n a.toList = some a :=
  Octets.ofList?_eq_some_iff.mpr rfl

theorem Hex.decodeExactly_hex {n : Nat} (a : Octets n) : Hex.decodeExactly n a.hex = .ok a := by
  rw [decodeExactly, Octets.hex, length_utf8_encode, a.length_eq, if_neg (not_not.mpr (Nat.mul_mod_right 2 n)),
    if_neg (not_not.mpr rfl)]
  refine bind_ok_iff.mpr ⟨_, decodePairs_encode 0 a.toList, ?_⟩
  rw [a.ofList?_toList]
  rfl

namespace Multibase

theorem takeWhile_zero_append (zeros : Nat) {ds : List Nat} (h : ds.head? ≠ some 0) :
    ((List.replicate zeros 0 ++ ds).takeWhile (· = 0)).length = zeros := by
  induction zeros with
  | zero =>
    cases ds with
    | nil => rfl
    | cons d ds =>
      have hd : d ≠ 0 := fun hd => h (congrArg some hd)
      simp [hd]
  | succ zeros ih => simpa [List.replicate_succ] using ih

theorem replicate_append_dropWhile_zero (ds : List Nat) :
    List.replicate (ds.takeWhile (· = 0)).length 0 ++ ds.dropWhile (· = 0) = ds := by
  have hzeros : ds.takeWhile (· = 0) = List.replicate (ds.takeWhile (· = 0)).length 0 :=
    List.eq_replicate_iff.mpr ⟨rfl, fun d hd => by simpa using List.mem_takeWhile_imp hd⟩
  rw [← hzeros, List.takeWhile_append_dropWhile]

theorem convert_convert {base other : Nat} (hb : 2 ≤ base) (ho : 2 ≤ other) {ds : List Nat}
    (hlt : ∀ d ∈ ds, d < base) : convert other base (convert base other ds) = ds := by
  have hsplit := replicate_append_dropWhile_zero ds
  have hhead : (ds.dropWhile (· = 0)).head? ≠ some 0 := by
    intro h
    have hnot := List.head?_dropWhile_not (· = 0) ds
    rw [h] at hnot
    exact absurd hnot (by decide)
  have hrest : ∀ d ∈ ds.dropWhile (· = 0), d < base :=
    fun d hd => hlt d ((List.dropWhile_suffix _).subset hd)
  have hvalue : Digits.toNat base ds = Digits.toNat base (ds.dropWhile (· = 0)) := by
    have hzeros := Digits.toNat_replicate_zero base (ds.takeWhile (· = 0)).length
      (ds.dropWhile (· = 0))
    rwa [hsplit] at hzeros
  rw [convert, toNat_convert ho, convert, takeWhile_zero_append _ (Digits.head?_ofNat ho _), hvalue,
    Digits.ofNat_toNat hb hrest hhead, hsplit]

theorem values?_base58 {ds : List Nat} (h : ∀ d ∈ ds, d < 58) :
    values? base58 (ds.map fun d => base58.getD d '?') = some ds := by
  rw [values?]
  induction ds with
  | nil => rfl
  | cons d ds ih =>
    obtain ⟨hd, hds⟩ := List.forall_mem_cons.mp h
    rw [List.map_cons, List.mapM_cons, (base58_digit d hd).1, ih hds]
    rfl

theorem decodePositional_encodePositional (bytes : List UInt8) :
    decodePositional base58 (encodePositional base58 bytes) = some bytes := by
  have hbytes : ∀ d ∈ bytes.map UInt8.toNat, d < 256 := by
    intro d hd
    obtain ⟨b, -, rfl⟩ := List.mem_map.mp hd
    exact b.toNat_lt
  have hlength : base58.length = 58 := rfl
  rw [decodePositional, encodePositional, hlength,
    values?_base58 fun d hd => convert_lt (by decide) hd, Option.map_some,
    convert_convert (by decide) (by decide) hbytes, List.map_map]
  refine congrArg some ((List.map_congr_left fun b _ => ?_).trans (List.map_id bytes))
  exact UInt8.ofNat_toNat

theorem decode?_encodeBase58 (bytes : List UInt8) :
    decode? (encodeBase58 bytes) = some (base58Code, bytes) := by
  have hfold : (encodePositional base58 bytes).map LetterCase.given.fold =
      encodePositional base58 bytes := List.map_id _
  have hscheme : scheme? base58Code = some (.given, .positional base58) := rfl
  rw [encodeBase58, decode?, hscheme, Option.bind_some]
  dsimp only
  rw [hfold, Scheme.decode, decodePositional_encodePositional]
  rfl

theorem base58_ne_hash : ∀ d < 58, base58.getD d '?' ≠ '#' := by decide

theorem hash_notMem_encodeBase58 (bytes : List UInt8) : '#' ∉ encodeBase58 bytes := by
  intro h
  rcases List.mem_cons.mp h with h | h
  · exact absurd h (by decide)
  · obtain ⟨d, hd, hhash⟩ := List.mem_map.mp h
    exact base58_ne_hash d (convert_lt (by decide) hd) hhash

end Multibase

theorem isPrefixOf?_append {α : Type} [BEq α] [LawfulBEq α] (xs ys : List α) :
    xs.isPrefixOf? (xs ++ ys) = some ys :=
  List.isPrefixOf?_eq_some_iff_append_eq.mpr rfl

namespace Did

theorem parseChars_text (d : Did) : parseChars d.text.toList = .ok d := by
  rw [parseChars, text, String.toList_ofList, isPrefixOf?_append]
  dsimp only
  rw [parseKey, Multibase.decode?_encodeBase58]
  dsimp only
  rw [if_neg (not_not.mpr rfl), isPrefixOf?_append]
  dsimp only
  rw [d.publicKey.ofList?_toList]
  rfl

theorem parse_text (d : Did) : parse d.text = .ok d := parseChars_text d

theorem hash_notMem_text (d : Did) : '#' ∉ d.text.toList := by
  rw [text, String.toList_ofList]
  intro h
  rcases List.mem_append.mp h with h | h
  · exact absurd h (by decide)
  · exact Multibase.hash_notMem_encodeBase58 _ h

end Did

theorem DocumentId.parse_text (i : DocumentId) : DocumentId.parse i.text = .ok i := by
  rw [parse, text, String.toList_ofList, isPrefixOf?_append]
  dsimp only
  rw [Multibase.decode?_encodeBase58]
  dsimp only
  rw [if_neg (not_not.mpr rfl), i.hash.ofList?_toList]

namespace KeyUri

theorem span_hash {cs : List Char} (h : '#' ∉ cs) (rest : List Char) :
    (cs ++ '#' :: rest).span (· ≠ '#') = (cs, '#' :: rest) := by
  have hall : ∀ c ∈ cs, decide (c ≠ '#') = true :=
    fun c hc => decide_eq_true fun heq => h (heq ▸ hc)
  rw [List.span_eq_takeWhile_dropWhile, List.takeWhile_append_of_pos hall,
    List.dropWhile_append_of_pos hall, List.takeWhile_cons_of_neg (by decide),
    List.dropWhile_cons_of_neg (by decide), List.append_nil]

theorem toList_text (u : KeyUri) :
    u.text.toList = u.did.text.toList ++ '#' :: u.fragment.toList := by
  rw [text, String.toList_append, String.toList_append, List.append_assoc]
  rfl

theorem parse_text {u : KeyUri} (h : u.fragment ≠ "") : parse u.text = .ok u := by
  rw [parse, toList_text, span_hash u.did.hash_notMem_text]
  cases hfragment : u.fragment.toList with
  | nil => exact absurd (String.toList_eq_nil_iff.mp hfragment) h
  | cons c cs =>
    dsimp only
    rw [Did.parseChars_text, ← hfragment, String.ofList_toList]

theorem fragment_ne_empty {s : String} {u : KeyUri} (h : parse s = .ok u) : u.fragment ≠ "" := by
  rw [parse] at h
  generalize s.toList.span (· ≠ '#') = split at h
  obtain ⟨cs, rest⟩ := split
  cases rest with
  | nil => cases h
  | cons _ fragment =>
    cases fragment with
    | nil => cases h
    | cons c fragment =>
      dsimp only at h
      cases hdid : Did.parseChars cs with
      | error e =>
        rw [hdid] at h
        cases h
      | ok did =>
        rw [hdid] at h
        cases h
        exact mt String.ofList_eq_empty_iff.mp (List.cons_ne_nil c fragment)

end KeyUri

end SelectiveDisclosure
