import SelectiveDisclosure.Proofs.Number.Text
import SelectiveDisclosure.Salting

namespace SelectiveDisclosure

namespace Hex

theorem encodeByte_inj {b c : UInt8} (h : encodeByte b = encodeByte c) : b = c := by
  have hb := b.toNat_lt
  have hc := c.toNat_lt
  simp only [encodeByte, List.cons.injEq, and_true] at h
  have hhigh := Digits.char_inj _ (by omega) _ (by omega) h.1
  have hlow := Digits.char_inj _ (by omega) _ (by omega) h.2
  exact UInt8.toNat_inj.mp (by omega)

theorem flatMap_encodeByte_inj {xs ys : List UInt8}
    (h : xs.flatMap encodeByte = ys.flatMap encodeByte) : xs = ys := by
  induction xs generalizing ys with
  | nil =>
    cases ys with
    | nil => rfl
    | cons y ys => exact absurd h nofun
  | cons x xs ih =>
    cases ys with
    | nil => exact absurd h nofun
    | cons y ys =>
      rw [List.flatMap_cons, List.flatMap_cons] at h
      obtain ⟨hbyte, hrest⟩ := List.append_inj h rfl
      rw [encodeByte_inj hbyte, ih hrest]

@[simp] theorem length_encode (bytes : List UInt8) :
    (encode bytes).toList.length = 2 * bytes.length := by
  rw [encode, String.toList_ofList]
  induction bytes with
  | nil => rfl
  | cons b bytes ih =>
    rw [List.flatMap_cons, List.length_append, ih, List.length_cons]
    simp only [encodeByte, List.length_cons, List.length_nil]
    omega

theorem encode_lt {bytes : List UInt8} {c : Char} (h : c ∈ (encode bytes).toList) :
    c.toNat < 0xC0 := by
  rw [encode, String.toList_ofList] at h
  obtain ⟨b, -, hc⟩ := List.mem_flatMap.mp h
  have hb := b.toNat_lt
  rw [encodeByte, List.mem_cons, List.mem_singleton] at hc
  rcases hc with rfl | rfl
  · exact Digits.char_lt _ (by omega)
  · exact Digits.char_lt _ (by omega)

end Hex

namespace Octets

variable {n : Nat}

@[simp] theorem toList_inj {a b : Octets n} : a.toList = b.toList ↔ a = b := by
  cases a; cases b
  simp

theorem hex_inj {a b : Octets n} (h : a.hex = b.hex) : a = b :=
  toList_inj.mp (Hex.flatMap_encodeByte_inj (String.ofList_inj.mp h))

theorem append_hex_inj {s t : String} {a b : Octets n} (h : s ++ a.hex = t ++ b.hex) :
    s = t ∧ a = b := by
  have hlength : a.hex.toList.length = b.hex.toList.length := by
    simp [hex, a.length_eq, b.length_eq]
  have htoList := congrArg String.toList h
  rw [String.toList_append, String.toList_append] at htoList
  obtain ⟨hst, hab⟩ := List.append_inj' htoList hlength
  exact ⟨String.toList_inj.mp hst, hex_inj (String.toList_inj.mp hab)⟩

end Octets

theorem utf8_append (s t : String) : utf8 (s ++ t) = utf8 s ++ utf8 t := by
  simp only [utf8, String.toUTF8_eq_toByteArray, String.toByteArray_append,
    ByteArray.toList_data_append]

theorem utf8_inj {s t : String} (h : utf8 s = utf8 t) : s = t := by
  rw [utf8, utf8, String.toUTF8_eq_toByteArray, String.toUTF8_eq_toByteArray] at h
  exact String.toByteArray_inj.mp (ByteArray.ext (Array.toList_inj.mp h))

def Hasher.Collides (hasher : Hasher) (texts : List String) : Prop :=
  ∃ x ∈ texts, ∃ y ∈ texts, x ≠ y ∧ hasher x none = hasher y none

namespace HashAlgorithm

def Collides (a : HashAlgorithm) (texts : List String) : Prop := a.hasher.Collides texts

theorem hasher_some (a : HashAlgorithm) (value nonce : String) :
    a.hasher value (some nonce) = a.hasher (nonce ++ value) none := by
  rw [hasher, hasher, Option.getD_some, Option.getD_none, ← utf8_append, ← utf8_append,
    String.empty_append]

theorem saltedHash_eq (a : HashAlgorithm) (digest : Hash) (nonce : String) :
    saltedHash a.hasher digest nonce = a.hasher (nonce ++ digest.hex) none :=
  a.hasher_some digest.hex nonce

theorem eq_of_digest {a : HashAlgorithm} {texts : List String} (h : ¬a.Collides texts)
    {x y : String} (hx : x ∈ texts) (hy : y ∈ texts)
    (hdigest : a.hasher x none = a.hasher y none) : x = y := by
  apply Decidable.byContradiction
  intro hne
  exact h ⟨x, hx, y, hy, hne, hdigest⟩

-- A salted hash is bound to the text and to the nonce it was made of.
theorem eq_of_saltedHash {a : HashAlgorithm} {texts : List String} (hfree : ¬a.Collides texts)
    {x y r s : String} (hx : x ∈ texts) (hy : y ∈ texts) (hr : r ++ (a.hasher x none).hex ∈ texts)
    (hs : s ++ (a.hasher y none).hex ∈ texts)
    (h : saltedHash a.hasher (a.hasher x none) r = saltedHash a.hasher (a.hasher y none) s) :
    x = y ∧ r = s := by
  rw [a.saltedHash_eq, a.saltedHash_eq] at h
  obtain ⟨hnonce, hdigest⟩ := Octets.append_hex_inj (eq_of_digest hfree hr hs h)
  exact ⟨eq_of_digest hfree hx hy hdigest, hnonce⟩

end HashAlgorithm

end SelectiveDisclosure
