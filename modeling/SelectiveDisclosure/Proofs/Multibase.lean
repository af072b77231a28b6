import SelectiveDisclosure.Document
import SelectiveDisclosure.Proofs.Hash
import SelectiveDisclosure.Proofs.Lists
import SelectiveDisclosure.Proofs.Text.Normalization

namespace SelectiveDisclosure

namespace Multibase

theorem toNat_convert {fromBase toBase : Nat} (h : 2 ≤ toBase) (ds : List Nat) :
    Digits.toNat toBase (convert fromBase toBase ds) = Digits.toNat fromBase ds := by
  rw [convert, Digits.toNat_replicate_zero, Digits.toNat_ofNat h]

theorem convert_lt {fromBase toBase : Nat} (h : 2 ≤ toBase) {ds : List Nat} {d : Nat}
    (hd : d ∈ convert fromBase toBase ds) : d < toBase := by
  rcases List.mem_append.mp hd with hd | hd
  · rw [List.eq_of_mem_replicate hd]
    exact Nat.zero_lt_of_lt h
  · exact Digits.ofNat_lt h hd

theorem base58_digit : ∀ d < 58,
    indexOf? (base58.getD d '?') base58 = some d ∧ (base58.getD d '?').toNat < 0xC0 := by
  decide +kernel

theorem base58_inj {d e : Nat} (hd : d < 58) (he : e < 58)
    (h : base58.getD d '?' = base58.getD e '?') : d = e := by
  have hindex := (base58_digit d hd).1
  rw [h, (base58_digit e he).1] at hindex
  exact (Option.some.inj hindex).symm

theorem encodePositional_base58_inj {xs ys : List UInt8} (hlength : xs.length = ys.length)
    (h : encodePositional base58 xs = encodePositional base58 ys) : xs = ys := by
  have hconvert : convert 256 58 (xs.map UInt8.toNat) = convert 256 58 (ys.map UInt8.toNat) :=
    eq_of_map_eq (fun _ hx _ hy => base58_inj (convert_lt (by decide) hx)
      (convert_lt (by decide) hy)) h
  have hnat : Digits.toNat 256 (xs.map UInt8.toNat) = Digits.toNat 256 (ys.map UInt8.toNat) := by
    have hbase : 2 ≤ 58 := by decide
    rw [← toNat_convert hbase, hconvert, toNat_convert hbase]
  have hbytes : ∀ zs : List UInt8, ∀ d ∈ zs.map UInt8.toNat, d < 256 := by
    intro zs d hd
    obtain ⟨b, -, rfl⟩ := List.mem_map.mp hd
    exact b.toNat_lt
  have hmap := Digits.toNat_inj (by decide) (hbytes xs) (hbytes ys) (by simpa using hlength) hnat
  exact (List.map_inj_right fun _ _ => UInt8.toNat_inj.mp).mp hmap

theorem encodeBase58_lt {bytes : List UInt8} {c : Char} (h : c ∈ encodeBase58 bytes) :
    c.toNat < 0xC0 := by
  rcases List.mem_cons.mp h with rfl | h
  · decide
  · obtain ⟨d, hd, rfl⟩ := List.mem_map.mp h
    exact (base58_digit d (convert_lt (by decide) hd)).2

end Multibase

theorem Did.text_lt {d : Did} {c : Char} (h : c ∈ d.text.toList) : c.toNat < 0xC0 := by
  rw [Did.text, String.toList_ofList] at h
  rcases List.mem_append.mp h with h | h
  · exact Text.lt_of_isBasic (by decide) c h
  · exact Multibase.encodeBase58_lt h

theorem Did.text_inj {d e : Did} (h : d.text = e.text) : d = e := by
  rw [Did.text, Did.text, String.ofList_inj, List.append_cancel_left_eq] at h
  have hkeys := Multibase.encodePositional_base58_inj
    (by simp [d.publicKey.length_eq, e.publicKey.length_eq]) (List.cons.inj h).2
  have hkey := Octets.toList_inj.mp (List.append_cancel_left hkeys)
  cases d; cases e
  exact congrArg Did.mk hkey

theorem DocumentId.text_lt {i : DocumentId} {c : Char} (h : c ∈ i.text.toList) :
    c.toNat < 0xC0 := by
  rw [DocumentId.text, String.toList_ofList] at h
  rcases List.mem_append.mp h with h | h
  · exact Text.lt_of_isBasic (by decide) c h
  · exact Multibase.encodeBase58_lt h

theorem DocumentId.text_inj {i j : DocumentId} (h : i.text = j.text) : i = j := by
  rw [DocumentId.text, DocumentId.text, String.ofList_inj, List.append_cancel_left_eq] at h
  have hhash := Multibase.encodePositional_base58_inj
    (by rw [i.hash.length_eq, j.hash.length_eq]) (List.cons.inj h).2
  cases i; cases j
  exact congrArg DocumentId.mk (Octets.toList_inj.mp hhash)

end SelectiveDisclosure
