import SelectiveDisclosure.Proofs.Text.MappingIndex
import Mathlib.Data.List.Basic

namespace SelectiveDisclosure.Text

def compositeTree : SearchTree (Nat × Nat) := .ofTable 10 composites
def uncomposedTree : SearchTree (Nat × Nat) := .ofTable 7 uncomposed
def singletonTree : SearchTree Nat := .ofTable 11 singletons

def inGap (n : Nat) : Bool :=
  Nat.blt 0x30FE n && Nat.blt n 0xF900 || Nat.blt 0x233 n && Nat.blt n 0x340 ||
    Nat.blt 0x1026 n && Nat.blt n 0x1B06 || Nat.blt 0x3094 n && Nat.blt n 0x309E

def isIndexable {α : Type} (depth : Nat) (l : List (Nat × α)) : Bool :=
  SearchTree.ascending l && (SearchTree.build depth l).2.isEmpty && l.all fun e => !inGap e.1

theorem tables_indexable : isIndexable 10 composites = true ∧ isIndexable 7 uncomposed = true ∧
    isIndexable 11 singletons = true := by
  decide +kernel

section Indexable

variable {α : Type} {depth : Nat} {l : List (Nat × α)}

theorem isIndexable_iff : isIndexable depth l = true ↔ (SearchTree.ascending l = true ∧
    (SearchTree.build depth l).2.isEmpty = true) ∧ (l.all fun e => !inGap e.1) = true := by
  rw [isIndexable, Bool.and_eq_true, Bool.and_eq_true]

theorem find?_of_isIndexable (hl : isIndexable depth l = true) (n : Nat) :
    (SearchTree.ofTable depth l).find? n = l.lookup n :=
  SearchTree.find?_ofTable (isIndexable_iff.mp hl).1.2 (isIndexable_iff.mp hl).1.1 n

theorem lookup_of_inGap (hl : isIndexable depth l = true) {n : Nat} (hn : inGap n = true) :
    l.lookup n = none := by
  apply SearchTree.lookup_eq_none
  intro e he heq
  have hout := List.all_eq_true.mp (isIndexable_iff.mp hl).2 e he
  rw [heq, hn] at hout
  cases hout

end Indexable

theorem find?_compositeTree (n : Nat) : compositeTree.find? n = composites.lookup n :=
  find?_of_isIndexable tables_indexable.1 n

theorem find?_uncomposedTree (n : Nat) : uncomposedTree.find? n = uncomposed.lookup n :=
  find?_of_isIndexable tables_indexable.2.1 n

theorem find?_singletonTree (n : Nat) : singletonTree.find? n = singletons.lookup n :=
  find?_of_isIndexable tables_indexable.2.2 n

def foundMapping? (n : Nat) : Option (List Nat) :=
  if n < 0xC0 then none
  else if inGap n then none
  else match compositeTree.find? n with
    | some (a, b) => some [a, b]
    | none => match uncomposedTree.find? n with
      | some (a, b) => some [a, b]
      | none => (singletonTree.find? n).map ([·])

theorem foundMapping?_eq (n : Nat) : foundMapping? n = mapping? n := by
  rw [foundMapping?, find?_compositeTree, find?_uncomposedTree, find?_singletonTree, mapping?]
  by_cases hgap : inGap n = true
  · have hcomposite := lookup_of_inGap tables_indexable.1 hgap
    have huncomposed := lookup_of_inGap tables_indexable.2.1 hgap
    have hsingleton := lookup_of_inGap tables_indexable.2.2 hgap
    simp only [hgap, if_true, hcomposite, huncomposed, hsingleton, Option.map_none]
  · exact if_congr Iff.rfl rfl (if_neg hgap)

def isUnescaped (n : Nat) : Bool := 0x20 ≤ n && n ≠ 0x22 && n ≠ 0x5C

def isOrdinary (n : Nat) : Bool :=
  bif Nat.blt n 0xAC00 then Nat.blt 0x5C n || isUnescaped n
  else Nat.ble 0xD7A4 n && (Nat.blt n 0xD800 || Nat.ble 0xE000 n && Nat.blt n 0x110000)

def settlesWithin : Nat → Nat → Bool
  | 0, n => isOrdinary n && (foundMapping? n).isNone
  | depth + 1, n => isOrdinary n && match foundMapping? n with
    | none => true
    | some ns => ns.all (settlesWithin depth)

def settledComposite (e : Nat × Nat × Nat) : Bool :=
  Nat.ble 0xC0 e.1 && isOrdinary e.1 && settlesWithin 2 e.2.1 && settlesWithin 0 e.2.2

theorem tables_settle : composites.all settledComposite = true ∧
    (uncomposed.all fun e => settlesWithin 2 e.2.1 && settlesWithin 2 e.2.2) = true ∧
    (singletons.all fun e => settlesWithin 2 e.2) = true ∧
    ((List.range 0xC3).all fun i => settlesWithin 0 (0x1100 + i)) = true ∧
    (composites.all fun e => Nat.ble 0x3C e.2.1) = true := by
  decide +kernel

theorem isOrdinary_iff {n : Nat} : isOrdinary n = true ↔
    Hangul.decompose? n = none ∧ n.isValidChar ∧ isUnescaped n = true := by
  have hhangul : Hangul.decompose? n = none ↔ ¬(0xAC00 ≤ n ∧ n < 0xD7A4) := by
    rw [Hangul.decompose?]
    split
    · rename_i h
      exact iff_of_false nofun fun hn => hn h
    · rename_i h
      exact iff_of_true rfl h
  have hescaped : isUnescaped n = true ↔ 0x20 ≤ n ∧ n ≠ 0x22 ∧ n ≠ 0x5C := by
    simp [isUnescaped, and_assoc]
  rw [hhangul, hescaped, isOrdinary, cond_eq_ite]
  simp only [Nat.isValidChar, Nat.blt_eq]
  split
  · rw [Bool.or_eq_true, hescaped, Nat.blt_eq]
    omega
  · simp only [Bool.and_eq_true, Bool.or_eq_true, Nat.blt_eq, Nat.ble_eq]
    omega

theorem settlesWithin_zero_iff {n : Nat} :
    settlesWithin 0 n = true ↔ isOrdinary n = true ∧ mapping? n = none := by
  rw [settlesWithin, Bool.and_eq_true, Option.isNone_iff_eq_none, foundMapping?_eq]

theorem settlesWithin_succ_iff {depth n : Nat} : settlesWithin (depth + 1) n = true ↔
    isOrdinary n = true ∧ ∀ ns, mapping? n = some ns → ∀ m ∈ ns, settlesWithin depth m = true := by
  rw [settlesWithin, Bool.and_eq_true, foundMapping?_eq]
  cases mapping? n <;> simp

theorem isOrdinary_of_settles {depth n : Nat} (h : settlesWithin depth n = true) :
    isOrdinary n = true := by
  cases depth with
  | zero => exact (settlesWithin_zero_iff.mp h).1
  | succ depth => exact (settlesWithin_succ_iff.mp h).1

theorem settles_of_mem_expand {depth n m : Nat} (h : settlesWithin depth n = true)
    (hm : m ∈ expand depth n) : settlesWithin 0 m = true := by
  induction depth generalizing n with
  | zero =>
    rw [expand, List.mem_singleton] at hm
    exact hm ▸ h
  | succ depth ih =>
    rw [expand] at hm
    split at hm
    · rename_i hn
      rw [List.mem_singleton] at hm
      exact settlesWithin_zero_iff.mpr (hm ▸ ⟨isOrdinary_of_settles h, hn⟩)
    · rename_i ns hn
      obtain ⟨k, hk, hm⟩ := List.mem_flatMap.mp hm
      exact ih ((settlesWithin_succ_iff.mp h).2 ns hn k hk) hm

theorem expand_of_settles {depth n : Nat} (h : settlesWithin depth n = true) :
    expand (depth + 1) n = expand depth n := by
  induction depth generalizing n with
  | zero => simp [expand, (settlesWithin_zero_iff.mp h).2]
  | succ depth ih =>
    rw [expand, expand]
    split
    · rfl
    · rename_i ns hn
      exact List.flatMap_congr fun m hm => ih ((settlesWithin_succ_iff.mp h).2 ns hn m hm)

theorem expand_of_mapping?_none {n : Nat} (h : mapping? n = none) (depth : Nat) :
    expand depth n = [n] := by
  cases depth <;> simp [expand, h]

theorem mem_of_lookup {α : Type} {n : Nat} {a : α} {l : List (Nat × α)} (h : l.lookup n = some a) :
    (n, a) ∈ l := by
  obtain ⟨l₁, l₂, rfl, -⟩ := List.lookup_eq_some_iff.mp h
  exact List.mem_append_right _ (List.mem_cons_self ..)

theorem lookup_of_mem {α : Type} {n : Nat} {a : α} {l : List (Nat × α)}
    (hl : SearchTree.ascending l = true) (h : (n, a) ∈ l) : l.lookup n = some a := by
  obtain ⟨l₁, l₂, rfl⟩ := List.append_of_mem h
  have hall := (List.pairwise_append.mp (SearchTree.pairwise_of_ascending hl)).2.2
  rw [List.lookup_append, SearchTree.lookup_eq_none fun e he =>
    Nat.ne_of_lt (hall e he _ (List.mem_cons_self ..))]
  simp

theorem settles_of_mapping? {n m : Nat} {ns : List Nat} (h : mapping? n = some ns) (hm : m ∈ ns) :
    settlesWithin 2 m = true := by
  rw [mapping?] at h
  split at h
  · simp at h
  · split at h
    · rename_i a b hab
      have he := List.all_eq_true.mp tables_settle.1 _ (mem_of_lookup hab)
      simp only [settledComposite, Bool.and_eq_true] at he
      simp only [Option.some.injEq] at h
      subst h
      rcases List.mem_cons.mp hm with rfl | hm
      · exact he.1.2
      · rw [List.mem_singleton] at hm
        have hb := settlesWithin_zero_iff.mp he.2
        exact hm ▸ settlesWithin_succ_iff.mpr ⟨hb.1, by simp [hb.2]⟩
    · split at h
      · rename_i a b hab
        have he := List.all_eq_true.mp tables_settle.2.1 _ (mem_of_lookup hab)
        simp only [Bool.and_eq_true] at he
        simp only [Option.some.injEq] at h
        subst h
        rcases List.mem_cons.mp hm with rfl | hm
        · exact he.1
        · exact List.mem_singleton.mp hm ▸ he.2
      · obtain ⟨k, hk, rfl⟩ := Option.map_eq_some_iff.mp h
        rw [List.mem_singleton] at hm
        exact hm ▸ List.all_eq_true.mp tables_settle.2.2.1 _ (mem_of_lookup hk)

theorem mem_expand {n m : Nat} (hm : m ∈ expand mappingDepth n) :
    settlesWithin 0 m = true ∨ m = n ∧ mapping? n = none := by
  rw [mappingDepth, expand] at hm
  split at hm
  · rename_i hn
    exact .inr ⟨List.mem_singleton.mp hm, hn⟩
  · rename_i ns hn
    obtain ⟨k, hk, hm⟩ := List.mem_flatMap.mp hm
    exact .inl (settles_of_mem_expand (settles_of_mapping? hn hk) hm)

theorem mem_of_pairComposite {a b n : Nat} {l : List (Nat × Nat × Nat)}
    (h : pairComposite a b l = some n) : (n, a, b) ∈ l := by
  induction l with
  | nil => simp [pairComposite] at h
  | cons e l ih =>
    obtain ⟨k, x, y⟩ := e
    rw [pairComposite] at h
    split at h
    · rename_i hxy
      simp only [Option.some.injEq] at h
      rw [← h, ← hxy.1, ← hxy.2]
      exact List.mem_cons_self ..
    · exact List.mem_cons_of_mem _ (ih h)

theorem expand_composite {a b n : Nat} (h : composite? a b = some n) :
    expand mappingDepth n = expand mappingDepth a ++ [b] ∧ isOrdinary n = true ∧
      isOrdinary a = true := by
  rw [composite?] at h
  split at h
  · simp at h
  · have hmem := mem_of_pairComposite h
    have he := List.all_eq_true.mp tables_settle.1 _ hmem
    simp only [settledComposite, Bool.and_eq_true, Nat.ble_eq] at he
    obtain ⟨⟨⟨hn, hordinary⟩, ha⟩, hb⟩ := he
    have hmap : mapping? n = some [a, b] := by
      rw [mapping?, if_neg (by omega), lookup_of_mem (isIndexable_iff.mp tables_indexable.1).1.1 hmem]
    have hexpand : expand mappingDepth n = expand 2 a ++ expand 2 b := by
      rw [mappingDepth, expand, hmap]
      simp
    rw [hexpand, mappingDepth, expand_of_settles ha,
      expand_of_mapping?_none (settlesWithin_zero_iff.mp hb).2]
    exact ⟨rfl, hordinary, isOrdinary_of_settles ha⟩

end SelectiveDisclosure.Text
