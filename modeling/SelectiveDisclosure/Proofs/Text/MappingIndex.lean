import SelectiveDisclosure.Text.Normalization

namespace SelectiveDisclosure.Text

inductive SearchTree (α : Type) where
  | empty
  | node (left : SearchTree α) (key : Nat) (value : α) (right : SearchTree α)

namespace SearchTree

variable {α : Type}

def find? : SearchTree α → Nat → Option α
  | empty, _ => none
  | node left key value right, n =>
      bif Nat.blt n key then left.find? n
      else bif Nat.blt key n then right.find? n
      else some value

def entries : SearchTree α → List (Nat × α)
  | empty => []
  | node left key value right => left.entries ++ (key, value) :: right.entries

def build : Nat → List (Nat × α) → SearchTree α × List (Nat × α)
  | 0, l => (empty, l)
  | depth + 1, l => match build depth l with
    | (left, []) => (left, [])
    | (left, (key, value) :: rest) => match build depth rest with
      | (right, rest) => (node left key value right, rest)

def ascending : List (Nat × α) → Bool
  | [] => true
  | [_] => true
  | a :: b :: rest => Nat.blt a.1 b.1 && ascending (b :: rest)

theorem pairwise_of_ascending {l : List (Nat × α)} (h : ascending l = true) :
    l.Pairwise fun a b => a.1 < b.1 := by
  induction l with
  | nil => exact .nil
  | cons a rest ih =>
    cases rest with
    | nil => exact List.pairwise_singleton ..
    | cons b rest =>
      simp only [ascending, Bool.and_eq_true, Nat.blt_eq] at h
      have hb := ih h.2
      refine List.pairwise_cons.mpr ⟨?_, hb⟩
      intro c hc
      rcases List.mem_cons.mp hc with rfl | hc
      · exact h.1
      · exact Nat.lt_trans h.1 ((List.pairwise_cons.mp hb).1 c hc)

theorem entries_build (depth : Nat) (l : List (Nat × α)) :
    (build depth l).1.entries ++ (build depth l).2 = l := by
  induction depth generalizing l with
  | zero => rfl
  | succ depth ih =>
    have hl := ih l
    simp only [build]
    rcases hb : build depth l with ⟨left, _ | ⟨⟨key, value⟩, rest⟩⟩
    · simpa [hb] using hl
    · have hr := ih rest
      rw [hb] at hl
      simpa [entries, hr] using hl

theorem lookup_eq_none {n : Nat} {l : List (Nat × α)} (h : ∀ e ∈ l, e.1 ≠ n) :
    l.lookup n = none := by
  rw [List.lookup_eq_none_iff]
  intro e he
  simpa using fun hn => h e he hn.symm

theorem find?_eq_lookup {t : SearchTree α} (h : t.entries.Pairwise fun a b => a.1 < b.1) (n : Nat) :
    t.find? n = t.entries.lookup n := by
  induction t with
  | empty => rfl
  | node left key value right ihl ihr =>
    obtain ⟨hl, hr, hall⟩ := List.pairwise_append.mp h
    obtain ⟨hkey, hr⟩ := List.pairwise_cons.mp hr
    have hleft : ∀ e ∈ left.entries, e.1 < key := fun e he => hall e he _ (List.mem_cons_self ..)
    simp only [find?, cond_eq_ite, Nat.blt_eq, entries, List.lookup_append, List.lookup_cons]
    split
    · rename_i hn
      have hne : (n == key) = false := by simpa using Nat.ne_of_lt hn
      have hright : right.entries.lookup n = none :=
        lookup_eq_none fun e he => Nat.ne_of_gt (Nat.lt_trans hn (hkey e he))
      rw [ihl hl, hne, hright, Option.or_none]
    · rename_i hn
      have hnone : left.entries.lookup n = none := by
        apply lookup_eq_none
        intro e he
        have hlt := hleft e he
        omega
      rw [hnone, Option.none_or]
      split
      · rename_i hk
        have hne : (n == key) = false := by simpa using Nat.ne_of_gt hk
        rw [ihr hr, hne]
      · have he : (n == key) = true := by simpa using (by omega : n = key)
        rw [he]

def ofTable (depth : Nat) (l : List (Nat × α)) : SearchTree α := (build depth l).1

theorem find?_ofTable {depth : Nat} {l : List (Nat × α)} (hall : (build depth l).2.isEmpty = true)
    (h : ascending l = true) (n : Nat) : (ofTable depth l).find? n = l.lookup n := by
  have he : (ofTable depth l).entries = l := by
    simpa [ofTable, List.isEmpty_iff.mp hall] using entries_build depth l
  rw [← he] at h
  rw [find?_eq_lookup (pairwise_of_ascending h), he]

end SearchTree

end SelectiveDisclosure.Text
