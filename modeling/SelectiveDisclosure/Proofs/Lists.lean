import Mathlib.Data.List.Perm.Basic

namespace SelectiveDisclosure

variable {α β γ : Type}

theorem eq_of_map_eq {f : α → β} {xs ys : List α}
    (hf : ∀ x ∈ xs, ∀ y ∈ ys, f x = f y → x = y) (h : xs.map f = ys.map f) : xs = ys := by
  induction xs generalizing ys with
  | nil => exact (List.map_eq_nil_iff.mp h.symm).symm
  | cons x xs ih =>
    cases ys with
    | nil => exact absurd (List.map_eq_nil_iff.mp h) (List.cons_ne_nil _ _)
    | cons y ys =>
      obtain ⟨hhead, htail⟩ := List.cons.inj h
      rw [hf x (List.mem_cons_self ..) y (List.mem_cons_self ..) hhead,
        ih (fun a ha b hb => hf a (List.mem_cons_of_mem _ ha) b (List.mem_cons_of_mem _ hb)) htail]

theorem exists_append_of_perm_map {f : α → β} {x : α} {xs ys : List α}
    (h : ((x :: xs).map f).Perm (ys.map f)) :
    ∃ as y bs, ys = as ++ y :: bs ∧ f y = f x ∧ (xs.map f).Perm ((as ++ bs).map f) := by
  obtain ⟨y, hy, hxy⟩ := List.mem_map.mp (h.subset (List.mem_cons_self ..))
  obtain ⟨as, bs, rfl⟩ := List.append_of_mem hy
  refine ⟨as, y, bs, rfl, hxy, List.Perm.cons_inv (h.trans ?_)⟩
  rw [← hxy]
  exact List.perm_middle.map f

theorem flatMap_perm_of_perm_map {f : α → β} {g h : α → List γ} {xs ys : List α}
    (hperm : (xs.map f).Perm (ys.map f))
    (hgh : ∀ x ∈ xs, ∀ y ∈ ys, f x = f y → (g x).Perm (h y)) :
    (xs.flatMap g).Perm (ys.flatMap h) := by
  induction xs generalizing ys with
  | nil =>
    rw [List.map_eq_nil_iff.mp hperm.nil_eq.symm]
    exact .refl _
  | cons x xs ih =>
    obtain ⟨as, y, bs, rfl, hxy, hrest⟩ := exists_append_of_perm_map hperm
    have hy : y ∈ as ++ y :: bs := List.mem_append_right _ (List.mem_cons_self ..)
    have hsub : ∀ z ∈ as ++ bs, z ∈ as ++ y :: bs := fun z hz =>
      ((List.sublist_cons_self y bs).append_left as).subset hz
    have htail := ih hrest fun z hz w hw => hgh z (List.mem_cons_of_mem _ hz) w (hsub w hw)
    refine ((hgh x (List.mem_cons_self ..) y hy hxy.symm).append htail).trans ?_
    exact (List.perm_middle.symm.flatMap_right h :)

theorem perm_map_of_perm_map {f : α → β} {g : α → γ} {xs ys : List α}
    (h : (xs.map f).Perm (ys.map f)) (hfg : ∀ x ∈ xs, ∀ y ∈ ys, f x = f y → g x = g y) :
    (xs.map g).Perm (ys.map g) := by
  rw [List.map_eq_flatMap, List.map_eq_flatMap]
  refine flatMap_perm_of_perm_map h fun x hx y hy hxy => ?_
  rw [hfg x hx y hy hxy]

end SelectiveDisclosure
