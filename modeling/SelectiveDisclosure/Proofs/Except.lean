namespace SelectiveDisclosure

variable {ε δ α β : Type}

@[simp] theorem bind_ok_iff {x : Except ε α} {f : α → Except ε β} {b : β} :
    x >>= f = .ok b ↔ ∃ a, x = .ok a ∧ f a = .ok b := by
  cases x with
  | error e => simp [bind, Except.bind]
  | ok a => simp [bind, Except.bind]

@[simp] theorem mapError_ok_iff {f : ε → δ} {x : Except ε α} {a : α} :
    x.mapError f = .ok a ↔ x = .ok a := by
  cases x with
  | error e =>
    constructor
    · intro h
      cases h
    · intro h
      cases h
  | ok b =>
    constructor
    · intro h
      exact congrArg Except.ok (Except.ok.inj h)
    · intro h
      exact congrArg Except.ok (Except.ok.inj h)

theorem bind_error_iff {x : Except ε α} {f : α → Except ε β} {e : ε} :
    x >>= f = .error e ↔ x = .error e ∨ ∃ a, x = .ok a ∧ f a = .error e := by
  cases x with
  | error e => simp [bind, Except.bind]
  | ok a => simp [bind, Except.bind]

theorem mapError_error_iff {f : ε → δ} {x : Except ε α} {e : δ} :
    x.mapError f = .error e ↔ ∃ cause, x = .error cause ∧ f cause = e := by
  cases x with
  | error cause =>
    constructor
    · intro h
      exact ⟨cause, rfl, Except.error.inj h⟩
    · rintro ⟨_, h, he⟩
      rw [← he, ← Except.error.inj h]
      rfl
  | ok a =>
    constructor
    · intro h
      cases h
    · rintro ⟨_, h, -⟩
      cases h

theorem mapError_ok_bind (f : ε → δ) (a : α) (g : α → Except δ β) :
    (Except.ok a).mapError f >>= g = g a :=
  rfl

-- A step that always gives a value is never the one that failed.
theorem mapError_bind_error_iff {x : Except ε α} (hx : ∃ a, x = .ok a) {f : ε → δ}
    {g : α → Except δ β} {e : δ} :
    x.mapError f >>= g = .error e ↔ ∃ a, x = .ok a ∧ g a = .error e := by
  obtain ⟨a, rfl⟩ := hx
  rw [mapError_ok_bind]
  constructor
  · intro h
    exact ⟨a, rfl, h⟩
  · rintro ⟨_, ⟨⟩, h⟩
    exact h

@[simp] theorem return_ok_iff {a b : α} : (return a : Except ε α) = .ok b ↔ a = b := by
  simp [pure, Except.pure]

@[simp] theorem throw_ok_iff {p : Prop} [Decidable p] {e : ε} {x : Except ε α} {a : α} :
    (if p then throw e else x) = .ok a ↔ ¬p ∧ x = .ok a := by
  split
  · simp [*, throw, throwThe, MonadExceptOf.throw]
  · simp [*]

theorem throw_error_iff {p : Prop} [Decidable p] {e f : ε} {x : Except ε α} :
    (if p then throw e else x) = .error f ↔ p ∧ e = f ∨ ¬p ∧ x = .error f := by
  split
  · simp [*, throw, throwThe, MonadExceptOf.throw]
  · simp [*]

def yields (x : Except ε α) (p : α → Bool) : Bool :=
  match x with
  | .ok a => p a
  | .error _ => false

theorem yields_iff {x : Except ε α} {p : α → Bool} :
    yields x p = true ↔ ∃ a, x = .ok a ∧ p a = true := by
  cases x with
  | error e => simp [yields]
  | ok a => simp [yields]

def refusal? (x : Except ε α) : Option ε :=
  match x with
  | .ok _ => none
  | .error e => some e

theorem refusal_eq_none_iff {x : Except ε α} : refusal? x = none ↔ ∃ a, x = .ok a := by
  cases x with
  | error e => simp [refusal?]
  | ok a => simp [refusal?]

theorem refusal_eq_some_iff {x : Except ε α} {e : ε} : refusal? x = some e ↔ x = .error e := by
  cases x with
  | error f => simp [refusal?]
  | ok a => simp [refusal?]

theorem refusal_bind {x : Except ε α} {f : α → Except ε β} {rest : Option ε}
    (h : ∀ a, refusal? (f a) = rest) : refusal? (x >>= f) = (refusal? x).or rest := by
  cases x with
  | error e => rfl
  | ok a => exact h a

theorem refusal_bind_return {x : Except ε α} {f : α → β} :
    refusal? (do return f (← x)) = refusal? x := by
  cases x with
  | error e => rfl
  | ok a => rfl

-- Both give a value, and related ones, or both fail, whatever their errors.
inductive Alike {ε δ α β : Type} (r : α → β → Prop) : Except ε α → Except δ β → Prop
  | ok {a : α} {b : β} : r a b → Alike r (.ok a) (.ok b)
  | error (e : ε) (f : δ) : Alike r (.error e) (.error f)

namespace Alike

variable {r : α → β → Prop} {x : Except ε α} {y : Except δ β}

theorem refl {r : α → α → Prop} (hr : ∀ a, r a a) (x : Except ε α) : Alike r x x := by
  cases x with
  | ok a => exact .ok (hr a)
  | error e => exact .error e e

theorem of_transfer (h : ∀ a, x = .ok a → ∃ b, y = .ok b ∧ r a b)
    (hback : ∀ b, y = .ok b → ∃ a, x = .ok a) : Alike r x y := by
  cases x with
  | ok a =>
    obtain ⟨b, rfl, hab⟩ := h a rfl
    exact .ok hab
  | error e =>
    cases y with
    | ok b =>
      obtain ⟨a, ha⟩ := hback b rfl
      cases ha
    | error f => exact .error e f

theorem transfer (h : Alike r x y) {a : α} (hx : x = .ok a) : ∃ b, y = .ok b ∧ r a b := by
  cases h with
  | ok hab => exact ⟨_, rfl, Except.ok.inj hx ▸ hab⟩
  | error e f => cases hx

theorem mapError {ε' δ' : Type} (h : Alike r x y) (f : ε → ε') (g : δ → δ') :
    Alike r (x.mapError f) (y.mapError g) := by
  cases h with
  | ok hab => exact .ok hab
  | error e f => exact .error _ _

theorem bind {α' β' : Type} {q : α' → β' → Prop} (h : Alike r x y) {f : α → Except ε α'}
    {g : β → Except δ β'} (hfg : ∀ a b, r a b → Alike q (f a) (g b)) : Alike q (x >>= f) (y >>= g) := by
  cases h with
  | ok hab => exact hfg _ _ hab
  | error e f => exact .error e f

theorem throw_or {p q : Prop} [Decidable p] [Decidable q] (h : p ↔ q) {e : ε} {f : δ}
    (hxy : Alike r x y) :
    Alike r (if p then throw e else x) (if q then throw f else y) := by
  by_cases hp : p
  · rw [if_pos hp, if_pos (h.mp hp)]
    exact .error e f
  · rw [if_neg hp, if_neg (mt h.mpr hp)]
    exact hxy

end Alike

end SelectiveDisclosure
