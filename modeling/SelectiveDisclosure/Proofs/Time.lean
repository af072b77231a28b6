import SelectiveDisclosure.Time.Instant

namespace SelectiveDisclosure

namespace Instant

theorem eq_of_fields {a b : Instant} (hsecond : a.second = b.second) (hnano : a.nano = b.nano) :
    a = b := by
  cases a; cases b
  subst hsecond hnano
  rfl

@[simp] theorem truncate_second (a : Instant) : a.truncate.second = a.second := by
  rw [truncate]
  split <;> rfl

@[simp] theorem truncate_nano (a : Instant) :
    a.truncate.nano = if a.nano < 1000000000 then 0 else 1000000000 := by
  rw [truncate]
  split <;> rfl

@[simp] theorem truncate_truncate (a : Instant) : a.truncate.truncate = a.truncate := by
  refine eq_of_fields (truncate_second a.truncate) ?_
  rw [truncate_nano, truncate_nano]
  split <;> rfl

def IsWhole (a : Instant) : Prop := a.nano % 1000000000 = 0

theorem isWhole_truncate (a : Instant) : a.truncate.IsWhole := by
  rw [IsWhole, truncate_nano]
  split <;> rfl

theorem before_iff {a b : Instant} :
    a.before b = true ↔ a.second < b.second ∨ a.second = b.second ∧ a.nano < b.nano := by
  simp [before]

theorem notAfter_iff {a b : Instant} :
    a.notAfter b = true ↔ a.second < b.second ∨ a.second = b.second ∧ a.nano ≤ b.nano := by
  rw [notAfter, Bool.not_eq_true', ← Bool.not_eq_true, before_iff]
  omega

theorem before_of_notAfter_of_before {a b c : Instant} (hab : a.notAfter b = true)
    (hbc : b.before c = true) : a.before c = true := by
  rw [notAfter_iff] at hab
  rw [before_iff] at hbc ⊢
  omega

theorem truncate_notAfter_truncate_iff {a b : Instant} :
    a.truncate.notAfter b.truncate = true ↔
      a.second < b.second ∨ a.second = b.second ∧ (a.nano < 1000000000 ∨ 1000000000 ≤ b.nano) := by
  simp only [notAfter_iff, truncate_second, truncate_nano]
  split <;> split <;> omega

theorem truncate_notAfter_truncate {a b : Instant} (h : a.notAfter b = true) :
    a.truncate.notAfter b.truncate = true := by
  rw [notAfter_iff] at h
  rw [truncate_notAfter_truncate_iff]
  omega

structure IsLastWhole (a whole : Instant) : Prop where
  isWhole : whole.IsWhole
  notAfter : whole.notAfter a = true
  last : ∀ w : Instant, w.IsWhole → w.notAfter a = true → w.notAfter whole = true

theorem truncate_of_isWhole {w : Instant} (h : w.IsWhole) : w.truncate = w := by
  refine eq_of_fields (truncate_second w) ?_
  have hvalid := w.valid
  rw [truncate_nano]
  rw [IsWhole] at h
  split <;> omega

theorem isLastWhole_truncate (a : Instant) : a.IsLastWhole a.truncate where
  isWhole := isWhole_truncate a
  notAfter := by
    rw [notAfter_iff, truncate_second, truncate_nano]
    refine .inr ⟨rfl, ?_⟩
    split <;> omega
  last w hw h := by
    rw [← truncate_of_isWhole hw]
    exact truncate_notAfter_truncate h

theorem truncate_before {a b : Instant} (h : a.before b = true) : a.truncate.before b = true := by
  rw [before_iff] at h ⊢
  rw [truncate_second, truncate_nano]
  refine h.imp id fun ⟨hsecond, hnano⟩ => ⟨hsecond, ?_⟩
  split <;> omega

-- RFC 3339 has a name for the leap second after a 59th second only.
def OnClock (a : Instant) : Prop := 1000000000 ≤ a.nano → a.second % 60 = 59

instance (a : Instant) : Decidable a.OnClock := inferInstanceAs (Decidable (_ → _))

theorem fields_of_make? {second : Int} {nano : Nat} {a : Instant} (h : make? second nano = some a) :
    a.second = second ∧ a.nano = nano := by
  unfold make? at h
  split at h
  · rw [← Option.some.inj h]
    exact ⟨rfl, rfl⟩
  · cases h

theorem onClock_of_make? {second : Int} {nano : Nat} {a : Instant} (h : make? second nano = some a) :
    a.OnClock := by
  obtain ⟨rfl, rfl⟩ := fields_of_make? h
  unfold make? at h
  split at h
  · rename_i hmake
    exact hmake.2
  · cases h

theorem OnClock.make?_eq {a : Instant} (h : a.OnClock) : make? a.second a.nano = some a :=
  dif_pos ⟨a.valid, h⟩

@[simp] theorem onClock_truncate_iff {a : Instant} : a.truncate.OnClock ↔ a.OnClock := by
  rw [OnClock, OnClock, truncate_second, truncate_nano]
  split <;> omega

-- The second that a text of the time names, for a leap second off the clock the next second.
def written (a : Instant) : Instant := if a.OnClock then a.truncate else whole (a.second + 1)

theorem OnClock.written_eq {a : Instant} (h : a.OnClock) : a.written = a.truncate := if_pos h

theorem written_eq_of_not_onClock {a : Instant} (h : ¬a.OnClock) : a.written = whole (a.second + 1) :=
  if_neg h

@[simp] theorem onClock_whole (second : Int) : (whole second).OnClock :=
  fun h => absurd h (by decide : ¬1000000000 ≤ 0)

@[simp] theorem onClock_written (a : Instant) : a.written.OnClock := by
  by_cases h : a.OnClock
  · rw [h.written_eq]
    exact onClock_truncate_iff.mpr h
  · rw [written_eq_of_not_onClock h]
    exact onClock_whole _

@[simp] theorem truncate_written (a : Instant) : a.written.truncate = a.written := by
  by_cases h : a.OnClock
  · rw [h.written_eq, truncate_truncate]
  · rw [written_eq_of_not_onClock h]
    rfl

theorem OnClock.truncate_notAfter_eq {now : Instant} (h : now.OnClock) (a : Instant) :
    a.truncate.notAfter now.truncate = a.written.notAfter now.truncate := by
  by_cases ha : a.OnClock
  · rw [ha.written_eq]
  · rw [← truncate_written, Bool.eq_iff_iff, truncate_notAfter_truncate_iff,
      truncate_notAfter_truncate_iff, written_eq_of_not_onClock ha]
    rw [OnClock] at h ha
    simp only [whole]
    omega

theorem truncate_notAfter_congr {now a b : Instant} (hab : a.written = b.written)
    (h : now.OnClock ∨ a.OnClock ∧ b.OnClock) :
    a.truncate.notAfter now.truncate = b.truncate.notAfter now.truncate := by
  rcases h with h | ⟨ha, hb⟩
  · rw [h.truncate_notAfter_eq, hab, ← h.truncate_notAfter_eq]
  · rw [← ha.written_eq, hab, hb.written_eq]

theorem truncate_before_congr {now a b : Instant} (hab : a.written = b.written)
    (h : now.OnClock ∨ a.OnClock ∧ b.OnClock) :
    now.truncate.before a.truncate = now.truncate.before b.truncate := by
  have hnotAfter := truncate_notAfter_congr hab h
  rwa [notAfter, notAfter, Bool.not_inj_iff] at hnotAfter

end Instant

end SelectiveDisclosure
