/-!
# Steps that may fail

When one step after another succeeds : `bind_eq_ok` for a step that depends on the one before,
`map_eq_ok` for a value that is only changed, which is also how it fails : `map_eq_error`. The first
step that fails is how all of them do (`bind_eq_error`, `foldlM_eq_error`), and a fault that is only
changed comes from one before (`mapError_eq_error`).
-/

namespace DavCourier.Fallible

variable {ε α β : Type}

@[simp] theorem ok_bind (a : α) (f : α → Except ε β) : (Except.ok a >>= f) = f a := rfl

@[simp] theorem error_bind (e : ε) (f : α → Except ε β) :
    (Except.error e >>= f) = Except.error e := rfl

@[simp] theorem map_ok (a : α) (f : α → β) :
    f <$> (Except.ok a : Except ε α) = Except.ok (f a) := rfl

theorem bind_eq_ok {x : Except ε α} {f : α → Except ε β} {b : β} :
    x >>= f = .ok b ↔ ∃ a, x = .ok a ∧ f a = .ok b := by
  cases x with
  | error e => simp
  | ok a => simp

theorem bind_eq_error {x : Except ε α} {f : α → Except ε β} {e : ε} :
    x >>= f = .error e ↔ x = .error e ∨ ∃ a, x = .ok a ∧ f a = .error e := by
  cases x with
  | error e => simp
  | ok a => simp

/-- A run fails at the first step that does. -/
theorem foldlM_eq_error {f : β → α → Except ε β} {b : β} {as : List α} {e : ε}
    (h : as.foldlM f b = .error e) : ∃ before a after b', as = before ++ a :: after ∧
      before.foldlM f b = .ok b' ∧ f b' a = .error e := by
  induction as generalizing b with
  | nil => cases h
  | cons a as ih =>
    rcases bind_eq_error.mp h with hfirst | ⟨b₁, hfirst, hrest⟩
    · exact ⟨[], a, as, b, rfl, rfl, hfirst⟩
    · obtain ⟨before, a', after, b', rfl, hbefore, hlast⟩ := ih hrest
      exact ⟨a :: before, a', after, b', rfl, bind_eq_ok.mpr ⟨b₁, hfirst, hbefore⟩, hlast⟩

theorem mapError_eq_ok {ε' : Type} {x : Except ε α} {f : ε → ε'} {a : α} :
    x.mapError f = .ok a ↔ x = .ok a := by
  cases x with
  | error e => exact iff_of_false (fun h => by cases h) (fun h => by cases h)
  | ok b =>
    constructor
    · intro h
      cases h
      rfl
    · intro h
      cases h
      rfl

theorem mapError_eq_error {ε' : Type} {x : Except ε α} {f : ε → ε'} {e : ε'} :
    x.mapError f = .error e ↔ ∃ e', x = .error e' ∧ f e' = e := by
  cases x with
  | error e₁ =>
    constructor
    · intro h
      cases h
      exact ⟨e₁, rfl, rfl⟩
    · rintro ⟨e', h, rfl⟩
      cases h
      rfl
  | ok a =>
    constructor
    · intro h
      cases h
    · rintro ⟨e', h, -⟩
      cases h

theorem map_eq_ok {x : Except ε α} {f : α → β} {b : β} :
    x.map f = .ok b ↔ ∃ a, x = .ok a ∧ f a = b := by
  cases x with
  | error e => simp [Except.map]
  | ok a => simp [Except.map]

theorem map_eq_error {x : Except ε α} {f : α → β} {e : ε} :
    x.map f = .error e ↔ x = .error e := by
  cases x with
  | error e => simp [Except.map]
  | ok a => simp [Except.map]

end DavCourier.Fallible
