namespace Sitewright

variable {ε δ α β : Type} {x : Except ε α} {f : α → Except ε β} {g : ε → δ}

theorem exists_of_bind {b : β} (h : x >>= f = .ok b) : ∃ a, x = .ok a ∧ f a = .ok b := by
  cases x with
  | error e => cases h
  | ok a => exact ⟨a, rfl, h⟩

theorem bind_eq_error_iff {e : ε} :
    x >>= f = .error e ↔ x = .error e ∨ ∃ a, x = .ok a ∧ f a = .error e := by
  constructor
  · intro h
    cases x with
    | error cause =>
      cases h
      exact .inl rfl
    | ok a => exact .inr ⟨a, rfl, h⟩
  · rintro (rfl | ⟨a, rfl, h⟩)
    · rfl
    · exact h

@[simp] theorem map_eq_ok_iff {k : α → β} {b : β} : x.map k = .ok b ↔ ∃ a, x = .ok a ∧ k a = b := by
  constructor
  · intro h
    cases x with
    | error cause => cases h
    | ok a =>
      cases h
      exact ⟨a, rfl, rfl⟩
  · rintro ⟨a, rfl, rfl⟩
    rfl

@[simp] theorem map_eq_error_iff {k : α → β} {e : ε} : x.map k = .error e ↔ x = .error e := by
  constructor
  · intro h
    cases x with
    | error cause =>
      cases h
      rfl
    | ok a => cases h
  · rintro rfl
    rfl

theorem exists_bind_eq_ok_iff {x : Except ε Unit} {f : Unit → Except ε β} :
    (∃ b, x >>= f = .ok b) ↔ x = .ok () ∧ ∃ b, f () = .ok b := by
  cases x with
  | error e => exact iff_of_false nofun fun h => nomatch h.1
  | ok => exact (and_iff_right rfl).symm

@[simp] theorem mapError_eq_error_iff {d : δ} :
    x.mapError g = .error d ↔ ∃ cause, x = .error cause ∧ g cause = d := by
  constructor
  · intro h
    cases x with
    | error cause =>
      cases h
      exact ⟨cause, rfl, rfl⟩
    | ok a => cases h
  · rintro ⟨cause, rfl, rfl⟩
    rfl

@[simp] theorem mapError_eq_ok_iff {a : α} : x.mapError g = .ok a ↔ x = .ok a := by
  constructor
  · intro h
    cases x with
    | error cause => cases h
    | ok a' =>
      cases h
      rfl
  · rintro rfl
    rfl

/-- Whether two results are one failure, or values that `R` relates. -/
inductive Matching {ε α β : Type} (R : α → β → Prop) : Except ε α → Except ε β → Prop
  | error {e : ε} : Matching R (.error e) (.error e)
  | ok {a : α} {b : β} (h : R a b) : Matching R (.ok a) (.ok b)

theorem Matching.error_or_ok {R : α → β → Prop} {x : Except ε α} {y : Except ε β}
    (h : Matching R x y) :
    (∃ e, x = .error e ∧ y = .error e) ∨ ∃ a b, x = .ok a ∧ y = .ok b ∧ R a b := by
  cases h with
  | error => exact .inl ⟨_, rfl, rfl⟩
  | ok h => exact .inr ⟨_, _, rfl, rfl, h⟩

theorem Matching.map {α' β' : Type} {R : α → β → Prop} {S : α' → β' → Prop} {x : Except ε α}
    {y : Except ε β} {k : α → α'} {l : β → β'} (h : Matching R x y)
    (hk : ∀ a b, R a b → S (k a) (l b)) : Matching S (x.map k) (y.map l) := by
  cases h with
  | error => exact .error
  | ok h => exact .ok (hk _ _ h)

theorem Matching.mapError {R : α → β → Prop} {x : Except ε α} {y : Except ε β}
    (h : Matching R x y) (g : ε → δ) : Matching R (x.mapError g) (y.mapError g) := by
  cases h with
  | error => exact .error
  | ok h => exact .ok h

theorem Matching.bind {α' β' : Type} {R : α → β → Prop} {S : α' → β' → Prop} {x : Except ε α}
    {y : Except ε β} {k : α → Except ε α'} {l : β → Except ε β'} (h : Matching R x y)
    (hk : ∀ a b, R a b → Matching S (k a) (l b)) : Matching S (x >>= k) (y >>= l) := by
  cases h with
  | error => exact .error
  | ok h => exact hk _ _ h

theorem Matching.after {α' β' : Type} {S : α' → β' → Prop} (x : Except ε α)
    {k : α → Except ε α'} {l : α → Except ε β'} (hk : ∀ a, Matching S (k a) (l a)) :
    Matching S (x >>= k) (x >>= l) := by
  cases x with
  | error e => exact .error
  | ok a => exact hk a

end Sitewright
