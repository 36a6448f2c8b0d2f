/-!
# Results that may be errors

How a result came about that is not an error: each step before it gave one too.
-/

namespace DiagnosticReport

section

variable {ε α β : Type}

theorem except_bind_eq_ok {x : Except ε α} {f : α → Except ε β} {b : β} :
    (x >>= f) = .ok b ↔ ∃ a, x = .ok a ∧ f a = .ok b := by
  constructor
  · intro h
    cases x with
    | error e => cases h
    | ok a => exact ⟨a, rfl, h⟩
  · rintro ⟨a, rfl, h⟩
    exact h

theorem except_check_eq_ok {x : Except ε Unit} {y : Except ε β} {b : β} :
    (x >>= fun _ => y) = .ok b ↔ x = .ok () ∧ y = .ok b := by
  rw [except_bind_eq_ok]
  exact ⟨fun ⟨(), h⟩ => h, fun h => ⟨(), h⟩⟩

theorem except_map_eq_ok {x : Except ε α} {f : α → β} {b : β} :
    x.map f = .ok b ↔ ∃ a, x = .ok a ∧ f a = b := by
  cases x <;> simp [Except.map]

theorem except_mapError_eq_ok {ε' : Type} {x : Except ε α} {wrap : ε → ε'} {a : α} :
    x.mapError wrap = .ok a ↔ x = .ok a := by
  constructor
  · intro h
    cases x with
    | error e => cases h
    | ok b =>
      cases h
      rfl
  · rintro rfl
    rfl

theorem except_toOption_eq_some {x : Except ε α} {a : α} : x.toOption = some a ↔ x = .ok a := by
  cases x <;> simp [Except.toOption]

theorem except_fails_iff {x : Except ε α} : (∃ e, x = .error e) ↔ ¬ ∃ a, x = .ok a := by
  cases x <;> simp

theorem except_forM_list_eq_ok {xs : List α} {f : α → Except ε PUnit} :
    xs.forM f = .ok () ↔ ∀ a ∈ xs, f a = .ok () := by
  induction xs with
  | nil => exact iff_of_true rfl (List.forall_mem_nil _)
  | cons a xs ih =>
    show (f a >>= fun _ => xs.forM f) = .ok () ↔ _
    rw [except_check_eq_ok, ih, List.forall_mem_cons]

theorem exists_mapM_eq_ok {xs : List α} {f : α → Except ε β} :
    (∃ ys, xs.mapM f = .ok ys) ↔ ∀ a ∈ xs, ∃ b, f a = .ok b := by
  induction xs with
  | nil => exact iff_of_true ⟨[], rfl⟩ (List.forall_mem_nil _)
  | cons a xs ih =>
    rw [List.forall_mem_cons, ← ih]
    simp only [List.mapM_cons, except_bind_eq_ok]
    constructor
    · rintro ⟨ys, b, hb, rest, hrest, -⟩
      exact ⟨⟨b, hb⟩, ⟨rest, hrest⟩⟩
    · rintro ⟨⟨b, hb⟩, ⟨rest, hrest⟩⟩
      exact ⟨b :: rest, b, hb, rest, hrest, rfl⟩

theorem mapM_mapError_eq_ok {ε' : Type} {xs : List α} {f : α → Except ε β} {wrap : α → ε → ε'}
    {ys : List β} :
    (xs.mapM fun a => (f a).mapError (wrap a)) = .ok ys ↔ xs.mapM f = .ok ys := by
  induction xs generalizing ys with
  | nil => simp [pure, Except.pure]
  | cons a xs ih =>
    simp only [List.mapM_cons, except_bind_eq_ok, except_mapError_eq_ok, ih, pure, Except.pure,
      Except.ok.injEq]

/-- The fault of a result that is an error. -/
def fault? : Except ε α → Option ε
  | .ok _ => none
  | .error e => some e

end

end DiagnosticReport
