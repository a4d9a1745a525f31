import Mathlib.Data.List.Forall2

/-!
# Computations that may stop

When a computation that can stop reaches a value, and when and where it stops: for two computations
in a row, for a change of what it stops with, and for running through a list.
-/

namespace LedgerAmount

variable {α β ε : Type}

/-- A computation reaches a value only through a value of its first part. -/
theorem bind_eq_ok_iff {first : Except ε α} {next : α → Except ε β} {b : β} :
    first >>= next = .ok b ↔ ∃ a, first = .ok a ∧ next a = .ok b := by
  cases first <;> simp [bind, Except.bind]

/-- A computation stops either in its first part or in what follows it. -/
theorem bind_eq_error_iff {first : Except ε α} {next : α → Except ε β} {e : ε} :
    first >>= next = .error e ↔
      first = .error e ∨ ∃ a, first = .ok a ∧ next a = .error e := by
  cases first <;> simp [bind, Except.bind]

theorem mapError_eq_ok_iff {ε' : Type} {f : ε → ε'} {x : Except ε α} {a : α} :
    x.mapError f = .ok a ↔ x = .ok a := by
  cases x <;> simp [Except.mapError]

theorem mapError_eq_error_iff {ε' : Type} {f : ε → ε'} {x : Except ε α} {e : ε'} :
    x.mapError f = .error e ↔ ∃ e', x = .error e' ∧ f e' = e := by
  cases x <;> simp [Except.mapError]

/-- Mapping a list succeeds exactly if it does so on every element. -/
theorem mapM_eq_ok_iff {f : α → Except ε β} {xs : List α} {ys : List β} :
    xs.mapM f = .ok ys ↔ List.Forall₂ (fun x y => f x = .ok y) xs ys := by
  induction xs generalizing ys with
  | nil => cases ys <;> simp [pure, Except.pure]
  | cons x xs ih =>
    rw [List.mapM_cons, bind_eq_ok_iff]
    simp only [bind_eq_ok_iff, ih]
    constructor
    · intro h
      obtain ⟨y, hy, rest, hrest, hys⟩ := h
      cases hys
      exact .cons hy hrest
    · rintro (_ | ⟨hy, hrest⟩)
      exact ⟨_, hy, _, hrest, rfl⟩

/-- Mapping a list reaches some value exactly if the function does on every element. -/
theorem exists_mapM_eq_ok_iff {f : α → Except ε β} {xs : List α} :
    (∃ ys, xs.mapM f = .ok ys) ↔ ∀ x ∈ xs, ∃ y, f x = .ok y := by
  simp only [mapM_eq_ok_iff]
  induction xs with
  | nil => simp
  | cons x xs ih =>
    rw [List.forall_mem_cons, ← ih]
    constructor
    · rintro ⟨_, hy | ⟨hy, hrest⟩⟩
      exact ⟨⟨_, hy⟩, _, hrest⟩
    · intro h
      obtain ⟨⟨y, hy⟩, ys, hys⟩ := h
      exact ⟨y :: ys, .cons hy hys⟩

/-- Mapping a list stops at the first element that the function stops at. -/
theorem mapM_eq_error_iff {f : α → Except ε β} {xs : List α} {e : ε} :
    xs.mapM f = .error e ↔ ∃ before x after, xs = before ++ x :: after ∧
      (∀ a ∈ before, ∃ b, f a = .ok b) ∧ f x = .error e := by
  induction xs with
  | nil => simp [pure, Except.pure]
  | cons y xs ih =>
    rw [List.mapM_cons, bind_eq_error_iff]
    simp only [bind_eq_error_iff, ih]
    constructor
    · intro h
      rcases h with hfirst | ⟨b, hb, ⟨before, x, after, rfl, hbefore, hx⟩ | ⟨_, _, h⟩⟩
      · exact ⟨[], y, xs, rfl, by simp, hfirst⟩
      · exact ⟨y :: before, x, after, rfl, List.forall_mem_cons.mpr ⟨⟨b, hb⟩, hbefore⟩, hx⟩
      · cases h
    · intro h
      obtain ⟨before, x, after, hsplit, hbefore, hx⟩ := h
      cases before with
      | nil =>
        cases hsplit
        exact .inl hx
      | cons z before =>
        obtain ⟨rfl, rfl⟩ : y = z ∧ xs = before ++ x :: after := by simpa using hsplit
        obtain ⟨⟨b, hb⟩, hbefore⟩ := List.forall_mem_cons.mp hbefore
        exact .inr ⟨b, hb, .inl ⟨before, x, after, rfl, hbefore, hx⟩⟩

/-- Running through a list stops at the first element that the step stops at, and what was reached
on the elements before it is what the step stops in. -/
theorem foldlM_eq_error_iff {f : β → α → Except ε β} {b : β} {xs : List α} {e : ε} :
    xs.foldlM f b = .error e ↔ ∃ before x after reached, xs = before ++ x :: after ∧
      before.foldlM f b = .ok reached ∧ f reached x = .error e := by
  induction xs generalizing b with
  | nil => simp [pure, Except.pure]
  | cons y xs ih =>
    rw [List.foldlM_cons, bind_eq_error_iff]
    simp only [ih]
    constructor
    · intro h
      rcases h with hfirst | ⟨next, hnext, before, x, after, reached, rfl, hbefore, hx⟩
      · exact ⟨[], y, xs, b, rfl, rfl, hfirst⟩
      · refine ⟨y :: before, x, after, reached, rfl, ?_, hx⟩
        rw [List.foldlM_cons, hnext]
        exact hbefore
    · intro h
      obtain ⟨before, x, after, reached, hsplit, hbefore, hx⟩ := h
      cases before with
      | nil =>
        cases hsplit
        cases hbefore
        exact .inl hx
      | cons z before =>
        obtain ⟨rfl, rfl⟩ : y = z ∧ xs = before ++ x :: after := by simpa using hsplit
        rw [List.foldlM_cons, bind_eq_ok_iff] at hbefore
        obtain ⟨next, hnext, hbefore⟩ := hbefore
        exact .inr ⟨next, hnext, before, x, after, reached, rfl, hbefore, hx⟩

end LedgerAmount
