import Mathlib.Data.List.Forall2

/-! # Steps that can fail

A row of steps gives a result if each of them does.
-/

namespace NativeStubs

variable {ε α β : Type}

theorem bind_eq_ok_iff {x : Except ε α} {f : α → Except ε β} {b : β} :
    x >>= f = .ok b ↔ ∃ a, x = .ok a ∧ f a = .ok b := by
  cases x <;> simp [bind, Except.bind]

theorem map_eq_ok_iff {x : Except ε α} {f : α → β} {b : β} :
    x.map f = .ok b ↔ ∃ a, x = .ok a ∧ f a = b := by
  cases x <;> simp [Except.map]

theorem mapM_eq_ok_iff {f : α → Except ε β} {l : List α} {l' : List β} :
    l.mapM f = .ok l' ↔ List.Forall₂ (fun a b => f a = .ok b) l l' := by
  induction l generalizing l' with
  | nil => simp [pure, Except.pure, eq_comm]
  | cons a l ih =>
    simp only [List.mapM_cons, bind_eq_ok_iff, ih, List.forall₂_cons_left_iff, pure, Except.pure,
      Except.ok.injEq]
    constructor
    · rintro ⟨b, hb, l'', hl, rfl⟩
      exact ⟨b, l'', hb, hl, rfl⟩
    · rintro ⟨b, l'', hb, hl, rfl⟩
      exact ⟨b, hb, l'', hl, rfl⟩

theorem map_bind_eq {γ : Type} (x : Except ε α) (g : α → β) (f : β → Except ε γ) :
    x.map g >>= f = x >>= fun a => f (g a) := by
  cases x <;> rfl

theorem bind_map_eq {γ : Type} (x : Except ε α) (f : α → Except ε β) (g : β → γ) :
    (x >>= f).map g = x >>= fun a => (f a).map g := by
  cases x <;> rfl

/-- A step that commutes with a change of what it takes and gives makes a row of steps that does. -/
theorem mapM_map_eq {f : α → Except ε β} {change : α → α} {changed : β → β}
    (h : ∀ a, f (change a) = (f a).map changed) (l : List α) :
    (l.map change).mapM f = (l.mapM f).map (List.map changed) := by
  induction l with
  | nil => rfl
  | cons a l ih =>
    rw [List.map_cons, List.mapM_cons, List.mapM_cons, h, ih]
    simp only [map_bind_eq, bind_map_eq]
    rfl

theorem foldlM_map_eq {f : β → α → Except ε β} {change : α → α} {changed : β → β}
    (h : ∀ b a, f (changed b) (change a) = (f b a).map changed) (l : List α) (b : β) :
    (l.map change).foldlM f (changed b) = (l.foldlM f b).map changed := by
  induction l generalizing b with
  | nil => rfl
  | cons a l ih =>
    rw [List.map_cons, List.foldlM_cons, List.foldlM_cons, h, map_bind_eq, bind_map_eq]
    exact congrArg (f b a >>= ·) (funext ih)

end NativeStubs
