set_option autoImplicit false

/-! # Random sources

A random source has a state. From it come fractions (scalars, meant to lie from zero up to one) and
integers below a bound. Everything that samples takes the source as a parameter and returns the
state after its draws.
-/

namespace Ricochet

/-- How a state of type `σ` yields fractions and bounded integers. -/
structure Source (σ α : Type) where
  /-- Draws a fraction. -/
  fraction : σ → α × σ
  /-- Draws an integer meant to lie from zero up to the bound. -/
  below : Nat → σ → Int × σ

/-- A draw together with the rest of the state. -/
abbrev Draw (σ β : Type) : Type := StateM σ β

/-- What a draw that may fail gives, with the state after it. Of a failure only the error is
kept. -/
def Draw.kept {σ ε β : Type} (d : Draw σ (Except ε β)) (s : σ) : Except ε (β × σ) :=
  match d.run s with
  | (.ok b, s') => .ok (b, s')
  | (.error e, _) => .error e

theorem Draw.kept_eq_ok_iff {σ ε β : Type} {d : Draw σ (Except ε β)} {s s' : σ} {b : β} :
    d.kept s = .ok (b, s') ↔ (d.run s).1 = .ok b ∧ (d.run s).2 = s' := by
  unfold Draw.kept
  rcases d.run s with ⟨_ | _, _⟩ <;> simp

theorem Draw.kept_eq_error_iff {σ ε β : Type} {d : Draw σ (Except ε β)} {s : σ} {e : ε} :
    d.kept s = .error e ↔ (d.run s).1 = .error e := by
  unfold Draw.kept
  rcases d.run s with ⟨_ | _, _⟩ <;> simp

namespace Source

variable {σ α : Type}

/-- Draws a fraction. -/
def drawFraction (src : Source σ α) : Draw σ α := src.fraction

/-- Draws an integer below a bound. -/
def drawBelow (src : Source σ α) (n : Nat) : Draw σ Int := src.below n

end Source

end Ricochet
