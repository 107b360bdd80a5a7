import Ricochet.Field.Basic
import Ricochet.Random.Source

set_option autoImplicit false

/-! # Random fields

`Field.sample` fills a domain with balls drawn from a random source. Each ball takes its draws in a
fixed order (radius, position, velocity, colour) before the next ball starts, so the first balls of
a field do not depend on how many follow.
-/

namespace Ricochet

variable {σ α : Type}

/-- What a random field is drawn from. Radii and speeds are drawn from the least up to, and
without, the greatest. -/
structure Params (α : Type) where
  domain : Domain α
  count : Int
  radiusMin : α
  radiusMax : α
  speedMin : α
  speedMax : α
  deriving DecidableEq, Repr

namespace Params

variable [Scalar α]

/-- The first reason why the bounds are not usable, if there is one. Each test is written so that
NaN fails it. -/
def fault? (p : Params α) : Option (FieldError α) :=
  if p.count < 0 then some (.negativeCount p.count)
  else if ¬ Scalar.zero < p.radiusMin then some (.minRadius p.radiusMin)
  else if ¬ p.radiusMin < p.radiusMax then some (.maxRadius p.radiusMax p.radiusMin)
  else if ¬ Scalar.ofInt 2 * p.radiusMax < p.domain.width then
    some (.width p.domain.width p.radiusMax)
  else if ¬ Scalar.ofInt 2 * p.radiusMax < p.domain.height then
    some (.height p.domain.height p.radiusMax)
  else if ¬ p.speedMin ≤ p.speedMax ∨ Scalar.isInfinite p.speedMax
      ∨ Scalar.isInfinite p.speedMin then
    some (.speedBounds p.speedMin p.speedMax)
  else none

/-- Checks the bounds. -/
def validate (p : Params α) : Except (FieldError α) Unit :=
  match p.fault? with
  | some e => .error e
  | none => .ok ()

/-- Whether the balls of a field can be held in memory: each takes 56 of at most `2^48` bytes. -/
def fitsMemory (p : Params α) : Bool := decide (56 * p.count ≤ Nat.pow 2 48)

/-- Whether the bounds are usable and yet ask for more balls than memory can hold. -/
def exhaustsMemory (p : Params α) : Bool := p.fault?.isNone && !p.fitsMemory

end Params

/-- How many values a colour channel is drawn from. -/
def colorLevels : Nat := 255

/-- A drawn integer as a colour channel. -/
def channelOfInt (n : Int) : UInt8 := (n % 256).toNat.toUInt8

namespace Field

variable [Scalar α]

/-- Draws a scalar from `lo` up to `hi`. -/
def uniform (src : Source σ α) (lo hi : α) : Draw σ α := do
  let t ← src.drawFraction
  return lo + t * (hi - lo)

/-- Draws the ball numbered `i`. -/
def sampleBall (src : Source σ α) (p : Params α) (i : Nat) : Draw σ (Ball α) := do
  let r ← uniform src p.radiusMin p.radiusMax
  let x ← uniform src r (p.domain.width - r)
  let y ← uniform src r (p.domain.height - r)
  let vx ← uniform src p.speedMin p.speedMax
  let vy ← uniform src p.speedMin p.speedMax
  let red ← src.drawBelow colorLevels
  let green ← src.drawBelow colorLevels
  let blue ← src.drawBelow colorLevels
  return {
    id := i
    x := ⟨x, vx⟩
    y := ⟨y, vy⟩
    radius := r
    color := Color.rgb (channelOfInt red) (channelOfInt green) (channelOfInt blue) }

/-- Draws `count` balls, numbered from `i` on. -/
def sampleBalls (src : Source σ α) (p : Params α) : Nat → Nat → Draw σ (List (Ball α))
  | _, 0 => return []
  | i, count + 1 => do
      let b ← sampleBall src p i
      let bs ← sampleBalls src p (i + 1) count
      return b :: bs

/-- Draws the random field of the given bounds. Bad bounds are reported before anything is drawn. -/
def sampling (src : Source σ α) (p : Params α) : Draw σ (Except (FieldError α) (Field α)) :=
  match p.fault? with
  | some e => return .error e
  | none => do
      let balls ← sampleBalls src p 0 p.count.toNat
      return .ok { domain := p.domain, balls := balls, tick := 0 }

/-- Bad bounds leave the source as it was. -/
theorem run_sampling_of_fault (src : Source σ α) {p : Params α} {e : FieldError α}
    (h : p.fault? = some e) (s : σ) : (sampling src p).run s = (.error e, s) := by
  unfold sampling
  rw [h]
  rfl

/-- Other bounds give their balls, and the state that the draws of the balls leave. -/
theorem run_sampling_of_no_fault (src : Source σ α) {p : Params α} (h : p.fault? = none) (s : σ) :
    (sampling src p).run s =
      (.ok ⟨p.domain, ((sampleBalls src p 0 p.count.toNat).run s).1, 0⟩,
        ((sampleBalls src p 0 p.count.toNat).run s).2) := by
  unfold sampling
  rw [h]
  rfl

/-- The random field of the given bounds, with the state of the source after the draws. -/
def sample (src : Source σ α) (p : Params α) (s : σ) : Except (FieldError α) (Field α × σ) :=
  (sampling src p).kept s

end Field

end Ricochet
