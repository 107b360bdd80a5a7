import Ricochet.Numeric.Scalar
import Ricochet.Field.Sampling
import Ricochet.Color.Hex
import Ricochet.Time.Duration

set_option autoImplicit false

/-! # Settings of a demo

Settings describe a field in one of two ways: by bounds from which balls are drawn, or by a list of
balls. A list that is not empty wins, and the bounds are then ignored. `Settings.build` makes the
field; `Settings.validate` tells whether settings can be used.
-/

namespace Ricochet

variable {σ α : Type}

/-- A ball as written in settings. The colour is the bytes of its name; none means the terminal's
own. -/
structure BallSpec (α : Type) where
  x : α
  y : α
  vx : α
  vy : α
  radius : α
  color : List UInt8
  deriving DecidableEq, Repr

/-- The settings of a demo. -/
structure Settings (α : Type) where
  width : α
  height : α
  count : Int
  minRadius : α
  maxRadius : α
  minSpeed : α
  maxSpeed : α
  /-- Milliseconds between frames. -/
  pauseMs : Int
  /-- The balls placed by hand, if a list of them was given at all. -/
  initial : Option (List (BallSpec α))
  deriving DecidableEq, Repr

/-- Why settings cannot be used. -/
inductive SettingsError (α : Type) where
  | color (index : Nat) (error : ColorError)
  | field (error : FieldError α)
  | pause (ms : Int)
  deriving DecidableEq, Repr

namespace SettingsError

/-- The message of settings that cannot be used. -/
def message : SettingsError Float → String
  | .color i e => "initial ball " ++ Decimal.intText i ++ ": " ++ e.message
  | .field e => e.message
  | .pause ms => "timing.pause_ms " ++ Decimal.intText ms ++ " is negative" ++ FieldError.ending

/-- Whether the error says that the field itself is impossible; a bad colour does not. -/
def isInvalid : SettingsError α → Bool
  | .color .. => false
  | .field _ => true
  | .pause _ => true

end SettingsError

/-- A ball of which nothing is said. -/
def BallSpec.zero [Scalar α] : BallSpec α :=
  { x := Scalar.zero, y := Scalar.zero, vx := Scalar.zero, vy := Scalar.zero,
    radius := Scalar.zero, color := [] }

/-- The ball of a description, numbered zero. -/
def BallSpec.toBall (b : BallSpec α) (color : Color) : Ball α :=
  { id := 0, x := ⟨b.x, b.vx⟩, y := ⟨b.y, b.vy⟩, radius := b.radius, color := color }

/-- The colour of a description. -/
def BallSpec.parseColor (b : BallSpec α) : Except ColorError Color :=
  if b.color = [] then .ok Color.default else Color.parseBytes b.color

namespace Settings

/-- Settings of which nothing is said. -/
def zero [Scalar α] : Settings α :=
  { width := Scalar.zero, height := Scalar.zero, count := 0, minRadius := Scalar.zero,
    maxRadius := Scalar.zero, minSpeed := Scalar.zero, maxSpeed := Scalar.zero, pauseMs := 0,
    initial := none }

/-- The balls placed by hand. -/
def specs (c : Settings α) : List (BallSpec α) := c.initial.getD []

/-- Whether the field is made of balls placed by hand. -/
def explicit (c : Settings α) : Bool := !c.specs.isEmpty

theorem explicit_eq_true_iff {c : Settings α} : c.explicit = true ↔ c.specs ≠ [] := by
  simp [explicit]

/-- The domain of the field. -/
def domain (c : Settings α) : Domain α := ⟨c.width, c.height⟩

/-- The bounds that random balls are drawn from. -/
def params (c : Settings α) : Params α :=
  { domain := c.domain, count := c.count, radiusMin := c.minRadius, radiusMax := c.maxRadius,
    speedMin := c.minSpeed, speedMax := c.maxSpeed }

/-- The balls of descriptions numbered from `i` on; the first bad colour is reported. -/
def ballsFrom : Nat → List (BallSpec α) → Except (SettingsError α) (List (Ball α))
  | _, [] => .ok []
  | i, b :: bs => do
      let color ←
        match b.parseColor with
        | .ok c => .ok c
        | .error e => .error (.color i e)
      let rest ← ballsFrom (i + 1) bs
      return b.toBall color :: rest

/-- The balls placed by hand. -/
def initialBalls (c : Settings α) : Except (SettingsError α) (List (Ball α)) := ballsFrom 0 c.specs

theorem mapError_eq_ok_iff {ε ε' β : Type} {g : ε → ε'} {x : Except ε β} {b : β} :
    x.mapError g = .ok b ↔ x = .ok b := by
  constructor
  · intro h
    cases x with
    | error e => cases h
    | ok b' =>
        cases h
        rfl
  · rintro rfl
    rfl

theorem mapError_eq_error_iff {ε ε' β : Type} {g : ε → ε'} {x : Except ε β} {e' : ε'} :
    x.mapError g = .error e' ↔ ∃ e, x = .error e ∧ e' = g e := by
  constructor
  · intro h
    cases x with
    | error e =>
        cases h
        exact ⟨e, rfl, rfl⟩
    | ok b => cases h
  · rintro ⟨e, rfl, rfl⟩
    rfl

variable [Scalar α]

/-- The field of the balls placed by hand. -/
def placed (c : Settings α) : Except (SettingsError α) (Field α) := do
  let balls ← c.initialBalls
  (Field.ofBalls c.domain balls).mapError .field

theorem placed_eq_ok_iff {c : Settings α} {f : Field α} :
    c.placed = .ok f
      ↔ ∃ balls, c.initialBalls = .ok balls ∧ Field.ofBalls c.domain balls = .ok f := by
  unfold placed
  cases c.initialBalls with
  | error e => simp [bind, Except.bind]
  | ok balls => simp [bind, Except.bind, mapError_eq_ok_iff]

/-- The colours are read before any ball is placed. -/
theorem placed_eq_error_iff {c : Settings α} {e : SettingsError α} :
    c.placed = .error e ↔ c.initialBalls = .error e
      ∨ ∃ balls e', c.initialBalls = .ok balls ∧ Field.ofBalls c.domain balls = .error e'
        ∧ e = .field e' := by
  unfold placed
  cases c.initialBalls with
  | error e' => simp [bind, Except.bind]
  | ok balls => simp [bind, Except.bind, mapError_eq_error_iff]

/-- Builds the field of the settings. The source is used for random fields only, and only they need
one. -/
def building (c : Settings α) (src : Option (Source σ α)) :
    Draw σ (Except (SettingsError α) (Field α)) :=
  if c.explicit then return c.placed
  else
    match src with
    | none => return .error (.field .noSource)
    | some src => do
        let sampled ← Field.sampling src c.params
        return sampled.mapError .field

/-- A field of balls placed by hand takes nothing from the source. -/
theorem run_building_explicit {c : Settings α} (h : c.explicit = true) (src : Option (Source σ α))
    (s : σ) : (c.building src).run s = (c.placed, s) := by
  unfold building
  rw [if_pos h]
  rfl

theorem run_building_no_source {c : Settings α} (h : c.explicit = false) (s : σ) :
    (c.building (none : Option (Source σ α))).run s = (.error (.field .noSource), s) := by
  unfold building
  rw [h]
  rfl

theorem run_building_random {c : Settings α} (h : c.explicit = false) (src : Source σ α) (s : σ) :
    (c.building (some src)).run s =
      (((Field.sampling src c.params).run s).1.mapError .field,
        ((Field.sampling src c.params).run s).2) := by
  unfold building
  rw [h]
  rfl

/-- The field of the settings, and the state of the source after it. -/
def build (c : Settings α) (src : Option (Source σ α)) (s : σ) :
    Except (SettingsError α) (Field α × σ) :=
  (c.building src).kept s

section Build

variable {c : Settings α} {src : Option (Source σ α)} {s s' : σ} {f : Field α}

theorem build_explicit_eq_ok_iff (h : c.explicit = true) :
    c.build src s = .ok (f, s') ↔ s = s' ∧ ∃ balls, c.initialBalls = .ok balls
      ∧ Field.ofBalls c.domain balls = .ok f := by
  unfold build
  rw [Draw.kept_eq_ok_iff, run_building_explicit h, ← placed_eq_ok_iff]
  exact and_comm

theorem build_random_eq_ok_iff (h : c.explicit = false) :
    c.build src s = .ok (f, s') ↔ ∃ source, src = some source
      ∧ Field.sample source c.params s = .ok (f, s') := by
  unfold build Field.sample
  cases src with
  | none => simp [Draw.kept_eq_ok_iff, run_building_no_source h]
  | some source =>
      simp [Draw.kept_eq_ok_iff, run_building_random h, mapError_eq_ok_iff]

end Build

/-- Checks settings: the pause must not be negative and the field must build. -/
def validate (c : Settings α) (src : Source σ α) (s : σ) : Except (SettingsError α) Unit :=
  if c.pauseMs < 0 then .error (.pause c.pauseMs)
  else
    match c.build (some src) s with
    | .ok _ => .ok ()
    | .error e => .error e

/-- Whether a random field of these settings is more than memory can hold. -/
def exhaustsMemory (c : Settings α) : Bool := !c.explicit && c.params.exhaustsMemory

/-- The pause between frames in nanoseconds, as a 64-bit word. -/
def pause (c : Settings α) : Int := wrap64 (c.pauseMs * Duration.millisecond)

end Settings

end Ricochet
