import Ricochet.Settings.Basic

set_option autoImplicit false

/-! # Speed presets

A preset has a name and scales every velocity in the settings by a factor.
-/

namespace Ricochet

/-- A named playback speed. -/
inductive Preset where
  | slow
  | normal
  | fast
  deriving DecidableEq, Repr

/-- A preset name that is not known. -/
structure PresetError where
  name : List UInt8
  deriving DecidableEq, Repr

/-- The message of an unknown preset name. -/
def PresetError.message (e : PresetError) : String :=
  "unknown speed preset " ++ Text.quoteBytes e.name ++ " (want slow, normal or fast)"

namespace Preset

/-- The name of a preset. -/
def name : Preset → String
  | .slow => "slow"
  | .normal => "normal"
  | .fast => "fast"

/-- The preset of a name; a name that is not known counts as normal. -/
def ofName (name : String) : Preset :=
  if name = "slow" then .slow else if name = "fast" then .fast else .normal

/-- Reads a preset name. The empty name means normal. -/
def parse (name : List UInt8) : Except PresetError Preset :=
  if name = [] ∨ name = Utf8.bytes "normal" then .ok .normal
  else if name = Utf8.bytes "slow" then .ok .slow
  else if name = Utf8.bytes "fast" then .ok .fast
  else .error ⟨name⟩

variable {α : Type} [Scalar α]

/-- The factor that velocities are scaled by. -/
def multiplier : Preset → α
  | .slow => Scalar.half
  | .normal => Scalar.ofInt 1
  | .fast => Scalar.ofInt 2

/-- A ball description with its velocity scaled. -/
def scaleSpec (m : α) (b : BallSpec α) : BallSpec α := { b with vx := b.vx * m, vy := b.vy * m }

/-- Settings with every velocity scaled. -/
def scale (m : α) (c : Settings α) : Settings α :=
  { c with
    minSpeed := c.minSpeed * m
    maxSpeed := c.maxSpeed * m
    initial := c.initial.map (·.map (scaleSpec m)) }

/-- Settings under a preset. The normal preset leaves them as they are. -/
def apply (p : Preset) (c : Settings α) : Settings α :=
  match p with
  | .normal => c
  | p => scale p.multiplier c

end Preset

namespace Settings

variable {α : Type} [Scalar α]

theorem specs_scale (m : α) (c : Settings α) :
    (Preset.scale m c).specs = c.specs.map (Preset.scaleSpec m) := by
  unfold specs Preset.scale
  cases c.initial with
  | none => rfl
  | some bs => rfl

theorem explicit_scale (m : α) (c : Settings α) : (Preset.scale m c).explicit = c.explicit := by
  unfold explicit
  rw [specs_scale, List.isEmpty_map]

/-- A preset does not change how the field is described. -/
theorem explicit_apply (p : Preset) (c : Settings α) : (p.apply c).explicit = c.explicit := by
  cases p with
  | normal => rfl
  | _ => exact explicit_scale _ c

/-- A preset does not change the pause. -/
theorem pauseMs_apply (p : Preset) (c : Settings α) : (p.apply c).pauseMs = c.pauseMs := by
  cases p <;> rfl

end Settings

end Ricochet
