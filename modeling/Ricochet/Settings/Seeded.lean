import Ricochet.Random.Lagged
import Ricochet.Settings.Preset
import Ricochet.Settings.Search

set_option autoImplicit false

/-! # From files to a field

A demo is prepared in three steps: its settings are loaded, a preset is applied to them, and the
field is built with a random source started from a seed.
-/

namespace Ricochet

/-- What the preparation of a demo looks at. -/
structure Surroundings where
  files : Files
  /-- The settings file chosen by the user, or the empty text. -/
  configPath : String
  preset : Preset

/-- Why a demo could not be prepared. -/
inductive PrepareError where
  | load (error : LoadError Yaml.Error)
  | build (error : SettingsError Float)
  deriving DecidableEq, Repr

namespace Settings

/-- The field of settings with a source started from a seed. -/
def buildSeeded (c : Settings Float) (seed : Int) : Except (SettingsError Float) (Field Float) :=
  (c.build (some Lagged.source) (Lagged.ofSeed seed)).map Prod.fst

/-- Checks settings by building their field from a fixed seed. -/
def check (c : Settings Float) : Except (SettingsError Float) Unit :=
  c.validate Lagged.source (Lagged.ofSeed 1)

end Settings

/-- Whether the preparation of a demo cannot be carried to an end, be it success or failure: the
reader of settings breaks down, or the field does not fit into memory. -/
def Surroundings.defeats (world : Surroundings) (id : String) : Bool :=
  match Settings.load world.files id world.configPath with
  | .ok loaded => (world.preset.apply loaded).exhaustsMemory
  | .error (.malformed _ .breakdown) => true
  | .error _ => false

/-- The settings of a demo under the chosen preset, and the field built from them. -/
def prepare (world : Surroundings) (id : String) (seed : Int) :
    Except PrepareError (Settings Float × Field Float) :=
  match Settings.load world.files id world.configPath with
  | .error e => .error (.load e)
  | .ok loaded =>
      let settings := world.preset.apply loaded
      match settings.buildSeeded seed with
      | .error e => .error (.build e)
      | .ok field => .ok (settings, field)

end Ricochet
