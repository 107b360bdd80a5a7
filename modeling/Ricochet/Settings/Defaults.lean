import Ricochet.Settings.Document

set_option autoImplicit false

/-! # Settings that come with the program

Each demo has a settings file built in. The same settings are also given as values, for the case
that the built-in text could not be read.
-/

namespace Ricochet.Settings

/-- The built-in file of the field of many balls. -/
def ballsText : String :=
  "# Twenty randomly placed balls in a 400x600 box.\n" ++
  "domain:\n" ++
  "  width: 400\n" ++
  "  height: 600\n" ++
  "\n" ++
  "balls:\n" ++
  "  count: 20\n" ++
  "  min_radius: 5\n" ++
  "  max_radius: 10\n" ++
  "  min_speed: 2\n" ++
  "  max_speed: 10\n" ++
  "\n" ++
  "timing:\n" ++
  "  pause_ms: 15\n"

/-- The built-in file of the single ball. -/
def ballText : String :=
  "# A single orange ball in a 1200x1600 box.\n" ++
  "domain:\n" ++
  "  width: 1200\n" ++
  "  height: 1600\n" ++
  "\n" ++
  "timing:\n" ++
  "  pause_ms: 95\n" ++
  "\n" ++
  "initial:\n" ++
  "  - x: 400\n" ++
  "    y: 900\n" ++
  "    vx: 20\n" ++
  "    vy: 30\n" ++
  "    radius: 25\n" ++
  "    color: \"#f58025\"\n"

/-- The built-in file of a demo. -/
def defaultText? (id : String) : Option String :=
  if id = "balls" then some ballsText else if id = "ball" then some ballText else none

/-- The settings of the field of many balls. -/
def balls : Settings Float :=
  { width := 400, height := 600, count := 20, minRadius := 5, maxRadius := 10, minSpeed := 2,
    maxSpeed := 10, pauseMs := 15, initial := none }

/-- The settings of the single ball. -/
def ball : Settings Float :=
  { zero with
    width := 1200
    height := 1600
    pauseMs := 95
    initial := some [
      { x := 400, y := 900, vx := 20, vy := 30, radius := 25, color := Utf8.bytes "#f58025" }] }

/-- The settings of a demo as a value. -/
def default? (id : String) : Option (Settings Float) :=
  if id = "balls" then some balls else if id = "ball" then some ball else none

end Ricochet.Settings
