import Ricochet.Settings.Basic
import Ricochet.Yaml.Decode

set_option autoImplicit false

/-! # Settings as a YAML document

The keys of a settings file and the fields they set. What a file does not mention is zero.
-/

namespace Ricochet.Settings

open Yaml Shape

/-- The section `domain`. -/
def domainShape (anchors : Anchors) : Nat → Shape (Settings Float) :=
  record anchors "config.DomainConfig" [
    field anchors "width" float (·.width) (fun c v => { c with width := v }),
    field anchors "height" float (·.height) (fun c v => { c with height := v })]

/-- The section `balls`. -/
def ballsShape (anchors : Anchors) : Nat → Shape (Settings Float) :=
  record anchors "config.FieldConfig" [
    field anchors "count" int (·.count) (fun c v => { c with count := v }),
    field anchors "min_radius" float (·.minRadius) (fun c v => { c with minRadius := v }),
    field anchors "max_radius" float (·.maxRadius) (fun c v => { c with maxRadius := v }),
    field anchors "min_speed" float (·.minSpeed) (fun c v => { c with minSpeed := v }),
    field anchors "max_speed" float (·.maxSpeed) (fun c v => { c with maxSpeed := v })]

/-- The section `timing`. -/
def timingShape (anchors : Anchors) : Nat → Shape (Settings Float) :=
  record anchors "config.TimingConfig" [
    field anchors "pause_ms" int (·.pauseMs) (fun c v => { c with pauseMs := v })]

/-- One item of the list `initial`. -/
def specShape (anchors : Anchors) : Nat → Shape (BallSpec Float) :=
  record anchors "config.BallConfig" [
    field anchors "x" float (·.x) (fun b v => { b with x := v }),
    field anchors "y" float (·.y) (fun b v => { b with y := v }),
    field anchors "vx" float (·.vx) (fun b v => { b with vx := v }),
    field anchors "vy" float (·.vy) (fun b v => { b with vy := v }),
    field anchors "radius" float (·.radius) (fun b v => { b with radius := v }),
    field anchors "color" text (·.color) (fun b v => { b with color := v })]

/-- A section whose fields are fields of the settings. -/
def sectionOf (anchors : Anchors) (name : String) (shape : Shape (Settings Float)) :
    FieldOf (Settings Float) :=
  field anchors name shape id (fun _ c => c)

/-- The whole document. -/
def documentShape (anchors : Anchors) (fuel : Nat) : Shape (Settings Float) :=
  record anchors "config.BallsConfig" [
    sectionOf anchors "domain" (domainShape anchors fuel),
    sectionOf anchors "balls" (ballsShape anchors fuel),
    sectionOf anchors "timing" (timingShape anchors fuel),
    field anchors "initial" (list anchors (specShape anchors fuel) BallSpec.zero) (·.initial)
      (fun c v => { c with initial := v })] fuel

/-- Reads settings from the text of a file. -/
def parse (text : String) : Except Yaml.Error (Settings Float) := decode documentShape zero text

end Ricochet.Settings
