import Mathlib.Data.List.Induction
import Ricochet.Proofs.DemoHistory
import Ricochet.Proofs.Independence

set_option autoImplicit false

/-! # One check for every seed

Settings are checked by building their field from one fixed seed, and fields are then built from any
other. That is sound because nothing that is drawn can make building fail: the bounds of a random
field are tested before the first draw, and balls placed by hand need no draws at all. So what is
wrong with settings can be said without a source (`Settings.flaw?`), and every way to build or to
check a field comes to that (`Settings.run_building_of_flaw`, `Settings.validate_eq_ok_iff`).

The check of settings also looks at their pause. Resetting a demo does not check settings but builds
their field, and so it looks at everything but the pause.

* `Settings.validation_agrees_with_building`: building from any two sources, and the check.
* `BallKind.reset_checks_all_but_pause`: what a demo that was reset knows of its settings.
* `BallKind.negative_pause_is_run`: a demo that runs settings which the check refuses.
-/

namespace Ricochet

variable {σ τ α : Type}

namespace Settings

/-! ## What is wrong with settings -/

section

variable [Scalar α] {c : Settings α} {e : SettingsError α}

/-- The reason why no field can be built from the settings with a source, if there is one. -/
def flaw? (c : Settings α) : Option (SettingsError α) :=
  if c.explicit then
    match c.placed with
    | .error e => some e
    | .ok _ => none
  else c.params.fault?.map .field

theorem flaw?_explicit_eq_some_iff (h : c.explicit = true) :
    c.flaw? = some e ↔ c.placed = .error e := by
  unfold flaw?
  rw [if_pos h]
  cases c.placed with
  | error e' => simp
  | ok f => simp

theorem flaw?_random (h : c.explicit = false) : c.flaw? = c.params.fault?.map .field := by
  unfold flaw?
  rw [h]
  rfl

/-- Settings with a flaw report it from any source, and leave the source as it was. -/
theorem run_building_of_flaw (h : c.flaw? = some e) (src : Source σ α) (s : σ) :
    (c.building (some src)).run s = (.error e, s) := by
  by_cases hexplicit : c.explicit = true
  · rw [run_building_explicit hexplicit, (flaw?_explicit_eq_some_iff hexplicit).mp h]
  · have hrandom : c.explicit = false := Bool.eq_false_of_not_eq_true hexplicit
    rw [flaw?_random hrandom] at h
    obtain ⟨fault, hfault, rfl⟩ := Option.map_eq_some_iff.mp h
    rw [run_building_random hrandom, Field.run_sampling_of_fault src hfault]
    rfl

/-- Settings without a flaw build from any source. -/
theorem exists_building_of_no_flaw (h : c.flaw? = none) (src : Source σ α) (s : σ) :
    ∃ f, ((c.building (some src)).run s).1 = .ok f := by
  by_cases hexplicit : c.explicit = true
  · rw [run_building_explicit hexplicit]
    cases hplaced : c.placed with
    | error e =>
        rw [(flaw?_explicit_eq_some_iff hexplicit).mpr hplaced] at h
        cases h
    | ok f => exact ⟨f, rfl⟩
  · have hrandom : c.explicit = false := Bool.eq_false_of_not_eq_true hexplicit
    rw [flaw?_random hrandom, Option.map_eq_none_iff] at h
    rw [run_building_random hrandom, Field.run_sampling_of_no_fault src h]
    exact ⟨_, rfl⟩

theorem building_eq_error_iff {src : Source σ α} {s : σ} :
    ((c.building (some src)).run s).1 = .error e ↔ c.flaw? = some e := by
  cases hflaw : c.flaw? with
  | some e' => simp [run_building_of_flaw hflaw]
  | none =>
      obtain ⟨f, hf⟩ := exists_building_of_no_flaw hflaw src s
      simp [hf]

theorem exists_building_eq_ok_iff {src : Source σ α} {s : σ} :
    (∃ f, ((c.building (some src)).run s).1 = .ok f) ↔ c.flaw? = none := by
  cases hflaw : c.flaw? with
  | some e => simp [run_building_of_flaw hflaw]
  | none => simp [exists_building_of_no_flaw hflaw src s]

/-! ## Checking settings -/

theorem validate_of_pause_neg (h : c.pauseMs < 0) (src : Source σ α) (s : σ) :
    c.validate src s = .error (.pause c.pauseMs) := by
  unfold validate
  rw [if_pos h]

theorem validate_of_flaw (hpause : 0 ≤ c.pauseMs) (h : c.flaw? = some e) (src : Source σ α)
    (s : σ) :
    c.validate src s = .error e := by
  have hbuild : c.build (some src) s = .error e :=
    Draw.kept_eq_error_iff.mpr (building_eq_error_iff.mpr h)
  unfold validate
  rw [if_neg (Int.not_lt.mpr hpause), hbuild]

theorem validate_of_no_flaw (hpause : 0 ≤ c.pauseMs) (h : c.flaw? = none) (src : Source σ α)
    (s : σ) :
    c.validate src s = .ok () := by
  obtain ⟨f, hf⟩ := exists_building_of_no_flaw h src s
  have hbuild : c.build (some src) s = .ok (f, ((c.building (some src)).run s).2) :=
    Draw.kept_eq_ok_iff.mpr ⟨hf, rfl⟩
  unfold validate
  rw [if_neg (Int.not_lt.mpr hpause), hbuild]

/-- The check passes if the pause is not negative and the settings have no flaw, whatever the source
that it builds from. -/
theorem validate_eq_ok_iff {src : Source σ α} {s : σ} :
    c.validate src s = .ok () ↔ 0 ≤ c.pauseMs ∧ c.flaw? = none := by
  by_cases hpause : c.pauseMs < 0
  · rw [validate_of_pause_neg hpause]
    constructor
    · intro h
      cases h
    · rintro ⟨hnonneg, -⟩
      omega
  · have hnonneg : 0 ≤ c.pauseMs := Int.not_lt.mp hpause
    cases hflaw : c.flaw? with
    | some e => simp [validate_of_flaw hnonneg hflaw]
    | none => simp [validate_of_no_flaw hnonneg hflaw, hnonneg]

/-! ## Settings that need no source -/

/-- Balls placed by hand make the same field, or fail for the same reason, with any source and with
none. -/
theorem building_explicit_congr (h : c.explicit = true) (src : Option (Source σ α))
    (other : Option (Source τ α)) (s : σ) (t : τ) :
    ((c.building src).run s).1 = ((c.building other).run t).1 := by
  rw [run_building_explicit h, run_building_explicit h]

end

/-! ## Fields from seeds -/

/-- A field from a seed is what building from the generator of that seed gives. -/
theorem buildSeeded_eq (c : Settings Float) (seed : Int) :
    c.buildSeeded seed = ((c.building (some Lagged.source)).run (Lagged.ofSeed seed)).1 := by
  unfold buildSeeded build Draw.kept
  rcases (c.building (some Lagged.source)).run (Lagged.ofSeed seed) with ⟨_ | _, _⟩ <;> rfl

theorem exists_buildSeeded_eq_ok_iff {c : Settings Float} {seed : Int} :
    (∃ f, c.buildSeeded seed = .ok f) ↔ c.flaw? = none := by
  rw [buildSeeded_eq, exists_building_eq_ok_iff]

/-- A demo of balls placed by hand starts the same way from every seed. -/
theorem reset_explicit_congr {kind : BallKind} {world : Surroundings} {loaded : Settings Float}
    (hload : load world.files kind.id world.configPath = .ok loaded) (h : loaded.explicit = true)
    (seed seed' : Int) (b : BallShow Float) :
    b.reset kind world seed = b.reset kind world seed' := by
  have hexplicit : (world.preset.apply loaded).explicit = true := (explicit_apply _ _).trans h
  unfold BallShow.reset prepare
  rw [hload]
  simp only [buildSeeded_eq, run_building_explicit hexplicit]

/-- **Validation agrees with building, for every seed.** Let the pause of settings not be negative.
Then a field can be built from one source if and only if it can be built from any other, and if and
only if the check of the settings passes, which builds from one fixed seed. When it cannot be built,
both sources and the check give the same error, and the source is left as it was: nothing was drawn.

From settings that list balls, the same field or the same error comes from any source and from none,
and nothing is drawn; a demo that loads such settings starts the same way from every seed. Settings
that list no balls are refused without a source, as impossible. -/
theorem validation_agrees_with_building :
    (∀ c : Settings Float, 0 ≤ c.pauseMs →
      ∀ (σ τ : Type) (src : Source σ Float) (other : Source τ Float) (s : σ) (t : τ),
        ((∃ f, ((c.building (some src)).run s).1 = .ok f)
          ↔ ∃ f, ((c.building (some other)).run t).1 = .ok f)
        ∧ ((∃ f, ((c.building (some src)).run s).1 = .ok f) ↔ c.check = .ok ())
        ∧ ∀ e, ((c.building (some src)).run s).1 = .error e →
          ((c.building (some other)).run t).1 = .error e ∧ c.check = .error e
          ∧ ((c.building (some src)).run s).2 = s)
    ∧ (∀ c : Settings Float, c.specs ≠ [] →
      ∀ (σ τ : Type) (src : Option (Source σ Float)) (other : Option (Source τ Float)) (s : σ)
        (t : τ),
        ((c.building src).run s).1 = ((c.building other).run t).1 ∧ ((c.building src).run s).2 = s)
    ∧ (∀ (kind : BallKind) (world : Surroundings) (loaded : Settings Float),
      load world.files kind.id world.configPath = .ok loaded → loaded.specs ≠ [] →
        ∀ seed seed' (b : BallShow Float), b.reset kind world seed = b.reset kind world seed')
    ∧ ∀ c : Settings Float, c.specs = [] → ∀ (σ : Type) (s : σ),
        ∃ e, ((c.building (none : Option (Source σ Float))).run s).1 = .error e
          ∧ e.isInvalid = true := by
  refine ⟨fun c hpause σ τ src other s t => ⟨?_, ?_, fun e he => ?_⟩,
    fun c hlist σ τ src other s t => ⟨?_, ?_⟩, fun kind world loaded hload hlist => ?_,
    fun c hlist σ s => ?_⟩
  · rw [exists_building_eq_ok_iff, exists_building_eq_ok_iff]
  · rw [exists_building_eq_ok_iff, check, validate_eq_ok_iff, and_iff_right hpause]
  · have hflaw : c.flaw? = some e := building_eq_error_iff.mp he
    rw [run_building_of_flaw hflaw, run_building_of_flaw hflaw]
    exact ⟨rfl, validate_of_flaw hpause hflaw _ _, rfl⟩
  · exact building_explicit_congr (explicit_eq_true_iff.mpr hlist) src other s t
  · rw [run_building_explicit (explicit_eq_true_iff.mpr hlist)]
  · exact reset_explicit_congr hload (explicit_eq_true_iff.mpr hlist)
  · have hrandom : c.explicit = false := by
      rw [← Bool.not_eq_true, explicit_eq_true_iff, not_not]
      exact hlist
    rw [run_building_no_source hrandom]
    exact ⟨_, rfl, rfl⟩

/-- Surroundings with one settings file, which is the chosen one. -/
def fileWorld (text : String) : Surroundings :=
  { files := { entries := [(["f"], .file text)], workDir := [], home := none }
    configPath := "f"
    preset := .normal }

/-- Surroundings with a settings file that asks for a pause of minus five milliseconds. -/
def hastyWorld : Surroundings :=
  fileWorld ("domain: \x7bwidth: 9, height: 9\x7d\n" ++ "timing: \x7bpause_ms: -5\x7d\n"
    ++ "initial: [\x7bx: 5, y: 5, vx: 1, radius: 1\x7d]")

/-- What that file says. -/
def hasty : Settings Float :=
  { zero with
    width := 9
    height := 9
    pauseMs := -5
    initial := some [{ BallSpec.zero with x := 5, y := 5, vx := 1, radius := 1 }] }

theorem load_hastyWorld :
    load hastyWorld.files BallKind.single.id hastyWorld.configPath = .ok hasty := by
  decide +kernel

/-- The settings of many balls, with no radius to choose from. -/
def cramped : Settings Float := { balls with maxRadius := 5 }

/-- Cramped settings fail alike from replayed draws, none of which is used, and in the check. The
built-in settings of many balls build from a replay, and so they pass the check and build from the
generator. Those of one ball build without a source as they do with one. A demo of one ball starts
the same way from two seeds. -/
theorem validation_agrees_with_building_cramped :
    (((cramped.building (some Replay.source)).run Field.pairDraws).1
        = .error (.field (.maxRadius 5 5))
      ∧ ((cramped.building (some Replay.source)).run Field.pairDraws).2.recordText = ""
      ∧ cramped.check = .error (.field (.maxRadius 5 5)))
    ∧ (balls.check = .ok ()
      ∧ ∃ f, ((balls.building (some Lagged.source)).run (Lagged.ofSeed 7)).1 = .ok f)
    ∧ ((ball.building (none : Option (Source Unit Float))).run ()).1
      = ((ball.building (some Replay.source)).run Field.pairDraws).1
    ∧ BallShow.fresh.reset .single hastyWorld 1 = BallShow.fresh.reset .single hastyWorld 2
    ∧ ∃ e, ((balls.building (none : Option (Source Unit Float))).run ()).1 = .error e
      ∧ e.isInvalid = true := by
  obtain ⟨hagree, hplaced, hdemo, hnone⟩ := validation_agrees_with_building
  refine ⟨?_, ?_, ?_, ?_, hnone balls rfl Unit ()⟩
  · have hbuilding : ((cramped.building (some Replay.source)).run Field.pairDraws).1
        = .error (.field (.maxRadius 5 5)) := building_eq_error_iff.mpr (by decide +kernel)
    obtain ⟨-, -, hfail⟩ := hagree cramped (by decide) _ _ Replay.source Lagged.source
      Field.pairDraws (Lagged.ofSeed 7)
    obtain ⟨-, hcheck, hstate⟩ := hfail _ hbuilding
    refine ⟨hbuilding, ?_, hcheck⟩
    rw [hstate]
    rfl
  · have hbuilding : ∃ f, ((balls.building (some Replay.source)).run Field.pairDraws).1 = .ok f :=
      exists_building_eq_ok_iff.mpr (by decide +kernel)
    obtain ⟨hother, hcheck, -⟩ := hagree balls (by decide) _ _ Replay.source Lagged.source
      Field.pairDraws (Lagged.ofSeed 7)
    exact ⟨hcheck.mp hbuilding, hother.mp hbuilding⟩
  · exact (hplaced ball (by decide) _ _ none (some Replay.source) () Field.pairDraws).1
  · exact hdemo .single hastyWorld hasty load_hastyWorld (by decide) 1 2 _

end Settings

/-! ## Settings that a demo runs -/

namespace BallKind

variable (kind : BallKind)

/-- A demo can be reset if its settings load and have no flaw. -/
theorem reset_succeeds_iff {world : Surroundings} {options : RunOptions} {b : BallShow Float} :
    (kind.demo.reset world options b).1 = none ↔
      ∃ loaded, Settings.load world.files kind.id world.configPath = .ok loaded
        ∧ (world.preset.apply loaded).flaw? = none := by
  constructor
  · intro h
    have hreset : b.reset kind world options.seed = (none, _) := Prod.ext h rfl
    obtain ⟨loaded, f, hload, hbuild, -⟩ := BallShow.reset_eq_none.mp hreset
    exact ⟨loaded, hload, Settings.exists_buildSeeded_eq_ok_iff.mp ⟨f, hbuild⟩⟩
  · rintro ⟨loaded, hload, hflaw⟩
    obtain ⟨f, hbuild⟩ := Settings.exists_buildSeeded_eq_ok_iff.mpr hflaw
    exact congrArg Prod.fst (BallShow.reset_eq_none.mpr ⟨loaded, f, hload, hbuild, rfl⟩)

/-- Once a reset has succeeded, the settings in use have no flaw, whatever happens later. -/
theorem flaw?_shown (calls : List (Demo.Call Surroundings))
    (h : ∃ e ∈ kind.events calls, e.started = true) :
    (kind.shown calls).settings.flaw? = none := by
  induction calls using List.reverseRecOn with
  | nil =>
      obtain ⟨e, he, -⟩ := h
      cases he
  | append_singleton calls c ih =>
      have hevents : kind.events (calls ++ [c])
          = kind.events calls ++ [kind.demo.event (kind.shown calls) c] :=
        kind.demo.history_concat _ calls c
      have hshown : kind.shown (calls ++ [c]) = (kind.demo.event (kind.shown calls) c).after :=
        kind.demo.after_concat _ calls c
      rw [hevents] at h
      rw [hshown]
      cases hlast : (kind.demo.event (kind.shown calls) c).started with
      | true =>
          -- The last call is a reset that succeeded, so its settings are those it has built from.
          obtain ⟨world, options, b, hreset, hevent⟩ := kind.demo.event_of_started hlast
          obtain ⟨loaded, f, -, hbuild, rfl⟩ := BallShow.reset_eq_none.mp hreset
          rw [hevent]
          exact Settings.exists_buildSeeded_eq_ok_iff.mp ⟨f, hbuild⟩
      | false =>
          -- Any other call keeps the settings, and the reset that succeeded came before it.
          rw [kind.after_event_of_not_started _ c hlast]
          apply ih
          obtain ⟨e, he, hstarted⟩ := h
          rcases List.mem_append.mp he with he | he
          · exact ⟨e, he, hstarted⟩
          · rw [List.mem_singleton.mp he, hlast] at hstarted
            cases hstarted

/-- **A demo looks at all of its settings but the pause.** Whatever the files, the chosen path, the
preset, the seed and the state it is in, a demo can be reset if and only if its settings load and,
under the preset, would pass the check if their pause were zero. For settings that load with a pause
that is not negative, this is the check itself.

After any calls among which a reset succeeded, the settings in use pass the check unless their pause
is negative; then the check refuses them, for their pause. -/
theorem reset_checks_all_but_pause :
    (∀ (world : Surroundings) (options : RunOptions) (b : BallShow Float),
      ((kind.demo.reset world options b).1 = none ↔
        ∃ loaded, Settings.load world.files kind.id world.configPath = .ok loaded
          ∧ Settings.check { world.preset.apply loaded with pauseMs := 0 } = .ok ())
      ∧ ∀ loaded, Settings.load world.files kind.id world.configPath = .ok loaded →
        0 ≤ loaded.pauseMs →
        ((kind.demo.reset world options b).1 = none
          ↔ (world.preset.apply loaded).check = .ok ()))
    ∧ ∀ calls, (∃ e ∈ kind.events calls, e.started = true) →
        (kind.shown calls).settings.check =
          if (kind.shown calls).settings.pauseMs < 0
          then .error (.pause (kind.shown calls).settings.pauseMs) else .ok () := by
  refine ⟨fun world options b => ⟨?_, fun loaded hload hpause => ?_⟩, fun calls hstarted => ?_⟩
  · -- What is wrong with settings does not depend on their pause.
    have hflaw : ∀ c : Settings Float, Settings.check { c with pauseMs := 0 } = .ok ()
        ↔ c.flaw? = none := by
      intro c
      rw [Settings.check, Settings.validate_eq_ok_iff]
      exact and_iff_right (Int.le_refl 0)
    simp only [hflaw, kind.reset_succeeds_iff]
  · rw [kind.reset_succeeds_iff, Settings.check, Settings.validate_eq_ok_iff,
      Settings.pauseMs_apply, and_iff_right hpause]
    constructor
    · rintro ⟨loaded', hload', hflaw⟩
      rw [hload] at hload'
      cases hload'
      exact hflaw
    · intro hflaw
      exact ⟨loaded, hload, hflaw⟩
  · by_cases hpause : (kind.shown calls).settings.pauseMs < 0
    · rw [if_pos hpause]
      exact Settings.validate_of_pause_neg hpause _ _
    · rw [if_neg hpause]
      exact Settings.validate_of_no_flaw (Int.not_lt.mp hpause) (kind.flaw?_shown calls hstarted)
        _ _

/-- The hasty file can be played. -/
theorem exists_reset_hastyWorld :
    ∃ b, single.demo.reset Settings.hastyWorld .default single.demo.fresh = (none, b)
      ∧ b.settings = Settings.hasty := by
  obtain ⟨f, hbuild⟩ : ∃ f, Settings.hasty.buildSeeded RunOptions.default.seed = .ok f :=
    Settings.exists_buildSeeded_eq_ok_iff.mpr (by decide +kernel)
  exact ⟨_, BallShow.reset_eq_none.mpr ⟨_, f, Settings.load_hastyWorld, hbuild, rfl⟩, rfl⟩

theorem events_reset {world : Surroundings} {options : RunOptions} {b : BallShow Float}
    (h : kind.demo.reset world options kind.demo.fresh = (none, b)) :
    kind.events [.reset world options] = [⟨.reset world options, .reset none, b⟩]
      ∧ kind.shown [.reset world options] = b := by
  have hevent := kind.demo.event_of_reset h
  exact ⟨congrArg (fun e => [e]) hevent, congrArg (·.after) hevent⟩

/-- The hasty file can be played, as it could be with a pause of zero, and while it is, the check
refuses the settings in use. A file that says nothing loads, and neither the check nor a reset
accepts what it says. -/
theorem reset_checks_all_but_pause_hasty :
    (single.demo.reset Settings.hastyWorld .default single.demo.fresh).1 = none
    ∧ (single.demo.reset (Settings.fileWorld "") .default single.demo.fresh).1 ≠ none
    ∧ (∃ e ∈ single.events [.reset Settings.hastyWorld .default], e.started = true)
    ∧ (single.shown [.reset Settings.hastyWorld .default]).settings.check
      = .error (.pause (-5)) := by
  obtain ⟨hreset, hrun⟩ := single.reset_checks_all_but_pause
  obtain ⟨b, hb, hsettings⟩ := exists_reset_hastyWorld
  obtain ⟨hevents, hshown⟩ := single.events_reset hb
  have hstarted : ∃ e ∈ single.events [.reset Settings.hastyWorld .default], e.started = true := by
    rw [hevents]
    exact ⟨_, List.mem_singleton_self _, rfl⟩
  refine ⟨?_, ?_, hstarted, ?_⟩
  · exact (hreset Settings.hastyWorld .default single.demo.fresh).1.mpr ⟨Settings.hasty,
      Settings.load_hastyWorld, Settings.validate_eq_ok_iff.mpr ⟨by decide, by decide +kernel⟩⟩
  · have hload : Settings.load (Settings.fileWorld "").files single.id
        (Settings.fileWorld "").configPath = .ok Settings.zero := by decide +kernel
    rw [ne_eq, (hreset (Settings.fileWorld "") .default single.demo.fresh).2 _ hload (by decide)]
    intro hcheck
    exact absurd (Settings.validate_eq_ok_iff.mp hcheck).2 (by decide +kernel)
  · rw [hrun _ hstarted, hshown, hsettings]
    rfl

/-- **A demo runs settings that their own check refuses.** -/
theorem negative_pause_is_run :
    ∃ b, single.demo.reset Settings.hastyWorld .default single.demo.fresh = (none, b)
      ∧ b.settings.check = .error (.pause (-5)) := by
  obtain ⟨b, hreset, hsettings⟩ := exists_reset_hastyWorld
  refine ⟨b, hreset, ?_⟩
  rw [hsettings]
  exact Settings.validate_of_pause_neg (by decide) _ _

end BallKind

end Ricochet
