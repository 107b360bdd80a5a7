import Mathlib.Algebra.Order.Ring.Rat
import Mathlib.Tactic.NormNum
import Mathlib.Tactic.Ring
import Ricochet.Numeric.Rational
import Ricochet.Settings.Preset
import Ricochet.Proofs.Independence

set_option autoImplicit false

/-! # Presets rescale velocities and nothing else

Over the rational numbers a preset multiplies the speeds of settings by a positive factor, and that
commutes with building a field: to scale the settings and build is to build and scale the velocities
(`Settings.build_scale`). Drawn velocities are affine in the speed bounds, and no draw depends on
them, so every source is left in the same state. The only check that looks at a speed is the one of
the order of the speed bounds, which a positive factor keeps.

* `Field.sample_scaled`: random fields.
* `Settings.ballsFrom_scaleSpec`, `Field.ofBalls_scaled`: fields placed by hand.
* `Preset.preset_rescales_velocities`: every preset, and presets one after the other.
-/

namespace Ricochet

variable {σ : Type} {m : Rat}

/-! ## Scaled balls and fields -/

/-- A ball with both components of its velocity multiplied. -/
def Ball.scaled (m : Rat) (b : Ball Rat) : Ball Rat :=
  { b with x := ⟨b.x.pos, b.x.vel * m⟩, y := ⟨b.y.pos, b.y.vel * m⟩ }

/-- A field with all velocities multiplied. -/
def Field.scaled (m : Rat) (f : Field Rat) : Field Rat :=
  { f with balls := f.balls.map (Ball.scaled m) }

/-- Bounds with the speeds multiplied. -/
def Params.scaled (m : Rat) (p : Params Rat) : Params Rat :=
  { p with speedMin := p.speedMin * m, speedMax := p.speedMax * m }

theorem Ball.eq_scaled_iff {b b' : Ball Rat} :
    b' = b.scaled m ↔ b'.id = b.id ∧ b'.x.pos = b.x.pos ∧ b'.y.pos = b.y.pos
      ∧ b'.radius = b.radius ∧ b'.color = b.color
      ∧ b'.x.vel = b.x.vel * m ∧ b'.y.vel = b.y.vel * m := by
  obtain ⟨id, ⟨x, vx⟩, ⟨y, vy⟩, radius, color⟩ := b
  obtain ⟨id', ⟨x', vx'⟩, ⟨y', vy'⟩, radius', color'⟩ := b'
  simp only [Ball.scaled, Ball.mk.injEq, Motion.mk.injEq]
  tauto

/-! ## Random fields -/

theorem Params.usable_scaled_iff (hm : 0 < m) (p : Params Rat) :
    (p.scaled m).Usable ↔ p.Usable := by
  have hspeeds : p.speedMin * m ≤ p.speedMax * m ↔ p.speedMin ≤ p.speedMax :=
    mul_le_mul_iff_left₀ hm
  constructor
  · intro h
    exact ⟨h.count, h.radiusMin, h.radiusMax, h.room, hspeeds.mp h.speed, rfl, rfl⟩
  · intro h
    exact ⟨h.count, h.radiusMin, h.radiusMax, h.room, hspeeds.mpr h.speed, rfl, rfl⟩

namespace Field

/-- A drawn velocity is scaled with its bounds. -/
theorem between_scaled (lo hi t m : Rat) :
    lo * m + t * (hi * m - lo * m) = (lo + t * (hi - lo)) * m := by
  ring

theorem drawnBall_scaled (m : Rat) (src : Source σ Rat) (p : Params Rat) (s : σ) (i : Nat) :
    drawnBall src (p.scaled m) s i = (drawnBall src p s i).scaled m := by
  unfold drawnBall
  rw [ball_sampleBall, ball_sampleBall, Ball.eq_scaled_iff]
  exact ⟨rfl, rfl, rfl, rfl, rfl, between_scaled _ _ _ m, between_scaled _ _ _ m⟩

/-- Drawing from scaled bounds is scaling what is drawn, from any source in any state. -/
theorem sample_scaled (hm : 0 < m) {src : Source σ Rat} {p : Params Rat} {s s' : σ}
    {g : Field Rat} :
    sample src (p.scaled m) s = .ok (g, s')
      ↔ ∃ f, sample src p s = .ok (f, s') ∧ f.scaled m = g := by
  have hscaled : ∀ h : p.Usable, sample src (p.scaled m) s =
      .ok (Field.scaled m ⟨p.domain, (List.range p.count.toNat).map (drawnBall src p s), 0⟩,
        src.afterBall^[p.count.toNat] s) := by
    intro h
    rw [sample_of_usable src ((p.usable_scaled_iff hm).mpr h)]
    show Except.ok (Field.mk p.domain ((List.range p.count.toNat).map _) 0, _) = _
    rw [Field.scaled, List.map_map, List.map_congr_left fun i _ => drawnBall_scaled m src p s i]
    rfl
  constructor
  · intro h
    have hp : p.Usable := (p.usable_scaled_iff hm).mp (usable_of_sample h)
    rw [hscaled hp] at h
    cases h
    exact ⟨_, sample_of_usable src hp s, rfl⟩
  · rintro ⟨f, h, rfl⟩
    have hp : p.Usable := usable_of_sample h
    rw [sample_of_usable src hp] at h
    cases h
    exact hscaled hp

/-! ## Fields placed by hand -/

theorem place_scaled (m : Rat) (d : Domain Rat) (i : Nat) (b : Ball Rat) :
    place d i (b.scaled m) = (place d i b).map (Ball.scaled m) := by
  have hradius : (b.scaled m).radius = b.radius := rfl
  have hinside : (b.scaled m).inside d = b.inside d := rfl
  unfold place
  rw [hradius, hinside]
  split
  · rfl
  · split
    · rfl
    · rfl

theorem placeFrom_scaled (m : Rat) (d : Domain Rat) (i : Nat) (balls : List (Ball Rat)) :
    placeFrom d i (balls.map (Ball.scaled m))
      = (placeFrom d i balls).map (List.map (Ball.scaled m)) := by
  induction balls generalizing i with
  | nil => rfl
  | cons b bs ih =>
      rw [List.map_cons, placeFrom, placeFrom, place_scaled, ih]
      cases place d i b with
      | error e => rfl
      | ok b' =>
          cases placeFrom d (i + 1) bs with
          | error e => rfl
          | ok bs' => rfl

/-- Placing balls does not look at their velocities. -/
theorem ofBalls_scaled (m : Rat) (d : Domain Rat) (balls : List (Ball Rat)) :
    ofBalls d (balls.map (Ball.scaled m)) = (ofBalls d balls).map (Field.scaled m) := by
  unfold ofBalls
  split
  · rw [placeFrom_scaled]
    cases placeFrom d 0 balls with
    | error e => rfl
    | ok placed => rfl
  · rfl

end Field

/-! ## Settings -/

namespace Settings

open Preset

theorem map_eq_ok_iff {ε α β : Type} {f : α → β} {x : Except ε α} {b : β} :
    x.map f = .ok b ↔ ∃ a, x = .ok a ∧ f a = b := by
  cases x with
  | error e => simp [Except.map]
  | ok a => simp [Except.map]

/-- Reading the descriptions of balls does not look at their velocities. -/
theorem ballsFrom_scaleSpec (m : Rat) (i : Nat) (specs : List (BallSpec Rat)) :
    ballsFrom i (specs.map (scaleSpec m)) = (ballsFrom i specs).map (List.map (Ball.scaled m)) := by
  induction specs generalizing i with
  | nil => rfl
  | cons b bs ih =>
      have hcolor : (scaleSpec m b).parseColor = b.parseColor := rfl
      rw [List.map_cons, ballsFrom, ballsFrom, hcolor, ih]
      cases b.parseColor with
      | error e => rfl
      | ok color =>
          cases ballsFrom (i + 1) bs with
          | error e => rfl
          | ok balls => rfl

/-- **Scaling commutes with building.** What is built from scaled settings is the scaled field, with
the source left in the same state, and there is a field if and only if the settings give one. -/
theorem build_scale (hm : 0 < m) {c : Settings Rat} {src : Option (Source σ Rat)} {s s' : σ}
    {g : Field Rat} :
    (scale m c).build src s = .ok (g, s')
      ↔ ∃ f, c.build src s = .ok (f, s') ∧ f.scaled m = g := by
  by_cases h : c.explicit = true
  · have hdomain : (scale m c).domain = c.domain := rfl
    have hballs : (scale m c).initialBalls = c.initialBalls.map (List.map (Ball.scaled m)) := by
      unfold initialBalls
      rw [specs_scale, ballsFrom_scaleSpec]
    simp only [build_explicit_eq_ok_iff h, build_explicit_eq_ok_iff ((explicit_scale m c).trans h),
      hdomain, hballs, map_eq_ok_iff]
    constructor
    · rintro ⟨rfl, -, ⟨balls, hread, rfl⟩, hplaced⟩
      rw [Field.ofBalls_scaled, map_eq_ok_iff] at hplaced
      obtain ⟨f, hf, rfl⟩ := hplaced
      exact ⟨f, ⟨rfl, balls, hread, hf⟩, rfl⟩
    · rintro ⟨f, ⟨rfl, balls, hread, hf⟩, rfl⟩
      refine ⟨rfl, _, ⟨balls, hread, rfl⟩, ?_⟩
      rw [Field.ofBalls_scaled, hf]
      rfl
  · have hrandom : c.explicit = false := Bool.eq_false_of_not_eq_true h
    have hparams : (scale m c).params = c.params.scaled m := rfl
    simp only [build_random_eq_ok_iff hrandom,
      build_random_eq_ok_iff ((explicit_scale m c).trans hrandom), hparams,
      Field.sample_scaled hm]
    constructor
    · rintro ⟨source, hsource, f, hf, rfl⟩
      exact ⟨f, ⟨source, hsource, hf⟩, rfl⟩
    · rintro ⟨f, ⟨source, hsource, hf⟩, rfl⟩
      exact ⟨source, hsource, f, hf, rfl⟩

/-- Settings with every speed in them set to zero. What is left is what presets must not touch. -/
def still (c : Settings Rat) : Settings Rat :=
  { c with
    minSpeed := 0
    maxSpeed := 0
    initial := c.initial.map (·.map fun b => { b with vx := 0, vy := 0 }) }

theorem still_scale (m : Rat) (c : Settings Rat) : (scale m c).still = c.still := by
  simp only [still, scale, Option.map_map, Function.comp_def, List.map_map]
  rfl

end Settings

/-! ## Presets -/

namespace Preset

theorem multiplier_ofName (name : String) : ((ofName name).multiplier : Rat)
    = if name = "slow" then 1 / 2 else if name = "fast" then 2 else 1 := by
  have hslow : (slow.multiplier : Rat) = 1 / 2 := by
    show ((1 : Int) : Rat) / ((2 : Int) : Rat) = 1 / 2
    norm_num
  unfold ofName
  split
  · exact hslow
  · split
    · rfl
    · rfl

theorem multiplier_pos (p : Preset) : (0 : Rat) < p.multiplier := by
  cases p with
  | slow =>
      show (0 : Rat) < ((1 : Int) : Rat) / ((2 : Int) : Rat)
      norm_num
  | normal => exact zero_lt_one
  | fast => exact zero_lt_two

theorem scale_one (c : Settings Rat) : scale 1 c = c := by
  have hspec : scaleSpec (1 : Rat) = id := by
    funext b
    simp only [scaleSpec, mul_one]
    rfl
  simp only [scale, mul_one, hspec, List.map_id_fun, Option.map_id_fun]
  rfl

theorem scale_scale (a b : Rat) (c : Settings Rat) : scale a (scale b c) = scale (b * a) c := by
  have hspec : scaleSpec a ∘ scaleSpec b = scaleSpec (b * a) := by
    funext d
    simp only [Function.comp_apply, scaleSpec, mul_assoc]
  simp only [scale, mul_assoc, Option.map_map, Function.comp_def, List.map_map]
  simp only [← Function.comp_def, hspec]

/-- Every preset scales by its factor; that of the normal one is 1. -/
theorem apply_eq_scale (p : Preset) (c : Settings Rat) : p.apply c = scale p.multiplier c := by
  cases p with
  | slow => rfl
  | normal => exact (scale_one c).symm
  | fast => rfl

/-- Two presets whose factors cancel leave the settings as they were. -/
theorem apply_apply {p q : Preset} (h : (p.multiplier * q.multiplier : Rat) = 1)
    (c : Settings Rat) :
    q.apply (p.apply c) = c := by
  rw [apply_eq_scale, apply_eq_scale, scale_scale, h, scale_one]

theorem still_foldl_apply (names : List String) (c : Settings Rat) :
    (names.foldl (fun c name => (ofName name).apply c) c).still = c.still := by
  induction names generalizing c with
  | nil => rfl
  | cons name names ih =>
      rw [List.foldl_cons, ih, apply_eq_scale, Settings.still_scale]

/-- A field can be built under a preset if and only if it can be built without. -/
theorem build_apply_eq_error_iff (p : Preset) {c : Settings Rat} {src : Option (Source σ Rat)}
    {s : σ} :
    (∃ e, (p.apply c).build src s = .error e) ↔ ∃ e, c.build src s = .error e := by
  rw [apply_eq_scale]
  cases hbuilt : c.build src s with
  | ok r =>
      have hscaled := (Settings.build_scale p.multiplier_pos).mpr ⟨r.1, hbuilt, rfl⟩
      simp [hscaled]
  | error e =>
      cases hscaled : (scale p.multiplier c).build src s with
      | error e' => simp
      | ok r =>
          obtain ⟨f, hf, -⟩ := (Settings.build_scale p.multiplier_pos).mp hscaled
          rw [hbuilt] at hf
          cases hf

/-- **Presets rescale velocities and nothing else.** The factor of a preset is one half, two, or one
for any other name. Whatever the settings and the source, a field can be built under a preset if and
only if it can be built without, and then the two fields have the same domain, tick and number of
balls, and the source has given the same draws; ball by ball they have the same number, position,
radius and colour, and each component of the velocity is multiplied by the factor.

Slow and fast undo each other, in either order, and in settings under any presets, one after the
other, nothing has changed but the two speed bounds and the velocities of the balls placed by
hand. -/
theorem preset_rescales_velocities :
    (∀ name, ((ofName name).multiplier : Rat)
      = if name = "slow" then 1 / 2 else if name = "fast" then 2 else 1)
    ∧ (∀ (σ : Type) (c : Settings Rat) (name : String) (src : Option (Source σ Rat)) (s : σ),
      ((∃ e, ((ofName name).apply c).build src s = .error e) ↔ ∃ e, c.build src s = .error e)
      ∧ ∀ (f g : Field Rat) (s₁ s₂ : σ), c.build src s = .ok (f, s₁) →
        ((ofName name).apply c).build src s = .ok (g, s₂) →
        g.domain = f.domain ∧ g.tick = f.tick ∧ g.balls.length = f.balls.length ∧ s₂ = s₁
        ∧ ∀ (i : Nat) (b : Ball Rat), f.balls[i]? = some b → ∃ b', g.balls[i]? = some b'
          ∧ b'.id = b.id ∧ b'.x.pos = b.x.pos ∧ b'.y.pos = b.y.pos
          ∧ b'.radius = b.radius ∧ b'.color = b.color
          ∧ b'.x.vel = b.x.vel * (ofName name).multiplier
          ∧ b'.y.vel = b.y.vel * (ofName name).multiplier)
    ∧ (∀ c : Settings Rat, fast.apply (slow.apply c) = c ∧ slow.apply (fast.apply c) = c)
    ∧ ∀ (names : List String) (c : Settings Rat),
      (names.foldl (fun c name => (ofName name).apply c) c).still = c.still := by
  have hcancel : (slow.multiplier * fast.multiplier : Rat) = 1 := by
    show ((1 : Int) : Rat) / ((2 : Int) : Rat) * ((2 : Int) : Rat) = 1
    norm_num
  refine ⟨multiplier_ofName, fun σ c name src s => ⟨build_apply_eq_error_iff _, ?_⟩,
    fun c => ⟨apply_apply hcancel c, apply_apply (by rwa [mul_comm]) c⟩, still_foldl_apply⟩
  intro f g s₁ s₂ hf hg
  rw [apply_eq_scale, Settings.build_scale (ofName name).multiplier_pos, hf] at hg
  obtain ⟨f', hf', rfl⟩ := hg
  cases hf'
  refine ⟨rfl, rfl, List.length_map _, rfl, fun i b hb => ?_⟩
  refine ⟨b.scaled (ofName name).multiplier, ?_, Ball.eq_scaled_iff.mp rfl⟩
  show (f.balls.map _)[i]? = _
  rw [List.getElem?_map, hb, Option.map_some]

/-- A source that always gives the middle and the colour channel 7, and counts its draws. -/
def middling : Source Nat Rat where
  fraction n := (1 / 2, n + 1)
  below _ n := (7, n + 1)

/-- Settings for two random balls, in a box of 20 by 10. -/
def pairSettings : Settings Rat :=
  { width := 20, height := 10, count := 2, minRadius := 1, maxRadius := 2, minSpeed := -1,
    maxSpeed := 4, pauseMs := 30, initial := none }

/-- Settings for one ball placed by hand, in the same box. -/
def placedSettings : Settings Rat :=
  { pairSettings with
    initial := some [{ x := 3, y := 4, vx := -1, vy := 5, radius := 2, color := [] }] }

/-- Two balls drawn under the fast preset, and one ball placed by hand under the slow one. -/
theorem preset_rescales_velocities_pair :
    (∃ f g, pairSettings.build (some middling) 0 = .ok (f, 16)
      ∧ (fast.apply pairSettings).build (some middling) 0 = .ok (g, 16)
      ∧ g.balls.length = 2 ∧ ∃ b b', f.balls[1]? = some b ∧ g.balls[1]? = some b'
        ∧ b'.x.pos = b.x.pos ∧ b.x.vel = 3 / 2 ∧ b'.x.vel = 3)
    ∧ ∃ f g, placedSettings.build (none : Option (Source Nat Rat)) 0 = .ok (f, 0)
      ∧ (slow.apply placedSettings).build (none : Option (Source Nat Rat)) 0 = .ok (g, 0)
      ∧ ∃ b b', f.balls[0]? = some b ∧ g.balls[0]? = some b' ∧ b.y.vel = 5 ∧ b'.y.vel = 5 / 2 := by
  obtain ⟨-, hbuild, -⟩ := preset_rescales_velocities
  constructor
  · have husable : pairSettings.params.Usable := Params.usable_of_fault? (by decide +kernel)
    have hf : pairSettings.build (some middling) 0 = .ok (_, 16) :=
      (Settings.build_random_eq_ok_iff rfl).mpr ⟨_, rfl, Field.sample_of_usable middling husable 0⟩
    have hg : ((ofName "fast").apply pairSettings).build (some middling) 0 = .ok (_, 16) :=
      (Settings.build_scale fast.multiplier_pos).mpr ⟨_, hf, rfl⟩
    obtain ⟨-, -, hlength, -, hballs⟩ := (hbuild _ _ "fast" _ _).2 _ _ _ _ hf hg
    obtain ⟨b', hb', -, hx, -, -, -, hvx, -⟩ := hballs 1 _ rfl
    exact ⟨_, _, hf, hg, hlength, _, b', rfl, hb', hx, by decide +kernel,
      hvx.trans (by decide +kernel)⟩
  · have hplaced : Field.ofBalls placedSettings.domain
        [⟨0, ⟨3, -1⟩, ⟨4, 5⟩, 2, Color.default⟩] = .ok _ :=
      Field.ofBalls_eq_ok.mpr ⟨by decide +kernel, by unfold Field.Fits; decide +kernel, rfl⟩
    have hf : placedSettings.build (none : Option (Source Nat Rat)) 0 = .ok (_, 0) :=
      (Settings.build_explicit_eq_ok_iff rfl).mpr ⟨rfl, _, rfl, hplaced⟩
    have hg : ((ofName "slow").apply placedSettings).build (none : Option (Source Nat Rat)) 0
        = .ok (_, 0) :=
      (Settings.build_scale slow.multiplier_pos).mpr ⟨_, hf, rfl⟩
    obtain ⟨-, -, -, -, hballs⟩ := (hbuild _ _ "slow" _ _).2 _ _ _ _ hf hg
    obtain ⟨b', hb', -, -, -, -, -, -, hvy⟩ := hballs 0 _ rfl
    exact ⟨_, _, hf, hg, _, b', rfl, hb', by decide +kernel, hvy.trans (by decide +kernel)⟩

end Preset

end Ricochet
