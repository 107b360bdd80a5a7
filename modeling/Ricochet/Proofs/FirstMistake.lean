import Ricochet.Settings.Defaults
import Ricochet.Proofs.FiniteFields

set_option autoImplicit false

/-! # The first mistake in a list of balls

Settings that list balls are read in two passes. The first reads the colours, the second, which
comes after the test of the domain, tests radius and place of every ball. Both passes take the balls
in order and stop at the first that is not as it should be, so of several mistakes the one that is
reported is the first colour that cannot be read, else the domain, else the first ball that does not
fit.

A pass of this kind is `passFrom`, and what it reports is `FirstBad` (`passFrom_eq_error_iff`). Both
passes are such (`Settings.ballsFrom_eq_passFrom`, `Field.placeFrom_eq_passFrom`).

* `Settings.placed_eq_ok_iff_sound`, `Settings.placed_eq_error_iff_first`: over any scalar.
* `Settings.listed_balls_built_or_blamed`: the same on binary64, with what the field holds.
-/

namespace Ricochet

/-! ## Passes over a list -/

section

variable {β γ ε : Type}

/-- Takes the items of a list in order, each with its number from `i` on, and stops at the first
error. -/
def passFrom (f : Nat → β → Except ε γ) : Nat → List β → Except ε (List γ)
  | _, [] => .ok []
  | i, b :: bs => do
      let c ← f i b
      let cs ← passFrom f (i + 1) bs
      return c :: cs

/-- The item `b`, numbered `i`, is the first of a list that is not good. -/
structure FirstBad (good : β → Prop) (items : List β) (i : Nat) (b : β) : Prop where
  here : items[i]? = some b
  bad : ¬ good b
  before : ∀ j b', j < i → items[j]? = some b' → good b'

variable {good : β → Prop} {b b' : β} {items : List β} {i k : Nat}

theorem FirstBad.not_all_good (h : FirstBad good items i b) : ¬ ∀ b ∈ items, good b :=
  fun hall => h.bad (hall b (List.mem_of_getElem? h.here))

theorem firstBad_cons_of_bad (h : ¬ good b) :
    FirstBad good (b :: items) k b' ↔ k = 0 ∧ b' = b := by
  constructor
  · intro hfirst
    cases k with
    | zero => exact ⟨rfl, (Option.some.inj hfirst.here).symm⟩
    | succ k => exact absurd (hfirst.before 0 b (Nat.succ_pos k) rfl) h
  · rintro ⟨rfl, rfl⟩
    exact ⟨rfl, h, fun j _ hj => absurd hj (Nat.not_lt_zero j)⟩

theorem firstBad_cons_of_good (h : good b) :
    FirstBad good (b :: items) k b' ↔ ∃ j, k = j + 1 ∧ FirstBad good items j b' := by
  constructor
  · intro hfirst
    cases k with
    | zero =>
        have hb : b = b' := Option.some.inj hfirst.here
        exact absurd (hb ▸ h) hfirst.bad
    | succ k =>
        refine ⟨k, rfl, hfirst.here, hfirst.bad, fun j b'' hj hb'' => ?_⟩
        exact hfirst.before (j + 1) b'' (Nat.succ_lt_succ hj) hb''
  · rintro ⟨j, rfl, hfirst⟩
    refine ⟨hfirst.here, hfirst.bad, fun j' b'' hj' hb'' => ?_⟩
    cases j' with
    | zero =>
        have hb : b = b'' := Option.some.inj hb''
        exact hb ▸ h
    | succ j' => exact hfirst.before j' b'' (Nat.lt_of_succ_lt_succ hj') hb''

/-- The first bad item of a mapped list comes from the first item that is mapped to a bad one. -/
theorem firstBad_map {δ : Type} {g : δ → β} {origins : List δ} :
    FirstBad good (origins.map g) k b ↔
      ∃ d, FirstBad (fun d => good (g d)) origins k d ∧ g d = b := by
  constructor
  · rintro ⟨hhere, hbad, hbefore⟩
    rw [List.getElem?_map] at hhere
    obtain ⟨d, hd, rfl⟩ := Option.map_eq_some_iff.mp hhere
    refine ⟨d, ⟨hd, hbad, fun j d' hj hd' => hbefore j (g d') hj ?_⟩, rfl⟩
    rw [List.getElem?_map, hd', Option.map_some]
  · rintro ⟨d, ⟨hhere, hbad, hbefore⟩, rfl⟩
    refine ⟨?_, hbad, fun j b' hj hb' => ?_⟩
    · rw [List.getElem?_map, hhere, Option.map_some]
    · rw [List.getElem?_map] at hb'
      obtain ⟨d', hd', rfl⟩ := Option.map_eq_some_iff.mp hb'
      exact hbefore j d' hj hd'

variable {f : Nat → β → Except ε γ}

theorem passFrom_cons_of_error {e : ε} (h : f i b = .error e) :
    passFrom f i (b :: items) = .error e := by
  rw [passFrom, h]
  rfl

theorem passFrom_cons_of_ok {c : γ} (h : f i b = .ok c) :
    passFrom f i (b :: items) = (passFrom f (i + 1) items).map (c :: ·) := by
  rw [passFrom, h]
  cases passFrom f (i + 1) items with
  | error e => rfl
  | ok cs => rfl

/-- **A pass reports the first bad item,** with the error that the item gets under its number. Which
items are good must not depend on their numbers. -/
theorem passFrom_eq_error_iff (hgood : ∀ i b, good b ↔ ∃ c, f i b = .ok c) {e : ε} :
    passFrom f i items = .error e ↔ ∃ k b, FirstBad good items k b ∧ f (i + k) b = .error e := by
  induction items generalizing i with
  | nil =>
      constructor
      · intro h
        cases h
      · rintro ⟨k, b, hfirst, -⟩
        cases hfirst.here
  | cons b bs ih =>
      cases hb : f i b with
      | error e' =>
          have hbad : ¬ good b := by
            rw [hgood i b, hb]
            rintro ⟨c, hc⟩
            cases hc
          simp only [passFrom_cons_of_error hb, firstBad_cons_of_bad hbad]
          constructor
          · intro h
            cases h
            exact ⟨0, b, ⟨rfl, rfl⟩, hb⟩
          · rintro ⟨k, b', ⟨rfl, rfl⟩, h⟩
            rw [Nat.add_zero, hb] at h
            cases h
            rfl
      | ok c =>
          have hrest : (passFrom f (i + 1) bs).map (c :: ·) = .error e
              ↔ passFrom f (i + 1) bs = .error e := by
            cases passFrom f (i + 1) bs with
            | error e' => simp [Except.map]
            | ok cs => simp [Except.map]
          rw [passFrom_cons_of_ok hb, hrest, ih]
          simp only [firstBad_cons_of_good ((hgood i b).mpr ⟨c, hb⟩)]
          -- The number of an item in the rest is one less than in the whole list.
          constructor
          · rintro ⟨k, b', hfirst, h⟩
            exact ⟨k + 1, b', ⟨k, rfl, hfirst⟩, by rwa [Nat.add_comm k, ← Nat.add_assoc]⟩
          · rintro ⟨_, b', ⟨k, rfl, hfirst⟩, h⟩
            exact ⟨k, b', hfirst, by rwa [Nat.add_assoc, Nat.add_comm 1]⟩

theorem good_of_passFrom (hgood : ∀ i b, good b ↔ ∃ c, f i b = .ok c) {out : List γ}
    (h : passFrom f i items = .ok out) : ∀ b ∈ items, good b := by
  induction items generalizing i out with
  | nil => simp
  | cons b bs ih =>
      cases hb : f i b with
      | error e =>
          rw [passFrom_cons_of_error hb] at h
          cases h
      | ok c =>
          rw [passFrom_cons_of_ok hb] at h
          cases hrest : passFrom f (i + 1) bs with
          | error e =>
              rw [hrest] at h
              cases h
          | ok cs =>
              intro b' hb'
              rcases List.mem_cons.mp hb' with rfl | hb'
              · exact (hgood i b').mpr ⟨c, hb⟩
              · exact ih hrest b' hb'

/-- A pass over good items gives what each of them gives. -/
theorem passFrom_of_ok {g : β → γ} (h : ∀ b ∈ items, ∀ i, f i b = .ok (g b)) :
    passFrom f i items = .ok (items.map g) := by
  induction items generalizing i with
  | nil => rfl
  | cons b bs ih =>
      rw [passFrom_cons_of_ok (h b List.mem_cons_self i),
        ih fun c hc => h c (List.mem_cons_of_mem _ hc)]
      rfl

end

variable {α : Type}

/-! ## What a listed ball should be -/

namespace BallSpec

/-- Whether a listed ball has no colour or one that can be read. -/
def Readable (b : BallSpec α) : Prop :=
  b.color = [] ∨ ∃ color, Color.parseBytes b.color = .ok color

/-- The colour of a listed ball that can be read. -/
def shownColor (b : BallSpec α) : Color := b.parseColor.toOption.getD Color.default

/-- Whether a listed ball has a positive radius and keeps that distance from every wall. -/
def Fits [Scalar α] (d : Domain α) (b : BallSpec α) : Prop :=
  Scalar.zero < b.radius ∧ b.radius ≤ b.x ∧ b.x ≤ d.width - b.radius
    ∧ b.radius ≤ b.y ∧ b.y ≤ d.height - b.radius

theorem readable_iff (b : BallSpec α) : b.Readable ↔ ∃ color, b.parseColor = .ok color := by
  unfold Readable parseColor
  by_cases hnone : b.color = []
  · simp [hnone]
  · simp [hnone]

theorem Readable.parseColor_eq {b : BallSpec α} (h : b.Readable) :
    b.parseColor = .ok b.shownColor := by
  obtain ⟨color, hcolor⟩ := b.readable_iff.mp h
  rw [shownColor, hcolor]
  rfl

/-- A colour that cannot be read is a colour that was named. -/
theorem parseColor_of_not_readable {b : BallSpec α} (h : ¬ b.Readable) :
    b.parseColor = Color.parseBytes b.color := by
  have hnamed : b.color ≠ [] := fun hnone => h (.inl hnone)
  unfold parseColor
  rw [if_neg hnamed]

/-- What the colour of a ball is read as. -/
theorem Readable.shownColor_eq {b : BallSpec α} (h : b.Readable) :
    (b.color = [] → b.shownColor = Color.default)
      ∧ (b.color ≠ [] → Color.parseBytes b.color = .ok b.shownColor) := by
  have hparse := h.parseColor_eq
  unfold parseColor at hparse
  refine ⟨fun hnone => ?_, fun hnamed => ?_⟩
  · rw [if_pos hnone] at hparse
    exact (Except.ok.inj hparse).symm
  · rwa [if_neg hnamed] at hparse

theorem fits_toBall_iff [Scalar α] {d : Domain α} {b : BallSpec α} {color : Color} :
    Field.Fits d (b.toBall color) ↔ b.Fits d := by
  have hinside : (b.toBall color).inside d = true ↔ b.radius ≤ b.x ∧ b.x ≤ d.width - b.radius
      ∧ b.radius ≤ b.y ∧ b.y ≤ d.height - b.radius := decide_eq_true_iff
  exact and_congr_right fun _ => hinside

end BallSpec

/-! ## The two passes -/

namespace Field

variable [Scalar α] {d : Domain α} {b : Ball α} {balls : List (Ball α)} {e : FieldError α}

theorem placeFrom_eq_passFrom (d : Domain α) (i : Nat) (balls : List (Ball α)) :
    placeFrom d i balls = passFrom (place d) i balls := by
  induction balls generalizing i with
  | nil => rfl
  | cons b bs ih => rw [placeFrom, passFrom, ih]

theorem fits_iff_exists_place (i : Nat) (b : Ball α) : Fits d b ↔ ∃ b', place d i b = .ok b' := by
  constructor
  · intro h
    exact ⟨_, place_of_fits i h⟩
  · rintro ⟨b', h⟩
    exact fits_of_place h

/-- A ball that does not fit is blamed for its radius first. -/
theorem place_eq_error_iff (h : ¬ Fits d b) (i : Nat) :
    place d i b = .error e ↔
      e = if Scalar.zero < b.radius then .ballOutside i b.x.pos b.y.pos b.radius
        else .ballRadius i b.radius := by
  unfold place
  by_cases hradius : Scalar.zero < b.radius
  · have hinside : ¬ b.inside d = true := fun hinside => h ⟨hradius, hinside⟩
    simp [hradius, hinside, eq_comm]
  · simp [hradius, eq_comm]

/-- **Why balls cannot be placed**: for the domain, or else for the first ball that does not fit. -/
theorem ofBalls_eq_error_iff :
    ofBalls d balls = .error e ↔
      (domainFits d = false ∧ e = .domain d.width d.height)
      ∨ (domainFits d = true ∧ ∃ i b, FirstBad (Fits d) balls i b
        ∧ e = if Scalar.zero < b.radius then .ballOutside i b.x.pos b.y.pos b.radius
          else .ballRadius i b.radius) := by
  unfold ofBalls
  by_cases hdomain : domainFits d = true
  · have hpass : (do
        let balls ← placeFrom d 0 balls
        return (⟨d, balls, 0⟩ : Field α)) = .error e
          ↔ placeFrom d 0 balls = .error e := by
      cases placeFrom d 0 balls with
      | error e' => simp [bind, Except.bind]
      | ok placed => simp [bind, Except.bind, pure, Except.pure]
    rw [if_pos hdomain, hpass, placeFrom_eq_passFrom, passFrom_eq_error_iff fits_iff_exists_place]
    simp only [hdomain, Bool.true_eq_false, false_and, false_or, true_and, Nat.zero_add]
    constructor
    · rintro ⟨i, b, hfirst, h⟩
      exact ⟨i, b, hfirst, (place_eq_error_iff hfirst.bad i).mp h⟩
    · rintro ⟨i, b, hfirst, h⟩
      exact ⟨i, b, hfirst, (place_eq_error_iff hfirst.bad i).mpr h⟩
  · have hfalse : domainFits d = false := Bool.eq_false_of_not_eq_true hdomain
    simp [hfalse, eq_comm]

end Field

namespace Settings

section

variable {c : Settings α} {e : SettingsError α}

/-- Reads the colour of the ball numbered `i`. -/
def readBall (i : Nat) (b : BallSpec α) : Except (SettingsError α) (Ball α) :=
  (b.parseColor.mapError (.color i)).map b.toBall

theorem ballsFrom_eq_passFrom (i : Nat) (specs : List (BallSpec α)) :
    ballsFrom i specs = passFrom readBall i specs := by
  induction specs generalizing i with
  | nil => rfl
  | cons b bs ih =>
      rw [ballsFrom, passFrom, ih, readBall]
      cases b.parseColor with
      | error fault => rfl
      | ok color => rfl

theorem readable_iff_exists_readBall (i : Nat) (b : BallSpec α) :
    b.Readable ↔ ∃ ball, readBall i b = .ok ball := by
  rw [b.readable_iff]
  constructor
  · rintro ⟨color, hcolor⟩
    refine ⟨b.toBall color, ?_⟩
    rw [readBall, hcolor]
    rfl
  · rintro ⟨ball, h⟩
    rw [readBall] at h
    cases hcolor : b.parseColor with
    | error fault =>
        rw [hcolor] at h
        cases h
    | ok color => exact ⟨color, rfl⟩

theorem readBall_eq_error_iff {i : Nat} {b : BallSpec α} (h : ¬ b.Readable) :
    readBall i b = .error e
      ↔ ∃ fault, Color.parseBytes b.color = .error fault ∧ e = .color i fault := by
  rw [readBall, BallSpec.parseColor_of_not_readable h]
  constructor
  · intro he
    cases hfault : Color.parseBytes b.color with
    | error fault =>
        rw [hfault] at he
        cases he
        exact ⟨fault, rfl, rfl⟩
    | ok color =>
        rw [hfault] at he
        cases he
  · rintro ⟨fault, hfault, rfl⟩
    rw [hfault]
    rfl

theorem initialBalls_of_readable (h : ∀ b ∈ c.specs, b.Readable) :
    c.initialBalls = .ok (c.specs.map fun b => b.toBall b.shownColor) := by
  rw [initialBalls, ballsFrom_eq_passFrom]
  apply passFrom_of_ok
  intro b hb i
  rw [readBall, (h b hb).parseColor_eq]
  rfl

/-- The first pass fails for the first colour that cannot be read. -/
theorem initialBalls_eq_error_iff :
    c.initialBalls = .error e ↔ ∃ i b fault, FirstBad BallSpec.Readable c.specs i b
      ∧ Color.parseBytes b.color = .error fault ∧ e = .color i fault := by
  rw [initialBalls, ballsFrom_eq_passFrom, passFrom_eq_error_iff readable_iff_exists_readBall]
  constructor
  · rintro ⟨i, b, hfirst, h⟩
    rw [Nat.zero_add, readBall_eq_error_iff hfirst.bad] at h
    obtain ⟨fault, hfault, he⟩ := h
    exact ⟨i, b, fault, hfirst, hfault, he⟩
  · rintro ⟨i, b, fault, hfirst, hfault, he⟩
    refine ⟨i, b, hfirst, ?_⟩
    rw [Nat.zero_add, readBall_eq_error_iff hfirst.bad]
    exact ⟨fault, hfault, he⟩

theorem readable_of_initialBalls {balls : List (Ball α)} (h : c.initialBalls = .ok balls) :
    ∀ b ∈ c.specs, b.Readable := by
  rw [initialBalls, ballsFrom_eq_passFrom] at h
  exact good_of_passFrom readable_iff_exists_readBall h

/-- The balls of the list, in order, with their colours and numbered by their places. -/
def listedBalls (c : Settings α) : List (Ball α) :=
  Field.numberedFrom 0 (c.specs.map fun b => b.toBall b.shownColor)

theorem getElem?_listedBalls (c : Settings α) (i : Nat) :
    c.listedBalls[i]? = (c.specs[i]?).map fun b =>
      { id := i, x := ⟨b.x, b.vx⟩, y := ⟨b.y, b.vy⟩, radius := b.radius,
        color := b.shownColor } := by
  rw [listedBalls, Field.numberedFrom, List.getElem?_mapIdx, List.getElem?_map, Option.map_map]
  simp only [Nat.zero_add]
  rfl

end

/-! ## Both passes together -/

section

variable [Scalar α] {c : Settings α} {e : SettingsError α} {f : Field α}

theorem placed_eq_ok_iff_sound :
    c.placed = .ok f ↔ (∀ b ∈ c.specs, b.Readable) ∧ Field.domainFits c.domain = true
      ∧ (∀ b ∈ c.specs, b.Fits c.domain) ∧ f = ⟨c.domain, c.listedBalls, 0⟩ := by
  rw [placed_eq_ok_iff]
  constructor
  · rintro ⟨balls, hread, hplaced⟩
    have hreadable := readable_of_initialBalls hread
    rw [initialBalls_of_readable hreadable] at hread
    cases hread
    obtain ⟨hdomain, hfits, rfl⟩ := Field.ofBalls_eq_ok.mp hplaced
    refine ⟨hreadable, hdomain, fun b hb => ?_, rfl⟩
    exact BallSpec.fits_toBall_iff.mp (hfits _ (List.mem_map_of_mem hb))
  · rintro ⟨hreadable, hdomain, hfits, rfl⟩
    refine ⟨_, initialBalls_of_readable hreadable, Field.ofBalls_eq_ok.mpr ⟨hdomain, ?_, rfl⟩⟩
    intro ball hball
    obtain ⟨b, hb, rfl⟩ := List.mem_map.mp hball
    exact BallSpec.fits_toBall_iff.mpr (hfits b hb)

/-- **Which of several mistakes is reported**: the first colour that cannot be read; if there is
none, the domain; if that is right, the first ball that does not fit, its radius before its
place. -/
theorem placed_eq_error_iff_first :
    c.placed = .error e ↔
      (∃ i b fault, FirstBad BallSpec.Readable c.specs i b ∧ Color.parseBytes b.color = .error fault
        ∧ e = .color i fault)
      ∨ ((∀ b ∈ c.specs, b.Readable)
        ∧ ((Field.domainFits c.domain = false ∧ e = .field (.domain c.width c.height))
          ∨ (Field.domainFits c.domain = true ∧ ∃ i b, FirstBad (BallSpec.Fits c.domain) c.specs i b
            ∧ e = .field (if Scalar.zero < b.radius then .ballOutside i b.x b.y b.radius
              else .ballRadius i b.radius)))) := by
  rw [placed_eq_error_iff, initialBalls_eq_error_iff]
  -- The first pass is settled. The second is about the balls that the first has read, so its report
  -- has to be carried back to the list.
  apply or_congr_right
  constructor
  · rintro ⟨balls, e', hread, hplaced, rfl⟩
    have hreadable := readable_of_initialBalls hread
    rw [initialBalls_of_readable hreadable] at hread
    cases hread
    refine ⟨hreadable, ?_⟩
    rcases Field.ofBalls_eq_error_iff.mp hplaced with
      ⟨hdomain, rfl⟩ | ⟨hdomain, i, ball, hfirst, rfl⟩
    · exact .inl ⟨hdomain, rfl⟩
    · obtain ⟨b, hb, rfl⟩ := firstBad_map.mp hfirst
      simp only [BallSpec.fits_toBall_iff] at hb
      exact .inr ⟨hdomain, i, b, hb, rfl⟩
  · rintro ⟨hreadable, ⟨hdomain, rfl⟩ | ⟨hdomain, i, b, hfirst, rfl⟩⟩
    · exact ⟨_, _, initialBalls_of_readable hreadable,
        Field.ofBalls_eq_error_iff.mpr (.inl ⟨hdomain, rfl⟩), rfl⟩
    · refine ⟨_, _, initialBalls_of_readable hreadable,
        Field.ofBalls_eq_error_iff.mpr (.inr ⟨hdomain, i, b.toBall b.shownColor, ?_, rfl⟩), rfl⟩
      refine firstBad_map.mpr ⟨b, ?_, rfl⟩
      simp only [BallSpec.fits_toBall_iff]
      exact hfirst

theorem build_explicit_eq_error_iff {σ : Type} {src : Option (Source σ α)} {s : σ}
    (h : c.explicit = true) : c.build src s = .error e ↔ c.placed = .error e := by
  rw [build, Draw.kept_eq_error_iff, run_building_explicit h]

end

end Settings

/-! ## Binary64 -/

/-- Both sides of a domain are positive and finite. -/
def Domain.Proper (d : Domain Float) : Prop :=
  (0 < d.width ∧ d.width.isFinite = true) ∧ 0 < d.height ∧ d.height.isFinite = true

namespace Field

open Binary64

theorem isInf_eq_false_of_isFinite {x : Float} (h : x.isFinite = true) : x.isInf = false := by
  rw [isFinite_eq] at h
  rw [isInf_eq]
  cases hx : unpacked x with
  | notANumber => rfl
  | zero sign => rfl
  | infinity sign =>
      rw [hx] at h
      cases h
  | finite sign m e hm => rfl

theorem domainFits_iff_proper {d : Domain Float} : domainFits d = true ↔ d.Proper := by
  constructor
  · intro h
    have hwidth := (isFinite_of_domainFits h .horizontal).1
    have hheight := (isFinite_of_domainFits h .vertical).1
    simp only [domainFits, scalar_zero_eq, Bool.and_eq_true, decide_eq_true_eq] at h
    exact ⟨⟨h.1.1.1, hwidth⟩, h.1.1.2, hheight⟩
  · rintro ⟨⟨hwidth, hwidth'⟩, hheight, hheight'⟩
    have hinf : Scalar.isInfinite d.width = false := isInf_eq_false_of_isFinite hwidth'
    have hinf' : Scalar.isInfinite d.height = false := isInf_eq_false_of_isFinite hheight'
    simp [domainFits, scalar_zero_eq, hwidth, hheight, hinf, hinf']

end Field

namespace Settings

open Binary64

/-- **Balls listed in settings are built as they are listed, or the first mistake is reported.** The
field builds if all colours can be read, the domain is positive and finite and every ball fits. It
then holds the balls of the list in order and has drawn nothing from the source. If a colour cannot
be read, the error names the first ball with such a colour, whatever else is wrong, and does not
call the field invalid. Every other error does; it is about the domain if that is wrong, else about
the first ball that does not fit, about its radius if that is not positive, else about its place. -/
theorem listed_balls_built_or_blamed {σ : Type} (c : Settings Float) (hlist : c.specs ≠ [])
    (src : Option (Source σ Float)) (s : σ) :
    ((∃ built, c.build src s = .ok built) ↔
      (∀ b ∈ c.specs, b.Readable) ∧ c.domain.Proper ∧ ∀ b ∈ c.specs, b.Fits c.domain)
    ∧ (∀ (f : Field Float) (s' : σ), c.build src s = .ok (f, s') →
      s' = s ∧ f.domain = c.domain ∧ f.tick = 0 ∧ f.balls.length = c.specs.length
      ∧ ∀ (i : Nat) (b : BallSpec Float), c.specs[i]? = some b → ∃ color,
        f.balls[i]?
          = some { id := i, x := ⟨b.x, b.vx⟩, y := ⟨b.y, b.vy⟩, radius := b.radius, color }
        ∧ (b.color = [] → color = Color.default)
        ∧ (b.color ≠ [] → Color.parseBytes b.color = .ok color))
    ∧ ∀ e, c.build src s = .error e →
      ((∃ b ∈ c.specs, ¬ b.Readable) → e.isInvalid = false
        ∧ ∃ i b fault, FirstBad BallSpec.Readable c.specs i b
          ∧ Color.parseBytes b.color = .error fault ∧ e = .color i fault)
      ∧ ((∀ b ∈ c.specs, b.Readable) → e.isInvalid = true
        ∧ (¬ c.domain.Proper → e = .field (.domain c.width c.height))
        ∧ (c.domain.Proper → ∃ i b, FirstBad (BallSpec.Fits c.domain) c.specs i b
          ∧ (¬ 0 < b.radius → e = .field (.ballRadius i b.radius))
          ∧ (0 < b.radius → e = .field (.ballOutside i b.x b.y b.radius)))) := by
  have hexplicit : c.explicit = true := explicit_eq_true_iff.mpr hlist
  have hbuild : ∀ f s', c.build src s = .ok (f, s') ↔ s = s' ∧ c.placed = .ok f := by
    intro f s'
    rw [build_explicit_eq_ok_iff hexplicit, placed_eq_ok_iff]
  refine ⟨⟨?_, ?_⟩, fun f s' h => ?_, fun e h => ?_⟩
  · rintro ⟨⟨f, s'⟩, h⟩
    obtain ⟨hread, hdomain, hfits, -⟩ := placed_eq_ok_iff_sound.mp ((hbuild f s').mp h).2
    exact ⟨hread, Field.domainFits_iff_proper.mp hdomain, hfits⟩
  · rintro ⟨hread, hdomain, hfits⟩
    have hplaced : c.placed = .ok ⟨c.domain, c.listedBalls, 0⟩ :=
      placed_eq_ok_iff_sound.mpr ⟨hread, Field.domainFits_iff_proper.mpr hdomain, hfits, rfl⟩
    exact ⟨(_, s), (hbuild _ s).mpr ⟨rfl, hplaced⟩⟩
  · obtain ⟨rfl, hplaced⟩ := (hbuild f s').mp h
    obtain ⟨hread, -, -, rfl⟩ := placed_eq_ok_iff_sound.mp hplaced
    refine ⟨rfl, rfl, rfl, ?_, fun i b hb => ⟨b.shownColor, ?_, ?_⟩⟩
    · simp [listedBalls, Field.numberedFrom]
    · rw [getElem?_listedBalls, hb]
      rfl
    · exact (hread b (List.mem_of_getElem? hb)).shownColor_eq
  · -- A colour is reported before the domain is looked at, hence the two cases.
    rw [build_explicit_eq_error_iff hexplicit, placed_eq_error_iff_first] at h
    rcases h with ⟨i, b, fault, hfirst, hfault, rfl⟩ | ⟨hread, h⟩
    · exact ⟨fun _ => ⟨rfl, i, b, fault, hfirst, hfault, rfl⟩,
        fun hread => absurd hread hfirst.not_all_good⟩
    · have hnone : ¬ ∃ b ∈ c.specs, ¬ b.Readable := by
        rintro ⟨b, hb, hbad⟩
        exact hbad (hread b hb)
      refine ⟨fun hsome => absurd hsome hnone, fun _ => ?_⟩
      rw [Field.domainFits_iff_proper, ← Bool.not_eq_true, Field.domainFits_iff_proper] at h
      rcases h with ⟨hdomain, rfl⟩ | ⟨hdomain, i, b, hfirst, rfl⟩
      · exact ⟨rfl, fun _ => rfl, fun hproper => absurd hproper hdomain⟩
      · refine ⟨rfl, fun hbad => absurd hdomain hbad, fun _ => ⟨i, b, hfirst, ?_, ?_⟩⟩
        · intro hradius
          rw [scalar_zero_eq, if_neg hradius]
        · intro hradius
          rw [scalar_zero_eq, if_pos hradius]

/-- Settings with four balls, of which the second has a negative radius, the third lies outside and
has the colour `teal`, and the fourth has the colour `#1`. -/
def muddled : Settings Float :=
  { zero with
    width := 9
    height := 9
    initial := some [
      { BallSpec.zero with x := 5, y := 5, radius := 1 },
      { BallSpec.zero with x := 5, y := 5, radius := -1 },
      { BallSpec.zero with x := 20, y := 5, radius := 1, color := [0x74, 0x65, 0x61, 0x6c] },
      { BallSpec.zero with x := 5, y := 5, radius := 1, color := [0x23, 0x31] }] }

/-- The same without colours. -/
def plain : Settings Float :=
  { muddled with initial := some (muddled.specs.map fun b => { b with color := [] }) }

/-- The muddled balls are blamed for the first of the two colours, the plain ones for the radius,
and the ball of the built-in settings is built. -/
theorem listed_balls_built_or_blamed_muddled :
    (muddled.build (none : Option (Source Unit Float)) ()
        = .error (.color 2 ⟨[0x74, 0x65, 0x61, 0x6c], none⟩)
      ∧ ∃ b, FirstBad BallSpec.Readable muddled.specs 2 b)
    ∧ (plain.build (none : Option (Source Unit Float)) () = .error (.field (.ballRadius 1 (-1)))
      ∧ ∃ b, FirstBad (BallSpec.Fits plain.domain) plain.specs 1 b)
    ∧ ∃ f, ball.build (none : Option (Source Unit Float)) () = .ok (f, ())
      ∧ f.tick = 0 ∧ f.balls.length = 1 := by
  refine ⟨?_, ?_, ?_⟩
  · have hbuild : muddled.build (none : Option (Source Unit Float)) ()
        = .error (.color 2 ⟨[0x74, 0x65, 0x61, 0x6c], none⟩) := by decide +kernel
    have hblame := (listed_balls_built_or_blamed muddled (by decide) none ()).2.2 _ hbuild
    refine ⟨hbuild, ?_⟩
    -- All colours cannot be readable, for then the error would call the field invalid.
    by_cases hread : ∀ b ∈ muddled.specs, b.Readable
    · cases (hblame.2 hread).1
    · have hbad : ∃ b ∈ muddled.specs, ¬ b.Readable := by
        simpa using hread
      obtain ⟨-, i, b, fault, hfirst, -, he⟩ := hblame.1 hbad
      cases he
      exact ⟨b, hfirst⟩
  · have hbuild : plain.build (none : Option (Source Unit Float)) ()
        = .error (.field (.ballRadius 1 (-1))) := by decide +kernel
    have hblame := (listed_balls_built_or_blamed plain (by decide) none ()).2.2 _ hbuild
    refine ⟨hbuild, ?_⟩
    have hread : ∀ b ∈ plain.specs, b.Readable := by
      intro b hb
      obtain ⟨b', -, rfl⟩ := List.mem_map.mp hb
      exact .inl rfl
    have hproper : plain.domain.Proper := Field.domainFits_iff_proper.mp (by decide +kernel)
    obtain ⟨i, b, hfirst, hradius, hplace⟩ := (hblame.2 hread).2.2 hproper
    by_cases hpos : 0 < b.radius
    · cases hplace hpos
    · have hi : 1 = i := (FieldError.ballRadius.inj (SettingsError.field.inj (hradius hpos))).1
      exact ⟨b, hi ▸ hfirst⟩
  · obtain ⟨f, hf⟩ : ∃ f, ball.build (none : Option (Source Unit Float)) () = .ok (f, ()) :=
      ⟨⟨ball.domain, ball.listedBalls, 0⟩, by decide +kernel⟩
    obtain ⟨-, -, htick, hlength, -⟩ :=
      (listed_balls_built_or_blamed ball (by decide) none ()).2.1 f () hf
    exact ⟨f, hf, htick, hlength⟩

end Settings

end Ricochet
