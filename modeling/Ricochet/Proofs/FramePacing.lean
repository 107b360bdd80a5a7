import Ricochet.Command.Outcome
import Ricochet.Proofs.SessionRun
import Ricochet.Proofs.Validation

set_option autoImplicit false

/-! # The pace of frames

A session runs a frame once per interval. The interval comes from the rate in the flags if there is
one, else from the pause of the settings, else it is a sixtieth of a second. Rate and pause are
tested for their sign and for nothing else, and then taken to nanoseconds in 64-bit words. Both ways
have an upper end:

* a pause of more than `Settings.longestPause` milliseconds is too many nanoseconds for a word. It
  wraps, perhaps to a negative number, and then the session runs at the rate of a demo without a
  pause;
* a rate above one frame per nanosecond leaves an interval of zero.

Below these ends a session runs at the pace that was asked for.
`Command.session_paced_within_limits` says what the interval is for all flags and settings that pass
their checks.
-/

namespace Ricochet

/-! ## The pause of settings -/

namespace Settings

/-- The most milliseconds whose nanoseconds are a word. -/
def longestPause : Int := 9223372036854

section

variable {α : Type} {c : Settings α}

/-- **A pause is taken to nanoseconds exactly if it is not too long.** -/
theorem pause_eq_iff (h : 0 ≤ c.pauseMs) :
    c.pause = c.pauseMs * Duration.millisecond ↔ c.pauseMs ≤ longestPause := by
  constructor
  · intro hexact
    have hword : c.pause ≤ maxWord := (wrap64_mem _).2
    rw [hexact] at hword
    simp only [Duration.millisecond, maxWord] at hword
    simp only [longestPause]
    omega
  · intro hle
    simp only [longestPause] at hle
    apply wrap64_of_mem
    · simp only [Duration.millisecond, minWord]
      omega
    · simp only [Duration.millisecond, maxWord]
      omega

end

theorem pauseMs_nonneg_of_check {c : Settings Float} (h : c.check = .ok ()) : 0 ≤ c.pauseMs :=
  (validate_eq_ok_iff.mp h).1

end Settings

/-! ## The interval of a session -/

namespace Terminal

variable {rate pause : Int}

theorem frameInterval_of_rate (h : 0 < rate) :
    frameInterval rate pause = Duration.second / rate := by
  rw [frameInterval, if_pos h]
  exact Int.tdiv_eq_ediv_of_nonneg (by decide)

theorem frameInterval_zero :
    frameInterval 0 pause = if 0 < pause then pause else defaultInterval := by
  rw [frameInterval, if_neg (by decide)]

/-- Without a rate the interval is positive whatever the pause is. With one it is, unless there are
more frames than nanoseconds in a second. -/
theorem frameInterval_pos_iff (h : 0 ≤ rate) :
    0 < frameInterval rate pause ↔ rate ≤ Duration.second := by
  rcases Int.lt_or_eq_of_le h with hrate | rfl
  · rw [frameInterval_of_rate hrate]
    constructor
    · intro hpos
      have hmul : 1 * rate ≤ Duration.second := (Int.le_ediv_iff_mul_le hrate).mp hpos
      rwa [Int.one_mul] at hmul
    · intro hle
      have hone : 1 ≤ (Duration.second : Int) / rate :=
        (Int.le_ediv_iff_mul_le hrate).mpr (by rwa [Int.one_mul])
      exact hone
  · rw [frameInterval_zero]
    have hdefault : 0 < defaultInterval := by decide
    have hsecond : (0 : Int) ≤ Duration.second := by decide
    by_cases hpause : 0 < pause
    · simp [hpause, hsecond]
    · simp [hpause, hdefault, hsecond]

namespace Session

variable {ω ε σ : Type}

/-- No message changes the pace of a session. A restart may find new settings with another pause; it
is not looked at. -/
theorem interval_update (m : Session ε σ) (d : Demo ω ε σ) (world : ω) (msg : Message) :
    (m.update d world msg).1.interval = m.interval := by
  cases msg with
  | key k =>
      simp only [update, pressed]
      cases DemoKeys.action k <;> rfl
  | resize width height => rfl
  | tick now =>
      simp only [update]
      by_cases hrestart : m.pending.has .restart = true
      · rw [if_pos hrestart]
        simp only [restarted]
      · rw [if_neg hrestart]
        rfl
  | other => rfl

theorem interval_after (m : Session ε σ) (d : Demo ω ε σ) (arrivals : List (ω × Message)) :
    (m.after d arrivals).interval = m.interval := by
  induction arrivals generalizing m with
  | nil => rfl
  | cons a rest ih =>
      show (after d (m.update d a.1 a.2).1 rest).interval = m.interval
      rw [ih, interval_update]

end Session

end Terminal

/-! ## Flags and settings that pass their checks -/

namespace Command

open Terminal

theorem fps_of_shared {p : Parsed} {s : Shared} (h : shared p = .ok s) :
    0 ≤ p.signed "fps" 0 ∧ (s.fps : Int) = p.signed "fps" 0 := by
  obtain ⟨hfps, preset, -, rfl⟩ := shared_eq_ok_iff.mp h
  exact ⟨hfps, Int.toNat_of_nonneg hfps⟩

/-- **The pace of a session.** Take flags and settings that pass their checks, and let any messages
arrive. The pause is exact up to `longestPause` and not beyond. The interval is positive unless the
rate is above `10 ^ 9`. It is a second divided by the rate if there is one. Without a rate it is the
pause, but only up to `longestPause`; up to there it is the default only if there is no pause. A
longer pause gives way to its wrapped value if that is positive, and to the default if it is not. -/
theorem session_paced_within_limits (kind : BallKind) {p : Parsed} {s : Shared}
    (hflags : shared p = .ok s) (b : BallShow Float) (hcheck : b.settings.check = .ok ())
    (size : Option (Int × Int)) (now : Int) (arrivals : List (Surroundings × Message)) :
    let fps := p.signed "fps" 0
    let ms := b.settings.pauseMs
    let interval :=
      ((Session.new kind.demo (s.runOptions size now) b).after kind.demo arrivals).interval
    (b.settings.pause = ms * 1000000 ↔ ms ≤ Settings.longestPause)
    ∧ (0 < interval ↔ fps ≤ 1000000000)
    ∧ (0 < fps → interval = 1000000000 / fps)
    ∧ (fps = 0 → 0 < ms → (interval = ms * 1000000 ↔ ms ≤ Settings.longestPause))
    ∧ (fps = 0 → ms ≤ Settings.longestPause → (interval = 1000000000 / 60 ↔ ms = 0))
    ∧ (fps = 0 → Settings.longestPause < ms →
      interval = if 0 < b.settings.pause then b.settings.pause else 1000000000 / 60) := by
  intro fps ms interval
  obtain ⟨hfps, hrate⟩ := fps_of_shared hflags
  have hms : 0 ≤ ms := Settings.pauseMs_nonneg_of_check hcheck
  have hpause : b.settings.pause = ms * 1000000 ↔ ms ≤ Settings.longestPause :=
    Settings.pause_eq_iff hms
  have hinterval : interval = frameInterval fps b.settings.pause := by
    show (Session.after _ _ _).interval = _
    rw [Session.interval_after]
    show frameInterval s.fps b.settings.pause = _
    rw [hrate]
  have hidle : fps = 0 →
      interval = if 0 < b.settings.pause then b.settings.pause else 1000000000 / 60 := by
    intro hzero
    rw [hinterval, hzero, frameInterval_zero]
    rfl
  refine ⟨hpause, ?_, ?_, ?_, ?_, fun hzero _ => hidle hzero⟩
  · rw [hinterval]
    exact frameInterval_pos_iff hfps
  · intro hpos
    rw [hinterval]
    exact frameInterval_of_rate hpos
  · intro hzero hpos
    rw [hidle hzero, ← hpause]
    -- The default is no multiple of a million, so only the pause itself can be meant.
    by_cases hwrapped : 0 < b.settings.pause
    · rw [if_pos hwrapped]
    · rw [if_neg hwrapped]
      omega
  · intro hzero hle
    have hexact := hpause.mpr hle
    rw [hidle hzero]
    by_cases hwrapped : 0 < b.settings.pause
    · rw [if_pos hwrapped]
      omega
    · rw [if_neg hwrapped]
      omega

/-- Flags that set a rate and nothing else, and what they are read as. -/
def rateFlags (rate : Nat) : Parsed × Shared :=
  (⟨[("fps", .signed rate)], []⟩, ⟨rate, 0, "", "normal", .normal, "info", ""⟩)

/-- The interval of a session with a demo of some settings under a rate. -/
def intervalAt (rate : Nat) (c : Settings Float) : Int :=
  (Session.new BallKind.single.demo ((rateFlags rate).2.runOptions none 7)
    { BallShow.fresh with settings := c }).interval

/-- The built-in ball, at fifty frames in a second and at its own pace. -/
theorem session_paced_within_limits_ball :
    (shared (rateFlags 50).1 = .ok (rateFlags 50).2 ∧ intervalAt 50 Settings.ball = 20000000)
    ∧ shared (rateFlags 0).1 = .ok (rateFlags 0).2 ∧ intervalAt 0 Settings.ball = 95000000 := by
  have hball : Settings.ball.check = .ok () := by decide +kernel
  have hfifty : shared (rateFlags 50).1 = .ok (rateFlags 50).2 := by decide +kernel
  have hnone : shared (rateFlags 0).1 = .ok (rateFlags 0).2 := by decide +kernel
  refine ⟨⟨hfifty, ?_⟩, hnone, ?_⟩
  · obtain ⟨-, -, hrate, -⟩ := session_paced_within_limits .single hfifty
      { BallShow.fresh with settings := Settings.ball } hball none 7 []
    exact hrate (by decide)
  · obtain ⟨-, -, -, hpause, -⟩ := session_paced_within_limits .single hnone
      { BallShow.fresh with settings := Settings.ball } hball none 7 []
    exact (hpause rfl (by decide)).mpr (by decide)

/-- The built-in ball with a pause of 292 years. -/
def drowsy : Settings Float := { Settings.ball with pauseMs := 9223372036855 }

/-- **A pace that is not kept.** The drowsy ball passes the check, but its pause is negative, and at
its own pace it is shown sixty times in a second. A rate of two frames in a nanosecond passes the
check of the flags and makes an interval of zero. -/
theorem long_pause_and_high_rate_lost :
    (drowsy.check = .ok () ∧ drowsy.pause < 0 ∧ shared (rateFlags 0).1 = .ok (rateFlags 0).2
      ∧ intervalAt 0 drowsy = 1000000000 / 60)
    ∧ shared (rateFlags 2000000000).1 = .ok (rateFlags 2000000000).2
      ∧ intervalAt 2000000000 Settings.ball = 0 := by
  refine ⟨⟨by decide +kernel, by decide, by decide +kernel, ?_⟩, by decide +kernel, ?_⟩
  · show frameInterval 0 drowsy.pause = _
    rw [frameInterval_zero]
    decide
  · show frameInterval 2000000000 Settings.ball.pause = _
    rw [frameInterval_of_rate (by decide)]
    decide

end Command

end Ricochet
