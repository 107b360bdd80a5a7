import Ricochet.Proofs.Picture
import Ricochet.Proofs.RunGrouping
import Ricochet.Proofs.SessionRun
import Ricochet.Proofs.Validation

set_option autoImplicit false

/-! # The height of the view

The view of a session is meant to fill the terminal: the rows of the screen, and one line below
them. The rows do so as long as no demo draws a newline, which the demos here never do
(`BallKind.drawsNoNewline`), and the look of the session keeps the lines of what it is given, which
that of every terminal does (`Look.keepsLines_ofProfile`). The line below holds the help, which is
one line, or the error of the last reset. An error is shown as it is worded, so each newline in it
is one line too many.

* `Session.textLines_view`: rows and footer of any session.
* `Session.failure_after`: which error a session shows after any run.
* `Session.view_fits_iff_error_is_one_line`: how many lines the view has after any run.
-/

namespace Ricochet

open Terminal (OneLine)

variable {ω ε σ : Type}

/-! ## Drawing without newlines -/

theorem Cell.char_ofChar (c : Char) (color : Color) : (Cell.ofChar c color).char = c := by
  show (if c.toNat.isValidChar then Char.ofNat c.toNat else Utf8.replacement) = c
  have hvalid : c.toNat.isValidChar := c.valid
  rw [if_pos hvalid, Char.ofNat_toNat]

/-- Whether no write shows a newline. -/
def WritesNoNewline (ws : List Write) : Prop := ∀ w ∈ ws, w.cell.char ≠ '\n'

theorem WritesNoNewline.append {ws vs : List Write} (hws : WritesNoNewline ws)
    (hvs : WritesNoNewline vs) : WritesNoNewline (ws ++ vs) := by
  intro w hw
  rcases List.mem_append.mp hw with hw | hw
  · exact hws w hw
  · exact hvs w hw

theorem writesNoNewline_flatMap {β : Type} {items : List β} {shape : β → List Write}
    (h : ∀ item, WritesNoNewline (shape item)) : WritesNoNewline (items.flatMap shape) := by
  intro w hw
  obtain ⟨item, -, hw⟩ := List.mem_flatMap.mp hw
  exact h item w hw

theorem writesNoNewline_textWrites (x y : Int) {text : String} (h : OneLine text) (color : Color) :
    WritesNoNewline (textWrites x y text.toList color) := by
  intro w hw
  obtain ⟨i, c, hc, rfl⟩ := mem_textWrites.mp hw
  rw [Cell.char_ofChar]
  rintro rfl
  exact h (List.mem_of_getElem? hc)

theorem writesNoNewline_boxWrites (s : Screen) (r : Rect) (color : Color) :
    WritesNoNewline (boxWrites s r color) := by
  have hchar : ∀ (x y : Int) (c : Char), c ≠ '\n' →
      (⟨x, y, Cell.ofChar c color⟩ : Write).cell.char ≠ '\n' := by
    intro x y c hc
    rw [Cell.char_ofChar]
    exact hc
  unfold boxWrites
  split
  · intro w hw
    cases hw
  · refine WritesNoNewline.append (WritesNoNewline.append ?_ ?_) ?_
    · intro w hw
      simp only [cornerWrites, List.mem_cons, List.not_mem_nil, or_false] at hw
      rcases hw with rfl | rfl | rfl | rfl <;> exact hchar _ _ _ (by decide)
    · apply writesNoNewline_flatMap
      intro x w hw
      simp only [List.mem_cons, List.not_mem_nil, or_false] at hw
      rcases hw with rfl | rfl <;> exact hchar _ _ _ (by decide)
    · apply writesNoNewline_flatMap
      intro y w hw
      simp only [List.mem_cons, List.not_mem_nil, or_false] at hw
      rcases hw with rfl | rfl <;> exact hchar _ _ _ (by decide)

theorem oneLine_statusLine {α : Type} {title : String} (h : OneLine title) (f : Field α)
    (paused : Bool) : OneLine (statusLine title f paused) := by
  have hplain : OneLine " " ∧ OneLine "  tick " ∧ OneLine "  balls " := by decide
  have hend : OneLine (if paused then "  [paused]" else "") := OneLine.ite (by decide) (by decide) _
  exact (((((hplain.1.append h).append hplain.2.1).append (Terminal.oneLine_intText _)).append
    hplain.2.2).append (Terminal.oneLine_intText _)).append hend

section Balls

variable {α : Type} [Scalar α]

theorem writesNoNewline_ballWrites (s : Screen) (frame : Rect) (v : Viewport α) (b : Ball α) :
    WritesNoNewline (ballWrites s frame v b) := by
  intro w hw
  obtain ⟨⟨x, y⟩, -, rfl⟩ := List.mem_map.mp hw
  rw [Cell.char_ofChar, Ellipse.glyph]
  split <;> decide

theorem writesNoNewline_pictureWrites (s : Screen) (frame : Rect) {title : String}
    (h : OneLine title) (f : Field α) (paused : Bool) :
    WritesNoNewline (pictureWrites s frame title f paused) :=
  ((writesNoNewline_boxWrites s _ _).append
    (writesNoNewline_flatMap (writesNoNewline_ballWrites s frame _))).append
    (writesNoNewline_textWrites _ _ (oneLine_statusLine h f paused) _)

end Balls

/-- Whether a demo draws cell by cell, and no newline. -/
def Demo.DrawsNoNewline (d : Demo ω ε σ) : Prop :=
  ∀ (state : σ) (s : Screen), ∃ ws, d.render state s = s.draw ws ∧ WritesNoNewline ws

theorem Counter.drawsNoNewline (id title : String) {banner : String} (h : OneLine banner)
    (pause? : Option Int) : (Counter.demo id title banner pause?).DrawsNoNewline :=
  fun _ _ => ⟨_, rfl, writesNoNewline_textWrites _ _ h _⟩

/-- The demos of balls draw no newlines, in whatever state. -/
theorem BallKind.drawsNoNewline (kind : BallKind) : kind.demo.DrawsNoNewline := by
  intro b s
  have htitle : OneLine kind.title := by cases kind <;> decide
  show ∃ ws, s.drawShow kind.title b.field b.paused = s.draw ws ∧ WritesNoNewline ws
  unfold Screen.drawShow
  split
  · exact ⟨_, rfl, writesNoNewline_textWrites _ _ (by decide) _⟩
  · cases b.field with
    | none => exact ⟨_, rfl, writesNoNewline_textWrites _ _ (by decide) _⟩
    | some f =>
        exact ⟨_, drawField_eq_draw s _ f _, writesNoNewline_pictureWrites s _ htitle f _⟩

/-! ## The error of the last reset -/

namespace Demo

/-- What became of a reset: its error, if it failed. -/
def Event.outcome? (e : Event ω ε σ) : Option (Option ε) :=
  match e.answer with
  | .reset error => some error
  | .frame _ => none

variable (d : Demo ω ε σ)

/-- The error of the last reset in a history of calls, if there is one and it failed. -/
def lastFailure (s : σ) (calls : List (Call ω)) : Option ε :=
  ((d.history s calls).filterMap Event.outcome?).getLast?.join

theorem lastFailure_concat (s : σ) (calls : List (Call ω)) (c : Call ω) :
    d.lastFailure s (calls ++ [c])
      = match (d.event (d.after s calls) c).answer with
        | .reset error => error
        | .frame _ => d.lastFailure s calls := by
  unfold lastFailure
  rw [history_concat, List.filterMap_append]
  cases hanswer : (d.event (d.after s calls) c).answer <;> simp [Event.outcome?, hanswer]

end Demo

namespace Terminal

/-! ## Looks -/

/-- Whether a look keeps the lines of what it is given: a text in a style has as many of them as the
text, and the help is one line. -/
structure Look.KeepsLines (look : Look) : Prop where
  styled : ∀ style text, (look.styled style text).toList.count '\n' = text.count 0x0A
  help : ∀ width, OneLine (look.help width)

/-- Every terminal keeps the lines of what it is given. -/
theorem Look.keepsLines_ofProfile (p : Profile) : (Look.ofProfile p).KeepsLines where
  styled style text := count_renderBytes style p text
  help width := oneLine_helpLine p width

theorem Look.KeepsLines.oneLine_styled {look : Look} (h : look.KeepsLines) (style : Style)
    {text : String} (htext : OneLine text) : OneLine (look.styled style (Utf8.bytes text)) := by
  rw [OneLine, ← List.count_eq_zero, h.styled]
  exact htext.count_bytes

/-! ## Rows -/

/-- A row of a screen as the terminal shows it. -/
def shownRow (look : Look) (s : Screen) (y : Nat) : String :=
  String.join ((runs (s.rowCells y)).map
    (Run.shown fun c text => look.styled (Style.ofColor c) (Utf8.bytes text)))

theorem shownScreen_eq (look : Look) (s : Screen) :
    shownScreen look s = "\n".intercalate ((List.range s.height).map (shownRow look s)) :=
  Screen.rendered_eq _ _ s

theorem OneLine.join {parts : List String} (h : ∀ part ∈ parts, OneLine part) :
    OneLine (String.join parts) := by
  unfold OneLine
  rw [String.toList_join, List.mem_flatMap]
  rintro ⟨part, hpart, hmem⟩
  exact h part hpart hmem

section Rows

variable {s : Screen} (hs : s.WellFormed)
  (hchars : ∀ x y, s.onScreen x y = true → (s.get x y).char ≠ '\n')
  {look : Look} (hlook : look.KeepsLines)

include hs hchars hlook

theorem oneLine_shownRow {y : Nat} (hy : y < s.height) : OneLine (shownRow look s y) := by
  apply OneLine.join
  intro part hpart
  obtain ⟨r, hr, rfl⟩ := List.mem_map.mp hpart
  have hrun : OneLine (String.ofList r.chars) := by
    intro hmem
    rw [String.toList_ofList] at hmem
    obtain ⟨x, hon, hx⟩ := Screen.exists_of_mem_chars hs hy hr hmem
    exact hchars x y hon hx
  exact (hlook.oneLine_styled _ hrun).ite hrun _

theorem textLines_shownScreen (hpos : 0 < s.height) :
    textLines (shownScreen look s)
      = (List.range s.height).map fun y => (shownRow look s y).toList := by
  rw [shownScreen_eq, textLines_intercalate, List.map_map]
  · rfl
  · rw [ne_eq, List.map_eq_nil_iff, List.range_eq_nil]
    omega
  · intro line hline
    obtain ⟨y, hy, rfl⟩ := List.mem_map.mp hline
    exact oneLine_shownRow hs hchars hlook (List.mem_range.mp hy)

end Rows

namespace Session

variable {d : Demo ω ε σ} {m : Session ε σ} {look : Look}

/-! ## Rows and footer -/

/-- The lines of the footer: one, and one more for each newline in an error. -/
theorem length_textLines_footer (m : Session ε σ) (d : Demo ω ε σ) (hlook : look.KeepsLines) :
    (textLines (m.footer d look)).length
      = 1 + (m.failure.elim 0 fun e => (d.explain e).count 0x0A) := by
  unfold footer
  cases m.failure with
  | none => rw [(hlook.help _).textLines_eq]; rfl
  | some e =>
      -- What stands before the error has no newline, so all of them are its own.
      have herror : (Utf8.bytes "error: ").count 0x0A = 0 := OneLine.count_bytes (by decide)
      show (textLines (look.styled errorStyle (Utf8.bytes "error: " ++ d.explain e))).length
        = 1 + (d.explain e).count 0x0A
      rw [length_textLines, hlook.styled, List.count_append, herror]
      omega

/-- The lines of a view: the rows of the screen, then those of the footer. -/
theorem textLines_view (hd : d.DrawsNoNewline) (hquitting : m.quitting = false)
    (hpos : 0 < m.screen.height) (hlook : look.KeepsLines) :
    textLines (m.view d look)
      = (List.range m.screen.height).map (fun y =>
          (shownRow look (d.render m.demo m.screen.clear) y).toList)
        ++ textLines (m.footer d look) := by
  obtain ⟨ws, hdraw, hws⟩ := hd m.demo m.screen.clear
  have hclear : m.screen.clear.WellFormed := Screen.wellFormed_sized _ _
  have hheight : (m.screen.clear.draw ws).height = m.screen.height := Screen.height_draw _ _
  have hchars : ∀ x y, (m.screen.clear.draw ws).onScreen x y = true →
      ((m.screen.clear.draw ws).get x y).char ≠ '\n' := by
    intro x y hon
    have hblank : (m.screen.clear.get x y).char ≠ '\n' := by
      rw [Screen.clear, Screen.get_sized]
      decide
    have hon' : m.screen.clear.onScreen x y = true := by
      simpa [Screen.onScreen] using hon
    exact Screen.get_draw_of_forall (P := fun c => c.char ≠ '\n') hclear hblank hws hon'
  have hview : m.view d look
      = shownScreen look (m.screen.clear.draw ws) ++ "\n" ++ m.footer d look := by
    rw [view, hquitting, hdraw]
    rfl
  rw [hview, textLines_append_newline,
    textLines_shownScreen (hclear.draw ws) hchars hlook (by omega), hheight, hdraw]

/-! ## After a run -/

/-- **Every run.** A session shows the error of the last reset that its messages made. -/
theorem failure_after (d : Demo ω ε σ) (options : RunOptions) (s : σ)
    (arrivals : List (ω × Message)) :
    ((new d options s).after d arrivals).failure = d.lastFailure s (calls options arrivals) := by
  induction arrivals using List.reverseRecOn with
  | nil => rfl
  | append_singleton arrivals a ih =>
      obtain ⟨world, msg⟩ := a
      have hfollows := follows_after d options s arrivals
      rw [after_concat]
      cases htick : msg.isTick with
      | true =>
          cases msg with
          | tick now =>
              rw [update_tick, calls_concat_tick, d.lastFailure_concat, ← hfollows.demo,
                ← hfollows.nextCall_eq]
              generalize (d.event _ (nextCall _ world now)).answer = answer
              cases answer with
              | reset error => rfl
              | frame result => exact ih
          | _ => cases htick
      | false =>
          rw [update_of_not_tick _ d world htick, calls_concat_of_not_tick options _ world htick]
          exact ih

/-- **The view fits unless the error has a newline.** Take a demo that draws no newlines, and let
any messages reach its session, with any errors of resets on the way. Take any look that keeps the
lines of what it is given; that of every terminal does. If the session is not being left and the
last known height of the terminal is at least two, the view is the rows of the screen, one less than
the height, followed by the footer. The session shows the error of the last reset, if that failed;
the footer is one line, and one more for each newline in the error. So the view has as many lines as
the terminal exactly if there is no newline in the error shown. -/
theorem view_fits_iff_error_is_one_line (hd : d.DrawsNoNewline) (options : RunOptions) (s : σ)
    (arrivals : List (ω × Message)) :
    (∀ p, (Look.ofProfile p).KeepsLines)
    ∧ ∀ look : Look, look.KeepsLines →
      let m := (new d options s).after d arrivals
      let height := (lastSize options (arrivals.map Prod.snd)).2
      m.quitting = false → 2 ≤ height → height ≤ maxWord →
        textLines (m.view d look)
          = (List.range (height - 1).toNat).map (fun y =>
              (shownRow look (d.render m.demo m.screen.clear) y).toList)
            ++ textLines (m.footer d look)
        ∧ m.failure = d.lastFailure s (calls options arrivals)
        ∧ (textLines (m.footer d look)).length
          = 1 + (m.failure.elim 0 fun e => (d.explain e).count 0x0A)
        ∧ (((textLines (m.view d look)).length : Int) = height
          ↔ ∀ e, m.failure = some e → 0x0A ∉ d.explain e) := by
  refine ⟨Look.keepsLines_ofProfile, ?_⟩
  intro look hlook m height hquitting hlo hhi
  have hscreen : m.screen.height = (height - 1).toNat := by
    have hleast : minWord < height := by
      simp only [minWord]
      omega
    rw [(follows_after d options s arrivals).height, fieldHeight_of_mem hleast hhi]
    omega
  have hfooter := length_textLines_footer m d hlook
  have hview := textLines_view hd hquitting (by omega) hlook
  rw [hscreen] at hview
  refine ⟨hview, failure_after d options s arrivals, hfooter, ?_⟩
  rw [hview, List.length_append, List.length_map, List.length_range, hfooter]
  constructor
  · intro hlength e he
    rw [he, Option.elim_some] at hlength
    apply List.count_eq_zero.mp
    omega
  · intro honeLine
    cases he : m.failure with
    | none =>
        rw [Option.elim_none]
        omega
    | some e =>
        rw [Option.elim_some, List.count_eq_zero.mpr (honeLine e he)]
        omega

/-- A restart that finds a settings file with a number in the place of a record. -/
def brokenRestart : List (Surroundings × Message) :=
  [(Settings.fileWorld "domain: 5", .key (.typed "r" false)),
    (Settings.fileWorld "domain: 5", .tick 7)]

/-- The same, and a second restart after the file was mended. -/
def mendedRestart : List (Surroundings × Message) :=
  brokenRestart ++ [(Settings.hastyWorld, .key (.typed "r" false)), (Settings.hastyWorld, .tick 8)]

/-- A session with the demo of one ball on a terminal of 24 lines, after messages. -/
def ballSession (arrivals : List (Surroundings × Message)) :
    Session PrepareError (BallShow Float) :=
  (new BallKind.single.demo .default BallKind.single.demo.fresh).after BallKind.single.demo arrivals

/-- The error of the broken file is worded in two lines, so a view of 24 lines gets one more. After
the file was mended, the view fits again. -/
theorem view_fits_iff_error_is_one_line_restarts :
    let lines := fun arrivals =>
      ((textLines ((ballSession arrivals).view BallKind.single.demo
        (.ofProfile .trueColor))).length : Int)
    BallKind.single.demo.DrawsNoNewline
    ∧ ((ballSession brokenRestart).quitting = false
      ∧ ((ballSession brokenRestart).failure.map fun e =>
        (BallKind.single.demo.explain e).count 0x0A) = some 1
      ∧ lines brokenRestart ≠ 24)
    ∧ (ballSession mendedRestart).quitting = false ∧ (ballSession mendedRestart).failure = none
    ∧ lines mendedRestart = 24 := by
  have hd := BallKind.drawsNoNewline .single
  obtain ⟨hbroken, herror⟩ : (ballSession brokenRestart).quitting = false
      ∧ ((ballSession brokenRestart).failure.map fun e =>
        (BallKind.single.demo.explain e).count 0x0A) = some 1 := by
    decide +kernel
  obtain ⟨hmended, hnone⟩ : (ballSession mendedRestart).quitting = false
      ∧ (ballSession mendedRestart).failure = none := by
    decide +kernel
  obtain ⟨hprofile, hbrokenView⟩ :=
    view_fits_iff_error_is_one_line hd .default BallKind.single.demo.fresh brokenRestart
  obtain ⟨-, hmendedView⟩ :=
    view_fits_iff_error_is_one_line hd .default BallKind.single.demo.fresh mendedRestart
  obtain ⟨-, -, -, hbrokenFits⟩ :=
    hbrokenView _ (hprofile .trueColor) hbroken (by decide) (by decide)
  obtain ⟨-, -, -, hmendedFits⟩ :=
    hmendedView _ (hprofile .trueColor) hmended (by decide) (by decide)
  refine ⟨hd, ⟨hbroken, herror, fun hlength => ?_⟩, hmended, hnone, hmendedFits.mpr fun e he => ?_⟩
  · obtain ⟨e, he, hcount⟩ := Option.map_eq_some_iff.mp herror
    have hnot := List.count_eq_zero.mpr (hbrokenFits.mp hlength e he)
    rw [hcount] at hnot
    cases hnot
  · cases hnone.symm.trans he

/-- A restart that is refused in two lines. -/
def refusedRestart : List (String × Message) :=
  [("a\nb", .key (.typed "r" false)), ("a\nb", .tick 7)]

/-- On a terminal of three lines, a refusal in two lines makes four. -/
theorem two_line_error_outgrows_terminal :
    let d := Counter.demo "stub" "Stub" "stub frame" none
    let options := { RunOptions.default with width := 20, height := 3 }
    let m := (new d options d.fresh).after d refusedRestart
    d.DrawsNoNewline ∧ m.quitting = false
    ∧ (lastSize options (refusedRestart.map Prod.snd)).2 = 3
    ∧ m.view d (.ofProfile .plain)
      = "stub frame          \n" ++ "                    \n" ++ "error: a\n" ++ "b       "
    ∧ (textLines (m.view d (.ofProfile .plain))).length = 4 := by
  intro d options m
  have hview : m.view d (.ofProfile .plain)
      = "stub frame          \n" ++ "                    \n" ++ "error: a\n" ++ "b       " := by
    decide +kernel
  refine ⟨Counter.drawsNoNewline _ _ (by decide) _, by decide +kernel, rfl, hview, ?_⟩
  rw [hview]
  decide +kernel

end Session

end Terminal

end Ricochet
