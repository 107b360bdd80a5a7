import Ricochet.Proofs.FixedText
import Ricochet.Proofs.RunCalls
import Ricochet.Proofs.TraceLines

set_option autoImplicit false

/-! # A trace is a record of its run

A traced run has three counters: the renderer numbers its frames, the field counts its steps, and
the run counts the frames that it has made. All of them start at zero in a run of a field that was
just made (`Field.Built`), and a frame moves each by one, so the first field of a line is right by
any of them.

A trace gives its writer one text for each line. As long as the writer takes them (`Takes`), the
state of the renderer is the state that the writer is in after the lines so far
(`rendererAfter_of_takes`). The first text that the writer refuses is the answer of the frame it
belongs to (`answer_of_refused`), and the run ends there.

* `trace_records_run`: the lines of a run, and what becomes of it when a writer takes or refuses
  them.
-/

namespace Ricochet

/-! ## Fields just made -/

/-- Whether a field has just been made, by hand or at random. -/
inductive Field.Built (f : Field Float) : Prop where
  | placed (d : Domain Float) (balls : List (Ball Float)) (h : Field.ofBalls d balls = .ok f)
  | drawn (σ : Type) (src : Source σ Float) (p : Params Float) (s s' : σ)
      (h : Field.sample src p s = .ok (f, s'))

namespace Field.Built

variable {f : Field Float}

theorem tick_eq (hf : f.Built) : f.tick = 0 := by
  cases hf with
  | placed d balls h =>
      obtain ⟨-, -, rfl⟩ := Field.ofBalls_eq_ok.mp h
      rfl
  | drawn σ src p s s' h =>
      rw [Field.sample_of_usable src (Field.usable_of_sample h)] at h
      cases h
      rfl

/-- The balls of a field are numbered by their places. -/
theorem id_eq (hf : f.Built) {i : Nat} {b : Ball Float} (hb : f.balls[i]? = some b) : b.id = i := by
  cases hf with
  | placed d balls h =>
      obtain ⟨-, -, rfl⟩ := Field.ofBalls_eq_ok.mp h
      rw [Field.numberedFrom, List.getElem?_mapIdx, Option.map_eq_some_iff] at hb
      obtain ⟨c, -, rfl⟩ := hb
      rw [Nat.zero_add]
  | drawn σ src p s s' h =>
      rw [Field.sample_of_usable src (Field.usable_of_sample h)] at h
      cases h
      rw [List.getElem?_map, Option.map_eq_some_iff] at hb
      obtain ⟨j, hj, rfl⟩ := hb
      obtain ⟨-, rfl⟩ := List.getElem?_eq_some_iff.mp hj
      rw [List.getElem_range, Field.drawnBall, Field.ball_sampleBall]

theorem tick_steps_eq (hf : f.Built) (n : Nat) : (f.steps n).tick = UInt64.ofNat n := by
  rw [Field.tick_steps, hf.tick_eq, UInt64.zero_add]

end Field.Built

namespace Run

variable {ω ε : Type}

/-! ## Writers -/

/-- Whether a writer takes texts one after the other, and is in the state `w'` then. -/
def Takes (write : Writer ω ε) (w : ω) (texts : List String) (w' : ω) : Prop :=
  texts.foldlM write w = .ok w'

theorem takes_cons {write : Writer ω ε} {w w' : ω} {text : String} {texts : List String} :
    Takes write w (text :: texts) w' ↔ ∃ v, write w text = .ok v ∧ Takes write v texts w' := by
  unfold Takes
  rw [List.foldlM_cons]
  cases write w text with
  | error e =>
      constructor
      · intro h
        cases h
      · rintro ⟨v, h, -⟩
        cases h
  | ok v =>
      constructor
      · intro h
        exact ⟨v, rfl, h⟩
      · rintro ⟨v', h, htexts⟩
        cases h
        exact htexts

theorem takes_append {write : Writer ω ε} {w w' : ω} {texts later : List String} :
    Takes write w (texts ++ later) w' ↔ ∃ v, Takes write w texts v ∧ Takes write v later w' := by
  induction texts generalizing w with
  | nil =>
      constructor
      · intro h
        exact ⟨w, rfl, h⟩
      · rintro ⟨v, h, hlater⟩
        cases h
        exact hlater
  | cons text texts ih =>
      rw [List.cons_append, takes_cons]
      simp only [ih, takes_cons]
      constructor
      · rintro ⟨v, hv, u, hu, hlater⟩
        exact ⟨u, ⟨v, hv, hu⟩, hlater⟩
      · rintro ⟨u, ⟨v, hv, hu⟩, hlater⟩
        exact ⟨v, hv, u, hu, hlater⟩

/-- A writer that never fails takes everything. -/
theorem exists_takes {write : Writer ω ε} (h : ∀ v text, ∃ v', write v text = .ok v') (w : ω)
    (texts : List String) : ∃ w', Takes write w texts w' := by
  induction texts generalizing w with
  | nil => exact ⟨w, rfl⟩
  | cons text texts ih =>
      obtain ⟨v, hv⟩ := h w text
      obtain ⟨w', hw'⟩ := ih v
      exact ⟨w', takes_cons.mpr ⟨v, hv, hw'⟩⟩

/-- What comes after texts that were taken is written in the state they leave. -/
theorem writeAll_append_of_takes {write : Writer ω ε} {w w' : ω} {texts : List String}
    (h : Takes write w texts w') (later : List String) :
    writeAll write w (texts ++ later) = writeAll write w' later := by
  induction texts generalizing w with
  | nil =>
      cases h
      rfl
  | cons text texts ih =>
      obtain ⟨v, hv, htexts⟩ := takes_cons.mp h
      rw [List.cons_append, writeAll, hv]
      exact ih htexts

theorem writeAll_of_takes {write : Writer ω ε} {w w' : ω} {texts : List String}
    (h : Takes write w texts w') : writeAll write w texts = (w', none) := by
  have hall := writeAll_append_of_takes h []
  rw [List.append_nil] at hall
  exact hall

theorem writeAll_of_refused {write : Writer ω ε} {w w' : ω} {texts later : List String}
    {text : String} {e : ε} (htaken : Takes write w texts w')
    (hrefused : write w' text = .error e) :
    writeAll write w (texts ++ text :: later) = (w', some e) := by
  rw [writeAll_append_of_takes htaken, writeAll, hrefused]

/-! ## How long a run lasts -/

/-- Whether a run has `k` frames if no drawing fails: it ends there by its budget or because it is
cancelled, and not before. -/
def Lasts (budget : UInt64) (signals : Nat → Signal) (k : Nat) : Prop :=
  IsLeast { n | (budget ≠ 0 ∧ n = budget.toNat) ∨ signals n = .cancelled } k

/-- A run with a budget has as many frames, unless it is cancelled before. -/
theorem lasts_budget {budget : UInt64} (hbudget : budget ≠ 0) {signals : Nat → Signal}
    (h : ∀ j < budget.toNat, signals j = .proceed) : Lasts budget signals budget.toNat := by
  refine ⟨.inl ⟨hbudget, rfl⟩, ?_⟩
  rintro n (⟨-, rfl⟩ | hcancelled)
  · exact le_rfl
  · by_contra hlt
    rw [h n (not_le.mp hlt)] at hcancelled
    cases hcancelled

section Stops

variable {budget : UInt64} {k : Nat} {signals : Nat → Signal} {answers : Nat → Option ε}

theorem Lasts.isLeast_stops (h : Lasts budget signals k) (hnone : ∀ j < k, answers j = none) :
    IsLeast (stops budget signals answers) k := by
  refine ⟨h.1.elim .inl fun hcancelled => .inr (.inl hcancelled), ?_⟩
  rintro n (hbudget | hcancelled | ⟨j, rfl, hfailed⟩)
  · exact h.2 (.inl hbudget)
  · exact h.2 (.inr hcancelled)
  · by_contra hlt
    rw [hnone j (by omega)] at hfailed
    cases hfailed

theorem Lasts.isLeast_stops_of_failed (h : Lasts budget signals k) {g : Nat} (hg : g < k)
    (hbefore : ∀ j < g, answers j = none) {e : ε} (hfailed : answers g = some e) :
    IsLeast (stops budget signals answers) (g + 1) := by
  refine ⟨.inr (.inr ⟨g, rfl, by rw [hfailed]; rfl⟩), ?_⟩
  rintro n (hbudget | hcancelled | ⟨j, rfl, hsome⟩)
  · have hle : k ≤ n := h.2 (.inl hbudget)
    omega
  · have hle : k ≤ n := h.2 (.inr hcancelled)
    omega
  · by_contra hlt
    rw [hbefore j (by omega)] at hsome
    cases hsome

end Stops

/-! ## Traced frames -/

section Frames

variable (write : Writer ω ε) (f : Field Float) {w w' : ω}

/-- One frame of a trace hands its lines to the writer, whatever came before. -/
theorem draw_lines (j : Nat) (w : ω) :
    Trace.draw write .lines ⟨w, UInt64.ofNat j⟩ (f.steps (j + 1)).domain (f.steps (j + 1)).balls
      = (⟨(writeAll write w ((frameLines f j).map terminated)).1, UInt64.ofNat (j + 1)⟩,
        (writeAll write w ((frameLines f j).map terminated)).2) := by
  have hframe : UInt64.ofNat j + 1 = UInt64.ofNat (j + 1) := (UInt64.ofNat_add j 1).symm
  have htexts : (f.steps (j + 1)).balls.map (traceLine (UInt64.ofNat (j + 1)))
      = (frameLines f j).map terminated := by
    rw [frameLines, List.map_map]
    exact List.map_congr_left fun b _ => traceLine_eq _ b
  rw [← hframe] at htexts ⊢
  rw [← htexts]
  rfl

/-- As long as all lines are taken, no frame fails, and the renderer holds the state of the writer
and the number of frames. -/
theorem rendererAfter_of_takes {k : Nat} (h : Takes write w ((runLines f k).map terminated) w') :
    rendererAfter (Trace.draw write .lines) f ⟨w, 0⟩ k = ⟨w', UInt64.ofNat k⟩
      ∧ ∀ j < k, answer (Trace.draw write .lines) f ⟨w, 0⟩ j = none := by
  induction k generalizing w' with
  | zero =>
      cases h
      exact ⟨rfl, fun j hj => absurd hj (Nat.not_lt_zero j)⟩
  | succ k ih =>
      -- The writer is in the state `v` between the frames before and the frame now drawn.
      rw [runLines_succ, List.map_append, takes_append] at h
      obtain ⟨v, hbefore, hframe⟩ := h
      obtain ⟨hrenderer, hanswers⟩ := ih hbefore
      have hdraw := draw_lines write f k v
      rw [writeAll_of_takes hframe] at hdraw
      refine ⟨?_, fun j hj => ?_⟩
      · rw [rendererAfter, hrenderer, hdraw]
      · rcases Nat.lt_succ_iff_lt_or_eq.mp hj with hj | rfl
        · exact hanswers j hj
        · rw [answer, hrenderer, hdraw]

/-- A line that is refused ends its frame, in the state that the lines before it left. -/
theorem answer_of_refused {g i : Nat} {line : List Char} {e : ε}
    (hline : (frameLines f g)[i]? = some line)
    (htaken : Takes write w ((runLines f g ++ (frameLines f g).take i).map terminated) w')
    (hrefused : write w' (terminated line) = .error e) :
    rendererAfter (Trace.draw write .lines) f ⟨w, 0⟩ (g + 1) = ⟨w', UInt64.ofNat (g + 1)⟩
      ∧ answer (Trace.draw write .lines) f ⟨w, 0⟩ g = some e
      ∧ ∀ j < g, answer (Trace.draw write .lines) f ⟨w, 0⟩ j = none := by
  rw [List.map_append, takes_append] at htaken
  obtain ⟨v, hbefore, hframe⟩ := htaken
  obtain ⟨hrenderer, hanswers⟩ := rendererAfter_of_takes write f hbefore
  -- Of the lines of its frame, those before the line are taken, and none is written after it.
  have hsplit : (frameLines f g).map terminated
      = ((frameLines f g).take i).map terminated
        ++ terminated line :: ((frameLines f g).drop (i + 1)).map terminated := by
    obtain ⟨hi, rfl⟩ := List.getElem?_eq_some_iff.mp hline
    rw [← List.map_cons, ← List.map_append, List.getElem_cons_drop, List.take_append_drop]
  have hdraw := draw_lines write f g v
  rw [hsplit, writeAll_of_refused hframe hrefused] at hdraw
  refine ⟨?_, ?_, hanswers⟩
  · rw [rendererAfter, hrenderer, hdraw]
  · rw [answer, hrenderer, hdraw]

end Frames

/-! ## Traced runs -/

/-- What the line of the ball `i` in frame `g` tells, field by field: the frame, which is also the
tick, the number of the ball, and what the ball is after `g` steps, each number rounded to three
places. -/
def Tells (f : Field Float) (g i : Nat) (line : List Char) : Prop :=
  ∃ (b : Ball Float) (x y vx vy radius color : String),
    (f.steps g).balls[i]? = some b ∧ b.id = i ∧ (f.steps g).tick.toNat = g
    ∧ line.splitOn ' '
      = [toString g, toString i, x, y, vx, vy, radius, color].map String.toList
    ∧ (Decimal.IsFixed 3 b.x.pos x ∧ Decimal.IsFixed 3 b.y.pos y)
    ∧ (Decimal.IsFixed 3 b.x.vel vx ∧ Decimal.IsFixed 3 b.y.vel vy)
    ∧ Decimal.IsFixed 3 b.radius radius
    ∧ (color = "-" ↔ b.color.set = false)
    ∧ (b.color.set = true → Color.parse color = .ok b.color)

theorem isFixed_traceNumber (x : Float) : Decimal.IsFixed 3 x (traceNumber x) :=
  Decimal.isFixed_iff.mpr rfl

theorem tells_frameLines {f : Field Float} (hf : f.Built) {g i : Nat} (hg : g + 1 < 2 ^ 64)
    (hi : i < f.balls.length) :
    ∃ line, (frameLines f g)[i]? = some line ∧ Tells f (g + 1) i line := by
  have hball : (f.steps (g + 1)).balls[i]? = some ((Ball.advance f.domain)^[g + 1] f.balls[i]) := by
    rw [Field.getElem?_balls_steps, List.getElem?_eq_getElem hi]
    rfl
  have hid : ((Ball.advance f.domain)^[g + 1] f.balls[i]).id = i := by
    have hsame : ((Ball.advance f.domain)^[g + 1] f.balls[i]).id = f.balls[i].id := by
      rw [Ball.advance_iterate]
    exact hsame.trans (hf.id_eq (List.getElem?_eq_getElem hi))
  have hframe : (UInt64.ofNat (g + 1)).toNat = g + 1 := UInt64.toNat_ofNat_of_lt' hg
  refine ⟨_, by rw [frameLines, List.getElem?_map, hball]; rfl, _, _, _, _, _, _, _, hball, hid,
    ?_, ?_, ⟨isFixed_traceNumber _, isFixed_traceNumber _⟩,
    ⟨isFixed_traceNumber _, isFixed_traceNumber _⟩, isFixed_traceNumber _,
    traceColor_eq_dash_iff _, parse_traceColor⟩
  · rw [hf.tick_steps_eq, hframe]
  · rw [splitOn_lineText, lineFields, traceFields, hframe, hid, Decimal.intText_natCast,
      Decimal.intText_natCast]

/-- **A trace is an unambiguous record of its run.** Take a field that was just made and a number of
frames that fits a word. A run of so many frames has a line for each frame and each ball, frame by
frame, and each line splits at its blanks into the eight fields that tell of its ball in its frame.
The text of these lines, each with its end, splits back into them. Whatever the writer, a run that
lasts so many frames writes exactly these lines if the writer takes them, which one that never fails
does. If the writer refuses one of them, the run stops in the frame of this line, with the error of
the writer. -/
theorem trace_records_run {f : Field Float} (hf : f.Built) {k : Nat} (hk : k < 2 ^ 64) :
    ∃ lines : List (List Char), lines.length = k * f.balls.length
      ∧ (∀ g i, 1 ≤ g → g ≤ k → i < f.balls.length →
        ∃ line, lines[(g - 1) * f.balls.length + i]? = some line ∧ Tells f g i line)
      ∧ (String.join (lines.map terminated)).toList.splitOn '\n' = lines ++ [[]]
      ∧ ∀ (ω ε : Type) (write : Writer ω ε) (w : ω) (budget : UInt64) (signals : Nat → Signal),
        Lasts budget signals k →
        (∀ w', Takes write w (lines.map terminated) w' →
          (Stage.live (Trace.draw write .lines)).run budget signals k ⟨f, ⟨w, 0⟩⟩
            = some ⟨⟨f.steps k, ⟨w', UInt64.ofNat k⟩⟩, UInt64.ofNat k, none⟩)
        ∧ ((∀ v text, ∃ v', write v text = .ok v') → ∃ w', Takes write w (lines.map terminated) w')
        ∧ ∀ g i line w' e, 1 ≤ g → g ≤ k → i < f.balls.length →
          lines[(g - 1) * f.balls.length + i]? = some line →
          Takes write w ((lines.take ((g - 1) * f.balls.length + i)).map terminated) w' →
          write w' (terminated line) = .error e →
          (Stage.live (Trace.draw write .lines)).run budget signals k ⟨f, ⟨w, 0⟩⟩
            = some ⟨⟨f.steps g, ⟨w', UInt64.ofNat g⟩⟩, UInt64.ofNat g,
              some ⟨UInt64.ofNat g, e⟩⟩ := by
  refine ⟨runLines f k, length_runLines f k, ?_, ?_, ?_⟩
  · -- Frames are numbered from one, and the frame `g + 1` is drawn after `g` others.
    intro g i hg hgk hi
    obtain ⟨g, rfl⟩ : ∃ h, g = h + 1 := ⟨g - 1, by omega⟩
    rw [Nat.add_sub_cancel, getElem?_runLines f (by omega) hi]
    exact tells_frameLines hf (by omega) hi
  · exact splitOn_join_terminated fun line => newline_not_mem_runLines
  · intro ω ε write w budget signals hlasts
    refine ⟨fun w' htaken => ?_, fun hnever => exists_takes hnever w _, ?_⟩
    · obtain ⟨hrenderer, hanswers⟩ := rendererAfter_of_takes write f htaken
      have hleast := hlasts.isLeast_stops hanswers
      -- Nothing fails, so the run lasts as long as budget and signals let it.
      refine (Stage.run_live_iff _ f _ budget signals).mpr ⟨k, le_rfl, hleast, ?_⟩
      rw [hrenderer, (failureAfter_eq_none_iff _ f _ hleast).mpr hanswers]
    · intro g i line w' e hg hgk hi hline htaken hrefused
      obtain ⟨g, rfl⟩ : ∃ h, g = h + 1 := ⟨g - 1, by omega⟩
      rw [Nat.add_sub_cancel, getElem?_runLines f (by omega) hi] at hline
      rw [Nat.add_sub_cancel, take_runLines f (by omega) hi] at htaken
      obtain ⟨hrenderer, hanswer, hbefore⟩ := answer_of_refused write f hline htaken hrefused
      have hleast := hlasts.isLeast_stops_of_failed (by omega) hbefore hanswer
      refine (Stage.run_live_iff _ f _ budget signals).mpr ⟨g + 1, hgk, hleast, ?_⟩
      rw [hrenderer, failureAfter, hanswer, Option.map_some, hf.tick_steps_eq]

/-- Two balls in a box of 10 by 12. The second has no colour, and its velocity is not a number on
one axis and infinite on the other. -/
def tracedField : Field Float :=
  { domain := ⟨10, 12⟩
    balls := [⟨0, ⟨8, -3⟩, ⟨5, 0.25⟩, 1, Color.orange⟩,
      ⟨1, ⟨4, Float.ofBits 0x7ff8000000000000⟩, ⟨3, Float.ofBits 0xfff0000000000000⟩, 2,
        Color.default⟩]
    tick := 0 }

theorem built_tracedField : tracedField.Built := by
  refine .placed ⟨10, 12⟩ tracedField.balls (Field.ofBalls_eq_ok.mpr ⟨by decide +kernel, ?_, rfl⟩)
  unfold Field.Fits
  decide +kernel

/-- A writer that keeps all texts. -/
def notebook : Writer (List String) Empty := fun texts text => .ok (texts ++ [text])

/-- A writer that counts texts and refuses the fourth. -/
def takesThree : Writer Nat String := fun n _ => if n = 3 then .error "torn" else .ok (n + 1)

/-- What is written in two frames of these balls. -/
def tracedTexts : List String :=
  ["1 0 5.000 5.250 -3.000 0.250 1.000 #f58025\n", "1 1 NaN +Inf NaN +Inf 2.000 -\n",
    "2 0 2.000 5.500 -3.000 0.250 1.000 #f58025\n", "2 1 NaN NaN NaN -Inf 2.000 -\n"]

/-- A run of two frames: four lines, of which the last one tells of the second ball. A writer that
refuses the last line stops the run in the second frame, as its budget is used up. -/
theorem trace_records_run_two_balls :
    ∃ lines : List (List Char),
      lines.map terminated = tracedTexts
      ∧ (∃ line, lines[3]? = some line ∧ Tells tracedField 2 1 line)
      ∧ (Stage.live (Trace.draw notebook .lines)).run 2 (fun _ => .proceed) 2 ⟨tracedField, ⟨[], 0⟩⟩
          = some ⟨⟨tracedField.steps 2, ⟨lines.map terminated, 2⟩⟩, 2, none⟩
      ∧ (Stage.live (Trace.draw takesThree .lines)).run 2 (fun _ => .proceed) 2
          ⟨tracedField, ⟨0, 0⟩⟩
          = some ⟨⟨tracedField.steps 2, ⟨3, 2⟩⟩, 2, some ⟨2, "torn"⟩⟩ := by
  obtain ⟨lines, hlength, htells, -, hrun⟩ :=
    trace_records_run built_tracedField (k := 2) (by decide)
  have hlasts : Lasts 2 (fun _ => .proceed) 2 := lasts_budget (by decide) fun _ _ => rfl
  obtain ⟨a, b, c, d, rfl⟩ : ∃ a b c d, lines = [a, b, c, d] := List.length_eq_four.mp hlength
  have hnoted := (hrun (List String) Empty notebook [] 2 _ hlasts).1 _ rfl
  refine ⟨_, ?_, htells 2 1 (by decide) (by decide) (by decide), hnoted, ?_⟩
  · have htexts : some ([a, b, c, d].map terminated) = some tracedTexts :=
      (congrArg (·.map (·.world.renderer.out)) hnoted).symm.trans (by decide +kernel)
    exact Option.some.inj htexts
  · exact (hrun Nat String takesThree 0 2 _ hlasts).2.2 2 1 d 3 "torn" (by decide) (by decide)
      (by decide) rfl rfl rfl

end Run

end Ricochet
