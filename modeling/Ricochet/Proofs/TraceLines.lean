import Ricochet.Run.Trace
import Ricochet.Proofs.ColorRoundTrip
import Ricochet.Proofs.Independence
import Ricochet.Proofs.StyledText

set_option autoImplicit false

/-! # The lines of a trace

A line of a trace has eight fields with a blank between them and a line end behind them. What stands
in a field never holds a blank or a line end, whatever the number or the colour is (`IsWord`):
numbers consist of digits, a point and a sign, or are spelled `NaN` and `Inf`. So the fields can be
read back from the line (`splitOn_lineText`), and the lines from the text
(`splitOn_join_terminated`).

The lines of a run come frame by frame (`runLines`), and as every frame has a line for each ball,
the place of a line tells its frame and its ball (`getElem?_runLines`).
-/

namespace Ricochet.Run

/-! ## Words -/

/-- Whether a text can be a field of a line: it has no blank and no line end. -/
def IsWord (s : String) : Prop := ' ' ∉ s.toList ∧ '\n' ∉ s.toList

instance (s : String) : Decidable (IsWord s) := inferInstanceAs (Decidable (_ ∧ _))

/-- What holds of all characters of a text, and neither of the blank nor of the line end, makes it a
word. -/
theorem isWord_of_forall {s : String} (P : Char → Prop) (h : ∀ c ∈ s.toList, P c) (hblank : ¬ P ' ')
    (hend : ¬ P '\n') : IsWord s :=
  ⟨fun hc => hblank (h _ hc), fun hc => hend (h _ hc)⟩

theorem isWord_intText (n : Int) : IsWord (Decimal.intText n) :=
  isWord_of_forall (fun c => c = '-' ∨ c.isDigit = true) (fun _ => Terminal.mem_intText) (by decide)
    (by decide)

theorem mem_pointed {places units : Nat} {c : Char} (h : c ∈ Decimal.pointed places units) :
    c = '.' ∨ c.isDigit = true := by
  have hdigits : ∀ d ∈ List.replicate (places + 1 - (Decimal.natChars units).length) '0'
      ++ Decimal.natChars units, d.isDigit = true := by
    intro d hd
    rcases List.mem_append.mp hd with hd | hd
    · rw [List.eq_of_mem_replicate hd]
      rfl
    · exact Nat.isDigit_of_mem_toDigits (by decide) (by decide) hd
  unfold Decimal.pointed at h
  simp only at h
  split at h
  · exact .inr (hdigits c (List.mem_of_mem_take h))
  · rcases List.mem_append.mp h with h | h
    · exact .inr (hdigits c (List.mem_of_mem_take h))
    · rcases List.mem_cons.mp h with h | h
      · exact .inl h
      · exact .inr (hdigits c (List.mem_of_mem_drop h))

/-- Every binary64 number is written as a word, not-a-number and the infinities included. -/
theorem isWord_traceNumber (x : Float) : IsWord (traceNumber x) := by
  unfold traceNumber Decimal.fixed
  cases Binary64.ofFloat x with
  | nan => decide
  | infinite negative =>
      cases negative with
      | false => decide
      | true => decide
  | finite negative m e =>
      refine isWord_of_forall (fun c => c = '-' ∨ c = '.' ∨ c.isDigit = true) (fun c hc => ?_)
        (by decide) (by decide)
      rw [String.toList_ofList] at hc
      cases negative with
      | false =>
          rw [if_neg Bool.false_ne_true] at hc
          exact .inr (mem_pointed hc)
      | true =>
          rw [if_pos rfl] at hc
          rcases List.mem_cons.mp hc with hc | hc
          · exact .inl hc
          · exact .inr (mem_pointed hc)

theorem isWord_traceColor (c : Color) : IsWord (traceColor c) := by
  unfold traceColor
  split
  · rename_i hset
    rw [Color.hex_of_set hset]
    refine isWord_of_forall (fun d => d = '#' ∨ IsHexDigit d) (fun d hd => ?_) (by decide)
      (by decide)
    rw [String.toList_ofList] at hd
    rcases List.mem_cons.mp hd with hd | hd
    · exact .inl hd
    · exact .inr (Color.isHexDigit_of_mem_digits hd)
  · decide

/-- A dash stands for a colour that is not set, and for no other. -/
theorem traceColor_eq_dash_iff (c : Color) : traceColor c = "-" ↔ c.set = false := by
  unfold traceColor
  cases hset : c.set with
  | false => simp
  | true =>
      rw [if_pos rfl, Color.hex_of_set hset]
      constructor
      · intro h
        have hchars := congrArg String.toList h
        rw [String.toList_ofList] at hchars
        exact absurd (List.cons.inj hchars).1 (by decide)
      · intro h
        cases h

theorem parse_traceColor {c : Color} (h : c.set = true) : Color.parse (traceColor c) = .ok c := by
  rw [traceColor, if_pos h]
  exact Color.parse_hex h

/-! ## Lines -/

/-- The fields of the line of a ball. -/
def lineFields (frame : UInt64) (b : Ball Float) : List String :=
  Decimal.intText frame.toNat :: traceFields b

/-- The line of a ball without its end. -/
def lineText (frame : UInt64) (b : Ball Float) : List Char :=
  (" ".intercalate (lineFields frame b)).toList

/-- A line with its end. -/
def terminated (line : List Char) : String := String.ofList (line ++ ['\n'])

theorem traceLine_eq (frame : UInt64) (b : Ball Float) :
    traceLine frame b = terminated (lineText frame b) := by
  rw [terminated, String.ofList_append, lineText, String.ofList_toList]
  rfl

theorem isWord_of_mem_lineFields {frame : UInt64} {b : Ball Float} {s : String}
    (h : s ∈ lineFields frame b) : IsWord s := by
  simp only [lineFields, traceFields, List.mem_cons, List.not_mem_nil, or_false] at h
  rcases h with rfl | rfl | rfl | rfl | rfl | rfl | rfl | rfl
  · exact isWord_intText _
  · exact isWord_intText _
  · exact isWord_traceNumber _
  · exact isWord_traceNumber _
  · exact isWord_traceNumber _
  · exact isWord_traceNumber _
  · exact isWord_traceNumber _
  · exact isWord_traceColor _

/-- **The fields are read back from the line.** -/
theorem splitOn_lineText (frame : UInt64) (b : Ball Float) :
    (lineText frame b).splitOn ' ' = (lineFields frame b).map String.toList := by
  rw [lineText, String.toList_intercalate]
  apply List.splitOn_intercalate
  · intro word hword
    obtain ⟨s, hs, rfl⟩ := List.mem_map.mp hword
    exact (isWord_of_mem_lineFields hs).1
  · simp [lineFields]

theorem newline_not_mem_lineText (frame : UInt64) (b : Ball Float) : '\n' ∉ lineText frame b := by
  rw [lineText, String.toList_intercalate]
  intro h
  rcases Terminal.mem_intercalate h with h | ⟨word, hword, h⟩
  · exact absurd h (by decide)
  · obtain ⟨s, hs, rfl⟩ := List.mem_map.mp hword
    exact (isWord_of_mem_lineFields hs).2 h

/-- **The lines are read back from the text**, with nothing behind the last one. -/
theorem splitOn_join_terminated {lines : List (List Char)} (h : ∀ line ∈ lines, '\n' ∉ line) :
    (String.join (lines.map terminated)).toList.splitOn '\n' = lines ++ [[]] := by
  induction lines with
  | nil => rfl
  | cons line lines ih =>
      have hline : '\n' ∉ line := h line List.mem_cons_self
      have htext : (String.join ((line :: lines).map terminated)).toList
          = line ++ '\n' :: (String.join (lines.map terminated)).toList := by
        simp [terminated]
      rw [htext, List.splitOn_append_cons_self, List.splitOn_eq_singleton hline,
        ih fun l hl => h l (List.mem_cons_of_mem _ hl)]
      rfl

/-! ## The lines of a run -/

/-- The lines of the frame after `j` others. -/
def frameLines (f : Field Float) (j : Nat) : List (List Char) :=
  (f.steps (j + 1)).balls.map (lineText (UInt64.ofNat (j + 1)))

/-- The lines of the first `k` frames. -/
def runLines (f : Field Float) (k : Nat) : List (List Char) := (List.range k).flatMap (frameLines f)

theorem length_frameLines (f : Field Float) (j : Nat) :
    (frameLines f j).length = f.balls.length := by
  rw [frameLines, List.length_map, Field.length_balls_steps]

theorem runLines_succ (f : Field Float) (k : Nat) :
    runLines f (k + 1) = runLines f k ++ frameLines f k := by
  rw [runLines, List.range_succ, List.flatMap_append, List.flatMap_singleton]
  rfl

theorem length_runLines (f : Field Float) (k : Nat) :
    (runLines f k).length = k * f.balls.length := by
  induction k with
  | zero => rw [Nat.zero_mul]; rfl
  | succ k ih => rw [runLines_succ, List.length_append, ih, length_frameLines, Nat.succ_mul]

/-- The lines of a run, cut before one of its frames. -/
theorem runLines_split (f : Field Float) {g k : Nat} (h : g < k) :
    ∃ later, runLines f k = runLines f g ++ (frameLines f g ++ later) := by
  induction k with
  | zero => omega
  | succ k ih =>
      rw [runLines_succ]
      by_cases hg : g = k
      · exact ⟨[], by rw [hg, List.append_nil]⟩
      · obtain ⟨later, hlater⟩ := ih (by omega)
        exact ⟨later ++ frameLines f k, by rw [hlater, List.append_assoc, List.append_assoc]⟩

section Place

variable (f : Field Float) {g i k : Nat} (hg : g < k) (hi : i < f.balls.length)
include hg hi

/-- The place of a line tells its frame and its ball. -/
theorem getElem?_runLines : (runLines f k)[g * f.balls.length + i]? = (frameLines f g)[i]? := by
  obtain ⟨later, hlater⟩ := runLines_split f hg
  rw [hlater, List.getElem?_append_right (by rw [length_runLines]; omega), length_runLines,
    Nat.add_sub_cancel_left, List.getElem?_append_left (by rw [length_frameLines]; exact hi)]

theorem take_runLines :
    (runLines f k).take (g * f.balls.length + i) = runLines f g ++ (frameLines f g).take i := by
  obtain ⟨later, hlater⟩ := runLines_split f hg
  have hin : i ≤ (frameLines f g).length := by
    rw [length_frameLines]
    omega
  rw [hlater, ← length_runLines, List.take_length_add_append, List.take_append_of_le_length hin]

end Place

theorem newline_not_mem_runLines {f : Field Float} {k : Nat} {line : List Char}
    (h : line ∈ runLines f k) : '\n' ∉ line := by
  obtain ⟨j, -, hline⟩ := List.mem_flatMap.mp h
  obtain ⟨b, -, rfl⟩ := List.mem_map.mp hline
  exact newline_not_mem_lineText _ b

end Ricochet.Run
