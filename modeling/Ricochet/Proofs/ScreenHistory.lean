import Mathlib.Data.List.Induction
import Ricochet.Proofs.ShapeCells
import Ricochet.Screen.Runs

set_option autoImplicit false

/-! # The screen after any operations

A screen is created, drawn on, cleared and resized in any order. What it then shows does not depend
on how the buffer was handled on the way: a cell shows what was last written to it since the screen
was last blank (`SinceBlank`). The drawings leave out what lies off the screen, but to a cell of the
screen they write what they would write anywhere (`lastWrite_boxWrites_eq`,
`lastWrite_ellipseWrites_eq`), so that their writes can be listed without the screen (`Op.writes`).

* `Screen.get_after`: the step from one operation to all.
* `Screen.last_writer_wins`: size, buffer, cells, rows and text after any operations.
-/

namespace Ricochet

variable {α : Type}

/-! ## What a drawing writes

Lists of writes leave out what lies off the screen. Here they are given in full: they depend on the
shape only. -/

/-- The outline of a rectangle, wherever it lies. -/
def outlineWrites (r : Rect) (color : Color) : List Write :=
  if r.w < 2 ∨ r.h < 2 then []
  else cornerWrites r color
    ++ ((span (r.x + 1) (r.right - 1)).flatMap fun x =>
      [⟨x, r.y, Cell.ofChar '─' color⟩, ⟨x, r.bottom - 1, Cell.ofChar '─' color⟩])
    ++ ((span (r.y + 1) (r.bottom - 1)).flatMap fun y =>
      [⟨r.x, y, Cell.ofChar '│' color⟩, ⟨r.right - 1, y, Cell.ofChar '│' color⟩])

/-- The cells of an ellipse, wherever they lie. -/
def Ellipse.allCells [Scalar α] (e : Ellipse α) (clip : Rect) : List (Int × Int) :=
  e.among (span (Scalar.truncInt (e.cy - e.ry)) (Scalar.truncInt (e.cy + e.ry) + 1))
    (span (Scalar.truncInt (e.cx - e.rx)) (Scalar.truncInt (e.cx + e.rx) + 1)) clip

namespace Screen

/-- What can be done to a screen. -/
inductive Op (α : Type) where
  | set (x y : Int) (cell : Cell)
  | text (x y : Int) (chars : List Char) (color : Color)
  | box (r : Rect) (color : Color)
  | ellipse (e : Ellipse α) (clip : Rect) (cell : Cell)
  | clear
  | resize (width height : Int)

namespace Op

/-- The size of a screen after an operation. -/
def size (d : Nat × Nat) : Op α → Nat × Nat
  | .resize width height => (width.toNat, height.toNat)
  | _ => d

/-- Whether an operation makes a screen of this size blank: clearing does, and a new size. -/
def resets (d : Nat × Nat) : Op α → Bool
  | .clear => true
  | .resize width height => (width.toNat, height.toNat) ≠ d
  | _ => false

variable [Scalar α]

/-- Carries an operation out. -/
def apply (s : Screen) : Op α → Screen
  | .set x y cell => s.set x y cell
  | .text x y chars color => s.drawText x y chars color
  | .box r color => s.drawBox r color
  | .ellipse e clip cell => s.fillEllipse e clip cell
  | .clear => s.clear
  | .resize width height => s.resize width height

/-- The writes of an operation, in their order. -/
def writes : Op α → List Write
  | .set x y cell => [⟨x, y, cell⟩]
  | .text x y chars color => textWrites x y chars color
  | .box r color => outlineWrites r color
  | .ellipse e clip cell => (e.allCells clip).map fun (x, y) => ⟨x, y, cell⟩
  | .clear => []
  | .resize _ _ => []

end Op

end Screen

/-! ## Clipping -/

/-- Of shapes that each keep to a row or column of their own, only one reaches a cell. -/
theorem lastWrite_flatMap_of_own {items : List Int} {shape : Int → List Write} {i x y : Int}
    (h : ∀ j, j ≠ i → lastWrite (shape j) x y = none) :
    lastWrite (items.flatMap shape) x y = if i ∈ items then lastWrite (shape i) x y else none := by
  induction items with
  | nil => rfl
  | cons j items ih =>
      rw [List.flatMap_cons, lastWrite_append, ih]
      by_cases hj : j = i
      · subst hj
        rw [if_pos List.mem_cons_self]
        split
        · exact Option.or_self
        · exact Option.none_or
      · have hi : i ∈ j :: items ↔ i ∈ items := by simp [Ne.symm hj]
        rw [h j hj, Option.or_none]
        simp only [hi]

section Clipping

variable {s : Screen} {x y : Int}

/-- On the screen the outline of a rectangle is what it is anywhere. -/
theorem lastWrite_boxWrites_eq (hon : s.onScreen x y = true) (r : Rect) (color : Color) :
    lastWrite (boxWrites s r color) x y = lastWrite (outlineWrites r color) x y := by
  obtain ⟨hx, hy⟩ := (s.onScreen_iff x y).mp hon
  have hcolumn : ∀ j, j ≠ x → lastWrite [⟨j, r.y, Cell.ofChar '─' color⟩,
      ⟨j, r.bottom - 1, Cell.ofChar '─' color⟩] x y = none :=
    fun j hj => by simp [lastWrite, hj]
  have hrow : ∀ j, j ≠ y → lastWrite [⟨r.x, j, Cell.ofChar '│' color⟩,
      ⟨r.right - 1, j, Cell.ofChar '│' color⟩] x y = none :=
    fun j hj => by simp [lastWrite, hj]
  have hcolumns : x ∈ span (max 0 (r.x + 1)) (min s.width (r.right - 1))
      ↔ x ∈ span (r.x + 1) (r.right - 1) := by
    rw [mem_span, mem_span]
    omega
  have hrows : y ∈ span (max 0 (r.y + 1)) (min s.height (r.bottom - 1))
      ↔ y ∈ span (r.y + 1) (r.bottom - 1) := by
    rw [mem_span, mem_span]
    omega
  unfold boxWrites outlineWrites
  split
  · rfl
  · rw [lastWrite_append, lastWrite_append, lastWrite_append, lastWrite_append, horizontalWrites,
      verticalWrites, lastWrite_flatMap_of_own hcolumn, lastWrite_flatMap_of_own hrow,
      lastWrite_flatMap_of_own hcolumn, lastWrite_flatMap_of_own hrow]
    simp only [hcolumns, hrows]

/-- On the screen an ellipse covers what it covers anywhere. -/
theorem lastWrite_ellipseWrites_eq [Scalar α] (hon : s.onScreen x y = true) (e : Ellipse α)
    (clip : Rect) (cell : Cell) :
    lastWrite (ellipseWrites s e clip cell) x y
      = lastWrite ((e.allCells clip).map fun (x, y) => ⟨x, y, cell⟩) x y := by
  have hmem : (x, y) ∈ e.cells s.width s.height clip ↔ (x, y) ∈ e.allCells clip := by
    rw [e.mem_cells clip hon, Ellipse.allCells, Ellipse.mem_among, mem_span, mem_span,
      Ellipse.searches]
    simp only [Int.lt_add_one_iff]
  rw [lastWrite_ellipseWrites, lastWrite_map_cell]
  simp only [hmem]

end Clipping

namespace Screen

section Step

variable [Scalar α] {s : Screen}

namespace Op

/-- An operation on a well-formed screen leaves it well-formed, of the size that it asks for. -/
theorem wellFormed_apply (hs : s.WellFormed) (op : Op α) : (op.apply s).WellFormed := by
  cases op with
  | set x y cell => exact hs.set x y cell
  | text x y chars color => exact hs.draw _
  | box r color => exact hs.draw _
  | ellipse e clip cell => exact hs.draw _
  | clear => exact wellFormed_sized _ _
  | resize width height =>
      show (s.resize width height).WellFormed
      unfold Screen.resize
      split
      · exact hs
      · exact wellFormed_sized _ _

theorem size_apply (s : Screen) (op : Op α) :
    ((op.apply s).width, (op.apply s).height) = op.size (s.width, s.height) := by
  cases op with
  | set x y cell => simp [apply, size]
  | text x y chars color => simp [apply, size, drawText]
  | box r color => simp [apply, size, drawBox]
  | ellipse e clip cell => simp [apply, size, fillEllipse]
  | clear => rfl
  | resize width height => simp [apply, size, width_resize, height_resize]

theorem onScreen_apply_of_not_resets {op : Op α} (h : op.resets (s.width, s.height) = false)
    (x y : Int) : (op.apply s).onScreen x y = s.onScreen x y := by
  have hsize : op.size (s.width, s.height) = (s.width, s.height) := by
    cases op with
    | resize width height => simpa [resets, size] using h
    | _ => rfl
  obtain ⟨hwidth, hheight⟩ := Prod.mk.inj ((size_apply s op).trans hsize)
  simp only [onScreen, hwidth, hheight]

/-- What an operation draws, on cells of the screen. -/
theorem get_apply_of_not_resets (hs : s.WellFormed) {op : Op α}
    (h : op.resets (s.width, s.height) = false) {x y : Int} (hon : s.onScreen x y = true) :
    (op.apply s).get x y = (lastWrite op.writes x y).getD (s.get x y) := by
  cases op with
  | set px py cell => exact get_draw hs [⟨px, py, cell⟩] hon
  | text px py chars color => exact get_draw hs _ hon
  | box r color =>
      show (s.draw (boxWrites s r color)).get x y = _
      rw [get_draw hs _ hon, lastWrite_boxWrites_eq hon]
      rfl
  | ellipse e clip cell =>
      show (s.draw (ellipseWrites s e clip cell)).get x y = _
      rw [get_draw hs _ hon, lastWrite_ellipseWrites_eq hon]
      rfl
  | clear => cases h
  | resize width height =>
      -- A screen that has this cell has positive sides, and a size is no less than zero.
      obtain ⟨hx, hy⟩ := (s.onScreen_iff x y).mp hon
      have hsame : width = s.width ∧ height = s.height := by
        have hsize : width.toNat = s.width ∧ height.toNat = s.height := by simpa [resets] using h
        omega
      have hresize : s.resize width height = s := if_pos hsame
      show (s.resize width height).get x y = s.get x y
      rw [hresize]

theorem get_apply_of_resets (s : Screen) {op : Op α}
    (h : op.resets (s.width, s.height) = true) (x y : Int) :
    (op.apply s).get x y = Cell.blank := by
  cases op with
  | clear => exact get_sized _ _ x y
  | resize width height =>
      have hother : ¬ (width = s.width ∧ height = s.height) := by
        rintro ⟨rfl, rfl⟩
        simp [resets] at h
      have hresize : s.resize width height = Screen.new width height := if_neg hother
      show (s.resize width height).get x y = Cell.blank
      rw [hresize]
      exact get_sized _ _ x y
  | _ => cases h

end Op

end Step

/-! ## Histories -/

section History

variable {width height : Int}

/-- The size after some operations. -/
def sizeAfter (width height : Int) (ops : List (Op α)) : Nat × Nat :=
  ops.foldl Op.size (width.toNat, height.toNat)

theorem sizeAfter_concat (width height : Int) (ops : List (Op α)) (op : Op α) :
    sizeAfter width height (ops ++ [op]) = op.size (sizeAfter width height ops) := by
  rw [sizeAfter, List.foldl_append]
  rfl

/-- The operations `recent` are those since the screen was last blank, after `before`: since its
creation, since it was cleared, or since it got another size. -/
structure SinceBlank (width height : Int) (ops before recent : List (Op α)) : Prop where
  split : ops = before ++ recent
  blank : before = [] ∨ ∃ earlier op, before = earlier ++ [op]
    ∧ op.resets (sizeAfter width height earlier) = true
  kept : ∀ earlier op later, recent = earlier ++ op :: later →
    op.resets (sizeAfter width height (before ++ earlier)) = false

namespace SinceBlank

variable {before recent : List (Op α)}

theorem created : SinceBlank width height ([] : List (Op α)) [] [] := ⟨rfl, .inl rfl, by simp⟩

theorem reset (ops : List (Op α)) (op : Op α)
    (h : op.resets (sizeAfter width height ops) = true) :
    SinceBlank width height (ops ++ [op]) (ops ++ [op]) [] :=
  ⟨(List.append_nil _).symm, .inr ⟨ops, op, rfl, h⟩, by simp⟩

theorem keep {ops : List (Op α)} (h : SinceBlank width height ops before recent) (op : Op α)
    (hop : op.resets (sizeAfter width height ops) = false) :
    SinceBlank width height (ops ++ [op]) before (recent ++ [op]) := by
  refine ⟨by rw [h.split, List.append_assoc], h.blank, ?_⟩
  intro earlier other later heq
  rcases List.eq_nil_or_concat later with rfl | ⟨later, last, rfl⟩
  · obtain ⟨rfl, hlast⟩ := List.append_inj' heq rfl
    cases hlast
    rw [← h.split]
    exact hop
  · have heq' : recent ++ [op] = (earlier ++ other :: later) ++ [last] := by simpa using heq
    exact h.kept earlier other later (List.append_inj' heq' rfl).1

/-- There always is such a point. -/
theorem exists_split (ops : List (Op α)) :
    ∃ before recent, SinceBlank width height ops before recent := by
  induction ops using List.reverseRecOn with
  | nil => exact ⟨[], [], created⟩
  | append_singleton ops op ih =>
      obtain ⟨before, recent, h⟩ := ih
      cases hop : op.resets (sizeAfter width height ops) with
      | true => exact ⟨_, _, reset ops op hop⟩
      | false => exact ⟨_, _, h.keep op hop⟩

end SinceBlank

variable [Scalar α]

/-- The screen after some operations. -/
def after (width height : Int) (ops : List (Op α)) : Screen := ops.foldl Op.apply (new width height)

theorem after_concat (width height : Int) (ops : List (Op α)) (op : Op α) :
    after width height (ops ++ [op]) = op.apply (after width height ops) := by
  rw [after, List.foldl_append]
  rfl

theorem wellFormed_after (ops : List (Op α)) : (after width height ops).WellFormed := by
  induction ops using List.reverseRecOn with
  | nil => exact wellFormed_sized _ _
  | append_singleton ops op ih =>
      rw [after_concat]
      exact op.wellFormed_apply ih

theorem size_after (ops : List (Op α)) :
    ((after width height ops).width, (after width height ops).height)
      = sizeAfter width height ops := by
  induction ops using List.reverseRecOn with
  | nil => rfl
  | append_singleton ops op ih => rw [after_concat, sizeAfter_concat, Op.size_apply, ih]

/-- **The last writer wins.** After any operations a cell of the screen shows what was last written
to it since the screen was blank. -/
theorem get_after {ops before recent : List (Op α)} (h : SinceBlank width height ops before recent)
    {x y : Int} (hon : (after width height ops).onScreen x y = true) :
    (after width height ops).get x y
      = (lastWrite (recent.flatMap Op.writes) x y).getD Cell.blank := by
  induction recent using List.reverseRecOn generalizing ops with
  | nil =>
      obtain rfl : ops = before := h.split.trans (List.append_nil _)
      show _ = Cell.blank
      rcases h.blank with rfl | ⟨earlier, op, rfl, hop⟩
      · exact get_sized _ _ x y
      · rw [after_concat]
        exact op.get_apply_of_resets _ (by rwa [size_after]) x y
  | append_singleton recent op ih =>
      have hbefore : SinceBlank width height (before ++ recent) before recent :=
        ⟨rfl, h.blank, fun earlier other later heq =>
          h.kept earlier other (later ++ [op]) (by simp [heq])⟩
      obtain rfl : ops = (before ++ recent) ++ [op] := by rw [h.split, List.append_assoc]
      have hkept : op.resets ((after width height (before ++ recent)).width,
          (after width height (before ++ recent)).height) = false := by
        rw [size_after]
        exact h.kept recent op [] rfl
      rw [after_concat] at hon ⊢
      have hon' : (after width height (before ++ recent)).onScreen x y = true := by
        rwa [op.onScreen_apply_of_not_resets hkept] at hon
      rw [op.get_apply_of_not_resets (wellFormed_after _) hkept hon', ih hbefore hon',
        List.flatMap_append, lastWrite_append, List.flatMap_singleton]
      cases lastWrite op.writes x y with
      | none => rw [Option.none_or, Option.getD_none]
      | some cell => rfl

end History

/-! ## Reading -/

section Reading

variable {s : Screen}

/-- Every cell that a screen should have is in the buffer. -/
theorem WellFormed.exists_row (hs : s.WellFormed) {y : Nat} (hy : y < s.height) :
    ∃ row, s.rows[y]? = some row ∧ row.size = s.width
      ∧ ∀ x : Nat, x < s.width → row[x]? = some (s.get x y) := by
  have hline : y < s.rows.size := by
    rw [hs.rows_size]
    exact hy
  have hrow : s.rows[y]? = some s.rows[y] := Array.getElem?_eq_getElem hline
  refine ⟨_, hrow, hs.row_size hrow, fun x hx => ?_⟩
  have hcolumn : x < s.rows[y].size := by
    rw [hs.row_size hrow]
    exact hx
  have hon : s.onScreen x y = true := by
    rw [onScreen_iff]
    omega
  rw [get_of_onScreen hon, Int.toNat_natCast, Int.toNat_natCast, hrow, Option.bind_some,
    Array.getElem?_eq_getElem hcolumn, Option.getD_some]

/-- A row of the screen is read cell by cell. -/
theorem WellFormed.rowCells_eq (hs : s.WellFormed) {y : Nat} (hy : y < s.height) :
    s.rowCells y = (List.range s.width).map fun x : Nat => s.get x y := by
  obtain ⟨row, hrow, hsize, hcells⟩ := hs.exists_row hy
  rw [rowCells, hrow, Option.getD_some]
  refine List.ext_getElem? fun x => ?_
  rw [List.getElem?_map, Array.getElem?_toList]
  by_cases hx : x < s.width
  · rw [hcells x hx, List.getElem?_range hx]
    rfl
  · rw [Array.getElem?_eq_none (by omega),
      List.getElem?_eq_none (by rw [List.length_range]; omega)]
    rfl

theorem rowChars_eq_map {y : Nat} (hy : y < s.height) :
    s.rowChars y = (s.rowCells y).map Cell.char := by
  have hin : (0 : Int) ≤ y ∧ (y : Int) < s.height := by omega
  rw [rowChars, if_pos hin, Int.toNat_natCast]
  rfl

theorem WellFormed.rowChars_eq (hs : s.WellFormed) {y : Nat} (hy : y < s.height) :
    s.rowChars y = (List.range s.width).map fun x : Nat => (s.get x y).char := by
  rw [rowChars_eq_map hy, hs.rowCells_eq hy, List.map_map]
  rfl

/-- The characters that the text takes from a row of the buffer are those of the row. -/
theorem WellFormed.bufferChars_eq (hs : s.WellFormed) {y : Nat} (hy : y < s.height) :
    ((List.range s.width).map fun x =>
      (((s.rows[y]?).bind fun row => row[x]?).getD Cell.blank).char) = s.rowChars y := by
  rw [hs.rowChars_eq hy]
  refine List.map_congr_left fun x hx => ?_
  have hon : s.onScreen x y = true := by
    rw [onScreen_iff]
    have := List.mem_range.mp hx
    omega
  rw [get_of_onScreen hon, Int.toNat_natCast, Int.toNat_natCast]

/-- **The text is the rows with newlines between them.** -/
theorem WellFormed.text_eq (hs : s.WellFormed) :
    s.text = "\n".intercalate ((List.range s.height).map fun y : Nat => s.row y) := by
  -- So it is for the first rows, one more at a time; before the first one there is no newline.
  have hfirst : ∀ n ≤ s.height, String.ofList ((List.range n).flatMap fun y =>
      (if 0 < y then ['\n'] else []) ++ (List.range s.width).map fun x =>
        (((s.rows[y]?).bind fun row => row[x]?).getD Cell.blank).char)
      = "\n".intercalate ((List.range n).map fun y : Nat => s.row y) := by
    intro n hn
    induction n with
    | zero => rfl
    | succ n ih =>
        rw [List.range_succ, List.flatMap_append, String.ofList_append, ih (by omega),
          List.flatMap_singleton, hs.bufferChars_eq (by omega), String.ofList_append,
          List.map_append, List.map_singleton]
        cases n with
        | zero => rfl
        | succ n =>
            rw [String.intercalate_append_of_ne_nil (by simp) (by simp),
              String.intercalate_singleton, String.append_assoc]
            rfl
  exact hfirst s.height le_rfl

end Reading

/-! ## The screen as a map -/

/-- **A screen is a map in which the last writer wins.** Created in any size and after any
operations, a screen has the size last asked for, where less than zero is zero, and its buffer has
exactly so many rows of so many cells. Each cell shows what was last written to it since the screen
was created, cleared or given another size, and is blank if nothing was; off the screen everything
is blank. A row shows the cells of that row, one off the screen as many spaces, and the text is the
rows. -/
theorem last_writer_wins [Scalar α] (width height : Int) (ops : List (Op α)) :
    let s := after width height ops
    (s.width, s.height) = sizeAfter width height ops
    ∧ s.rows.size = s.height
    ∧ (∀ y : Nat, y < s.height → ∃ row, s.rows[y]? = some row ∧ row.size = s.width
        ∧ ∀ x : Nat, x < s.width → row[x]? = some (s.get x y))
    ∧ (∃ before recent, SinceBlank width height ops before recent)
    ∧ (∀ before recent, SinceBlank width height ops before recent → ∀ x y,
        s.get x y =
          if s.onScreen x y then (lastWrite (recent.flatMap Op.writes) x y).getD Cell.blank
          else Cell.blank)
    ∧ (∀ y : Nat, y < s.height →
        s.row y = String.ofList ((List.range s.width).map fun x : Nat => (s.get x y).char))
    ∧ (∀ y : Int, ¬ (0 ≤ y ∧ y < s.height) → s.row y = String.ofList (List.replicate s.width ' '))
    ∧ s.text = "\n".intercalate ((List.range s.height).map fun y : Nat => s.row y) := by
  intro s
  have hs : s.WellFormed := wellFormed_after ops
  refine ⟨size_after ops, hs.rows_size, fun y hy => hs.exists_row hy,
    SinceBlank.exists_split ops, fun before recent h x y => ?_, fun y hy => ?_, fun y hy => ?_,
    hs.text_eq⟩
  · by_cases hon : s.onScreen x y = true
    · rw [if_pos hon]
      exact get_after h hon
    · rw [if_neg hon]
      exact if_neg hon
  · rw [row, hs.rowChars_eq hy]
  · rw [row, rowChars, if_neg hy]

/-- A box that is cleared away, a text that begins off the screen, and a star over its second
character, with a change of size to the size the screen has in between. -/
def overwritten : List (Op Float) :=
  [.box ⟨0, 0, 3, 2⟩ Color.white, .clear, .text (-1) 0 ['a', 'b', 'c', 'd', 'e'] Color.gray,
    .resize 3 2, .set 0 0 (Cell.ofChar '*' Color.orange)]

/-- The clearing is where the screen was last blank. -/
theorem last_writer_wins_overwritten :
    SinceBlank 3 2 overwritten (overwritten.take 2) (overwritten.drop 2)
    ∧ (after 3 2 overwritten).get 0 0 = Cell.ofChar '*' Color.orange
    ∧ (after 3 2 overwritten).get 1 0 = Cell.ofChar 'c' Color.gray
    ∧ (after 3 2 overwritten).get 0 1 = Cell.blank
    ∧ (after 3 2 overwritten).get 3 0 = Cell.blank
    ∧ (after 3 2 overwritten).row 0 = "*cd"
    ∧ (after 3 2 overwritten).text = "*cd\n   " := by
  have hcleared :
      SinceBlank 3 2 (overwritten.take 1 ++ [.clear]) (overwritten.take 1 ++ [.clear]) [] :=
    SinceBlank.reset _ _ rfl
  have hblank : SinceBlank 3 2 overwritten (overwritten.take 2) (overwritten.drop 2) :=
    ((hcleared.keep (.text (-1) 0 ['a', 'b', 'c', 'd', 'e'] Color.gray) rfl).keep
      (.resize 3 2) (by decide)).keep (.set 0 0 (Cell.ofChar '*' Color.orange)) rfl
  obtain ⟨-, -, -, -, hcells, hrow, -, htext⟩ := last_writer_wins 3 2 overwritten
  have hget := hcells _ _ hblank
  refine ⟨hblank, ?_, ?_, ?_, ?_, ?_, ?_⟩
  · exact (hget 0 0).trans (by decide +kernel)
  · exact (hget 1 0).trans (by decide +kernel)
  · exact (hget 0 1).trans (by decide +kernel)
  · exact (hget 3 0).trans (by decide +kernel)
  · exact (hrow 0 (by decide +kernel)).trans (by decide +kernel)
  · exact htext.trans (by decide +kernel)

end Screen

end Ricochet
