import Mathlib.Data.List.Chain
import Ricochet.Proofs.ScreenHistory
import Ricochet.Proofs.StyledText
import Ricochet.Screen.Runs
import Ricochet.Terminal.Session

set_option autoImplicit false

/-! # Runs show a screen as it is

A screen is shown as styled text, run by run. Three things have to come out right. The runs of a row
have to be its cells in their order, grouped as far as colours allow (`Groups`); there is only one
such grouping (`Groups.eq_runs`). The styles that are kept have to be the ones that would be made
anew, which no step can spoil (`Gives`), so that they can be left out of the picture
(`Screen.rendered_eq`). And what styling puts around the texts has to be all that it changes:
whoever can take that away gets the plain text of the screen back (`Removes.of_decorates`). The
escape sequences of a terminal are put around texts in this way (`Terminal.surrounds_ofColor`), and
can be taken away (`Terminal.removes_withoutEscapes`).

* `Screen.rendered_groups_and_decorates`: all three, for every screen and every styling.
-/

namespace Ricochet

/-! ## The runs of a row -/

/-- The cells of a run. -/
def Run.cells (r : Run) : List Cell := r.glyphs.map fun g => ⟨g, r.color⟩

/-- Whether runs group the cells of a row: they have these cells from left to right, each once and
in the colour of its run; none is empty; and neighbours differ in colour. -/
structure Groups (cells : List Cell) (rs : List Run) : Prop where
  covers : rs.flatMap Run.cells = cells
  nonempty : ∀ r ∈ rs, r.glyphs ≠ []
  apart : rs.IsChain fun a b => a.color ≠ b.color

section Runs

variable {c : Cell} {cs : List Cell} {r : Run} {rs : List Run}

theorem runs_cons_nil (h : runs cs = []) : runs (c :: cs) = [⟨c.color, [c.glyph]⟩] := by
  rw [runs, h]

/-- A cell of the colour of the next run joins it. -/
theorem runs_cons_same (h : runs cs = r :: rs) (hcolor : c.color = r.color) :
    runs (c :: cs) = ⟨r.color, c.glyph :: r.glyphs⟩ :: rs := by
  rw [runs, h]
  exact if_pos hcolor

/-- A cell of another colour begins a run of its own. -/
theorem runs_cons_other (h : runs cs = r :: rs) (hcolor : c.color ≠ r.color) :
    runs (c :: cs) = ⟨c.color, [c.glyph]⟩ :: r :: rs := by
  rw [runs, h]
  exact if_neg hcolor

theorem groups_nil : Groups [] [] := ⟨rfl, by simp, .nil⟩

/-- A new run in front of others. -/
theorem Groups.cons (h : Groups cs rs) (hapart : ∀ next ∈ rs.head?, c.color ≠ next.color) :
    Groups (c :: cs) (⟨c.color, [c.glyph]⟩ :: rs) := by
  refine ⟨?_, ?_, ?_⟩
  · rw [List.flatMap_cons, h.covers]
    rfl
  · intro r hr
    rcases List.mem_cons.mp hr with rfl | hr
    · simp
    · exact h.nonempty r hr
  · exact List.isChain_cons.mpr ⟨hapart, h.apart⟩

/-- One more cell in the first run. -/
theorem Groups.extend (h : Groups cs (r :: rs)) (hcolor : c.color = r.color) :
    Groups (c :: cs) (⟨r.color, c.glyph :: r.glyphs⟩ :: rs) := by
  refine ⟨?_, ?_, ?_⟩
  · have hcell : (⟨c.glyph, r.color⟩ : Cell) = c := by rw [← hcolor]
    rw [← h.covers, List.flatMap_cons, List.flatMap_cons, Run.cells, List.map_cons, hcell]
    rfl
  · intro q hq
    rcases List.mem_cons.mp hq with rfl | hq
    · simp
    · exact h.nonempty q (List.mem_cons_of_mem _ hq)
  · exact List.isChain_cons.mpr (List.isChain_cons.mp h.apart)

/-- The runs of a row group it. -/
theorem groups_runs (cells : List Cell) : Groups cells (runs cells) := by
  induction cells with
  | nil => exact groups_nil
  | cons c cs ih =>
      cases hruns : runs cs with
      | nil =>
          rw [hruns] at ih
          rw [runs_cons_nil hruns]
          exact ih.cons (by simp)
      | cons r rs =>
          rw [hruns] at ih
          by_cases hcolor : c.color = r.color
          · rw [runs_cons_same hruns hcolor]
            exact ih.extend hcolor
          · rw [runs_cons_other hruns hcolor]
            exact ih.cons (by simpa using hcolor)

/-- Without its first cell, a first run of several cells still groups the rest. -/
theorem Groups.shorten {color : Color} {g g' : Int} {gs : List Int}
    (h : Groups (c :: cs) (⟨color, g :: g' :: gs⟩ :: rs)) :
    c = ⟨g, color⟩ ∧ Groups cs (⟨color, g' :: gs⟩ :: rs) := by
  obtain ⟨hcell, hrest⟩ := List.cons.inj h.covers
  refine ⟨hcell.symm, hrest, ?_, ?_⟩
  · intro r hr
    rcases List.mem_cons.mp hr with rfl | hr
    · simp
    · exact h.nonempty r (List.mem_cons_of_mem _ hr)
  · exact List.isChain_cons.mpr (List.isChain_cons.mp h.apart)

/-- Without a first run of one cell, the others group the rest. -/
theorem Groups.tail {color : Color} {g : Int} (h : Groups (c :: cs) (⟨color, [g]⟩ :: rs)) :
    c = ⟨g, color⟩ ∧ Groups cs rs := by
  obtain ⟨hcell, hrest⟩ := List.cons.inj h.covers
  exact ⟨hcell.symm, hrest, fun r hr => h.nonempty r (List.mem_cons_of_mem _ hr),
    (List.isChain_cons.mp h.apart).2⟩

/-- **There is one grouping.** -/
theorem Groups.eq_runs {cells : List Cell} (h : Groups cells rs) : rs = runs cells := by
  induction cells generalizing rs with
  | nil =>
      cases rs with
      | nil => rfl
      | cons r rs =>
          have hcells : r.cells = [] := (List.append_eq_nil_iff.mp h.covers).1
          exact absurd (List.map_eq_nil_iff.mp hcells) (h.nonempty r List.mem_cons_self)
  | cons c cs ih =>
      cases rs with
      | nil => cases h.covers
      | cons r rs =>
          obtain ⟨color, glyphs⟩ := r
          match glyphs with
          | [] => exact absurd rfl (h.nonempty _ List.mem_cons_self)
          | [g] =>
              obtain ⟨rfl, hrest⟩ := h.tail
              have hapart := (List.isChain_cons.mp h.apart).1
              have hruns := (ih hrest).symm
              cases rs with
              | nil => rw [runs_cons_nil hruns]
              | cons r rs => rw [runs_cons_other hruns (hapart r rfl)]
          | g :: g' :: gs =>
              obtain ⟨rfl, hrest⟩ := h.shorten
              rw [runs_cons_same (ih hrest).symm rfl]

end Runs

/-! ## The styles that are kept -/

section Styles

variable {σ β γ : Type} {make : Color → σ}

/-- A run as it is meant to be shown. -/
def Run.shown (style : Color → String → String) (r : Run) : String :=
  if r.color.set then style r.color (String.ofList r.chars) else String.ofList r.chars

/-- Whether all kept styles are those of their colours. -/
def Faithful (make : Color → σ) (kept : List (Color × σ)) : Prop :=
  ∀ c style, kept.lookup c = some style → style = make c

/-- Whether a step gives the same result whatever faithful styles are kept, and keeps them
faithful. -/
def Gives (make : Color → σ) (step : StateM (List (Color × σ)) β) (result : β) : Prop :=
  ∀ kept, Faithful make kept → (step.run kept).1 = result ∧ Faithful make (step.run kept).2

theorem gives_pure (make : Color → σ) (b : β) : Gives make (pure b) b := fun _ h => ⟨rfl, h⟩

theorem Gives.bind {step : StateM (List (Color × σ)) β} {b : β}
    {next : β → StateM (List (Color × σ)) γ} {c : γ} (hstep : Gives make step b)
    (hnext : Gives make (next b) c) : Gives make (step >>= next) c := by
  intro kept hkept
  obtain ⟨hresult, hkept'⟩ := hstep kept hkept
  rw [StateT.run_bind]
  show ((next (step.run kept).1).run (step.run kept).2).1 = c
    ∧ Faithful make ((next (step.run kept).1).run (step.run kept).2).2
  rw [hresult]
  exact hnext _ hkept'

theorem Gives.mapM {step : β → StateM (List (Color × σ)) γ} {result : β → γ}
    (h : ∀ b, Gives make (step b) (result b)) (items : List β) :
    Gives make (items.mapM step) (items.map result) := by
  induction items with
  | nil => exact gives_pure make []
  | cons b items ih =>
      rw [List.mapM_cons]
      exact (h b).bind (ih.bind (gives_pure make _))

/-- A style that is looked up is the style of its colour, and so is one that is put by. -/
theorem gives_styleFor (make : Color → σ) (c : Color) : Gives make (styleFor make c) (make c) := by
  intro kept hkept
  cases hlookup : kept.lookup c with
  | some style =>
      have hrun : (styleFor make c).run kept = (style, kept) := by
        simp [styleFor, hlookup]
        rfl
      rw [hrun]
      exact ⟨hkept c style hlookup, hkept⟩
  | none =>
      have hrun : (styleFor make c).run kept = (make c, (c, make c) :: kept) := by
        simp [styleFor, hlookup]
        rfl
      rw [hrun]
      refine ⟨rfl, fun d style hd => ?_⟩
      rw [List.lookup_cons] at hd
      split at hd
      · rename_i hsame
        rw [eq_of_beq hsame]
        exact (Option.some.inj hd).symm
      · exact hkept d style hd

variable (make) (styled : σ → String → String)

theorem gives_showRun (r : Run) :
    Gives make (showRun make styled r) (r.shown fun c => styled (make c)) := by
  unfold showRun Run.shown
  split
  · exact (gives_styleFor make r.color).bind (gives_pure make _)
  · exact gives_pure make _

theorem gives_showRow (rs : List Run) :
    Gives make (showRow make styled rs)
      (String.join (rs.map (Run.shown fun c => styled (make c)))) :=
  (Gives.mapM (gives_showRun make styled) rs).bind (gives_pure make _)

/-- Which styles are kept does not show. -/
theorem Screen.rendered_eq (s : Screen) :
    s.rendered make styled
      = "\n".intercalate ((List.range s.height).map fun y =>
        String.join ((runs (s.rowCells y)).map (Run.shown fun c => styled (make c)))) := by
  have hrows := Gives.mapM (gives_showRow make styled) s.rowRuns
  have hempty : Faithful make [] := fun c style h => by cases h
  rw [Screen.rendered, (hrows [] hempty).1, Screen.rowRuns, List.map_map]
  rfl

end Styles

/-! ## Decoration -/

section Decoration

variable {plain : Char → Prop} {before after : Color → List Char}

/-- Whether styling puts decoration around texts of plain characters, and changes nothing else. -/
def Surrounds (plain : Char → Prop) (style : Color → String → String)
    (before after : Color → List Char) : Prop :=
  ∀ (color : Color) (text : List Char), color.set = true → (∀ c ∈ text, plain c) →
    (style color (String.ofList text)).toList = before color ++ text ++ after color

/-- `Decorates plain before after text out`: lines of plain characters, with decoration around some
of their parts. -/
inductive Decorates (plain : Char → Prop) (before after : Color → List Char) :
    List Char → List Char → Prop where
  | nil : Decorates plain before after [] []
  | newline {text out : List Char} : Decorates plain before after text out →
      Decorates plain before after ('\n' :: text) ('\n' :: out)
  | char {c : Char} {text out : List Char} : plain c → Decorates plain before after text out →
      Decorates plain before after (c :: text) (c :: out)
  | styled {color : Color} {part text out : List Char} : color.set = true →
      (∀ c ∈ part, plain c) → Decorates plain before after text out →
      Decorates plain before after (part ++ text) (before color ++ part ++ after color ++ out)

/-- Whether decoration can be removed: it is taken away wherever it begins, and newlines and plain
characters stay. -/
structure Removes (plain : Char → Prop) (before after : Color → List Char)
    (remove : List Char → List Char) : Prop where
  nil : remove [] = []
  newline : ∀ rest, remove ('\n' :: rest) = '\n' :: remove rest
  char : ∀ c rest, plain c → remove (c :: rest) = c :: remove rest
  before : ∀ color rest, color.set = true → remove (before color ++ rest) = remove rest
  after : ∀ color rest, color.set = true → remove (after color ++ rest) = remove rest

theorem Removes.append {remove : List Char → List Char} (h : Removes plain before after remove)
    {part : List Char} (hpart : ∀ c ∈ part, plain c) (rest : List Char) :
    remove (part ++ rest) = part ++ remove rest := by
  induction part with
  | nil => rfl
  | cons c part ih =>
      rw [List.cons_append, h.char c _ (hpart c List.mem_cons_self),
        ih fun d hd => hpart d (List.mem_cons_of_mem _ hd)]
      rfl

/-- Removing the decoration gives the text back. -/
theorem Removes.of_decorates {remove : List Char → List Char}
    (h : Removes plain before after remove) {text out : List Char}
    (hout : Decorates plain before after text out) : remove out = text := by
  induction hout with
  | nil => exact h.nil
  | newline _ ih => rw [h.newline, ih]
  | char hc _ ih => rw [h.char _ _ hc, ih]
  | styled hset hpart _ ih =>
      rw [List.append_assoc, List.append_assoc, h.before _ _ hset, h.append hpart,
        h.after _ _ hset, ih]

theorem Decorates.append {text out text' out' : List Char}
    (h : Decorates plain before after text out) (h' : Decorates plain before after text' out') :
    Decorates plain before after (text ++ text') (out ++ out') := by
  induction h with
  | nil => exact h'
  | newline _ ih => exact .newline ih
  | char hc _ ih => exact .char hc ih
  | styled hset hpart _ ih =>
      rw [List.append_assoc, List.append_assoc _ _ out']
      exact .styled hset hpart ih

theorem decorates_self {text : List Char} (h : ∀ c ∈ text, plain c) :
    Decorates plain before after text text := by
  induction text with
  | nil => exact .nil
  | cons c text ih =>
      exact .char (h c List.mem_cons_self) (ih fun d hd => h d (List.mem_cons_of_mem _ hd))

section Style

variable {style : Color → String → String} (hstyle : Surrounds plain style before after)

include hstyle

theorem decorates_run {r : Run} (h : ∀ c ∈ r.chars, plain c) :
    Decorates plain before after r.chars (r.shown style).toList := by
  unfold Run.shown
  split
  · rename_i hset
    rw [hstyle r.color r.chars hset h]
    have hdecorated : Decorates plain before after (r.chars ++ [])
        (before r.color ++ r.chars ++ after r.color ++ []) := .styled hset h .nil
    rwa [List.append_nil, List.append_nil] at hdecorated
  · rw [String.toList_ofList]
    exact decorates_self h

theorem decorates_row {rs : List Run} (h : ∀ r ∈ rs, ∀ c ∈ r.chars, plain c) :
    Decorates plain before after (rs.flatMap Run.chars)
      (String.join (rs.map (Run.shown style))).toList := by
  rw [String.toList_join]
  induction rs with
  | nil => exact .nil
  | cons r rs ih =>
      exact (decorates_run hstyle (h r List.mem_cons_self)).append
        (ih fun q hq => h q (List.mem_cons_of_mem _ hq))

end Style

theorem decorates_lines {β : Type} {text out : β → List Char} {lines : List β}
    (h : ∀ line ∈ lines, Decorates plain before after (text line) (out line)) :
    Decorates plain before after (['\n'].intercalate (lines.map text))
      (['\n'].intercalate (lines.map out)) := by
  induction lines with
  | nil => exact .nil
  | cons line lines ih =>
      have hline := h line List.mem_cons_self
      have hlines := ih fun l hl => h l (List.mem_cons_of_mem _ hl)
      cases lines with
      | nil => simpa using hline
      | cons next lines =>
          simp only [List.map_cons, List.intercalate_cons_cons, List.append_assoc]
          exact hline.append (.newline hlines)

end Decoration

/-! ## Escape sequences as decoration -/

namespace Terminal

/-- Whether a character is its own text: styling leaves it as it is, and no escape sequence begins
with it. -/
def IsPlain (c : Char) : Prop := IsInline c ∧ c ≠ '\x1b'

instance (c : Char) : Decidable (IsPlain c) := inferInstanceAs (Decidable (_ ∧ _))

theorem surrounds_ofColor (p : Profile) :
    Surrounds IsPlain (fun c text => (Style.ofColor c).render p text)
      (fun c => (Style.ofColor c).before p) fun _ => styleAfter p := by
  intro color text _ htext
  exact toList_render (Style.ofColor color) p fun c hc => (htext c hc).1

theorem removes_withoutEscapes (p : Profile) :
    Removes IsPlain (fun c => (Style.ofColor c).before p) (fun _ => styleAfter p)
      (withoutEscapes false) where
  nil := rfl
  newline rest := withoutEscapes_cons (by decide) rest
  char c rest hc := withoutEscapes_cons hc.2 rest
  before color rest _ := by
    cases p with
    | plain => rfl
    | trueColor => exact (isEscape_opening _).withoutEscapes_append rest
  after color rest _ := by
    cases p with
    | plain => rfl
    | trueColor => exact isEscape_styleEnd.withoutEscapes_append rest

end Terminal

/-! ## The text of a screen -/

namespace Screen

variable {s : Screen}

theorem toList_row {y : Nat} (hy : y < s.height) :
    (s.row y).toList = (runs (s.rowCells y)).flatMap Run.chars := by
  have hchars : Run.chars = fun r => r.cells.map Cell.char := by
    funext r
    rw [Run.cells, List.map_map]
    rfl
  calc (s.row y).toList
      = (s.rowCells y).map Cell.char := by
        rw [row, String.toList_ofList, rowChars_eq_map hy]
    _ = ((runs (s.rowCells y)).flatMap Run.cells).map Cell.char := by
        rw [(groups_runs _).covers]
    _ = (runs (s.rowCells y)).flatMap Run.chars := by
        rw [List.map_flatMap, hchars]

/-- Every character of a run is one of its row. -/
theorem exists_of_mem_chars (hs : s.WellFormed) {y : Nat} (hy : y < s.height) {r : Run}
    (hr : r ∈ runs (s.rowCells y)) {c : Char} (hc : c ∈ r.chars) :
    ∃ x : Nat, s.onScreen x y = true ∧ (s.get x y).char = c := by
  have hmem : c ∈ (s.row y).toList := by
    rw [toList_row hy]
    exact List.mem_flatMap.mpr ⟨r, hr, hc⟩
  rw [row, String.toList_ofList, hs.rowChars_eq hy] at hmem
  obtain ⟨x, hx, rfl⟩ := List.mem_map.mp hmem
  refine ⟨x, ?_, rfl⟩
  rw [List.mem_range] at hx
  rw [onScreen_iff]
  omega

/-- Where every character of the screen is plain, showing it only decorates its text. -/
theorem decorates_rendered {σ : Type} {make : Color → σ} {styled : σ → String → String}
    {plain : Char → Prop} {before after : Color → List Char} (hs : s.WellFormed)
    (hstyle : Surrounds plain (fun c => styled (make c)) before after)
    (hplain : ∀ x y, s.onScreen x y = true → plain (s.get x y).char) :
    Decorates plain before after s.text.toList (s.rendered make styled).toList := by
  rw [rendered_eq, hs.text_eq, String.toList_intercalate, String.toList_intercalate, List.map_map,
    List.map_map]
  apply decorates_lines
  intro y hy
  have hy' : y < s.height := List.mem_range.mp hy
  show Decorates plain before after (s.row y).toList _
  rw [toList_row hy']
  apply decorates_row hstyle
  intro r hr c hc
  obtain ⟨x, hon, rfl⟩ := exists_of_mem_chars hs hy' hr hc
  exact hplain x y hon

/-- **Showing a screen loses and reorders nothing.** For every screen and every way to make and use
styles:

* the styled text is the rows joined by newlines, and a row is its runs one after the other, each
  plain if its colour is not set and otherwise in the style made from its colour, whatever styles
  are kept;
* the runs of a row have its cells from left to right, each once and in the colour of its run; none
  is empty, and neighbours differ in colour. No other runs do;
* if styling only puts decoration around texts, the styled text is the text of the screen with
  decoration around parts of it; so whatever removes the decoration gives exactly the text. This
  asks of styling and removing what they do with the characters on the screen and no others. -/
theorem rendered_groups_and_decorates {σ : Type} (hs : s.WellFormed) (make : Color → σ)
    (styled : σ → String → String) :
    s.rendered make styled
      = "\n".intercalate ((List.range s.height).map fun y =>
        String.join ((runs (s.rowCells y)).map (Run.shown fun c => styled (make c))))
    ∧ (∀ y : Nat, y < s.height →
        let cells := (List.range s.width).map fun x : Nat => s.get x y
        Groups cells (runs (s.rowCells y)) ∧ ∀ rs, Groups cells rs → rs = runs (s.rowCells y))
    ∧ ∀ (plain : Char → Prop) (before after : Color → List Char),
        Surrounds plain (fun c => styled (make c)) before after →
        (∀ x y, s.onScreen x y = true → plain (s.get x y).char) →
          Decorates plain before after s.text.toList (s.rendered make styled).toList
          ∧ ∀ remove, Removes plain before after remove →
            remove (s.rendered make styled).toList = s.text.toList := by
  refine ⟨rendered_eq make styled s, fun y hy => ?_, fun plain before after hstyle hplain => ?_⟩
  · intro cells
    have hcells : s.rowCells y = cells := hs.rowCells_eq hy
    rw [hcells]
    exact ⟨groups_runs cells, fun rs hrs => hrs.eq_runs⟩
  · have hdecorates := decorates_rendered hs hstyle hplain
    exact ⟨hdecorates, fun remove hremove => hremove.of_decorates hdecorates⟩

/-- Cells in two colours and in none. -/
def twoTone : Screen :=
  (sized 4 2).draw [⟨0, 0, .ofChar '█' Color.orange⟩, ⟨1, 0, .ofChar '█' Color.orange⟩,
    ⟨2, 0, .ofChar '█' ⟨0, 0, 0, true⟩⟩, ⟨1, 1, .ofChar '●' Color.orange⟩]

/-- Each row is three runs. Those in colour are between escape sequences, and without these only the
characters are left. -/
theorem rendered_groups_and_decorates_twoTone :
    twoTone.WellFormed
    ∧ twoTone.rowRuns
      = [[⟨Color.orange, [0x2588, 0x2588]⟩, ⟨⟨0, 0, 0, true⟩, [0x2588]⟩, ⟨Color.default, [32]⟩],
        [⟨Color.default, [32]⟩, ⟨Color.orange, [0x25CF]⟩, ⟨Color.default, [32, 32]⟩]]
    ∧ Groups ((List.range 4).map fun x : Nat => twoTone.get x 0) (runs (twoTone.rowCells 0))
    ∧ Terminal.withoutEscapes false (Terminal.shownScreen (.ofProfile .trueColor) twoTone).toList
      = twoTone.text.toList
    ∧ twoTone.text = "███ \n ●  " := by
  have hs : twoTone.WellFormed := (wellFormed_sized 4 2).draw _
  have hplain : ∀ x y, twoTone.onScreen x y = true →
      Terminal.IsPlain (twoTone.get x y).char := by
    intro x y hon
    have hblank : Terminal.IsPlain ((sized 4 2).get x y).char := by
      rw [get_sized]
      decide
    exact get_draw_of_forall (P := fun c => Terminal.IsPlain c.char) (wellFormed_sized 4 2) hblank
      (by decide) hon
  obtain ⟨-, hgroups, hdecorates⟩ := rendered_groups_and_decorates hs Terminal.Style.ofColor
    fun style text => style.render .trueColor text
  obtain ⟨-, hremove⟩ := hdecorates _ _ _ (Terminal.surrounds_ofColor .trueColor) hplain
  exact ⟨hs, by decide +kernel, (hgroups 0 (by decide)).1,
    hremove _ (Terminal.removes_withoutEscapes .trueColor), by decide +kernel⟩

end Screen

end Ricochet
