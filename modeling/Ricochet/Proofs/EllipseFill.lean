import Ricochet.Proofs.ShapeCells

set_option autoImplicit false

/-! # The cells that a filled ellipse paints

A filled ellipse is meant to paint the cells of the clip whose middles lie in it, and besides the
cell that holds its centre, so that a small ball does not vanish (`Ellipse.Covers`). The middles are
found without fail, since the square that is searched has truncated ends, which leave out no cell of
the screen. The cell of the centre is found by truncation too, and that is another matter: a centre
that lies less than one cell off the screen, to the left of it or above, is truncated onto the
screen and paints a cell that does not hold it (`Ellipse.Strays`).

* `Screen.get_fillEllipse`: what each cell shows after filling.
* `Screen.fillEllipse_paints_covered_and_stray`: the painted cells, and when they are the ones
  meant.
-/

namespace Ricochet

namespace Ellipse

variable {e : Ellipse Rat} {x y : Int}

/-- Whether the centre is truncated to a cell that does not hold it. -/
def Strays (e : Ellipse Rat) (x y : Int) : Prop :=
  (SlipsIn e.cx x ∧ (LiesIn e.cy y ∨ SlipsIn e.cy y)) ∨ (LiesIn e.cx x ∧ SlipsIn e.cy y)

instance (e : Ellipse Rat) (x y : Int) : Decidable (e.Strays x y) :=
  inferInstanceAs (Decidable (_ ∨ _))

/-- The cells of an ellipse are the cells that it covers and the cell to which its centre strays. -/
theorem mem_cells_iff_strays {s : Screen} {clip : Rect} (hrx : 0 < e.rx) (hry : 0 < e.ry)
    (hon : s.onScreen x y = true) :
    (x, y) ∈ e.cells s.width s.height clip ↔
      clip.contains x y = true ∧ (e.Covers x y ∨ e.Strays x y) := by
  have hcentre : (LiesIn e.cx x ∨ SlipsIn e.cx x) ∧ (LiesIn e.cy y ∨ SlipsIn e.cy y) ↔
      (LiesIn e.cx x ∧ LiesIn e.cy y) ∨ e.Strays x y := by
    unfold Strays
    tauto
  rw [mem_cells_iff_truncated hrx hry hon, hcentre, ← or_assoc]
  rfl

/-- A centre that is not within one cell before the screen does not stray. -/
theorem not_strays (hx : ¬ (-1 < e.cx ∧ e.cx < 0)) (hy : ¬ (-1 < e.cy ∧ e.cy < 0)) :
    ¬ e.Strays x y := by
  rintro (⟨⟨-, hslip⟩, -⟩ | ⟨-, -, hslip⟩)
  · exact hx hslip
  · exact hy hslip

/-- A centre that strays lies off the screen, so that no cell of the screen holds it. -/
theorem not_liesIn_of_strays (h : e.Strays x y) {px py : Int} (hx : 0 ≤ px) (hy : 0 ≤ py) :
    ¬ (LiesIn e.cx px ∧ LiesIn e.cy py) := by
  have hslip : ∀ {q : Rat} {n m : Int}, SlipsIn q n → 0 ≤ m → ¬ LiesIn q m := by
    rintro q n m ⟨-, -, hneg⟩ hm ⟨hlo, -⟩
    have hm' : (0 : Rat) ≤ m := by exact_mod_cast hm
    linarith
  rintro ⟨hpx, hpy⟩
  rcases h with ⟨hcx, -⟩ | ⟨-, hcy⟩
  · exact hslip hcx hx hpx
  · exact hslip hcy hy hpy

/-- A centre strays to one cell only. -/
theorem eq_truncRat_of_strays (hx : 0 ≤ x) (hy : 0 ≤ y) (h : e.Strays x y) :
    x = truncRat e.cx ∧ y = truncRat e.cy := by
  rw [eq_truncRat_iff hx, eq_truncRat_iff hy]
  rcases h with ⟨hcx, hcy⟩ | ⟨hcx, hcy⟩
  · exact ⟨.inr hcx, hcy⟩
  · exact ⟨.inl hcx, .inr hcy⟩

end Ellipse

namespace Screen

theorem get_fillEllipse {s : Screen} (hs : s.WellFormed) {e : Ellipse Rat} (hrx : 0 < e.rx)
    (hry : 0 < e.ry) (clip : Rect) (cell : Cell) {x y : Int} (hon : s.onScreen x y = true) :
    (s.fillEllipse e clip cell).get x y =
      if clip.contains x y = true ∧ (e.Covers x y ∨ e.Strays x y) then cell else s.get x y := by
  rw [fillEllipse, get_draw hs _ hon, lastWrite_ellipseWrites]
  simp only [Ellipse.mem_cells_iff_strays hrx hry hon]
  split
  · rfl
  · rfl

/-- **The cells that a filled ellipse paints.** Filling keeps the size of a screen. A cell of the
screen is painted if it is in the clip and the ellipse covers it, that is if its middle lies in it
or it holds the centre, or if it is in the clip and the centre strays to it. Every other cell is
left as it was. A centre strays only if one of its coordinates lies between minus one and zero, so
that for all others the cells that are covered are painted and no more. It strays to one cell, while
no cell of the screen holds it. -/
theorem fillEllipse_paints_covered_and_stray {s : Screen} (hs : s.WellFormed) (e : Ellipse Rat)
    (hrx : 0 < e.rx) (hry : 0 < e.ry) (clip : Rect) (cell : Cell) :
    let filled := s.fillEllipse e clip cell
    (filled.width = s.width ∧ filled.height = s.height)
    ∧ (∀ x y, s.onScreen x y = true → filled.get x y =
        if clip.contains x y = true ∧ (e.Covers x y ∨ e.Strays x y) then cell else s.get x y)
    ∧ (¬ (-1 < e.cx ∧ e.cx < 0) → ¬ (-1 < e.cy ∧ e.cy < 0) → ∀ x y, s.onScreen x y = true →
        filled.get x y = if clip.contains x y = true ∧ e.Covers x y then cell else s.get x y)
    ∧ ∀ x y, s.onScreen x y = true → e.Strays x y →
        (x = truncRat e.cx ∧ y = truncRat e.cy)
        ∧ ∀ px py, s.onScreen px py = true → ¬ (LiesIn e.cx px ∧ LiesIn e.cy py) := by
  intro filled
  have hget : ∀ x y, s.onScreen x y = true → filled.get x y =
      if clip.contains x y = true ∧ (e.Covers x y ∨ e.Strays x y) then cell else s.get x y :=
    fun x y hon => get_fillEllipse hs hrx hry clip cell hon
  refine ⟨⟨width_draw s _, height_draw s _⟩, hget, ?_, ?_⟩
  · intro hcx hcy x y hon
    have hnone : ¬ e.Strays x y := Ellipse.not_strays hcx hcy
    simp only [hget x y hon, hnone, or_false]
  · intro x y hon hstrays
    obtain ⟨hx, hy⟩ := (s.onScreen_iff x y).mp hon
    refine ⟨Ellipse.eq_truncRat_of_strays hx.1 hy.1 hstrays, fun px py hon' => ?_⟩
    obtain ⟨hpx, hpy⟩ := (s.onScreen_iff px py).mp hon'
    exact Ellipse.not_liesIn_of_strays hstrays hpx.1 hpy.1

/-- An ellipse of less than a cell, around the middle of a cell. -/
def smallEllipse : Ellipse Rat := ⟨9 / 2, 3 / 2, 1 / 10, 1 / 10⟩

/-- An ellipse of less than a cell, half a cell to the left of the screen. -/
def besideEllipse : Ellipse Rat := ⟨-1 / 2, 1 / 2, 1 / 4, 1 / 4⟩

/-- An orange star. -/
def star : Cell := Cell.ofChar '*' Color.orange

/-- The small ellipse paints the cell of its centre and leaves the cell beside it. -/
theorem fillEllipse_paints_covered_and_stray_small :
    (sized 10 3).WellFormed ∧ (0 < smallEllipse.rx ∧ 0 < smallEllipse.ry)
    ∧ ((sized 10 3).fillEllipse smallEllipse (sized 10 3).bounds star).get 4 1 = star
    ∧ ((sized 10 3).fillEllipse smallEllipse (sized 10 3).bounds star).get 3 1 = Cell.blank := by
  have hs := wellFormed_sized 10 3
  have hradii : 0 < smallEllipse.rx ∧ 0 < smallEllipse.ry := by decide +kernel
  obtain ⟨-, -, hget, -⟩ := fillEllipse_paints_covered_and_stray hs smallEllipse hradii.1 hradii.2
    (sized 10 3).bounds star
  have hcovered := hget (by decide +kernel) (by decide +kernel)
  exact ⟨hs, hradii, (hcovered 4 1 rfl).trans (by decide +kernel),
    (hcovered 3 1 rfl).trans (by decide +kernel)⟩

/-- **A cell is painted that holds nothing of the ellipse.** The ellipse beside the screen covers no
cell of it, and yet the first cell is painted. -/
theorem centre_beside_screen_painted :
    (∀ x ∈ span 0 3, ∀ y ∈ span 0 2, ¬ besideEllipse.Covers x y)
    ∧ (sized 3 2).get 0 0 ≠ star
    ∧ ((sized 3 2).fillEllipse besideEllipse (sized 3 2).bounds star).get 0 0 = star := by
  refine ⟨by decide +kernel, by decide +kernel, by decide +kernel⟩

end Screen

end Ricochet
