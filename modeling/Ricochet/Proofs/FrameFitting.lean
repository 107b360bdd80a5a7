import Mathlib.Tactic.Ring
import Ricochet.Proofs.Picture

set_option autoImplicit false

/-! # The frame of a domain in exact arithmetic

A domain is fitted into an area of cells at the greatest scale at which both its sides have room,
where a cell is twice as high as wide. The scale is the lesser of two, so one side of the frame
fills its side of the area, while the other is what the proportions of the domain leave, rounded
down, but at least one cell (`fitFrame_eq`). What is left over on a side is halved, so that the two
margins differ by one cell at most (`centred_halves`).

* `fitFrame_fills`, `fitFrame_greatest`: no larger frame of these proportions has room.
* `fitFrame_largest_centred`: all of it, and what happens without room.
-/

namespace Ricochet

/-! ## Rounding and clamping -/

theorem lesser_eq_min (a b : Rat) : Scalar.lesser a b = min a b := by
  unfold Scalar.lesser
  split
  · rename_i hlt
    exact (min_eq_right hlt.le).symm
  · rename_i hge
    have hle : a ≤ b := not_lt.mp hge
    rw [if_pos hle, min_eq_left hle]

theorem truncRat_of_nonneg {q : Rat} (h : 0 ≤ q) : truncRat q = q.floor := if_pos h

theorem floor_min (n : Int) (q : Rat) : (min (n : Rat) q).floor = min n q.floor := by
  have hmono : Monotone Rat.floor := fun _ _ hle => Rat.floor_monotone hle
  rw [hmono.map_min, Rat.floor_intCast]

/-- A side of at most the room there is, clamped: only the lower end matters. -/
theorem clamp_min (side n : Int) : clamp (min side n) 1 side = max 1 (min side n) := by
  unfold clamp
  split
  · omega
  · split <;> omega

/-- The length of a side that may take `room` of the `side` cells there are. -/
theorem clamp_truncRat_min {side : Int} {room : Rat} (hside : 1 ≤ side) (hroom : 0 ≤ room) :
    clamp (truncRat (min (side : Rat) room)) 1 side = max 1 (min side room.floor) := by
  have hside' : (0 : Rat) ≤ side := by exact_mod_cast le_trans zero_le_one hside
  have hnonneg : 0 ≤ min (side : Rat) room := le_min hside' hroom
  rw [truncRat_of_nonneg hnonneg, floor_min, clamp_min]

/-- A length that has room and is no more than what the proportions leave is not cut off. -/
theorem floor_le_fitted {side : Int} {length room : Rat} (hside : length ≤ side)
    (hroom : length ≤ room) : length.floor ≤ max 1 (min side room.floor) := by
  have hfloor : length.floor ≤ room.floor := Rat.floor_monotone hroom
  have hside' : length.floor ≤ side := by exact_mod_cast le_trans (Rat.floor_le length) hside
  omega

/-! ## The sides of the frame -/

section Sides

variable {area : Rect} {d : Domain Rat}

/-- The columns that the domain takes when it has the full height of the area. -/
def columnsAtFullHeight (area : Rect) (d : Domain Rat) : Rat := 2 * area.h * d.width / d.height

/-- The rows that the domain takes when it has the full width of the area. -/
def rowsAtFullWidth (area : Rect) (d : Domain Rat) : Rat := area.w * d.height / (2 * d.width)

theorem frameScale_eq (area : Rect) (d : Domain Rat) :
    frameScale area d = min (area.w / d.width) (area.h * 2 / d.height) := lesser_eq_min _ _

theorem width_mul_frameScale (area : Rect) (hwidth : 0 < d.width) :
    d.width * frameScale area d = min (area.w : Rat) (columnsAtFullHeight area d) := by
  have hcolumns : d.width * (area.h * 2 / d.height) = columnsAtFullHeight area d := by
    unfold columnsAtFullHeight
    ring
  calc d.width * frameScale area d
      = min (d.width * (area.w / d.width)) (d.width * (area.h * 2 / d.height)) := by
        rw [frameScale_eq, mul_min_of_nonneg _ _ hwidth.le]
    _ = min (area.w : Rat) (columnsAtFullHeight area d) := by
        rw [mul_div_cancel₀ _ hwidth.ne', hcolumns]

theorem height_mul_frameScale (area : Rect) (hheight : 0 < d.height) :
    d.height * frameScale area d / 2 = min (area.h : Rat) (rowsAtFullWidth area d) := by
  have hrows : d.height * (area.w / d.width) / 2 = rowsAtFullWidth area d := by
    unfold rowsAtFullWidth
    ring
  calc d.height * frameScale area d / 2
      = min (d.height * (area.w / d.width) / 2) (d.height * (area.h * 2 / d.height) / 2) := by
        rw [frameScale_eq, mul_min_of_nonneg _ _ hheight.le, min_div_div_right (by norm_num)]
    _ = min (rowsAtFullWidth area d) area.h := by
        rw [mul_div_cancel₀ _ hheight.ne', hrows, mul_div_assoc, div_self two_ne_zero, mul_one]
    _ = min (area.h : Rat) (rowsAtFullWidth area d) := min_comm _ _

variable (hw : 1 ≤ area.w) (hh : 1 ≤ area.h) (hwidth : 0 < d.width) (hheight : 0 < d.height)

include hw hh hwidth hheight

/-- The frame where there is room for one. -/
theorem fitFrame_eq :
    fitFrame area d =
      let w := max 1 (min area.w (columnsAtFullHeight area d).floor)
      let h := max 1 (min area.h (rowsAtFullWidth area d).floor)
      ⟨wrap64 (area.x + margin area.w w), wrap64 (area.y + margin area.h h), w, h⟩ := by
  have hroom : ¬ (area.w ≤ 0 ∨ area.h ≤ 0 ∨ d.width ≤ Scalar.zero ∨ d.height ≤ Scalar.zero) := by
    rintro (h | h | h | h)
    · omega
    · omega
    · exact absurd h (not_le.mpr hwidth)
    · exact absurd h (not_le.mpr hheight)
  have hw' : (0 : Rat) ≤ area.w := by exact_mod_cast le_trans zero_le_one hw
  have hh' : (0 : Rat) ≤ area.h := by exact_mod_cast le_trans zero_le_one hh
  have hcolumns : 0 ≤ columnsAtFullHeight area d :=
    div_nonneg (mul_nonneg (mul_nonneg zero_le_two hh') hwidth.le) hheight.le
  have hrows : 0 ≤ rowsAtFullWidth area d :=
    div_nonneg (mul_nonneg hw' hheight.le) (mul_nonneg zero_le_two hwidth.le)
  have hwide : clamp (Scalar.truncInt (d.width * frameScale area d)) 1 area.w
      = max 1 (min area.w (columnsAtFullHeight area d).floor) := by
    rw [width_mul_frameScale area hwidth]
    exact clamp_truncRat_min hw hcolumns
  have hhigh : clamp (Scalar.truncInt (d.height * frameScale area d / cellAspect)) 1 area.h
      = max 1 (min area.h (rowsAtFullWidth area d).floor) := by
    have haspect : (cellAspect : Rat) = 2 := rfl
    rw [haspect, height_mul_frameScale area hheight]
    exact clamp_truncRat_min hh hrows
  rw [fitFrame, if_neg hroom]
  simp only [hwide, hhigh]

/-- One side of the frame fills the area: at full width the rows have room, or at full height the
columns have. -/
theorem fitFrame_fills : (fitFrame area d).w = area.w ∨ (fitFrame area d).h = area.h := by
  rw [fitFrame_eq hw hh hwidth hheight]
  simp only
  have hcross : (area.w : Rat) ≤ columnsAtFullHeight area d
      ∨ (area.h : Rat) ≤ rowsAtFullWidth area d := by
    unfold columnsAtFullHeight rowsAtFullWidth
    rw [le_div_iff₀ hheight, le_div_iff₀ (mul_pos two_pos hwidth)]
    rcases le_total (area.w * d.height) (2 * area.h * d.width) with hle | hle
    · exact .inl hle
    · exact .inr (by linarith)
  rcases hcross with hle | hle
  · left
    have hfloor : area.w ≤ (columnsAtFullHeight area d).floor := Rat.le_floor_iff.mpr hle
    omega
  · right
    have hfloor : area.h ≤ (rowsAtFullWidth area d).floor := Rat.le_floor_iff.mpr hle
    omega

/-- A scale at which both sides of the domain have room gives no larger frame. -/
theorem fitFrame_greatest {scale : Rat} (hwide : d.width * scale ≤ area.w)
    (hhigh : d.height * scale / 2 ≤ area.h) :
    (d.width * scale).floor ≤ (fitFrame area d).w
      ∧ (d.height * scale / 2).floor ≤ (fitFrame area d).h := by
  have hcolumns : d.width * scale ≤ columnsAtFullHeight area d := by
    rw [columnsAtFullHeight, le_div_iff₀ hheight]
    have hscaled := mul_le_mul_of_nonneg_left hhigh hwidth.le
    linarith
  have hrows : d.height * scale / 2 ≤ rowsAtFullWidth area d := by
    rw [rowsAtFullWidth, le_div_iff₀ (mul_pos two_pos hwidth)]
    have hscaled := mul_le_mul_of_nonneg_left hwide hheight.le
    linarith
  rw [fitFrame_eq hw hh hwidth hheight]
  exact ⟨floor_le_fitted hwide hcolumns, floor_le_fitted hhigh hrows⟩

end Sides

/-! ## The margins -/

/-- What is left over is halved, and the half after the inner side gets the odd cell. -/
theorem margin_halves {outer inner : Int} (h : inner ≤ outer) :
    margin outer inner ≤ outer - inner - margin outer inner
      ∧ outer - inner - margin outer inner ≤ margin outer inner + 1 := by
  have hdiv : margin outer inner = (outer - inner) / 2 :=
    Int.tdiv_eq_ediv_of_nonneg (by omega)
  omega

/-- Whether a rectangle has as many cells of another rectangle before it as after it on both axes,
up to one more after it. -/
structure Rect.CentredIn (inner outer : Rect) : Prop where
  columns : inner.x - outer.x ≤ outer.x + outer.w - (inner.x + inner.w)
    ∧ outer.x + outer.w - (inner.x + inner.w) ≤ inner.x - outer.x + 1
  rows : inner.y - outer.y ≤ outer.y + outer.h - (inner.y + inner.h)
    ∧ outer.y + outer.h - (inner.y + inner.h) ≤ inner.y - outer.y + 1

theorem centred_halves {start side n : Int} (hn : 1 ≤ n ∧ n ≤ side) (hlo : minWord ≤ start)
    (hhi : start + side ≤ maxWord) :
    wrap64 (start + margin side n) - start ≤ start + side - (wrap64 (start + margin side n) + n)
      ∧ start + side - (wrap64 (start + margin side n) + n)
        ≤ wrap64 (start + margin side n) - start + 1 := by
  obtain ⟨hbefore, hafter⟩ := margin_mem hn.2
  obtain ⟨hle, hge⟩ := margin_halves hn.2
  rw [wrap64_of_mem (by omega) (by omega)]
  omega

/-- **The largest centred frame.** In an area with cells, whose edges are words, the frame of a
domain with extent has the width of the area or the columns that the domain takes at full height,
whichever is less, and likewise for the height, but at least one cell. It lies in the area, fills it
in one direction, and no scale at which the domain has room gives a larger one. The cells left over
stand before and after it in equal numbers, up to one more to the right or below. Without cells or
without extent the frame is empty and stands at the corner of the area. -/
theorem fitFrame_largest_centred (area : Rect) (d : Domain Rat) :
    let frame := fitFrame area d
    (0 < area.w → 0 < area.h → minWord ≤ area.x → area.x + area.w ≤ maxWord →
      minWord ≤ area.y → area.y + area.h ≤ maxWord → 0 < d.width → 0 < d.height →
        frame.w = max 1 (min area.w (2 * area.h * d.width / d.height : Rat).floor)
        ∧ frame.h = max 1 (min area.h (area.w * d.height / (2 * d.width) : Rat).floor)
        ∧ frame.FilledIn area
        ∧ (frame.w = area.w ∨ frame.h = area.h)
        ∧ (∀ scale, d.width * scale ≤ area.w → d.height * scale / 2 ≤ area.h →
          (d.width * scale).floor ≤ frame.w ∧ (d.height * scale / 2).floor ≤ frame.h)
        ∧ frame.CentredIn area)
    ∧ (area.w ≤ 0 ∨ area.h ≤ 0 ∨ d.width ≤ 0 ∨ d.height ≤ 0 →
        frame = ⟨area.x, area.y, 0, 0⟩) := by
  intro frame
  refine ⟨?_, fun hnone => if_pos hnone⟩
  intro hw hh hx hright hy hbottom hwidth hheight
  have hframe := fitFrame_eq hw hh hwidth hheight
  have hfits : area.EdgesFit := ⟨⟨by omega, hright⟩, by omega, hbottom⟩
  have hfilled : frame.FilledIn area :=
    fitFrame_filledIn hw hh hfits hx hy (not_le.mpr hwidth) (not_le.mpr hheight)
  refine ⟨?_, ?_, hfilled, fitFrame_fills hw hh hwidth hheight, ?_, ?_⟩
  · show (fitFrame area d).w = _
    rw [hframe]
    rfl
  · show (fitFrame area d).h = _
    rw [hframe]
    rfl
  · intro scale hwide hhigh
    exact fitFrame_greatest hw hh hwidth hheight hwide hhigh
  · show (fitFrame area d).CentredIn area
    rw [hframe]
    exact ⟨centred_halves (by omega) hx hright, centred_halves (by omega) hy hbottom⟩

/-- An area of 25 columns and 10 rows, off the corner of the screen. -/
def wideArea : Rect := ⟨3, 4, 25, 10⟩

/-- A domain that is more than twice as wide as it is high. -/
def wideDomain : Domain Rat := ⟨7, 3⟩

/-- The domain fills the 25 columns and takes 5 of the 10 rows, with 2 rows above it and 3 below. -/
theorem fitFrame_largest_centred_wide :
    (0 < wideArea.w ∧ wideArea.x + wideArea.w ≤ maxWord ∧ 0 < wideDomain.width)
    ∧ (fitFrame wideArea wideDomain).w = 25 ∧ (fitFrame wideArea wideDomain).h = 5
    ∧ (fitFrame wideArea wideDomain).CentredIn wideArea
    ∧ fitFrame wideArea (⟨7, 0⟩ : Domain Rat) = ⟨3, 4, 0, 0⟩ := by
  obtain ⟨hroom, -⟩ := fitFrame_largest_centred wideArea wideDomain
  obtain ⟨-, hnone⟩ := fitFrame_largest_centred wideArea ⟨7, 0⟩
  obtain ⟨hw, hh, -, -, -, hcentred⟩ := hroom (by decide) (by decide) (by decide) (by decide)
    (by decide) (by decide) (by decide +kernel) (by decide +kernel)
  exact ⟨⟨by decide, by decide, by decide +kernel⟩, hw.trans (by decide +kernel),
    hh.trans (by decide +kernel), hcentred, hnone (by decide +kernel)⟩

end Ricochet
