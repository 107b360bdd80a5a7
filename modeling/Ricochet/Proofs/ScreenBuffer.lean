import Ricochet.Screen.Basic

set_option autoImplicit false

/-! # The screen as a map of cells

A screen that has the rows and cells its size promises (`Screen.WellFormed`) keeps them under
drawing, and is then known by its cells alone: a cell shows what was last written to it
(`Screen.get_draw`), or what it showed before. `lastWrite` finds the last write to a cell in a list
of writes; drawing several shapes one after the other is reasoning about `lastWrite` of their lists.
-/

namespace Ricochet

/-! ## The last write to a cell -/

/-- What the last write to a cell puts there, if any write of the list is to it. -/
def lastWrite : List Write → Int → Int → Option Cell
  | [], _, _ => none
  | w :: ws, x, y => (lastWrite ws x y).or (if w.x = x ∧ w.y = y then some w.cell else none)

theorem lastWrite_append (ws vs : List Write) (x y : Int) :
    lastWrite (ws ++ vs) x y = (lastWrite vs x y).or (lastWrite ws x y) := by
  induction ws with
  | nil => simp [lastWrite]
  | cons w ws ih => rw [List.cons_append, lastWrite, lastWrite, ih, Option.or_assoc]

theorem lastWrite_eq_none {ws : List Write} {x y : Int} (h : ∀ w ∈ ws, ¬ (w.x = x ∧ w.y = y)) :
    lastWrite ws x y = none := by
  induction ws with
  | nil => rfl
  | cons w ws ih =>
      rw [lastWrite, ih fun v hv => h v (List.mem_cons_of_mem _ hv),
        if_neg (h w List.mem_cons_self)]
      rfl

/-- Writes that all put the same thing on a cell, if there are any. -/
theorem lastWrite_eq_some {ws : List Write} {x y : Int} {c : Cell}
    (hsome : ∃ w ∈ ws, w.x = x ∧ w.y = y) (hall : ∀ w ∈ ws, w.x = x → w.y = y → w.cell = c) :
    lastWrite ws x y = some c := by
  induction ws with
  | nil =>
      obtain ⟨w, hw, -⟩ := hsome
      cases hw
  | cons v ws ih =>
      have hrest : ∀ w ∈ ws, w.x = x → w.y = y → w.cell = c :=
        fun w hw => hall w (List.mem_cons_of_mem _ hw)
      rw [lastWrite]
      by_cases hlater : ∃ w ∈ ws, w.x = x ∧ w.y = y
      · rw [ih hlater hrest]
        rfl
      · have hnone : lastWrite ws x y = none :=
          lastWrite_eq_none fun w hw hat => hlater ⟨w, hw, hat⟩
        obtain ⟨w, hw, hat⟩ := hsome
        rcases List.mem_cons.mp hw with rfl | hw
        · rw [hnone, if_pos hat, hall w List.mem_cons_self hat.1 hat.2]
          rfl
        · exact absurd ⟨w, hw, hat⟩ hlater

theorem exists_of_lastWrite {ws : List Write} {x y : Int} {c : Cell}
    (h : lastWrite ws x y = some c) :
    ∃ w ∈ ws, w.cell = c := by
  induction ws with
  | nil => cases h
  | cons w ws ih =>
      rw [lastWrite, Option.or_eq_some_iff] at h
      rcases h with h | ⟨-, h⟩
      · obtain ⟨v, hv, hcell⟩ := ih h
        exact ⟨v, List.mem_cons_of_mem _ hv, hcell⟩
      · split at h
        · exact ⟨w, List.mem_cons_self, Option.some.inj h⟩
        · cases h

/-- Of shapes drawn in order, the last that covers a cell decides it. -/
theorem lastWrite_flatMap {β : Type} {items : List β} {shape : β → List Write}
    {covers : β → Bool} {paint : β → Cell} {x y : Int}
    (h : ∀ item ∈ items,
      lastWrite (shape item) x y = if covers item then some (paint item) else none) :
    lastWrite (items.flatMap shape) x y = (items.reverse.find? covers).map paint := by
  induction items with
  | nil => rfl
  | cons item items ih =>
      have hrest := ih fun other hother => h other (List.mem_cons_of_mem _ hother)
      rw [List.flatMap_cons, lastWrite_append, hrest, h item List.mem_cons_self,
        List.reverse_cons, List.find?_append, Option.map_or]
      cases hcovers : covers item with
      | true => simp [List.find?, hcovers]
      | false => simp [List.find?, hcovers]

namespace Screen

/-! ## Screens of the promised size -/

/-- The buffer has one row for each line and one cell for each column. -/
structure WellFormed (s : Screen) : Prop where
  rows_size : s.rows.size = s.height
  row_size : ∀ {y : Nat} {row : Array Cell}, s.rows[y]? = some row → row.size = s.width

theorem onScreen_iff (s : Screen) (x y : Int) :
    s.onScreen x y = true ↔ (0 ≤ x ∧ x < s.width) ∧ 0 ≤ y ∧ y < s.height := by
  simp only [onScreen, decide_eq_true_eq]
  omega

theorem getElem?_rows_sized {width height y : Nat} {row : Array Cell}
    (h : (sized width height).rows[y]? = some row) : row = Array.replicate width Cell.blank := by
  simp only [sized, Array.getElem?_ofFn] at h
  split at h
  · exact (Option.some.inj h).symm
  · cases h

theorem wellFormed_sized (width height : Nat) : (sized width height).WellFormed where
  rows_size := Array.size_ofFn
  row_size h := by
    rw [getElem?_rows_sized h]
    exact Array.size_replicate

/-- A blank screen shows blanks. -/
theorem get_sized (width height : Nat) (x y : Int) : (sized width height).get x y = Cell.blank := by
  unfold get
  split
  · cases hrow : (sized width height).rows[y.toNat]? with
    | none => rfl
    | some row =>
        rw [getElem?_rows_sized hrow, Option.bind_some, Array.getElem?_replicate]
        split <;> rfl
  · rfl

/-- A screen asked for a size has it, whether or not it had it before. -/
theorem width_resize (s : Screen) (width height : Int) :
    (s.resize width height).width = width.toNat := by
  unfold resize
  split
  · rename_i h
    rw [h.1]
    rfl
  · rfl

theorem height_resize (s : Screen) (width height : Int) :
    (s.resize width height).height = height.toNat := by
  unfold resize
  split
  · rename_i h
    rw [h.2]
    rfl
  · rfl

variable {s : Screen}

@[simp] theorem width_set (s : Screen) (x y : Int) (c : Cell) : (s.set x y c).width = s.width := by
  unfold set
  split <;> rfl

@[simp] theorem height_set (s : Screen) (x y : Int) (c : Cell) :
    (s.set x y c).height = s.height := by
  unfold set
  split <;> rfl

theorem onScreen_set (s : Screen) (x y : Int) (c : Cell) (px py : Int) :
    (s.set x y c).onScreen px py = s.onScreen px py := by
  simp only [onScreen, width_set, height_set]

theorem WellFormed.set (hs : s.WellFormed) (x y : Int) (c : Cell) : (s.set x y c).WellFormed := by
  unfold Screen.set
  split
  · refine ⟨?_, ?_⟩
    · simpa using hs.rows_size
    · intro k row hrow
      simp only [Array.getElem?_modify] at hrow
      split at hrow
      · obtain ⟨old, hold, rfl⟩ := Option.map_eq_some_iff.mp hrow
        rw [Array.size_setIfInBounds]
        exact hs.row_size hold
      · exact hs.row_size hrow
  · exact hs

theorem get_of_onScreen {x y : Int} (hon : s.onScreen x y = true) :
    s.get x y = ((s.rows[y.toNat]?).bind fun row => row[x.toNat]?).getD Cell.blank :=
  if_pos hon

/-- Placing a cell changes that cell and no other. -/
theorem get_set (hs : s.WellFormed) {x y : Int} (hon : s.onScreen x y = true) (c : Cell)
    {px py : Int} (hp : s.onScreen px py = true) :
    (s.set x y c).get px py = if x = px ∧ y = py then c else s.get px py := by
  have hset : s.set x y c
      = { s with rows := s.rows.modify y.toNat fun row => row.setIfInBounds x.toNat c } :=
    if_pos hon
  have hp' : (s.set x y c).onScreen px py = true := (s.onScreen_set x y c px py).trans hp
  rw [get_of_onScreen hp', get_of_onScreen hp, hset]
  rw [onScreen_iff] at hon hp
  -- Coordinates on the screen are natural numbers, so cells differ exactly if their indices do.
  simp only [Array.getElem?_modify]
  by_cases hy : y = py
  · subst hy
    have hline : y.toNat < s.rows.size := by
      rw [hs.rows_size]
      omega
    obtain ⟨row, hrow⟩ : ∃ row, s.rows[y.toNat]? = some row :=
      ⟨_, Array.getElem?_eq_getElem hline⟩
    have hsize : row.size = s.width := hs.row_size hrow
    rw [if_pos rfl, hrow, Option.map_some, Option.bind_some, Option.bind_some,
      Array.getElem?_setIfInBounds]
    by_cases hx : x = px
    · subst hx
      have hcolumn : x.toNat < row.size := by omega
      simp [hcolumn]
    · have hcolumn : x.toNat ≠ px.toNat := by omega
      simp [hcolumn, hx]
  · have hline : y.toNat ≠ py.toNat := by omega
    rw [if_neg hline, if_neg fun h => hy h.2]

/-! ## Drawing -/

theorem draw_cons (s : Screen) (w : Write) (ws : List Write) :
    s.draw (w :: ws) = (s.set w.x w.y w.cell).draw ws := rfl

@[simp] theorem width_draw (s : Screen) (ws : List Write) : (s.draw ws).width = s.width := by
  induction ws generalizing s with
  | nil => rfl
  | cons w ws ih => rw [draw_cons, ih, width_set]

@[simp] theorem height_draw (s : Screen) (ws : List Write) : (s.draw ws).height = s.height := by
  induction ws generalizing s with
  | nil => rfl
  | cons w ws ih => rw [draw_cons, ih, height_set]

theorem WellFormed.draw (hs : s.WellFormed) (ws : List Write) : (s.draw ws).WellFormed := by
  induction ws generalizing s with
  | nil => exact hs
  | cons w ws ih => exact ih (hs.set w.x w.y w.cell)

/-- **The last write wins.** After drawing, a cell of the screen shows what was last written to it,
or what it showed before if nothing was. -/
theorem get_draw (hs : s.WellFormed) (ws : List Write) {x y : Int} (hon : s.onScreen x y = true) :
    (s.draw ws).get x y = (lastWrite ws x y).getD (s.get x y) := by
  induction ws generalizing s with
  | nil => rfl
  | cons w ws ih =>
      have hnext : (s.set w.x w.y w.cell).onScreen x y = true :=
        (s.onScreen_set w.x w.y w.cell x y).trans hon
      rw [draw_cons, ih (hs.set w.x w.y w.cell) hnext, lastWrite]
      cases lastWrite ws x y with
      | some c => rfl
      | none =>
          rw [Option.none_or, Option.getD_none]
          by_cases hw : s.onScreen w.x w.y = true
          · rw [get_set hs hw w.cell hon]
            split <;> rfl
          · -- A write off the screen is ignored, and the cell is not the one it aims at.
            have hother : ¬ (w.x = x ∧ w.y = y) := by
              rintro ⟨rfl, rfl⟩
              exact hw hon
            have hset : s.set w.x w.y w.cell = s := if_neg hw
            rw [hset, if_neg hother]
            rfl

/-- Drawing does nothing to what lies off the screen. -/
theorem get_draw_of_not_onScreen (ws : List Write) {x y : Int} (hoff : ¬ s.onScreen x y = true) :
    (s.draw ws).get x y = s.get x y := by
  have hoff' : ¬ (s.draw ws).onScreen x y = true := by
    simpa only [onScreen, width_draw, height_draw] using hoff
  rw [get, if_neg hoff', get, if_neg hoff]

/-- What holds of all that was there and of all that is written holds afterwards. -/
theorem get_draw_of_forall {P : Cell → Prop} (hs : s.WellFormed) {ws : List Write} {x y : Int}
    (hold : P (s.get x y)) (hws : ∀ w ∈ ws, P w.cell) (hon : s.onScreen x y = true) :
    P ((s.draw ws).get x y) := by
  rw [get_draw hs ws hon]
  cases hlast : lastWrite ws x y with
  | none => exact hold
  | some c =>
      obtain ⟨w, hw, rfl⟩ := exists_of_lastWrite hlast
      exact hws w hw

end Screen

end Ricochet
