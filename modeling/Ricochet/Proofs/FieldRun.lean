import Mathlib.Logic.Function.Iterate
import Ricochet.Field.Basic

set_option autoImplicit false

/-! # Runs of a field

A run of a field is the iterate of one step (`Field.steps_eq_iterate`), and in a run every ball is
the iterate of its own step (`Field.balls_steps`), axis by axis (`Ball.along_iterate`). What holds
of a ball in a run is therefore a fact about one motion on one axis.

`Field.ofBalls_eq_ok` says exactly which balls make a field and which field that is.
-/

namespace Ricochet

variable {α : Type}

/-! ## The two axes -/

/-- One of the two axes of a domain. -/
inductive Axis where
  | horizontal
  | vertical
  deriving DecidableEq, Repr

/-- How far a domain reaches along an axis. -/
def Domain.extent (d : Domain α) : Axis → α
  | .horizontal => d.width
  | .vertical => d.height

/-- The motion of a ball along an axis. -/
def Ball.along (b : Ball α) : Axis → Motion α
  | .horizontal => b.x
  | .vertical => b.y

variable [Scalar α]

namespace Ball

theorem along_advance (d : Domain α) (b : Ball α) (a : Axis) :
    (b.advance d).along a = (b.along a).advance (d.extent a) b.radius := by
  cases a <;> rfl

theorem radius_iterate (d : Domain α) (b : Ball α) (n : Nat) :
    ((advance d)^[n] b).radius = b.radius := by
  induction n with
  | zero => rfl
  | succ n ih =>
      rw [Function.iterate_succ_apply']
      exact ih

/-- A ball in a run moves along each axis as if the other one did not exist. -/
theorem along_iterate (d : Domain α) (b : Ball α) (a : Axis) (n : Nat) :
    ((advance d)^[n] b).along a = (Motion.advance (d.extent a) b.radius)^[n] (b.along a) := by
  induction n with
  | zero => rfl
  | succ n ih =>
      rw [Function.iterate_succ_apply', Function.iterate_succ_apply', along_advance,
        radius_iterate, ih]

end Ball

namespace Field

/-! ## Runs as iterates -/

theorem steps_eq_iterate (n : Nat) (f : Field α) : f.steps n = step^[n] f := by
  induction n generalizing f with
  | zero => rfl
  | succ n ih => exact ih f.step

/-- The last step of a run, taken apart. -/
theorem steps_succ (n : Nat) (f : Field α) : f.steps (n + 1) = (f.steps n).step := by
  rw [steps_eq_iterate, steps_eq_iterate, Function.iterate_succ_apply']

/-- A run in two parts. -/
theorem steps_add (m n : Nat) (f : Field α) : f.steps (m + n) = (f.steps m).steps n := by
  rw [steps_eq_iterate, steps_eq_iterate, steps_eq_iterate, Nat.add_comm,
    Function.iterate_add_apply]

@[simp] theorem domain_steps (n : Nat) (f : Field α) : (f.steps n).domain = f.domain := by
  induction n with
  | zero => rfl
  | succ n ih =>
      rw [steps_succ]
      exact ih

/-- Every ball of a run is the ball it was, advanced as often as the field was. -/
theorem balls_steps (n : Nat) (f : Field α) :
    (f.steps n).balls = f.balls.map (Ball.advance f.domain)^[n] := by
  induction n with
  | zero => exact (List.map_id f.balls).symm
  | succ n ih =>
      -- The domain of a run is the one it started with, so all steps advance balls the same way.
      have hstep : (f.steps n).step.balls
          = (f.steps n).balls.map (Ball.advance (f.steps n).domain) := rfl
      rw [steps_succ, hstep, ih, domain_steps, List.map_map, Function.iterate_succ']

/-- A ball of a run, found by its place in the field. -/
theorem getElem?_balls_steps (n : Nat) (f : Field α) (i : Nat) :
    (f.steps n).balls[i]? = (f.balls[i]?).map (Ball.advance f.domain)^[n] := by
  rw [balls_steps, List.getElem?_map]

/-- The tick counts the steps and wraps with its word. -/
theorem tick_steps (n : Nat) (f : Field α) : (f.steps n).tick = f.tick + UInt64.ofNat n := by
  induction n with
  | zero => simp [steps]
  | succ n ih =>
      have hstep : (f.steps n).step.tick = (f.steps n).tick + 1 := rfl
      rw [steps_succ, hstep, ih, UInt64.ofNat_add, UInt64.add_assoc]
      rfl

/-! ## Fields built by hand -/

/-- The balls of a list, numbered from `i` on. -/
def numberedFrom (i : Nat) (balls : List (Ball α)) : List (Ball α) :=
  balls.mapIdx fun j b => { b with id := ((i + j : Nat) : Int) }

omit [Scalar α] in
theorem numberedFrom_cons (i : Nat) (b : Ball α) (bs : List (Ball α)) :
    numberedFrom i (b :: bs) = { b with id := (i : Int) } :: numberedFrom (i + 1) bs := by
  simp [numberedFrom, List.mapIdx_cons, Nat.add_comm, Nat.add_left_comm]

omit [Scalar α] in
/-- Each numbered ball is one of the given balls but for its number. -/
theorem mem_numberedFrom {i : Nat} {balls : List (Ball α)} {b : Ball α}
    (h : b ∈ numberedFrom i balls) : ∃ c ∈ balls, ∃ k : Int, b = { c with id := k } := by
  rw [numberedFrom, List.mem_mapIdx] at h
  obtain ⟨j, hj, rfl⟩ := h
  exact ⟨balls[j], List.getElem_mem hj, _, rfl⟩

/-- Whether a ball may be placed in a domain. -/
def Fits (d : Domain α) (b : Ball α) : Prop := Scalar.zero < b.radius ∧ b.inside d = true

theorem place_of_fits {d : Domain α} {b : Ball α} (i : Nat) (h : Fits d b) :
    place d i b = .ok { b with id := i } := by
  simp [place, h.1, h.2]

theorem fits_of_place {d : Domain α} {b b' : Ball α} {i : Nat} (h : place d i b = .ok b') :
    Fits d b := by
  unfold place at h
  split at h
  · cases h
  · rename_i hr
    split at h
    · cases h
    · rename_i hin
      exact ⟨not_not.mp hr, not_not.mp hin⟩

theorem placeFrom_of_fits {d : Domain α} (bs : List (Ball α)) (i : Nat) (h : ∀ b ∈ bs, Fits d b) :
    placeFrom d i bs = .ok (numberedFrom i bs) := by
  induction bs generalizing i with
  | nil => rfl
  | cons b bs ih =>
      rw [numberedFrom_cons, placeFrom, place_of_fits i (h b List.mem_cons_self),
        ih (i + 1) fun c hc => h c (List.mem_cons_of_mem _ hc)]
      rfl

theorem fits_of_placeFrom {d : Domain α} {bs out : List (Ball α)} {i : Nat}
    (h : placeFrom d i bs = .ok out) : ∀ b ∈ bs, Fits d b := by
  induction bs generalizing i out with
  | nil => simp
  | cons b bs ih =>
      rw [placeFrom] at h
      cases hb : place d i b with
      | error e => rw [hb] at h; cases h
      | ok b' =>
          cases hbs : placeFrom d (i + 1) bs with
          | error e => rw [hb, hbs] at h; cases h
          | ok out' =>
              intro c hc
              rcases List.mem_cons.mp hc with rfl | hc
              · exact fits_of_place hb
              · exact ih hbs c hc

/-- **The fields that can be built by hand.** A domain with two positive sides accepts exactly the
balls that fit it, and the field holds them in their order, numbered, at tick zero. -/
theorem ofBalls_eq_ok {d : Domain α} {balls : List (Ball α)} {f : Field α} :
    ofBalls d balls = .ok f ↔
      domainFits d = true ∧ (∀ b ∈ balls, Fits d b) ∧ f = ⟨d, numberedFrom 0 balls, 0⟩ := by
  constructor
  · intro h
    unfold ofBalls at h
    split at h
    · rename_i hd
      cases hp : placeFrom d 0 balls with
      | error e => rw [hp] at h; cases h
      | ok out =>
          have hfits := fits_of_placeFrom hp
          rw [placeFrom_of_fits balls 0 hfits] at hp h
          exact ⟨hd, hfits, (Except.ok.inj h).symm⟩
    · cases h
  · rintro ⟨hd, hfits, rfl⟩
    unfold ofBalls
    rw [if_pos hd, placeFrom_of_fits balls 0 hfits]
    rfl

end Field

end Ricochet
