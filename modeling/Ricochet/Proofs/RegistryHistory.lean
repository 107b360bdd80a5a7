import Mathlib.Data.List.Induction
import Mathlib.Data.List.Nodup
import Ricochet.Registry

set_option autoImplicit false

/-! # The registry after any calls

Demos are registered, listed, created and looked up in any order. A registry keeps two maps, and
they stay in step (`Registry.InStep`): every name has one demo and the title of that demo. What the
maps hold is what was registered without being refused (`Registry.find?_after`), so the listing is
the sorted list of those names. No name is there twice, so there is only one sorted list of them
(`Registry.eq_list`): the order in which a map is read and the method of sorting do not show.

* `Registry.inStep_after`: the invariant, from one call to all.
* `Registry.registry_follows_history`: listing, lookup, creation and refusal after any calls.
-/

namespace Ricochet

/-! ## The order of names -/

theorem nameLE_iff {a b : List UInt8} : nameLE a b = true ↔ a ≤ b := decide_eq_true_iff

theorem nameLE_trans {a b c : List UInt8} (h₁ : nameLE a b = true) (h₂ : nameLE b c = true) :
    nameLE a c = true :=
  nameLE_iff.mpr (List.le_trans (nameLE_iff.mp h₁) (nameLE_iff.mp h₂))

theorem nameLE_total (a b : List UInt8) : (nameLE a b || nameLE b a) = true := by
  rw [Bool.or_eq_true, nameLE_iff, nameLE_iff]
  exact List.le_total _ _

namespace Registry

variable {δ : Type}

/-! ## Calls -/

/-- A call on a registry. -/
inductive Call (δ : Type) where
  | register (id : List UInt8) (demo : δ)
  | list
  | create (id : List UInt8)
  | contains (id : List UInt8)

/-- What a call gives back. -/
inductive Reply (δ : Type) where
  | registered (result : Except RegistryError Unit)
  | listed (lines : List Listing)
  | created (result : Except RegistryError δ)
  | found (answer : Bool)

/-- One call: what it gives back, and the registry after it. -/
def perform (title : δ → String) (r : Registry δ) : Call δ → Reply δ × Registry δ
  | .register id demo =>
      (.registered (r.register title id demo).1, (r.register title id demo).2)
  | .list => (.listed r.list, r)
  | .create id => (.created (r.create id), r)
  | .contains id => (.found (r.contains id), r)

/-- What calls made one after the other give back. -/
def replies (title : δ → String) : Registry δ → List (Call δ) → List (Reply δ)
  | _, [] => []
  | r, c :: cs => (r.perform title c).1 :: replies title (r.perform title c).2 cs

/-- The registry after calls that began with no demo. -/
def after (title : δ → String) (calls : List (Call δ)) : Registry δ :=
  calls.foldl (fun r c => (r.perform title c).2) empty

/-- Whether a demo was registered under a name in the course of calls: one of them offered it and
was not refused. -/
def Accepted (title : δ → String) (calls : List (Call δ)) (id : List UInt8) (demo : δ) : Prop :=
  ∃ before later, calls = before ++ .register id demo :: later
    ∧ ((after title before).register title id demo).1 = .ok ()

variable {title : δ → String} {r : Registry δ}

theorem after_concat (calls : List (Call δ)) (c : Call δ) :
    after title (calls ++ [c]) = ((after title calls).perform title c).2 := by
  unfold after
  rw [List.foldl_append]
  rfl

theorem accepted_concat {calls : List (Call δ)} {c : Call δ} {id : List UInt8} {demo : δ} :
    Accepted title (calls ++ [c]) id demo ↔ Accepted title calls id demo
      ∨ (c = .register id demo ∧ ((after title calls).register title id demo).1 = .ok ()) := by
  constructor
  · rintro ⟨before, later, heq, hok⟩
    rcases List.eq_nil_or_concat later with rfl | ⟨later', last, rfl⟩
    · obtain ⟨rfl, hlast⟩ := List.append_inj' heq rfl
      exact Or.inr ⟨List.head_eq_of_cons_eq hlast, hok⟩
    · rw [List.concat_eq_append, ← List.cons_append, ← List.append_assoc] at heq
      exact Or.inl ⟨before, later', (List.append_inj' heq rfl).1, hok⟩
  · rintro (⟨before, later, rfl, hok⟩ | ⟨rfl, hok⟩)
    · exact ⟨before, later ++ [c], by rw [List.append_assoc, List.cons_append], hok⟩
    · exact ⟨calls, [], rfl, hok⟩

/-! ## What registering does -/

theorem register_of_contains {id : List UInt8} (demo : δ) (h : r.contains id = true) :
    r.register title id demo = (.error (.alreadyRegistered id), r) := by
  rw [register, if_pos h]

theorem register_of_not_contains {id : List UInt8} (demo : δ) (h : ¬ r.contains id = true) :
    r.register title id demo
      = (.ok (), ⟨(id, demo) :: r.entries, (id, title demo) :: r.titles⟩) := by
  rw [register, if_neg h]

theorem register_eq_ok_iff {id : List UInt8} {demo : δ} :
    (r.register title id demo).1 = .ok () ↔ r.contains id = false := by
  by_cases h : r.contains id = true
  · rw [register_of_contains demo h, h]
    simp
  · rw [register_of_not_contains demo h]
    simpa using h

theorem register_eq_error_iff {id : List UInt8} {demo : δ} {e : RegistryError} :
    (r.register title id demo).1 = .error e ↔ r.contains id = true ∧ e = .alreadyRegistered id := by
  by_cases h : r.contains id = true
  · rw [register_of_contains demo h]
    simp [h, eq_comm]
  · rw [register_of_not_contains demo h]
    simp [h]

theorem contains_iff {id : List UInt8} : r.contains id = true ↔ ∃ demo, r.find? id = some demo :=
  Option.isSome_iff_exists

theorem lookup_cons_of_ne {α : Type} {id name : List UInt8} (h : id ≠ name) (value : α)
    (rest : List (List UInt8 × α)) : List.lookup id ((name, value) :: rest) = rest.lookup id := by
  have hbeq : (id == name) = false := beq_false_of_ne h
  rw [List.lookup_cons, hbeq]

/-- A name keeps its demo, and a name without one takes the demo that is offered. -/
theorem find?_register (id : List UInt8) (demo : δ) (id' : List UInt8) :
    (r.register title id demo).2.find? id'
      = (r.find? id').or (if id' = id then some demo else none) := by
  by_cases h : r.contains id = true
  · obtain ⟨old, hold⟩ := contains_iff.mp h
    rw [register_of_contains demo h]
    by_cases hid : id' = id
    · rw [hid, hold]
      rfl
    · rw [if_neg hid, Option.or_none]
  · have hnone : r.find? id = none := by simpa [contains] using h
    rw [register_of_not_contains demo h]
    show List.lookup id' ((id, demo) :: r.entries) = _
    by_cases hid : id' = id
    · rw [hid, hnone, List.lookup_cons_self]
      simp
    · rw [lookup_cons_of_ne hid, if_neg hid, Option.or_none]
      rfl

/-- What the maps hold after calls is what was accepted in their course. -/
theorem find?_after (calls : List (Call δ)) (id : List UInt8) (demo : δ) :
    (after title calls).find? id = some demo ↔ Accepted title calls id demo := by
  induction calls using List.reverseRecOn with
  | nil =>
      constructor
      · intro h
        cases h
      · rintro ⟨before, later, heq, -⟩
        simp at heq
  | append_singleton calls c ih =>
      rw [after_concat, accepted_concat, ← ih]
      cases c with
      | register id' demo' =>
          show ((after title calls).register title id' demo').2.find? id = some demo ↔ _
          rw [find?_register, register_eq_ok_iff, Option.or_eq_some_iff]
          -- The offer counts for its own name only, and only if that was free.
          constructor
          · rintro (h | ⟨hnone, h⟩)
            · exact Or.inl h
            · by_cases hid : id = id'
              · rw [if_pos hid] at h
                obtain rfl := hid
                obtain rfl := Option.some.inj h
                exact Or.inr ⟨rfl, by simp [contains, hnone]⟩
              · rw [if_neg hid] at h
                cases h
          · rintro (h | ⟨heq, hfree⟩)
            · exact Or.inl h
            · cases heq
              exact Or.inr ⟨by simpa [contains] using hfree, if_pos rfl⟩
      | list => simp [perform]
      | create => simp [perform]
      | contains => simp [perform]

/-! ## The two maps stay in step -/

/-- Every name is there once, and its title is that of its demo. -/
structure InStep (title : δ → String) (r : Registry δ) : Prop where
  lookup_titles : ∀ id, r.titles.lookup id = (r.find? id).map title
  nodup : r.names.Nodup

theorem mem_names {id : List UInt8} : id ∈ r.names ↔ r.contains id = true := by
  unfold names contains find?
  induction r.entries with
  | nil => simp
  | cons e es ih =>
      obtain ⟨name, demo⟩ := e
      by_cases hid : id = name
      · subst hid
        simp
      · rw [lookup_cons_of_ne hid, List.map_cons, List.mem_cons, ih]
        simp [hid]

theorem inStep_empty (title : δ → String) : InStep title empty :=
  ⟨fun _ => rfl, List.nodup_nil⟩

theorem InStep.register (h : InStep title r) (id : List UInt8) (demo : δ) :
    InStep title (r.register title id demo).2 := by
  by_cases hid : r.contains id = true
  · rw [register_of_contains demo hid]
    exact h
  · rw [register_of_not_contains demo hid]
    refine ⟨fun id' => ?_, List.nodup_cons.mpr ⟨fun hmem => hid (mem_names.mp hmem), h.nodup⟩⟩
    show List.lookup id' ((id, title demo) :: r.titles)
      = (List.lookup id' ((id, demo) :: r.entries)).map title
    rw [List.lookup_cons, List.lookup_cons, h.lookup_titles]
    cases id' == id <;> rfl

theorem InStep.perform (h : InStep title r) (c : Call δ) : InStep title (r.perform title c).2 := by
  cases c with
  | register id demo => exact h.register id demo
  | list => exact h
  | create => exact h
  | contains => exact h

theorem inStep_after (title : δ → String) (calls : List (Call δ)) :
    InStep title (after title calls) := by
  induction calls using List.reverseRecOn with
  | nil => exact inStep_empty title
  | append_singleton calls c ih =>
      rw [after_concat]
      exact ih.perform c

/-! ## The listing -/

theorem list_perm (r : Registry δ) : r.list.Perm (r.names.map r.line) :=
  List.mergeSort_perm _ _

theorem pairwise_list (r : Registry δ) : r.list.Pairwise fun a b => a.id ≤ b.id := by
  have hsorted : r.list.Pairwise fun a b => nameLE a.id b.id = true := by
    apply List.pairwise_mergeSort
    · intro a b c
      exact nameLE_trans
    · intro a b
      exact nameLE_total a.id b.id
  exact hsorted.imp nameLE_iff.mp

theorem mem_list {l : Listing} : l ∈ r.list ↔ r.contains l.id = true ∧ l = r.line l.id := by
  rw [(list_perm r).mem_iff, List.mem_map]
  constructor
  · rintro ⟨id, hid, rfl⟩
    exact ⟨mem_names.mp hid, rfl⟩
  · rintro ⟨hid, hline⟩
    exact ⟨l.id, mem_names.mpr hid, hline.symm⟩

theorem line_eq_iff (h : InStep title r) {l : Listing} {demo : δ} (hd : r.find? l.id = some demo) :
    l = r.line l.id ↔ l.title = title demo := by
  have hline : r.line l.id = ⟨l.id, title demo⟩ := by
    rw [line, h.lookup_titles, hd]
    rfl
  rw [hline]
  constructor
  · intro heq
    rw [heq]
  · intro htitle
    rw [← htitle]

/-- The listing has a line for every demo, with its title, and no other line. -/
theorem InStep.mem_list_iff (h : InStep title r) {l : Listing} :
    l ∈ r.list ↔ ∃ demo, r.find? l.id = some demo ∧ l.title = title demo := by
  rw [mem_list, contains_iff]
  constructor
  · rintro ⟨⟨demo, hd⟩, hline⟩
    exact ⟨demo, hd, (line_eq_iff h hd).mp hline⟩
  · rintro ⟨demo, hd, htitle⟩
    exact ⟨⟨demo, hd⟩, (line_eq_iff h hd).mpr htitle⟩

theorem map_id_list_perm (r : Registry δ) : (r.list.map Listing.id).Perm r.names := by
  have hnames : (r.names.map r.line).map Listing.id = r.names := by
    rw [List.map_map]
    exact List.map_id r.names
  rw [← hnames]
  exact (list_perm r).map Listing.id

theorem InStep.nodup_list (h : InStep title r) : (r.list.map Listing.id).Nodup :=
  (map_id_list_perm r).nodup_iff.mpr h.nodup

/-- No two lines of the listing have the same name, so the sorted listing is strictly sorted. -/
theorem InStep.pairwise_lt (h : InStep title r) :
    r.list.Pairwise fun a b => a.id < b.id := by
  have hne : r.list.Pairwise fun a b => a.id ≠ b.id := List.pairwise_map.mp h.nodup_list
  refine ((pairwise_list r).and hne).imp ?_
  rintro a b ⟨hle, hne⟩
  exact Std.lt_of_le_of_ne hle hne

theorem InStep.count_list (h : InStep title r) (id : List UInt8) :
    (r.list.map Listing.id).count id = if r.contains id = true then 1 else 0 := by
  have hmem : id ∈ r.list.map Listing.id ↔ r.contains id = true := by
    rw [(map_id_list_perm r).mem_iff, mem_names]
  by_cases hid : r.contains id = true
  · rw [if_pos hid]
    exact List.count_eq_one_of_mem h.nodup_list (hmem.mpr hid)
  · rw [if_neg hid]
    exact List.count_eq_zero_of_not_mem fun hin => hid (hmem.mp hin)

/-- **There is one sorted listing.** In whatever order the names are visited and however their lines
are sorted, the listing comes out. -/
theorem eq_list {visited : List (List UInt8)} {lines : List Listing}
    (hvisited : visited.Perm r.names) (hlines : lines.Perm (visited.map r.line))
    (hsorted : lines.Pairwise fun a b => a.id ≤ b.id) : lines = r.list := by
  have hperm : lines.Perm (r.names.map r.line) := hlines.trans (hvisited.map r.line)
  refine List.Perm.eq_of_pairwise ?_ hsorted (pairwise_list r) (hperm.trans (list_perm r).symm)
  intro a b ha hb hab hba
  obtain ⟨-, hb⟩ := mem_list.mp hb
  obtain ⟨id, -, rfl⟩ := List.mem_map.mp (hperm.mem_iff.mp ha)
  -- Both are the line of their name, and the name is the same.
  have hid : id = b.id := List.le_antisymm hab hba
  rw [hb, hid]

/-- Two registries with the same demos have the same listing. -/
theorem InStep.list_congr {r' : Registry δ} (h : InStep title r) (h' : InStep title r')
    (hfind : ∀ id, r.find? id = r'.find? id) : r.list = r'.list := by
  have hnames : r.names.Perm r'.names := by
    rw [List.perm_ext_iff_of_nodup h.nodup h'.nodup]
    intro id
    rw [mem_names, mem_names, contains, contains, hfind]
  have hline : r.line = r'.line := by
    funext id
    rw [line, line, h.lookup_titles, h'.lookup_titles, hfind]
  refine eq_list hnames ?_ (pairwise_list r)
  rw [← hline]
  exact list_perm r

/-! ## Orders of registration -/

/-- The calls that register the given demos in their order. -/
def offers (demos : List (List UInt8 × δ)) : List (Call δ) := demos.map fun d => .register d.1 d.2

theorem find?_after_offers (calls : List (Call δ)) (demos : List (List UInt8 × δ))
    (id : List UInt8) :
    (after title (calls ++ offers demos)).find? id
      = ((after title calls).find? id).or (demos.lookup id) := by
  induction demos generalizing calls with
  | nil =>
      rw [offers, List.map_nil, List.append_nil, List.lookup_nil, Option.or_none]
  | cons d ds ih =>
      have hcalls : calls ++ offers (d :: ds) = (calls ++ [.register d.1 d.2]) ++ offers ds := by
        rw [List.append_assoc]
        rfl
      rw [hcalls, ih, after_concat]
      show (((after title calls).register title d.1 d.2).2.find? id).or _ = _
      rw [find?_register, Option.or_assoc]
      by_cases hid : id = d.1
      · have hself : List.lookup id (d :: ds) = some d.2 := by rw [hid, List.lookup_cons_self]
        rw [if_pos hid, hself]
        rfl
      · rw [if_neg hid, lookup_cons_of_ne hid]
        rfl

theorem lookup_eq_some_iff {demos : List (List UInt8 × δ)} (h : (demos.map Prod.fst).Nodup)
    {id : List UInt8} {demo : δ} : demos.lookup id = some demo ↔ (id, demo) ∈ demos := by
  induction demos with
  | nil => simp
  | cons d ds ih =>
      obtain ⟨name, first⟩ := d
      rw [List.map_cons, List.nodup_cons] at h
      by_cases hid : id = name
      · subst hid
        have hnot : (id, demo) ∉ ds := fun hin => h.1 (List.mem_map.mpr ⟨(id, demo), hin, rfl⟩)
        rw [List.lookup_cons_self]
        simp [hnot, eq_comm]
      · rw [lookup_cons_of_ne hid, List.mem_cons]
        simp [hid, ih h.2]

theorem lookup_perm {demos demos' : List (List UInt8 × δ)} (hperm : demos.Perm demos')
    (h : (demos.map Prod.fst).Nodup) (id : List UInt8) : demos.lookup id = demos'.lookup id := by
  have h' : (demos'.map Prod.fst).Nodup := (hperm.map Prod.fst).nodup_iff.mp h
  apply Option.ext
  intro demo
  rw [lookup_eq_some_iff h, lookup_eq_some_iff h', hperm.mem_iff]

/-- Demos of different names may be registered in any order. -/
theorem list_after_offers_perm (calls : List (Call δ)) {demos demos' : List (List UInt8 × δ)}
    (hperm : demos.Perm demos') (h : (demos.map Prod.fst).Nodup) :
    (after title (calls ++ offers demos)).list = (after title (calls ++ offers demos')).list := by
  refine (inStep_after title _).list_congr (inStep_after title _) fun id => ?_
  rw [find?_after_offers, find?_after_offers, lookup_perm hperm h]

/-! ## Any history -/

theorem create_eq_ok_iff {id : List UInt8} {demo : δ} :
    r.create id = .ok demo ↔ r.find? id = some demo := by
  unfold create
  cases r.find? id <;> simp

/-- A refused registration is as if it had not been tried. -/
theorem after_refused {calls : List (Call δ)} {id : List UInt8}
    (h : (after title calls).contains id = true) (demo : δ) :
    after title (calls ++ [.register id demo]) = after title calls := by
  rw [after_concat]
  show ((after title calls).register title id demo).2 = _
  rw [register_of_contains demo h]

/-- **A registry holds what its history registered.** After any calls the listing is strictly
increasing in the bytes of the names, and its lines are those of the accepted demos, each with the
title of its demo, one line for each name. A name is found if and only if its demo can be created,
if and only if it is listed, and the demo that is created is the one accepted under the name.

Registering is refused if and only if the name is taken, and a refused registration changes nothing
that any later calls give back. Demos of different names give the same listing in whatever order
they are registered, and so does every order in which the names are visited and every way to sort
their lines. -/
theorem registry_follows_history (title : δ → String) (calls : List (Call δ)) :
    ((after title calls).list.Pairwise fun a b => a.id < b.id)
    ∧ (∀ l, l ∈ (after title calls).list
        ↔ ∃ demo, Accepted title calls l.id demo ∧ l.title = title demo)
    ∧ (∀ id demo, Accepted title calls id demo →
        ((after title calls).list.map Listing.id).count id = 1)
    ∧ (∀ id, ((after title calls).contains id = true
          ↔ ∃ demo, (after title calls).create id = .ok demo)
        ∧ ((after title calls).contains id = true ↔ ∃ l ∈ (after title calls).list, l.id = id)
        ∧ ∀ demo, (after title calls).create id = .ok demo ↔ Accepted title calls id demo)
    ∧ (∀ id demo, (∃ e, ((after title calls).register title id demo).1 = .error e)
        ↔ (after title calls).contains id = true)
    ∧ (∀ id demo, (after title calls).contains id = true →
        ((after title calls).register title id demo).1 = .error (.alreadyRegistered id)
        ∧ ∀ later, replies title (after title (calls ++ [.register id demo])) later
          = replies title (after title calls) later)
    ∧ (∀ demos demos' : List (List UInt8 × δ), demos.Perm demos' → (demos.map Prod.fst).Nodup →
        (after title (calls ++ offers demos)).list = (after title (calls ++ offers demos')).list)
    ∧ ∀ (visited : List (List UInt8)) (lines : List Listing),
        visited.Perm (after title calls).names →
        lines.Perm (visited.map (after title calls).line) →
        (lines.Pairwise fun a b => a.id ≤ b.id) → lines = (after title calls).list := by
  have hstep := inStep_after title calls
  refine ⟨hstep.pairwise_lt, fun l => ?_, fun id demo hacc => ?_,
    fun id => ⟨?_, ?_, fun demo => ?_⟩, fun id demo => ?_, fun id demo hid => ⟨?_, fun later => ?_⟩,
    fun demos demos' => list_after_offers_perm calls, fun visited lines => eq_list⟩
  · rw [hstep.mem_list_iff]
    simp only [find?_after]
  · have hid : (after title calls).contains id = true :=
      contains_iff.mpr ⟨demo, (find?_after calls id demo).mpr hacc⟩
    rw [hstep.count_list, if_pos hid]
  · rw [contains_iff]
    simp only [create_eq_ok_iff]
  · constructor
    · intro hid
      exact ⟨(after title calls).line id, mem_list.mpr ⟨hid, rfl⟩, rfl⟩
    · rintro ⟨l, hl, rfl⟩
      exact (mem_list.mp hl).1
  · rw [create_eq_ok_iff, find?_after]
  · simp [register_eq_error_iff]
  · exact register_eq_error_iff.mpr ⟨hid, rfl⟩
  · rw [after_refused hid]

/-- A name that is no text. -/
def stray : List UInt8 := [0xFF]

/-- Four names, one of them tried a second time, with calls that change nothing in between. -/
def shelf : List (Call Nat) :=
  [.register (Utf8.bytes "pond") 3, .list, .register stray 6, .register (Utf8.bytes "arch") 1,
    .contains stray, .register (Utf8.bytes "pond") 4, .register (Utf8.bytes "Zoo") 2,
    .create (Utf8.bytes "arch")]

/-- The listing of `shelf`. -/
def shelfLines : List Listing :=
  [⟨Utf8.bytes "Zoo", "2"⟩, ⟨Utf8.bytes "arch", "1"⟩, ⟨Utf8.bytes "pond", "3"⟩, ⟨stray, "6"⟩]

/-- The listing of `shelf`: an upper-case letter comes before all lower-case ones, what is no text
comes last, and the name that was tried a second time keeps its first demo. A third try changes
nothing that the listing after it shows, and further names may come in any order. -/
theorem registry_follows_history_shelf :
    (after Nat.repr shelf).list = shelfLines
    ∧ ((after Nat.repr shelf).list.map Listing.id).count (Utf8.bytes "pond") = 1
    ∧ (after Nat.repr shelf).contains (Utf8.bytes "pond") = true
    ∧ ((after Nat.repr shelf).register Nat.repr (Utf8.bytes "pond") 5).1
      = .error (.alreadyRegistered (Utf8.bytes "pond"))
    ∧ replies Nat.repr (after Nat.repr (shelf ++ [.register (Utf8.bytes "pond") 5]))
        [.list, .create (Utf8.bytes "pond")] = [.listed shelfLines, .created (.ok 3)]
    ∧ (after Nat.repr (shelf ++ offers [([0xFE], 7), ([], 8)])).list
      = (after Nat.repr (shelf ++ offers [([], 8), ([0xFE], 7)])).list := by
  obtain ⟨-, -, hcount, hfound, -, hrefused, horder, hvisited⟩ :=
    registry_follows_history Nat.repr shelf
  have hid : (after Nat.repr shelf).contains (Utf8.bytes "pond") = true := by decide +kernel
  have hcreate : (after Nat.repr shelf).create (Utf8.bytes "pond") = .ok 3 := by decide +kernel
  have hlist : (after Nat.repr shelf).list = shelfLines :=
    (hvisited [Utf8.bytes "arch", Utf8.bytes "pond", Utf8.bytes "Zoo", stray] shelfLines
      (by decide +kernel) (by decide +kernel) (by decide +kernel)).symm
  refine ⟨hlist, hcount _ 3 (((hfound _).2.2 3).mp hcreate), hid, (hrefused _ 5 hid).1, ?_,
    horder _ _ (List.Perm.swap _ _ []) (by decide +kernel)⟩
  rw [(hrefused _ 5 hid).2]
  show [Reply.listed (after Nat.repr shelf).list,
    .created ((after Nat.repr shelf).create (Utf8.bytes "pond"))] = _
  rw [hlist, hcreate]

end Registry

end Ricochet
