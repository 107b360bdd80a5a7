import Ricochet.Proofs.ExitDecision

set_option autoImplicit false

/-! # Where the cursor of a menu is

The cursor of a menu is moved by keys and nothing else, and the only thing that keeps it on the list
is what each message does to it. So it takes the whole history of a menu to see that a choice finds
an item: in every menu that messages can lead to, the cursor is on the list, or at zero if the list
is empty (`Menu.OnList`).

The keys of the menu are told apart by their labels, which no two bindings share
(`Binding.not_matches_of_disjoint`), so it does not matter in which order they are tested.

* `Menu.cursor_update`: one message, for a cursor that is on the list.
* `Menu.cursor_after`: the cursor is the walk that stops at each end.
* `Menu.cursor_stays_on_list`: cursor, list and choice after any messages.
-/

namespace Ricochet.Terminal

/-- A key of one binding is none of another that shares no label with it. -/
theorem Binding.not_matches_of_disjoint {b c : Binding} (h : ∀ label ∈ b.keys, label ∉ c.keys)
    {k : Key} (hk : b.matches k = true) : c.matches k = false := by
  have hlabel : k.label ∈ b.keys := List.contains_iff_mem.mp hk
  rw [Binding.matches, Bool.eq_false_iff, ne_eq, List.contains_iff_mem]
  exact h _ hlabel

namespace Menu

/-! ## The walk -/

/-- How far a message moves the cursor: one line back for the keys that go up, one line on for those
that go down. -/
def shift : Message → Int
  | .key k => if MenuKeys.up.matches k then -1 else if MenuKeys.down.matches k then 1 else 0
  | _ => 0

/-- A line of a list of `count`, moved by a distance but not beyond the first line or the last. -/
def moved (count : Nat) (line distance : Int) : Int := max 0 (min (line + distance) (count - 1))

/-- The line that messages lead to from the first, each moving by its distance. -/
def walk (count : Nat) (messages : List Message) : Int :=
  messages.foldl (fun line msg => moved count line (shift msg)) 0

theorem walk_concat (count : Nat) (messages : List Message) (msg : Message) :
    walk count (messages ++ [msg]) = moved count (walk count messages) (shift msg) := by
  rw [walk, List.foldl_append]
  rfl

/-! ## One message -/

/-- Whether the cursor is on one of the lines, or at zero if there are none. -/
def OnList (m : Menu) : Prop := 0 ≤ m.cursor ∧ m.cursor ≤ max 0 ((m.items.length : Int) - 1)

/-- A cursor on the list that is not moved stays, also by the rule for moving. -/
theorem OnList.moved_zero {m : Menu} (h : m.OnList) :
    moved m.items.length m.cursor 0 = m.cursor := by
  unfold OnList at h
  unfold moved
  omega

theorem items_update (m : Menu) (msg : Message) : (m.update msg).1.items = m.items := by
  obtain ⟨-, -, h⟩ | ⟨-, id, -, h⟩ | ⟨-, -, cursor, helpWidth, h⟩ := m.update_cases msg <;> rw [h]

theorem OnList.cursor_moveUp {m : Menu} (h : m.OnList) :
    m.moveUp.cursor = moved m.items.length m.cursor (-1) := by
  unfold OnList at h
  unfold moveUp moved
  split
  · show m.cursor - 1 = _
    omega
  · -- The cursor is on the first line, and the line before would be minus one.
    omega

theorem OnList.cursor_moveDown {m : Menu} (h : m.OnList) :
    m.moveDown.cursor = moved m.items.length m.cursor 1 := by
  unfold OnList at h
  unfold moveDown moved
  split
  · show m.cursor + 1 = _
    omega
  · -- The cursor is on the last line, or at zero in an empty list, where that would be minus one.
    omega

theorem cursor_choose (m : Menu) : m.choose.1.cursor = m.cursor := by
  unfold choose
  split <;> rfl

/-- A key that goes up does nothing else. -/
theorem pressed_of_up (m : Menu) {k : Key} (h : MenuKeys.up.matches k = true) :
    m.pressed k = (m.moveUp, .nothing) := by
  have hquit : MenuKeys.quit.matches k = false := Binding.not_matches_of_disjoint (by decide) h
  simp [pressed, hquit, h]

/-- A key that goes down does nothing else. -/
theorem pressed_of_down (m : Menu) {k : Key} (h : MenuKeys.down.matches k = true) :
    m.pressed k = (m.moveDown, .nothing) := by
  have hquit : MenuKeys.quit.matches k = false := Binding.not_matches_of_disjoint (by decide) h
  have hup : MenuKeys.up.matches k = false := Binding.not_matches_of_disjoint (by decide) h
  simp [pressed, hquit, hup, h]

theorem cursor_pressed_of_other (m : Menu) {k : Key} (hup : MenuKeys.up.matches k = false)
    (hdown : MenuKeys.down.matches k = false) : (m.pressed k).1.cursor = m.cursor := by
  unfold pressed
  rw [hup, hdown, if_neg Bool.false_ne_true, if_neg Bool.false_ne_true]
  split
  · rfl
  · split
    · exact m.cursor_choose
    · rfl

/-- **One message moves the cursor by its distance**, and stops it at either end. -/
theorem cursor_update {m : Menu} (h : m.OnList) (msg : Message) :
    (m.update msg).1.cursor = moved m.items.length m.cursor (shift msg) := by
  cases msg with
  | key k =>
      show (m.pressed k).1.cursor = moved _ _
        (if MenuKeys.up.matches k then -1 else if MenuKeys.down.matches k then 1 else 0)
      by_cases hup : MenuKeys.up.matches k = true
      · rw [if_pos hup, m.pressed_of_up hup]
        exact h.cursor_moveUp
      · rw [if_neg hup]
        by_cases hdown : MenuKeys.down.matches k = true
        · rw [if_pos hdown, m.pressed_of_down hdown]
          exact h.cursor_moveDown
        · rw [if_neg hdown, h.moved_zero,
            m.cursor_pressed_of_other (Bool.eq_false_iff.mpr hup) (Bool.eq_false_iff.mpr hdown)]
  | _ => exact h.moved_zero.symm

/-- A message leaves the cursor on the list. -/
theorem OnList.update {m : Menu} (h : m.OnList) (msg : Message) : (m.update msg).1.OnList := by
  have hcursor := cursor_update h msg
  unfold moved at hcursor
  unfold OnList
  rw [items_update]
  omega

/-! ## Any messages -/

theorem after_concat (m : Menu) (messages : List Message) (msg : Message) :
    m.after (messages ++ [msg]) = ((m.after messages).update msg).1 := by
  rw [after, List.foldl_append]
  rfl

theorem items_after (m : Menu) (messages : List Message) : (m.after messages).items = m.items := by
  induction messages using List.reverseRecOn with
  | nil => rfl
  | append_singleton messages msg ih => rw [after_concat, items_update, ih]

theorem onList_after (items : List Listing) (messages : List Message) :
    ((Menu.new items).after messages).OnList := by
  induction messages using List.reverseRecOn with
  | nil => exact ⟨Int.le_refl 0, Int.le_max_left 0 _⟩
  | append_singleton messages msg ih =>
      rw [after_concat]
      exact ih.update msg

/-- **The cursor is the walk of the messages.** -/
theorem cursor_after (items : List Listing) (messages : List Message) :
    ((Menu.new items).after messages).cursor = walk items.length messages := by
  induction messages using List.reverseRecOn with
  | nil => rfl
  | append_singleton messages msg ih =>
      rw [after_concat, cursor_update (onList_after items messages), items_after, ih, walk_concat]
      rfl

/-- A key that chooses takes the item under the cursor, and there is one unless the list is
empty. -/
theorem OnList.update_select {m : Menu} (h : m.OnList) {k : Key}
    (hk : MenuKeys.select.matches k = true) :
    (m.items = [] → m.update (.key k) = (m, .nothing))
    ∧ (m.items ≠ [] → ∃ item, m.items[m.cursor.toNat]? = some item
      ∧ m.update (.key k) = ({ m with selected := item.id }, .quit)) := by
  obtain ⟨hquit, hup, hdown⟩ := not_matches_of_select hk
  have hupdate : m.update (.key k) = m.choose := by
    simp [Menu.update, pressed, hquit, hup, hdown, hk]
  have hcurrent : m.current? = m.items[m.cursor.toNat]? := if_pos h.1
  rw [hupdate, choose, hcurrent]
  constructor
  · intro hempty
    rw [hempty]
    rfl
  · intro hne
    have hpos := List.length_pos_iff.mpr hne
    have hlt : m.cursor.toNat < m.items.length := by
      unfold OnList at h
      omega
    rw [List.getElem?_eq_getElem hlt]
    exact ⟨_, rfl, rfl⟩

/-- **The cursor of a menu stays on its list.** Take the menu of any items, after any messages. Its
list is as it was. The cursor is at zero if the list is empty and on one of its lines if not, and it
is where the walk of the messages leads that goes one line on for each key that goes down and one
line back for each that goes up, and stops at either end. A key that chooses takes the item under
the cursor, so there always is one in a list that is not empty, and does nothing if the list is
empty. No other message changes what is chosen. -/
theorem cursor_stays_on_list (items : List Listing) (messages : List Message) {m : Menu}
    (hm : m = (Menu.new items).after messages) :
    m.items = items
    ∧ (items = [] → m.cursor = 0)
    ∧ (items ≠ [] → 0 ≤ m.cursor ∧ m.cursor < items.length)
    ∧ m.cursor = walk items.length messages
    ∧ (∀ k, MenuKeys.select.matches k = true →
        (items = [] → m.update (.key k) = (m, .nothing))
        ∧ (items ≠ [] → ∃ item, items[m.cursor.toNat]? = some item
          ∧ m.update (.key k) = ({ m with selected := item.id }, .quit)))
    ∧ ∀ msg, (∀ k, msg = .key k → MenuKeys.select.matches k = false) →
        (m.update msg).1.selected = m.selected := by
  have hitems : m.items = items := by
    rw [hm, items_after]
    rfl
  have hlist : m.OnList := hm ▸ onList_after items messages
  have hcursor : 0 ≤ m.cursor ∧ m.cursor ≤ max 0 ((items.length : Int) - 1) := hitems ▸ hlist
  refine ⟨hitems, ?_, ?_, hm ▸ cursor_after items messages, ?_, ?_⟩
  · rintro rfl
    exact Int.le_antisymm hcursor.2 hcursor.1
  · intro hne
    have hpos := List.length_pos_iff.mpr hne
    omega
  · intro k hk
    exact hitems ▸ hlist.update_select hk
  · intro msg hmsg
    have hchoice : m.choice? msg = none := by
      cases msg with
      | key k => rw [choice?, if_neg fun hboth => Bool.eq_false_iff.mp (hmsg k rfl) hboth.1]
      | _ => rfl
    rw [selected_update, hchoice]
    rfl

/-- Three demos to choose from. -/
def threeListings : List Listing :=
  [⟨Utf8.bytes "ball", "Bouncing Ball"⟩, ⟨Utf8.bytes "field", "Ball Field"⟩,
    ⟨Utf8.bytes "stub", "Stub"⟩]

/-- Up from the first line, down four times where only two lines follow, and up again. -/
def wanderings : List Message :=
  [.key (.typed "k" false), .key (.typed "j" false), .key (.named "down" false),
    .key (.typed "s" false), .key (.named "down" false), .tick 0, .key (.named "up" false)]

/-- The cursor is on the second line then, and the demo of this line is chosen. In an empty menu the
same keys leave it at zero, and the key that chooses does nothing. -/
theorem cursor_stays_on_list_wanderings :
    (((Menu.new threeListings).after wanderings).cursor = 1
      ∧ (((Menu.new threeListings).after wanderings).update
        (.key (.named "enter" false))).1.selected = Utf8.bytes "field")
    ∧ ((Menu.new []).after wanderings).cursor = 0
    ∧ ((Menu.new []).after wanderings).update (.key (.typed " " false))
      = ((Menu.new []).after wanderings, .nothing) := by
  obtain ⟨-, -, -, hwalk, hselect, -⟩ := cursor_stays_on_list threeListings wanderings rfl
  obtain ⟨-, hzero, -, -, hnothing, -⟩ := cursor_stays_on_list [] wanderings rfl
  have hcursor : ((Menu.new threeListings).after wanderings).cursor = 1 :=
    hwalk.trans (by decide +kernel)
  obtain ⟨item, hitem, hchosen⟩ := (hselect (.named "enter" false) (by decide)).2 (by decide)
  refine ⟨⟨hcursor, ?_⟩, hzero rfl, (hnothing (.typed " " false) (by decide)).1 rfl⟩
  rw [hcursor] at hitem
  cases hitem
  rw [hchosen]

end Menu

end Ricochet.Terminal
