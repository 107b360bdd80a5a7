import Mathlib.Data.List.Induction
import Ricochet.Terminal.Menu
import Ricochet.Proofs.SessionRun

set_option autoImplicit false

/-! # How sessions and menus are left

A key that ends a session or a menu asks for the end, but messages that are under way still arrive,
and they are handled as before. So the last decision counts, not the first: a later exit key changes
how a session was left, and a choice made after quitting still stands. Nor does leaving stop the
demo, which is called with every tick that follows.

* `Session.leaving_after`: how a run of a session was left; `Session.exit_stands_iff`: when it was
  left as decided first.
* `Menu.update_cases`: the three things that a message can do to a menu.
* `Menu.quitting_after`, `Menu.selected_after`, `Menu.decision_stands_iff`: the same for menus.
* `last_exit_decision_wins`: both, and `first_exit_decision_not_final` for what follows from it.
-/

namespace Ricochet.Terminal

variable {ω ε σ : Type}

/-! ## Sessions -/

namespace Session

/-- An exit key decides how the session is left, whatever was decided before. -/
theorem leaving_update (m : Session ε σ) (d : Demo ω ε σ) (world : ω) (msg : Message) :
    (m.update d world msg).1.quitting = (msg.exit?.isSome || m.quitting)
      ∧ (m.update d world msg).1.exit = msg.exit?.getD m.exit := by
  cases msg with
  | tick now =>
      rw [update_tick]
      exact ⟨rfl, rfl⟩
  | key k =>
      rw [update_of_not_tick m d world rfl]
      exact ⟨rfl, rfl⟩
  | _ => exact ⟨rfl, rfl⟩

/-- The end is asked for by the exit keys, by each of them, and by nothing else. -/
theorem request_update (m : Session ε σ) (d : Demo ω ε σ) (world : ω) (msg : Message) :
    (m.update d world msg).2.1 = .quit ↔ msg.exit?.isSome = true := by
  cases msg with
  | tick now =>
      simp only [update, Message.exit?]
      split <;> simp
  | key k =>
      rw [update_of_not_tick m d world rfl]
      split <;> simp_all
  | resize width height => simp [update, Message.exit?]
  | other => simp [update, Message.exit?]

/-- How messages leave a session, in their order. -/
def exits (arrivals : List (ω × Message)) : List ExitReason :=
  arrivals.filterMap fun a => a.2.exit?

theorem exits_append (arrivals later : List (ω × Message)) :
    exits (arrivals ++ later) = exits arrivals ++ exits later := List.filterMap_append

theorem exits_singleton (a : ω × Message) : exits [a] = a.2.exit?.toList := by
  unfold exits
  cases h : a.2.exit? <;> simp [h]

/-- **How a run leaves a session.** It is being left once any exit key was pressed, and the last of
them says how. -/
theorem leaving_after (m : Session ε σ) (d : Demo ω ε σ) (arrivals : List (ω × Message)) :
    (m.after d arrivals).quitting = (!(exits arrivals).isEmpty || m.quitting)
      ∧ (m.after d arrivals).exit = (exits arrivals).getLast?.getD m.exit := by
  induction arrivals using List.reverseRecOn with
  | nil => exact ⟨rfl, rfl⟩
  | append_singleton arrivals a ih =>
      obtain ⟨hquitting, hexit⟩ := leaving_update (m.after d arrivals) d a.1 a.2
      rw [after_concat, hquitting, hexit, ih.1, ih.2, exits_append, exits_singleton]
      cases a.2.exit? <;> simp

/-- A decision stands throughout a run if and only if no exit key of the run says otherwise. -/
theorem exit_stands_iff (m : Session ε σ) (d : Demo ω ε σ) (arrivals : List (ω × Message)) :
    (∀ n, (m.after d (arrivals.take n)).exit = m.exit)
      ↔ ∀ reason ∈ exits arrivals, reason = m.exit := by
  constructor
  · intro hstands reason hreason
    obtain ⟨a, ha, hexit⟩ := List.mem_filterMap.mp hreason
    obtain ⟨before, later, rfl⟩ := List.append_of_mem ha
    have hat := hstands (before.length + 1)
    rw [List.take_length_add_append, List.take_succ_cons, List.take_zero,
      (m.leaving_after d _).2, exits_append, exits_singleton, hexit] at hat
    simpa using hat
  · intro hall n
    rw [(m.leaving_after d _).2]
    cases hlast : (exits (arrivals.take n)).getLast? with
    | none => rfl
    | some reason =>
        have hmem : reason ∈ exits (arrivals.take n ++ arrivals.drop n) := by
          rw [exits_append]
          exact List.mem_append_left _ (List.mem_of_getLast? hlast)
        rw [List.take_append_drop] at hmem
        exact hall reason hmem

/-- An exit key asks the next frame for nothing. -/
theorem action?_of_exit? {msg : Message} (h : msg.exit?.isSome = true) : msg.action? = none := by
  cases msg with
  | key k => cases hk : DemoKeys.action k <;> simp_all [Message.exit?, Message.action?]
  | _ => rfl

/-- Exit keys bear on no call at all: the calls of a run are those of the run without them. -/
theorem callsFrom_without_exits (options : RunOptions) (before : List Message)
    (arrivals : List (ω × Message)) :
    callsFrom options before (arrivals.filter fun a => a.2.exit?.isNone)
      = callsFrom options before arrivals := by
  induction arrivals generalizing before with
  | nil => rfl
  | cons a arrivals ih =>
      obtain ⟨world, msg⟩ := a
      cases hexit : msg.exit? with
      | none =>
          rw [List.filter_cons_of_pos (by simp [hexit]), callsFrom, callsFrom, ih]
      | some reason =>
          have htick : msg.isTick = false := by
            cases msg with
            | tick now => cases hexit
            | _ => rfl
          have hsize : msg.size? = none := by
            cases msg with
            | resize width height => cases hexit
            | _ => rfl
          have hskip : callsFrom options (before ++ [msg]) arrivals
              = callsFrom options before arrivals := by
            refine callsFrom_congr options ?_ ?_ arrivals
            · rw [asked_concat, htick, action?_of_exit? (by rw [hexit]; rfl)]
              exact List.append_nil _
            · rw [lastSize_concat, hsize]
              rfl
          rw [List.filter_cons_of_neg (by simp [hexit]), ih, callsFrom,
            call?_of_not_tick options _ world htick, hskip]
          rfl

end Session

/-! ## Menus -/

namespace Menu

/-- Whether a message leaves the menu without a choice. -/
def quits : Message → Bool
  | .key k => MenuKeys.quit.matches k
  | _ => false

/-- The name that a message chooses, if it chooses one: that of the item at the cursor. -/
def choice? (m : Menu) : Message → Option (List UInt8)
  | .key k =>
      if MenuKeys.select.matches k = true ∧ 0 ≤ m.cursor then (m.items[m.cursor.toNat]?).map (·.id)
      else none
  | _ => none

/-- The menu after messages. -/
def after (m : Menu) (messages : List Message) : Menu :=
  messages.foldl (fun m msg => (m.update msg).1) m

/-- The names that messages choose, in their order. -/
def choices (m : Menu) : List Message → List (List UInt8)
  | [] => []
  | msg :: rest => (m.choice? msg).toList ++ choices (m.update msg).1 rest

/-- The keys that choose mean nothing else. -/
theorem not_matches_of_select {k : Key} (h : MenuKeys.select.matches k = true) :
    MenuKeys.quit.matches k = false ∧ MenuKeys.up.matches k = false
      ∧ MenuKeys.down.matches k = false := by
  have hlabel : k.label = "enter" ∨ k.label = " " := by
    simpa [Binding.matches, MenuKeys.select] using h
  rcases hlabel with hlabel | hlabel <;>
    simp [Binding.matches, MenuKeys.quit, MenuKeys.up, MenuKeys.down, hlabel]

theorem choice?_of_select (m : Menu) {k : Key} (h : MenuKeys.select.matches k = true) :
    m.choice? (.key k) = m.current?.map (·.id) := by
  by_cases hcursor : 0 ≤ m.cursor
  · simp [choice?, current?, h, hcursor]
  · simp [choice?, current?, hcursor]

/-- **One message.** It leaves the menu, or chooses the item under the cursor, or asks for nothing
and at most moves the cursor or sets the width of the help. -/
theorem update_cases (m : Menu) (msg : Message) :
    (quits msg = true ∧ m.choice? msg = none ∧ m.update msg = ({ m with quitting := true }, .quit))
    ∨ (quits msg = false ∧ ∃ id, m.choice? msg = some id
      ∧ m.update msg = ({ m with selected := id }, .quit))
    ∨ (quits msg = false ∧ m.choice? msg = none ∧ ∃ cursor helpWidth,
      m.update msg = ({ m with cursor := cursor, helpWidth := helpWidth }, .nothing)) := by
  cases msg with
  | resize width height => exact .inr (.inr ⟨rfl, rfl, m.cursor, width, rfl⟩)
  | tick now => exact .inr (.inr ⟨rfl, rfl, m.cursor, m.helpWidth, rfl⟩)
  | other => exact .inr (.inr ⟨rfl, rfl, m.cursor, m.helpWidth, rfl⟩)
  | key k =>
      cases hselect : MenuKeys.select.matches k with
      | true =>
          obtain ⟨hquit, hup, hdown⟩ := not_matches_of_select hselect
          cases hitem : m.current? with
          | some item =>
              refine .inr (.inl ⟨hquit, item.id, ?_, ?_⟩)
              · rw [m.choice?_of_select hselect, hitem]
                rfl
              · simp [update, pressed, choose, hquit, hup, hdown, hselect, hitem]
          | none =>
              refine .inr (.inr ⟨hquit, ?_, m.cursor, m.helpWidth, ?_⟩)
              · rw [m.choice?_of_select hselect, hitem]
                rfl
              · simp [update, pressed, choose, hquit, hup, hdown, hselect, hitem]
      | false =>
          have hchoice : m.choice? (.key k) = none := by simp [choice?, hselect]
          cases hquit : MenuKeys.quit.matches k with
          | true => exact .inl ⟨hquit, hchoice, by simp [update, pressed, hquit]⟩
          | false =>
              refine .inr (.inr ⟨hquit, hchoice, ?_⟩)
              cases hup : MenuKeys.up.matches k with
              | true =>
                  have hupward : m.update (.key k) = (m.moveUp, .nothing) := by
                    simp [update, pressed, hquit, hup]
                  refine ⟨m.moveUp.cursor, m.helpWidth, ?_⟩
                  rw [hupward]
                  unfold moveUp
                  split <;> rfl
              | false =>
                  cases hdown : MenuKeys.down.matches k with
                  | true =>
                      have hdownward : m.update (.key k) = (m.moveDown, .nothing) := by
                        simp [update, pressed, hquit, hup, hdown]
                      refine ⟨m.moveDown.cursor, m.helpWidth, ?_⟩
                      rw [hdownward]
                      unfold moveDown
                      split <;> rfl
                  | false =>
                      exact ⟨m.cursor, m.helpWidth,
                        by simp [update, pressed, hquit, hup, hdown, hselect]⟩

theorem quitting_update (m : Menu) (msg : Message) :
    (m.update msg).1.quitting = (quits msg || m.quitting) := by
  obtain ⟨hquit, -, h⟩ | ⟨hquit, id, -, h⟩ | ⟨hquit, -, cursor, helpWidth, h⟩ :=
    m.update_cases msg <;> rw [h, hquit] <;> rfl

theorem selected_update (m : Menu) (msg : Message) :
    (m.update msg).1.selected = (m.choice? msg).getD m.selected := by
  obtain ⟨-, hchoice, h⟩ | ⟨-, id, hchoice, h⟩ | ⟨-, hchoice, cursor, helpWidth, h⟩ :=
    m.update_cases msg <;> rw [h, hchoice] <;> rfl

/-- The end is asked for by the keys that quit and by every choice. -/
theorem request_update (m : Menu) (msg : Message) :
    (m.update msg).2 = .quit ↔ quits msg = true ∨ (m.choice? msg).isSome = true := by
  obtain ⟨hquit, hchoice, h⟩ | ⟨hquit, id, hchoice, h⟩ | ⟨hquit, hchoice, cursor, helpWidth, h⟩ :=
    m.update_cases msg <;> simp [h, hquit, hchoice]

/-- A menu is being left once any key that quits was pressed. -/
theorem quitting_after (m : Menu) (messages : List Message) :
    (m.after messages).quitting = (messages.any quits || m.quitting) := by
  induction messages generalizing m with
  | nil => rfl
  | cons msg messages ih =>
      have hafter : m.after (msg :: messages) = (m.update msg).1.after messages := rfl
      rw [hafter, ih, quitting_update, List.any_cons, ← Bool.or_assoc,
        Bool.or_comm (messages.any quits)]

/-- The last choice stands. -/
theorem selected_after (m : Menu) (messages : List Message) :
    (m.after messages).selected = (m.choices messages).getLast?.getD m.selected := by
  induction messages generalizing m with
  | nil => rfl
  | cons msg messages ih =>
      have hafter : m.after (msg :: messages) = (m.update msg).1.after messages := rfl
      rw [hafter, ih, selected_update, choices]
      cases m.choice? msg with
      | none => rfl
      | some id => simp [List.getLast?_cons]

theorem choices_append (m : Menu) (messages later : List Message) :
    m.choices (messages ++ later) = m.choices messages ++ (m.after messages).choices later := by
  induction messages generalizing m with
  | nil => rfl
  | cons msg messages ih =>
      have hafter : m.after (msg :: messages) = (m.update msg).1.after messages := rfl
      rw [List.cons_append, choices, choices, ih, hafter, List.append_assoc]

/-- Each choice of a run is made by one of its messages, and is selected right after it. -/
theorem exists_selected_of_mem_choices {m : Menu} {messages : List Message} {id : List UInt8}
    (h : id ∈ m.choices messages) : ∃ n, (m.after (messages.take n)).selected = id := by
  induction messages generalizing m with
  | nil => cases h
  | cons msg messages ih =>
      rcases List.mem_append.mp h with hfirst | hrest
      · refine ⟨1, ?_⟩
        have hchoice : m.choice? msg = some id := Option.mem_toList.mp hfirst
        have hone : m.after ((msg :: messages).take 1) = (m.update msg).1 := rfl
        rw [hone, selected_update, hchoice]
        rfl
      · obtain ⟨n, hn⟩ := ih hrest
        exact ⟨n + 1, hn⟩

/-- A decision stands throughout a run if and only if every choice of the run is the one made
already, and no key quits a menu that is not being left that way. -/
theorem decision_stands_iff (m : Menu) (messages : List Message) :
    (∀ n, (m.after (messages.take n)).selected = m.selected
        ∧ (m.after (messages.take n)).quitting = m.quitting)
      ↔ (∀ id ∈ m.choices messages, id = m.selected)
        ∧ (m.quitting = true ∨ ∀ msg ∈ messages, quits msg = false) := by
  constructor
  · intro hstands
    refine ⟨fun id hid => ?_, ?_⟩
    · obtain ⟨n, hn⟩ := exists_selected_of_mem_choices hid
      exact hn.symm.trans (hstands n).1
    · have hend := (hstands messages.length).2
      rw [List.take_length, quitting_after] at hend
      cases hquitting : m.quitting with
      | true => exact Or.inl rfl
      | false => simpa [hquitting] using hend
  · rintro ⟨hchoices, hquits⟩ n
    have hsplit := m.choices_append (messages.take n) (messages.drop n)
    rw [List.take_append_drop] at hsplit
    constructor
    · rw [selected_after]
      cases hlast : (m.choices (messages.take n)).getLast? with
      | none => rfl
      | some id =>
          apply hchoices id
          rw [hsplit]
          exact List.mem_append_left _ (List.mem_of_getLast? hlast)
    · rw [quitting_after]
      rcases hquits with hleft | hnone
      · rw [hleft, Bool.or_true]
      · have hany : (messages.take n).any quits = false := by
          rw [List.any_eq_false]
          intro msg hmsg
          rw [hnone msg (List.mem_of_mem_take hmsg)]
          exact Bool.false_ne_true
        rw [hany, Bool.false_or]

end Menu

/-! ## The last decision -/

/-- **The last exit decision wins.** A session, whether or not it is being left already, is so once
an exit key is pressed, and the last of these keys says how; so an earlier decision stands exactly
if no later key says otherwise. The demo is where it would be without any of them, so ticks that
follow one still reach it. A menu is being left once a key that quits is pressed, and the last
choice stands, whether it is made before or after; so an earlier decision stands exactly if later
choices are the same and no later key quits. In both, every such message asks for the end, and no
other does. -/
theorem last_exit_decision_wins :
    (∀ (d : Demo ω ε σ) (m : Session ε σ) (arrivals : List (ω × Message)),
      (m.after d arrivals).quitting = (!(Session.exits arrivals).isEmpty || m.quitting)
      ∧ (m.after d arrivals).exit = (Session.exits arrivals).getLast?.getD m.exit
      ∧ ((∀ n, (m.after d (arrivals.take n)).exit = m.exit)
        ↔ ∀ reason ∈ Session.exits arrivals, reason = m.exit)
      ∧ ∀ world msg, (m.update d world msg).2.1 = .quit ↔ msg.exit?.isSome = true)
    ∧ (∀ (d : Demo ω ε σ) (options : RunOptions) (s : σ) (arrivals : List (ω × Message)),
      ((Session.new d options s).after d arrivals).demo
        = ((Session.new d options s).after d (arrivals.filter fun a => a.2.exit?.isNone)).demo)
    ∧ ∀ (m : Menu) (messages : List Message),
      (m.after messages).quitting = (messages.any Menu.quits || m.quitting)
      ∧ (m.after messages).selected = (m.choices messages).getLast?.getD m.selected
      ∧ ((∀ n, (m.after (messages.take n)).selected = m.selected
          ∧ (m.after (messages.take n)).quitting = m.quitting)
        ↔ (∀ id ∈ m.choices messages, id = m.selected)
          ∧ (m.quitting = true ∨ ∀ msg ∈ messages, Menu.quits msg = false))
      ∧ ∀ msg, (m.update msg).2 = .quit
        ↔ Menu.quits msg = true ∨ (m.choice? msg).isSome = true := by
  refine ⟨fun d m arrivals => ⟨(m.leaving_after d arrivals).1, (m.leaving_after d arrivals).2,
    m.exit_stands_iff d arrivals, m.request_update d⟩, fun d options s arrivals => ?_,
    fun m messages => ⟨m.quitting_after messages, m.selected_after messages,
      m.decision_stands_iff messages, m.request_update⟩⟩
  have hcalls : Session.calls options (arrivals.filter fun a => a.2.exit?.isNone)
      = Session.calls options arrivals := Session.callsFrom_without_exits options [] arrivals
  rw [(Session.follows_after d options s _).demo, (Session.follows_after d options s _).demo,
    hcalls]

/-- **The first exit decision is not final.** A session left by quitting is left by going back if
that key follows, and a tick that follows still steps the demo. A menu left by quitting has a choice
if the key for it follows, and one left by a choice is quit if that key follows. -/
theorem first_exit_decision_not_final :
    (let d := Counter.demo "stub" "Stub" "stub frame" none
      let left := (Session.new d .default d.fresh).update d "" (.key (.typed "q" false))
      left.2.1 = .quit ∧ left.1.exit = .quit ∧ left.1.demo.count = 0
      ∧ (left.1.update d "" (.key (.typed "b" false))).1.exit = .back
      ∧ (left.1.update d "" (.tick 0)).1.demo.count = 1)
    ∧ (let left := (Menu.new [⟨Utf8.bytes "ball", "Bouncing Ball"⟩]).update
        (.key (.typed "q" false))
      left.2 = .quit ∧ left.1.selected = []
      ∧ (left.1.update (.key (.named "enter" false))).1.selected = Utf8.bytes "ball")
    ∧ (let left := (Menu.new [⟨Utf8.bytes "ball", "Bouncing Ball"⟩]).update
        (.key (.named "enter" false))
      left.2 = .quit ∧ left.1.quitting = false
      ∧ (left.1.update (.key (.typed "q" false))).1.quitting = true) := by
  decide +kernel

end Ricochet.Terminal
