import Mathlib.Data.List.DropRight
import Ricochet.Demo.Counter
import Ricochet.Terminal.Session
import Ricochet.Proofs.DemoHistory
import Ricochet.Proofs.ScreenBuffer

set_option autoImplicit false

/-! # Runs of a session

Keys, sizes and ticks reach a session in any order. Only ticks reach the demo, and each makes one
call: a reset if a restart was asked for since the tick before, else a frame with the actions asked
for since then. So the calls of a run can be read off its messages alone (`Session.calls`), and the
demo is in the state that these calls leave it in.

* `Session.update_tick`: what a tick does, in terms of the one call it makes.
* `Session.Follows`: how a session is related to the messages it got; kept by every message
  (`follows_update`), so by every run (`follows_after`).
* `Session.getElem?_calls_key`: a pressed key bears on one call at most, that of the next tick.
* `Session.one_call_per_tick`: all of this together.
-/

namespace Ricochet

variable {ω ε σ : Type}

/-! ## Input frames as sets -/

namespace InputFrame

theorem has_insert (f : InputFrame) (a b : Action) :
    (f.insert b).has a = true ↔ a = b ∨ f.has a = true := by
  unfold insert
  split
  · rename_i hb
    constructor
    · exact Or.inr
    · rintro (rfl | h)
      · exact hb
      · exact h
  · simp [has]

theorem ofList_concat (as : List Action) (a : Action) :
    ofList (as ++ [a]) = (ofList as).insert a := by
  unfold ofList
  rw [List.foldl_append]
  rfl

theorem has_ofList (as : List Action) (a : Action) : (ofList as).has a = true ↔ a ∈ as := by
  induction as using List.reverseRecOn with
  | nil => simp [ofList, empty, has]
  | append_singleton as b ih => rw [ofList_concat, has_insert, ih, List.mem_append,
      List.mem_singleton, or_comm]

end InputFrame

/-! ## What a demo reports -/

namespace Demo

variable (d : Demo ω ε σ)

/-- The state reported with an event: a frame reports with its result, and after a reset the demo is
asked for its state. -/
def report (e : Event ω ε σ) : DemoState :=
  match e.answer with
  | .reset _ => d.state e.after
  | .frame result => result.state

/-- The state reported last in a history of calls; before the first of them, the state at the
start. -/
def lastReport (s : σ) (calls : List (Call ω)) : DemoState :=
  ((d.history s calls).getLast?.map d.report).getD (d.state s)

theorem lastReport_concat (s : σ) (calls : List (Call ω)) (c : Call ω) :
    d.lastReport s (calls ++ [c]) = d.report (d.event (d.after s calls) c) := by
  unfold lastReport
  rw [history_concat, List.getLast?_concat]
  rfl

end Demo

namespace Terminal

/-! ## What messages ask for -/

namespace Message

/-- Whether a frame is due. -/
def isTick : Message → Bool
  | .tick _ => true
  | _ => false

/-- The action that a message asks the next frame for. -/
def action? : Message → Option Action
  | .key k =>
      match DemoKeys.action k with
      | .pause => some .pause
      | .step => some .step
      | .restart => some .restart
      | _ => none
  | _ => none

/-- How the session is left if the message ends it. -/
def exit? : Message → Option ExitReason
  | .key k =>
      match DemoKeys.action k with
      | .quit => some .quit
      | .back => some .back
      | _ => none
  | _ => none

/-- The size that a message brings. -/
def size? : Message → Option (Int × Int)
  | .resize width height => some (width, height)
  | _ => none

end Message

/-- The actions asked for since the last tick, in their order. -/
def asked (messages : List Message) : List Action :=
  (messages.rtakeWhile (!·.isTick)).filterMap Message.action?

/-- The last size received; before the first, the size in the options. -/
def lastSize (options : RunOptions) (messages : List Message) : Int × Int :=
  ((messages.filterMap Message.size?).getLast?).getD (options.width, options.height)

theorem asked_concat (messages : List Message) (msg : Message) :
    asked (messages ++ [msg])
      = if msg.isTick then [] else asked messages ++ msg.action?.toList := by
  unfold asked
  cases hmsg : msg.isTick with
  | true =>
      rw [List.rtakeWhile_concat_neg _ _ _ (by simp [hmsg])]
      rfl
  | false =>
      rw [List.rtakeWhile_concat_pos _ _ _ (by simp [hmsg]), List.filterMap_append,
        if_neg Bool.false_ne_true]
      cases hact : msg.action? <;> simp [hact]

theorem lastSize_concat (options : RunOptions) (messages : List Message) (msg : Message) :
    lastSize options (messages ++ [msg]) = msg.size?.getD (lastSize options messages) := by
  unfold lastSize
  rw [List.filterMap_append]
  cases hsize : msg.size? <;> simp [hsize]

/-- Only three actions are handed on to frames. -/
theorem mem_asked {messages : List Message} {a : Action} (h : a ∈ asked messages) :
    a = .pause ∨ a = .step ∨ a = .restart := by
  obtain ⟨msg, -, hmsg⟩ := List.mem_filterMap.mp h
  cases msg with
  | key k =>
      simp only [Message.action?] at hmsg
      cases hk : DemoKeys.action k <;> simp_all
  | _ => cases hmsg

namespace Session

/-! ## The calls of a run -/

/-- The session after messages, each with the surroundings that a reset would find at that time. -/
def after (d : Demo ω ε σ) (m : Session ε σ) (arrivals : List (ω × Message)) : Session ε σ :=
  arrivals.foldl (fun m a => (m.update d a.1 a.2).1) m

/-- The options with the last size received and a seed. -/
def latest (options : RunOptions) (messages : List Message) (seed : Int) : RunOptions :=
  { options with
    width := (lastSize options messages).1
    height := (lastSize options messages).2
    seed := seed }

/-- The call of a tick after the messages before it: a reset with the time as its seed if a restart
was asked for, else a frame with all that was asked for. -/
def tickCall (options : RunOptions) (before : List Message) (world : ω) (now : Int) : Demo.Call ω :=
  if .restart ∈ asked before then .reset world (latest options before now)
  else .frame (.ofList (asked before))

/-- The call of a message, if it makes one. -/
def call? (options : RunOptions) (before : List Message) (world : ω) :
    Message → Option (Demo.Call ω)
  | .tick now => some (tickCall options before world now)
  | _ => none

/-- The calls that messages make, in their order, after the messages before them. -/
def callsFrom (options : RunOptions) (before : List Message) :
    List (ω × Message) → List (Demo.Call ω)
  | [] => []
  | (world, msg) :: rest =>
      (call? options before world msg).toList ++ callsFrom options (before ++ [msg]) rest

/-- The calls of a run. -/
def calls (options : RunOptions) (arrivals : List (ω × Message)) : List (Demo.Call ω) :=
  callsFrom options [] arrivals

theorem after_concat (d : Demo ω ε σ) (m : Session ε σ) (arrivals : List (ω × Message))
    (world : ω) (msg : Message) :
    m.after d (arrivals ++ [(world, msg)]) = ((m.after d arrivals).update d world msg).1 := by
  unfold after
  rw [List.foldl_append]
  rfl

theorem callsFrom_append (options : RunOptions) (before : List Message)
    (arrivals later : List (ω × Message)) :
    callsFrom options before (arrivals ++ later)
      = callsFrom options before arrivals
        ++ callsFrom options (before ++ arrivals.map Prod.snd) later := by
  induction arrivals generalizing before with
  | nil => simp [callsFrom]
  | cons a arrivals ih =>
      obtain ⟨world, msg⟩ := a
      simp [callsFrom, ih]

theorem calls_concat (options : RunOptions) (arrivals : List (ω × Message)) (world : ω)
    (msg : Message) :
    calls options (arrivals ++ [(world, msg)])
      = calls options arrivals ++ (call? options (arrivals.map Prod.snd) world msg).toList := by
  unfold calls
  rw [callsFrom_append]
  simp [callsFrom]

theorem calls_concat_tick (options : RunOptions) (arrivals : List (ω × Message)) (world : ω)
    (now : Int) :
    calls options (arrivals ++ [(world, .tick now)])
      = calls options arrivals ++ [tickCall options (arrivals.map Prod.snd) world now] :=
  calls_concat options arrivals world (.tick now)

theorem call?_of_not_tick (options : RunOptions) (before : List Message) (world : ω)
    {msg : Message} (h : msg.isTick = false) : call? options before world msg = none := by
  cases msg with
  | tick now => cases h
  | _ => rfl

theorem calls_concat_of_not_tick (options : RunOptions) (arrivals : List (ω × Message)) (world : ω)
    {msg : Message} (h : msg.isTick = false) :
    calls options (arrivals ++ [(world, msg)]) = calls options arrivals := by
  rw [calls_concat, call?_of_not_tick options _ world h]
  exact List.append_nil _

/-! ## One message -/

/-- The call that a tick makes. -/
def nextCall (m : Session ε σ) (world : ω) (now : Int) : Demo.Call ω :=
  if m.pending.has .restart then .reset world { m.options with seed := now } else .frame m.pending

/-- **What a tick does.** It makes one call, takes over what that call reports, and forgets the
actions noted so far. -/
theorem update_tick (m : Session ε σ) (d : Demo ω ε σ) (world : ω) (now : Int) :
    (m.update d world (.tick now)).1 =
      { m with
        demo := (d.event m.demo (m.nextCall world now)).after
        seen := d.report (d.event m.demo (m.nextCall world now))
        pending := .empty
        options := if m.pending.has .restart then { m.options with seed := now } else m.options
        failure :=
          match (d.event m.demo (m.nextCall world now)).answer with
          | .reset failure => failure
          | .frame _ => m.failure } := by
  cases hrestart : m.pending.has .restart with
  | false => simp [update, nextCall, hrestart, stepped, Demo.event, Demo.report]
  | true => simp [update, nextCall, hrestart, restarted, Demo.event, Demo.report]

theorem action_ne_unknown (k : Key) (code : Int) : DemoKeys.action k ≠ .unknown code := by
  unfold DemoKeys.action
  repeat' split
  all_goals exact Action.noConfusion

/-- **What any other message does.** It notes what it asks for, and makes no use of the demo. -/
theorem update_of_not_tick (m : Session ε σ) (d : Demo ω ε σ) (world : ω) {msg : Message}
    (h : msg.isTick = false) :
    m.update d world msg =
      ({ m with
          pending := msg.action?.elim m.pending m.pending.insert
          exit := msg.exit?.getD m.exit
          quitting := msg.exit?.isSome || m.quitting
          options := msg.size?.elim m.options fun size =>
            { m.options with width := size.1, height := size.2 }
          screen := msg.size?.elim m.screen fun size =>
            m.screen.resize size.1 (fieldHeight size.2)
          helpWidth := msg.size?.elim m.helpWidth Prod.fst },
        if msg.exit?.isSome then .quit else .nothing, []) := by
  cases msg with
  | tick now => cases h
  | resize width height => rfl
  | other => rfl
  | key k =>
      cases hk : DemoKeys.action k with
      | unknown code => exact absurd hk (action_ne_unknown k code)
      | _ => simp [update, pressed, Message.action?, Message.exit?, Message.size?, hk]

/-! ## Following the messages -/

/-- How a session stands to the messages it got since it was made with these options and a demo in
the state `s`. -/
structure Follows (d : Demo ω ε σ) (options : RunOptions) (s : σ) (arrivals : List (ω × Message))
    (m : Session ε σ) : Prop where
  demo : m.demo = d.after s (calls options arrivals)
  seen : m.seen = d.lastReport s (calls options arrivals)
  pending : m.pending = .ofList (asked (arrivals.map Prod.snd))
  latest : ∃ seed, m.options = latest options (arrivals.map Prod.snd) seed
  width : m.screen.width = (lastSize options (arrivals.map Prod.snd)).1.toNat
  height : m.screen.height = (fieldHeight (lastSize options (arrivals.map Prod.snd)).2).toNat

variable {d : Demo ω ε σ} {options : RunOptions} {s : σ} {arrivals : List (ω × Message)}
  {m : Session ε σ}

theorem follows_new (d : Demo ω ε σ) (options : RunOptions) (s : σ) :
    Follows d options s [] (new d options s) :=
  ⟨rfl, rfl, rfl, ⟨options.seed, rfl⟩, rfl, rfl⟩

/-- The call that a tick makes is the one that the messages say. -/
theorem Follows.nextCall_eq (h : Follows d options s arrivals m) (world : ω) (now : Int) :
    m.nextCall world now = tickCall options (arrivals.map Prod.snd) world now := by
  obtain ⟨seed, hlatest⟩ := h.latest
  unfold nextCall tickCall
  rw [h.pending, hlatest]
  by_cases hrestart : .restart ∈ asked (arrivals.map Prod.snd)
  · rw [if_pos hrestart, if_pos ((InputFrame.has_ofList _ _).mpr hrestart)]
    rfl
  · rw [if_neg hrestart, if_neg (mt (InputFrame.has_ofList _ _).mp hrestart)]

/-- After a tick there is one call more, and nothing is asked for any longer. -/
theorem Follows.tick (h : Follows d options s arrivals m) (world : ω) (now : Int) :
    Follows d options s (arrivals ++ [(world, Message.tick now)])
      (m.update d world (.tick now)).1 := by
  have hsize : lastSize options ((arrivals ++ [(world, Message.tick now)]).map Prod.snd)
      = lastSize options (arrivals.map Prod.snd) := by
    rw [List.map_append, List.map_singleton, lastSize_concat]
    rfl
  rw [update_tick]
  refine ⟨?_, ?_, ?_, ?_, ?_, ?_⟩
  · rw [calls_concat_tick, d.after_concat, ← h.demo, ← h.nextCall_eq]
  · rw [calls_concat_tick, d.lastReport_concat, ← h.demo, ← h.nextCall_eq]
  · rw [List.map_append, List.map_singleton, asked_concat]
    rfl
  · obtain ⟨seed, hlatest⟩ := h.latest
    unfold Session.latest
    rw [hsize, hlatest]
    split
    · exact ⟨now, rfl⟩
    · exact ⟨seed, rfl⟩
  · rw [hsize]
    exact h.width
  · rw [hsize]
    exact h.height

/-- After any other message the calls are the same, and what it brought is noted. -/
theorem Follows.note (h : Follows d options s arrivals m) (world : ω) {msg : Message}
    (htick : msg.isTick = false) :
    Follows d options s (arrivals ++ [(world, msg)]) (m.update d world msg).1 := by
  have hcalls := calls_concat_of_not_tick options arrivals world htick
  have hasked : asked ((arrivals ++ [(world, msg)]).map Prod.snd)
      = asked (arrivals.map Prod.snd) ++ msg.action?.toList := by
    rw [List.map_append, List.map_singleton, asked_concat, htick]
    rfl
  have hsize : lastSize options ((arrivals ++ [(world, msg)]).map Prod.snd)
      = msg.size?.getD (lastSize options (arrivals.map Prod.snd)) := by
    rw [List.map_append, List.map_singleton, lastSize_concat]
  rw [update_of_not_tick m d world htick]
  refine ⟨?_, ?_, ?_, ?_, ?_, ?_⟩
  · rw [hcalls]
    exact h.demo
  · rw [hcalls]
    exact h.seen
  · rw [hasked, h.pending]
    cases msg.action? with
    | none => simp
    | some a => exact (InputFrame.ofList_concat _ a).symm
  · obtain ⟨seed, hlatest⟩ := h.latest
    refine ⟨seed, ?_⟩
    unfold Session.latest
    rw [hsize, hlatest]
    cases msg.size? <;> rfl
  · rw [hsize]
    cases msg.size? with
    | none => exact h.width
    | some size => exact Screen.width_resize _ _ _
  · rw [hsize]
    cases msg.size? with
    | none => exact h.height
    | some size => exact Screen.height_resize _ _ _

/-- **One message.** A session that follows its messages does so after the next one. -/
theorem follows_update (h : Follows d options s arrivals m) (world : ω) (msg : Message) :
    Follows d options s (arrivals ++ [(world, msg)]) (m.update d world msg).1 := by
  cases msg with
  | tick now => exact h.tick world now
  | _ => exact h.note world rfl

/-- **Every run.** A session follows all messages it ever got. -/
theorem follows_after (d : Demo ω ε σ) (options : RunOptions) (s : σ)
    (arrivals : List (ω × Message)) :
    Follows d options s arrivals ((new d options s).after d arrivals) := by
  induction arrivals using List.reverseRecOn with
  | nil => exact follows_new d options s
  | append_singleton arrivals a ih =>
      rw [after_concat]
      exact follows_update ih a.1 a.2

theorem fieldHeight_of_mem {height : Int} (lo : minWord < height) (hi : height ≤ maxWord) :
    fieldHeight height = max 0 (height - 1) := by
  unfold fieldHeight
  rw [wrap64_of_mem (by omega) (by omega)]

/-! ## Keys and calls -/

theorem length_callsFrom (options : RunOptions) (before : List Message)
    (arrivals : List (ω × Message)) :
    (callsFrom options before arrivals).length = arrivals.countP (·.2.isTick) := by
  induction arrivals generalizing before with
  | nil => rfl
  | cons a arrivals ih =>
      obtain ⟨world, msg⟩ := a
      rw [callsFrom, List.length_append, ih, List.countP_cons, Nat.add_comm]
      cases msg <;> rfl

/-- Later calls depend on earlier messages only through what is asked for and the last size. -/
theorem callsFrom_congr (options : RunOptions) {before before' : List Message}
    (hasked : asked before = asked before')
    (hsize : lastSize options before = lastSize options before') (later : List (ω × Message)) :
    callsFrom options before later = callsFrom options before' later := by
  induction later generalizing before before' with
  | nil => rfl
  | cons a later ih =>
      obtain ⟨world, msg⟩ := a
      have hcall : call? options before world msg = call? options before' world msg := by
        cases msg with
        | tick now => simp only [call?, tickCall, Session.latest, hasked, hsize]
        | _ => rfl
      have hrest := @ih (before ++ [msg]) (before' ++ [msg])
        (by rw [asked_concat, asked_concat, hasked])
        (by rw [lastSize_concat, lastSize_concat, hsize])
      rw [callsFrom, callsFrom, hcall, hrest]

/-- After the next call, what was asked for before no longer matters. -/
theorem tail_callsFrom (options : RunOptions) {before before' : List Message}
    (hsize : lastSize options before = lastSize options before') (later : List (ω × Message)) :
    (callsFrom options before later).tail = (callsFrom options before' later).tail := by
  induction later generalizing before before' with
  | nil => rfl
  | cons a later ih =>
      obtain ⟨world, msg⟩ := a
      have hnext : lastSize options (before ++ [msg]) = lastSize options (before' ++ [msg]) := by
        rw [lastSize_concat, lastSize_concat, hsize]
      cases htick : msg.isTick with
      | true =>
          -- The tick takes all that is asked for, so both runs go on alike.
          have hasked : asked (before ++ [msg]) = asked (before' ++ [msg]) := by
            rw [asked_concat, asked_concat, htick]
            rfl
          have hrest := callsFrom_congr options hasked hnext later
          cases msg with
          | tick now => exact hrest
          | _ => cases htick
      | false =>
          rw [callsFrom, callsFrom, call?_of_not_tick options _ world htick,
            call?_of_not_tick options _ world htick]
          exact ih hnext

/-- **A key bears on one call.** But for the call of the next tick, all calls of a run are what they
would be without it. -/
theorem getElem?_calls_key (options : RunOptions) (before later : List (ω × Message)) (world : ω)
    (k : Key) {i : Nat} (hi : i ≠ before.countP (·.2.isTick)) :
    (calls options (before ++ (world, .key k) :: later))[i]?
      = (calls options (before ++ (world, .other) :: later))[i]? := by
  have hsplit : ∀ msg : Message, msg.isTick = false →
      calls options (before ++ (world, msg) :: later) = calls options before
        ++ callsFrom options (before.map Prod.snd ++ [msg]) later := by
    intro msg htick
    unfold calls
    rw [callsFrom_append, List.nil_append, callsFrom, call?_of_not_tick options _ world htick]
    rfl
  rw [hsplit _ rfl, hsplit _ rfl]
  have hlength : (calls options before).length = before.countP (·.2.isTick) :=
    length_callsFrom options [] before
  -- Earlier calls are the same in both runs; of the later ones, all but the first are.
  by_cases hlt : i < (calls options before).length
  · rw [List.getElem?_append_left hlt, List.getElem?_append_left hlt]
  · rw [List.getElem?_append_right (by omega), List.getElem?_append_right (by omega)]
    obtain ⟨j, hj⟩ : ∃ j, i - (calls options before).length = j + 1 :=
      ⟨i - (calls options before).length - 1, by omega⟩
    rw [hj, ← List.getElem?_tail, ← List.getElem?_tail]
    have hsize : lastSize options (before.map Prod.snd ++ [Message.key k])
        = lastSize options (before.map Prod.snd ++ [Message.other]) := by
      rw [lastSize_concat, lastSize_concat]
      rfl
    rw [tail_callsFrom options hsize later]

/-- **One call a tick.** For any demo, options and messages, in this order:

* the demo is in the state that the calls of the run left it in, the session reports what the demo
  reported with the last of them, and the screen has the last size received, less the line of help.
  Negative sizes count as zero; the height less one is taken as a word, which wraps for the least;
* a message that is no tick makes no call: whatever the demo and the surroundings, it does the same,
  and it keeps the demo and the report;
* a tick makes one call. If a restart was asked for since the tick before, it is a reset with the
  time as its seed and the last size; else it is a frame with the pauses and steps asked for since
  then. How the demo would answer any other call does not matter;
* a pressed key bears on one call at most, that of the next tick. -/
theorem one_call_per_tick (d : Demo ω ε σ) (options : RunOptions) (s : σ)
    (arrivals : List (ω × Message)) :
    let m := (new d options s).after d arrivals
    let messages := arrivals.map Prod.snd
    let size := lastSize options messages
    (m.demo = d.after s (calls options arrivals)
      ∧ m.seen = d.lastReport s (calls options arrivals)
      ∧ (m.screen.width : Int) = max 0 size.1
      ∧ (m.screen.height : Int) = max 0 (wrap64 (size.2 - 1))
      ∧ (minWord < size.2 → size.2 ≤ maxWord → (m.screen.height : Int) = max 0 (size.2 - 1)))
    ∧ (∀ world msg, msg.isTick = false →
        calls options (arrivals ++ [(world, msg)]) = calls options arrivals
        ∧ (m.update d world msg).1.demo = m.demo ∧ (m.update d world msg).1.seen = m.seen
        ∧ ∀ (d' : Demo ω ε σ) (world' : ω), m.update d' world' msg = m.update d world msg)
    ∧ (∀ world now, ∃ c,
        calls options (arrivals ++ [(world, .tick now)]) = calls options arrivals ++ [c]
        ∧ (m.update d world (.tick now)).1.demo = (d.event m.demo c).after
        ∧ (.restart ∈ asked messages →
          c = .reset world { options with width := size.1, height := size.2, seed := now })
        ∧ (.restart ∉ asked messages → ∃ input, c = .frame input
          ∧ ∀ a, input.has a = true ↔ a ∈ asked messages ∧ (a = .pause ∨ a = .step))
        ∧ ∀ d' : Demo ω ε σ, d'.event m.demo c = d.event m.demo c → d'.state = d.state →
          (m.update d' world (.tick now)).1 = (m.update d world (.tick now)).1)
    ∧ ∀ before world k later, arrivals = before ++ (world, .key k) :: later →
        ∀ i, i ≠ before.countP (·.2.isTick) →
          (calls options arrivals)[i]?
            = (calls options (before ++ (world, .other) :: later))[i]? := by
  intro m messages size
  have h : Follows d options s arrivals m := follows_after d options s arrivals
  have hheight : (m.screen.height : Int) = max 0 (wrap64 (size.2 - 1)) := by
    rw [h.height]
    exact Int.toNat_of_nonneg (Int.le_max_left 0 _)
  refine ⟨⟨h.demo, h.seen, ?_, hheight, fun lo hi => ?_⟩, fun world msg htick => ?_,
    fun world now => ⟨tickCall options messages world now,
      calls_concat_tick options arrivals world now, ?_, fun hrestart => ?_, fun hframe => ?_,
      fun d' hevent hstate => ?_⟩, ?_⟩
  · rw [h.width, Int.toNat_eq_max, Int.max_comm]
  · rw [hheight]
    exact fieldHeight_of_mem lo hi
  · refine ⟨calls_concat_of_not_tick options arrivals world htick, ?_, ?_, fun d' world' => ?_⟩
    · rw [update_of_not_tick m d world htick]
    · rw [update_of_not_tick m d world htick]
    · rw [update_of_not_tick m d world htick, update_of_not_tick m d' world' htick]
  · rw [update_tick, h.nextCall_eq]
  · unfold tickCall
    rw [if_pos hrestart]
    rfl
  · -- Without a restart, all that is asked for are pauses and steps.
    refine ⟨.ofList (asked messages), if_neg hframe, fun a => ?_⟩
    rw [InputFrame.has_ofList]
    constructor
    · intro ha
      rcases mem_asked ha with rfl | rfl | rfl
      · exact ⟨ha, Or.inl rfl⟩
      · exact ⟨ha, Or.inr rfl⟩
      · exact absurd ha hframe
    · exact And.left
  · -- All that a tick takes from the demo is the answer to its call and the state reported then.
    have hreport : d'.report = d.report := by
      unfold Demo.report
      rw [hstate]
    rw [update_tick, update_tick, h.nextCall_eq, hevent, hreport]
  · rintro before world k later rfl i hi
    exact getElem?_calls_key options before later world k hi

/-- A frame that runs and one that pauses and asks for a step; then a pause, a restart and a new
size before the next. -/
def restartScript : List (String × Message) :=
  [("", .tick 1), ("", .key (.typed "p" false)), ("", .key (.typed "n" false)), ("", .tick 2),
    ("", .key (.named " " false)), ("", .key (.typed "r" false)), ("", .resize 100 30)]

/-- The second tick of the script hands out the pause and the step. The tick after the script resets
the demo at the new size, and the second pause is lost: the demo stays paused. -/
theorem one_call_per_tick_restart :
    let d := Counter.demo "stub" "Stub" "stub frame" none
    let m := (new d .default d.fresh).after d restartScript
    .restart ∈ asked (restartScript.map Prod.snd)
    ∧ calls .default restartScript = [.frame .empty, .frame (.ofList [.pause, .step])]
    ∧ m.demo = ⟨1, true⟩ ∧ (m.screen.height : Int) = 29
    ∧ ∃ c, calls .default (restartScript ++ [("", .tick 42)])
        = calls .default restartScript ++ [c]
      ∧ c = .reset "" { width := 100, height := 30, tickRate := 0, seed := 42 }
      ∧ (m.update d "" (.tick 42)).1.demo = ⟨0, true⟩ := by
  intro d m
  have hrestart : .restart ∈ asked (restartScript.map Prod.snd) := by decide +kernel
  obtain ⟨⟨hdemo, -, -, -, hheight⟩, -, htick, -⟩ :=
    one_call_per_tick d .default d.fresh restartScript
  obtain ⟨c, hcalls, hafter, hreset, -⟩ := htick "" 42
  have hc := hreset hrestart
  have hstate : m.demo = ⟨1, true⟩ := hdemo.trans (by decide +kernel)
  have hscreen := hheight (by decide +kernel) (by decide +kernel)
  refine ⟨hrestart, rfl, hstate, hscreen, c, hcalls, hc, ?_⟩
  rw [hafter, hc]
  exact congrArg (fun n => (d.event n _).after) hstate

end Session

end Terminal

end Ricochet
