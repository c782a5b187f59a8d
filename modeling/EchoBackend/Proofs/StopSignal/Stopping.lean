/-
# An instance stops exactly when asked

From the moment at which it is handed its receiver, an instance is asked to stop by a message on
the channel, or by the last handle of the channel being dropped.  The main statement,
`Watch.run_stops`, says that it does not stop without having been asked, and that it has stopped
once it was asked and has looked again, in whatever order all this comes about.
-/
import EchoBackend.Proofs.StopSignal.Conservation
import EchoBackend.Watch

namespace EchoBackend

open StopSignal

namespace StopSignal

/-- Waiting ends unless nothing is unread and there are handles. -/
theorem Inbox.endsWaiting_told (inbox : Inbox) :
    inbox.told.endsWaiting = true ↔ 0 < inbox.unread ∨ inbox.handles = 0 := by
  obtain ⟨unread, handles⟩ := inbox
  match unread with
  | 0 => by_cases h : handles = 0 <;> simp [told, Reception.endsWaiting, h]
  | 1 => simp [told, Reception.endsWaiting]
  | missed + 2 => simp [told, Reception.endsWaiting]

end StopSignal

namespace Watch

/-! ## Being asked -/

/-- Whether an action sends a message on a channel. -/
def isSend (watch : Watch) (channel : Nat) : Action → Bool
  | .signal (.trigger handle) => watch.signals.channelOf? handle = some channel
  | _ => false

/-- How many messages are sent on a channel in the course of some actions. -/
def sends (watch : Watch) (channel : Nat) : List Action → Nat
  | [] => 0
  | action :: actions =>
    (watch.isSend channel action).toNat + (watch.act action).sends channel actions

/-- Whether every handle of a channel is gone. -/
def Released (watch : Watch) (channel : Nat) : Prop :=
  ∀ handle, watch.signals.channelOf? handle ≠ some channel

/-- The instance has its receiver, and so many messages were sent on its channel since. -/
structure Attends (watch : Watch) (receiver : Receiver) (sent : Nat) : Prop where
  valid : watch.signals.Valid
  live : watch.signals.receiver? watch.receiver = some receiver
  /-- Until the instance stops, all that was sent is still before it. -/
  unread : watch.stage ≠ .stopped → (watch.signals.inbox receiver).unread = sent
  /-- It stops only if it was asked. -/
  asked : watch.stage = .stopped → 0 < sent ∨ (watch.signals.inbox receiver).handles = 0

/-- The instance goes on to have its receiver on the same channel, and a channel without handles
stays so. -/
structure Continues (watch : Watch) (receiver : Receiver) (later : Watch) (after : Receiver) :
    Prop where
  channel : after.channel = receiver.channel
  handles : (watch.signals.inbox receiver).handles = 0 → (later.signals.inbox after).handles = 0

variable {watch : Watch} {receiver : Receiver} {sent : Nat}

/-- A channel without handles gets no new ones. -/
theorem handles_event? {state : StopSignal.State}
    (h : (state.inbox receiver).handles = 0) (number : Nat) (action : StopSignal.Action) :
    ((state.inbox receiver).afterAll
      (state.event? receiver.channel number action).toList).handles = 0 := by
  have hgone : ∀ handle, state.channelOf? handle ≠ some receiver.channel := fun handle hhandle =>
    List.count_eq_zero.mp h (State.mem_handles_of_channelOf? hhandle)
  cases action with
  | new | subscribe _ | dropReceiver _ => exact h
  | clone handle | trigger handle | dropHandle handle =>
    rw [State.event?, if_neg (hgone handle)]
    exact h
  | receive other =>
    rw [State.event?]
    split <;> exact h

/-- What others do adds to what is unread what they send. -/
theorem unread_event? (watch : Watch) {action : StopSignal.Action}
    (hothers : uses watch.receiver action = false) :
    ((watch.signals.inbox receiver).afterAll
      (watch.signals.event? receiver.channel watch.receiver action).toList).unread =
        (watch.signals.inbox receiver).unread +
          (watch.isSend receiver.channel (.signal action)).toNat := by
  cases action with
  | new | subscribe _ | dropReceiver _ => rfl
  | clone handle | dropHandle handle =>
    rw [State.event?]
    split <;> rfl
  | trigger handle =>
    rw [State.event?, isSend]
    by_cases hhandle : watch.signals.channelOf? handle = some receiver.channel
    · rw [if_pos hhandle, decide_eq_true hhandle]
      rfl
    · rw [if_neg hhandle, decide_eq_false hhandle]
      rfl
  | receive other =>
    rw [uses, beq_eq_false_iff_ne] at hothers
    rw [State.event?, if_neg hothers]
    rfl

/-- What others do keeps it so. -/
theorem Attends.signal (h : watch.Attends receiver sent) {action : StopSignal.Action}
    (hothers : uses watch.receiver action = false) :
    let next : Watch := { watch with signals := (watch.signals.act action).2 }
    ∃ after, Continues watch receiver next after ∧
      next.Attends after (sent + (watch.isSend receiver.channel (.signal action)).toNat) := by
  intro next
  have hkept : action ≠ .dropReceiver watch.receiver := by
    rintro rfl
    simp [uses] at hothers
  obtain ⟨after, hlive, hchannel, hinbox⟩ := State.inbox_act h.valid h.live hkept
  have hhandles : (watch.signals.inbox receiver).handles = 0 →
      (next.signals.inbox after).handles = 0 := fun hgone => by
    rw [hinbox]
    exact handles_event? hgone _ _
  refine ⟨after, ⟨hchannel, hhandles⟩, h.valid.act action, hlive, fun hstage => ?_,
    fun hstage => ?_⟩
  · rw [hinbox, unread_event? watch hothers, h.unread hstage]
  · exact (h.asked hstage).imp (Nat.add_pos_left · _) hhandles

/-- At a look the instance is told what its inbox says. -/
theorem Attends.look_eq (h : watch.Attends receiver sent) :
    watch.look =
      { signals := (watch.signals.act (.receive watch.receiver)).2
        receiver := watch.receiver
        stage := if (watch.signals.inbox receiver).told.endsWaiting then .stopped
          else .waiting } := by
  have htold := State.act_receive h.valid h.live
  show Watch.mk _ _
    (if endsWaiting (watch.signals.act (.receive watch.receiver)).1 then .stopped else _) = _
  rw [htold]
  rfl

/-- **A look ends the waiting exactly if the instance was asked to stop.** -/
theorem Attends.stage_look (h : watch.Attends receiver sent) (hwaits : watch.stage = .waiting) :
    watch.look.stage = .stopped ↔
      0 < sent ∨ (watch.signals.inbox receiver).handles = 0 := by
  have hunread : (watch.signals.inbox receiver).unread = sent := h.unread (by rw [hwaits]; decide)
  rw [← hunread, ← Inbox.endsWaiting_told, h.look_eq]
  cases (watch.signals.inbox receiver).told.endsWaiting <;> simp

/-- A look keeps it so. -/
theorem Attends.look (h : watch.Attends receiver sent) (hwaits : watch.stage = .waiting) :
    ∃ after, Continues watch receiver watch.look after ∧ watch.look.Attends after sent := by
  have hunread : (watch.signals.inbox receiver).unread = sent := h.unread (by rw [hwaits]; decide)
  have hstage := h.stage_look hwaits
  have hkept : StopSignal.Action.receive watch.receiver ≠ .dropReceiver watch.receiver := by simp
  obtain ⟨after, hlive, hchannel, hinbox⟩ := State.inbox_act h.valid h.live hkept
  rw [State.event?, if_pos rfl] at hinbox
  have hlook : watch.look.signals.inbox after = (watch.signals.inbox receiver).after .looked :=
    hinbox
  have hhandles : (watch.look.signals.inbox after).handles =
      (watch.signals.inbox receiver).handles := by
    rw [hlook]
    rfl
  have hvalid : watch.look.signals.Valid := h.valid.act (.receive watch.receiver)
  refine ⟨after, ⟨hchannel, hhandles.trans⟩, hvalid, hlive, fun hgoes => ?_, fun hstops => ?_⟩
  · -- It goes on only if nothing was sent, and then nothing is unread afterwards.
    have hnone : sent = 0 := by
      by_contra hsent
      exact hgoes (hstage.mpr (Or.inl (Nat.pos_of_ne_zero hsent)))
    rw [hlook, Inbox.after, hunread, hnone]
    rfl
  · rw [hhandles]
    exact hstage.mp hstops

/-- **Every action keeps it so.** -/
theorem Attends.act (h : watch.Attends receiver sent) (action : Action) :
    ∃ after, Continues watch receiver (watch.act action) after ∧
      (watch.act action).Attends after
        (sent + (watch.isSend receiver.channel action).toNat) := by
  cases action with
  | signal action =>
    rw [Watch.act]
    split
    case isTrue hown =>
      -- What uses the receiver of the instance is not done, and is no message either.
      have hnone : watch.isSend receiver.channel (.signal action) = false := by
        cases action <;> first | rfl | simp [uses] at hown
      rw [hnone]
      exact ⟨receiver, ⟨rfl, id⟩, h⟩
    case isFalse hothers => exact h.signal (by simpa using hothers)
  | begin =>
    refine ⟨receiver, ?_⟩
    rw [Watch.act]
    split
    case isTrue hstage =>
      have hunread := h.unread (by rw [hstage]; decide)
      exact ⟨⟨rfl, id⟩, h.valid, h.live, fun _ => hunread, fun hstopped => by contradiction⟩
    case isFalse => exact ⟨⟨rfl, id⟩, h⟩
  | look =>
    rw [Watch.act]
    split
    case isTrue hwaits => exact h.look hwaits
    case isFalse => exact ⟨receiver, ⟨rfl, id⟩, h⟩

/-- **Every run keeps it so.** -/
theorem Attends.run (h : watch.Attends receiver sent) (actions : List Action) :
    ∃ after, Continues watch receiver (watch.run actions) after ∧
      (watch.run actions).Attends after (sent + watch.sends receiver.channel actions) := by
  induction actions generalizing watch receiver sent with
  | nil => exact ⟨receiver, ⟨rfl, id⟩, h⟩
  | cons action actions ih =>
    obtain ⟨middle, hmiddle, hfirst⟩ := h.act action
    obtain ⟨after, hafter, hrest⟩ := ih hfirst
    rw [hmiddle.channel, Nat.add_assoc] at hrest
    exact ⟨after, ⟨hafter.channel.trans hmiddle.channel, hafter.handles ∘ hmiddle.handles⟩, hrest⟩

/-! ## Stages -/

/-- An instance that has stopped stays stopped. -/
theorem stage_run_of_stopped (h : watch.stage = .stopped) (actions : List Action) :
    (watch.run actions).stage = .stopped := by
  induction actions generalizing watch with
  | nil => exact h
  | cons action actions ih =>
    refine ih ?_
    cases action with
    | signal action =>
      rw [act]
      split <;> exact h
    | begin => rw [act, if_neg (by rw [h]; decide), h]
    | look => rw [act, if_neg (by rw [h]; decide), h]

/-- After a look the instance has stopped or waits again. -/
theorem stage_look_cases (watch : Watch) :
    watch.look.stage = .waiting ∨ watch.look.stage = .stopped := by
  rw [look]
  dsimp only
  split
  · exact Or.inr rfl
  · exact Or.inl rfl

/-- An instance that waits goes on waiting until it stops. -/
theorem stage_run_of_waiting (h : watch.stage = .waiting) (actions : List Action) :
    (watch.run actions).stage = .waiting ∨ (watch.run actions).stage = .stopped := by
  induction actions generalizing watch with
  | nil => exact Or.inl h
  | cons action actions ih =>
    have hstep : (watch.act action).stage = .waiting ∨ (watch.act action).stage = .stopped := by
      cases action with
      | signal action =>
        rw [act]
        split <;> exact Or.inl h
      | begin => rw [act, if_neg (by rw [h]; decide)]; exact Or.inl h
      | look => rw [act, if_pos h]; exact stage_look_cases watch
    rcases hstep with hwaits | hstopped
    · exact ih hwaits
    · exact Or.inr (stage_run_of_stopped hstopped actions)

/-- **An instance that was asked has stopped once it has looked again**, whatever else happens
before and after. -/
theorem Attends.stage_run (h : watch.Attends receiver sent) (hwaits : watch.stage = .waiting)
    (hasked : 0 < sent ∨ (watch.signals.inbox receiver).handles = 0) {actions : List Action}
    (hlook : .look ∈ actions) : (watch.run actions).stage = .stopped := by
  obtain ⟨before, later, rfl⟩ := List.append_of_mem hlook
  have hrun : watch.run (before ++ .look :: later) =
      ((watch.run before).act .look).run later := by
    rw [Watch.run, List.foldl_append, List.foldl_cons]
    rfl
  rw [hrun]
  apply stage_run_of_stopped
  rcases stage_run_of_waiting hwaits before with hstill | hstopped
  · obtain ⟨after, hafter, hthen⟩ := h.run before
    rw [Watch.act, if_pos hstill, hthen.stage_look hstill]
    exact hasked.imp (Nat.add_pos_left · _) hafter.handles
  · rw [Watch.act, if_neg (by rw [hstopped]; decide), hstopped]

/-! ## From the subscription on -/

/-- Every handle of a channel is gone exactly if its receivers count none. -/
theorem released_iff : watch.Released receiver.channel ↔
    (watch.signals.inbox receiver).handles = 0 := by
  rw [State.inbox, List.count_eq_zero, State.mem_handles_iff, not_exists]
  exact Iff.rfl

/-- A look that finds nothing changes nothing. -/
theorem Attends.look_eq_self (h : watch.Attends receiver sent) (hwaits : watch.stage = .waiting)
    (hnone : sent = 0) (hhandles : (watch.signals.inbox receiver).handles ≠ 0) :
    watch.act .look = watch := by
  have hunread : (watch.signals.inbox receiver).unread = 0 := by
    rw [h.unread (by rw [hwaits]; decide), hnone]
  have hends : (watch.signals.inbox receiver).told.endsWaiting = false := by
    rw [← Bool.not_eq_true, Inbox.endsWaiting_told, hunread]
    simpa using hhandles
  rw [Watch.act, if_pos hwaits, h.look_eq, hends, State.act_receive_of_none h.live hunread,
    ← hwaits]
  rfl

/-- **An instance stops exactly when it is asked.**  It is handed a receiver that was subscribed to
a channel at some time; then anything can happen in any order, the beginning of its waiting
included.  It never stops unless a message was sent on the channel since, or every handle of the
channel is gone.  If it waits after that, it has stopped once it has looked again, however the
others go on; and while it is not asked, looking changes nothing. -/
theorem run_stops (before : List StopSignal.Action) {handle channel : Nat}
    (hhandle : (State.initial.run before).2.channelOf? handle = some channel)
    (actions : List Action) :
    let start := (State.initial.run before).2
    let first : Watch :=
      { signals := (start.act (.subscribe handle)).2, receiver := start.receivers.length }
    let watch := first.run actions
    let asked := 0 < first.sends channel actions ∨ watch.Released channel
    (watch.stage = .stopped → asked) ∧
      (watch.stage = .waiting → asked → ∀ more, .look ∈ more →
        (watch.run more).stage = .stopped) ∧
      (watch.stage = .waiting → ¬ asked → watch.act .look = watch) := by
  intro start first watch asked
  obtain ⟨-, receiver, hlive, hchannel, hempty⟩ := State.act_subscribe hhandle
  have hfirst : first.Attends receiver 0 :=
    { valid := (State.valid_initial.run before).act (.subscribe handle)
      live := hlive
      unread := fun _ => congrArg Inbox.unread hempty
      asked := fun hstopped => by contradiction }
  obtain ⟨after, hafter, hthen⟩ := hfirst.run actions
  have hsame : after.channel = channel := hafter.channel.trans hchannel
  have hasked : asked ↔ 0 < 0 + first.sends receiver.channel actions ∨
      (watch.signals.inbox after).handles = 0 := by
    rw [← released_iff, hsame, hchannel, Nat.zero_add]
  rw [hasked]
  refine ⟨hthen.asked, fun hwaits hwas more hlook => hthen.stage_run hwaits hwas hlook,
    fun hwaits hnot => ?_⟩
  rw [not_or, Nat.not_lt, Nat.le_zero_eq] at hnot
  exact hthen.look_eq_self hwaits hnot.1 hnot.2

/-- The stop at work: two messages are sent before the instance begins to wait, the second
overtakes the first, and then every handle is dropped. -/
theorem run_stops_overtaken :
    let actions : List Action := [.signal (.trigger 1), .signal (.trigger 0), .begin]
    let start := (State.initial.run [.clone 0]).2
    let first : Watch :=
      { signals := (start.act (.subscribe 1)).2, receiver := start.receivers.length }
    start.channelOf? 1 = some 0 ∧ (first.run actions).stage = .waiting ∧
      0 < first.sends 0 actions ∧
      ((first.run actions).run
        [.signal (.dropHandle 0), .signal (.receive 0), .look, .signal (.dropHandle 1)]).stage =
          .stopped := by
  intro actions start first
  have hhandle : start.channelOf? 1 = some 0 := by decide
  have hwaits : (first.run actions).stage = .waiting := by decide
  have hsent : 0 < first.sends 0 actions := by decide
  exact ⟨hhandle, hwaits, hsent,
    (run_stops [.clone 0] hhandle actions).2.1 hwaits (Or.inl hsent) _ (by decide)⟩

end Watch

end EchoBackend
