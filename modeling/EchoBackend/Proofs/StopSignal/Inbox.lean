/-
# What a receiver notices

Of all that is done with handles and receivers, a receiver notices only what is done through
the handles of its own channel, and that it looks for a message itself.  An `Inbox` is what is
left of the state from its point of view: how much is unread, and how many handles there are.
The main statement, `State.inbox_act`, says that every action changes the inbox of a receiver
as the event does that the receiver notices, and leaves it as it is if there is none.
-/
import EchoBackend.Proofs.StopSignal.Validity

namespace EchoBackend

namespace StopSignal

/-! ## Inboxes -/

/-- What a receiver can notice. -/
inductive Event where
  /-- A message is sent on its channel. -/
  | triggered
  /-- Its channel has one more handle. -/
  | cloned
  /-- Its channel has one handle less. -/
  | dropped
  /-- The receiver looks for a message. -/
  | looked
  deriving DecidableEq, Repr

/-- The state from the point of view of one receiver. -/
structure Inbox where
  /-- How many messages came that were neither read nor reported as missed. -/
  unread : Nat
  /-- How many handles of the channel there are. -/
  handles : Nat
  deriving DecidableEq, Repr

namespace Inbox

/-- What the receiver is told if it looks now. -/
def told (inbox : Inbox) : Reception :=
  match inbox.unread with
  | 0 => if inbox.handles = 0 then .closed else .empty
  | 1 => .stop
  | missed + 2 => .lagged (missed + 1)

/-- The inbox after an event.  Looking uses up a message, and of several all but the newest. -/
def after (inbox : Inbox) : Event → Inbox
  | .triggered => { inbox with unread := inbox.unread + 1 }
  | .cloned => { inbox with handles := inbox.handles + 1 }
  | .dropped => { inbox with handles := inbox.handles - 1 }
  | .looked => { inbox with unread := min (inbox.unread - 1) 1 }

/-- The inbox after some events. -/
def afterAll (inbox : Inbox) (events : List Event) : Inbox := events.foldl after inbox

/-- What the receiver is told at an event: something if it looks, nothing otherwise. -/
def heard (inbox : Inbox) (event : Event) : List Reception :=
  if event = .looked then [inbox.told] else []

/-- All that the receiver is told in the course of some events. -/
def receptions (inbox : Inbox) : List Event → List Reception
  | [] => []
  | event :: events => inbox.heard event ++ (inbox.after event).receptions events

/-- Without events an inbox stays as it is. -/
@[simp] theorem afterAll_nil (inbox : Inbox) : inbox.afterAll [] = inbox := rfl

/-- First some events, then some more. -/
theorem afterAll_append (inbox : Inbox) (events more : List Event) :
    inbox.afterAll (events ++ more) = (inbox.afterAll events).afterAll more :=
  List.foldl_append

/-- What is told goes by the events, one after the other. -/
theorem receptions_append (inbox : Inbox) (events more : List Event) :
    inbox.receptions (events ++ more) =
      inbox.receptions events ++ (inbox.afterAll events).receptions more := by
  induction events generalizing inbox with
  | nil => rfl
  | cons event events ih =>
    rw [List.cons_append, receptions, ih, receptions, List.append_assoc]
    rfl

end Inbox

/-! ## The inbox of a receiver -/

/-- What a receiver was told, according to a record of actions and answers. -/
def receptionsOf (number : Nat) (record : List (Action × Answer)) : List Reception :=
  record.filterMap fun
    | (.receive receiver, .received reception) =>
      if receiver = number then some reception else none
    | _ => none

namespace State

variable {state : State}

/-- The state from the point of view of a receiver. -/
def inbox (state : State) (receiver : Receiver) : Inbox where
  unread := receiver.unread (state.channel receiver.channel)
  handles := state.handles.count (some receiver.channel)

/-- The event that the receiver of a given number, on a given channel, notices when an action is
performed. -/
def event? (state : State) (channel number : Nat) : Action → Option Event
  | .clone handle => if state.channelOf? handle = some channel then some .cloned else none
  | .trigger handle => if state.channelOf? handle = some channel then some .triggered else none
  | .dropHandle handle => if state.channelOf? handle = some channel then some .dropped else none
  | .receive receiver => if receiver = number then some .looked else none
  | .new | .subscribe _ | .dropReceiver _ => none

/-- The events that a receiver notices in the course of some actions. -/
def events (state : State) (channel number : Nat) : List Action → List Event
  | [] => []
  | action :: actions =>
    (state.event? channel number action).toList ++
      (state.act action).2.events channel number actions

/-- What is done with a channel and its handles is an event for the receivers of that channel, and
nothing for all others. -/
theorem inbox_update {receiver : Receiver} (hlt : receiver.channel < state.channels.length)
    {number : Nat} {change : Channel → Channel} {handles : List (Option Nat)} {event : Event}
    (hown : number = receiver.channel →
      ⟨receiver.unread (change (state.channel number)), handles.count (some number)⟩ =
        (state.inbox receiver).after event)
    (hother : number ≠ receiver.channel →
      handles.count (some receiver.channel) = state.handles.count (some receiver.channel)) :
    State.inbox { state.updateChannel number change with handles := handles } receiver =
      (state.inbox receiver).afterAll
        (if some number = some receiver.channel then some event else none).toList := by
  show Inbox.mk (receiver.unread ((state.updateChannel number change).channel receiver.channel))
    (handles.count (some receiver.channel)) = _
  by_cases heq : number = receiver.channel
  · rw [if_pos (congrArg some heq)]
    show _ = (state.inbox receiver).after event
    rw [← hown heq, ← heq, channel_updateChannel_self (heq ▸ hlt)]
  · rw [if_neg (heq <| Option.some.inj ·), hother heq, channel_updateChannel_of_ne heq]
    rfl

/-- A receiver is told what its inbox says, and left with what its inbox says. -/
theorem receive_eq (valid : state.Valid) {number : Nat} {receiver : Receiver}
    (h : state.receiver? number = some receiver) :
    (receiver.receive (state.channel receiver.channel)).1 = (state.inbox receiver).told ∧
      (receiver.receive (state.channel receiver.channel)).2.unread
        (state.channel receiver.channel) = ((state.inbox receiver).after .looked).unread := by
  have hopen := valid.openHandles _ (valid.receiver_lt number receiver h)
  unfold Receiver.receive
  split
  case h_1 hunread => simp [Inbox.told, Inbox.after, inbox, hunread, hopen]
  case h_2 hunread =>
    simp only [Inbox.told, Inbox.after, inbox, hunread]
    simp [Receiver.unread]
  case h_3 missed hpositive hunread =>
    cases missed with
    | zero => exact absurd rfl hpositive
    | succ missed =>
      simp only [Inbox.told, Inbox.after, inbox, hunread]
      simp only [Receiver.unread] at hunread ⊢
      exact ⟨trivial, by omega⟩

/-- An action that changes nothing is no event. -/
theorem inbox_of_idle {number : Nat} {receiver : Receiver}
    (h : state.receiver? number = some receiver) {action : Action}
    (hidle : (state.act action).2 = state)
    (hevent : state.event? receiver.channel number action = none) :
    ∃ next, (state.act action).2.receiver? number = some next ∧
      next.channel = receiver.channel ∧
      (state.act action).2.inbox next =
        (state.inbox receiver).afterAll
          (state.event? receiver.channel number action).toList := by
  rw [hidle, hevent]
  exact ⟨receiver, h, rfl, rfl⟩

/-- **What an action does to an inbox.**  A receiver that is not dropped stays on its channel, and
its inbox changes as the event says that it notices, if it notices any. -/
theorem inbox_act (valid : state.Valid) {number : Nat} {receiver : Receiver}
    (h : state.receiver? number = some receiver) {action : Action}
    (hkept : action ≠ .dropReceiver number) :
    ∃ next, (state.act action).2.receiver? number = some next ∧
      next.channel = receiver.channel ∧
      (state.act action).2.inbox next =
        (state.inbox receiver).afterAll (state.event? receiver.channel number action).toList := by
  have hlt := valid.receiver_lt number receiver h
  have hle := valid.passed_le number receiver h
  cases action with
  | new =>
    refine ⟨receiver, h, rfl, ?_⟩
    have hne : state.channels.length ≠ receiver.channel := Nat.ne_of_gt hlt
    simp [act, event?, inbox, channel_append hlt, List.count_append, hne]
  | clone handle =>
    cases hhandle : state.channelOf? handle with
    | none => exact inbox_of_idle h (by simp only [act, hhandle]) (by simp [event?, hhandle])
    | some channel =>
      simp only [act, hhandle, event?]
      refine ⟨receiver, h, rfl, inbox_update hlt (fun heq => ?_) fun hne => ?_⟩
      · simp [Inbox.after, inbox, updateChannel, Receiver.unread, heq]
      · simp [updateChannel, List.count_append, hne]
  | subscribe handle =>
    cases hhandle : state.channelOf? handle with
    | none => exact inbox_of_idle h (by simp only [act, hhandle]) rfl
    | some channel =>
      simp only [act, hhandle]
      exact ⟨receiver, receiver?_append_of_some h _, rfl, rfl⟩
  | trigger handle =>
    cases hhandle : state.channelOf? handle with
    | none => exact inbox_of_idle h (by simp only [act, hhandle]) (by simp [event?, hhandle])
    | some channel =>
      simp only [act, hhandle, event?]
      refine ⟨receiver, h, rfl, inbox_update hlt (fun heq => ?_) fun hne => rfl⟩
      simp only [Inbox.after, inbox, Receiver.unread, Inbox.mk.injEq, heq]
      exact ⟨by omega, trivial⟩
  | dropHandle handle =>
    cases hhandle : state.channelOf? handle with
    | none => exact inbox_of_idle h (by simp only [act, hhandle]) (by simp [event?, hhandle])
    | some channel =>
      simp only [act, hhandle, event?]
      refine ⟨receiver, h, rfl, inbox_update hlt (fun heq => ?_) fun hne => ?_⟩
      · simp [Inbox.after, inbox, updateChannel, Receiver.unread, count_set_none hhandle, heq]
      · simp [updateChannel, count_set_none hhandle, hne]
  | dropReceiver other =>
    have hne : other ≠ number := fun heq => hkept (congrArg Action.dropReceiver heq)
    cases hother : state.receiver? other with
    | none => exact inbox_of_idle h (by simp only [act, hother]) rfl
    | some live =>
      simp only [act, hother]
      exact ⟨receiver, by rw [receiver?_set_of_ne hne, h], rfl, rfl⟩
  | receive other =>
    by_cases heq : other = number
    · subst heq
      obtain ⟨-, hafter⟩ := receive_eq valid h
      obtain ⟨hchannel, -⟩ := Receiver.receive_le hle
      simp only [act, h, event?]
      refine ⟨_, receiver?_set_self h _, hchannel, ?_⟩
      show Inbox.mk _ _ = (state.inbox receiver).after .looked
      rw [hchannel]
      exact congrArg₂ Inbox.mk hafter rfl
    · cases hother : state.receiver? other with
      | none => exact inbox_of_idle h (by simp only [act, hother]) (if_neg heq)
      | some live =>
        simp only [act, hother, event?, if_neg heq]
        exact ⟨receiver, by rw [receiver?_set_of_ne heq, h], rfl, rfl⟩

/-- A receiver is told something only when it looks, and then what its inbox says. -/
theorem receptionsOf_act (valid : state.Valid) {number : Nat} {receiver : Receiver}
    (h : state.receiver? number = some receiver) (action : Action) :
    receptionsOf number [(action, (state.act action).1)] =
      (state.inbox receiver).receptions
        (state.event? receiver.channel number action).toList := by
  have hquiet : ∀ (condition : Prop) [Decidable condition] (event : Event), event ≠ .looked →
      (state.inbox receiver).receptions (if condition then some event else none).toList = [] := by
    intro condition _ event hevent
    by_cases hcondition : condition <;>
      simp [hcondition, Inbox.receptions, Inbox.heard, hevent]
  cases action with
  | new | subscribe _ | dropReceiver _ => rfl
  | clone handle => rw [event?, hquiet _ _ (by decide)]; rfl
  | trigger handle => rw [event?, hquiet _ _ (by decide)]; rfl
  | dropHandle handle => rw [event?, hquiet _ _ (by decide)]; rfl
  | receive other =>
    by_cases heq : other = number
    · subst heq
      simp [act, h, event?, receptionsOf, receive_eq valid h, Inbox.receptions, Inbox.heard]
    · cases hother : state.receiver? other <;>
        simp [act, hother, event?, receptionsOf, heq, Inbox.receptions]

/-! ## Runs -/

/-- **What a run does to an inbox.**  A receiver that is not dropped stays on its channel, its
inbox changes as the events say that it notices, and what it is told follows from these events
alone. -/
theorem inbox_run (valid : state.Valid) {number : Nat} {receiver : Receiver}
    (h : state.receiver? number = some receiver) {actions : List Action}
    (hkept : .dropReceiver number ∉ actions) :
    ∃ next, (state.run actions).2.receiver? number = some next ∧
      next.channel = receiver.channel ∧
      (state.run actions).2.inbox next =
        (state.inbox receiver).afterAll (state.events receiver.channel number actions) ∧
      receptionsOf number (actions.zip (state.run actions).1) =
        (state.inbox receiver).receptions (state.events receiver.channel number actions) := by
  induction actions generalizing state receiver with
  | nil => exact ⟨receiver, h, rfl, rfl, rfl⟩
  | cons action actions ih =>
    rw [List.mem_cons, not_or] at hkept
    obtain ⟨middle, hmiddle, hchannel, hinbox⟩ := inbox_act valid h (Ne.symm hkept.1)
    have hfirst := receptionsOf_act valid h action
    obtain ⟨next, hnext, hsame, hlater, htold⟩ := ih (valid.act action) hmiddle hkept.2
    rw [hchannel] at hlater htold
    refine ⟨next, hnext, hsame.trans hchannel, ?_, ?_⟩
    · rw [events, Inbox.afterAll_append, ← hinbox]
      exact hlater
    · rw [events, Inbox.receptions_append, ← hinbox, ← hfirst, ← htold, receptionsOf,
        receptionsOf, receptionsOf, ← List.filterMap_append]
      rfl

end State

end StopSignal

end EchoBackend
