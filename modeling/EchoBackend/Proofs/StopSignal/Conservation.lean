/-
# No stop signal is lost, invented or leaked

Everything that was sent on a channel since a receiver subscribed is accounted for: it was read,
it was reported as missed, or it is still unread.  What a receiver is told depends only on the
events that it notices, beginning with an empty inbox.  The main statement,
`State.run_receiver`, says this of every live receiver after every run.
-/
import EchoBackend.Proofs.StopSignal.Inbox
import Mathlib.Algebra.GroupWithZero.Nat

namespace EchoBackend

namespace StopSignal

/-- How many messages are reported as missed. -/
def Reception.missed : Reception → Nat
  | lagged missed => missed
  | _ => 0

/-! ## Accounting -/

/-- An event leaves unread what was unread or is sent, except for what it lets the receiver read
or reports as missed. -/
theorem Inbox.unread_after (inbox : Inbox) (event : Event) :
    inbox.unread + [event].count .triggered =
      ((inbox.heard event).map Reception.missed).sum + (inbox.heard event).count .stop +
        (inbox.after event).unread := by
  cases event with
  | triggered => simp [heard, after]
  | cloned => simp [heard, after]
  | dropped => simp [heard, after]
  | looked =>
    obtain ⟨unread, handles⟩ := inbox
    rcases unread with _ | _ | missed
    · by_cases h : handles = 0 <;> simp [heard, told, after, Reception.missed, h]
    · simp [heard, told, after, Reception.missed]
    · simp [heard, told, after, Reception.missed]

/-- **Every message is accounted for**: what was unread and what is sent is reported as missed,
or read, or unread in the end. -/
theorem Inbox.unread_add_count_triggered (inbox : Inbox) (events : List Event) :
    inbox.unread + events.count .triggered =
      ((inbox.receptions events).map Reception.missed).sum +
        (inbox.receptions events).count .stop + (inbox.afterAll events).unread := by
  induction events generalizing inbox with
  | nil => simp [receptions, afterAll]
  | cons event events ih =>
    have hfirst := inbox.unread_after event
    have hrest := ih (inbox.after event)
    have hcount : ([event] ++ events).count .triggered =
        [event].count .triggered + events.count .triggered := List.count_append
    rw [List.singleton_append] at hcount
    have hafter : inbox.afterAll (event :: events) = (inbox.after event).afterAll events := rfl
    rw [receptions, List.map_append, List.sum_append, List.count_append, hcount, hafter]
    omega

/-- A receiver that does not look is not told anything. -/
theorem Inbox.receptions_eq_nil (inbox : Inbox) {events : List Event} (h : .looked ∉ events) :
    inbox.receptions events = [] := by
  induction events generalizing inbox with
  | nil => rfl
  | cons event events ih =>
    rw [List.mem_cons, not_or] at h
    rw [receptions, heard, if_neg (Ne.symm h.1), ih _ h.2, List.append_nil]

/-- What is unread stays unread while nothing is sent and the receiver does not look. -/
theorem Inbox.unread_afterAll (inbox : Inbox) {events : List Event}
    (htriggered : .triggered ∉ events) (hlooked : .looked ∉ events) :
    (inbox.afterAll events).unread = inbox.unread := by
  have haccount := inbox.unread_add_count_triggered events
  rw [inbox.receptions_eq_nil hlooked, List.count_eq_zero.mpr htriggered] at haccount
  simpa using haccount.symm

namespace State

variable {state : State}

/-! ## Lives of receivers -/

/-- A place for a receiver stays empty once the receiver was dropped. -/
theorem getElem?_receivers_act {number : Nat} (h : state.receivers[number]? = some none)
    (action : Action) : (state.act action).2.receivers[number]? = some none := by
  have hlt := (List.getElem?_eq_some_iff.mp h).1
  have hgone : state.receiver? number = none := by rw [receiver?, h]; rfl
  cases action with
  | new => exact h
  | clone handle | trigger handle | dropHandle handle =>
    cases hhandle : state.channelOf? handle <;> simpa only [act, hhandle, updateChannel] using h
  | subscribe handle =>
    cases hhandle : state.channelOf? handle with
    | none => simpa only [act, hhandle] using h
    | some channel =>
      simp only [act, hhandle]
      rw [List.getElem?_append_left hlt, h]
  | dropReceiver other | receive other =>
    cases hother : state.receiver? other with
    | none => simpa only [act, hother] using h
    | some live =>
      have hne : other ≠ number := fun heq => by
        rw [heq, hgone] at hother
        contradiction
      simp only [act, hother]
      rw [List.getElem?_set_ne hne, h]

/-- A place for a receiver that is empty stays empty for good. -/
theorem getElem?_receivers_run {number : Nat} (h : state.receivers[number]? = some none)
    (actions : List Action) : (state.run actions).2.receivers[number]? = some none := by
  induction actions generalizing state with
  | nil => exact h
  | cons action actions ih => exact ih (getElem?_receivers_act h action)

/-- A receiver that is live in the end was not dropped on the way. -/
theorem dropReceiver_not_mem (valid : state.Valid) {number : Nat} {receiver last : Receiver}
    {actions : List Action} (h : state.receiver? number = some receiver)
    (hlast : (state.run actions).2.receiver? number = some last) :
    .dropReceiver number ∉ actions := by
  induction actions generalizing state receiver with
  | nil => exact List.not_mem_nil
  | cons action actions ih =>
    have hkept : action ≠ .dropReceiver number := by
      rintro rfl
      have hgone : (state.act (.dropReceiver number)).2.receivers[number]? = some none := by
        simp only [act, h]
        rw [receiver?, Option.join_eq_some_iff] at h
        exact List.getElem?_set_self (List.getElem?_eq_some_iff.mp h).1
      have hempty := getElem?_receivers_run hgone actions
      rw [run, receiver?, hempty] at hlast
      contradiction
    obtain ⟨next, hnext, -, -⟩ := inbox_act valid h hkept
    rw [List.mem_cons, not_or]
    exact ⟨Ne.symm hkept, ih (valid.act action) hnext hlast⟩

/-- Only a subscription makes a receiver. -/
theorem length_receivers_act (state : State) (action : Action) :
    (state.act action).2.receivers.length = state.receivers.length ∨
      ∃ handle channel, action = .subscribe handle ∧ state.channelOf? handle = some channel ∧
        (state.act action).2.receivers.length = state.receivers.length + 1 := by
  cases action with
  | new => exact Or.inl rfl
  | clone handle | trigger handle | dropHandle handle =>
    left
    cases hhandle : state.channelOf? handle <;> simp only [act, hhandle, updateChannel]
  | subscribe handle =>
    cases hhandle : state.channelOf? handle with
    | none => exact Or.inl (by simp only [act, hhandle])
    | some channel =>
      exact Or.inr ⟨handle, channel, rfl, hhandle, by simp [act, hhandle]⟩
  | dropReceiver other | receive other =>
    left
    cases hother : state.receiver? other <;> simp only [act, hother, List.length_set]

/-- A receiver that is live in the end, but was not made in the beginning, is made on the way. -/
theorem exists_subscribe {number : Nat} {last : Receiver} {actions : List Action}
    (hfresh : state.receivers.length ≤ number)
    (hlast : (state.run actions).2.receiver? number = some last) :
    ∃ before handle later channel, actions = before ++ .subscribe handle :: later ∧
      (state.run before).2.channelOf? handle = some channel ∧
      (state.run before).2.receivers.length = number := by
  induction actions generalizing state with
  | nil =>
    rw [receiver?, Option.join_eq_some_iff] at hlast
    exact absurd (List.getElem?_eq_some_iff.mp hlast).1 (Nat.not_lt_of_le hfresh)
  | cons action actions ih =>
    by_cases hlater : (state.act action).2.receivers.length ≤ number
    · obtain ⟨before, handle, later, channel, rfl, hhandle, hlength⟩ := ih hlater hlast
      exact ⟨action :: before, handle, later, channel, rfl, hhandle, hlength⟩
    · -- The list of receivers grows past the number now, so this is the subscription.
      rcases length_receivers_act state action with hsame | ⟨handle, channel, rfl, hhandle, hgrown⟩
      · omega
      · exact ⟨[], handle, actions, channel, rfl, hhandle, show state.receivers.length = _ by omega⟩

/-- A subscription makes a receiver with an empty inbox. -/
theorem act_subscribe {handle channel : Nat} (h : state.channelOf? handle = some channel) :
    (state.act (.subscribe handle)).1 = .newReceiver state.receivers.length ∧
      ∃ receiver, (state.act (.subscribe handle)).2.receiver? state.receivers.length =
          some receiver ∧
        receiver.channel = channel ∧
        (state.act (.subscribe handle)).2.inbox receiver =
          ⟨0, state.handles.count (some channel)⟩ := by
  simp only [act, h]
  refine ⟨trivial, ⟨channel, (state.channel channel).sent⟩, ?_, rfl, ?_⟩
  · rw [receiver?, List.getElem?_concat_length]
    rfl
  · exact congrArg₂ Inbox.mk (Nat.sub_self _) rfl

/-! ## What a receiver is told -/

/-- A look is answered with what the inbox says. -/
theorem act_receive (valid : state.Valid) {number : Nat} {receiver : Receiver}
    (h : state.receiver? number = some receiver) :
    (state.act (.receive number)).1 = .received (state.inbox receiver).told := by
  simp only [act, h]
  rw [(receive_eq valid h).1]

/-- A look that finds nothing changes nothing. -/
theorem act_receive_of_none {number : Nat} {receiver : Receiver}
    (h : state.receiver? number = some receiver) (hunread : (state.inbox receiver).unread = 0) :
    (state.act (.receive number)).2 = state := by
  have hself : (receiver.receive (state.channel receiver.channel)).2 = receiver := by
    unfold Receiver.receive
    rw [show receiver.unread (state.channel receiver.channel) = 0 from hunread]
  have hplace : state.receivers.set number (some receiver) = state.receivers := by
    rw [receiver?, Option.join_eq_some_iff] at h
    obtain ⟨hlt, hget⟩ := List.getElem?_eq_some_iff.mp h
    rw [← hget, List.set_getElem_self]
  simp only [act, h]
  rw [hself, hplace]

/-- How a live receiver finds its channel, whatever it does next. -/
structure Finds (state : State) (number : Nat) (receiver : Receiver) : Prop where
  /-- Nothing is unread and every handle is gone: it is told that nothing can come. -/
  closed : receiver.unread (state.channel receiver.channel) = 0 →
    (∀ handle, state.channelOf? handle ≠ some receiver.channel) →
      (state.act (.receive number)).1 = .received .closed
  /-- Nothing is unread and there are handles: it is told that nothing came. -/
  empty : receiver.unread (state.channel receiver.channel) = 0 →
    (∃ handle, state.channelOf? handle = some receiver.channel) →
      (state.act (.receive number)).1 = .received .empty
  /-- One message is unread: it gets that message, handles or not. -/
  stop : receiver.unread (state.channel receiver.channel) = 1 →
    (state.act (.receive number)).1 = .received .stop
  /-- Several are unread: it is told how many it missed, and next time it gets the newest,
  unless more come in between. -/
  lagged : ∀ missed ≥ 1, receiver.unread (state.channel receiver.channel) = missed + 1 →
    (state.act (.receive number)).1 = .received (.lagged missed) ∧
      ∀ between, .dropReceiver number ∉ between →
        let next := (state.act (.receive number)).2
        .triggered ∉ next.events receiver.channel number between →
          .looked ∉ next.events receiver.channel number between →
            ((next.run between).2.act (.receive number)).1 = .received .stop
  /-- What it does not notice changes neither what is unread nor what it is told. -/
  unnoticed : ∀ action, state.event? receiver.channel number action = none →
    action ≠ .dropReceiver number →
      let next := (state.act action).2
      ∃ same, next.receiver? number = some same ∧
        same.unread (next.channel same.channel) =
          receiver.unread (state.channel receiver.channel) ∧
        (next.act (.receive number)).1 = (state.act (.receive number)).1

/-- A live receiver finds its channel so in every valid state. -/
theorem finds_of_valid (valid : state.Valid) {number : Nat} {receiver : Receiver}
    (h : state.receiver? number = some receiver) : Finds state number receiver where
  closed hunread hgone := by
    have hcount : state.handles.count (some receiver.channel) = 0 :=
      List.count_eq_zero.mpr fun hmem => by
        obtain ⟨handle, hhandle⟩ := mem_handles_iff.mp hmem
        exact hgone handle hhandle
    rw [act_receive valid h, inbox, hunread, hcount]
    rfl
  empty hunread hlive := by
    have hcount : state.handles.count (some receiver.channel) ≠ 0 := fun hzero =>
      List.count_eq_zero.mp hzero (mem_handles_iff.mpr hlive)
    rw [act_receive valid h, inbox, hunread, Inbox.told, if_neg hcount]
  stop hunread := by
    rw [act_receive valid h, inbox, hunread]
    rfl
  lagged missed hmissed hunread := by
    obtain ⟨more, rfl⟩ := Nat.exists_eq_add_of_le' hmissed
    have hkept : Action.receive number ≠ .dropReceiver number := by simp
    refine ⟨by rw [act_receive valid h, inbox, hunread]; rfl, ?_⟩
    intro between hbetween next htriggered hlooked
    -- The look leaves the newest message, and nothing in between touches it.
    obtain ⟨after, hafter, hchannel, hinbox⟩ := inbox_act valid h hkept
    have hvalid := valid.act (.receive number)
    have hone : (next.inbox after).unread = 1 := by
      rw [hinbox, event?, if_pos rfl]
      show min (receiver.unread (state.channel receiver.channel) - 1) 1 = 1
      rw [hunread]
      omega
    obtain ⟨last, hlast, -, hlater, -⟩ := inbox_run hvalid hafter hbetween
    rw [hchannel] at hlater
    have hkeep := (next.inbox after).unread_afterAll htriggered hlooked
    rw [act_receive (hvalid.run between) hlast, hlater, Inbox.told, hkeep, hone]
  unnoticed action hevent hkept := by
    intro next
    obtain ⟨same, hsame, -, hinbox⟩ := inbox_act valid h hkept
    rw [hevent] at hinbox
    refine ⟨same, hsame, congrArg Inbox.unread hinbox, ?_⟩
    rw [act_receive (valid.act action) hsame, act_receive valid h, hinbox]
    rfl

/-- **No stop signal is lost, invented or leaked.**  After every run, each live receiver was made
by a subscription to its channel.  What it was told since follows from the events that it noticed
since, beginning with an empty inbox; and what was sent on its channel since, through whatever
handle, is the sum of what was reported as missed, what was read and what is unread. -/
theorem run_receiver (actions : List Action) {number : Nat} {receiver : Receiver}
    (hlive : (initial.run actions).2.receiver? number = some receiver) :
    let state := (initial.run actions).2
    Finds state number receiver ∧
      ∃ before handle later, actions = before ++ .subscribe handle :: later ∧
        let start := (initial.run before).2
        let subscribed := start.act (.subscribe handle)
        let events := subscribed.2.events receiver.channel number later
        let told := receptionsOf number (later.zip (subscribed.2.run later).1)
        start.channelOf? handle = some receiver.channel ∧
          subscribed.1 = .newReceiver number ∧
          told = Inbox.receptions ⟨0, start.handles.count (some receiver.channel)⟩ events ∧
          events.count .triggered =
            (told.map Reception.missed).sum + told.count .stop +
              receiver.unread (state.channel receiver.channel) := by
  intro state
  refine ⟨finds_of_valid (valid_initial.run actions) hlive, ?_⟩
  obtain ⟨before, handle, later, channel, rfl, hhandle, hnumber⟩ :=
    exists_subscribe (Nat.zero_le number) hlive
  obtain ⟨hanswer, first, hfirst, hchannel, hempty⟩ := act_subscribe hhandle
  have hvalid := (valid_initial.run before).act (.subscribe handle)
  rw [hnumber] at hanswer hfirst
  have hstate : state = (((initial.run before).2.act (.subscribe handle)).2.run later).2 := by
    show (initial.run (before ++ _)).2 = _
    rw [run_append]
    rfl
  change state.receiver? number = some receiver at hlive
  rw [hstate] at hlive
  have hkept := dropReceiver_not_mem hvalid hfirst hlive
  obtain ⟨last, hlast, hsame, hinbox, htold⟩ := inbox_run hvalid hfirst hkept
  obtain rfl : last = receiver := Option.some.inj (hlast.symm.trans hlive)
  rw [hempty, hchannel] at hinbox htold
  rw [hchannel] at hsame
  refine ⟨before, handle, later, rfl, ?_⟩
  intro start subscribed events told
  subst hsame
  refine ⟨hhandle, hanswer, htold, ?_⟩
  have haccount :=
    Inbox.unread_add_count_triggered ⟨0, start.handles.count (some last.channel)⟩ events
  rw [← hinbox, ← htold, Nat.zero_add, ← hstate] at haccount
  exact haccount

/-- The accounting at work: of three messages on its channel a receiver is told that it missed two,
while a message from before it subscribed and one on another channel do not concern it. -/
theorem run_receiver_overtaken :
    let actions : List Action :=
      [.trigger 0, .subscribe 0, .clone 0, .trigger 1, .trigger 0, .new, .trigger 2, .trigger 1,
        .dropHandle 0, .dropHandle 1, .receive 0]
    let receiver : Receiver := ⟨0, 3⟩
    (initial.run actions).2.receiver? 0 = some receiver ∧
      (initial.run actions).1.getLast? = some (.received (.lagged 2)) ∧
      Finds (initial.run actions).2 0 receiver ∧
      ((initial.run actions).2.act (.receive 0)).1 = .received .stop := by
  intro actions receiver
  have hlive : (initial.run actions).2.receiver? 0 = some receiver := by decide
  obtain ⟨hfinds, -⟩ := run_receiver actions hlive
  exact ⟨hlive, by decide, hfinds, hfinds.stop (by decide)⟩

end State

end StopSignal

end EchoBackend
