/-
# Valid states of the stop signal

What holds of every state that handles and receivers are ever in: a channel knows how many
handles it has, handles and receivers belong to channels that exist, and no receiver is ahead of
its channel.  The main statement, `State.Valid.act`, says that every action keeps a state valid.
-/
import EchoBackend.StopSignal
import Mathlib.Data.List.Basic

namespace EchoBackend

namespace StopSignal

/-- A receiver that has looked is on the same channel, and not ahead of it. -/
theorem Receiver.receive_le {receiver : Receiver} {channel : Channel}
    (h : receiver.passed ≤ channel.sent) :
    (receiver.receive channel).2.channel = receiver.channel ∧
      (receiver.receive channel).2.passed ≤ channel.sent := by
  unfold receive
  split
  · exact ⟨rfl, h⟩
  · exact ⟨rfl, Nat.le_refl _⟩
  · exact ⟨rfl, Nat.sub_le _ _⟩

namespace State

/-- What holds of every state that is ever reached. -/
structure Valid (state : State) : Prop where
  /-- A channel knows how many handles it has. -/
  openHandles : ∀ number < state.channels.length,
    (state.channel number).openHandles = state.handles.count (some number)
  /-- Handles belong to channels that exist. -/
  handle_lt : ∀ number, some number ∈ state.handles → number < state.channels.length
  /-- Receivers belong to channels that exist. -/
  receiver_lt : ∀ number receiver, state.receiver? number = some receiver →
    receiver.channel < state.channels.length
  /-- No receiver is ahead of its channel. -/
  passed_le : ∀ number receiver, state.receiver? number = some receiver →
    receiver.passed ≤ (state.channel receiver.channel).sent

variable {state : State}

/-- The first state is valid. -/
theorem valid_initial : initial.Valid where
  openHandles number h := by
    simp only [initial, List.length_singleton, Nat.lt_one_iff] at h
    subst h
    rfl
  handle_lt number h := by
    simp only [initial, List.mem_singleton, Option.some.injEq] at h
    simp [initial, h]
  receiver_lt number receiver h := by simp [initial, receiver?] at h
  passed_le number receiver h := by simp [initial, receiver?] at h

/-- A live handle is one of the handles. -/
theorem mem_handles_of_channelOf? {handle number : Nat}
    (h : state.channelOf? handle = some number) : some number ∈ state.handles := by
  rw [channelOf?, Option.join_eq_some_iff] at h
  exact List.mem_of_getElem? h

/-- A channel has a live handle exactly if it is that of one. -/
theorem mem_handles_iff {number : Nat} :
    some number ∈ state.handles ↔ ∃ handle, state.channelOf? handle = some number := by
  simp only [channelOf?, Option.join_eq_some_iff]
  exact List.mem_iff_getElem?

/-! ## Changes of the state -/

/-- A new channel leaves the others as they are. -/
theorem channel_append {number : Nat} (h : number < state.channels.length) (channel : Channel)
    (handles : List (Option Nat)) :
    State.channel ⟨state.channels ++ [channel], handles, state.receivers⟩ number =
      state.channel number := by
  simp only [State.channel, List.getElem?_append_left h]

/-- A changed channel is changed. -/
theorem channel_updateChannel_self {number : Nat} (h : number < state.channels.length)
    (change : Channel → Channel) :
    (state.updateChannel number change).channel number = change (state.channel number) := by
  simp [State.channel, updateChannel, List.getElem?_eq_getElem h]

/-- A changed channel leaves the others as they are. -/
theorem channel_updateChannel_of_ne {number other : Nat} (h : number ≠ other)
    (change : Channel → Channel) :
    (state.updateChannel number change).channel other = state.channel other := by
  simp [State.channel, updateChannel, h]

/-- A handle that is dropped is gone from its channel, and from no other. -/
theorem count_set_none {handle number : Nat} (h : state.channelOf? handle = some number)
    (other : Nat) :
    (state.handles.set handle none).count (some other) =
      state.handles.count (some other) - if number = other then 1 else 0 := by
  rw [channelOf?, Option.join_eq_some_iff] at h
  obtain ⟨hlt, hget⟩ := List.getElem?_eq_some_iff.mp h
  rw [List.count_set hlt, hget]
  simp

/-- A receiver that is put in a live one's place is found there. -/
theorem receiver?_set_self {number : Nat} {receiver : Receiver}
    (h : state.receiver? number = some receiver) (next : Option Receiver) :
    State.receiver? { state with receivers := state.receivers.set number next } number = next := by
  rw [receiver?, Option.join_eq_some_iff] at h
  rw [receiver?, List.getElem?_set_self (List.getElem?_eq_some_iff.mp h).1]
  rfl

/-- A receiver that is put in another's place changes nothing elsewhere. -/
theorem receiver?_set_of_ne {number other : Nat} (h : number ≠ other) (next : Option Receiver) :
    State.receiver? { state with receivers := state.receivers.set number next } other =
      state.receiver? other := by
  rw [receiver?, receiver?, List.getElem?_set_ne h]

/-- A new receiver leaves the others as they are. -/
theorem receiver?_append_of_some {number : Nat} {receiver : Receiver}
    (h : state.receiver? number = some receiver) (new : Option Receiver) :
    State.receiver? { state with receivers := state.receivers ++ [new] } number =
      some receiver := by
  rw [receiver?, Option.join_eq_some_iff] at h
  rw [receiver?, List.getElem?_append_left (List.getElem?_eq_some_iff.mp h).1, h]
  rfl

/-- Whoever is found after a new receiver was added was there before, or is the new one. -/
theorem receiver?_append_cases {number : Nat} {receiver : Receiver} {new : Option Receiver}
    (h : State.receiver? { state with receivers := state.receivers ++ [new] } number =
      some receiver) :
    state.receiver? number = some receiver ∨
      number = state.receivers.length ∧ new = some receiver := by
  rw [receiver?, Option.join_eq_some_iff] at h
  rcases Nat.lt_trichotomy number state.receivers.length with hlt | heq | hgt
  · rw [List.getElem?_append_left hlt] at h
    exact Or.inl (by rw [receiver?, h]; rfl)
  · rw [heq, List.getElem?_concat_length] at h
    exact Or.inr ⟨heq, Option.some.inj h⟩
  · rw [List.getElem?_eq_none (by simpa using Nat.succ_le_of_lt hgt)] at h
    contradiction

/-! ## Validity is kept -/

/-- A new channel with its handle keeps a state valid. -/
theorem Valid.new (valid : state.Valid) : (state.act .new).2.Valid where
  openHandles number h := by
    simp only [act, List.length_append, List.length_singleton] at h
    rw [act, List.count_append]
    rcases Nat.lt_or_eq_of_le (Nat.le_of_lt_succ h) with hold | hnew
    · have hne : state.channels.length ≠ number := Nat.ne_of_gt hold
      rw [channel_append hold, valid.openHandles number hold]
      simp [hne]
    · have hfresh : some number ∉ state.handles := fun hmem =>
        absurd (valid.handle_lt number hmem) (by omega)
      subst hnew
      simp [channel, List.count_eq_zero.mpr hfresh]
  handle_lt number h := by
    simp only [act, List.mem_append, List.mem_singleton, Option.some.injEq,
      List.length_append, List.length_singleton] at h ⊢
    rcases h with hold | hnew
    · exact Nat.lt_succ_of_lt (valid.handle_lt number hold)
    · omega
  receiver_lt number receiver h := by
    have := valid.receiver_lt number receiver h
    simp only [act, List.length_append]
    omega
  passed_le number receiver h := by
    rw [act, channel_append (valid.receiver_lt number receiver h)]
    exact valid.passed_le number receiver h

/-- A change of one channel and of its handles keeps a state valid, provided that the channel
knows of it and forgets no message. -/
theorem Valid.handles (valid : state.Valid) {number : Nat} {change : Channel → Channel}
    {handles : List (Option Nat)} (hnumber : some number ∈ state.handles)
    (hopen : (change (state.channel number)).openHandles = handles.count (some number))
    (hsent : (state.channel number).sent ≤ (change (state.channel number)).sent)
    (hother : ∀ other ≠ number, handles.count (some other) = state.handles.count (some other)) :
    State.Valid { state.updateChannel number change with handles := handles } where
  openHandles other h := by
    simp only [updateChannel, List.length_modify] at h
    show ((state.updateChannel number change).channel other).openHandles = _
    by_cases heq : number = other
    · subst heq
      rw [channel_updateChannel_self h]
      exact hopen
    · rw [channel_updateChannel_of_ne heq, valid.openHandles other h]
      exact (hother other (Ne.symm heq)).symm
  handle_lt other h := by
    simp only [updateChannel, List.length_modify]
    apply valid.handle_lt
    by_cases heq : other = number
    · rw [heq]
      exact hnumber
    · rw [← List.count_pos_iff] at h ⊢
      exact hother other heq ▸ h
  receiver_lt other receiver h := by
    simp only [updateChannel, List.length_modify]
    exact valid.receiver_lt other receiver h
  passed_le other receiver h := by
    have hle := valid.passed_le other receiver h
    show receiver.passed ≤ ((state.updateChannel number change).channel receiver.channel).sent
    by_cases heq : number = receiver.channel
    · subst heq
      rw [channel_updateChannel_self (valid.receiver_lt other receiver h)]
      exact Nat.le_trans hle hsent
    · rw [channel_updateChannel_of_ne heq]
      exact hle

/-- A change of the receivers keeps a state valid, provided that each is where it may be. -/
theorem Valid.receivers (valid : state.Valid) {receivers : List (Option Receiver)}
    (h : ∀ (number : Nat) (receiver : Receiver),
      State.receiver? { state with receivers := receivers } number = some receiver →
        receiver.channel < state.channels.length ∧
          receiver.passed ≤ (state.channel receiver.channel).sent) :
    State.Valid { state with receivers := receivers } where
  openHandles := valid.openHandles
  handle_lt := valid.handle_lt
  receiver_lt number receiver hlive := (h number receiver hlive).1
  passed_le number receiver hlive := (h number receiver hlive).2

/-- **Every action keeps a state valid.** -/
theorem Valid.act (valid : state.Valid) (action : Action) : (state.act action).2.Valid := by
  cases action with
  | new => exact valid.new
  | clone handle =>
    cases h : state.channelOf? handle with
    | none => simpa only [State.act, h] using valid
    | some number =>
      simp only [State.act, h]
      have hmem := mem_handles_of_channelOf? h
      refine valid.handles hmem ?_ (Nat.le_refl _) fun other hother => ?_
      · simp [valid.openHandles number (valid.handle_lt number hmem), updateChannel]
      · simp [updateChannel, List.count_append, hother.symm]
  | subscribe handle =>
    cases h : state.channelOf? handle with
    | none => simpa only [State.act, h] using valid
    | some number =>
      simp only [State.act, h]
      refine valid.receivers fun other receiver hreceiver => ?_
      rcases receiver?_append_cases hreceiver with hold | ⟨-, hnew⟩
      · exact ⟨valid.receiver_lt other receiver hold, valid.passed_le other receiver hold⟩
      · injection hnew with hnew
        subst hnew
        exact ⟨valid.handle_lt number (mem_handles_of_channelOf? h), Nat.le_refl _⟩
  | trigger handle =>
    cases h : state.channelOf? handle with
    | none => simpa only [State.act, h] using valid
    | some number =>
      simp only [State.act, h]
      have hmem := mem_handles_of_channelOf? h
      refine valid.handles hmem ?_ (Nat.le_succ _) fun other hother => rfl
      exact valid.openHandles number (valid.handle_lt number hmem)
  | dropHandle handle =>
    cases h : state.channelOf? handle with
    | none => simpa only [State.act, h] using valid
    | some number =>
      simp only [State.act, h]
      have hmem := mem_handles_of_channelOf? h
      refine valid.handles hmem ?_ (Nat.le_refl _) fun other hother => ?_
      · simp [valid.openHandles number (valid.handle_lt number hmem), updateChannel,
          count_set_none h]
      · simp [updateChannel, count_set_none h, hother.symm]
  | dropReceiver number =>
    cases h : state.receiver? number with
    | none => simpa only [State.act, h] using valid
    | some receiver =>
      simp only [State.act, h]
      refine valid.receivers fun other live hlive => ?_
      by_cases heq : number = other
      · rw [← heq, receiver?_set_self h] at hlive
        contradiction
      · rw [receiver?_set_of_ne heq] at hlive
        exact ⟨valid.receiver_lt other live hlive, valid.passed_le other live hlive⟩
  | receive number =>
    cases h : state.receiver? number with
    | none => simpa only [State.act, h] using valid
    | some receiver =>
      simp only [State.act, h]
      refine valid.receivers fun other live hlive => ?_
      by_cases heq : number = other
      · rw [← heq, receiver?_set_self h] at hlive
        injection hlive with hlive
        obtain ⟨hchannel, hpassed⟩ := Receiver.receive_le (valid.passed_le number receiver h)
        rw [← hlive, hchannel]
        exact ⟨valid.receiver_lt number receiver h, hpassed⟩
      · rw [receiver?_set_of_ne heq] at hlive
        exact ⟨valid.receiver_lt other live hlive, valid.passed_le other live hlive⟩

/-! ## Runs -/

/-- A run through two lists of actions is a run through the second after a run through the
first. -/
theorem run_append (state : State) (actions more : List Action) :
    state.run (actions ++ more) =
      ((state.run actions).1 ++ ((state.run actions).2.run more).1,
        ((state.run actions).2.run more).2) := by
  induction actions generalizing state with
  | nil => rfl
  | cons action actions ih => simp only [List.cons_append, run, ih]

/-- Every state that is reached from a valid one is valid. -/
theorem Valid.run (valid : state.Valid) (actions : List Action) : (state.run actions).2.Valid := by
  induction actions generalizing state with
  | nil => exact valid
  | cons action actions ih => exact ih (valid.act action)

end State

end StopSignal

end EchoBackend
