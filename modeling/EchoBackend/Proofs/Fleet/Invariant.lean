/-
# What holds of every fleet

Between picking a port and taking it, an instance may lose the port to anybody else; what keeps
instances apart is the table of held ports alone.  The main statements are `step_act`, which
lists everything that an action can do, and `Sound.run`: on every run the live instances
hold different addresses, each one of its own host under the name of its port, and no other
program holds any of these.
-/
import EchoBackend.Fleet
import EchoBackend.Proofs.Startup.Picking

namespace EchoBackend

namespace Member

/-- What is known of an instance by itself. -/
structure Sound (member : Member) : Prop where
  /-- A target that it picked carries the name of its port, and its host is a loopback address. -/
  target : ∀ target, member.target = some target → target = Target.ofPort target.port ∧
    target.port ≠ 0 ∧ member.settings.host.isLoopback = true
  /-- It holds an address of its host, under the name of the port. -/
  listener : ∀ listener, member.listener = some listener →
    listener.address.host = member.settings.host ∧ listener.address.port ≠ 0 ∧
      listener.identity = Identity.ofPort listener.address.port

/-- What is held after an instance gave free what it held. -/
theorem mem_held_withdraw {member : Member} {table : PortTable} {address : SocketAddress} :
    address ∈ (member.withdraw table).held ↔
      address ∈ table.held ∧ ∀ old, member.listener = some old → old.address ≠ address := by
  unfold withdraw
  cases member.listener with
  | none => simp
  | some listener => simp [PortTable.mem_held_release, eq_comm]

end Member

/-- An address that can be taken is not held. -/
theorem PortTable.not_mem_held {table : PortTable} {address : SocketAddress}
    (hfree : table.refusal? address = none) (hport : address.port ≠ 0) :
    address ∉ table.held := by
  intro hmem
  rcases (refusal?_eq_none_iff.mp hfree).2 with hzero | hall
  · exact hport hzero
  · have hself := hall address hmem
    rw [address.excludes_self] at hself
    contradiction

namespace Fleet

/-! ## Everything that an action can do -/

/-- Whether an answer says that nothing was done. -/
def Answer.isQuiet : Answer → Bool
  | .idle | .failed _ | .refused _ => true
  | _ => false

/-- What an action can answer, and what it makes of a fleet. -/
inductive Step (fleet : Fleet) : Action → Answer → Fleet → Prop
  /-- Nothing is done. -/
  | quiet {action : Action} {answer : Answer} (h : answer.isQuiet = true) :
    Step fleet action answer fleet
  /-- A member picks a port; no address is held more or less. -/
  | prepared {number : Nat} {member : Member} {target : Target}
    (hmember : fleet.members[number]? = some member)
    (htarget : Startup.prepare fleet.table member.settings = .ok target) :
    Step fleet (.prepare number) (.prepared target)
      (fleet.update number { member with target := some target } fleet.table)
  /-- A member takes the address that it picked, and gives free the one that it had. -/
  | bound {number : Nat} {member : Member} {target : Target}
    (hmember : fleet.members[number]? = some member) (htarget : member.target = some target)
    (hfree : fleet.table.refusal? ⟨member.settings.host, target.port⟩ = none) :
    Step fleet (.bind number) (.bound ⟨member.settings.host, target.port⟩)
      (fleet.update number
        { member with
          listener := some ⟨⟨member.settings.host, target.port⟩, target.identity⟩ }
        (member.withdraw ⟨⟨member.settings.host, target.port⟩ :: fleet.table.held⟩))
  /-- A member gives its address free. -/
  | stopped {number : Nat} {member : Member} (hmember : fleet.members[number]? = some member) :
    Step fleet (.stop number) .stopped
      (fleet.update number { member with listener := none } (member.withdraw fleet.table))
  /-- Another program takes an address. -/
  | held {address : SocketAddress} (hfree : fleet.table.refusal? address = none) :
    Step fleet (.hold address) .held
      { fleet with
        outside := address :: fleet.outside
        table := ⟨address :: fleet.table.held⟩ }
  /-- Another program gives an address free that it had. -/
  | released {address : SocketAddress} (hheld : address ∈ fleet.outside) :
    Step fleet (.release address) .released
      { fleet with
        outside := fleet.outside.filter (· != address)
        table := fleet.table.release address }

variable {fleet : Fleet}

/-- What comes of an attempt to take the port that was picked. -/
theorem bind_eq (fleet : Fleet) (number : Nat) {member : Member} {target : Target}
    (htarget : member.target = some target) :
    fleet.bind number member =
      let address : SocketAddress := ⟨member.settings.host, target.port⟩
      match fleet.table.refusal? address with
      | some cause => (.failed (.bind address cause), fleet)
      | none =>
        (.bound address,
          fleet.update number { member with listener := some ⟨address, target.identity⟩ }
            (member.withdraw ⟨address :: fleet.table.held⟩)) := by
  unfold bind Startup.bind PortTable.bind
  rw [htarget]
  dsimp only
  cases fleet.table.refusal? ⟨member.settings.host, target.port⟩ <;> rfl

/-- **Everything that an action can do.** -/
theorem step_act (fleet : Fleet) (action : Action) :
    Step fleet action (fleet.act action).1 (fleet.act action).2 := by
  cases action with
  | prepare number =>
    rw [act]
    cases hmember : fleet.members[number]? with
    | none => exact .quiet rfl
    | some member =>
      dsimp only
      rw [prepare]
      cases htarget : Startup.prepare fleet.table member.settings with
      | error failure => exact .quiet rfl
      | ok target => exact .prepared hmember htarget
  | bind number =>
    rw [act]
    cases hmember : fleet.members[number]? with
    | none => exact .quiet rfl
    | some member =>
      dsimp only
      cases htarget : member.target with
      | none =>
        rw [bind, htarget]
        exact .quiet rfl
      | some target =>
        rw [bind_eq fleet number htarget]
        dsimp only
        cases hfree : fleet.table.refusal? ⟨member.settings.host, target.port⟩ with
        | some cause => exact .quiet rfl
        | none => exact .bound hmember htarget hfree
  | stop number =>
    rw [act]
    cases hmember : fleet.members[number]? with
    | none => exact .quiet rfl
    | some member =>
      dsimp only
      rw [stop]
      split
      · exact .quiet rfl
      · exact .stopped hmember
  | hold address =>
    rw [act, PortTable.bind]
    cases hfree : fleet.table.refusal? address with
    | some cause => exact .quiet rfl
    | none => exact .held hfree
  | release address =>
    rw [act]
    split
    case isTrue hheld => exact .released (by simpa using hheld)
    case isFalse => exact .quiet rfl

/-! ## Members after an action -/

variable {number : Nat} {member next : Member} {table : PortTable} {action : Action}
  {answer : Answer} {after : Fleet}

/-- Putting a member in place changes that place alone. -/
theorem getElem?_update (hmember : fleet.members[number]? = some member) (other : Nat) :
    (fleet.update number next table).members[other]? =
      if number = other then some next else fleet.members[other]? := by
  rw [update, List.getElem?_set, if_pos (List.getElem?_eq_some_iff.mp hmember).1]

/-- What a member holds is what the fleet says that it holds. -/
theorem listener?_eq (hmember : fleet.members[number]? = some member) :
    fleet.listener? number = member.listener := by
  rw [listener?, hmember]
  rfl

/-- What a member holds once a member was put in place. -/
theorem listener?_update (hmember : fleet.members[number]? = some member) (other : Nat) :
    (fleet.update number next table).listener? other =
      if number = other then next.listener else fleet.listener? other := by
  rw [listener?, getElem?_update hmember]
  split <;> rfl

/-- A member keeps its settings when it is put in place, so all settings stay. -/
theorem settings_update (hmember : fleet.members[number]? = some member)
    (hsame : next.settings = member.settings) (other : Nat) :
    (fleet.update number next table).members[other]?.map Member.settings =
      fleet.members[other]?.map Member.settings := by
  rw [getElem?_update hmember]
  split
  case isTrue heq =>
    subst heq
    rw [hmember, Option.map_some, Option.map_some, hsame]
  case isFalse => rfl

/-- No action changes any settings. -/
theorem Step.settings (h : Step fleet action answer after) (other : Nat) :
    after.members[other]?.map Member.settings = fleet.members[other]?.map Member.settings := by
  cases h with
  | quiet _ => rfl
  | prepared hmember _ => exact settings_update hmember (by rfl) other
  | bound hmember _ _ => exact settings_update hmember (by rfl) other
  | stopped hmember => exact settings_update hmember (by rfl) other
  | held _ => rfl
  | released _ => rfl

/-- The settings are those from the beginning. -/
theorem settings_run (fleet : Fleet) (actions : List Action) (other : Nat) :
    (fleet.run actions).2.members[other]?.map Member.settings =
      fleet.members[other]?.map Member.settings := by
  induction actions generalizing fleet with
  | nil => rfl
  | cons action actions ih => exact (ih _).trans ((step_act fleet action).settings other)

/-- What a member holds changes only if that member takes a port or stops. -/
theorem Step.listener? (h : Step fleet action answer after) (hbind : action ≠ .bind number)
    (hstop : action ≠ .stop number) : after.listener? number = fleet.listener? number := by
  cases h with
  | quiet _ => rfl
  | prepared hmember _ =>
    rw [listener?_update hmember]
    split
    case isTrue heq =>
      subst heq
      rw [listener?_eq hmember]
    case isFalse => rfl
  | bound hmember _ _ =>
    rw [listener?_update hmember, if_neg fun heq => hbind (congrArg Action.bind heq)]
  | stopped hmember =>
    rw [listener?_update hmember, if_neg fun heq => hstop (congrArg Action.stop heq)]
  | held _ => rfl
  | released _ => rfl

/-! ## Sound fleets -/

/-- What holds of every fleet that is ever reached. -/
structure Sound (fleet : Fleet) : Prop where
  /-- Each member by itself is sound. -/
  member : ∀ (number : Nat) (member : Member), fleet.members[number]? = some member → member.Sound
  /-- The table knows what members hold. -/
  held : ∀ number listener, fleet.listener? number = some listener →
    listener.address ∈ fleet.table.held
  /-- No two members hold the same address. -/
  apart : ∀ number other x y, fleet.listener? number = some x → fleet.listener? other = some y →
    number ≠ other → x.address ≠ y.address
  /-- The table knows what other programs hold, and that is nothing that a member holds. -/
  outside : ∀ address ∈ fleet.outside, address ∈ fleet.table.held ∧
    ∀ number listener, fleet.listener? number = some listener → listener.address ≠ address

/-- In the beginning, no member holds anything. -/
theorem listener?_initial (settings : List Settings) (number : Nat) :
    (initial settings).listener? number = none := by
  rw [listener?, initial, List.getElem?_map]
  cases settings[number]? <;> rfl

/-- The fleet of the beginning is sound. -/
theorem sound_initial (settings : List Settings) : (initial settings).Sound where
  member number member h := by
    rw [initial, List.getElem?_map, Option.map_eq_some_iff] at h
    obtain ⟨chosen, -, rfl⟩ := h
    exact ⟨nofun, nofun⟩
  held number listener h := by simp [listener?_initial] at h
  apart number other x y h := by simp [listener?_initial] at h
  outside address h := by simp [initial] at h

namespace Sound

/-- What is known of what a member holds. -/
theorem listener (h : fleet.Sound) {listener : Listener}
    (hlistener : fleet.listener? number = some listener) :
    fleet.members[number]?.map (·.settings.host) = some listener.address.host ∧
      listener.address.port ≠ 0 ∧
      listener.identity = Identity.ofPort listener.address.port := by
  obtain ⟨member, hmember, hown⟩ := Option.bind_eq_some_iff.mp hlistener
  obtain ⟨hhost, hport, hname⟩ := (h.member number member hmember).listener listener hown
  rw [hmember]
  exact ⟨congrArg some hhost.symm, hport, hname⟩

/-- A fleet stays sound when a sound member is put in place, as long as only what it gave free
leaves the table, and it holds what it held before or what nobody held. -/
theorem update (h : fleet.Sound) (hmember : fleet.members[number]? = some member)
    (hnext : next.Sound)
    (hkept : ∀ address ∈ fleet.table.held,
      (∀ old, member.listener = some old → old.address ≠ address) → address ∈ table.held)
    (hown : ∀ listener, next.listener = some listener → listener.address ∈ table.held ∧
      (member.listener = some listener ∨ listener.address ∉ fleet.table.held)) :
    (fleet.update number next table).Sound := by
  have hlistener := listener?_eq hmember
  -- Nobody else holds what the member comes to hold.
  have hothers : ∀ other x y, number ≠ other → next.listener = some x →
      fleet.listener? other = some y → x.address ≠ y.address := by
    intro other x y hne hx hy
    rcases (hown x hx).2 with hsame | hnew
    · exact h.apart number other x y (hlistener.trans hsame) hy hne
    · exact fun heq => hnew (heq ▸ h.held other y hy)
  constructor
  case member =>
    intro other found hfound
    rw [getElem?_update hmember] at hfound
    split at hfound
    case isTrue => exact Option.some.inj hfound ▸ hnext
    case isFalse => exact h.member other found hfound
  case held =>
    intro other listener hother
    rw [listener?_update hmember] at hother
    split at hother
    case isTrue => exact (hown listener hother).1
    case isFalse hne =>
      exact hkept _ (h.held other listener hother) fun old hold =>
        h.apart number other old listener (hlistener.trans hold) hother hne
  case apart =>
    intro one other x y hx hy hne
    rw [listener?_update hmember] at hx hy
    split at hx <;> split at hy
    case isTrue.isTrue heq heq' => exact absurd (heq.symm.trans heq') hne
    case isTrue.isFalse hother => exact hothers other x y hother hx hy
    case isFalse.isTrue hother _ => exact (hothers one y x hother hy hx).symm
    case isFalse.isFalse => exact h.apart one other x y hx hy hne
  case outside =>
    intro address haddress
    obtain ⟨hheld, hnobody⟩ := h.outside address haddress
    refine ⟨hkept address hheld fun old hold => hnobody number old (hlistener.trans hold), ?_⟩
    intro other listener hother
    rw [listener?_update hmember] at hother
    split at hother
    case isFalse => exact hnobody other listener hother
    case isTrue =>
      rcases (hown listener hother).2 with hsame | hnew
      · exact hnobody number listener (hlistener.trans hsame)
      · exact fun heq => hnew (heq ▸ hheld)

/-- Whatever an action does, it keeps a fleet sound. -/
theorem step (h : fleet.Sound) (hstep : Step fleet action answer after) : after.Sound := by
  cases hstep with
  | quiet _ => exact h
  | @prepared number member target hmember htarget =>
    have hsound := h.member number member hmember
    refine h.update hmember ⟨?_, hsound.listener⟩ (fun address hheld _ => hheld)
      fun listener hown => ⟨h.held number listener ((listener?_eq hmember).trans hown), Or.inl hown⟩
    rintro _ ⟨⟩
    obtain ⟨hname, hport, hhost, -⟩ := Startup.prepare_eq_ok htarget
    exact ⟨hname, hport, hhost⟩
  | @bound number member target hmember htarget hfree =>
    have hsound := h.member number member hmember
    obtain ⟨hname, hport, -⟩ := hsound.target target htarget
    have hnew := PortTable.not_mem_held hfree hport
    refine h.update hmember ⟨hsound.target, ?_⟩ (fun address hheld hnot =>
      Member.mem_held_withdraw.mpr ⟨List.mem_cons_of_mem _ hheld, hnot⟩) ?_
    · rintro _ ⟨⟩
      exact ⟨rfl, hport, congrArg Target.identity hname⟩
    · rintro _ ⟨⟩
      refine ⟨Member.mem_held_withdraw.mpr ⟨List.mem_cons_self, ?_⟩, Or.inr hnew⟩
      -- The address that is given free was held, so it is another one.
      intro old hold heq
      have hheld := h.held number old ((listener?_eq hmember).trans hold)
      rw [heq] at hheld
      exact hnew hheld
  | @stopped number member hmember =>
    exact h.update hmember ⟨(h.member number member hmember).target, nofun⟩
      (fun address hheld hnot => Member.mem_held_withdraw.mpr ⟨hheld, hnot⟩) nofun
  | @held address hfree =>
    refine ⟨h.member, fun other listener hother =>
      List.mem_cons_of_mem _ (h.held other listener hother), h.apart, fun other hother => ?_⟩
    rcases List.mem_cons.mp hother with rfl | hbefore
    · refine ⟨List.mem_cons_self, fun number listener hlistener heq => ?_⟩
      -- What members hold has a port other than 0, so taking it would have been refused.
      subst heq
      exact PortTable.not_mem_held hfree (h.listener hlistener).2.1
        (h.held number listener hlistener)
    · obtain ⟨hheld, hnobody⟩ := h.outside other hbefore
      exact ⟨List.mem_cons_of_mem _ hheld, hnobody⟩
  | @released address hheld =>
    refine ⟨h.member, fun other listener hother => ?_, h.apart, fun other hother => ?_⟩
    · exact PortTable.mem_held_release.mpr
        ⟨h.held other listener hother, (h.outside address hheld).2 other listener hother⟩
    · rw [List.mem_filter, bne_iff_ne] at hother
      obtain ⟨hkept, hnobody⟩ := h.outside other hother.1
      exact ⟨PortTable.mem_held_release.mpr ⟨hkept, hother.2⟩, hnobody⟩

/-- **Every run keeps a fleet sound.** -/
theorem run (h : fleet.Sound) (actions : List Action) : (fleet.run actions).2.Sound := by
  induction actions generalizing fleet with
  | nil => exact h
  | cons action actions ih => exact ih (h.step (step_act fleet action))

end Sound

end Fleet

end EchoBackend
