/-
# Instances never share a port

The main statement, `Fleet.run_exclusive`, says of every run of any number of instances that those
which serve hold different addresses under different names, what comes of an attempt to take a
port, and that an attempt right after the port was picked succeeds.
-/
import EchoBackend.Proofs.Fleet.Invariant

namespace EchoBackend

namespace Fleet

/-! ## What was picked -/

/-- The target that a member picked by an action, if it did. -/
def picked? (number : Nat) : Action × Answer → Option Target
  | (.prepare other, .prepared target) => if other = number then some target else none
  | _ => none

/-- The target that a member picked last, as far as a record of actions and answers goes. -/
def lastPicked? (number : Nat) (record : List (Action × Answer)) : Option Target :=
  (record.filterMap (picked? number)).getLast?

variable {fleet after : Fleet} {number : Nat} {action : Action} {answer : Answer}

/-- A target is kept until another one is picked. -/
theorem Step.target? (h : Step fleet action answer after) :
    after.target? number = (picked? number (action, answer)).or (fleet.target? number) := by
  cases h with
  | quiet hquiet =>
    have hnothing : picked? number (action, answer) = none := by
      cases answer <;> first | contradiction | (cases action <;> rfl)
    rw [hnothing, Option.none_or]
  | prepared hmember _ =>
    rw [Fleet.target?, getElem?_update hmember, picked?]
    split <;> rfl
  | bound hmember _ _ | stopped hmember =>
    show _ = fleet.target? number
    rw [Fleet.target?, getElem?_update hmember]
    split
    case isTrue heq =>
      subst heq
      rw [Fleet.target?, hmember]
      rfl
    case isFalse => rfl
  | held _ => rfl
  | released _ => rfl

/-- The target of a member is the one that it picked last. -/
theorem target?_run (fleet : Fleet) (actions : List Action) (number : Nat) :
    (fleet.run actions).2.target? number =
      (lastPicked? number (actions.zip (fleet.run actions).1)).or (fleet.target? number) := by
  induction actions generalizing fleet with
  | nil => rfl
  | cons action actions ih =>
    have hstep : (fleet.act action).2.target? number = _ := (step_act fleet action).target?
    rw [run, ih, hstep, ← Option.or_assoc]
    refine congrArg (Option.or · _) ?_
    show _ = List.getLast? _
    rw [List.zip_cons_cons, List.filterMap_cons]
    cases picked? number (action, (fleet.act action).1) with
    | none => exact Option.or_none
    | some target => rw [List.getLast?_cons, lastPicked?, Option.or_some]

/-! ## Attempts -/

/-- What comes of an attempt of a member to take an address under a name. -/
structure Attempt (fleet : Fleet) (number : Nat) (address : SocketAddress) (identity : Identity) :
    Prop where
  /-- If the address is excluded by now, the attempt fails, it names the address, and nothing
  changes; a process that fails so exits with status 1. -/
  lost : (∃ other ∈ fleet.table.held, address.excludes other = true) →
    ∃ failure : Startup.Failure, fleet.act (.bind number) = (.failed failure, fleet) ∧
      failure = .bind address .addressInUse ∧ failure.exitCode = 1
  /-- If the address is not excluded, the attempt succeeds.  The member then holds exactly that
  address, and the table loses what the member held before and nothing else. -/
  won : (∀ other ∈ fleet.table.held, address.excludes other = false) →
    ∃ next : Fleet, fleet.act (.bind number) = (.bound address, next) ∧
      next.listener? number = some ⟨address, identity⟩ ∧
      ∀ other, other ∈ next.table.held ↔ other = address ∨
        other ∈ fleet.table.held ∧ ∀ old, fleet.listener? number = some old → old.address ≠ other

/-- In a sound fleet, that is what comes of every attempt of a member that has picked a port. -/
theorem Sound.attempt (h : fleet.Sound) {member : Member} {target : Target}
    (hmember : fleet.members[number]? = some member) (htarget : member.target = some target) :
    Attempt fleet number ⟨member.settings.host, target.port⟩ target.identity := by
  obtain ⟨-, hport, hhost⟩ := (h.member number member hmember).target target htarget
  have hlocal : member.settings.host.isLocal = true := by rw [IPv4.isLocal, hhost, Bool.true_or]
  have hact : fleet.act (.bind number) = fleet.bind number member := by rw [act, hmember]
  rw [bind_eq fleet number htarget] at hact
  dsimp only at hact
  rw [PortTable.refusal?_of_local hlocal hport] at hact
  constructor
  case lost =>
    intro hexcluded
    rw [if_pos (List.any_eq_true.mpr hexcluded)] at hact
    exact ⟨_, hact, rfl, rfl⟩
  case won =>
    intro hnone
    rw [if_neg (by simpa using hnone)] at hact
    refine ⟨_, hact, by rw [listener?_update hmember, if_pos rfl], fun other => ?_⟩
    refine Member.mem_held_withdraw.trans ?_
    rw [List.mem_cons, or_and_right, listener?_eq hmember]
    refine or_congr (and_iff_left_of_imp ?_) Iff.rfl
    -- What the member held before would exclude the new address if it were the same.
    rintro rfl old hold heq
    have hself := hnone old.address (h.held number old ((listener?_eq hmember).trans hold))
    rw [heq, SocketAddress.excludes_self] at hself
    contradiction

/-- An attempt right after the port was picked succeeds. -/
theorem Sound.attempt_prepared (h : fleet.Sound) {target : Target}
    (hprepared : fleet.act (.prepare number) = (.prepared target, after)) :
    ∃ member, fleet.members[number]? = some member ∧
      (after.act (.bind number)).1 = .bound ⟨member.settings.host, target.port⟩ := by
  have hstep := step_act fleet (.prepare number)
  rw [hprepared] at hstep
  have hafter := h.step hstep
  cases hstep with
  | quiet hquiet => contradiction
  | @prepared _ member _ hmember htarget =>
    obtain ⟨-, hport, -, hfree⟩ := Startup.prepare_eq_ok htarget
    have hplace : (fleet.update number { member with target := some target }
        fleet.table).members[number]? = some { member with target := some target } := by
      rw [getElem?_update hmember, if_pos rfl]
    obtain ⟨next, hbound, -⟩ := (hafter.attempt hplace rfl).won
      ((PortTable.refusal?_eq_none_iff.mp hfree).2.resolve_left hport)
    exact ⟨member, hmember, congrArg Prod.fst hbound⟩

/-! ## Exclusion -/

/-- What is known of instances with some settings after a run with some record. -/
structure Exclusive (settings : List Settings) (record : List (Action × Answer)) (fleet : Fleet) :
    Prop where
  /-- What instances hold is different; on the same host, ports and names are different, too. -/
  apart : ∀ number other x y, number ≠ other → fleet.listener? number = some x →
    fleet.listener? other = some y → x.address ≠ y.address ∧
      (x.address.host = y.address.host →
        x.address.port ≠ y.address.port ∧ x.identity ≠ y.identity)
  /-- The table knows what instances hold, which is of their host and under the name of the port. -/
  held : ∀ number listener, fleet.listener? number = some listener →
    listener.address ∈ fleet.table.held ∧
      settings[number]?.map Settings.host = some listener.address.host ∧
      listener.identity = Identity.ofPort listener.address.port
  /-- What an instance holds changes only when it takes a port or stops. -/
  kept : ∀ number action, action ≠ .bind number → action ≠ .stop number →
    (fleet.act action).2.listener? number = fleet.listener? number
  /-- An instance that has picked a port tries to take that port, and it has it afterwards or knows
  that it has lost it. -/
  attempt : ∀ number chosen target, settings[number]? = some chosen →
    lastPicked? number record = some target →
      Attempt fleet number ⟨chosen.host, target.port⟩ target.identity
  /-- An instance takes only what it has picked. -/
  bound : ∀ number address, (fleet.act (.bind number)).1 = .bound address →
    ∃ chosen target, settings[number]? = some chosen ∧
      lastPicked? number record = some target ∧ address = ⟨chosen.host, target.port⟩
  /-- An attempt right after the port was picked succeeds. -/
  direct : ∀ number target next, fleet.act (.prepare number) = (.prepared target, next) →
    ∃ chosen, settings[number]? = some chosen ∧
      (next.act (.bind number)).1 = .bound ⟨chosen.host, target.port⟩

/-- **Instances never share a port.**  Any number of instances pick ports, take them and stop,
other programs take and give free addresses, in any order. -/
theorem run_exclusive (settings : List Settings) (actions : List Action) :
    Exclusive settings (actions.zip ((initial settings).run actions).1)
      ((initial settings).run actions).2 := by
  have hsound := (sound_initial settings).run actions
  have hsettings := settings_run (initial settings) actions
  have htarget := target?_run (initial settings) actions
  generalize actions.zip ((initial settings).run actions).1 = record at htarget ⊢
  generalize ((initial settings).run actions).2 = fleet at hsound hsettings htarget ⊢
  -- The settings and targets of members are those of the statement.
  have hchosen (number : Nat) :
      settings[number]? = fleet.members[number]?.map Member.settings := by
    rw [hsettings, initial, List.getElem?_map, Option.map_map]
    exact (congrFun Option.map_id _).symm
  have hpicked (number : Nat) : lastPicked? number record = fleet.target? number := by
    rw [htarget, Fleet.target?, initial, List.getElem?_map]
    cases settings[number]? <;> exact Option.or_none.symm
  constructor
  case apart =>
    intro number other x y hne hx hy
    have hdiffer := hsound.apart number other x y hx hy hne
    refine ⟨hdiffer, fun hhost => ?_⟩
    have hport : x.address.port ≠ y.address.port := fun hport =>
      hdiffer (SocketAddress.mk.injEq .. ▸ ⟨hhost, hport⟩)
    rw [(hsound.listener hx).2.2, (hsound.listener hy).2.2]
    exact ⟨hport, fun hname => hport (Identity.ofPort_injective hname)⟩
  case held =>
    intro number listener hlistener
    obtain ⟨hhost, -, hname⟩ := hsound.listener hlistener
    refine ⟨hsound.held number listener hlistener, ?_, hname⟩
    rw [hchosen, Option.map_map]
    exact hhost
  case kept => exact fun number action => (step_act fleet action).listener?
  case attempt =>
    intro number chosen target hmember hlast
    rw [hchosen, Option.map_eq_some_iff] at hmember
    obtain ⟨member, hmember, rfl⟩ := hmember
    rw [hpicked, Fleet.target?, hmember] at hlast
    exact hsound.attempt hmember hlast
  case bound =>
    intro number address hanswer
    have hstep := step_act fleet (.bind number)
    rw [hanswer] at hstep
    generalize (fleet.act (.bind number)).2 = after at hstep
    cases hstep with
    | quiet hquiet => contradiction
    | @bound _ member target hmember hlast _ =>
      refine ⟨member.settings, target, by rw [hchosen, hmember]; rfl, ?_, rfl⟩
      rw [hpicked, Fleet.target?, hmember]
      exact hlast
  case direct =>
    intro number target next hprepared
    obtain ⟨member, hmember, hbound⟩ := hsound.attempt_prepared hprepared
    exact ⟨member.settings, by rw [hchosen, hmember]; rfl, hbound⟩

/-- The exclusion at work: two instances pick the same port.  The first one to take it has it, the
other one fails, picks again, and then serves next to it under another name. -/
theorem run_exclusive_race :
    let settings : List Settings := [{}, {}]
    let actions : List Action := [.prepare 0, .prepare 1, .bind 0]
    let fleet := ((initial settings).run actions).2
    let later := ((initial settings).run (actions ++ [.bind 1, .prepare 1, .bind 1])).2
    (∃ failure, fleet.act (.bind 1) = (.failed failure, fleet) ∧ failure.exitCode = 1) ∧
      later.listener? 0 = some ⟨⟨IPv4.localhost, 9001⟩, ⟨"api-a"⟩⟩ ∧
      later.listener? 1 = some ⟨⟨IPv4.localhost, 9002⟩, ⟨"api-b"⟩⟩ := by
  intro settings actions fleet later
  obtain ⟨failure, hfailed, -, hstatus⟩ :=
    ((run_exclusive settings actions).attempt 1 {} ⟨9001, ⟨"api-a"⟩⟩ rfl (by decide)).lost
      ⟨⟨IPv4.localhost, 9001⟩, by decide, by decide⟩
  exact ⟨⟨failure, hfailed, hstatus⟩, by decide, by decide⟩

end Fleet

end EchoBackend
