/-
# Landings on the common clock

Flights on one clock do not get in each other's way.  Every slot ends with the response that
was foreseen for it (`Timeline.run_slots`), the clock shows the foreseen moment when it lands
(`Timeline.landingMoment_eq`), and the blocks are written in the order of these moments, those
of one moment in the order of the slots (`Timeline.run_blocks`).
-/
import EchoBackend.Proofs.Sorting
import EchoBackend.Proofs.Timeline.Flight

namespace EchoBackend

namespace Echo

open Http

namespace Slot

/-- The response that a slot has, or the one it will have. -/
def fate (service : Service) : Slot → Response
  | flying flight => (flight.outcome service).response
  | landed response => response

/-- The moment of a landing to come, and the block that it will write. -/
def due? (service : Service) : Slot → Option (Nat × Option String)
  | flying flight => some (flight.landing service, (flight.outcome service).block)
  | landed _ => none

/-- A slot that does not go on has landed with its fate. -/
theorem landed_fate {service : Service} {slot : Slot} (h : slot.wake? = none) :
    .landed (slot.fate service) = slot := by
  cases slot with
  | flying flight => contradiction
  | landed response => rfl

/-- A slot that has not missed the deadline. -/
def OnTime (service : Service) : Slot → Prop
  | flying flight => flight.wake ≤ service.deadline
  | landed _ => True

end Slot

namespace Timeline

/-! ## One step of the clock -/

/-- A step at a moment is a step of the first flight that goes on at it. -/
theorem stepAt_eq_of_mem (service : Service) (moment : Nat) (slots : List Slot)
    (h : moment ∈ slots.filterMap Slot.wake?) :
    ∃ before flight after, slots = before ++ .flying flight :: after ∧ flight.wake = moment ∧
      (∀ slot ∈ before, slot.wake? ≠ some moment) ∧
      stepAt service moment slots =
        (before ++ (flight.step service).1 :: after, (flight.step service).2) := by
  induction slots with
  | nil => simp at h
  | cons slot slots ih =>
    cases slot with
    | flying flight =>
      by_cases now : flight.wake = moment
      · -- Found: the slots after it are not even looked at.
        refine ⟨[], flight, slots, rfl, now, by simp, ?_⟩
        simp only [stepAt, now, if_true, List.nil_append]
      · have hmem : moment ∈ slots.filterMap Slot.wake? := by
          simpa [Slot.wake?, Ne.symm now] using h
        obtain ⟨before, first, after, rfl, hwake, hbefore, hstep⟩ := ih hmem
        refine ⟨.flying flight :: before, first, after, rfl, hwake, ?_, ?_⟩
        · rw [List.forall_mem_cons]
          exact ⟨by simpa [Slot.wake?] using now, hbefore⟩
        · simp only [stepAt, now, if_false, hstep, List.cons_append]
    | landed response =>
      have hmem : moment ∈ slots.filterMap Slot.wake? := by
        simpa [Slot.wake?] using h
      obtain ⟨before, first, after, rfl, hwake, hbefore, hstep⟩ := ih hmem
      refine ⟨.landed response :: before, first, after, rfl, hwake, ?_, ?_⟩
      · rw [List.forall_mem_cons]
        exact ⟨by simp [Slot.wake?], hbefore⟩
      · simp only [stepAt, hstep, List.cons_append]

/-- No slot goes on before the next moment. -/
theorem nextMoment_le {slots : List Slot} {moment wake : Nat} {slot : Slot}
    (hnext : nextMoment slots = some moment) (hslot : slot ∈ slots)
    (hwake : slot.wake? = some wake) : moment ≤ wake :=
  (List.min?_eq_some_iff.mp hnext).2 wake (List.mem_filterMap.mpr ⟨slot, hslot, hwake⟩)

/-- When the clock stops, all slots have landed. -/
theorem wake?_eq_none_of_nextMoment {slots : List Slot} {slot : Slot}
    (hnext : nextMoment slots = none) (hslot : slot ∈ slots) : slot.wake? = none := by
  rw [nextMoment, List.min?_eq_none_iff, List.filterMap_eq_nil_iff] at hnext
  exact hnext slot hslot

/-- The landings that are still to come, in the order of the slots. -/
def due (service : Service) (slots : List Slot) : List (Nat × Option String) :=
  slots.filterMap (Slot.due? service)

/-- What one step of the clock does to the slots and writes.  Either a flight goes on to the
same fate, or it lands; it is then the first of those that land earliest. -/
inductive Move (service : Service) (moment : Nat) :
    List Slot → List Slot → List String → Prop
  | onward {before after : List Slot} {flight next : Flight}
      (fate : flight.SameFate service next) (onTime : next.wake ≤ service.deadline) :
      Move service moment (before ++ .flying flight :: after) (before ++ .flying next :: after) []
  | landing {before after : List Slot} {flight : Flight}
      (now : flight.landing service = moment)
      (later : ∀ entry ∈ due service before, moment < entry.1)
      (notEarlier : ∀ entry ∈ due service after, moment ≤ entry.1) :
      Move service moment (before ++ .flying flight :: after)
        (before ++ .landed (flight.outcome service).response :: after)
        (flight.outcome service).block.toList

/-- A landing to come is that of a slot which goes on no later. -/
theorem exists_wake_le_of_mem_due {service : Service} {slots : List Slot}
    {entry : Nat × Option String} (hon : ∀ slot ∈ slots, slot.OnTime service)
    (h : entry ∈ due service slots) :
    ∃ slot ∈ slots, ∃ wake, slot.wake? = some wake ∧ wake ≤ entry.1 := by
  obtain ⟨slot, hslot, hdue⟩ := List.mem_filterMap.mp h
  cases slot with
  | flying flight =>
    injection hdue with hdue
    subst hdue
    exact ⟨_, hslot, flight.wake, rfl, Flight.wake_le_landing (hon _ hslot)⟩
  | landed response => contradiction

/-- **Everything that the clock can do**: while some slot goes on, a step is a move. -/
theorem move_stepAt {service : Service} {slots : List Slot} {moment : Nat}
    (hon : ∀ slot ∈ slots, slot.OnTime service) (hnext : nextMoment slots = some moment) :
    Move service moment slots (stepAt service moment slots).1
      (stepAt service moment slots).2 := by
  obtain ⟨before, flight, after, rfl, hwake, hbefore, hstep⟩ :=
    stepAt_eq_of_mem service moment slots (List.min?_mem hnext)
  rw [hstep]
  rcases Flight.step_cases (hon (.flying flight) (by simp)) with
    ⟨next, hflight, hfate, honNext⟩ | ⟨hflight, hlanding⟩
  · rw [hflight]
    exact .onward hfate honNext
  · rw [hflight]
    refine .landing (hlanding.trans hwake) ?_ ?_
    · intro entry hentry
      obtain ⟨slot, hslot, wake, hw, hle⟩ :=
        exists_wake_le_of_mem_due (fun slot hslot => hon slot (by simp [hslot])) hentry
      -- The flight is the first that goes on at the moment, so those before it go on later.
      have hne : moment ≠ wake := fun heq => hbefore slot hslot (heq ▸ hw)
      have hmin : moment ≤ wake := nextMoment_le hnext (by simp [hslot]) hw
      omega
    · intro entry hentry
      obtain ⟨slot, hslot, wake, hw, hle⟩ :=
        exists_wake_le_of_mem_due (fun slot hslot => hon slot (by simp [hslot])) hentry
      have hmin : moment ≤ wake := nextMoment_le hnext (by simp [hslot]) hw
      omega

/-- A move leaves all slots on time. -/
theorem Move.onTime {service : Service} {slots next : List Slot} {moment : Nat}
    {blocks : List String} (hmove : Move service moment slots next blocks)
    (hon : ∀ slot ∈ slots, slot.OnTime service) : ∀ slot ∈ next, slot.OnTime service := by
  cases hmove with
  | onward hfate honNext =>
    rw [List.forall_mem_append, List.forall_mem_cons] at hon ⊢
    exact ⟨hon.1, honNext, hon.2.2⟩
  | landing =>
    rw [List.forall_mem_append, List.forall_mem_cons] at hon ⊢
    exact ⟨hon.1, trivial, hon.2.2⟩

/-! ## The responses -/

/-- A move changes the fate of no slot. -/
theorem Move.map_fate {service : Service} {slots next : List Slot} {moment : Nat}
    {blocks : List String} (hmove : Move service moment slots next blocks) :
    next.map (Slot.fate service) = slots.map (Slot.fate service) := by
  cases hmove with
  | onward hfate => simp [Slot.fate, hfate.outcome]
  | landing => simp [Slot.fate]

/-- **Every slot lands as was foreseen for it.** -/
theorem run_slots (service : Service) (slots : List Slot)
    (hon : ∀ slot ∈ slots, slot.OnTime service) :
    (run service slots).1 = slots.map fun slot => .landed (slot.fate service) := by
  fun_induction run service slots with
  | case1 slots hnext =>
    -- The clock has stopped, so every slot is what it will be.
    have hid : ∀ slot ∈ slots, .landed (slot.fate service) = id slot := fun slot hslot =>
      Slot.landed_fate (wake?_eq_none_of_nextMoment hnext hslot)
    rw [List.map_congr_left hid, List.map_id]
  | case2 slots moment hnext step rest ih =>
    have hmove := move_stepAt hon hnext
    rw [ih (hmove.onTime hon)]
    have hfate := congrArg (List.map Slot.landed) hmove.map_fate
    simpa [List.map_map, Function.comp_def] using hfate

/-! ## The blocks -/

/-- The blocks of the landings to come, in the order in which they will be written. -/
def dueBlocks (service : Service) (slots : List Slot) : List String :=
  ((due service slots).insertionSort fun x y => x.1 ≤ y.1).filterMap Prod.snd

/-- A move writes the next of the blocks that are to come. -/
theorem Move.dueBlocks_eq {service : Service} {slots next : List Slot} {moment : Nat}
    {blocks : List String} (hmove : Move service moment slots next blocks) :
    dueBlocks service slots = blocks ++ dueBlocks service next := by
  cases hmove with
  | onward hfate =>
    simp [dueBlocks, due, Slot.due?, hfate.outcome, hfate.landing]
  | @landing before after flight now later notEarlier =>
    have hdue : due service (before ++ .flying flight :: after) =
        due service before ++ (moment, (flight.outcome service).block) :: due service after := by
      simp [due, Slot.due?, now]
    have hrest : due service (before ++ .landed (flight.outcome service).response :: after) =
        due service before ++ due service after := by
      simp [due, Slot.due?, List.filterMap_cons]
    have hsort := Sorting.insertionSort_append_cons (p := Prod.fst)
      (a := (moment, (flight.outcome service).block)) later notEarlier
    rw [dueBlocks, dueBlocks, hdue, hrest, hsort, List.filterMap_cons]
    cases (flight.outcome service).block <;> rfl

/-- **The blocks are written in the order of the landings.** -/
theorem run_blocks (service : Service) (slots : List Slot)
    (hon : ∀ slot ∈ slots, slot.OnTime service) :
    (run service slots).2 = dueBlocks service slots := by
  fun_induction run service slots with
  | case1 slots hnext =>
    -- The clock has stopped, so nothing is to come.
    have hdue : due service slots = [] := by
      rw [due, List.filterMap_eq_nil_iff]
      intro slot hslot
      have hwake := wake?_eq_none_of_nextMoment hnext hslot
      cases slot with
      | flying flight => contradiction
      | landed response => rfl
    rw [dueBlocks, hdue]
    rfl
  | case2 slots moment hnext step rest ih =>
    have hmove := move_stepAt hon hnext
    rw [hmove.dueBlocks_eq, ← ih (hmove.onTime hon)]

/-! ## The clock -/

/-- The moment that the clock shows when the slot at a place lands. -/
def landingMoment (service : Service) (place : Nat) (slots : List Slot) : Option Nat :=
  match _next : nextMoment slots with
  | none => none
  | some moment =>
    let next := (stepAt service moment slots).1
    if (slots[place]?.bind Slot.wake?).isSome && (next[place]?.bind Slot.wake?).isNone then
      some moment
    else landingMoment service place next
termination_by work slots
decreasing_by
  exact work_stepAt_lt service moment slots (List.min?_mem _next)

/-- Replacing one slot leaves the slots at all other places. -/
theorem getElem?_replace {before after : List Slot} {place : Nat} (old new : Slot)
    (h : place ≠ before.length) :
    (before ++ old :: after)[place]? = (before ++ new :: after)[place]? := by
  rw [List.getElem?_append, List.getElem?_append]
  split
  · rfl
  · rw [List.getElem?_cons, List.getElem?_cons, if_neg (by omega), if_neg (by omega)]

/-- A move leaves a flight in the air with its fate, or lands it at its moment. -/
theorem Move.getElem?_cases {service : Service} {slots next : List Slot} {moment place : Nat}
    {blocks : List String} {flight : Flight} (hmove : Move service moment slots next blocks)
    (hplace : slots[place]? = some (.flying flight)) :
    (∃ other, next[place]? = some (.flying other) ∧
        other.landing service = flight.landing service) ∨
      ((∃ response, next[place]? = some (.landed response)) ∧
        flight.landing service = moment) := by
  cases hmove with
  | @onward before after moving next hfate =>
    left
    by_cases h : place = before.length
    · subst h
      simp only [List.getElem?_append_right (Nat.le_refl _), Nat.sub_self,
        List.getElem?_cons_zero, Option.some.injEq, Slot.flying.injEq] at hplace
      subst hplace
      exact ⟨next, by simp, hfate.landing⟩
    · exact ⟨flight, by rw [← getElem?_replace _ _ h, hplace], rfl⟩
  | @landing before after moving now =>
    by_cases h : place = before.length
    · right
      subst h
      simp only [List.getElem?_append_right (Nat.le_refl _), Nat.sub_self,
        List.getElem?_cons_zero, Option.some.injEq, Slot.flying.injEq] at hplace
      subst hplace
      exact ⟨⟨(moving.outcome service).response, by simp⟩, now⟩
    · left
      exact ⟨flight, by rw [← getElem?_replace _ _ h, hplace], rfl⟩

/-- **The clock shows the foreseen moment when a flight lands.** -/
theorem landingMoment_eq (service : Service) (place : Nat) (slots : List Slot)
    (hon : ∀ slot ∈ slots, slot.OnTime service) (flight : Flight)
    (hplace : slots[place]? = some (.flying flight)) :
    landingMoment service place slots = some (flight.landing service) := by
  fun_induction landingMoment service place slots generalizing flight with
  | case1 slots hnext =>
    have := wake?_eq_none_of_nextMoment hnext (List.mem_of_getElem? hplace)
    contradiction
  | case2 slots moment hnext next hlands =>
    -- The slot lands in this move: the clock shows the moment of the move.
    rcases (move_stepAt hon hnext).getElem?_cases hplace with ⟨other, hother, -⟩ | ⟨-, hnow⟩
    · rw [hother] at hlands
      simp [Slot.wake?] at hlands
    · rw [hnow]
  | case3 slots moment hnext next hflies ih =>
    -- The slot stays in the air, with the same moment ahead of it.
    have hmove := move_stepAt hon hnext
    rcases hmove.getElem?_cases hplace with ⟨other, hother, hlanding⟩ | ⟨⟨response, hlanded⟩, -⟩
    · rw [ih (hmove.onTime hon) other hother, hlanding]
    · rw [hlanded, hplace] at hflies
      simp [Slot.wake?] at hflies

/-! ## Requests that arrive together -/

/-- Requests whose handling has just begun. -/
def begin (requests : List Request) : List Slot :=
  requests.map fun request => .flying (Flight.start request)

/-- Requests whose handling has just begun have not missed the deadline. -/
theorem onTime_begin (service : Service) (requests : List Request) :
    ∀ slot ∈ begin requests, slot.OnTime service := by
  intro slot hslot
  obtain ⟨request, -, rfl⟩ := List.mem_map.mp hslot
  exact Nat.zero_le _

/-- **Requests handled together get the responses that they get on their own.** -/
theorem handle_responses (service : Service) (requests : List Request) :
    (handle service requests).1 = requests.map fun request => (service.answer request).response := by
  have hrun := run_slots service (begin requests) (onTime_begin service requests)
  rw [begin, List.map_map] at hrun
  simp only [handle, hrun, List.filterMap_map]
  rw [← List.filterMap_eq_map]
  congr 1
  funext request
  simp [Slot.fate, Slot.response?]

/-- **The blocks of requests handled together are those that they write on their own, in the
order in which the requests are done with.** -/
theorem handle_blocks (service : Service) (requests : List Request) :
    (handle service requests).2 =
      (requests.insertionSort fun first second =>
        service.completion first ≤ service.completion second).filterMap fun request =>
          (service.answer request).block := by
  have hdue : due service (begin requests) = requests.map fun request =>
      (service.completion request, (service.answer request).block) := by
    rw [due, begin, List.filterMap_map, ← List.filterMap_eq_map]
    congr 1
    funext request
    simp [Slot.due?]
  have hsort := List.map_insertionSort
    (fun first second => service.completion first ≤ service.completion second)
    (fun x y : Nat × Option String => x.1 ≤ y.1)
    (fun request => (service.completion request, (service.answer request).block)) requests
    (fun _ _ _ _ => Iff.rfl)
  have hrun := run_blocks service (begin requests) (onTime_begin service requests)
  rw [dueBlocks, hdue, ← hsort, List.filterMap_map] at hrun
  exact hrun

/-- **The clock shows the moment at which each of them is done with.** -/
theorem landingMoment_begin (service : Service) {requests : List Request} {place : Nat}
    {request : Request} (hplace : requests[place]? = some request) :
    landingMoment service place (begin requests) = some (service.completion request) := by
  rw [landingMoment_eq service place _ (onTime_begin service requests) (Flight.start request),
    Flight.landing_start]
  rw [begin, List.getElem?_map, hplace]
  rfl

end Timeline

end Echo

end EchoBackend
