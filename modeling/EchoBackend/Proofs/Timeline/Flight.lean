/-
# The fate of a request on its way

What a flight will end with, and the moment at which it will land, can be read off the
flight before it takes a step: `Flight.outcome` and `Flight.landing`.  The main statement,
`Flight.step_cases`, says everything that one step can do: either the flight goes on to the
same fate, or it lands now, with the outcome that was foreseen.
-/
import EchoBackend.Echo.Timeline

namespace EchoBackend

namespace Echo

open Http

namespace Service

/-- The moment, in milliseconds after its arrival, at which a request is done with: when its
handling is over, but no later than the deadline. -/
def completion (service : Service) (request : Request) : Nat :=
  min (service.duration request) service.deadline

end Service

namespace Flight

/-! ## What is foreseen -/

/-- The moment at which the body would be read if there were no deadline. -/
def arrival (service : Service) (flight : Flight) : Nat :=
  flight.wake + Body.waitOnto service.limit flight.gathered flight.left

/-- The moment at which a flight lands. -/
def landing (service : Service) (flight : Flight) : Nat :=
  min (flight.arrival service) service.deadline

/-- The outcome with which a flight lands. -/
def outcome (service : Service) (flight : Flight) : Outcome :=
  if service.deadline ≤ flight.arrival service then { response := Service.timedOut }
  else service.finish flight.request (Body.readOnto service.limit flight.gathered flight.left)

/-- A flight whose handling has just begun ends with the answer that the request gets on its
own. -/
@[simp] theorem outcome_start (service : Service) (request : Request) :
    (start request).outcome service = service.answer request := by
  simp only [outcome, arrival, start, Nat.zero_add]
  rfl

/-- A flight whose handling has just begun lands when the request is done with. -/
@[simp] theorem landing_start (service : Service) (request : Request) :
    (start request).landing service = service.completion request := by
  simp only [landing, arrival, start, Nat.zero_add]
  rfl

/-- A flight does not land before it goes on. -/
theorem wake_le_landing {service : Service} {flight : Flight}
    (h : flight.wake ≤ service.deadline) : flight.wake ≤ flight.landing service := by
  unfold landing arrival
  omega

/-- A flight whose body is not read before the deadline is given up. -/
theorem outcome_of_late {service : Service} {flight : Flight}
    (h : service.deadline ≤ flight.arrival service) :
    flight.outcome service = { response := Service.timedOut } := by
  rw [outcome, if_pos h]

/-- A flight whose body is read in time is finished with what was read. -/
theorem outcome_of_timely {service : Service} {flight : Flight}
    (h : flight.arrival service < service.deadline) :
    flight.outcome service = service.finish flight.request
      (Body.readOnto service.limit flight.gathered flight.left) := by
  rw [outcome, if_neg (by omega)]

/-! ## One step -/

/-- Two flights of the same fate. -/
structure SameFate (service : Service) (flight next : Flight) : Prop where
  outcome : next.outcome service = flight.outcome service
  landing : next.landing service = flight.landing service

/-- A piece that is taken in costs its wait, and changes nothing else about the fate. -/
theorem sameFate_of_add {service : Service} {flight : Flight} {piece : Piece} {left : Body}
    {gathered : Gathered} (hleft : flight.left = piece :: left)
    (hadd : flight.gathered.add service.limit piece = .ok gathered) :
    SameFate service flight
      { flight with
        gathered := gathered
        left := left
        wake := min (flight.wake + piece.wait) service.deadline } := by
  have harrival : flight.arrival service =
      flight.wake + (piece.wait + Body.waitOnto service.limit gathered left) := by
    rw [arrival, hleft, Body.waitOnto, hadd]
  have hread : Body.readOnto service.limit flight.gathered flight.left =
      Body.readOnto service.limit gathered left := by
    rw [hleft, Body.readOnto, hadd]
  constructor
  · -- Cutting the wait off at the deadline does not matter: past it the outcome is the same.
    by_cases late : service.deadline ≤ flight.arrival service
    · rw [outcome_of_late late, outcome_of_late]
      simp only [arrival]
      omega
    · have timely : flight.arrival service < service.deadline := by omega
      rw [outcome_of_timely timely, outcome_of_timely, hread]
      simp only [arrival]
      omega
  · simp only [Flight.landing, arrival] at harrival ⊢
    omega

/-- **Everything that a step can do.**  A flight that has not missed its deadline either goes
on, writes nothing and keeps its fate, or it lands at this very moment with its outcome. -/
theorem step_cases {service : Service} {flight : Flight}
    (h : flight.wake ≤ service.deadline) :
    (∃ next, flight.step service = (.flying next, []) ∧ SameFate service flight next ∧
        next.wake ≤ service.deadline) ∨
      (flight.step service = Slot.ofOutcome (flight.outcome service) ∧
        flight.landing service = flight.wake) := by
  unfold step
  split
  case isTrue late =>
    -- The deadline has come: the flight is given up.
    right
    have hlate : service.deadline ≤ flight.arrival service := by
      unfold arrival
      omega
    refine ⟨by rw [outcome_of_late hlate], ?_⟩
    rw [landing, Nat.min_eq_right hlate]
    omega
  case isFalse early =>
    split
    case h_1 hleft =>
      -- The body is at its end: the request is finished with all that was gathered.
      right
      have harrival : flight.arrival service = flight.wake := by
        rw [arrival, hleft, Body.waitOnto, Nat.add_zero]
      constructor
      · rw [outcome_of_timely (by omega), hleft, Body.readOnto]
      · unfold landing
        omega
    case h_2 piece left hleft =>
      split
      case h_1 fault hadd =>
        -- Reading stops at this piece: the request is finished with the fault.
        right
        have harrival : flight.arrival service = flight.wake := by
          rw [arrival, hleft, Body.waitOnto, hadd]
          rfl
        constructor
        · rw [outcome_of_timely (by omega), hleft, Body.readOnto, hadd]
        · unfold landing
          omega
      case h_2 gathered hadd =>
        left
        exact ⟨_, rfl, sameFate_of_add hleft hadd, Nat.min_le_right _ _⟩

end Flight

end Echo

end EchoBackend
