/-
# Requests under way together

Requests that arrive at the same moment are handled side by side on one clock and report
to one sink.  The clock only moves when every request waits; then it jumps to the earliest
moment at which one of them goes on.  Requests that can go on at the same moment do so in
the order in which they arrived, one piece of a body at a time.
-/
import EchoBackend.Echo.Service
import EchoBackend.Sink

namespace EchoBackend

namespace Echo

open Http

/-! ## Requests on their way -/

/-- A request whose handling has begun. -/
structure Flight where
  request : Request
  /-- What was read of the body so far. -/
  gathered : Gathered
  /-- What is still to be read. -/
  left : Body
  /-- The moment at which the handling goes on. -/
  wake : Nat
  deriving DecidableEq, Repr

/-- A request that is being handled, or the response it got. -/
inductive Slot where
  | flying (flight : Flight)
  | landed (response : Response)
  deriving DecidableEq, Repr

namespace Slot

/-- The moment at which a slot goes on, if it does. -/
def wake? : Slot → Option Nat
  | flying flight => some flight.wake
  | landed _ => none

/-- The response of a slot that has one. -/
def response? : Slot → Option Response
  | flying _ => none
  | landed response => some response

/-- How many steps a slot can still take. -/
def work : Slot → Nat
  | flying flight => flight.left.length + 1
  | landed _ => 0

/-- A slot that ends with an outcome, and the block that this adds to the sink. -/
def ofOutcome (outcome : Outcome) : Slot × List String :=
  (landed outcome.response, outcome.block.toList)

end Slot

namespace Flight

/-- The handling of a request begins at moment 0. -/
def start (request : Request) : Flight := ⟨request, {}, Service.awaited request, 0⟩

/-- Handles a request for one step: it is given up, or reads one piece, or is finished. -/
def step (service : Service) (flight : Flight) : Slot × List String :=
  if service.deadline ≤ flight.wake then Slot.ofOutcome { response := Service.timedOut }
  else match flight.left with
    | [] => Slot.ofOutcome (service.finish flight.request (.ok flight.gathered.bytes))
    | piece :: left =>
      match flight.gathered.add service.limit piece with
      | .error fault => Slot.ofOutcome (service.finish flight.request (.error fault))
      | .ok gathered =>
        (.flying { flight with
          gathered := gathered
          left := left
          wake := min (flight.wake + piece.wait) service.deadline }, [])

/-- Every step leaves less work. -/
theorem work_step_lt (service : Service) (flight : Flight) :
    (flight.step service).1.work < (Slot.flying flight).work := by
  unfold step
  split
  · simp [Slot.ofOutcome, Slot.work]
  · split
    · simp [Slot.ofOutcome, Slot.work]
    · rename_i piece left hleft
      split
      · simp [Slot.ofOutcome, Slot.work]
      · simp [Slot.work, hleft]

end Flight

/-! ## The common clock -/

namespace Timeline

/-- The earliest moment at which a slot goes on. -/
def nextMoment (slots : List Slot) : Option Nat := (slots.filterMap Slot.wake?).min?

/-- Lets the first slot that goes on at a moment take a step. -/
def stepAt (service : Service) (moment : Nat) : List Slot → List Slot × List String
  | [] => ([], [])
  | .flying flight :: slots =>
    if flight.wake = moment then
      let (slot, blocks) := flight.step service
      (slot :: slots, blocks)
    else
      let (slots, blocks) := stepAt service moment slots
      (.flying flight :: slots, blocks)
  | .landed response :: slots =>
    let (slots, blocks) := stepAt service moment slots
    (.landed response :: slots, blocks)

/-- How many steps the slots can still take together. -/
def work : List Slot → Nat
  | [] => 0
  | slot :: slots => slot.work + work slots

/-- A step at a moment at which some slot goes on leaves less work. -/
theorem work_stepAt_lt (service : Service) (moment : Nat) (slots : List Slot)
    (h : moment ∈ slots.filterMap Slot.wake?) :
    work (stepAt service moment slots).1 < work slots := by
  induction slots with
  | nil => simp at h
  | cons slot slots ih =>
    cases slot with
    | flying flight =>
      simp only [stepAt]
      by_cases now : flight.wake = moment
      · have := flight.work_step_lt service
        simp only [now, if_true, work]
        omega
      · have := ih (by simpa [Slot.wake?, Ne.symm now] using h)
        simp only [now, if_false, work] at *
        omega
    | landed response =>
      have := ih (by simpa [Slot.wake?] using h)
      simp only [stepAt, work] at *
      omega

/-- Lets the slots go on until all have landed; gives the slots and the blocks, in the
order in which they were written. -/
def run (service : Service) (slots : List Slot) : List Slot × List String :=
  match _next : nextMoment slots with
  | none => (slots, [])
  | some moment =>
    let step := stepAt service moment slots
    let rest := run service step.1
    (rest.1, step.2 ++ rest.2)
termination_by work slots
decreasing_by
  exact work_stepAt_lt service moment slots (List.min?_mem _next)

/-- Handles requests together: their responses in the order of the requests, and the
blocks in the order in which they were written. -/
def handle (service : Service) (requests : List Request) : List Response × List String :=
  let (slots, blocks) := run service (requests.map fun request => .flying (Flight.start request))
  (slots.filterMap Slot.response?, blocks)

end Timeline

end Echo

end EchoBackend
