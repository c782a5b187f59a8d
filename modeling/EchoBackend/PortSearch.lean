/-
# Searching for a free port

Starting from a first choice, the ports are tried upwards until one can be bound, at most
a given number of times and never past the last port there is.
-/
import EchoBackend.Address

namespace EchoBackend

namespace PortSearch

/-! ## Candidates -/

/-- The ports that are tried, in order: `attempts` many from `start` on, cut off after 65535. -/
def candidates (start attempts : UInt16) : List UInt16 :=
  (List.range (min attempts.toNat (65536 - start.toNat))).map
    fun step => UInt16.ofNat (start.toNat + step)

/-- As many ports are tried as asked for, unless the ports run out. -/
@[simp] theorem length_candidates (start attempts : UInt16) :
    (candidates start attempts).length = min attempts.toNat (65536 - start.toNat) := by
  simp [candidates]

/-! ## Outcomes -/

/-- Why no port was found. -/
inductive Failure where
  /-- Nothing was tried at all. -/
  | noAttempts
  /-- Every port from `first` to `last` was refused. -/
  | exhausted (host : IPv4) (first last : UInt16)
  deriving DecidableEq, Repr

/-- The text of a failed search. -/
def Failure.message : Failure → String
  | .noAttempts => "port allocation needs at least one attempt"
  | .exhausted host first last =>
    "could not find an available port on " ++ host.toString ++ " in range " ++
      first.toNat.repr ++ "-" ++ last.toNat.repr

/-- Tries ports in order; `last` is the port that was tried most recently. -/
def tryEach (free : UInt16 → Bool) (last : UInt16) : List UInt16 → Except UInt16 UInt16
  | [] => .error last
  | port :: ports => if free port then .ok port else tryEach free port ports

/-- Finds the first candidate that is free on `host`. -/
def run (free : SocketAddress → Bool) (host : IPv4) (start attempts : UInt16) :
    Except Failure UInt16 :=
  if attempts == 0 then .error .noAttempts
  else match tryEach (fun port => free ⟨host, port⟩) start (candidates start attempts) with
    | .ok port => .ok port
    | .error last => .error (.exhausted host start last)

/-- The candidates that a search looks at: those that are not free and the first free one. -/
def tried (free : UInt16 → Bool) : List UInt16 → List UInt16
  | [] => []
  | port :: ports => if free port then [port] else port :: tried free ports

end PortSearch

end EchoBackend
