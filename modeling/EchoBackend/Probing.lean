/-
# Probing ports

Whether a port is free shows by binding it: the listener that this gives is closed again at once.
The search for a port and the start-up step that uses it are told here as they go on at the machine,
with the table of held ports handed on from one probe to the next.
-/
import EchoBackend.Startup

namespace EchoBackend

namespace PortTable

/-- Closes one listener on an address. -/
def close (table : PortTable) (address : SocketAddress) : PortTable :=
  { held := table.held.erase address }

/-- Probes an address: whether it could be bound, and the table after the probe. -/
def probe (table : PortTable) (address : SocketAddress) : Bool × PortTable :=
  match table.bind address with
  | .ok bound => (true, bound.close address)
  | .error _ => (false, table)

/-- Closing the listener that was opened last leaves the table as it was before. -/
theorem close_of_bind {table bound : PortTable} {address : SocketAddress}
    (h : table.bind address = .ok bound) : bound.close address = table := by
  unfold bind at h
  split at h
  · contradiction
  · injection h with h
    subst h
    rw [close, List.erase_cons_head]

end PortTable

namespace PortSearch

/-- What a search at the machine brings about. -/
structure Probed (ε : Type) where
  /-- The port that was found. -/
  outcome : Except ε UInt16
  /-- The ports that were probed, in order. -/
  ports : List UInt16
  /-- The table after the search. -/
  table : PortTable

/-- Probes ports of a host in order; `last` is the port that was probed most recently. -/
def probeEach (host : IPv4) (table : PortTable) (last : UInt16) :
    List UInt16 → Probed UInt16
  | [] => ⟨.error last, [], table⟩
  | port :: ports =>
    let (free, next) := table.probe ⟨host, port⟩
    if free then ⟨.ok port, [port], next⟩
    else
      let rest := probeEach host next port ports
      { rest with ports := port :: rest.ports }

/-- Finds the first candidate that can be bound on a host. -/
def allocate (table : PortTable) (host : IPv4) (start attempts : UInt16) : Probed Failure :=
  if attempts == 0 then ⟨.error .noAttempts, [], table⟩
  else
    let search := probeEach host table start (candidates start attempts)
    { outcome := search.outcome.mapError fun last => .exhausted host start last
      ports := search.ports
      table := search.table }

end PortSearch

namespace Startup

/-- Checks the settings and picks the port to serve on; the table after all probes comes with it. -/
def prepareProbing (table : PortTable) (settings : Settings) : Except Failure Target × PortTable :=
  match settings.faults with
  | [] =>
    let search :=
      PortSearch.allocate table settings.host settings.startPort settings.maxAttempts
    match search.outcome with
    | .ok port => (.ok (Target.ofPort port), search.table)
    | .error cause => (.error (.port cause), search.table)
  | faults => (.error (.settings faults), table)

end Startup

end EchoBackend
