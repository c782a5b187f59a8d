/-
# Requests under way together do not meet

The main statement, `Server.handle_isolated`, compares a group of requests with its members,
each on its own on a fresh server: the same results, the same blocks in the order in which the
clock of the group sees the requests land, and members without a block may as well be absent.
-/
import EchoBackend.Proofs.Server.Turn

namespace EchoBackend

namespace Echo

open Http

namespace RequestParts

variable {service : Service} {parts : RequestParts}

/-- The members of a group that are requests. -/
def accepted (group : List RequestParts) : List Request :=
  (group.map request).filterMap Except.toOption

/-- The block of a request, with the moment at which it is written. -/
def stamped (service : Service) (parts : RequestParts) : Option (Nat × String) :=
  (parts.block service).map fun block => (parts.completion service, block)

/-- A stamp is the moment at which the request is done with. -/
theorem completion_of_stamped {stamp : Nat × String} (h : parts.stamped service = some stamp) :
    parts.completion service = stamp.1 := by
  obtain ⟨block, -, rfl⟩ := Option.map_eq_some_iff.mp h
  rfl

/-- Without its stamp a stamped block is the block. -/
theorem map_snd_stamped : (parts.stamped service).map Prod.snd = parts.block service := by
  rw [stamped, Option.map_map]
  exact Option.map_id'

/-- A request that is accepted stands among the accepted ones after those before it. -/
theorem getElem?_accepted {before after : List RequestParts} {request : Request}
    (h : parts.request = .ok request) :
    (accepted (before ++ parts :: after))[(accepted before).length]? = some request := by
  have hsplit : accepted (before ++ parts :: after) =
      accepted before ++ request :: accepted after := by
    simp only [accepted, List.map_append, List.map_cons, List.filterMap_append, h]
    rfl
  rw [hsplit, List.getElem?_append_right (Nat.le_refl _), Nat.sub_self,
    List.getElem?_cons_zero]

end RequestParts

namespace Server

/-- The blocks of a group, through their stamps: members without a block do not count. -/
theorem blocks_handle_eq_stamped (server : Server) (group : List RequestParts) :
    (server.handle group).1.blocks =
      ((group.filterMap (RequestParts.stamped server.service)).insertionSort fun x y =>
        x.1 ≤ y.1).map Prod.snd := by
  have hsort := Sorting.filterMap_insertionSort (p := RequestParts.completion server.service)
    (q := Prod.fst) (fun _ _ => RequestParts.completion_of_stamped) group
  rw [blocks_handle, ← hsort, List.map_filterMap]
  congr 1
  funext parts
  exact RequestParts.map_snd_stamped.symm

/-- A member without a block may as well be absent from its group. -/
theorem handle_without {server : Server} {before after : List RequestParts}
    {parts : RequestParts} (h : (parts.result server.service).status? ≠ some .ok) :
    (server.handle (before ++ after)).1 =
      ⟨(server.handle (before ++ parts :: after)).1.results.eraseIdx before.length,
        (server.handle (before ++ parts :: after)).1.blocks⟩ := by
  have hresults : (server.handle (before ++ after)).1.results =
      (server.handle (before ++ parts :: after)).1.results.eraseIdx before.length := by
    rw [results_handle, results_handle, List.map_append, List.map_append, List.map_cons,
      List.eraseIdx_append_of_length_le (by rw [List.length_map]), List.length_map, Nat.sub_self,
      List.eraseIdx_cons_zero]
  have hblocks : (server.handle (before ++ after)).1.blocks =
      (server.handle (before ++ parts :: after)).1.blocks := by
    have hnone : parts.stamped server.service = none := by
      rw [RequestParts.stamped, RequestParts.block_eq_none h]
      rfl
    rw [blocks_handle_eq_stamped, blocks_handle_eq_stamped, List.filterMap_append,
      List.filterMap_append, List.filterMap_cons_none hnone]
  rw [← hresults, ← hblocks]

/-- What is the same for a member and for what replaces it is the same for the whole group. -/
theorem map_set_of_eq {α : Type} {read : RequestParts → α} {group : List RequestParts}
    {number : Nat} {parts others : RequestParts} (hparts : group[number]? = some parts)
    (h : read others = read parts) : (group.set number others).map read = group.map read := by
  obtain ⟨hnumber, rfl⟩ := List.getElem?_eq_some_iff.mp hparts
  rw [List.map_set, h, ← List.map_set, List.set_getElem_self]

/-- A member can be replaced by one that leaves the same block at the same moment: the others do not
learn of it. -/
theorem handle_set {server : Server} {group : List RequestParts} {number : Nat}
    {parts others : RequestParts} (hparts : group[number]? = some parts)
    (h : others.stamped server.service = parts.stamped server.service) :
    server.handle (group.set number others) =
      (⟨(server.handle group).1.results.set number (others.result server.service),
        (server.handle group).1.blocks⟩, (server.handle group).2) := by
  have hresults : (server.handle (group.set number others)).1.results =
      (server.handle group).1.results.set number (others.result server.service) := by
    rw [results_handle, results_handle, List.map_set]
  have hstamps (members : List RequestParts) :
      members.filterMap (RequestParts.stamped server.service) =
        (members.map (RequestParts.stamped server.service)).filterMap id := by
    rw [List.filterMap_map, Function.id_comp]
  have hblocks : (server.handle (group.set number others)).1.blocks =
      (server.handle group).1.blocks := by
    rw [blocks_handle_eq_stamped, blocks_handle_eq_stamped, hstamps, hstamps,
      map_set_of_eq hparts h]
  refine Prod.ext ?_ ?_
  · rw [← hresults, ← hblocks]
  · rw [handle_snd, handle_snd server group, hblocks]

/-- **Requests under way together do not meet.**  After any history, each member of a group
gets the result that it gets alone on a fresh server; the blocks of the group are those that
its members write alone, in the order in which they are done with and, at the same moment, in
the order of the group; the clock of the group shows just that moment when a member lands; and
a member that ends in anything but success could be left out without a trace. -/
theorem handle_isolated (service : Service) (history : List (List RequestParts))
    (group : List RequestParts) :
    let server := after service history
    let turn := (server.handle group).1
    (turn.results.map fun result => [result]) =
        group.map (fun parts => (alone service parts).results) ∧
      turn.blocks =
        (group.insertionSort fun first second =>
          first.completion service ≤ second.completion service).flatMap
            (fun parts => (alone service parts).blocks) ∧
      (server.handle group).2.sink.blocks = server.sink.blocks ++ turn.blocks ∧
      ∀ before parts after, group = before ++ parts :: after →
        (∀ request, parts.request = .ok request →
          Timeline.landingMoment service (RequestParts.accepted before).length
              (Timeline.begin (RequestParts.accepted group)) =
            some (parts.completion service)) ∧
        ((∀ result ∈ (alone service parts).results, result.status? ≠ some .ok) →
          (server.handle (before ++ after)).1 =
            ⟨turn.results.eraseIdx before.length, turn.blocks⟩) := by
  intro server turn
  have hservice : server.service = service := service_after service history
  refine ⟨?_, ?_, ?_, ?_⟩
  · simp only [turn, alone, handle_singleton]
    rw [results_handle, hservice, List.map_map]
    rfl
  · simp only [turn, alone, handle_singleton]
    rw [blocks_handle, hservice, List.filterMap_eq_flatMap_toList]
  · rw [handle_snd]
  · rintro before parts after rfl
    constructor
    · -- The place of a member on the clock is the number of requests before it.
      intro request hrequest
      rw [Timeline.landingMoment_begin service (RequestParts.getElem?_accepted hrequest),
        RequestParts.completion, hrequest]
    · intro hquiet
      rw [alone, handle_singleton] at hquiet
      have hstatus : (parts.result server.service).status? ≠ some .ok := by
        rw [hservice]
        exact hquiet _ (List.mem_singleton_self _)
      exact handle_without hstatus

/-- Isolation at work: the blocks of three uploads come in the order in which the uploads are
done with, and the one that times out could be left out. -/
theorem handle_isolated_uploads :
    let service : Service := ⟨{}, Target.ofPort 9001, {}⟩
    let server := after service []
    let group := [heldUpload 300, heldUpload 60000, heldUpload 100]
    (server.handle group).1.blocks =
        (alone service (heldUpload 100)).blocks ++ (alone service (heldUpload 300)).blocks ++
          (alone service (heldUpload 60000)).blocks ∧
      (∀ result ∈ (alone service (heldUpload 60000)).results, result.status? ≠ some .ok) ∧
      (server.handle [heldUpload 300, heldUpload 100]).1.blocks =
        (server.handle group).1.blocks := by
  intro service server group
  obtain ⟨-, hblocks, -, hmembers⟩ := handle_isolated service [] group
  have hsort : (group.insertionSort fun first second =>
      first.completion service ≤ second.completion service) =
        [heldUpload 100, heldUpload 300, heldUpload 60000] := by decide
  have hquiet : ∀ result ∈ (alone service (heldUpload 60000)).results,
      result.status? ≠ some .ok := by
    rw [alone, handle_singleton]
    decide
  refine ⟨?_, hquiet, ?_⟩
  · rw [hblocks, hsort]
    simp only [List.flatMap_cons, List.flatMap_nil, List.append_nil, List.append_assoc]
  · have hwithout := (hmembers [heldUpload 300] _ [heldUpload 100] rfl).2 hquiet
    rw [List.singleton_append] at hwithout
    rw [hwithout]

end Server

end Echo

end EchoBackend
