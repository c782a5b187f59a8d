/-
# Instances that have stopped

Once an instance was told to stop, each of its connections is closed or has a request under way
(`Host.Sound`).  So it has stopped exactly if no request is under way (`Host.hasStopped_iff`), and after
the time limit for requests exactly if no head of a request was on its way before
(`Host.hasStopped_wait_iff`).
-/
import EchoBackend.Proofs.Wire.Lines

namespace EchoBackend

namespace Wire

open Http Echo

variable {service : Service} {now later milliseconds : Nat} {stopping : Bool}

namespace Stage

variable {stage : Stage} {part : Part} {exchange : Exchange} {piece : Piece} {request : Request}

/-- What is known of a connection at a moment. -/
structure Sound (now : Nat) (stopping : Bool) (stage : Stage) : Prop where
  /-- No connection waits for a request once the instance was told to stop. -/
  settled : stopping = true → stage ≠ .waiting
  /-- Nothing is handled since a moment that is still to come. -/
  began : ∀ exchange, stage = .handling exchange → exchange.began ≤ now

/-- A closed connection stays closed. -/
theorem sound_closed : closed.Sound now stopping := ⟨fun _ => nofun, nofun⟩

/-- An answer closes the connection of an instance that is about to stop. -/
theorem sound_answered : (answered stopping).Sound now stopping := by
  cases stopping with
  | true => exact sound_closed
  | false => exact ⟨nofun, nofun⟩

/-- A request that is handled since a moment that has come. -/
theorem sound_handling (h : exchange.began ≤ now) : (handling exchange).Sound now stopping :=
  ⟨fun _ => nofun, fun _ hexchange => handling.inj hexchange ▸ h⟩

/-- A head is complete. -/
theorem sound_start : (start service now stopping request).1.Sound now stopping := by
  rw [start]
  split
  · exact sound_answered
  · split
    · exact sound_handling (Nat.le_refl now)
    · exact sound_answered

/-- A piece of a body is read. -/
theorem sound_gather (limit : Nat) (h : exchange.began ≤ now) :
    (gather limit stopping exchange piece).1.Sound now stopping := by
  rw [gather]
  split
  · exact sound_answered
  · exact sound_handling h

/-- A part is read. -/
theorem Sound.feed (h : stage.Sound now stopping) :
    (stage.feed service now stopping part).1.Sound now stopping := by
  have hreceive (hstage : stage.Sound now stopping) :
      (stage.receive service now stopping part).1.Sound now stopping := by
    cases part with
    | beginning => exact ⟨fun _ => nofun, nofun⟩
    | head request => exact sound_start
    | refusal cause => exact sound_closed
    | ended => exact sound_closed
    | data bytes => exact hstage
    | last => exact hstage
    | failure message => exact hstage
  cases stage with
  | waiting => exact hreceive h
  | arriving => exact hreceive h
  | closed => exact sound_closed
  | handling exchange =>
    have hbegan := h.began exchange rfl
    cases part with
    | data bytes => exact sound_gather _ hbegan
    | failure message => exact sound_gather _ hbegan
    | last => exact sound_answered
    | _ => exact sound_handling hbegan

/-- Time passes. -/
theorem Sound.expire (h : stage.Sound now stopping) (hle : now ≤ later) :
    (stage.expire service later stopping).1.Sound later stopping := by
  cases stage with
  | handling exchange =>
    rw [Stage.expire]
    split
    · exact sound_answered
    · exact sound_handling (Nat.le_trans (h.began exchange rfl) hle)
  | waiting => exact ⟨h.settled, nofun⟩
  | arriving => exact ⟨h.settled, nofun⟩
  | closed => exact sound_closed

/-- The instance is told to stop. -/
theorem Sound.stop (h : stage.Sound now stopping) : stage.stop.Sound now true := by
  cases stage with
  | handling exchange => exact sound_handling (h.began exchange rfl)
  | arriving => exact ⟨fun _ => nofun, nofun⟩
  | waiting => exact sound_closed
  | closed => exact sound_closed

/-- Without a request under way the connection of an instance that was told to stop is closed. -/
theorem Sound.isBusy_eq_false_iff (h : stage.Sound now true) :
    stage.isBusy = false ↔ stage = .closed := by
  cases stage with
  | waiting => exact absurd rfl (h.settled rfl)
  | arriving => exact iff_of_false (by nofun) (by nofun)
  | handling exchange => exact iff_of_false (by nofun) (by nofun)
  | closed => exact iff_of_true rfl rfl

/-- Once the time limit has passed, only a head that is on its way keeps a connection open. -/
theorem Sound.expire_eq_closed_iff (h : stage.Sound now true)
    (hlimit : now + service.deadline ≤ later) :
    (stage.expire service later true).1 = .closed ↔ stage ≠ .arriving := by
  cases stage with
  | handling exchange =>
    have hbegan := h.began exchange rfl
    rw [Stage.expire, if_pos (by omega)]
    exact iff_of_true rfl (by nofun)
  | waiting => exact absurd rfl (h.settled rfl)
  | arriving => exact iff_of_false (by nofun) (fun hne => hne rfl)
  | closed => exact iff_of_true rfl (by nofun)

end Stage

namespace Host

variable {host : Host} {name : String} {line : Line} {part : Part} {log : List Served}

/-- What is known of an instance at any moment. -/
structure Sound (host : Host) : Prop where
  /-- No two connections have one name. -/
  names : (host.lines.map Prod.fst).Nodup
  stages : ∀ entry ∈ host.lines, entry.2.stage.Sound host.clock host.stopping

/-- An instance without connections. -/
theorem sound_of_lines_eq_nil (h : host.lines = []) : host.Sound :=
  ⟨by rw [h]; exact List.nodup_nil, by rw [h]; nofun⟩

/-- A connection that is found. -/
theorem Sound.stage (h : host.Sound) (hline : host.line? name = some line) :
    line.stage.Sound host.clock host.stopping :=
  h.stages _ (mem_of_lookup hline)

/-- A connection is forgotten. -/
theorem Sound.forget (h : host.Sound) (name : String) : (host.forget name).Sound :=
  ⟨h.names.sublist (List.filter_sublist.map _),
    fun entry hentry => h.stages entry (List.mem_of_mem_filter hentry)⟩

/-- A connection is put in the place of another one. -/
theorem Sound.put (h : host.Sound) (name : String)
    (hline : line.stage.Sound host.clock host.stopping) : (host.put name line).Sound := by
  obtain ⟨hnames, hstages⟩ := h.forget name
  refine ⟨List.nodup_cons.mpr ⟨fun hmem => ?_, hnames⟩, List.forall_mem_cons.mpr ⟨hline, hstages⟩⟩
  obtain ⟨entry, hentry, hname⟩ := List.mem_map.mp hmem
  exact bne_iff_ne.mp (List.mem_filter.mp hentry).2 hname

/-- A part is read. -/
theorem Sound.read (h : host.Sound) (hline : host.line? name = some line) :
    (host.read name line part).2.Sound := by
  have hreport : (host.report
      (line.stage.feed host.service host.clock host.stopping part).2.toList).Sound :=
    ⟨h.names, h.stages⟩
  exact hreport.put name (h.stage hline).feed

/-- A client goes away. -/
theorem Sound.leave (h : host.Sound) (name : String) : (host.leave name).2.Sound := by
  cases hline : host.line? name with
  | none => rwa [leave_of_none hline]
  | some line =>
    rw [leave_of_some hline]
    exact (h.read hline).forget name

/-- A client connects. -/
theorem Sound.connect (h : host.Sound) (name : String) (hopen : host.stopping = false) :
    (host.connect name).2.Sound := by
  refine (h.leave name).put name ⟨fun hstopping => ?_, nofun⟩
  rw [reports_leave.stopping, hopen] at hstopping
  contradiction

/-- All connections are changed. -/
theorem Sound.map {next : Host} (h : host.Sound) (change : Line → Line)
    (hlines : next.lines = host.lines.map fun (name, line) => (name, change line))
    (hchange : ∀ line : Line, line.stage.Sound host.clock host.stopping →
      (change line).stage.Sound next.clock next.stopping) : next.Sound := by
  refine ⟨?_, fun entry hentry => ?_⟩
  · rw [hlines, List.map_map]
    exact h.names
  · rw [hlines] at hentry
    obtain ⟨before, hbefore, rfl⟩ := List.mem_map.mp hentry
    exact hchange _ (h.stages before hbefore)

/-- Time passes. -/
theorem Sound.wait (h : host.Sound) (milliseconds : Nat) : (host.wait milliseconds).2.Sound :=
  h.map
    (fun line => line.after host.service
      (line.stage.expire host.service (host.clock + milliseconds) host.stopping))
    lines_wait fun _ hline => hline.expire (Nat.le_add_right _ _)

/-- The instance is told to stop. -/
theorem Sound.stop (h : host.Sound) : host.stop.Sound :=
  h.map (fun line => { line with stage := line.stage.stop }) rfl fun _ hline => hline.stop

/-- **An instance has stopped exactly if it was told to and no request is under way.** -/
theorem hasStopped_iff (h : host.Sound) : host.hasStopped = true ↔
    host.stopping = true ∧ ∀ entry ∈ host.lines, entry.2.stage.isBusy = false := by
  rw [hasStopped, Bool.and_eq_true, List.all_eq_true]
  refine and_congr_right fun hstopping => forall₂_congr fun entry hentry => ?_
  have hstage := h.stages entry hentry
  rw [hstopping] at hstage
  rw [hstage.isBusy_eq_false_iff, decide_eq_true_iff]

/-- **Once the time limit has passed, an instance has stopped exactly if it was told to and no head of
a request is on its way.** -/
theorem hasStopped_wait_iff (h : host.Sound) (hlimit : host.service.deadline ≤ milliseconds) :
    (host.wait milliseconds).2.hasStopped = true ↔
      host.stopping = true ∧ ∀ entry ∈ host.lines, entry.2.stage ≠ .arriving := by
  have hstopping : (host.wait milliseconds).2.stopping = host.stopping := rfl
  rw [hasStopped, Bool.and_eq_true, List.all_eq_true, lines_wait, List.forall_mem_map, hstopping]
  refine and_congr_right fun hstopping => forall₂_congr fun entry hentry => ?_
  have hstage := h.stages entry hentry
  rw [hstopping] at hstage ⊢
  rw [decide_eq_true_iff]
  exact hstage.expire_eq_closed_iff (Nat.add_le_add_left hlimit host.clock)

end Host

end Wire

end EchoBackend
