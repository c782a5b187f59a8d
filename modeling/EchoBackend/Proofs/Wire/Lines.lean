/-
# The connections of an instance

How what an instance does changes its connections, its sink and its state: whatever is about one
connection leaves the others alone (`Host.line?_read`, `Host.line?_leave`, `Host.line?_connect`), time
passes on all of them alike (`Host.line?_wait`, `Host.servedOn_wait`), and all of it is reported
(`Host.Reports`).
-/
import EchoBackend.Proofs.Server.Turn
import EchoBackend.Proofs.Wire.Served
import EchoBackend.Wire.Host

namespace EchoBackend

namespace Wire

open Http Echo

/-! ## What was served on a connection -/

/-- What was served on the connections of a name. -/
def servedOn (name : String) (log : List (String × Served)) : List Served :=
  (log.filter (·.1 == name)).map Prod.snd

section ServedOn

variable {name other : String} {log more : List (String × Served)}

@[simp] theorem servedOn_append :
    servedOn name (log ++ more) = servedOn name log ++ servedOn name more := by
  rw [servedOn, List.filter_append, List.map_append]
  rfl

/-- What is served on a connection is served on no other one. -/
@[simp] theorem servedOn_tagged (served : Option Served) :
    servedOn name (tagged other served) = if other = name then served.toList else [] := by
  cases served with
  | none => exact (ite_self _).symm
  | some served =>
    by_cases hname : other = name
    · simp [servedOn, tagged, hname]
    · simp [servedOn, tagged, hname]

/-- What was served on a connection was served. -/
theorem mem_of_mem_servedOn {served : Served} (h : served ∈ servedOn name log) :
    (name, served) ∈ log := by
  obtain ⟨⟨other, served⟩, hmem, rfl⟩ := List.mem_map.mp h
  obtain ⟨hmem, hname⟩ := List.mem_filter.mp hmem
  exact beq_iff_eq.mp hname ▸ hmem

@[simp] theorem map_snd_tagged (served : Option Served) :
    (tagged name served).map Prod.snd = served.toList := by
  cases served <;> rfl

end ServedOn

/-! ## Named connections -/

section Lookup

variable {name other : String} {line : Line} {lines : List (String × Line)}

/-- A connection that was forgotten cannot be found; the others can. -/
theorem lookup_filter (lines : List (String × Line)) (name other : String) :
    (lines.filter (·.1 != name)).lookup other =
      if other = name then none else lines.lookup other := by
  induction lines with
  | nil => simp
  | cons entry lines ih =>
    rcases entry with ⟨key, line⟩
    by_cases hkey : key = name
    · subst hkey
      rw [List.filter_cons_of_neg (by simp), ih]
      by_cases hother : other = key
      · rw [if_pos hother, if_pos hother]
      · rw [if_neg hother, if_neg hother, List.lookup_cons, beq_eq_false_iff_ne.mpr hother]
    · rw [List.filter_cons_of_pos (by simpa using hkey), List.lookup_cons, List.lookup_cons, ih]
      by_cases hother : other = key
      · subst hother
        simp [hkey]
      · simp [beq_eq_false_iff_ne.mpr hother]

/-- Changing all connections changes each one. -/
theorem lookup_map (lines : List (String × Line)) (change : Line → Line) (name : String) :
    (lines.map fun (name, line) => (name, change line)).lookup name =
      (lines.lookup name).map change := by
  induction lines with
  | nil => rfl
  | cons entry lines ih =>
    rcases entry with ⟨key, line⟩
    rw [List.map_cons, List.lookup_cons, List.lookup_cons, ih]
    cases name == key <;> rfl

/-- A connection that is found is there. -/
theorem mem_of_lookup (h : lines.lookup name = some line) : (name, line) ∈ lines := by
  obtain ⟨before, after, rfl, -⟩ := List.lookup_eq_some_iff.mp h
  exact List.mem_append_right _ List.mem_cons_self

/-- If no two connections have one name, what is served on all of them at once is served on each
one on its own. -/
theorem servedOn_flatMap (hnames : (lines.map Prod.fst).Nodup) (serve : Line → Option Served)
    (name : String) : servedOn name (lines.flatMap fun (name, line) => tagged name (serve line)) =
      (lines.lookup name).elim [] fun line => (serve line).toList := by
  induction lines with
  | nil => rfl
  | cons entry lines ih =>
    rcases entry with ⟨key, line⟩
    rw [List.map_cons, List.nodup_cons] at hnames
    rw [List.flatMap_cons, servedOn_append, ih hnames.2, servedOn_tagged, List.lookup_cons]
    by_cases hname : name = key
    · subst hname
      -- Its name occurs once, so nothing more is served under it.
      have hrest : lines.lookup name = none := by
        refine List.lookup_eq_none_iff.mpr fun entry hentry => ?_
        rw [bne_iff_ne]
        rintro rfl
        exact hnames.1 (List.mem_map.mpr ⟨entry, hentry, rfl⟩)
      rw [hrest, if_pos rfl, beq_self_eq_true]
      exact List.append_nil _
    · rw [if_neg (Ne.symm hname), beq_eq_false_iff_ne.mpr hname]
      rfl

end Lookup

namespace Host

variable {host : Host} {name other : String} {line : Line} {part : Part} {log : List Served}
  {milliseconds : Nat}

/-! ## What becomes of a connection -/

/-- A forgotten connection is gone, the others stay. -/
@[simp] theorem line?_forget : (host.forget name).line? other =
    if other = name then none else host.line? other :=
  lookup_filter host.lines name other

/-- What is put under a name is found there, the others stay. -/
@[simp] theorem line?_put : (host.put name line).line? other =
    if other = name then some line else host.line? other := by
  show ((name, line) :: (host.forget name).lines).lookup other = _
  rw [List.lookup_cons]
  by_cases hother : other = name
  · rw [if_pos hother, beq_iff_eq.mpr hother]
  · rw [if_neg hother, beq_eq_false_iff_ne.mpr hother]
    exact line?_forget.trans (if_neg hother)

/-- A part that is read changes the connection that it is read off. -/
@[simp] theorem line?_read : (host.read name line part).2.line? other =
    if other = name then
      some (line.after host.service (line.stage.feed host.service host.clock host.stopping part))
    else host.line? other :=
  line?_put

/-- What comes of a client who goes away. -/
theorem leave_of_some (h : host.line? name = some line) : host.leave name =
    ((host.read name line (.failure brokenBody)).1,
      (host.read name line (.failure brokenBody)).2.forget name) := by
  rw [leave, h]

/-- Nothing happens if the client is not there. -/
theorem leave_of_none (h : host.line? name = none) : host.leave name = ([], host) := by
  rw [leave, h]

/-- The connection of a client who goes away is gone, the others stay. -/
@[simp] theorem line?_leave : (host.leave name).2.line? other =
    if other = name then none else host.line? other := by
  cases hline : host.line? name with
  | some line =>
    rw [leave_of_some hline, line?_forget, line?_read]
    by_cases hother : other = name
    · rw [if_pos hother, if_pos hother]
    · rw [if_neg hother, if_neg hother, if_neg hother]
  | none =>
    rw [leave_of_none hline]
    by_cases hother : other = name
    · rw [if_pos hother, hother, hline]
    · rw [if_neg hother]

/-- A client who connects has a new connection, the others stay. -/
@[simp] theorem line?_connect : (host.connect name).2.line? other =
    if other = name then some {} else host.line? other := by
  rw [connect, line?_put, line?_leave]
  by_cases hother : other = name
  · rw [if_pos hother, if_pos hother]
  · rw [if_neg hother, if_neg hother, if_neg hother]

/-- The connections after some time. -/
theorem lines_wait : (host.wait milliseconds).2.lines = host.lines.map fun (name, line) =>
    (name, line.after host.service
      (line.stage.expire host.service (host.clock + milliseconds) host.stopping)) :=
  List.map_map

/-- Time passes on every connection. -/
@[simp] theorem line?_wait : (host.wait milliseconds).2.line? name =
    (host.line? name).map fun line => line.after host.service
      (line.stage.expire host.service (host.clock + milliseconds) host.stopping) := by
  rw [line?, lines_wait]
  exact lookup_map host.lines (fun line => line.after host.service
    (line.stage.expire host.service (host.clock + milliseconds) host.stopping)) name

/-- What is served because time passes. -/
theorem served_wait : (host.wait milliseconds).1 = host.lines.flatMap fun (name, line) =>
    tagged name
      (line.stage.expire host.service (host.clock + milliseconds) host.stopping).2 := by
  rw [wait, List.flatMap_map]

/-- If no two connections have one name, time is up for each one on its own. -/
theorem servedOn_wait (hnames : (host.lines.map Prod.fst).Nodup) :
    servedOn name (host.wait milliseconds).1 = (host.line? name).elim [] fun line =>
      (line.stage.expire host.service (host.clock + milliseconds) host.stopping).2.toList := by
  rw [served_wait]
  exact servedOn_flatMap hnames (fun line =>
    (line.stage.expire host.service (host.clock + milliseconds) host.stopping).2) name

/-- An instance that is told to stop stops each of its connections. -/
@[simp] theorem line?_stop :
    host.stop.line? name = (host.line? name).map fun line => { line with stage := line.stage.stop } :=
  lookup_map host.lines (fun line => { line with stage := line.stage.stop }) name

/-! ## What is reported -/

/-- A report adds the blocks of the requests to the sink. -/
@[simp] theorem blocks_report :
    (host.report log).sink.blocks = host.sink.blocks ++ Served.blocks host.service log := by
  rw [report, Sink.foldl_emit]

/-- Something that an instance does while it goes on: it reports which requests were served, and their
responses are what clients get. -/
structure Reports (host : Host) (step : List (String × Served) × Host) : Prop where
  service : step.2.service = host.service
  stopping : step.2.stopping = host.stopping
  blocks : step.2.sink.blocks =
    host.sink.blocks ++ Served.blocks host.service (step.1.map Prod.snd)
  inbox : ∀ name, ∀ line ∈ step.2.line? name, ∀ response ∈ line.inbox,
    (∃ before ∈ host.line? name, response ∈ before.inbox) ∨
      response ∈ Served.responses host.service (step.1.map Prod.snd)

/-- What is read is reported. -/
theorem reports_read (hline : host.line? name = some line) :
    host.Reports (host.read name line part) := by
  refine ⟨rfl, rfl, blocks_report.trans ?_, fun other found hfound response hresponse => ?_⟩
  · rw [read, map_snd_tagged]
  · rw [line?_read] at hfound
    split at hfound
    case isFalse => exact .inl ⟨found, hfound, hresponse⟩
    case isTrue hother =>
      obtain rfl := Option.some.inj hfound
      rw [read, map_snd_tagged]
      rcases List.mem_append.mp hresponse with hold | hnew
      · exact .inl ⟨line, hother ▸ hline, hold⟩
      · exact .inr hnew

/-- That a client went away is reported. -/
theorem reports_leave : host.Reports (host.leave name) := by
  cases hline : host.line? name with
  | none =>
    rw [leave_of_none hline]
    exact ⟨rfl, rfl, (List.append_nil _).symm, fun _ line hfound _ hresponse =>
      .inl ⟨line, hfound, hresponse⟩⟩
  | some line =>
    rw [leave_of_some hline]
    obtain ⟨hservice, hstopping, hblocks, hinbox⟩ :=
      @reports_read _ _ _ (.failure brokenBody) hline
    refine ⟨hservice, hstopping, hblocks, fun other found hfound => ?_⟩
    rw [line?_forget] at hfound
    split at hfound
    · contradiction
    · exact hinbox other found hfound

/-- That a client connects is reported. -/
theorem reports_connect : host.Reports (host.connect name) := by
  obtain ⟨hservice, hstopping, hblocks, hinbox⟩ := @reports_leave host name
  refine ⟨hservice, hstopping, hblocks, fun other found hfound response hresponse => ?_⟩
  rw [connect, line?_put] at hfound
  split at hfound
  · obtain rfl := Option.some.inj hfound
    exact absurd hresponse List.not_mem_nil
  · exact hinbox other found hfound response hresponse

/-- Whose time is up is reported. -/
theorem reports_wait : host.Reports (host.wait milliseconds) := by
  refine ⟨rfl, rfl, blocks_report, fun name found hfound response hresponse => ?_⟩
  rw [line?_wait] at hfound
  obtain ⟨line, hline, rfl⟩ := Option.map_eq_some_iff.mp hfound
  rcases List.mem_append.mp hresponse with hold | hnew
  · exact .inl ⟨line, hline, hold⟩
  · obtain ⟨served, hserved, rfl⟩ := List.mem_map.mp hnew
    have hmem : (name, served) ∈ (host.wait milliseconds).1 := by
      rw [served_wait]
      refine List.mem_flatMap.mpr ⟨_, mem_of_lookup hline, List.mem_map.mpr ⟨served, hserved, rfl⟩⟩
    exact .inr (List.mem_map_of_mem (List.mem_map_of_mem hmem))

end Host

end Wire

end EchoBackend
