/-
# Connections of a trial

What a script does on one connection: the bytes that it writes, the parts that it reads, the requests
that it serves and the responses that it receives.  Whatever it does on the other connections, on this
one it only goes on in the ways of `Line.Runs`; `runs_perform` says so of a step and `runs_play` of
a whole script.  An orderly script can be played (`Ready.play`).
-/
import EchoBackend.Proofs.Trial.Steps
import EchoBackend.Proofs.Wire.Runs

namespace EchoBackend

namespace Trial

open Http Wire Echo

/-! ## One connection of a script -/

namespace Step

/-- What a step writes to a connection. -/
def writes (name : String) : Step → Bytes
  | send other bytes => if other = name then bytes else []
  | _ => []

/-- What a step reads off a connection. -/
def reads (name : String) : Step → List Part
  | read other part => if other = name then [part] else []
  | _ => []

end Step

/-- What a step and its answer deliver over a connection. -/
def delivered (name : String) (event : Step × Answer) : List Response :=
  if event.1 = .receive name then event.2.response?.toList else []

/-- What a script writes to a connection. -/
def written (name : String) (script : List Step) : Bytes := script.flatMap (Step.writes name)

/-- What happens on a connection while a script is played. -/
def historyOf (name : String) (script : List Step) (played : Played) : History where
  parts := script.flatMap (Step.reads name)
  served := servedOn name played.served
  received := (script.zip played.answers).flatMap (delivered name)

/-- The connection of a name, a new one if there is none yet. -/
def lineOf (host : Host) (name : String) : Line := (host.line? name).getD {}

variable {service : Service} {told : Bool} {name other : String} {opened : List String}
  {host : Host} {line : Line} {trial : Trial} {step : Step} {script : List Step} {turn : Turn}
  {played rest : Played}

/-- The connection of a name if there is one. -/
theorem lineOf_of_some (h : host.line? name = some line) : lineOf host name = line := by
  rw [lineOf, h]
  rfl

/-- The connection of a name if there is none yet. -/
theorem lineOf_of_none (h : host.line? name = none) : lineOf host name = {} := by
  rw [lineOf, h]
  rfl

/-- What a script reads off a connection. -/
theorem parts_historyOf :
    (historyOf name script played).parts = script.flatMap (Step.reads name) := rfl

/-- A script that goes on after a turn. -/
theorem historyOf_cons : historyOf name (step :: script) (turn.followedBy rest) =
    (⟨step.reads name, servedOn name turn.served, delivered name (step, turn.answer)⟩ : History) ++
      historyOf name script rest := by
  show History.mk _ (servedOn name (turn.served ++ rest.served)) _ = History.mk _ _ _
  rw [servedOn_append]
  rfl

/-! ## What becomes of a connection -/

/-- Nothing happened on a connection. -/
theorem runs_of_same {history : History} {before after : Line} (hparts : history.parts = [])
    (hserved : history.served = []) (hreceived : history.received = []) (hline : after = before) :
    Line.Runs service told before history after := by
  rcases history with ⟨parts, served, received⟩
  obtain rfl : parts = [] := hparts
  obtain rfl : served = [] := hserved
  obtain rfl : received = [] := hreceived
  rw [hline]
  exact .still before

/-- A client who goes away leaves the other connections alone. -/
theorem servedOn_leave (h : other = name → host.line? name = none) :
    servedOn name (host.leave other).1 = [] := by
  cases hline : host.line? other with
  | none => rw [Host.leave_of_none hline]; rfl
  | some line =>
    rw [Host.leave_of_some hline]
    refine (servedOn_tagged _).trans (if_neg fun hother => ?_)
    have hnone := h hother
    rw [← hother, hline] at hnone
    contradiction

/-- A client who connects changes no connection that is there. -/
theorem runs_connect (h : other = name → host.line? name = none) :
    Line.Runs service told (lineOf host name) ⟨[], servedOn name (host.connect other).1, []⟩
      (lineOf (host.connect other).2 name) := by
  refine runs_of_same rfl (servedOn_leave h) rfl ?_
  by_cases hname : name = other
  · rw [lineOf_of_some (Host.line?_connect.trans (if_pos hname)), lineOf_of_none (h hname.symm)]
  · rw [lineOf, Host.line?_connect, if_neg hname]
    rfl

/-- A part is read off a connection. -/
theorem runs_read (hline : host.line? other = some line) (part : Part)
    (htold : host.stopping → told) :
    Line.Runs host.service told (lineOf host name)
      ⟨(Step.read other part).reads name, servedOn name (host.read other line part).1, []⟩
      (lineOf (host.read other line part).2 name) := by
  by_cases hname : other = name
  · subst hname
    have hserved : servedOn other (host.read other line part).1 =
        (line.stage.feed host.service host.clock host.stopping part).2.toList :=
      (servedOn_tagged _).trans (if_pos rfl)
    have hreads : (Step.read other part).reads other = [part] := if_pos rfl
    rw [hserved, hreads, lineOf_of_some hline, lineOf_of_some (Host.line?_read.trans (if_pos rfl))]
    exact .read htold rfl
  · refine runs_of_same (if_neg hname) ((servedOn_tagged _).trans (if_neg hname)) rfl ?_
    rw [lineOf, Host.line?_read, if_neg (Ne.symm hname)]
    rfl

/-- A client receives a response. -/
theorem runs_received {stage : Stage} {response : Response} {rest : List Response}
    (hline : host.line? other = some ⟨stage, response :: rest⟩) :
    Line.Runs service told (lineOf host name)
      ⟨[], [], delivered name (.receive other, .received (.response response))⟩
      (lineOf (host.put other ⟨stage, rest⟩) name) := by
  by_cases hname : other = name
  · subst hname
    have hdelivered : delivered other (.receive other, .received (.response response)) =
        [response] := if_pos rfl
    rw [hdelivered, lineOf_of_some hline, lineOf_of_some (Host.line?_put.trans (if_pos rfl))]
    exact .received stage response rest
  · refine runs_of_same rfl rfl (if_neg fun heq => hname (Step.receive.inj heq)) ?_
    rw [lineOf, Host.line?_put, if_neg (Ne.symm hname)]
    rfl

/-- Time passes. -/
theorem runs_wait (h : host.Sound) (milliseconds : Nat) (htold : host.stopping → told) :
    Line.Runs host.service told (lineOf host name)
      ⟨[], servedOn name (host.wait milliseconds).1, []⟩
      (lineOf (host.wait milliseconds).2 name) := by
  rw [Host.servedOn_wait h.names]
  cases hline : host.line? name with
  | none =>
    rw [lineOf_of_none hline, lineOf_of_none (by rw [Host.line?_wait, hline]; rfl)]
    exact .still _
  | some line =>
    rw [lineOf_of_some hline, lineOf_of_some (by rw [Host.line?_wait, hline]; rfl)]
    exact .expired htold rfl

/-- Something about the stop signal changes. -/
theorem runs_changed {next : Trial} (h : Changed trial next) (htold : next.host.stopping → told) :
    Line.Runs service told (lineOf trial.host name) {} (lineOf next.host name) := by
  obtain ⟨events, hhost | hhost⟩ := h.host
  · rw [hhost]
    exact .still _
  · have hstop : next.host.line? name =
        (trial.host.line? name).map fun line => { line with stage := line.stage.stop } := by
      rw [hhost]
      exact Host.line?_stop
    cases hline : trial.host.line? name with
    | none =>
      rw [hline] at hstop
      rw [lineOf_of_none hline, lineOf_of_none hstop]
      exact .still _
    | some line =>
      rw [hline] at hstop
      rw [lineOf_of_some hline, lineOf_of_some hstop]
      exact .stopped line (htold (by rw [hhost]; rfl))

/-- **A step on one connection.**  It goes on in one of its ways, if the client does not go away and
does not connect under the same name once more. -/
theorem runs_perform (h : Sound trial) (hturn : trial.perform step = .ok turn)
    (htold : turn.next.host.stopping → told) (hclose : step ≠ .close name)
    (hconnect : step = .connect name → trial.host.line? name = none) :
    Line.Runs trial.host.service told (lineOf trial.host name)
      ⟨step.reads name, servedOn name turn.served, delivered name (step, turn.answer)⟩
      (lineOf turn.next.host name) := by
  cases performed hturn with
  | idle hread hanswer =>
    refine runs_of_same ?_ rfl ?_ rfl
    · cases step with
      | read other part => exact absurd rfl (hread other part)
      | _ => rfl
    · show (if _ then _ else _) = _
      rw [hanswer]
      exact ite_self _
  | connected other _ _ => exact runs_connect fun hname => hconnect (hname ▸ rfl)
  | read part hline => exact runs_read hline part htold
  | received hline => exact runs_received hline
  | closed other =>
    have hname : other ≠ name := fun hname => hclose (hname ▸ rfl)
    refine runs_of_same rfl (servedOn_leave fun heq => absurd heq hname) rfl ?_
    rw [lineOf, lineOf]
    exact congrArg (Option.getD · {}) (Host.line?_leave.trans (if_neg (Ne.symm hname)))
  | waited milliseconds => exact runs_wait h.host milliseconds htold
  | outputClosed => exact .still _
  | changed habout hchanged =>
    cases step with
    | trigger => exact runs_changed hchanged htold
    | dropHandle => exact runs_changed hchanged htold
    | signal => exact runs_changed hchanged htold
    | _ => contradiction

/-- A connection that is not there is not there after a step either, unless it is opened. -/
theorem line?_perform (h : trial.host.line? name = none) (hturn : trial.perform step = .ok turn)
    (hconnect : step ≠ .connect name) : turn.next.host.line? name = none := by
  have hother {other : String} {line : Line} (hline : trial.host.line? other = some line) :
      name ≠ other := by
    rintro rfl
    rw [h] at hline
    contradiction
  cases performed hturn with
  | idle => exact h
  | connected other _ _ =>
    have hname : name ≠ other := fun hname => hconnect (hname ▸ rfl)
    exact Host.line?_connect.trans ((if_neg hname).trans h)
  | read part hline => exact Host.line?_read.trans ((if_neg (hother hline)).trans h)
  | received hline => exact Host.line?_put.trans ((if_neg (hother hline)).trans h)
  | closed other =>
    refine Host.line?_leave.trans ?_
    rw [h]
    exact ite_self _
  | waited milliseconds => exact Host.line?_wait.trans (by rw [h]; rfl)
  | outputClosed => exact h
  | changed _ hchanged =>
    obtain ⟨events, hhost | hhost⟩ := hchanged.host
    · rw [hhost]
      exact h
    · rw [hhost, Host.line?_stop]
      exact Option.map_eq_none_iff.mpr h

/-- **A script on one connection.**  It goes on in its ways, if the client connects once and does not go
away. -/
theorem runs_play (h : Sound trial) (hplay : trial.play script = .ok played)
    (htold : played.final.host.stopping → told) (hclose : .close name ∉ script)
    (honce : script.count (.connect name) ≤ 1)
    (hnew : .connect name ∈ script → trial.host.line? name = none) :
    Line.Runs trial.host.service told (lineOf trial.host name) (historyOf name script played)
      (lineOf played.final.host name) := by
  induction script generalizing trial played with
  | nil =>
    obtain rfl := Except.ok.inj hplay
    exact .still _
  | cons step script ih =>
    obtain ⟨turn, rest, hturn, hrest, rfl⟩ := play_cons_eq_ok_iff.mp hplay
    have htold : rest.final.host.stopping → told := htold
    rw [List.mem_cons, not_or] at hclose
    have hfirst := @runs_perform told name _ _ _ h hturn
      (fun hstopping => htold (stopping_play hstopping hrest)) (Ne.symm hclose.1)
      fun hstep => hnew (hstep ▸ List.mem_cons_self)
    have hlater := ih (h.perform hturn) hrest htold hclose.2
      (Nat.le_trans List.count_le_count_cons honce) fun hmem => by
        -- The client connects once, so it did not do so in the first step if it does later.
        have hconnect : step ≠ .connect name := by
          rintro rfl
          rw [List.count_cons_self] at honce
          have := List.count_pos_iff.mpr hmem
          omega
        exact line?_perform (hnew (List.mem_cons_of_mem _ hmem)) hturn hconnect
    rw [service_perform hturn] at hlater
    rw [historyOf_cons]
    exact hfirst.append hlater

/-! ## Orderly scripts -/

namespace Step

/-- The connection that a step opens. -/
def opens : Step → List String
  | connect name => [name]
  | _ => []

/-- Whether a step may come once some connections were opened: it opens another one, it is about one
of them that stays open, it lets time pass or looks. -/
def fits (opened : List String) : Step → Bool
  | connect name => !opened.contains name
  | send name _ => opened.contains name
  | read name _ => opened.contains name
  | receive name => opened.contains name
  | wait _ => true
  | awaitExit => true
  | _ => false

end Step

/-- Whether every step of a script may come where it comes. -/
def isOrderly (opened : List String) : List Step → Bool
  | [] => true
  | step :: steps => step.fits opened && isOrderly (opened ++ step.opens) steps

/-- Clients can reach the instance, it goes on, and the given connections are there. -/
structure Ready (opened : List String) (trial : Trial) : Prop where
  link : trial.link = .up
  stopping : trial.host.stopping = false
  lines : ∀ name ∈ opened, (trial.host.line? name).isSome

/-- More about connections that are there keeps an instance ready. -/
theorem Ready.withHost (h : Ready opened trial) (hstopping : host.stopping = trial.host.stopping)
    (hlines : ∀ name, (trial.host.line? name).isSome → (host.line? name).isSome) :
    Ready opened { trial with host := host } :=
  ⟨h.link, hstopping.trans h.stopping, fun name hname => hlines name (h.lines name hname)⟩

/-- What is put under a name is there, and so is what was there before. -/
theorem isSome_line?_put (h : (host.line? other).isSome) :
    ((host.put name line).line? other).isSome := by
  rw [Host.line?_put]
  split
  · rfl
  · exact h

/-- **An orderly step** can be performed, and leaves an instance that is ready for more. -/
theorem Ready.perform (h : Ready opened trial) (hfits : step.fits opened = true) :
    ∃ turn, trial.perform step = .ok turn ∧ Ready (opened ++ step.opens) turn.next := by
  have hopened {name : String} (hname : opened.contains name = true) :
      ∃ line, trial.host.line? name = some line :=
    Option.isSome_iff_exists.mp (h.lines name (List.contains_iff_mem.mp hname))
  have hnone {next : Trial} (hnext : Ready opened next) : Ready (opened ++ []) next := by
    rwa [List.append_nil]
  cases step with
  | connect name =>
    refine ⟨trial.turn .connected (trial.host.connect name), ?_, h.link,
      Host.reports_connect.stopping.trans h.stopping, fun other hother => ?_⟩
    · simp only [Trial.perform, h.link, h.stopping]
    · show ((trial.host.connect name).2.line? other).isSome
      rw [Host.line?_connect]
      rcases List.mem_append.mp hother with hother | hother
      · split
        · rfl
        · exact h.lines other hother
      · rw [if_pos (List.mem_singleton.mp hother)]
        rfl
  | send name bytes =>
    obtain ⟨line, hline⟩ := hopened hfits
    exact ⟨_, onLine_eq_ok_iff.mpr ⟨line, hline, rfl⟩, hnone h⟩
  | read name part =>
    obtain ⟨line, hline⟩ := hopened hfits
    have hreports : trial.host.Reports (trial.host.read name line part) := Host.reports_read hline
    have hread := h.withHost hreports.stopping fun _ => isSome_line?_put
    exact ⟨_, onLine_eq_ok_iff.mpr ⟨line, hline, rfl⟩, hnone hread⟩
  | receive name =>
    obtain ⟨⟨stage, inbox⟩, hline⟩ := hopened hfits
    refine ⟨_, onLine_eq_ok_iff.mpr ⟨⟨stage, inbox⟩, hline, rfl⟩, hnone ?_⟩
    cases inbox with
    | nil => exact h
    | cons response rest => exact h.withHost rfl fun _ => isSome_line?_put
  | wait milliseconds =>
    refine ⟨_, rfl, hnone (h.withHost Host.reports_wait.stopping fun name hname => ?_)⟩
    rw [Host.line?_wait, Option.isSome_map]
    exact hname
  | awaitExit => exact ⟨_, rfl, hnone h⟩
  | _ => contradiction

/-- **An orderly script** can be played, and the instance goes on. -/
theorem Ready.play (h : Ready opened trial) (horderly : isOrderly opened script = true) :
    ∃ played, trial.play script = .ok played ∧ played.final.host.stopping = false := by
  induction script generalizing trial opened with
  | nil => exact ⟨_, rfl, h.stopping⟩
  | cons step script ih =>
    rw [isOrderly, Bool.and_eq_true] at horderly
    obtain ⟨turn, hturn, hready⟩ := h.perform horderly.1
    obtain ⟨rest, hrest, hstopping⟩ := ih hready horderly.2
    exact ⟨turn.followedBy rest, play_cons_eq_ok_iff.mpr ⟨turn, rest, hturn, hrest, rfl⟩, hstopping⟩

end Trial

end EchoBackend
