/-
# Steps of a trial

`Performed` says what a step of a script can do, one constructor a way; `performed` is the only
place where `Trial.perform` is unfolded.  From it follows what holds at every moment of a trial
(`Sound.play`): the receiver of the stop signal has read nothing yet, so whatever comes is news to it,
and its instance is sound.  Hence an instance is about to stop once the process got its stop signal
(`stopping_of_signal_mem`), and only if somebody told it to (`mem_of_stopping`).
-/
import EchoBackend.Proofs.Http.Fields
import EchoBackend.Proofs.Wire.Stopped
import EchoBackend.Trial

namespace EchoBackend

namespace Trial

open Http Wire

/-! ## What a step does -/

/-- The response that an answer delivers. -/
def Answer.response? : Answer → Option Response
  | received (.response response) => some response
  | _ => none

/-- Something about the stop signal has changed, and the instance may have been told to stop. -/
structure Changed (trial next : Trial) : Prop where
  link : next.link = trial.link
  receiver : next.receiver = trial.receiver
  readUpTo : next.readUpTo = trial.readUpTo
  /-- A stop signal that the process receives is passed on. -/
  signalled : trial.receiver.passed = 0 → next.signalled = true →
    trial.signalled = true ∨ next.host.stopping = true
  host : ∃ events, next.host = { trial.host with events := events } ∨
    next.host = Host.stop { trial.host with events := events }

/-- Whether a step is about the stop signal. -/
def Step.isAboutStop : Step → Bool
  | trigger => true
  | dropHandle => true
  | signal => true
  | _ => false

/-- The ways in which a step can go. -/
inductive Performed (trial : Trial) : Step → Turn → Prop
  /-- Nothing changes, and no response is received. -/
  | idle {step : Step} {answer : Answer} (hread : ∀ name part, step ≠ .read name part)
    (hanswer : answer.response? = none) : Performed trial step { answer := answer, next := trial }
  | connected (name : String) (hlink : trial.link = .up) (hopen : trial.host.stopping = false) :
    Performed trial (.connect name) (trial.turn .connected (trial.host.connect name))
  | read {name : String} {line : Line} (part : Part) (hline : trial.host.line? name = some line) :
    Performed trial (.read name part) (trial.turn .done (trial.host.read name line part))
  | received {name : String} {stage : Stage} {response : Response} {rest : List Response}
    (hline : trial.host.line? name = some ⟨stage, response :: rest⟩) :
    Performed trial (.receive name)
      (trial.turn (.received (.response response)) ([], trial.host.put name ⟨stage, rest⟩))
  | closed (name : String) : Performed trial (.close name)
      (trial.turn .closed (trial.host.leave name))
  | waited (milliseconds : Nat) : Performed trial (.wait milliseconds)
      (trial.turn .done (trial.host.wait milliseconds))
  | changed {step : Step} {next : Trial} (hstep : step.isAboutStop = true)
    (h : Changed trial next) : Performed trial step { answer := .done, next := next }
  | outputClosed : Performed trial .closeOutput
      { answer := .done
        next := { trial with readUpTo := some trial.host.sink.blocks.length } }

variable {trial next : Trial} {step : Step} {script : List Step} {turn : Turn} {played : Played}

/-- A change of the channel stops the instance or leaves it alone. -/
theorem changed_changeChannel (trial : Trial)
    (change : StopSignal.Channel → StopSignal.Channel) :
    Changed trial (trial.changeChannel change) := by
  refine ⟨rfl, rfl, rfl, fun _ => .inl, trial.host.events, ?_⟩
  rw [changeChannel]
  dsimp only
  split
  · exact .inr rfl
  · exact .inl rfl

/-- A process that has just received its first stop signal. -/
def noted (trial : Trial) : Trial :=
  { trial with
    host := { trial.host with events := trial.host.events ++ [signalReceived] }
    signalled := true }

/-- The first stop signal is passed on. -/
theorem signal_of_first (h : trial.signalled = false) : trial.signal = trial.noted.trigger := by
  rw [signal, h]
  rfl

/-- Further ones are not. -/
theorem signal_of_later (h : trial.signalled = true) : trial.signal = trial := by
  rw [signal, if_pos h]

/-- Whoever looks for a message when one was sent is done with waiting. -/
theorem endsWaiting_receive {receiver : StopSignal.Receiver} {channel : StopSignal.Channel}
    (h : receiver.passed < channel.sent) : (receiver.receive channel).1.endsWaiting = true := by
  unfold StopSignal.Receiver.receive
  split
  case h_1 hunread =>
    rw [StopSignal.Receiver.unread] at hunread
    omega
  case h_2 => rfl
  case h_3 => rfl

/-- The stop signal stops an instance that has not read it. -/
theorem host_trigger (h : trial.receiver.passed = 0) : trial.trigger.host = trial.host.stop := by
  show (if _ then _ else _) = _
  exact if_pos (endsWaiting_receive (by rw [h]; exact Nat.succ_pos _))

/-- The signal to the process stops the instance or leaves it alone. -/
theorem changed_signal (trial : Trial) : Changed trial trial.signal := by
  cases h : trial.signalled with
  | true =>
    rw [signal_of_later h]
    exact ⟨rfl, rfl, rfl, fun _ => .inl, trial.host.events, .inl rfl⟩
  | false =>
    rw [signal_of_first h]
    obtain ⟨hlink, hreceiver, hread, -, events, hhost⟩ := changed_changeChannel trial.noted
      fun channel => { channel with sent := channel.sent + 1 }
    refine ⟨hlink, hreceiver, hread, fun hunread _ => .inr ?_, events, hhost⟩
    rw [@host_trigger trial.noted hunread]
    rfl

/-- A step over a connection is one over a connection that exists. -/
theorem onLine_eq_ok_iff {name : String} {act : Line → Turn} : trial.onLine name act = .ok turn ↔
    ∃ line, trial.host.line? name = some line ∧ act line = turn := by
  rw [onLine]
  cases trial.host.line? name with
  | none => simp
  | some line => simp

/-- **A step goes in one of these ways.** -/
theorem performed (h : trial.perform step = .ok turn) : Performed trial step turn := by
  cases step with
  | connect name =>
    simp only [perform] at h
    cases hlink : trial.link with
    | down =>
      rw [hlink] at h
      cases h
      exact .idle nofun rfl
    | up =>
      rw [hlink] at h
      cases hopen : trial.host.stopping with
      | true =>
        rw [hopen] at h
        cases h
        exact .idle nofun rfl
      | false =>
        rw [hopen] at h
        cases h
        exact .connected name hlink hopen
  | send name bytes =>
    obtain ⟨line, -, rfl⟩ := onLine_eq_ok_iff.mp h
    exact .idle nofun rfl
  | read name part =>
    obtain ⟨line, hline, rfl⟩ := onLine_eq_ok_iff.mp h
    exact .read part hline
  | receive name =>
    obtain ⟨⟨stage, inbox⟩, hline, rfl⟩ := onLine_eq_ok_iff.mp h
    cases inbox with
    | cons response rest => exact .received hline
    | nil =>
      refine .idle nofun ?_
      show Answer.response? (.received (if stage = .closed then .ended else .nothing)) = none
      split <;> rfl
  | close name =>
    obtain ⟨line, -, rfl⟩ := onLine_eq_ok_iff.mp h
    exact .closed name
  | wait milliseconds =>
    obtain rfl := Except.ok.inj h
    exact .waited milliseconds
  | trigger =>
    obtain rfl := Except.ok.inj h
    exact .changed rfl (changed_changeChannel trial _)
  | dropHandle =>
    obtain rfl := Except.ok.inj h
    exact .changed rfl (changed_changeChannel trial _)
  | signal =>
    obtain rfl := Except.ok.inj h
    exact .changed rfl (changed_signal trial)
  | awaitExit =>
    obtain rfl := Except.ok.inj h
    refine .idle nofun ?_
    split <;> rfl
  | closeOutput =>
    obtain rfl := Except.ok.inj h
    exact .outputClosed

/-- An instance goes on with its service. -/
theorem service_perform (hturn : trial.perform step = .ok turn) :
    turn.next.host.service = trial.host.service := by
  cases performed hturn with
  | idle => rfl
  | connected name _ _ => exact Host.reports_connect.service
  | read part hline => exact (Host.reports_read hline).service
  | received hline => rfl
  | closed name => exact Host.reports_leave.service
  | waited milliseconds => rfl
  | outputClosed => rfl
  | changed _ hchanged =>
    obtain ⟨events, hhost | hhost⟩ := hchanged.host
    · rw [hhost]
    · rw [hhost]
      rfl

/-! ## What a script does -/

/-- A script that can be played is a step that can be performed, and a script after it. -/
theorem play_cons_eq_ok_iff : trial.play (step :: script) = .ok played ↔
    ∃ turn rest, trial.perform step = .ok turn ∧ turn.next.play script = .ok rest ∧
      played = turn.followedBy rest := by
  rw [play]
  cases trial.perform step with
  | error fault => simp
  | ok turn =>
    dsimp only
    rw [Except.map_eq_ok_iff]
    constructor
    · rintro ⟨rest, hrest, rfl⟩
      exact ⟨turn, rest, rfl, hrest, rfl⟩
    · rintro ⟨_, rest, hturn, hrest, rfl⟩
      obtain rfl := Except.ok.inj hturn
      exact ⟨rest, hrest, rfl⟩

/-- What every step keeps a script keeps. -/
theorem holds_play {motive : Trial → Prop}
    (hstep : ∀ {trial step turn}, motive trial → trial.perform step = .ok turn → motive turn.next)
    (h : motive trial) (hplay : trial.play script = .ok played) : motive played.final := by
  induction script generalizing trial played with
  | nil =>
    obtain rfl := Except.ok.inj hplay
    exact h
  | cons step script ih =>
    obtain ⟨turn, rest, hturn, hrest, rfl⟩ := play_cons_eq_ok_iff.mp hplay
    have hrest := ih (hstep h hturn) hrest
    exact hrest

/-- An instance goes on with its service through a script. -/
theorem service_play (hplay : trial.play script = .ok played) :
    played.final.host.service = trial.host.service :=
  holds_play (motive := fun next => next.host.service = trial.host.service)
    (fun hservice hturn => (service_perform hturn).trans hservice) rfl hplay

/-- Two scripts are played one after the other. -/
theorem play_append {more : List Step} {rest : Played} (h : trial.play script = .ok played)
    (hrest : played.final.play more = .ok rest) : trial.play (script ++ more) =
      .ok ⟨played.answers ++ rest.answers, played.served ++ rest.served, rest.final⟩ := by
  induction script generalizing trial played with
  | nil =>
    obtain rfl := Except.ok.inj h
    exact hrest
  | cons step script ih =>
    obtain ⟨turn, played, hturn, hplayed, rfl⟩ := play_cons_eq_ok_iff.mp h
    refine play_cons_eq_ok_iff.mpr ⟨turn, _, hturn, ih hplayed hrest, ?_⟩
    rw [Turn.followedBy, Turn.followedBy, List.cons_append, List.append_assoc]

/-! ## What holds at every moment -/

/-- What is known of a trial at any moment. -/
structure Sound (trial : Trial) : Prop where
  /-- The stop signal has not been read. -/
  unread : trial.receiver.passed = 0
  /-- One that the process received was passed on. -/
  signalled : trial.signalled = true → trial.host.stopping = true
  host : trial.host.Sound

/-- A trial is sound at the beginning. -/
theorem sound_start {link : Link} {host : Host} (h : host.lines = []) :
    Sound { link := link, host := host } :=
  ⟨rfl, nofun, Host.sound_of_lines_eq_nil h⟩

/-- A process that has received its stop signal passes it on to the instance. -/
theorem Sound.stopping_signal (h : Sound trial) : trial.signal.host.stopping = true := by
  cases hsignalled : trial.signalled with
  | true =>
    rw [signal_of_later hsignalled]
    exact h.signalled hsignalled
  | false =>
    rw [signal_of_first hsignalled, @host_trigger trial.noted h.unread]
    rfl

/-- An instance that is about to stop stays so. -/
theorem Changed.stopping (h : Changed trial next) (hstopping : trial.host.stopping = true) :
    next.host.stopping = true := by
  obtain ⟨events, hhost | hhost⟩ := h.host
  · rwa [hhost]
  · rw [hhost]
    rfl

/-- An instance stays sound when it is told to stop. -/
theorem Changed.sound_host (h : Changed trial next) (hsound : trial.host.Sound) :
    next.host.Sound := by
  obtain ⟨events, hhost⟩ := h.host
  have hevents : Host.Sound { trial.host with events := events } := ⟨hsound.names, hsound.stages⟩
  rcases hhost with hhost | hhost
  · rwa [hhost]
  · rw [hhost]
    exact hevents.stop

/-- What only concerns the connections keeps a trial sound. -/
theorem Sound.withHost (h : Sound trial) {host : Host} (hhost : host.Sound)
    (hstopping : host.stopping = trial.host.stopping) : Sound { trial with host := host } :=
  ⟨h.unread, fun hsignalled => hstopping.trans (h.signalled hsignalled), hhost⟩

/-- **A step keeps a trial sound.** -/
theorem Sound.perform (h : Sound trial) (hturn : trial.perform step = .ok turn) :
    Sound turn.next := by
  cases performed hturn with
  | idle => exact h
  | connected name _ hopen =>
    exact h.withHost (h.host.connect name hopen) Host.reports_connect.stopping
  | read part hline => exact h.withHost (h.host.read hline) (Host.reports_read hline).stopping
  | received hline =>
    have hstage := h.host.stage hline
    exact h.withHost (h.host.put _ hstage) rfl
  | closed name => exact h.withHost (h.host.leave name) Host.reports_leave.stopping
  | waited milliseconds => exact h.withHost (h.host.wait milliseconds) Host.reports_wait.stopping
  | outputClosed => exact ⟨h.unread, h.signalled, h.host⟩
  | changed _ hchanged =>
    refine ⟨hchanged.receiver ▸ h.unread, fun hsignalled => ?_, hchanged.sound_host h.host⟩
    rcases hchanged.signalled h.unread hsignalled with hbefore | hstopping
    · exact hchanged.stopping (h.signalled hbefore)
    · exact hstopping

/-- **A trial is sound at every moment.** -/
theorem Sound.play (h : Sound trial) (hplay : trial.play script = .ok played) :
    Sound played.final :=
  holds_play Sound.perform h hplay

/-! ## Being about to stop -/

/-- Only what is about the stop signal makes an instance stop. -/
theorem stopping_eq_or_changed (hturn : trial.perform step = .ok turn) :
    turn.next.host.stopping = trial.host.stopping ∨
      step.isAboutStop = true ∧ Changed trial turn.next := by
  cases performed hturn with
  | idle => exact .inl rfl
  | connected name _ _ => exact .inl Host.reports_connect.stopping
  | read part hline => exact .inl (Host.reports_read hline).stopping
  | received hline => exact .inl rfl
  | closed name => exact .inl Host.reports_leave.stopping
  | waited milliseconds => exact .inl Host.reports_wait.stopping
  | outputClosed => exact .inl rfl
  | changed habout hchanged => exact .inr ⟨habout, hchanged⟩

/-- An instance that is about to stop stays so in a step. -/
theorem stopping_perform (hstopping : trial.host.stopping = true)
    (hturn : trial.perform step = .ok turn) : turn.next.host.stopping = true := by
  rcases stopping_eq_or_changed hturn with hsame | ⟨-, hchanged⟩
  · exact hsame.trans hstopping
  · exact hchanged.stopping hstopping

/-- An instance that is about to stop stays so. -/
theorem stopping_play (hstopping : trial.host.stopping = true)
    (hplay : trial.play script = .ok played) : played.final.host.stopping = true :=
  holds_play (motive := fun trial => trial.host.stopping = true) stopping_perform hstopping hplay

/-- **Once the process got its stop signal the instance is about to stop.** -/
theorem stopping_of_signal_mem (h : Sound trial) (hplay : trial.play script = .ok played)
    (hsignal : .signal ∈ script) : played.final.host.stopping = true := by
  induction script generalizing trial played with
  | nil => exact absurd hsignal List.not_mem_nil
  | cons step script ih =>
    obtain ⟨turn, rest, hturn, hrest, rfl⟩ := play_cons_eq_ok_iff.mp hplay
    show rest.final.host.stopping = true
    -- Up to the signal the trial stays sound, and from there on the instance is about to stop.
    rcases List.mem_cons.mp hsignal with rfl | hsignal
    · obtain rfl := Except.ok.inj hturn
      exact stopping_play h.stopping_signal hrest
    · exact ih (h.perform hturn) hrest hsignal

/-- **An instance is about to stop only if somebody told it to.** -/
theorem mem_of_stopping (hplay : trial.play script = .ok played)
    (hopen : trial.host.stopping = false) (hstopping : played.final.host.stopping = true) :
    ∃ step ∈ script, step.isAboutStop = true := by
  induction script generalizing trial played with
  | nil =>
    obtain rfl := Except.ok.inj hplay
    rw [hopen] at hstopping
    contradiction
  | cons step script ih =>
    obtain ⟨turn, rest, hturn, hrest, rfl⟩ := play_cons_eq_ok_iff.mp hplay
    rcases stopping_eq_or_changed hturn with hsame | ⟨habout, -⟩
    · obtain ⟨later, hlater, habout⟩ := ih hrest (hsame.trans hopen) hstopping
      exact ⟨later, List.mem_cons_of_mem _ hlater, habout⟩
    · exact ⟨step, List.mem_cons_self, habout⟩

end Trial

end EchoBackend
