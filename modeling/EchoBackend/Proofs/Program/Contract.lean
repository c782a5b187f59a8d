/-
# The contract of the command line

From a command line and the addresses that are held to the exit status, what is printed and what is
held afterwards.  `Contract` says what is promised, in terms of the grammar of command lines, of the
first free port and of the requests that are under way; the main statement, `Program.contract`, says
that the promise is kept.
-/
import EchoBackend.Proofs.CommandLine.Grammar
import EchoBackend.Proofs.Startup.FirstFree
import EchoBackend.Proofs.Trial.Steps
import EchoBackend.Wire.Reader

namespace EchoBackend

/-- The spelling of the local host. -/
theorem IPv4.toString_localhost : IPv4.localhost.toString = "127.0.0.1" := by decide +kernel

namespace Program

open CommandLine Startup

variable {table : PortTable} {arguments : List Bytes} {flag : Flag} {start port : UInt16}
  {link : Link} {script : List Trial.Step}

/-! ## Launches -/

/-- Whoever asks for information is informed. -/
theorem launch_of_asksFor (h : AsksFor arguments flag) :
    launch table arguments = .informed flag.information := by
  rw [launch, read_of_asksFor h]

/-- Whoever names a port starts an instance with that first choice. -/
theorem launch_of_names (h : Names arguments start) :
    launch table arguments = serve table (settingsFor start) := by
  rw [launch, read_of_names h]

/-- Everybody else is rejected. -/
theorem exists_launch_eq_rejected (hnames : ∀ port, ¬ Names arguments port)
    (hasks : ∀ flag, ¬ AsksFor arguments flag) :
    ∃ cause, launch table arguments = .rejected cause := by
  obtain ⟨cause, h⟩ := exists_read_eq_error_iff.mpr ⟨hnames, hasks⟩
  exact ⟨cause, by rw [launch, h]⟩

/-- An accepted command line is not rejected. -/
theorem serve_ne_rejected (settings : Settings) (cause : Rejection) :
    serve table settings ≠ .rejected cause := by
  unfold serve
  dsimp only
  split <;> exact fun h => by contradiction

/-- The first choice is never 0. -/
theorem ne_zero_of_names (h : Names arguments start) : start ≠ 0 := by
  rcases h with ⟨-, rfl⟩ | ⟨written, ⟨text, -, digits, -, -, -, -, hport⟩, -⟩
  · decide
  · exact hport

/-- A start on a port of the local host. -/
def startedOn (table : PortTable) (port : UInt16) : Started :=
  ⟨Target.ofPort port, ⟨IPv4.localhost, port⟩, ⟨⟨IPv4.localhost, port⟩ :: table.held⟩⟩

/-- The instance that serves there. -/
def hostOn (table : PortTable) (start port : UInt16) : Wire.Host :=
  hostFor (settingsFor start) (startedOn table port)
    (starting (settingsFor start) :: search table (settingsFor start))

/-- The launch of that instance. -/
def servingOn (table : PortTable) (start port : UInt16) : Launch :=
  .serving (startedOn table port) (hostOn table start port)

/-- **An instance serves on the first free port.** -/
theorem serve_of_firstFree (hstart : start ≠ 0) (h : FirstFree table start port) :
    serve table (settingsFor start) = servingOn table start port := by
  rw [serve, start_of_firstFree hstart h]
  rfl

/-- What the user is told if no port is free. -/
def exhaustedMessage (start : UInt16) : String :=
  "Error: could not find an available port on 127.0.0.1 in range " ++ start.toNat.repr ++ "-" ++
    (min (start.toNat + 9) 65535).repr ++ "\n"

/-- The message of a search on the local host that failed. -/
theorem message_exhausted (start last : UInt16) :
    "Error: " ++ (Failure.port (.exhausted IPv4.localhost start last)).message ++ "\n" =
      "Error: could not find an available port on 127.0.0.1 in range " ++ start.toNat.repr ++ "-" ++
        last.toNat.repr ++ "\n" := by
  have hmessage : (Failure.port (.exhausted IPv4.localhost start last)).message =
      "could not find an available port on " ++ IPv4.localhost.toString ++ " in range " ++
        start.toNat.repr ++ "-" ++ last.toNat.repr := rfl
  have hprefix : "Error: could not find an available port on 127.0.0.1 in range " =
      "Error: " ++ ("could not find an available port on " ++ "127.0.0.1" ++ " in range ") := by
    decide +kernel
  rw [hmessage, IPv4.toString_localhost, hprefix]
  simp only [String.append_assoc]

/-- **No instance serves if no port is free.** -/
theorem serve_of_none (hstart : start ≠ 0)
    (h : ∀ port, Candidate start port → ¬ table.Offers port) :
    ∃ failure events, serve table (settingsFor start) = .failed failure events ∧
      failure.exitCode = 3 ∧ "Error: " ++ failure.message ++ "\n" = exhaustedMessage start := by
  obtain ⟨last, hlast, hfailed⟩ := start_of_none hstart h
  have hserve : ∃ events, serve table (settingsFor start) =
      .failed (.port (.exhausted IPv4.localhost start last)) events := by
    rw [serve, hfailed]
    exact ⟨_, rfl⟩
  obtain ⟨events, hserve⟩ := hserve
  refine ⟨_, events, hserve, rfl, ?_⟩
  have hmessage := message_exhausted start last
  rw [hlast] at hmessage
  exact hmessage

/-! ## Runs -/

/-- The first choice decides what becomes of a command line that names it. -/
theorem launch_cases (h : Names arguments start) :
    (∃ port, FirstFree table start port ∧ launch table arguments = servingOn table start port) ∨
      (∀ port, Candidate start port → ¬ table.Offers port) ∧
        ∃ failure events, launch table arguments = .failed failure events ∧
          failure.exitCode = 3 ∧ "Error: " ++ failure.message ++ "\n" = exhaustedMessage start := by
  have hstart := ne_zero_of_names h
  rw [launch_of_names h]
  rcases firstFree_or_none hstart with ⟨port, hport⟩ | hnone
  · exact Or.inl ⟨port, hport, serve_of_firstFree hstart hport⟩
  · exact Or.inr ⟨hnone, serve_of_none hstart hnone⟩

/-- The outcome of a start that failed. -/
theorem play_failed {failure : Failure} {events : List Log.Event} (hcode : failure.exitCode = 3)
    (hmessage : "Error: " ++ failure.message ++ "\n" = exhaustedMessage start) :
    (Launch.failed failure events).play link script =
      .ok
        { exitCode := some 3
          output := ""
          complaints := exhaustedMessage start
          events := events } := by
  rw [Launch.play, hcode, hmessage]

/-- What a process that serves has come to is what its instance has come to. -/
theorem play_serving_eq_ok_iff {started : Started} {host : Wire.Host} {outcome : Outcome} :
    (Launch.serving started host).play link script = .ok outcome ↔
      ∃ played, Trial.play { link := link, host := host } script = .ok played ∧
        Outcome.ofPlayed started played = outcome :=
  Except.map_eq_ok_iff

/-- **An instance that serves**: its command line names a port, and it serves on the first free one
from there on. -/
theorem exists_of_launch_eq_serving {started : Started} {host : Wire.Host}
    (h : launch table arguments = .serving started host) :
    ∃ start port, Names arguments start ∧ FirstFree table start port ∧
      servingOn table start port = .serving started host := by
  cases hread : read arguments with
  | error cause =>
    rw [launch, hread] at h
    contradiction
  | ok request =>
    cases request with
    | inform flag =>
      rw [launch, hread] at h
      contradiction
    | serve start =>
      have hnames := read_eq_serve_iff.mp hread
      rcases @launch_cases table _ _ hnames with ⟨port, hport, hlaunch⟩ |
        ⟨-, failure, events, hlaunch, -⟩
      · exact ⟨start, port, hnames, hport, hlaunch.symm.trans h⟩
      · rw [h] at hlaunch
        contradiction

/-! ## The end of a process -/

section Serving

variable {started : Started} {host : Wire.Host} {played : Trial.Played}

/-- An instance that has just been started. -/
theorem sound_of_launch (h : launch table arguments = .serving started host) (link : Link) :
    Trial.Sound { link := link, host := host } := by
  obtain ⟨start, port, -, -, hserving⟩ := exists_of_launch_eq_serving h
  obtain ⟨rfl, rfl⟩ := Launch.serving.inj hserving
  exact Trial.sound_start rfl

/-- It has thirty seconds for every request. -/
theorem deadline_of_launch (h : launch table arguments = .serving started host) :
    host.service.deadline = 30000 := by
  obtain ⟨start, port, -, -, hserving⟩ := exists_of_launch_eq_serving h
  obtain ⟨rfl, rfl⟩ := Launch.serving.inj hserving
  rfl

/-- It is not about to stop. -/
theorem stopping_of_launch (h : launch table arguments = .serving started host) :
    host.stopping = false := by
  obtain ⟨start, port, -, -, hserving⟩ := exists_of_launch_eq_serving h
  obtain ⟨rfl, rfl⟩ := Launch.serving.inj hserving
  rfl

/-- What a process that serves has come to once a script was played. -/
theorem run_of_launch (h : launch table arguments = .serving started host)
    (hplay : Trial.play { link := link, host := host } script = .ok played) :
    run table arguments link script = .ok (Outcome.ofPlayed started played) := by
  rw [run, h]
  exact play_serving_eq_ok_iff.mpr ⟨played, hplay, rfl⟩

/-- A process ends with success once its instance has stopped. -/
theorem exitCode_of_hasStopped (h : played.final.host.hasStopped = true) :
    (Outcome.ofPlayed started played).exitCode = some 0 :=
  if_pos h

/-- It goes on until its instance has stopped. -/
theorem exitCode_of_not_hasStopped (h : ¬ played.final.host.hasStopped = true) :
    (Outcome.ofPlayed started played).exitCode = none :=
  if_neg h

/-- What is promised about a process that serves, once a script was played against its instance. -/
structure Ending (runs : List Trial.Step → Except Trial.NoConnection Outcome)
    (script : List Trial.Step) (host : Wire.Host) : Prop where
  /-- It has ended with success because it was told to stop, or it goes on. -/
  lasts : ∃ outcome, runs script = .ok outcome ∧ (outcome.exitCode = none ∨
    outcome.exitCode = some 0 ∧ ∃ step ∈ script, step.isAboutStop = true)
  /-- After a stop signal it has ended with success if no request is under way, and goes on as long as
  one is. -/
  stops : .signal ∈ script → ∃ outcome, runs script = .ok outcome ∧
    ((∀ entry ∈ host.lines, entry.2.stage.isBusy = false) → outcome.exitCode = some 0) ∧
    ((∃ entry ∈ host.lines, entry.2.stage.isBusy = true) → outcome.exitCode = none)
  /-- Thirty seconds later it has ended unless the head of a request is still on its way. -/
  drains : .signal ∈ script → ∀ milliseconds, 30000 ≤ milliseconds →
    ∃ outcome, runs (script ++ [.wait milliseconds]) = .ok outcome ∧
      ((∀ entry ∈ host.lines, entry.2.stage ≠ .arriving) → outcome.exitCode = some 0) ∧
      ((∃ entry ∈ host.lines, entry.2.stage = .arriving) → outcome.exitCode = none)

/-- **How a process that serves ends.** -/
theorem ending_of_launch (h : launch table arguments = .serving started host)
    (hplay : Trial.play { link := link, host := host } script = .ok played) :
    Ending (run table arguments link) script played.final.host := by
  have hrun := run_of_launch h hplay
  have hsound := sound_of_launch h link
  have hhost := (hsound.play hplay).host
  refine ⟨⟨_, hrun, ?_⟩, fun hsignal => ⟨_, hrun, fun hidle => ?_, ?_⟩,
    fun hsignal milliseconds hlimit => ?_⟩
  · by_cases hstopped : played.final.host.hasStopped = true
    · obtain ⟨hstopping, -⟩ := (Wire.Host.hasStopped_iff hhost).mp hstopped
      exact .inr ⟨exitCode_of_hasStopped hstopped,
        Trial.mem_of_stopping hplay (stopping_of_launch h) hstopping⟩
    · exact .inl (exitCode_of_not_hasStopped hstopped)
  · have hstopping := Trial.stopping_of_signal_mem hsound hplay hsignal
    exact exitCode_of_hasStopped ((Wire.Host.hasStopped_iff hhost).mpr ⟨hstopping, hidle⟩)
  · rintro ⟨entry, hentry, hbusy⟩
    refine exitCode_of_not_hasStopped fun hstopped => ?_
    have hidle := ((Wire.Host.hasStopped_iff hhost).mp hstopped).2 entry hentry
    rw [hidle] at hbusy
    contradiction
  · have hstopping := Trial.stopping_of_signal_mem hsound hplay hsignal
    have hwait : played.final.play [.wait milliseconds] = .ok
        ⟨[.done], (played.final.host.wait milliseconds).1 ++ [],
          { played.final with host := (played.final.host.wait milliseconds).2 }⟩ := rfl
    have hdeadline : played.final.host.service.deadline ≤ milliseconds := by
      rwa [Trial.service_play hplay, deadline_of_launch h]
    have hstopped := Wire.Host.hasStopped_wait_iff hhost hdeadline
    refine ⟨_, run_of_launch h (Trial.play_append hplay hwait), fun hnone => ?_, ?_⟩
    · exact exitCode_of_hasStopped (hstopped.mpr ⟨hstopping, hnone⟩)
    · rintro ⟨entry, hentry, harriving⟩
      exact exitCode_of_not_hasStopped fun hall => (hstopped.mp hall).2 entry hentry harriving

end Serving

/-! ## The contract -/

/-- What is promised about a command line. -/
structure Contract (table : PortTable) (arguments : List Bytes) : Prop where
  /-- Whoever asks for information gets it, and nothing is bound. -/
  informed : ∀ flag, AsksFor arguments flag →
    (launch table arguments).tableAfter table = table ∧ ∀ link script,
      run table arguments link script =
        .ok { exitCode := some 0, output := flag.information }
  /-- Without arguments the first choice is 9001. -/
  default : arguments = [] →
    launch table arguments = launch table [Utf8.bytes "9001"]
  /-- A single argument without a dash in front is accepted exactly if it spells a port. -/
  single : ∀ written, arguments = [written] → written.head? ≠ some 0x2D →
    ((∀ cause, launch table arguments ≠ .rejected cause) ↔ ∃ port, SpellsPort written port)
  /-- What neither names a port nor asks for information is rejected, and only that. -/
  rejected : (∃ cause, launch table arguments = .rejected cause) ↔
    (∀ port, ¬ Names arguments port) ∧ ∀ flag, ¬ AsksFor arguments flag
  /-- What is rejected prints nothing to the standard output, and nothing is bound. -/
  refused : ∀ cause, launch table arguments = .rejected cause →
    (launch table arguments).tableAfter table = table ∧ ∀ link script,
      run table arguments link script =
        .ok { exitCode := some 2, output := "", complaints := cause.report }
  /-- An instance serves on the first free port and holds it. -/
  serves : ∀ start port, Names arguments start → FirstFree table start port →
    ∃ started host, launch table arguments = .serving started host ∧
      started.target = Target.ofPort port ∧ started.address = ⟨IPv4.localhost, port⟩ ∧
      (launch table arguments).tableAfter table = ⟨⟨IPv4.localhost, port⟩ :: table.held⟩
  /-- If no port is free, the range is named and nothing is bound. -/
  exhausted : ∀ start, Names arguments start →
    (∀ port, Candidate start port → ¬ table.Offers port) →
    (launch table arguments).tableAfter table = table ∧ ∀ link script, ∃ events,
      run table arguments link script =
        .ok
          { exitCode := some 3
            output := ""
            complaints := exhaustedMessage start
            events := events }
  /-- Only then the status is 3. -/
  exhaustedOnly : ∀ start, Names arguments start → ∀ link script outcome,
    run table arguments link script = .ok outcome →
      (outcome.exitCode = some 3 ↔ ∀ port, Candidate start port → ¬ table.Offers port)
  /-- What serves ends with success, after a stop signal and when no request is under way. -/
  ends : ∀ started host, launch table arguments = .serving started host →
    ∀ link script played, Trial.play { link := link, host := host } script = .ok played →
      Ending (run table arguments link) script played.final.host

/-- **The contract of the command line is kept**, for every command line and whatever is held. -/
theorem contract (table : PortTable) (arguments : List Bytes) : Contract table arguments where
  informed := by
    intro flag hasks
    have hlaunch := @launch_of_asksFor table _ _ hasks
    exact ⟨by rw [hlaunch]; rfl, fun link script => by rw [run, hlaunch]; rfl⟩
  default := by
    rintro rfl
    rfl
  single := by
    rintro written rfl hhead
    constructor
    · intro haccepted
      by_contra hnone
      obtain ⟨cause, hlaunch⟩ := @exists_launch_eq_rejected table _
        (fun port hnames => hnone ⟨port, (names_singleton_iff hhead).mp hnames⟩)
        fun flag => not_asksFor_singleton hhead
      exact haccepted cause hlaunch
    · rintro ⟨port, hspells⟩ cause
      rw [launch_of_names ((names_singleton_iff hhead).mpr hspells)]
      exact serve_ne_rejected _ cause
  rejected := by
    constructor
    · rintro ⟨cause, hlaunch⟩
      refine ⟨fun port hnames => ?_, fun flag hasks => ?_⟩
      · rw [launch_of_names hnames] at hlaunch
        exact serve_ne_rejected _ cause hlaunch
      · rw [launch_of_asksFor hasks] at hlaunch
        contradiction
    · rintro ⟨hnames, hasks⟩
      exact exists_launch_eq_rejected hnames hasks
  refused := by
    intro cause hlaunch
    exact ⟨by rw [hlaunch]; rfl, fun link script => by rw [run, hlaunch]; rfl⟩
  serves := by
    intro start port hnames hport
    have hlaunch : launch table arguments = servingOn table start port := by
      rw [launch_of_names hnames, serve_of_firstFree (ne_zero_of_names hnames) hport]
    exact ⟨_, _, hlaunch, rfl, rfl, by rw [hlaunch]; rfl⟩
  exhausted := by
    intro start hnames hnone
    obtain ⟨failure, events, hlaunch, hcode, hmessage⟩ :=
      serve_of_none (ne_zero_of_names hnames) hnone
    rw [← launch_of_names hnames] at hlaunch
    refine ⟨by rw [hlaunch]; rfl, fun link script => ⟨events, ?_⟩⟩
    rw [run, hlaunch, play_failed hcode hmessage]
  exhaustedOnly := by
    intro start hnames link script outcome hrun
    rcases launch_cases hnames with ⟨port, hport, hlaunch⟩ |
      ⟨hnone, failure, events, hlaunch, hcode, hmessage⟩
    · rw [run, hlaunch] at hrun
      obtain ⟨played, -, rfl⟩ := play_serving_eq_ok_iff.mp hrun
      constructor
      · intro hthree
        have hcode : (if played.final.host.hasStopped then some 0 else none) = some (3 : UInt8) :=
          hthree
        split at hcode <;> simp at hcode
      · intro hnone
        exact absurd hport.offers (hnone port hport.candidate)
    · rw [run, hlaunch, play_failed hcode hmessage] at hrun
      obtain rfl := Except.ok.inj hrun
      exact ⟨fun _ => hnone, fun _ => rfl⟩
  ends := fun _ _ hlaunch _ _ _ hplay => ending_of_launch hlaunch hplay

/-! ## The end of the range -/

/-- The last two ports are held, one of them on all addresses at once. -/
def crowded : PortTable := ⟨[⟨IPv4.unspecified, 65535⟩, ⟨IPv4.localhost, 65534⟩]⟩

/-- None of the two is free. -/
theorem not_offers_crowded (h : Candidate 65534 port) : ¬ crowded.Offers port := by
  intro hoffers
  have hle : 65534 ≤ port.toNat := h.1
  have hlt := port.toNat_lt
  have hlast : port = 65535 ∨ port = 65534 := by
    rw [← UInt16.toNat_inj, ← UInt16.toNat_inj]
    show port.toNat = 65535 ∨ port.toNat = 65534
    omega
  rcases hlast with rfl | rfl
  · exact (hoffers ⟨IPv4.unspecified, 65535⟩ (by decide) rfl).2 rfl
  · exact (hoffers ⟨IPv4.localhost, 65534⟩ (by decide) rfl).1 rfl

/-- The one below them is. -/
theorem firstFree_crowded : FirstFree crowded 65533 65533 :=
  ⟨by unfold Candidate; decide, by unfold PortTable.Offers; decide, fun _ hother _ => hother.1⟩

/-- A stop signal while the body of an upload is awaited. -/
def interrupted : List Trial.Step :=
  let head := Utf8.bytes "POST / HTTP/1.1\x0d\nContent-Length: 1\x0d\n\x0d\n"
  [.connect "c", .send "c" head] ++ (Wire.Reader.parts head).map (.read "c") ++ [.signal]

/-- The upload is under way at the end, and its head is complete. -/
theorem play_interrupted : ∃ played,
    Trial.play { link := .up, host := hostOn crowded 65533 65533 } interrupted = .ok played ∧
      ∃ entry, played.final.host.lines = [entry] ∧ entry.2.stage.isBusy = true ∧
        entry.2.stage ≠ .arriving := by
  have hstages : (Trial.play { link := .up, host := hostOn crowded 65533 65533 } interrupted).map
      (fun played => played.final.host.lines.map fun entry =>
        (entry.2.stage.isBusy, decide (entry.2.stage = .arriving))) = .ok [(true, false)] := by
    decide +kernel
  obtain ⟨played, hplay, hlines⟩ := Except.map_eq_ok_iff.mp hstages
  obtain ⟨entry, hentry, hstage⟩ := List.map_eq_singleton_iff.mp hlines
  obtain ⟨hbusy, harriving⟩ := Prod.mk.inj hstage
  exact ⟨played, hplay, entry, hentry, hbusy, of_decide_eq_false harriving⟩

/-- The contract at the end of the range.  Where both ports are held nothing is started; below them an
instance serves, which ends at once without a request under way, and otherwise when the time for the
request is up. -/
theorem contract_crowded :
    let taken := [Utf8.bytes "+0065534"]
    let free := [Utf8.bytes "65533"]
    (Names taken 65534 ∧ (launch crowded taken).tableAfter crowded = crowded ∧
      ∃ events, run crowded taken .up [] = .ok
        { exitCode := some 3
          output := ""
          complaints :=
            "Error: could not find an available port on 127.0.0.1 in range 65534-65535\n"
          events := events }) ∧
    (Names free 65533 ∧
      (launch crowded free).tableAfter crowded = ⟨⟨IPv4.localhost, 65533⟩ :: crowded.held⟩ ∧
      (∃ outcome, run crowded free .up [.signal] = .ok outcome ∧ outcome.exitCode = some 0) ∧
      (∃ outcome, run crowded free .up interrupted = .ok outcome ∧ outcome.exitCode = none) ∧
      ∃ outcome, run crowded free .up (interrupted ++ [.wait 30000]) = .ok outcome ∧
        outcome.exitCode = some 0) := by
  intro taken free
  refine ⟨?_, ?_⟩
  · have hspells : SpellsPort (Utf8.bytes "+0065534") 65534 :=
      ⟨"+0065534".toList, rfl, "0065534".toList, Or.inr (by decide), by decide,
        List.all_eq_true.mp (by decide), by decide, by decide⟩
    have hnames : Names taken 65534 := Or.inr ⟨_, hspells, Or.inl rfl⟩
    obtain ⟨htable, hrun⟩ := (contract crowded taken).exhausted 65534 hnames
      fun port hport => not_offers_crowded hport
    obtain ⟨events, hrun⟩ := hrun .up []
    have hmessage : exhaustedMessage 65534 =
        "Error: could not find an available port on 127.0.0.1 in range 65534-65535\n" := by
      decide +kernel
    exact ⟨hnames, htable, events, hmessage ▸ hrun⟩
  · have hspells : SpellsPort (Utf8.bytes "65533") 65533 :=
      ⟨"65533".toList, rfl, "65533".toList, Or.inl rfl, by decide,
        List.all_eq_true.mp (by decide), by decide, by decide⟩
    have hnames : Names free 65533 := Or.inr ⟨_, hspells, Or.inl rfl⟩
    obtain ⟨-, -, -, -, -, htable⟩ :=
      (contract crowded free).serves 65533 65533 hnames firstFree_crowded
    have hlaunch : launch crowded free = servingOn crowded 65533 65533 := by
      rw [launch_of_names hnames, serve_of_firstFree (ne_zero_of_names hnames) firstFree_crowded]
    have hends := (contract crowded free).ends _ _ hlaunch .up
    obtain ⟨quiet, hquiet, hnone⟩ : ∃ played, Trial.play
        { link := .up, host := hostOn crowded 65533 65533 } [.signal] = .ok played ∧
          played.final.host.lines = [] := ⟨_, rfl, rfl⟩
    obtain ⟨busy, hbusy, entry, hlines, hunderWay, hcomplete⟩ := play_interrupted
    have hsignal : .signal ∈ interrupted := by decide +kernel
    obtain ⟨stopped, hstopped, hcode, -⟩ := (hends _ _ hquiet).stops List.mem_cons_self
    obtain ⟨running, hrunning, -, hgoes⟩ := (hends _ _ hbusy).stops hsignal
    obtain ⟨drained, hdrained, hdone, -⟩ := (hends _ _ hbusy).drains hsignal 30000 (Nat.le_refl _)
    rw [hnone] at hcode
    rw [hlines] at hgoes hdone
    refine ⟨hnames, htable, ⟨stopped, hstopped, hcode nofun⟩,
      ⟨running, hrunning, hgoes ⟨entry, List.mem_cons_self, hunderWay⟩⟩,
      ⟨drained, hdrained, hdone fun other hother => ?_⟩⟩
    exact List.mem_singleton.mp hother ▸ hcomplete

/-- A stop signal while the head of a request arrives. -/
def unfinished : List Trial.Step :=
  let beginning := Utf8.bytes "GET / HT"
  [.connect "c", .send "c" beginning] ++ (Wire.Reader.parts beginning).map (.read "c") ++ [.signal]

/-- A stop signal does not end a process with a request under way: it goes on as long as there is time
for the body that it awaits, and for ever if the head of the request never becomes complete. -/
theorem run_interrupted :
    let arguments := [Utf8.bytes "9001"]
    (∃ started host, launch ⟨[]⟩ arguments = .serving started host) ∧
      (.signal ∈ interrupted ∧
        (run ⟨[]⟩ arguments .up interrupted).map Outcome.exitCode = .ok none ∧
        (run ⟨[]⟩ arguments .up (interrupted ++ [.wait 29999])).map Outcome.exitCode = .ok none) ∧
      (.signal ∈ unfinished ∧ ∀ milliseconds,
        (run ⟨[]⟩ arguments .up (unfinished ++ [.wait milliseconds])).map Outcome.exitCode =
          .ok none) := by
  intro arguments
  refine ⟨⟨_, _, rfl⟩, ⟨?_, ?_, ?_⟩, ?_, fun milliseconds => ?_⟩
  · decide +kernel
  · decide +kernel
  · decide +kernel
  · decide +kernel
  -- However much time passes, it passes over a head that arrives.
  · rfl

end Program

end EchoBackend
