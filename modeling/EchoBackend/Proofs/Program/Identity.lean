/-
# One identity

The port that the search picks is the one that is bound, announced, answered and reported, and the name
is that of the port; and the standard output is the announcement and the blocks of the requests that
were answered with success, in the order in which that happened.  The main statement is
`Program.run_identity`.
-/
import EchoBackend.Proofs.Echo.RoundTrip
import EchoBackend.Proofs.Program.Contract
import EchoBackend.Proofs.Trial.Record

namespace EchoBackend

open Http Echo

/-- Unless a sink is empty, what is printed are its contents and a line feed. -/
theorem Sink.printed_eq {sink : Sink} (h : sink.blocks ≠ []) :
    sink.printed = sink.contents ++ "\n" := by
  rcases sink with ⟨blocks⟩
  unfold printed contents
  dsimp only at h ⊢
  induction blocks with
  | nil => exact absurd rfl h
  | cons block blocks ih =>
    rw [List.map_cons, String.join_cons]
    by_cases hnil : blocks = []
    · subst hnil
      rw [List.map_nil, String.join_nil, String.append_empty, String.intercalate_singleton]
    · rw [ih hnil, String.intercalate_cons_of_ne_nil hnil]
      simp only [String.append_assoc]

/-- The first line in a frame. -/
theorem Echo.framed_cons (line : String) (lines : List String) : framed (line :: lines) =
    "\n============================================================\n" ++ (line ++ "\n") ++
      String.join ((lines ++ [separator]).map (· ++ "\n")) := by
  have hseparator : separator.toList =
      "============================================================".toList := by decide
  rw [← String.toList_inj]
  simp [framed, hseparator]

namespace Wire

/-- What is said about an instance that serves under a name on a port: by the first line of the block
of a request, and by the body of its response unless the method keeps that back. -/
structure Served.Tells (name : String) (port : UInt16) (request : Request) (outcome : Outcome) :
    Prop where
  block : ∃ rest, outcome.block = some
    ("\n============================================================\n" ++
      ("Server: " ++ name ++ " (listening on port " ++ port.toNat.repr ++ ")\n") ++ rest)
  body : if request.method = Method.head ∨ request.method = Method.connect
    then outcome.response.body = []
    else ∃ reply, Reply.ofJson outcome.response.body = .ok reply ∧
      reply.server = name ∧ reply.port = port

/-- The first line of the block of a record. -/
theorem exists_block_eq (record : RequestRecord) : ∃ rest, record.block =
    "\n============================================================\n" ++
      ("Server: " ++ record.identity.label ++ " (listening on port " ++ record.port.toNat.repr ++
        ")\n") ++ rest := by
  have hserver (text : String) : text ++ ")" ++ "\n" = text ++ ")\n" := by
    rw [String.append_assoc]
    rfl
  have hframe := framed_cons ("Server: " ++ record.identity.label ++ " (listening on port " ++
    record.port.toNat.repr ++ ")") (["Method: " ++ record.method.text,
      "Endpoint: " ++ record.endpoint, "X-User-Id: " ++ record.userId] ++ record.payloadLines)
  rw [hserver] at hframe
  exact ⟨_, hframe⟩

/-- A request that is answered with success was handled, and tells what the instance serves as. -/
theorem Served.tells {service : Service} {served : Served}
    (h : (served.outcome service).response.status = .ok) :
    ∃ request reading, served = .finished request reading ∧
      Tells service.target.identity.label service.target.port request
        (served.outcome service) := by
  cases served with
  | refused cause => exact absurd h (status_refused cause)
  | late request => simp [outcome, Service.timedOut] at h
  | finished request reading =>
    refine ⟨request, reading, rfl, ?_⟩
    rw [outcome] at h ⊢
    cases hpath : request.uri.path? with
    | none =>
      rw [Service.finish_of_no_path hpath] at h
      simp [Service.notFound] at h
    | some path =>
      rw [Service.finish_of_path hpath]
      obtain ⟨rest, hrest⟩ := exists_block_eq (service.record
        (.ofReading request.method (pathSegment path) request.headers reading))
      refine ⟨⟨rest, congrArg some hrest⟩, ?_⟩
      rw [Service.response_echo, Service.jsonResponse]
      by_cases hbody : request.method = Method.head ∨ request.method = Method.connect
      · rw [if_pos hbody]
        exact if_pos (by simpa using hbody)
      · rw [if_neg hbody]
        dsimp only
        rw [if_neg (by simpa using hbody)]
        exact ⟨_, Reply.ofJson_json _, rfl, rfl⟩

end Wire

namespace Program

open CommandLine Startup

variable {table : PortTable} {arguments : List Bytes} {started : Started} {host : Wire.Host}

/-- The announcement of an instance on the local host. -/
def announcement (name : String) (port : UInt16) : String :=
  "\n============================================================\n" ++
    ("Starting " ++ name ++ " server on port " ++ port.toNat.repr ++ "\n") ++
    ("Listening on http://127.0.0.1:" ++ port.toNat.repr ++ "\n") ++
    "============================================================\n"

/-- The two lines of an announcement in their frame. -/
theorem framed_announcement (name digits : String) :
    framed ["Starting " ++ name ++ " server on port " ++ digits,
        "Listening on http://" ++ ("127.0.0.1" ++ ":" ++ digits)] =
      "\n============================================================\n" ++
        ("Starting " ++ name ++ " server on port " ++ digits ++ "\n") ++
        ("Listening on http://127.0.0.1:" ++ digits ++ "\n") ++
        "============================================================\n" := by
  have hseparator : separator.toList =
      "============================================================".toList := by decide
  rw [framed_cons, ← String.toList_inj]
  simp [hseparator]

/-- The banner of an instance on the local host announces it. -/
theorem block_banner (identity : Identity) (port : UInt16) :
    Banner.block ⟨identity, ⟨IPv4.localhost, port⟩⟩ = announcement identity.label port := by
  have haddress : (SocketAddress.mk IPv4.localhost port).toString =
      "127.0.0.1" ++ ":" ++ port.toNat.repr := by
    rw [SocketAddress.toString, IPv4.toString_localhost]
  simp only [Banner.block]
  rw [haddress]
  exact framed_announcement identity.label port.toNat.repr

/-- **One identity from the start to every answer.**  Whatever is held, whatever the command line
and however the script goes: the port that the search picks is the one that the listener holds, that
the announcement shows and that every block and every successful response tells, with the name
of that port.  The standard output is the announcement and the blocks of the requests that were served
with success, in that order, each followed by a line feed, which is what a sink with these
blocks holds and a line feed. -/
theorem run_identity {link : Link} {script : List Trial.Step} {played : Trial.Played}
    (hlaunch : launch table arguments = .serving started host)
    (hplay : Trial.play { link := link, host := host } script = .ok played) :
    let port := started.target.port
    let name := (Identity.ofPort port).label
    let served := played.served.map Prod.snd
    let stream : Sink := ⟨announcement name port :: Wire.Served.blocks host.service served⟩
    -- The port is bound and announced.
    (∃ start, Names arguments start ∧
        PortSearch.run table.isFree IPv4.localhost start 10 = .ok port) ∧
      started.address = ⟨IPv4.localhost, port⟩ ∧
      started.table.held = ⟨IPv4.localhost, port⟩ :: table.held ∧
      host.sink.blocks = [announcement name port] ∧
      -- It is told in every block and in every successful response, and there are no others.
      (∀ one ∈ served,
        ((one.outcome host.service).response.status = .ok ↔
          (one.outcome host.service).block.isSome) ∧
        ((one.outcome host.service).response.status = .ok →
          ∃ request reading, one = .finished request reading ∧
            Wire.Served.Tells name port request (one.outcome host.service))) ∧
      (∀ response, .received (.response response) ∈ played.answers →
        ∃ one ∈ served, (one.outcome host.service).response = response) ∧
      -- The standard output.
      played.final.host.sink = stream ∧ stream.printed = stream.contents ++ "\n" ∧
      (Trial.Step.closeOutput ∉ script → ∃ outcome,
        run table arguments link script = .ok outcome ∧ outcome.output = stream.printed) := by
  intro port name served stream
  obtain ⟨start, first, hnames, hfirst, hserving⟩ := exists_of_launch_eq_serving hlaunch
  obtain ⟨rfl, rfl⟩ := Launch.serving.inj hserving
  have hbanner : (hostOn table start first).sink.blocks = [announcement name port] :=
    congrArg ([·]) (block_banner (Identity.ofPort first) first)
  have hstart : Trial.Recorded (hostOn table start first).service [announcement name port] []
      { link := link, host := hostOn table start first } :=
    ⟨rfl, hbanner, fun _ _ hline => absurd hline (Option.not_mem_none _)⟩
  obtain ⟨hfinal, hanswers⟩ := hstart.play hplay
  rw [List.nil_append] at hfinal hanswers
  have hstream : played.final.host.sink = stream := congrArg Sink.mk hfinal.blocks
  refine ⟨⟨start, hnames, (run_eq_ok_iff_firstFree (ne_zero_of_names hnames)).mpr hfirst⟩, rfl,
    rfl, hbanner, fun one _ => ⟨Wire.Served.status_eq_ok_iff, Wire.Served.tells⟩,
    fun response hresponse => ?_, hstream, Sink.printed_eq (List.cons_ne_nil _ _), fun hopen => ?_⟩
  · exact List.mem_map.mp (hanswers _ hresponse List.mem_cons_self)
  · refine ⟨_, run_of_launch hlaunch hplay, ?_⟩
    show played.final.output = _
    rw [Trial.output, Trial.readUpTo_play hplay hopen, hstream]

/-- An upload stalls until its time is up, and another client asks in the meantime. -/
def stalled : List Trial.Step :=
  let upload := Utf8.bytes "POST /slow HTTP/1.1\x0d\nContent-Length: 2\x0d\n\x0d\na"
  let question := Utf8.bytes "GET /a HTTP/1.1\x0d\n\x0d\n"
  [.connect "c", .send "c" upload] ++ (Wire.Reader.parts upload).map (.read "c") ++
    [.wait 29000, .connect "d", .send "d" question] ++
    (Wire.Reader.parts question).map (.read "d") ++ [.wait 1000, .receive "c", .receive "d"]

/-- One identity where the first choice is taken: the second instance answers and reports the question,
and only that. -/
theorem run_identity_second :
    let table : PortTable := ⟨[⟨IPv4.localhost, 9001⟩]⟩
    let output :=
      "\n============================================================\n" ++
      "Starting api-b server on port 9002\nListening on http://127.0.0.1:9002\n" ++
      "============================================================\n\n" ++
      "\n============================================================\n" ++
      "Server: api-b (listening on port 9002)\nMethod: GET\nEndpoint: /a\n" ++
      "X-User-Id: NOT_SET\n" ++
      "============================================================\n\n"
    ∃ started host played outcome,
      launch table [] = .serving started host ∧
        Trial.play { link := .up, host := host } stalled = .ok played ∧
        started.target.port = 9002 ∧
        played.served.map (fun one => (one.2.outcome host.service).response.status) =
          [.ok, .requestTimeout] ∧
        run table [] .up stalled = .ok outcome ∧
        outcome.output = output := by
  intro table output
  have hfirst : FirstFree table 9001 9002 := by
    refine ⟨by unfold Candidate; decide, by unfold PortTable.Offers; decide, ?_⟩
    rintro other ⟨hle, -⟩ hoffers
    refine Nat.lt_of_le_of_ne hle fun heq => ?_
    exact (hoffers ⟨IPv4.localhost, 9001⟩ (by decide) (UInt16.toNat_inj.mp heq)).1 rfl
  have hnames : Names [] 9001 := Or.inl ⟨Or.inl rfl, rfl⟩
  have hlaunch : launch table [] = servingOn table 9001 9002 := by
    rw [launch_of_names hnames, serve_of_firstFree (ne_zero_of_names hnames) hfirst]
  have hserved : (Trial.play { link := .up, host := hostOn table 9001 9002 } stalled).map
      (fun played => (played.served.map fun one =>
          (one.2.outcome (hostOn table 9001 9002).service).response.status,
        Sink.printed ⟨announcement "api-b" 9002 ::
          Wire.Served.blocks (hostOn table 9001 9002).service (played.served.map Prod.snd)⟩)) =
      .ok ([.ok, .requestTimeout], output) := by
    decide +kernel
  obtain ⟨played, hplay, hserved⟩ := Except.map_eq_ok_iff.mp hserved
  obtain ⟨hstatuses, hprinted⟩ := Prod.mk.inj hserved
  obtain ⟨-, -, -, -, -, -, -, -, hrun⟩ := run_identity hlaunch hplay
  obtain ⟨outcome, hrun, houtput⟩ := hrun (by decide +kernel)
  exact ⟨_, _, played, outcome, hlaunch, hplay, rfl, hstatuses, hrun, houtput.trans hprinted⟩

end Program

end EchoBackend
