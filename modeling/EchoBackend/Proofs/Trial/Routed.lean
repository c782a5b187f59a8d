/-
# Requests through a trial

Serving over connections agrees with handling without any: whatever clients write, and however their
bytes are cut and mixed, every connection gets the responses that its requests have on their own, in
their order, and the sink gets their blocks (`play_routed`).  The library that takes the bytes apart is
any one that reads these requests as they are framed; it may stop reading at any time.
-/
import EchoBackend.Proofs.Trial.Connections
import EchoBackend.Proofs.Trial.Record
import EchoBackend.Proofs.Wire.Reading
import EchoBackend.Proofs.Wire.Requests

namespace EchoBackend

namespace Trial

open Wire Echo Http

/-- A connection carries requests: its client connects once, writes well-formed requests one after the
other, in whatever portions, and does not go away (of one who does later, this is said of the script up
to then); and what is read off it is what the library makes of the bytes, or a beginning of that. -/
structure Carries (library : Bytes → List Part) (name : String) (requests : List WrittenRequest)
    (script : List Step) : Prop where
  once : script.count (.connect name) ≤ 1
  stays : .close name ∉ script
  wellFormed : ∀ written ∈ requests, ∃ request, written.WellFormed request
  written : Trial.written name script = requests.flatMap WrittenRequest.bytes
  framed : Frames library requests
  read : (script.flatMap (Step.reads name)).flatMap Part.pieces <+:
    (library (Trial.written name script)).flatMap Part.pieces

/-- **Serving over connections agrees with handling without any.**  A script in which clients connect
before they use their connections can be played.  However it goes, the sink holds the blocks of
the requests that were served; and on a connection that carries requests, if none of them times out,
the first of them were served: the responses are those that they get without a connection, in
their order, and so are the blocks.  All of them were served if all was read, unless the library or the
end of the instance closes the connection. -/
theorem play_routed (service : Service) (library : Bytes → List Part) (script : List Step) :
    let start : Trial := { link := .up, host := { service := service } }
    (isOrderly [] script = true →
        ∃ played, start.play script = .ok played ∧ played.final.host.stopping = false) ∧
      ∀ played, start.play script = .ok played →
        played.final.host.sink.blocks = Served.blocks service (played.served.map Prod.snd) ∧
          ∀ name requests, Carries library name requests script →
            let history := historyOf name script played
            (∀ served ∈ history.served,
              (served.outcome service).response.status ≠ .requestTimeout) →
            ∃ count,
              Routed service requests count
                (history.received ++ (lineOf played.final.host name).inbox)
                (Served.blocks service history.served) ∧
              (played.final.host.stopping = false → .ended ∉ history.parts →
                history.parts.flatMap Part.pieces = requests.flatMap WrittenRequest.spelled →
                  count = requests.length) := by
  intro start
  have hready : Ready [] start := ⟨rfl, rfl, nofun⟩
  have hsound : Sound start := sound_start rfl
  refine ⟨hready.play, fun played hplay => ⟨?_, fun name requests hcarries hinTime => ?_⟩⟩
  · have hstart : Recorded service [] [] start := ⟨rfl, rfl, fun _ _ hline => by contradiction⟩
    exact (hstart.play hplay).1.blocks
  · obtain ⟨honce, hstays, hwell, hwritten, hframed, hread⟩ := hcarries
    have hruns : Line.Runs service played.final.host.stopping {} (historyOf name script played)
        (lineOf played.final.host name) :=
      runs_play hsound hplay id hstays honce fun _ => rfl
    rw [hwritten, hframed] at hread
    exact hruns.routed hwell hread hinTime

/-! ## Two clients -/

/-- A client that uploads in chunks and asks twice more, the last time for the last answer. -/
def talkative : List WrittenRequest :=
  [{ method := Utf8.bytes "POST"
     target := Utf8.bytes "/up?x=1"
     fields := [⟨Utf8.bytes "X-User-Id", Utf8.bytes "u1", [0x09], [space]⟩,
       { name := Utf8.bytes "Transfer-Encoding", value := Utf8.bytes "Chunked" },
       { name := Utf8.bytes "Expect", value := Utf8.bytes "100-continue" }]
     body := .chunked
       [⟨{ digits := Utf8.bytes "3", extension := Utf8.bytes " ;a=b" }, Utf8.bytes "abc"⟩,
         ⟨{ digits := Utf8.bytes "02" }, Utf8.bytes "de"⟩]
       { digits := Utf8.bytes "0" } [{ name := Utf8.bytes "Sum", value := Utf8.bytes "5" }] },
   { method := Utf8.bytes "GET", target := Utf8.bytes "/a" },
   { method := Utf8.bytes "GET"
     target := Utf8.bytes "/b"
     fields := [{ name := Utf8.bytes "Connection", value := Utf8.bytes "close" }] }]

/-- A client that sends a body which nobody reads. -/
def brief : List WrittenRequest :=
  [{ method := Utf8.bytes "PUT"
     target := Utf8.bytes "/c"
     fields := [{ name := Utf8.bytes "Content-Length", value := Utf8.bytes "4" }]
     body := .counted (Utf8.bytes "\x0d\n\x0d\n") }]

/-- What the two of them write. -/
def mixed (name : String) : List WrittenRequest := if name = "c" then talkative else brief

/-- Their bytes, cut within a head, a chunk and a body, and sent by turns; what the library makes of
them is read by turns as well, with some time in between. -/
def mixture : List Step :=
  let first := talkative.flatMap WrittenRequest.bytes
  let second := brief.flatMap WrittenRequest.bytes
  let readFirst := (Reader.parts first).map (Step.read "c")
  let readSecond := (Reader.parts second).map (Step.read "d")
  [.connect "c", .send "c" (first.take 30), .connect "d", .send "d" (second.take 40),
      .send "c" ((first.drop 30).take 79)] ++
    readFirst.take 5 ++ readSecond.take 4 ++
    [.wait 20000, .send "d" (second.drop 40), .send "c" (first.drop 109)] ++
    readSecond.drop 4 ++ readFirst.drop 5 ++ [.receive "c"]

/-- The mixture reads all that the library makes of what is written. -/
theorem reads_mixture : ∀ name ∈ ["c", "d"],
    (mixture.flatMap (Step.reads name)).flatMap Part.pieces =
      (Reader.parts (written name mixture)).flatMap Part.pieces := by
  decide +kernel

/-- The mixture carries what the two of them write. -/
theorem carries_mixture :
    ∀ name ∈ ["c", "d"], Carries Reader.parts name (mixed name) mixture := by
  have honce : ∀ name ∈ ["c", "d"], mixture.count (.connect name) ≤ 1 := by decide +kernel
  have hstays : ∀ name ∈ ["c", "d"], .close name ∉ mixture := by decide +kernel
  have hwell : ∀ name ∈ ["c", "d"], ∀ written ∈ mixed name,
      ∃ request, written.WellFormed request := by decide +kernel
  have hwritten : ∀ name ∈ ["c", "d"],
      written name mixture = (mixed name).flatMap WrittenRequest.bytes := by decide +kernel
  intro name hname
  refine ⟨honce name hname, hstays name hname, hwell name hname, hwritten name hname,
    Reader.frames_parts (hwell name hname), [], ?_⟩
  rw [List.append_nil, reads_mixture name hname]

/-- Both connections of the mixture serve all that is written to them, as it is served without
a connection. -/
theorem play_routed_mixture :
    let service : Service := ⟨{}, Target.ofPort 9001, {}⟩
    let start : Trial := { link := .up, host := { service := service } }
    isOrderly [] mixture = true ∧
      (∀ name ∈ ["c", "d"], Carries Reader.parts name (mixed name) mixture) ∧
      ∃ played, start.play mixture = .ok played ∧
        played.final.host.sink.blocks = Served.blocks service (played.served.map Prod.snd) ∧
        ∀ name ∈ ["c", "d"],
          let history := historyOf name mixture played
          (∀ served ∈ history.served, (served.outcome service).response.status = .ok) ∧
          Routed service (mixed name) (mixed name).length
            (history.received ++ (lineOf played.final.host name).inbox)
            (Served.blocks service history.served) := by
  intro service start
  have horderly : isOrderly [] mixture = true := by decide +kernel
  obtain ⟨hplays, hroutes⟩ := play_routed service Reader.parts mixture
  obtain ⟨played, hplay, hstopping⟩ := hplays horderly
  obtain ⟨hblocks, hroutes⟩ := hroutes played hplay
  refine ⟨horderly, carries_mixture, played, hplay, hblocks, fun name hname => ?_⟩
  -- Nothing fails, nothing closes a connection, and all is read.
  have hok : ∀ served ∈ servedOn name played.served,
      (served.outcome service).response.status = .ok := by
    have hall : ((start.play mixture).toOption.all fun played => played.served.all fun served =>
        decide ((served.2.outcome service).response.status = .ok)) = true := by
      decide +kernel
    rw [hplay] at hall
    exact fun served hserved =>
      of_decide_eq_true (List.all_eq_true.mp hall _ (mem_of_mem_servedOn hserved))
  have hended : ∀ name ∈ ["c", "d"], .ended ∉ mixture.flatMap (Step.reads name) := by
    decide +kernel
  have hcarries := carries_mixture name hname
  have hread := reads_mixture name hname
  rw [hcarries.written, hcarries.framed] at hread
  obtain ⟨count, hrouted, hcount⟩ := hroutes name (mixed name) hcarries fun served hserved => by
    rw [hok served hserved]
    nofun
  rw [parts_historyOf] at hcount
  rw [hcount hstopping (hended name hname) hread] at hrouted
  exact ⟨hok, hrouted⟩

end Trial

end EchoBackend
