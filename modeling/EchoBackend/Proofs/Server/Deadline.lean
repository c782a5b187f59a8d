/-
# Time limits

How long the handling of a request waits can be read off its body: for all the pauses before the
reading halts, and for nothing if the body is not read (`Waits`).  The main statement,
`Server.handle_timed`, says that a request is given up exactly if this is as long as the time limit,
and that a request that is not given up comes to the same under every time limit.  A limit counts
in full as long as the timers reach its end; one beyond the clock is thirty years
(`Server.handle_timed_distant`).
-/
import EchoBackend.Proofs.Http.Reading
import EchoBackend.Proofs.Server.Turn

namespace EchoBackend

namespace Echo

open Http

/-! ## Waiting -/

/-- How many milliseconds the handling of a request waits: only the body of a `POST` with a path is
read, and only the pauses before the reading halts are waited for. -/
inductive Waits (limit : Nat) (request : Request) : Nat → Prop
  | never (unread : request.method ≠ Method.post ∨ request.uri.path? = none) :
      Waits limit request 0
  | upload {path : Bytes} {before : Body} (post : request.method = Method.post)
      (routed : request.uri.path? = some path) (halts : Body.Halts limit request.body before) :
      Waits limit request before.pauses

/-- **The wait of a request** is the one for the part of its body that is read. -/
theorem waits_iff {limit : Nat} {request : Request} {time : Nat} :
    Waits limit request time ↔ time = (Service.awaited request).wait limit := by
  constructor
  · intro h
    cases h with
    | never unread =>
      rcases unread with hpost | hpath
      · rw [Service.awaited_of_not_post hpost]
        rfl
      · rw [Service.awaited_of_no_path hpath]
        rfl
    | upload post routed halts => rw [Service.awaited_of_post routed post, halts.wait_eq]
  · rintro rfl
    by_cases hpost : request.method = Method.post
    · cases hpath : request.uri.path? with
      | none =>
        rw [Service.awaited_of_no_path hpath]
        exact .never (Or.inr hpath)
      | some path =>
        obtain ⟨before, hhalts⟩ := Body.exists_halts limit request.body
        rw [Service.awaited_of_post hpath hpost, hhalts.wait_eq]
        exact .upload hpost hpath hhalts
    · rw [Service.awaited_of_not_post hpost]
      exact .never (Or.inl hpost)

/-! ## Other time limits -/

namespace Service

/-- The same service with another time limit, in seconds. -/
def within (service : Service) (seconds : UInt64) : Service :=
  { service with settings := { service.settings with requestSeconds := seconds } }

/-- What a request comes to if it gets all the time that it takes. -/
def untimed (service : Service) (request : Request) : Outcome :=
  service.finish request ((awaited request).read service.limit)

variable {service : Service} {request : Request} {seconds : UInt64}

/-- The time limit decides about giving up, and about nothing else. -/
theorem answer_within : (service.within seconds).answer request =
    if service.timer.span seconds ≤ service.duration request then { response := timedOut }
    else service.untimed request := rfl

/-- A request that gets all its time is not given up. -/
theorem status_untimed : (service.untimed request).response.status ≠ .requestTimeout := by
  cases hpath : request.uri.path? with
  | none =>
    rw [untimed, finish_of_no_path hpath]
    simp [notFound]
  | some path =>
    rw [untimed, finish_of_path hpath, response_echo]
    simp [jsonResponse]

end Service

namespace Server

/-- A turn in which the only request was given up. -/
def Turn.TimedOut (turn : Turn) : Prop := turn.results.map Result.status? = [some .requestTimeout]

/-- The turn of a request that gets all the time that it takes. -/
def untimed (service : Service) (request : Request) : Turn :=
  ⟨[.answered (service.untimed request).response], (service.untimed request).block.toList⟩

/-- The turn of a request that is given up: no body, no identifier, no block. -/
def givenUp : Turn := ⟨[.answered { status := .requestTimeout, contentLength := some 0 }], []⟩

/-- A request that is given up times out. -/
theorem timedOut_givenUp : givenUp.TimedOut := rfl

/-- A request that gets all its time does not time out. -/
theorem not_timedOut_untimed (service : Service) (request : Request) :
    ¬ (untimed service request).TimedOut := by
  intro h
  have hstatus : some (service.untimed request).response.status = some .requestTimeout :=
    List.head_eq_of_cons_eq h
  exact Service.status_untimed (Option.some.inj hstatus)

variable {service : Service} {parts : RequestParts} {request : Request}

/-- **The turn of a request under a time limit.** -/
theorem handle_within (hrequest : parts.request = .ok request)
    (history : List (List RequestParts)) (seconds : UInt64) :
    ((after (service.within seconds) history).handle [parts]).1 =
      if service.timer.span seconds ≤ service.duration request then givenUp
      else untimed service request := by
  rw [handle_singleton, service_after, RequestParts.result_of_ok hrequest,
    RequestParts.block_of_ok hrequest, Service.answer_within]
  split <;> rfl

/-- When a request is given up. -/
theorem timedOut_handle_iff (hrequest : parts.request = .ok request)
    (history : List (List RequestParts)) (seconds : UInt64) :
    ((after (service.within seconds) history).handle [parts]).1.TimedOut ↔
      service.timer.span seconds ≤ service.duration request := by
  rw [handle_within hrequest]
  by_cases h : service.timer.span seconds ≤ service.duration request
  · rw [if_pos h]
    exact iff_of_true timedOut_givenUp h
  · rw [if_neg h]
    exact iff_of_false (not_timedOut_untimed service request) h

/-- **A request times out exactly if it waits as long as the time limit.**  The wait of a request
does not depend on the limit; under every limit that is longer, the request comes to the same.  A
limit counts in full, to the millisecond, if the timers reach its end.  A limit beyond the clock
is thirty years, and one that is only too long to be counted is the longest time that can be.  So
a greater limit that is not beyond the clock changes an answer only from one that was given up to
the one without a limit. -/
theorem handle_timed (service : Service) (history : List (List RequestParts))
    (hrequest : parts.request = .ok request) :
    let turn (seconds : UInt64) : Turn :=
      ((after (service.within seconds) history).handle [parts]).1
    let timer := service.timer
    ∃ time, (∀ other, Waits service.limit request other ↔ other = time) ∧
      (∀ seconds, timer.Reaches seconds →
        ((turn seconds).TimedOut ↔ 1000 * seconds.toNat ≤ time)) ∧
      (∀ seconds, Timer.clockLimit ≤ timer.reading + seconds.toNat →
        ((turn seconds).TimedOut ↔ Timer.farFuture ≤ time)) ∧
      (∀ seconds, timer.reading + seconds.toNat < Timer.clockLimit →
        timer.longest < 1000 * seconds.toNat →
          ((turn seconds).TimedOut ↔ timer.longest ≤ time)) ∧
      (∀ seconds, (turn seconds).TimedOut → turn seconds = givenUp) ∧
      (∀ seconds, ¬ (turn seconds).TimedOut → turn seconds = untimed service request) ∧
      ∀ seconds greater, seconds ≤ greater →
        timer.reading + greater.toNat < Timer.clockLimit →
          turn greater = turn seconds ∨ (turn seconds).TimedOut ∧ ¬ (turn greater).TimedOut ∧
            turn greater = untimed service request := by
  intro turn timer
  have hiff (seconds : UInt64) :
      (turn seconds).TimedOut ↔ timer.span seconds ≤ service.duration request :=
    timedOut_handle_iff hrequest history seconds
  have hlate (seconds : UInt64) (h : (turn seconds).TimedOut) : turn seconds = givenUp :=
    (handle_within hrequest history seconds).trans (if_pos ((hiff seconds).mp h))
  have hinTime (seconds : UInt64) (h : ¬ (turn seconds).TimedOut) :
      turn seconds = untimed service request :=
    (handle_within hrequest history seconds).trans (if_neg fun hle => h ((hiff seconds).mpr hle))
  refine ⟨service.duration request, fun other => waits_iff, fun seconds hreaches => ?_,
    fun seconds hbeyond => ?_, fun seconds hclock hcount => ?_, hlate, hinTime, ?_⟩
  · rw [hiff, Timer.span_of_reaches hreaches]
  · rw [hiff, Timer.span_of_beyond hbeyond]
  · rw [hiff, Timer.span_of_uncounted hclock hcount]
  intro seconds greater hle hclock
  by_cases h : (turn greater).TimedOut
  · -- What is given up under the greater limit is given up under the smaller one.
    left
    have hless : (turn seconds).TimedOut :=
      (hiff seconds).mpr ((Timer.span_mono hle hclock).trans ((hiff greater).mp h))
    rw [hlate greater h, hlate seconds hless]
  · by_cases hless : (turn seconds).TimedOut
    · right
      exact ⟨hless, h, hinTime greater h⟩
    · left
      rw [hinTime greater h, hinTime seconds hless]

/-- A time limit at work: reading halts at the byte that is too many, so that only the pause before
it is waited for; with one second the upload is given up, with two it is not. -/
theorem handle_timed_upload :
    let service : Service := ⟨{ bodyLimit := 1 }, Target.ofPort 9001, {}⟩
    let body : Body := [.data (Utf8.bytes "h"), .delay 1000, .data (Utf8.bytes "i"), .delay 9000]
    let parts := { heldUpload 0 with body := body }
    let request : Request := ⟨Method.post, .origin (Utf8.bytes "/a%20b") (some (Utf8.bytes "x=1")),
      [⟨userIdHeader, Utf8.bytes "u1"⟩], body⟩
    parts.request = .ok request ∧ Waits service.limit request 1000 ∧
      ((after (service.within 1) [[parts]]).handle [parts]).1 = givenUp ∧
      ((after (service.within 2) [[parts]]).handle [parts]).1 = untimed service request := by
  intro service body parts request
  have hrequest : parts.request = .ok request := by decide
  have hreadable : Body.Readable service.limit [.data (Utf8.bytes "h"), .delay 1000] :=
    ⟨by simp [Body.Intact, Piece.isFailure], by decide⟩
  have hover : service.limit <
      (Body.bytes [.data (Utf8.bytes "h"), .delay 1000]).length + (Utf8.bytes "i").length := by
    decide
  have hhalts : Body.Halts service.limit request.body [.data (Utf8.bytes "h"), .delay 1000] :=
    .exceeded hreadable hover
  have hwaits : Waits service.limit request 1000 := .upload rfl rfl hhalts
  obtain ⟨time, htime, hiff, -, -, hlate, hinTime, -⟩ := handle_timed service [[parts]] hrequest
  obtain rfl := (htime 1000).mp hwaits
  have hreaches : ∀ seconds : UInt64, seconds ≤ 2 → service.timer.Reaches seconds := by
    intro seconds hle
    have hseconds : seconds.toNat ≤ 2 := UInt64.le_iff_toNat_le.mp hle
    refine ⟨Nat.lt_of_le_of_lt (Nat.add_le_add_left hseconds 3600) (by decide),
      (Nat.mul_le_mul_left 1000 hseconds).trans (by decide)⟩
  refine ⟨hrequest, hwaits, hlate 1 ((hiff 1 (hreaches 1 (by decide))).mpr (by decide)),
    hinTime 2 fun hout => ?_⟩
  exact absurd ((hiff 2 (hreaches 2 (by decide))).mp hout) (by decide)

/-- **A limit can be too great to count**: with the greatest one of all an upload is given up that
pauses for no more than a small part of it. -/
theorem handle_timed_distant :
    let service : Service := ⟨{ requestSeconds := 18446744073709551615 }, Target.ofPort 9001, {}⟩
    let parts : RequestParts :=
      { method := Utf8.bytes "POST"
        uri := Utf8.bytes "/"
        body := [.data (Utf8.bytes "a"), .delay 1000000000000, .data (Utf8.bytes "b")] }
    ∃ request time, parts.request = .ok request ∧ Waits service.limit request time ∧
      time < 1000 * service.settings.requestSeconds.toNat ∧
      ((after service []).handle [parts]).1 = givenUp := by
  intro service parts
  let request : Request := ⟨Method.post, .origin (Utf8.bytes "/") none, [], parts.body⟩
  have hrequest : parts.request = .ok request := by decide
  have hbeyond : Timer.clockLimit ≤
      service.timer.reading + service.settings.requestSeconds.toNat := by decide
  refine ⟨request, service.duration request, hrequest, waits_iff.mpr rfl, by decide, ?_⟩
  have hturn := @handle_within service _ _ hrequest [] service.settings.requestSeconds
  rw [Timer.span_of_beyond hbeyond, if_pos (by decide)] at hturn
  exact hturn

end Server

end Echo

end EchoBackend
