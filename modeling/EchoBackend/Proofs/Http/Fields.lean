/-
# Header fields and requests from their parts

What a list of names and values comes to: if every name and every value is allowed, the headers
with the names in lower case, else a fault.  The main statements are `Headers.ofPairs_eq_ok_iff`, and
`Request.ofParts_eq_ok_iff` for the parts of a whole request.
-/
import EchoBackend.Http.Request
import Mathlib.Data.List.Basic

namespace EchoBackend

/-- What a mapped result comes from. -/
theorem Except.map_eq_ok_iff {ε α β : Type} {x : Except ε α} {f : α → β} {y : β} :
    x.map f = .ok y ↔ ∃ a, x = .ok a ∧ f a = y := by
  cases x <;> simp [Except.map]

namespace Http

/-- The header that a name and a value make. -/
def Header.ofPair (pair : Bytes × Bytes) : Header := ⟨pair.1.map lowerByte, pair.2⟩

/-- Whether a name and a value make a header. -/
def isHeaderPair (pair : Bytes × Bytes) : Bool :=
  (HeaderName.ofBytes? pair.1).isSome && isValue pair.2

/-- A name that is allowed is kept in lower case. -/
theorem HeaderName.ofBytes?_eq_some_iff {bytes : Bytes} {name : HeaderName} :
    HeaderName.ofBytes? bytes = some name ↔
      (HeaderName.ofBytes? bytes).isSome ∧ name = bytes.map lowerByte := by
  unfold HeaderName.ofBytes?
  split
  case isTrue => rw [Option.some.injEq, eq_comm, Option.isSome_some, and_iff_right rfl]
  case isFalse => simp

/-- A name and a value make a header exactly if both are allowed. -/
theorem Header.ofBytes_eq_ok_iff {pair : Bytes × Bytes} {header : Header} :
    Header.ofBytes pair.1 pair.2 = .ok header ↔
      isHeaderPair pair = true ∧ header = Header.ofPair pair := by
  rw [Header.ofBytes, isHeaderPair, Bool.and_eq_true]
  cases hname : HeaderName.ofBytes? pair.1 with
  | none => simp
  | some name =>
    have hlower := (HeaderName.ofBytes?_eq_some_iff.mp hname).2
    subst hlower
    dsimp only
    cases isValue pair.2 with
    | false => simp
    | true =>
      rw [if_pos rfl, Except.ok.injEq, eq_comm]
      exact (and_iff_right ⟨rfl, rfl⟩).symm

/-- **A list of names and values makes headers exactly if all of them are allowed.** -/
theorem Headers.ofPairs_eq_ok_iff {pairs : List (Bytes × Bytes)} {headers : Headers} :
    Headers.ofPairs pairs = .ok headers ↔
      (∀ pair ∈ pairs, isHeaderPair pair = true) ∧ headers = pairs.map Header.ofPair := by
  induction pairs generalizing headers with
  | nil =>
    rw [Headers.ofPairs, Except.ok.injEq, List.map_nil, eq_comm]
    exact (and_iff_right (List.forall_mem_nil _)).symm
  | cons pair pairs ih =>
    rw [Headers.ofPairs, List.forall_mem_cons, List.map_cons]
    cases hfirst : Header.ofBytes pair.1 pair.2 with
    | error fault =>
      have hpair : ¬ isHeaderPair pair = true := fun h => by
        rw [Header.ofBytes_eq_ok_iff.mpr ⟨h, rfl⟩] at hfirst
        contradiction
      simp [hpair]
    | ok header =>
      obtain ⟨hpair, rfl⟩ := Header.ofBytes_eq_ok_iff.mp hfirst
      dsimp only
      rw [Except.map_eq_ok_iff]
      constructor
      · rintro ⟨rest, hrest, rfl⟩
        obtain ⟨hpairs, rfl⟩ := ih.mp hrest
        exact ⟨⟨hpair, hpairs⟩, rfl⟩
      · rintro ⟨⟨-, hpairs⟩, rfl⟩
        exact ⟨_, ih.mpr ⟨hpairs, rfl⟩, rfl⟩

/-- The values of headers are values. -/
theorem Headers.isValue_of_ofPairs {pairs : List (Bytes × Bytes)} {headers : Headers}
    (h : Headers.ofPairs pairs = .ok headers) : ∀ header ∈ headers, isValue header.value = true := by
  obtain ⟨hpairs, rfl⟩ := Headers.ofPairs_eq_ok_iff.mp h
  rw [List.forall_mem_map]
  intro pair hpair
  exact (Bool.and_eq_true_iff.mp (hpairs pair hpair)).2

/-- The values of a name among headers, the first header being told apart. -/
theorem Headers.all_cons (header : Header) (headers : Headers) (name : HeaderName) :
    Headers.all (header :: headers) name =
      if header.name == name then header.value :: headers.all name else headers.all name := by
  rw [Headers.all, List.filter_cons]
  split <;> rfl

/-- **Parts make a request exactly if each of them makes its part of it.** -/
theorem Request.ofParts_eq_ok_iff {method uri : Bytes} {pairs : List (Bytes × Bytes)} {body : Body}
    {request : Request} : Request.ofParts method uri pairs body = .ok request ↔
      Method.ofBytes? method = some request.method ∧ Uri.ofBytes uri = .ok request.uri ∧
        Headers.ofPairs pairs = .ok request.headers ∧ body = request.body := by
  rw [Request.ofParts]
  constructor
  · intro h
    split at h
    case h_1 => contradiction
    case h_2 hmethod =>
      split at h
      case h_1 => contradiction
      case h_2 huri =>
        split at h
        case h_1 => contradiction
        case h_2 hheaders =>
          obtain rfl := Except.ok.inj h
          exact ⟨hmethod, huri, hheaders, rfl⟩
  · rintro ⟨hmethod, huri, hheaders, rfl⟩
    simp only [hmethod, huri, hheaders]

end Http

end EchoBackend
