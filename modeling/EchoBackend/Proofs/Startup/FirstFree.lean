/-
# The first free port

The search through the candidates finds the least of them that is free, or fails because none is and
names the whole range that was tried.  The main statements are `PortSearch.run_eq_ok_iff` and
`PortSearch.run_eq_error_iff`, and `Startup.start_of_firstFree` and `Startup.start_of_none` for
a start on the local host.
-/
import EchoBackend.Program
import EchoBackend.Proofs.Startup.Picking

namespace EchoBackend

namespace PortSearch

variable {free : UInt16 → Bool} {last port start attempts : UInt16} {ports : List UInt16}

/-! ## Trying ports in order -/

/-- A search without success ends at the last port that it tries. -/
theorem tryEach_eq_error_iff {final : UInt16} : tryEach free last ports = .error final ↔
    (∀ port ∈ ports, free port = false) ∧ final = ports.getLastD last := by
  induction ports generalizing last with
  | nil =>
    rw [tryEach, Except.error.injEq]
    exact ⟨fun h => ⟨fun _ hmem => absurd hmem List.not_mem_nil, h.symm⟩, fun h => h.2.symm⟩
  | cons first ports ih =>
    rw [List.getLastD_cons, List.forall_mem_cons, tryEach]
    cases hfirst : free first with
    | true => simp
    | false => simp [ih]

/-- The candidates are in ascending order. -/
theorem pairwise_candidates (start attempts : UInt16) :
    (candidates start attempts).Pairwise fun x y => x.toNat < y.toNat := by
  have hstart := start.toNat_lt
  rw [candidates, List.pairwise_map]
  refine List.pairwise_lt_range.imp_of_mem fun hx hy hlt => ?_
  rw [List.mem_range] at hx hy
  rw [UInt16.toNat_ofNat_of_lt' (by show _ < 65536; omega),
    UInt16.toNat_ofNat_of_lt' (by show _ < 65536; omega)]
  omega

/-- **The first port that is free** is the least one, if the ports ascend. -/
theorem find?_eq_some_iff_least (h : ports.Pairwise fun x y => x.toNat < y.toNat) :
    ports.find? free = some port ↔ port ∈ ports ∧ free port = true ∧
      ∀ other ∈ ports, free other = true → port.toNat ≤ other.toNat := by
  induction ports with
  | nil => simp
  | cons first ports ih =>
    rw [List.pairwise_cons] at h
    cases hfirst : free first with
    | true =>
      rw [List.find?_cons_of_pos hfirst]
      constructor
      · intro heq
        obtain rfl := Option.some.inj heq
        refine ⟨List.mem_cons_self, hfirst, fun other hother _ => ?_⟩
        rcases List.mem_cons.mp hother with rfl | hother
        · exact Nat.le_refl _
        · exact Nat.le_of_lt (h.1 other hother)
      · rintro ⟨hmem, -, hleast⟩
        rcases List.mem_cons.mp hmem with rfl | hmem
        · rfl
        · have hle := hleast first List.mem_cons_self hfirst
          have hlt := h.1 port hmem
          omega
    | false =>
      rw [List.find?_cons_of_neg (by rw [hfirst]; decide), ih h.2]
      constructor
      · rintro ⟨hmem, hfree, hleast⟩
        refine ⟨List.mem_cons_of_mem _ hmem, hfree, fun other hother hfree => ?_⟩
        rcases List.mem_cons.mp hother with rfl | hother
        · rw [hfirst] at hfree
          contradiction
        · exact hleast other hother hfree
      · rintro ⟨hmem, hfree, hleast⟩
        rcases List.mem_cons.mp hmem with rfl | hmem
        · rw [hfirst] at hfree
          contradiction
        · exact ⟨hmem, hfree, fun other hother => hleast other (List.mem_cons_of_mem _ hother)⟩

/-- The last candidate, if there are any. -/
theorem getLastD_candidates (hattempts : attempts ≠ 0) :
    ((candidates start attempts).getLastD last).toNat =
      min (start.toNat + attempts.toNat - 1) 65535 := by
  have hstart := start.toNat_lt
  have hpos : attempts.toNat ≠ 0 := fun h => hattempts (UInt16.toNat_inj.mp h)
  obtain ⟨count, hcount⟩ : ∃ count, min attempts.toNat (65536 - start.toNat) = count + 1 :=
    ⟨_, (Nat.sub_add_cancel (by omega)).symm⟩
  rw [candidates, hcount, List.range_succ, List.map_append, List.map_singleton,
    List.getLastD_concat, UInt16.toNat_ofNat_of_lt' (by show _ < 65536; omega)]
  omega

/-! ## Searches -/

variable {isFree : SocketAddress → Bool} {host : IPv4}

/-- Without attempts there are no candidates. -/
theorem candidates_zero (start : UInt16) : candidates start 0 = [] := rfl

/-- **A search finds the least candidate that is free.** -/
theorem run_eq_ok_iff : run isFree host start attempts = .ok port ↔
    port ∈ candidates start attempts ∧ isFree ⟨host, port⟩ = true ∧
      ∀ other ∈ candidates start attempts, isFree ⟨host, other⟩ = true →
        port.toNat ≤ other.toNat := by
  have hfind : (candidates start attempts).find? (fun port => isFree ⟨host, port⟩) = some port ↔ _ :=
    find?_eq_some_iff_least (pairwise_candidates start attempts)
  have htry : tryEach (fun port => isFree ⟨host, port⟩) start (candidates start attempts) =
      .ok port ↔ _ := tryEach_eq_ok_iff
  rw [← hfind, ← htry, run]
  by_cases hattempts : attempts = 0
  · subst hattempts
    simp [candidates_zero, tryEach]
  · rw [if_neg (by simpa using hattempts)]
    cases tryEach (fun port => isFree ⟨host, port⟩) start (candidates start attempts) <;> simp

/-- **A search fails because nothing is tried, or because no candidate is free**; then it names
the first and the last one. -/
theorem run_eq_error_iff {cause : Failure} : run isFree host start attempts = .error cause ↔
    attempts = 0 ∧ cause = .noAttempts ∨
      attempts ≠ 0 ∧ (∀ other ∈ candidates start attempts, isFree ⟨host, other⟩ = false) ∧
        cause = .exhausted host start ((candidates start attempts).getLastD start) := by
  rw [run]
  by_cases hattempts : attempts = 0
  · rw [if_pos (by simpa using hattempts), Except.error.injEq]
    constructor
    · exact fun h => Or.inl ⟨hattempts, h.symm⟩
    · rintro (h | h)
      · exact h.2.symm
      · exact absurd hattempts h.1
  · have htry (final : UInt16) : tryEach (fun port => isFree ⟨host, port⟩) start
        (candidates start attempts) = .error final ↔ _ := tryEach_eq_error_iff
    rw [if_neg (by simpa using hattempts)]
    cases hcase : tryEach (fun port => isFree ⟨host, port⟩) start (candidates start attempts) with
    | ok port =>
      have hnot : ¬ ∀ other ∈ candidates start attempts, isFree ⟨host, other⟩ = false := by
        intro hnone
        rw [(htry _).mpr ⟨hnone, rfl⟩] at hcase
        contradiction
      simp [hattempts, hnot]
    | error final =>
      obtain ⟨hnone, rfl⟩ := (htry final).mp hcase
      simp only [hattempts, false_and, false_or, ne_eq, not_false_eq_true, true_and,
        Except.error.injEq]
      exact ⟨fun h => ⟨hnone, h.symm⟩, fun h => h.2.symm⟩

end PortSearch

/-! ## The local host -/

/-- A port that nothing holds on the local host, not even under the address that stands for all. -/
def PortTable.Offers (table : PortTable) (port : UInt16) : Prop :=
  ∀ held ∈ table.held, held.port = port →
    held.host ≠ IPv4.localhost ∧ held.host ≠ IPv4.unspecified

/-- A port other than 0 can be bound on the local host exactly if nothing holds it. -/
theorem PortTable.isFree_localhost_iff {table : PortTable} {port : UInt16} (hport : port ≠ 0) :
    table.isFree ⟨IPv4.localhost, port⟩ = true ↔ table.Offers port := by
  have hexcludes (held : SocketAddress) :
      SocketAddress.excludes ⟨IPv4.localhost, port⟩ held = false ↔
        (held.port = port → held.host ≠ IPv4.localhost ∧ held.host ≠ IPv4.unspecified) := by
    have hne : IPv4.localhost ≠ IPv4.unspecified := by decide
    simp only [SocketAddress.excludes, Bool.and_eq_false_iff, Bool.or_eq_false_iff,
      beq_eq_false_iff_ne, ne_eq, hne, not_false_eq_true, and_true]
    tauto
  have hlocal : IPv4.localhost.isLocal = true := rfl
  rw [isFree, Option.isNone_iff_eq_none, refusal?_eq_none_iff]
  simp only [hlocal, hport, false_or, true_and, hexcludes]
  rfl

namespace Startup

/-- A port among those that are tried: the first choice and the nine after it, as far as there are
so many. -/
def Candidate (start port : UInt16) : Prop :=
  start.toNat ≤ port.toNat ∧ port.toNat < start.toNat + 10

/-- The first candidate that nothing holds. -/
structure FirstFree (table : PortTable) (start port : UInt16) : Prop where
  candidate : Candidate start port
  offers : table.Offers port
  least : ∀ other, Candidate start other → table.Offers other → port.toNat ≤ other.toNat

variable {table : PortTable} {start port : UInt16}

/-- A port from the first choice on is not 0 if the first choice is not. -/
theorem Candidate.ne_zero (hstart : start ≠ 0) (h : Candidate start port) : port ≠ 0 := by
  rintro rfl
  exact hstart (UInt16.toNat_inj.mp (Nat.le_zero.mp h.1))

/-- The candidates of a start with the default settings. -/
theorem mem_candidates_default : port ∈ PortSearch.candidates start 10 ↔ Candidate start port :=
  PortSearch.mem_candidates

/-- The settings that a command line leads to are usable. -/
theorem faults_settingsFor (hstart : start ≠ 0) : (Program.settingsFor start).faults = [] := by
  rw [Settings.faults_eq_nil_iff]
  refine ⟨hstart, ?_, rfl, ?_, ?_⟩
  · show (10 : UInt16) ≠ 0
    decide
  · show (2097152 : UInt64) ≠ 0
    decide
  · show (30 : UInt64) ≠ 0
    decide

/-- Whether a candidate is free. -/
theorem Candidate.isFree_iff (hstart : start ≠ 0) (h : Candidate start port) :
    table.isFree ⟨IPv4.localhost, port⟩ = true ↔ table.Offers port :=
  PortTable.isFree_localhost_iff (h.ne_zero hstart)

/-- The search on the local host finds the first free port. -/
theorem run_eq_ok_iff_firstFree (hstart : start ≠ 0) :
    PortSearch.run table.isFree IPv4.localhost start 10 = .ok port ↔
      FirstFree table start port := by
  rw [PortSearch.run_eq_ok_iff]
  constructor
  · rintro ⟨hmem, hfree, hleast⟩
    have hcandidate := mem_candidates_default.mp hmem
    refine ⟨hcandidate, (hcandidate.isFree_iff hstart).mp hfree, fun other hother hoffers => ?_⟩
    exact hleast other (mem_candidates_default.mpr hother)
      ((hother.isFree_iff hstart).mpr hoffers)
  · rintro ⟨hcandidate, hoffers, hleast⟩
    refine ⟨mem_candidates_default.mpr hcandidate, (hcandidate.isFree_iff hstart).mpr hoffers,
      fun other hmem hfree => ?_⟩
    have hother := mem_candidates_default.mp hmem
    exact hleast other hother ((hother.isFree_iff hstart).mp hfree)

/-- What a start picks. -/
theorem prepare_settingsFor (hstart : start ≠ 0) :
    prepare table (Program.settingsFor start) =
      match PortSearch.run table.isFree IPv4.localhost start 10 with
      | .ok port => .ok (Target.ofPort port)
      | .error cause => .error (.port cause) := by
  rw [prepare, faults_settingsFor hstart]
  rfl

/-- **A start takes the first free port.** -/
theorem start_of_firstFree (hstart : start ≠ 0) (h : FirstFree table start port) :
    Startup.start table (Program.settingsFor start) =
      .ok ⟨Target.ofPort port, ⟨IPv4.localhost, port⟩,
        ⟨⟨IPv4.localhost, port⟩ :: table.held⟩⟩ := by
  have hfree := (h.candidate.isFree_iff hstart).mpr h.offers
  have hrun := (run_eq_ok_iff_firstFree hstart).mpr h
  have hbind : bind table (Program.settingsFor start).host (Target.ofPort port) =
      .ok (⟨IPv4.localhost, port⟩, ⟨⟨IPv4.localhost, port⟩ :: table.held⟩) := by
    have htake := (table.isFree_iff_bind ⟨IPv4.localhost, port⟩).mp hfree
    have haddress : SocketAddress.mk (Program.settingsFor start).host (Target.ofPort port).port =
        ⟨IPv4.localhost, port⟩ := rfl
    simp only [Startup.bind, haddress, htake]
  rw [Startup.start, prepare_settingsFor hstart, hrun]
  dsimp only
  rw [hbind]

/-- **A start fails if nothing is free**, and names the range that was tried. -/
theorem start_of_none (hstart : start ≠ 0)
    (h : ∀ port, Candidate start port → ¬ table.Offers port) :
    ∃ last : UInt16, last.toNat = min (start.toNat + 9) 65535 ∧
      Startup.start table (Program.settingsFor start) =
        .error (.port (.exhausted IPv4.localhost start last)) := by
  refine ⟨(PortSearch.candidates start 10).getLastD start,
    PortSearch.getLastD_candidates (by decide), ?_⟩
  have hrun : PortSearch.run table.isFree IPv4.localhost start 10 =
      .error (.exhausted IPv4.localhost start ((PortSearch.candidates start 10).getLastD start)) := by
    rw [PortSearch.run_eq_error_iff]
    refine Or.inr ⟨by decide, fun other hother => ?_, rfl⟩
    have hcandidate := mem_candidates_default.mp hother
    rw [Bool.eq_false_iff, ne_eq, hcandidate.isFree_iff hstart]
    exact h other hcandidate
  rw [Startup.start, prepare_settingsFor hstart, hrun]

/-- Either there is a first free port, or none is free. -/
theorem firstFree_or_none (hstart : start ≠ 0) :
    (∃ port, FirstFree table start port) ∨
      ∀ port, Candidate start port → ¬ table.Offers port := by
  cases hrun : PortSearch.run table.isFree IPv4.localhost start 10 with
  | ok port => exact Or.inl ⟨port, (run_eq_ok_iff_firstFree hstart).mp hrun⟩
  | error cause =>
    right
    intro port hcandidate hoffers
    rcases PortSearch.run_eq_error_iff.mp hrun with ⟨hzero, -⟩ | ⟨-, hnone, -⟩
    · exact absurd hzero (by decide)
    · have hfree := hnone port (mem_candidates_default.mpr hcandidate)
      rw [(hcandidate.isFree_iff hstart).mpr hoffers] at hfree
      contradiction

end Startup

end EchoBackend
