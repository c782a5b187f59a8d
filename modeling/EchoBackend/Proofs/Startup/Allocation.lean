/-
# Searching at the machine

A search that probes by binding comes to the same as the search over the table as it stands, tries
the same ports and leaves the table as it was (`PortSearch.allocate_eq`).  The main statement,
`PortSearch.allocate_cases`, says for every table which port is found, when none is, and what is
reported then.
-/
import EchoBackend.Probing
import EchoBackend.Proofs.Startup.FirstFree

namespace EchoBackend

namespace PortTable

variable {table : PortTable} {address : SocketAddress}

/-- An address that can be bound now. -/
def Bindable (table : PortTable) (address : SocketAddress) : Prop :=
  ∃ bound, table.bind address = .ok bound

/-- What can be bound is free. -/
theorem bindable_iff : table.Bindable address ↔ table.isFree address = true := by
  constructor
  · rintro ⟨bound, hbound⟩
    unfold bind at hbound
    cases hrefusal : table.refusal? address with
    | none => rw [isFree, hrefusal]; rfl
    | some error =>
      rw [hrefusal] at hbound
      contradiction
  · intro h
    exact ⟨_, (table.isFree_iff_bind address).mp h⟩

/-- What cannot be bound is not free. -/
theorem not_bindable_iff : ¬ table.Bindable address ↔ table.isFree address = false := by
  rw [bindable_iff, Bool.not_eq_true]

/-- **A probe shows what is free and leaves no trace.** -/
theorem probe_eq (table : PortTable) (address : SocketAddress) :
    table.probe address = (table.isFree address, table) := by
  cases hbind : table.bind address with
  | ok bound =>
    have hfree : table.isFree address = true := bindable_iff.mp ⟨bound, hbind⟩
    simp only [probe, hbind, hfree, close_of_bind hbind]
  | error cause =>
    have hfree : table.isFree address = false := by
      apply not_bindable_iff.mp
      rintro ⟨bound, hbound⟩
      rw [hbind] at hbound
      contradiction
    simp only [probe, hbind, hfree]

end PortTable

namespace PortSearch

variable {table : PortTable} {host : IPv4} {start attempts port last : UInt16}

/-! ## The probes of a search -/

/-- Probing ports in order tries them as the table stands, and leaves it as it was. -/
theorem probeEach_eq (host : IPv4) (table : PortTable) (last : UInt16) (ports : List UInt16) :
    probeEach host table last ports =
      { outcome := tryEach (fun port => table.isFree ⟨host, port⟩) last ports
        ports := tried (fun port => table.isFree ⟨host, port⟩) ports
        table := table } := by
  induction ports generalizing last with
  | nil => rfl
  | cons port ports ih =>
    rw [probeEach, PortTable.probe_eq, tryEach, tried]
    cases hfree : table.isFree ⟨host, port⟩ with
    | true => rfl
    | false => simp only [Bool.false_eq_true, if_false, ih]

/-- **A search at the machine** comes to the search over the table as it stands, probes what that
one tries, and leaves the table as it was. -/
theorem allocate_eq (table : PortTable) (host : IPv4) (start attempts : UInt16) :
    allocate table host start attempts =
      { outcome := run table.isFree host start attempts
        ports := tried (fun port => table.isFree ⟨host, port⟩) (candidates start attempts)
        table := table } := by
  rw [allocate, run]
  by_cases hattempts : attempts = 0
  · subst hattempts
    rfl
  · have hne : (attempts == 0) = false := beq_false_of_ne hattempts
    simp only [hne, Bool.false_eq_true, if_false, probeEach_eq]
    cases tryEach (fun port => table.isFree ⟨host, port⟩) start (candidates start attempts) <;> rfl

/-- The ports that are tried come first among those that could be. -/
theorem tried_initial (free : UInt16 → Bool) (ports : List UInt16) : tried free ports <+: ports := by
  induction ports with
  | nil => exact List.prefix_rfl
  | cons port ports ih =>
    rw [tried]
    cases free port with
    | true => exact ⟨ports, rfl⟩
    | false => exact (List.prefix_cons_inj port).mpr ih

/-- If no port is free, all of them are tried. -/
theorem tried_of_none {free : UInt16 → Bool} {ports : List UInt16}
    (h : ∀ port ∈ ports, free port = false) : tried free ports = ports := by
  induction ports with
  | nil => rfl
  | cons port ports ih =>
    rw [List.forall_mem_cons] at h
    rw [tried, h.1, ih h.2]
    rfl

/-! ## The candidates -/

/-- The candidates are the ports from the first choice on, in order. -/
theorem map_toNat_candidates (start attempts : UInt16) :
    (candidates start attempts).map UInt16.toNat =
      List.range' start.toNat (min attempts.toNat (65536 - start.toNat)) := by
  have hstart := start.toNat_lt
  rw [candidates, List.map_map, List.range'_eq_map_range]
  apply List.map_congr_left
  intro step hstep
  rw [List.mem_range] at hstep
  exact UInt16.toNat_ofNat_of_lt' (by show _ < 65536; omega)

/-- There are candidates if there is an attempt. -/
theorem candidates_ne_nil (hattempts : attempts ≠ 0) : candidates start attempts ≠ [] := by
  have hstart := start.toNat_lt
  have hpos : attempts.toNat ≠ 0 := fun h => hattempts (UInt16.toNat_inj.mp h)
  apply List.ne_nil_of_length_pos
  rw [length_candidates]
  omega

/-- There is a last candidate if there is an attempt. -/
theorem getLast?_candidates (hattempts : attempts ≠ 0) :
    (candidates start attempts).getLast? = some ((candidates start attempts).getLastD last) := by
  rw [List.getLastD_eq_getLast?, List.getLast?_eq_some_getLast (candidates_ne_nil hattempts)]
  rfl

/-- The last candidate is the end of the range, which does not go past the last port there is. -/
theorem getLast?_candidates_iff (hattempts : attempts ≠ 0) :
    (candidates start attempts).getLast? = some last ↔
      last.toNat = min (start.toNat + attempts.toNat - 1) 65535 := by
  have hvalue : ((candidates start attempts).getLastD start).toNat =
      min (start.toNat + attempts.toNat - 1) 65535 := getLastD_candidates hattempts
  rw [getLast?_candidates hattempts, Option.some.injEq, ← hvalue, UInt16.toNat_inj, eq_comm]

/-- The candidates are all the ports of the range. -/
theorem mem_candidates_iff_le (hattempts : attempts ≠ 0)
    (hlast : last.toNat = min (start.toNat + attempts.toNat - 1) 65535) :
    port ∈ candidates start attempts ↔ start ≤ port ∧ port ≤ last := by
  have hport := port.toNat_lt
  have hpos : attempts.toNat ≠ 0 := fun h => hattempts (UInt16.toNat_inj.mp h)
  rw [mem_candidates, UInt16.le_iff_toNat_le, UInt16.le_iff_toNat_le, hlast]
  omega

/-! ## What is found -/

/-- The least candidate that can be bound. -/
structure LeastBindable (table : PortTable) (host : IPv4) (start attempts port : UInt16) : Prop where
  candidate : port ∈ candidates start attempts
  bindable : table.Bindable ⟨host, port⟩
  least : ∀ other ∈ candidates start attempts, other < port → ¬ table.Bindable ⟨host, other⟩

/-- A search over the table finds the least candidate that can be bound. -/
theorem run_isFree_eq_ok_iff :
    run table.isFree host start attempts = .ok port ↔
      LeastBindable table host start attempts port := by
  rw [run_eq_ok_iff, ← PortTable.bindable_iff]
  constructor
  · rintro ⟨hmem, hbindable, hleast⟩
    refine ⟨hmem, hbindable, ?_⟩
    intro other hother hlt hbound
    have hle := hleast other hother (PortTable.bindable_iff.mp hbound)
    rw [UInt16.lt_iff_toNat_lt] at hlt
    omega
  · rintro ⟨hmem, hbindable, hleast⟩
    refine ⟨hmem, hbindable, ?_⟩
    intro other hother hfree
    by_contra hlt
    exact hleast other hother (UInt16.lt_iff_toNat_lt.mpr (by omega))
      (PortTable.bindable_iff.mpr hfree)

/-- A search fails for want of attempts exactly if there is none. -/
theorem run_eq_noAttempts_iff {isFree : SocketAddress → Bool} :
    run isFree host start attempts = .error .noAttempts ↔ attempts = 0 := by
  rw [run_eq_error_iff]
  simp

/-- A search over the table reports a range exactly if no candidate can be bound; the range ends
with the last candidate. -/
theorem run_isFree_eq_exhausted_iff {on : IPv4} {first : UInt16} :
    run table.isFree host start attempts = .error (.exhausted on first last) ↔
      attempts ≠ 0 ∧ (∀ port ∈ candidates start attempts, ¬ table.Bindable ⟨host, port⟩) ∧
        on = host ∧ first = start ∧ (candidates start attempts).getLast? = some last := by
  rw [run_eq_error_iff]
  simp only [PortTable.not_bindable_iff]
  constructor
  · rintro (⟨-, hcause⟩ | ⟨hattempts, hnone, hcause⟩)
    · contradiction
    · obtain ⟨rfl, rfl, rfl⟩ := Failure.exhausted.inj hcause
      exact ⟨hattempts, hnone, rfl, rfl, getLast?_candidates hattempts⟩
  · rintro ⟨hattempts, hnone, rfl, rfl, hlast⟩
    right
    rw [getLast?_candidates hattempts] at hlast
    exact ⟨hattempts, hnone, by rw [Option.some.inj hlast]⟩

/-- **A search at the machine finds the first port that can be bound.**  The candidates are the
ports from the first choice on, cut off after the last port there is.  The search fails for want of
attempts, or it finds the least candidate that can be bound, or it reports the range up to the last
port that it has probed.  It never changes the table, so that the port it has found can still be
bound. -/
theorem allocate_cases (table : PortTable) (host : IPv4) (start attempts : UInt16) :
    let search := allocate table host start attempts
    let ports := candidates start attempts
    (ports.map UInt16.toNat =
        List.range' start.toNat (min attempts.toNat (65536 - start.toNat)) ∧
        ports.Pairwise fun x y => x < y) ∧
      search.outcome = run table.isFree host start attempts ∧
      (search.outcome = .error .noAttempts ↔ attempts = 0) ∧
      (∀ port, search.outcome = .ok port ↔ LeastBindable table host start attempts port) ∧
      (∀ on first last, search.outcome = .error (.exhausted on first last) ↔
        attempts ≠ 0 ∧ (∀ port ∈ ports, ¬ table.Bindable ⟨host, port⟩) ∧ on = host ∧
          first = start ∧ last.toNat = min (start.toNat + attempts.toNat - 1) 65535) ∧
      (search.ports <+: ports ∧ ∀ on first last,
        search.outcome = .error (.exhausted on first last) → search.ports.getLast? = some last) ∧
      search.table = table ∧
      ∀ port, search.outcome = .ok port → (search.table.probe ⟨host, port⟩).1 = true := by
  intro search ports
  have hsearch : search = _ := allocate_eq table host start attempts
  rw [hsearch]
  refine ⟨⟨map_toNat_candidates start attempts, ?_⟩, rfl, run_eq_noAttempts_iff,
    fun port => run_isFree_eq_ok_iff, ?_, ⟨tried_initial _ _, ?_⟩, rfl, ?_⟩
  · apply (pairwise_candidates start attempts).imp
    intro x y hlt
    exact UInt16.lt_iff_toNat_lt.mpr hlt
  · intro on first last
    rw [run_isFree_eq_exhausted_iff]
    constructor
    · rintro ⟨hattempts, hnone, hon, hfirst, hlast⟩
      exact ⟨hattempts, hnone, hon, hfirst, (getLast?_candidates_iff hattempts).mp hlast⟩
    · rintro ⟨hattempts, hnone, hon, hfirst, hlast⟩
      exact ⟨hattempts, hnone, hon, hfirst, (getLast?_candidates_iff hattempts).mpr hlast⟩
  · intro on first last hexhausted
    obtain ⟨-, hnone, -, -, hlast⟩ := run_isFree_eq_exhausted_iff.mp hexhausted
    -- Nothing is free, so everything was probed.
    dsimp only
    rw [tried_of_none fun port hport => PortTable.not_bindable_iff.mp (hnone port hport)]
    exact hlast
  · intro port hport
    dsimp only
    rw [PortTable.probe_eq]
    exact PortTable.bindable_iff.mp (run_isFree_eq_ok_iff.mp hport).bindable

/-- A search at work at the end of the range: five attempts from 65533 on are three.  The last port
is found while it can be bound, and else all three are reported. -/
theorem allocate_cases_end :
    let table : PortTable := ⟨[⟨IPv4.localhost, 65533⟩, ⟨IPv4.unspecified, 65534⟩]⟩
    let full : PortTable := ⟨⟨IPv4.localhost, 65535⟩ :: table.held⟩
    let search := allocate table IPv4.localhost 65533 5
    let failed := allocate full IPv4.localhost 65533 5
    (search.outcome = .ok 65535 ∧ LeastBindable table IPv4.localhost 65533 5 65535 ∧
        search.table = table ∧ (search.table.probe ⟨IPv4.localhost, 65535⟩).1 = true) ∧
      failed.outcome = .error (.exhausted IPv4.localhost 65533 65535) ∧
        failed.ports.getLast? = some 65535 ∧ failed.table = full := by
  intro table full search failed
  obtain ⟨-, -, -, hok, -, -, htable, hprobe⟩ := allocate_cases table IPv4.localhost 65533 5
  obtain ⟨-, -, -, -, hexhausted, ⟨-, hlast⟩, hfull, -⟩ := allocate_cases full IPv4.localhost 65533 5
  have hfound : search.outcome = .ok 65535 := by decide
  have hnone : failed.outcome = .error (.exhausted IPv4.localhost 65533 65535) := by decide
  exact ⟨⟨hfound, (hok 65535).mp hfound, htable, hprobe 65535 hfound⟩, hnone,
    hlast _ _ _ hnone, hfull⟩

end PortSearch

end EchoBackend
