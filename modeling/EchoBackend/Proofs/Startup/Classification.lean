/-
# How a start-up is judged

Checking the settings and picking a port has three endings, told apart by the settings first and by
the table of held ports then.  The settings are reported with exactly the conditions that fail
(`Settings.reports_faults`).  The main statement, `Startup.prepareProbing_cases`, says when each
ending comes about, that no other can, and that the table stays as it was.
-/
import EchoBackend.Proofs.Startup.Allocation

namespace EchoBackend

namespace Settings

/-! ## Conditions -/

/-- The conditions that settings can violate, in the order in which they are reported. -/
def conditions (settings : Settings) : List Fault :=
  [.zeroStartPort, .noAttempts, .nonLoopbackHost settings.host, .zeroBodyLimit, .zeroTimeout]

/-- What it means that a condition fails. -/
def Violated (settings : Settings) : Fault → Prop
  | .zeroStartPort => settings.startPort = 0
  | .noAttempts => settings.maxAttempts = 0
  | .nonLoopbackHost host => host = settings.host ∧ host.a ≠ 127
  | .zeroBodyLimit => settings.bodyLimit = 0
  | .zeroTimeout => settings.requestSeconds = 0

/-- Exactly the conditions that fail, each once and in order. -/
structure Reports (settings : Settings) (faults : List Fault) : Prop where
  mem_iff : ∀ fault, fault ∈ faults ↔ settings.Violated fault
  once : faults.Nodup
  ordered : faults.Sublist settings.conditions

variable {settings : Settings}

/-- The conditions differ from each other. -/
theorem nodup_conditions (settings : Settings) : settings.conditions.Nodup := by
  simp [conditions]

/-- Of conditions that are checked in turn, those that fail are reported in that order. -/
theorem filterMap_sublist (checks : List (Bool × Fault)) :
    (checks.filterMap fun (violated, fault) => if violated then some fault else none).Sublist
      (checks.map Prod.snd) := by
  induction checks with
  | nil => exact .slnil
  | cons check checks ih =>
    obtain ⟨violated, fault⟩ := check
    cases violated with
    | true => exact ih.cons_cons fault
    | false => exact ih.cons fault

/-- The faults are the conditions that fail. -/
theorem mem_faults_iff {fault : Fault} : fault ∈ settings.faults ↔ settings.Violated fault := by
  cases fault with
  | zeroStartPort => simp [faults, Violated]
  | noAttempts => simp [faults, Violated]
  | nonLoopbackHost host =>
    have hmem : Fault.nonLoopbackHost host ∈ settings.faults ↔
        settings.host.a ≠ 127 ∧ settings.host = host := by
      simp [faults, IPv4.isLoopback]
    rw [hmem, Violated]
    constructor
    · rintro ⟨hhost, rfl⟩
      exact ⟨rfl, hhost⟩
    · rintro ⟨rfl, hhost⟩
      exact ⟨hhost, rfl⟩
  | zeroBodyLimit => simp [faults, Violated]
  | zeroTimeout => simp [faults, Violated]

/-- **The faults are reported completely**, each once and in order. -/
theorem reports_faults (settings : Settings) : settings.Reports settings.faults := by
  have hordered : settings.faults.Sublist settings.conditions := filterMap_sublist _
  exact ⟨fun fault => mem_faults_iff, hordered.nodup settings.nodup_conditions, hordered⟩

/-- Settings are without fault exactly if no condition fails. -/
theorem faults_eq_nil_iff_not_violated :
    settings.faults = [] ↔ ∀ fault, ¬ settings.Violated fault := by
  rw [List.eq_nil_iff_forall_not_mem]
  simp only [mem_faults_iff]

/-- Some condition fails exactly if there is a fault. -/
theorem exists_violated_iff : (∃ fault, settings.Violated fault) ↔ settings.faults ≠ [] := by
  rw [ne_eq, faults_eq_nil_iff_not_violated]
  push Not
  rfl

end Settings

namespace Startup

variable {table : PortTable} {settings : Settings}

/-! ## Endings -/

/-- The search of a start-up at the table as it stands. -/
def search (table : PortTable) (settings : Settings) : Except PortSearch.Failure UInt16 :=
  PortSearch.run table.isFree settings.host settings.startPort settings.maxAttempts

/-- **The three endings.**  Faulty settings are reported, whatever the table; usable settings lead to
the search for a port. -/
theorem prepare_cases (table : PortTable) (settings : Settings) :
    (settings.faults ≠ [] ∧ prepare table settings = .error (.settings settings.faults)) ∨
      (settings.faults = [] ∧ ∃ port, search table settings = .ok port ∧
        prepare table settings = .ok (Target.ofPort port)) ∨
      (settings.faults = [] ∧ ∃ cause, search table settings = .error cause ∧
        prepare table settings = .error (.port cause)) := by
  unfold prepare
  cases hfaults : settings.faults with
  | cons fault faults => exact Or.inl ⟨List.cons_ne_nil fault faults, rfl⟩
  | nil =>
    right
    cases hsearch : search table settings with
    | ok port =>
      rw [search] at hsearch
      exact Or.inl ⟨rfl, port, rfl, by simp only [hsearch]⟩
    | error cause =>
      rw [search] at hsearch
      exact Or.inr ⟨rfl, cause, rfl, by simp only [hsearch]⟩

/-- **Start-up at the machine** comes to the start-up over the table as it stands, and leaves the
table as it was. -/
theorem prepareProbing_eq (table : PortTable) (settings : Settings) :
    prepareProbing table settings = (prepare table settings, table) := by
  unfold prepareProbing prepare
  cases settings.faults with
  | cons fault faults => rfl
  | nil =>
    simp only [PortSearch.allocate_eq]
    cases PortSearch.run table.isFree settings.host settings.startPort settings.maxAttempts <;> rfl

/-! ## When each ending comes about -/

/-- A start-up reports settings exactly if they are faulty, with their faults. -/
theorem prepare_eq_settings_iff {faults : List Settings.Fault} :
    prepare table settings = .error (.settings faults) ↔
      settings.faults ≠ [] ∧ faults = settings.faults := by
  rcases prepare_cases table settings with ⟨hfaults, h⟩ | ⟨hfaults, port, -, h⟩ |
    ⟨hfaults, cause, -, h⟩
  · rw [h]
    simp [hfaults, eq_comm]
  · rw [h]
    simp [hfaults]
  · rw [h]
    simp [hfaults]

/-- A start-up picks a target exactly if the settings are usable and the search finds its port. -/
theorem prepare_eq_ok_iff {target : Target} : prepare table settings = .ok target ↔
    settings.faults = [] ∧ ∃ port, search table settings = .ok port ∧ target = Target.ofPort port := by
  rcases prepare_cases table settings with ⟨hfaults, h⟩ | ⟨hfaults, port, hport, h⟩ |
    ⟨hfaults, cause, hcause, h⟩
  · rw [h]
    simp [hfaults]
  · rw [h, hport]
    simp [hfaults, eq_comm]
  · rw [h, hcause]
    simp

/-- A start-up finds no port exactly if the settings are usable and the search fails. -/
theorem prepare_eq_port_iff {cause : PortSearch.Failure} :
    prepare table settings = .error (.port cause) ↔
      settings.faults = [] ∧ search table settings = .error cause := by
  rcases prepare_cases table settings with ⟨hfaults, h⟩ | ⟨hfaults, port, hport, h⟩ |
    ⟨hfaults, other, hcause, h⟩
  · rw [h]
    simp [hfaults]
  · rw [h, hport]
    simp
  · rw [h, hcause]
    simp [hfaults]

/-- A start-up fails by its settings or by its search, and by nothing else. -/
theorem prepare_failure_cases {failure : Failure} (h : prepare table settings = .error failure) :
    (settings.faults ≠ [] ∧ failure = .settings settings.faults) ∨
      (settings.faults = [] ∧ ∃ cause, failure = .port cause) := by
  rcases prepare_cases table settings with ⟨hfaults, hend⟩ | ⟨hfaults, port, -, hend⟩ |
    ⟨hfaults, cause, -, hend⟩
  · rw [hend] at h
    exact Or.inl ⟨hfaults, (Except.error.inj h).symm⟩
  · rw [hend] at h
    contradiction
  · rw [hend] at h
    exact Or.inr ⟨hfaults, cause, (Except.error.inj h).symm⟩

/-- With usable settings the port that is found is not 0. -/
theorem one_le_of_search {port : UInt16} (hfaults : settings.faults = [])
    (h : search table settings = .ok port) : 1 ≤ port := by
  obtain ⟨hstart, -⟩ := settings.faults_eq_nil_iff.mp hfaults
  have hcandidate := PortSearch.mem_candidates.mp (PortSearch.run_eq_ok h).1
  have hpos : settings.startPort.toNat ≠ 0 := fun hzero => hstart (UInt16.toNat_inj.mp hzero)
  apply UInt16.le_iff_toNat_le.mpr
  show 1 ≤ port.toNat
  omega

/-- **With usable settings the search fails exactly if no candidate can be bound**, and then it
names the host and the whole range. -/
theorem search_eq_error_iff (hfaults : settings.faults = []) {cause : PortSearch.Failure} :
    let ports := PortSearch.candidates settings.startPort settings.maxAttempts
    search table settings = .error cause ↔
      (∀ port ∈ ports, ¬ table.Bindable ⟨settings.host, port⟩) ∧
        ∃ last, ports.getLast? = some last ∧
          (∀ port, port ∈ ports ↔ settings.startPort ≤ port ∧ port ≤ last) ∧
          cause = .exhausted settings.host settings.startPort last := by
  intro ports
  obtain ⟨-, hattempts, -⟩ := settings.faults_eq_nil_iff.mp hfaults
  constructor
  · intro h
    cases cause with
    | noAttempts => exact absurd (PortSearch.run_eq_noAttempts_iff.mp h) hattempts
    | exhausted on first last =>
      obtain ⟨-, hnone, rfl, rfl, hlast⟩ := PortSearch.run_isFree_eq_exhausted_iff.mp h
      refine ⟨hnone, last, hlast, ?_, rfl⟩
      intro port
      exact PortSearch.mem_candidates_iff_le hattempts
        ((PortSearch.getLast?_candidates_iff hattempts).mp hlast)
  · rintro ⟨hnone, last, hlast, -, rfl⟩
    exact PortSearch.run_isFree_eq_exhausted_iff.mpr ⟨hattempts, hnone, rfl, rfl, hlast⟩

/-- **A start-up is judged by its settings first, then by the table.**  Faulty settings are reported
with exactly the conditions that fail, whatever the table; usable settings lead to the least
candidate that can be bound or, if there is none, to a report of the whole range.  There is no other
failure, each has its exit status, and the table stays as it was. -/
theorem prepareProbing_cases (table : PortTable) (settings : Settings) :
    let outcome := (prepareProbing table settings).1
    let ports := PortSearch.candidates settings.startPort settings.maxAttempts
    let Usable := ∀ fault, ¬ settings.Violated fault
    outcome = prepare table settings ∧
      ((∃ faults, outcome = .error (.settings faults)) ↔ ∃ fault, settings.Violated fault) ∧
      (∀ faults, outcome = .error (.settings faults) →
        settings.Reports faults ∧ ∀ other, (prepareProbing other settings).1 = outcome) ∧
      (∀ target, outcome = .ok target ↔ Usable ∧ ∃ port, 1 ≤ port ∧
        PortSearch.LeastBindable table settings.host settings.startPort settings.maxAttempts port ∧
          target = Target.ofPort port) ∧
      (∀ cause, outcome = .error (.port cause) ↔ Usable ∧
        (∀ port ∈ ports, ¬ table.Bindable ⟨settings.host, port⟩) ∧
          ∃ last, ports.getLast? = some last ∧
            (∀ port, port ∈ ports ↔ settings.startPort ≤ port ∧ port ≤ last) ∧
            cause = .exhausted settings.host settings.startPort last) ∧
      (outcome ≠ .error (.port .noAttempts) ∧
        (∀ address cause, outcome ≠ .error (.bind address cause)) ∧
        ∀ cause, outcome ≠ .error (.serve cause)) ∧
      (∀ failure, outcome = .error failure →
        (∃ fault, settings.Violated fault) ∧ failure.exitCode = 2 ∨
          Usable ∧ failure.exitCode = 3) ∧
      (prepareProbing table settings).2 = table := by
  intro outcome ports Usable
  have houtcome : outcome = prepare table settings := by
    simp only [outcome, prepareProbing_eq]
  have husable : Usable ↔ settings.faults = [] := Settings.faults_eq_nil_iff_not_violated.symm
  rw [houtcome, husable, Settings.exists_violated_iff]
  refine ⟨rfl, ?_, ?_, ?_, ?_, ⟨?_, ?_, ?_⟩, ?_, ?_⟩
  · constructor
    · rintro ⟨faults, hfaults⟩
      exact (prepare_eq_settings_iff.mp hfaults).1
    · intro hfaults
      exact ⟨settings.faults, prepare_eq_settings_iff.mpr ⟨hfaults, rfl⟩⟩
  · intro faults h
    obtain ⟨hfaults, rfl⟩ := prepare_eq_settings_iff.mp h
    refine ⟨settings.reports_faults, ?_⟩
    intro other
    rw [prepareProbing_eq, h]
    exact prepare_eq_settings_iff.mpr ⟨hfaults, rfl⟩
  · intro target
    rw [prepare_eq_ok_iff]
    constructor
    · rintro ⟨hfaults, port, hport, rfl⟩
      exact ⟨hfaults, port, one_le_of_search hfaults hport,
        PortSearch.run_isFree_eq_ok_iff.mp hport, rfl⟩
    · rintro ⟨hfaults, port, -, hleast, rfl⟩
      exact ⟨hfaults, port, PortSearch.run_isFree_eq_ok_iff.mpr hleast, rfl⟩
  · intro cause
    rw [prepare_eq_port_iff]
    exact and_congr_right fun hfaults => search_eq_error_iff hfaults
  · intro h
    obtain ⟨hfaults, hsearch⟩ := prepare_eq_port_iff.mp h
    obtain ⟨-, hattempts, -⟩ := settings.faults_eq_nil_iff.mp hfaults
    exact hattempts (PortSearch.run_eq_noAttempts_iff.mp hsearch)
  · intro address cause h
    rcases prepare_failure_cases h with ⟨-, hend⟩ | ⟨-, other, hend⟩ <;> contradiction
  · intro cause h
    rcases prepare_failure_cases h with ⟨-, hend⟩ | ⟨-, other, hend⟩ <;> contradiction
  · intro failure h
    rcases prepare_failure_cases h with ⟨hfaults, rfl⟩ | ⟨hfaults, cause, rfl⟩
    · exact Or.inl ⟨hfaults, rfl⟩
    · exact Or.inr ⟨hfaults, rfl⟩
  · rw [prepareProbing_eq]

/-- Start-ups at work: two conditions fail and are reported in order; with a usable host of the
loopback block the search passes a port that is held under the address that stands for all. -/
theorem prepareProbing_cases_loopback :
    let table : PortTable := ⟨[⟨IPv4.unspecified, 65534⟩]⟩
    let faulty : Settings := { startPort := 0, host := IPv4.unspecified }
    let usable : Settings := { startPort := 65534, host := ⟨127, 0, 0, 2⟩ }
    (prepareProbing table faulty).1 =
        .error (.settings [.zeroStartPort, .nonLoopbackHost IPv4.unspecified]) ∧
      faulty.Reports [.zeroStartPort, .nonLoopbackHost IPv4.unspecified] ∧
      (prepareProbing table usable).1 = .ok (Target.ofPort 65535) ∧
      (∃ port, 1 ≤ port ∧ PortSearch.LeastBindable table ⟨127, 0, 0, 2⟩ 65534 10 port ∧
        Target.ofPort 65535 = Target.ofPort port) ∧
      (prepareProbing table usable).2 = table := by
  intro table faulty usable
  obtain ⟨-, -, hreports, -⟩ := prepareProbing_cases table faulty
  obtain ⟨-, -, -, hok, -, -, -, htable⟩ := prepareProbing_cases table usable
  have hfaults : (prepareProbing table faulty).1 =
      .error (.settings [.zeroStartPort, .nonLoopbackHost IPv4.unspecified]) := by decide
  have hpicked : (prepareProbing table usable).1 = .ok (Target.ofPort 65535) := by decide
  exact ⟨hfaults, (hreports _ hfaults).1, hpicked, ((hok _).mp hpicked).2, htable⟩

end Startup

end EchoBackend
