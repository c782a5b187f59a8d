/-
# Picking a port

What the table of held ports, the search through the candidates and the check of the settings come
to, each in one lemma.  The main statement, `Startup.prepare_eq_ok`, says what is known of a target
that was picked: its port is not 0, its identity is that of the port, the host is a loopback
address, and at that moment the address can be bound.
-/
import EchoBackend.Startup
import Mathlib.Data.List.Basic

namespace EchoBackend

/-! ## Identities -/

namespace Identity

/-- The part of a name that tells ports apart. -/
def suffix (port : UInt16) : String :=
  match port.toNat with
  | 9001 => "a"
  | 9002 => "b"
  | number => number.repr

/-- All names begin alike. -/
theorem ofPort_eq (port : UInt16) : ofPort port = ⟨"api-" ++ suffix port⟩ := by
  unfold ofPort suffix
  split <;> simp_all

/-- A number is no single letter. -/
theorem repr_ne_singleton {letter : Char} (h : letter.isDigit = false) (number : Nat) :
    number.repr ≠ String.ofList [letter] := by
  intro heq
  have hdigits : Nat.toDigits 10 number = [letter] := by
    rw [← Nat.toList_repr, heq, String.toList_ofList]
  have hdigit : letter.isDigit = true :=
    Nat.isDigit_of_mem_toDigits (by decide) (Nat.le_refl 10)
      (hdigits ▸ List.mem_singleton_self letter)
  rw [h] at hdigit
  contradiction

/-- A port without a name of its own is named by its number. -/
theorem suffix_of_ne {port : UInt16} (hfirst : port.toNat ≠ 9001) (hsecond : port.toNat ≠ 9002) :
    suffix port = port.toNat.repr := by
  unfold suffix
  split <;> simp_all

/-- Only the first named port has the first name. -/
theorem suffix_eq_a_iff {port : UInt16} : suffix port = "a" ↔ port.toNat = 9001 := by
  have hletter : port.toNat.repr ≠ "a" := repr_ne_singleton (by decide : 'a'.isDigit = false) _
  unfold suffix
  split
  case h_1 h => simp [h]
  case h_2 h => simp [h]
  case h_3 hfirst _ => exact ⟨fun h => absurd h hletter, fun h => absurd h hfirst⟩

/-- Only the second named port has the second name. -/
theorem suffix_eq_b_iff {port : UInt16} : suffix port = "b" ↔ port.toNat = 9002 := by
  have hletter : port.toNat.repr ≠ "b" := repr_ne_singleton (by decide : 'b'.isDigit = false) _
  unfold suffix
  split
  case h_1 h => simp [h]
  case h_2 h => simp [h]
  case h_3 _ hsecond => exact ⟨fun h => absurd h hletter, fun h => absurd h hsecond⟩

/-- A number is the value of its digits. -/
theorem value_repr (number : Nat) : Nat.ofDigitChars 10 number.repr.toList 0 = number := by
  rw [Nat.toList_repr, Nat.ofDigitChars_toDigits (by decide) (Nat.le_refl 10)]

/-- Names are made of a few letters, a hyphen and digits. -/
theorem mem_label {port : UInt16} {c : Char} (h : c ∈ (ofPort port).label.toList) :
    c ∈ "api-b".toList ∨ c.isDigit = true := by
  rw [ofPort_eq, String.toList_append, List.mem_append] at h
  rcases h with h | h
  · exact Or.inl (List.mem_append_left "b".toList h)
  · unfold suffix at h
    split at h
    · obtain rfl := List.mem_singleton.mp h
      exact Or.inl (by decide)
    · obtain rfl := List.mem_singleton.mp h
      exact Or.inl (by decide)
    · rw [Nat.toList_repr] at h
      exact Or.inr (Nat.isDigit_of_mem_toDigits (by decide) (Nat.le_refl 10) h)

/-- Different ports have different suffixes. -/
theorem suffix_injective : Function.Injective suffix := by
  intro x y h
  rw [← UInt16.toNat_inj]
  by_cases hfirst : x.toNat = 9001
  · rw [hfirst, suffix_eq_a_iff.mp (h ▸ suffix_eq_a_iff.mpr hfirst)]
  by_cases hsecond : x.toNat = 9002
  · rw [hsecond, suffix_eq_b_iff.mp (h ▸ suffix_eq_b_iff.mpr hsecond)]
  -- Now `x` is named by its number, and so is `y`.
  have hfirst' : y.toNat ≠ 9001 := fun hy =>
    hfirst (suffix_eq_a_iff.mp (h.trans (suffix_eq_a_iff.mpr hy)))
  have hsecond' : y.toNat ≠ 9002 := fun hy =>
    hsecond (suffix_eq_b_iff.mp (h.trans (suffix_eq_b_iff.mpr hy)))
  rw [suffix_of_ne hfirst hsecond, suffix_of_ne hfirst' hsecond'] at h
  rw [← value_repr x.toNat, h, value_repr]

/-- **Different ports have different names.** -/
theorem ofPort_injective : Function.Injective ofPort := by
  intro x y h
  rw [ofPort_eq, ofPort_eq, Identity.mk.injEq, String.append_right_inj] at h
  exact suffix_injective h

end Identity

/-! ## The table of held ports -/

/-- An address excludes itself. -/
theorem SocketAddress.excludes_self (address : SocketAddress) :
    address.excludes address = true := by
  simp [excludes]

namespace PortTable

variable {table : PortTable} {address other : SocketAddress}

/-- An address can be bound exactly if it is one of this machine and nothing held excludes it,
port 0 never being held. -/
theorem refusal?_eq_none_iff : table.refusal? address = none ↔
    address.host.isLocal = true ∧
      (address.port = 0 ∨ ∀ other ∈ table.held, address.excludes other = false) := by
  unfold refusal?
  cases address.host.isLocal with
  | false => simp
  | true =>
    by_cases hport : address.port = 0
    · simp [hport]
    · simp [hport]

/-- On this machine, an address other than of port 0 is refused because something held excludes
it. -/
theorem refusal?_of_local (hlocal : address.host.isLocal = true) (hport : address.port ≠ 0) :
    table.refusal? address =
      if table.held.any address.excludes then some .addressInUse else none := by
  simp [refusal?, hlocal, hport]

/-- What is held after a release. -/
theorem mem_held_release : other ∈ (table.release address).held ↔
    other ∈ table.held ∧ other ≠ address := by
  simp [release]

end PortTable

/-! ## The search -/

namespace PortSearch

/-- The ports that are tried: those from the first choice on, as many as asked for. -/
theorem mem_candidates {start attempts port : UInt16} :
    port ∈ candidates start attempts ↔
      start.toNat ≤ port.toNat ∧ port.toNat < start.toNat + attempts.toNat := by
  have hstart := start.toNat_lt
  have hport := port.toNat_lt
  rw [candidates, List.mem_map]
  constructor
  · rintro ⟨step, hstep, rfl⟩
    rw [List.mem_range] at hstep
    have hvalue : (UInt16.ofNat (start.toNat + step)).toNat = start.toNat + step :=
      UInt16.toNat_ofNat_of_lt' (by show _ < 65536; omega)
    omega
  · rintro ⟨hle, hlt⟩
    refine ⟨port.toNat - start.toNat, List.mem_range.mpr (by omega), ?_⟩
    rw [Nat.add_sub_cancel' hle, UInt16.ofNat_toNat]

/-- Trying ports in order finds the first one that is free. -/
theorem tryEach_eq_ok_iff {free : UInt16 → Bool} {last port : UInt16} {ports : List UInt16} :
    tryEach free last ports = .ok port ↔ ports.find? free = some port := by
  induction ports generalizing last with
  | nil => simp [tryEach]
  | cons first ports ih =>
    cases hfirst : free first with
    | true => simp [tryEach, hfirst]
    | false => simp [tryEach, hfirst, ih]

/-- A search that succeeds finds a candidate that is free. -/
theorem run_eq_ok {free : SocketAddress → Bool} {host : IPv4} {start attempts port : UInt16}
    (h : run free host start attempts = .ok port) :
    port ∈ candidates start attempts ∧ free ⟨host, port⟩ = true := by
  unfold run at h
  split at h
  · contradiction
  · split at h
    case h_1 found hfound =>
      injection h with h
      subst h
      rw [tryEach_eq_ok_iff] at hfound
      exact ⟨List.mem_of_find?_eq_some hfound,
        List.find?_some (p := fun port => free ⟨host, port⟩) hfound⟩
    case h_2 => contradiction

end PortSearch

/-! ## The settings -/

/-- Usable settings meet all five conditions. -/
theorem Settings.faults_eq_nil_iff (settings : Settings) : settings.faults = [] ↔
    settings.startPort ≠ 0 ∧ settings.maxAttempts ≠ 0 ∧ settings.host.isLoopback = true ∧
      settings.bodyLimit ≠ 0 ∧ settings.requestSeconds ≠ 0 := by
  simp [faults, List.filterMap_eq_nil_iff]

namespace Startup

/-- **What is known of a target that was picked.** -/
theorem prepare_eq_ok {table : PortTable} {settings : Settings} {target : Target}
    (h : prepare table settings = .ok target) :
    target = Target.ofPort target.port ∧ target.port ≠ 0 ∧ settings.host.isLoopback = true ∧
      table.refusal? ⟨settings.host, target.port⟩ = none := by
  unfold prepare at h
  split at h
  case h_2 => contradiction
  case h_1 hfaults =>
    obtain ⟨hstart, -, hhost, -⟩ := settings.faults_eq_nil_iff.mp hfaults
    split at h
    case h_2 => contradiction
    case h_1 port hport =>
      injection h with h
      subst h
      obtain ⟨hmem, hfree⟩ := PortSearch.run_eq_ok hport
      refine ⟨rfl, fun hzero => hstart ?_, hhost, by simpa [PortTable.isFree] using hfree⟩
      -- The search never goes below the first choice.
      have hle := (PortSearch.mem_candidates.mp hmem).1
      rw [show port = 0 from hzero] at hle
      exact UInt16.toNat_inj.mp (Nat.le_zero.mp hle)

end Startup

end EchoBackend
