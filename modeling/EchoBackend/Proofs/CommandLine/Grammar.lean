/-
# The grammar of command lines

Which command lines name a port to begin with, and which ask for information, said without the
reader.  The main statements are `read_eq_serve_iff` and `read_eq_inform_iff`; every other command
line is rejected.
-/
import EchoBackend.Proofs.CommandLine.Ports

namespace EchoBackend

namespace CommandLine

/-! ## Forms -/

/-- The bare double dash. -/
def divider : Bytes := [0x2D, 0x2D]

/-- The letter of an option. -/
def Flag.letter : Flag → UInt8
  | help => 0x68
  | version => 0x56

/-- An argument that asks for an option: by its long name, or by letters that begin with its own. -/
def Flag.AskedBy (flag : Flag) (argument : Bytes) : Prop :=
  argument = divider ++ Utf8.bytes flag.name ∨ ∃ letters, argument = 0x2D :: flag.letter :: letters

/-- A command line that names the port to begin with; the default is 9001.  A double dash may stand
on either side of the port. -/
def Names (arguments : List Bytes) (port : UInt16) : Prop :=
  (arguments = [] ∨ arguments = [divider]) ∧ port = 9001 ∨
    ∃ written, SpellsPort written port ∧
      (arguments = [written] ∨ arguments = [divider, written] ∨ arguments = [written, divider])

/-- A command line that asks for an option: nothing or a port stands before it, and what stands
after it does not matter. -/
def AsksFor (arguments : List Bytes) (flag : Flag) : Prop :=
  ∃ before argument rest, arguments = before ++ argument :: rest ∧ flag.AskedBy argument ∧
    (before = [] ∨ ∃ written port, before = [written] ∧ SpellsPort written port)

/-- An argument that is a value where it stands: one without a dash in front, or a single dash. -/
def IsValue (argument : Bytes) : Prop := argument.head? ≠ some 0x2D ∨ argument = [0x2D]

/-! ## Options -/

/-- The option of a name is the one with that name. -/
theorem Flag.ofName?_eq_some_iff {name : Bytes} {flag : Flag} :
    Flag.ofName? name = some flag ↔ name = Utf8.bytes flag.name := by
  have hne : Utf8.bytes Flag.version.name ≠ Utf8.bytes Flag.help.name := by decide
  unfold Flag.ofName?
  by_cases hhelp : name = Utf8.bytes Flag.help.name
  · subst hhelp
    cases flag <;> simp [hne.symm]
  by_cases hversion : name = Utf8.bytes Flag.version.name
  · subst hversion
    cases flag <;> simp [hne]
  · cases flag <;> simp [hhelp, hversion]

/-- Nothing is attached to a name exactly if all of it is the name. -/
theorem attached_eq_none_iff {rest : Bytes} :
    (rest.dropWhile (· != 0x3D)).tail? = none ↔ rest.takeWhile (· != 0x3D) = rest := by
  have happend := List.takeWhile_append_dropWhile (p := (· != (0x3D : UInt8))) (l := rest)
  constructor
  · intro h
    cases hdrop : rest.dropWhile (· != 0x3D) with
    | nil => rwa [hdrop, List.append_nil] at happend
    | cons byte more =>
      rw [hdrop] at h
      contradiction
  · intro h
    rw [h, List.append_right_eq_self] at happend
    rw [happend]
    rfl

/-- **An option by name**, with nothing attached. -/
theorem named_askedBy_iff {flag : Flag} {rest : Bytes} :
    (Flag.ofName? (rest.takeWhile (· != 0x3D)) = some flag ∧
      (rest.dropWhile (· != 0x3D)).tail? = none) ↔ rest = Utf8.bytes flag.name := by
  rw [Flag.ofName?_eq_some_iff, attached_eq_none_iff]
  constructor
  · rintro ⟨hname, hrest⟩
    rw [← hrest, hname]
  · rintro rfl
    cases flag <;> decide

/-- The letter of an option is read as that option only. -/
theorem Flag.ofLetter?_eq_some_iff {c : Char} {flag : Flag} :
    Flag.ofLetter? c = some flag ↔ String.utf8EncodeChar c = [flag.letter] := by
  have hencode (letter : Char) (h : letter.toNat < 0x80) :
      String.utf8EncodeChar c = [UInt8.ofNat letter.toNat] ↔ c = letter := by
    constructor
    · intro hc
      -- Both begin the same text with a character.
      have hscan := Utf8.scan_eq_some_cons_iff.mpr ⟨[], by rw [hc, List.append_nil], rfl⟩
      rw [← Utf8.utf8EncodeChar_of_ascii h] at hscan
      have hother := Utf8.scan_eq_some_cons_iff.mpr
        ⟨[], (List.append_nil (String.utf8EncodeChar letter)).symm, rfl⟩
      rw [hscan] at hother
      exact Option.some.inj (List.cons.inj hother).1
    · rintro rfl
      exact Utf8.utf8EncodeChar_of_ascii h
  cases flag with
  | help =>
    have hh : String.utf8EncodeChar c = [Flag.help.letter] ↔ c = 'h' :=
      hencode 'h' (by decide)
    rw [hh]
    unfold Flag.ofLetter?
    split <;> simp_all
  | version =>
    have hv : String.utf8EncodeChar c = [Flag.version.letter] ↔ c = 'V' :=
      hencode 'V' (by decide)
    rw [hv]
    unfold Flag.ofLetter?
    split <;> simp_all

/-- **An option by letter**: only the first letter counts. -/
theorem lettered_askedBy_iff {flag : Flag} {letters : Bytes} :
    (firstLetter letters).1.bind Flag.ofLetter? = some flag ↔
      ∃ rest, letters = flag.letter :: rest := by
  constructor
  · intro h
    unfold firstLetter at h
    split at h
    case h_1 c items hscan =>
      obtain ⟨rest, rfl, -⟩ := Utf8.scan_eq_some_cons_iff.mp hscan
      have hletter := Flag.ofLetter?_eq_some_iff.mp (show Flag.ofLetter? c = some flag from h)
      exact ⟨rest, by rw [hletter, List.singleton_append]⟩
    case h_2 => contradiction
  · rintro ⟨rest, rfl⟩
    cases flag with
    | help =>
      have hscan : Utf8.scan (Flag.help.letter :: rest) = some 'h' :: Utf8.scan rest :=
        Utf8.scan_eq_some_cons_iff.mpr ⟨rest, rfl, rfl⟩
      rw [firstLetter, hscan]
      rfl
    | version =>
      have hscan : Utf8.scan (Flag.version.letter :: rest) = some 'V' :: Utf8.scan rest :=
        Utf8.scan_eq_some_cons_iff.mpr ⟨rest, rfl, rfl⟩
      rw [firstLetter, hscan]
      rfl

/-! ## Reading -/

variable {given : Option Bytes} {arguments rest : List Bytes} {written : Bytes}
  {request : Request} {flag : Flag} {port : UInt16}

/-- An option takes effect if what stands before it is accepted. -/
theorem inform_eq_ok_iff : inform given flag = .ok request ↔
    request = .inform flag ∧ ∃ port, judgeGiven given = .ok port := by
  rw [inform, Except.map_eq_ok_iff]
  constructor
  · rintro ⟨port, hport, rfl⟩
    exact ⟨rfl, port, hport⟩
  · rintro ⟨rfl, port, hport⟩
    exact ⟨port, hport, rfl⟩

/-- **Arguments are recognised by their dashes.** -/
theorem ofBytes_cases (written : Bytes) :
    (IsValue written ∧ Argument.ofBytes written = .value) ∨
      (written = divider ∧ Argument.ofBytes written = .divider) ∨
      (∃ rest, rest ≠ [] ∧ written = divider ++ rest ∧ Argument.ofBytes written =
        .named (rest.takeWhile (· != 0x3D)) ((rest.dropWhile (· != 0x3D)).tail?)) ∨
      ∃ byte letters, byte ≠ 0x2D ∧ written = 0x2D :: byte :: letters ∧
        Argument.ofBytes written = .lettered (byte :: letters) := by
  unfold Argument.ofBytes
  split
  case h_1 => exact Or.inl ⟨Or.inr rfl, rfl⟩
  case h_2 => exact Or.inr (Or.inl ⟨rfl, rfl⟩)
  case h_3 rest hne =>
    exact Or.inr (Or.inr (Or.inl ⟨rest, fun h => hne (by rw [h]), rfl, rfl⟩))
  case h_4 letters hsingle _ hdouble =>
    cases letters with
    | nil => exact absurd rfl hsingle
    | cons byte letters =>
      refine Or.inr (Or.inr (Or.inr ⟨byte, letters, ?_, rfl, rfl⟩))
      rintro rfl
      exact hdouble letters rfl
  case h_5 _ _ _ hne =>
    refine Or.inl ⟨Or.inl fun h => ?_, rfl⟩
    obtain ⟨rest, rfl⟩ := List.head?_eq_some_iff.mp h
    exact hne rest rfl

/-- The letter of an option is no dash. -/
theorem Flag.letter_ne (flag : Flag) : flag.letter ≠ 0x2D := by
  cases flag <;> decide

/-- A name asks for the option of that name. -/
theorem askedBy_named_iff : flag.AskedBy (divider ++ written) ↔ written = Utf8.bytes flag.name := by
  unfold Flag.AskedBy
  constructor
  · rintro (h | ⟨letters, h⟩)
    · exact List.append_cancel_left h
    · exact absurd (List.cons.inj (List.cons.inj h).2).1.symm flag.letter_ne
  · rintro rfl
    exact Or.inl rfl

/-- Letters ask for the option of the first one. -/
theorem askedBy_lettered_iff {byte : UInt8} {letters : Bytes} (h : byte ≠ 0x2D) :
    flag.AskedBy (0x2D :: byte :: letters) ↔ ∃ rest, byte :: letters = flag.letter :: rest := by
  unfold Flag.AskedBy
  constructor
  · rintro (hname | ⟨rest, hletters⟩)
    · exact absurd (List.cons.inj (List.cons.inj hname).2).1 h
    · exact ⟨rest, (List.cons.inj hletters).2⟩
  · rintro ⟨rest, hletters⟩
    exact Or.inr ⟨rest, by rw [hletters]⟩

/-- No option has an empty name. -/
theorem bytes_name_ne_nil (flag : Flag) : Utf8.bytes flag.name ≠ [] := by
  cases flag <;> decide

/-- The double dash alone asks for nothing. -/
theorem not_askedBy_divider : ¬ flag.AskedBy divider := by
  intro h
  exact bytes_name_ne_nil flag (askedBy_named_iff.mp h).symm

/-- A value asks for nothing. -/
theorem not_askedBy_of_isValue (h : IsValue written) : ¬ flag.AskedBy written := by
  rcases h with h | rfl
  · rintro (rfl | ⟨letters, rfl⟩)
    · exact h rfl
    · exact h rfl
  · rintro (hname | ⟨letters, hletters⟩)
    · exact absurd (List.cons.inj hname).2 (List.cons_ne_nil _ _).symm
    · exact absurd (List.cons.inj hletters).2 (List.cons_ne_nil _ _).symm

/-- An option is no value. -/
theorem not_isValue_cons {byte : UInt8} {letters : Bytes} :
    ¬ IsValue (0x2D :: byte :: letters) := by
  rintro (h | h)
  · exact h rfl
  · exact absurd (List.cons.inj h).2 (List.cons_ne_nil _ _)

/-- **What an argument leads to**, if the command line is accepted: an option takes effect, a
double dash leaves values only, or a value is kept for later. -/
theorem readArguments_cons_eq_ok_iff :
    readArguments given (written :: rest) = .ok request ↔
      (∃ flag, flag.AskedBy written ∧ inform given flag = .ok request) ∨
      (written = divider ∧ readValues given rest = .ok request) ∨
      (IsValue written ∧ given = none ∧ readArguments (some written) rest = .ok request) := by
  rw [readArguments.eq_def]
  dsimp only
  rcases ofBytes_cases written with ⟨hvalue, hread⟩ | ⟨rfl, hread⟩ | ⟨name, hne, rfl, hread⟩ |
    ⟨byte, letters, hbyte, rfl, hread⟩
  · have hdivider : written ≠ divider := by
      rintro rfl
      exact not_isValue_cons hvalue
    rw [hread]
    cases given <;> simp [hvalue, hdivider, not_askedBy_of_isValue hvalue]
  · rw [hread]
    simp [not_askedBy_divider, show ¬ IsValue divider from not_isValue_cons]
  · have hdivider : divider ++ name ≠ divider := by simpa using hne
    rw [hread]
    simp only [hdivider, false_and, show ¬ IsValue (divider ++ name) from
      not_isValue_cons, or_false, askedBy_named_iff, ← named_askedBy_iff]
    cases Flag.ofName? (name.takeWhile (· != 0x3D)) with
    | none => simp
    | some flag => cases (name.dropWhile (· != 0x3D)).tail? <;> simp
  · have hdivider : 0x2D :: byte :: letters ≠ divider := by
      intro h
      exact hbyte (List.cons.inj (List.cons.inj h).2).1
    rw [hread]
    simp only [hdivider, false_and, show ¬ IsValue (0x2D :: byte :: letters) from
      not_isValue_cons, or_false, askedBy_lettered_iff hbyte, ← lettered_askedBy_iff]
    cases (firstLetter (byte :: letters)).1.bind Flag.ofLetter? <;> simp

/-- A port that is accepted is the one to begin with. -/
theorem map_serve_eq_ok_iff {judged : Except Rejection UInt16} :
    judged.map Request.serve = .ok request ↔ ∃ port, judged = .ok port ∧ request = .serve port := by
  rw [Except.map_eq_ok_iff]
  simp only [eq_comm]

/-- Values only: nothing, or one value. -/
theorem readValues_eq_ok_iff : readValues given arguments = .ok request ↔
    (arguments = [] ∧ ∃ port, judgeGiven given = .ok port ∧ request = .serve port) ∨
      ∃ written port, given = none ∧ arguments = [written] ∧ judge written = .ok port ∧
        request = .serve port := by
  cases arguments with
  | nil => simp [readValues, map_serve_eq_ok_iff]
  | cons written rest =>
    cases given with
    | some value => simp [readValues]
    | none =>
      cases rest with
      | nil => simp [readValues, judgeGiven, map_serve_eq_ok_iff]
      | cons other rest => simp [readValues]

/-- **After a value** there may be a double dash, or an option with anything behind it. -/
theorem readArguments_some_eq_ok_iff : readArguments (some written) arguments = .ok request ↔
    ∃ port, SpellsPort written port ∧
      ((arguments = [] ∨ arguments = [divider]) ∧ request = .serve port ∨
        ∃ argument rest flag, arguments = argument :: rest ∧ flag.AskedBy argument ∧
          request = .inform flag) := by
  simp only [← judge_eq_ok_iff]
  cases arguments with
  | nil => simp [readArguments, map_serve_eq_ok_iff, judgeGiven]
  | cons argument rest =>
    rw [readArguments_cons_eq_ok_iff, readValues_eq_ok_iff]
    simp only [inform_eq_ok_iff, judgeGiven]
    constructor
    · rintro (⟨flag, hasked, rfl, port, hport⟩ | ⟨rfl, ⟨rfl, port, hport, rfl⟩ | h⟩ | h)
      · exact ⟨port, hport, Or.inr ⟨argument, rest, flag, rfl, hasked, rfl⟩⟩
      · exact ⟨port, hport, Or.inl ⟨Or.inr rfl, rfl⟩⟩
      · obtain ⟨_, _, hnone, -⟩ := h
        contradiction
      · exact absurd h.2.1 (Option.some_ne_none _)
    · rintro ⟨port, hport, ⟨hnil | hdivider, rfl⟩ | ⟨_, _, flag, hcons, hasked, rfl⟩⟩
      · contradiction
      · obtain ⟨rfl, rfl⟩ := List.cons.inj hdivider
        exact Or.inr (Or.inl ⟨rfl, Or.inl ⟨rfl, port, hport, rfl⟩⟩)
      · obtain ⟨rfl, rfl⟩ := List.cons.inj hcons
        exact Or.inl ⟨flag, hasked, rfl, port, hport⟩

/-- A port is a value. -/
theorem SpellsPort.isValue (h : SpellsPort written port) : IsValue written := by
  obtain ⟨byte, rest, rfl, hbyte⟩ := h.exists_cons
  refine Or.inl fun hhead => ?_
  obtain rfl := Option.some.inj hhead
  rcases hbyte with hbyte | hbyte
  · exact absurd hbyte (by decide)
  · exact absurd hbyte (by decide)

/-- What was read was named or asked for. -/
theorem names_or_asksFor_of_read (h : read arguments = .ok request) :
    (∃ port, Names arguments port ∧ request = .serve port) ∨
      ∃ flag, AsksFor arguments flag ∧ request = .inform flag := by
  unfold read at h
  cases arguments with
  | nil =>
    obtain ⟨port, hport, rfl⟩ := map_serve_eq_ok_iff.mp h
    exact Or.inl ⟨port, Or.inl ⟨Or.inl rfl, (Except.ok.inj hport).symm⟩, rfl⟩
  | cons argument rest =>
    rcases readArguments_cons_eq_ok_iff.mp h with ⟨flag, hasked, hinform⟩ | ⟨rfl, hvalues⟩ |
      ⟨-, -, hafter⟩
    · obtain ⟨rfl, -⟩ := inform_eq_ok_iff.mp hinform
      exact Or.inr ⟨flag, ⟨[], argument, rest, rfl, hasked, Or.inl rfl⟩, rfl⟩
    · rcases readValues_eq_ok_iff.mp hvalues with ⟨rfl, port, hport, rfl⟩ |
        ⟨written, port, -, rfl, hport, rfl⟩
      · exact Or.inl ⟨port, Or.inl ⟨Or.inr rfl, (Except.ok.inj hport).symm⟩, rfl⟩
      · have hspells := judge_eq_ok_iff.mp hport
        exact Or.inl ⟨port, Or.inr ⟨written, hspells, Or.inr (Or.inl rfl)⟩, rfl⟩
    · obtain ⟨port, hspells, ⟨hrest, rfl⟩ | ⟨option, rest, flag, rfl, hasked, rfl⟩⟩ :=
        readArguments_some_eq_ok_iff.mp hafter
      · refine Or.inl ⟨port, Or.inr ⟨argument, hspells, ?_⟩, rfl⟩
        rcases hrest with rfl | rfl
        · exact Or.inl rfl
        · exact Or.inr (Or.inr rfl)
      · exact Or.inr ⟨flag, ⟨[argument], option, rest, rfl, hasked,
          Or.inr ⟨argument, port, rfl, hspells⟩⟩, rfl⟩

/-- A port that is named is read, whichever side of it a double dash stands on. -/
theorem read_of_names (h : Names arguments port) : read arguments = .ok (.serve port) := by
  unfold read
  rcases h with ⟨rfl | rfl, rfl⟩ | ⟨written, hspells, hform⟩
  · rfl
  · rfl
  · have hafter {rest : List Bytes} (hrest : rest = [] ∨ rest = [divider]) :
        readArguments none (written :: rest) = .ok (.serve port) := by
      rw [readArguments_cons_eq_ok_iff, readArguments_some_eq_ok_iff]
      exact Or.inr (Or.inr ⟨hspells.isValue, rfl, port, hspells, Or.inl ⟨hrest, rfl⟩⟩)
    rcases hform with rfl | rfl | rfl
    · exact hafter (Or.inl rfl)
    · rw [readArguments_cons_eq_ok_iff, readValues_eq_ok_iff]
      exact Or.inr (Or.inl ⟨rfl,
        Or.inr ⟨written, port, rfl, rfl, judge_eq_ok_iff.mpr hspells, rfl⟩⟩)
    · exact hafter (Or.inr rfl)

/-- An option that is asked for is read, whatever stands after it. -/
theorem read_of_asksFor (h : AsksFor arguments flag) : read arguments = .ok (.inform flag) := by
  unfold read
  obtain ⟨before, argument, rest, rfl, hasked, rfl | ⟨written, port, rfl, hspells⟩⟩ := h
  · rw [List.nil_append, readArguments_cons_eq_ok_iff]
    exact Or.inl ⟨flag, hasked, inform_eq_ok_iff.mpr ⟨rfl, 9001, rfl⟩⟩
  · rw [List.singleton_append, readArguments_cons_eq_ok_iff, readArguments_some_eq_ok_iff]
    exact Or.inr (Or.inr ⟨hspells.isValue, rfl, port, hspells,
      Or.inr ⟨argument, rest, flag, rfl, hasked, rfl⟩⟩)

/-- **The command lines that name a port.** -/
theorem read_eq_serve_iff : read arguments = .ok (.serve port) ↔ Names arguments port := by
  refine ⟨fun h => ?_, read_of_names⟩
  rcases names_or_asksFor_of_read h with ⟨other, hnames, hrequest⟩ | ⟨flag, -, hrequest⟩
  · rwa [Request.serve.inj hrequest]
  · contradiction

/-- **The command lines that ask for information.** -/
theorem read_eq_inform_iff : read arguments = .ok (.inform flag) ↔ AsksFor arguments flag := by
  refine ⟨fun h => ?_, read_of_asksFor⟩
  rcases names_or_asksFor_of_read h with ⟨port, -, hrequest⟩ | ⟨other, hasks, hrequest⟩
  · contradiction
  · rwa [Request.inform.inj hrequest]

/-- **Every other command line is rejected.** -/
theorem exists_read_eq_error_iff : (∃ cause, read arguments = .error cause) ↔
    (∀ port, ¬ Names arguments port) ∧ ∀ flag, ¬ AsksFor arguments flag := by
  constructor
  · rintro ⟨cause, h⟩
    refine ⟨fun port hnames => ?_, fun flag hasks => ?_⟩
    · rw [read_of_names hnames] at h
      contradiction
    · rw [read_of_asksFor hasks] at h
      contradiction
  · rintro ⟨hnames, hasks⟩
    cases h : read arguments with
    | error cause => exact ⟨cause, rfl⟩
    | ok request =>
      rcases names_or_asksFor_of_read h with ⟨port, hport, -⟩ | ⟨flag, hflag, -⟩
      · exact absurd hport (hnames port)
      · exact absurd hflag (hasks flag)

/-- A single value is accepted exactly if it spells a port. -/
theorem names_singleton_iff (h : written.head? ≠ some 0x2D) :
    Names [written] port ↔ SpellsPort written port := by
  constructor
  · rintro (⟨hnil | hdivider, -⟩ | ⟨other, hspells, hsingle | hdouble | hdouble⟩)
    · contradiction
    · exact absurd ((List.cons.inj hdivider).1 ▸ rfl) h
    · rwa [(List.cons.inj hsingle).1]
    · exact absurd (List.cons.inj hdouble).2 (List.cons_ne_nil _ _).symm
    · exact absurd (List.cons.inj hdouble).2 (List.cons_ne_nil _ _).symm
  · exact fun hspells => Or.inr ⟨written, hspells, Or.inl rfl⟩

/-- A single value asks for nothing. -/
theorem not_asksFor_singleton (h : written.head? ≠ some 0x2D) : ¬ AsksFor [written] flag := by
  rintro ⟨before, argument, rest, hform, hasked, rfl | ⟨value, port, rfl, -⟩⟩
  · rw [List.nil_append] at hform
    exact not_askedBy_of_isValue (Or.inl h) ((List.cons.inj hform).1 ▸ hasked)
  · exact absurd (List.cons.inj hform).2 (List.cons_ne_nil _ _).symm

end CommandLine

end EchoBackend
