import LedgerAmount.Proofs.OwnLogger

/-!
# Settings that were loaded

Settings of the evaluator that could be loaded can be used and loaded again: whatever the sources
hold, the number of places is within its bounds and the rounding is the exact name of a mode. Given
as arguments, both are loaded as they are, over any other sources. So no division ever meets a rule
without a mode.
-/

namespace LedgerAmount

/-! ## Reading a setting -/

namespace Sources

variable {α : Type} {sources : Sources} {field name : String} {default a : α} {reading : Reading α}
  {fault : FieldFault}

/-- A setting is what is read of its first source, or the default where no source has it. -/
theorem read_eq_ok_iff : sources.read field name default reading = .ok a ↔
    (∀ datum, sources.find? field name = some datum → reading datum = .ok a) ∧
      (sources.find? field name = none → a = default) := by
  rw [read]
  cases sources.find? field name with
  | none => simp [eq_comm]
  | some datum => simp [Datum.readAs, mapError_eq_ok_iff]

/-- It is at fault only for what its first source holds, and then under its own name. -/
theorem read_eq_error_iff : sources.read field name default reading = .error fault ↔
    ∃ datum cause, sources.find? field name = some datum ∧ reading datum = .error cause ∧
      fault = ⟨field, cause, datum.text?⟩ := by
  rw [read]
  cases sources.find? field name with
  | none => simp
  | some datum =>
    show (reading datum).mapError _ = _ ↔ _
    rw [mapError_eq_error_iff]
    simp [eq_comm]

theorem field_of_read (h : sources.read field name default reading = .error fault) :
    fault.field = field := by
  obtain ⟨datum, cause, -, -, rfl⟩ := read_eq_error_iff.mp h
  rfl

/-- There is a fault exactly if the first source holds what cannot be read. -/
theorem exists_read_eq_error_iff :
    (∃ fault, sources.read field name default reading = .error fault) ↔
      ∃ datum, sources.find? field name = some datum ∧ ∀ a, reading datum ≠ .ok a := by
  simp only [read_eq_error_iff]
  constructor
  · rintro ⟨fault, datum, cause, hfound, hcause, -⟩
    refine ⟨datum, hfound, fun a ha => ?_⟩
    cases hcause.symm.trans ha
  · rintro ⟨datum, hfound, hnone⟩
    cases hread : reading datum with
    | ok a => exact absurd hread (hnone a)
    | error cause => exact ⟨_, datum, cause, hfound, hread, rfl⟩

theorem argument?_cons (name : String) (datum : Datum) (arguments : Record)
    (environment : Bindings) (file : SettingsFile) :
    argument? ⟨(name, datum) :: arguments, environment, file⟩ field =
      if Bindings.foldCase name = Bindings.foldCase field then some datum
      else argument? ⟨arguments, environment, file⟩ field := by
  by_cases h : Bindings.foldCase name = Bindings.foldCase field
  · rw [argument?, List.find?_cons_of_pos (by simpa using h), if_pos h]
    rfl
  · rw [argument?, List.find?_cons_of_neg (by simpa using h), if_neg h]
    rfl

/-- An argument goes before all other sources. -/
theorem read_of_argument {datum : Datum} (h : sources.argument? field = some datum)
    (hread : reading datum = .ok a) : sources.read field name default reading = .ok a := by
  have hfound : sources.find? field name = some datum := by
    rw [find?, h]
    rfl
  refine read_eq_ok_iff.mpr ⟨?_, ?_⟩
  · intro other hother
    cases hfound.symm.trans hother
    exact hread
  · intro hnone
    cases hfound.symm.trans hnone

end Sources

/-! ## Values of settings -/

/-- A number of places is a whole number within the bounds. -/
theorem Reading.scale_eq_ok_iff {datum : Datum} {n : Fin (greatestScale + 1)} :
    Reading.scale datum = .ok n ↔ Reading.integer datum = .ok (n : Int) := by
  rw [Reading.scale, bind_eq_ok_iff]
  constructor
  · rintro ⟨m, hm, hscale⟩
    split at hscale
    · cases hscale
    split at hscale
    · cases hscale
      rw [hm, Int.toNat_of_nonneg (by omega)]
    · cases hscale
  · intro hn
    have hbound : (n : Int).toNat < greatestScale + 1 := by
      rw [Int.toNat_natCast]
      exact n.isLt
    refine ⟨n, hn, ?_⟩
    rw [if_neg (by omega), dif_pos hbound]
    rfl

namespace RoundingMode

variable {mode : RoundingMode} {s : String}

theorem ofName?_eq_some_iff : ofName? s = some mode ↔ s = mode.name := by
  constructor
  · intro h
    rw [ofName?] at h
    have hname := List.find?_some h
    exact (beq_iff_eq.mp hname).symm
  · rintro rfl
    exact ofName?_name mode

/-- The names of modes are upper-case, without outer blanks. -/
theorem normalizeName_name (mode : RoundingMode) : normalizeName mode.name = mode.name := by
  cases mode <;> decide +kernel

end RoundingMode

/-- A value names a mode if it is a text that spells its name, in any case and between blanks. -/
def Datum.Names (datum : Datum) (mode : RoundingMode) : Prop :=
  ∃ s, datum = .text s ∧ normalizeName s = mode.name

theorem RoundingMode.names_name (mode : RoundingMode) : (Datum.text mode.name).Names mode :=
  ⟨mode.name, rfl, mode.normalizeName_name⟩

/-- Nothing but a text that names a mode is read as the mode. -/
theorem Reading.roundingMode_eq_ok_iff {datum : Datum} {mode : RoundingMode} :
    roundingMode datum = .ok mode ↔ datum.Names mode := by
  rw [roundingMode, bind_eq_ok_iff]
  constructor
  · rintro ⟨s, htext, hmode⟩
    cases datum with
    | text t =>
      cases htext
      refine ⟨s, rfl, RoundingMode.ofName?_eq_some_iff.mp ?_⟩
      cases hfound : RoundingMode.ofName? (normalizeName s) with
      | none =>
        rw [hfound] at hmode
        cases hmode
      | some found =>
        rw [hfound] at hmode
        cases hmode
        rfl
    | _ => cases htext
  · rintro ⟨s, rfl, hname⟩
    refine ⟨s, rfl, ?_⟩
    rw [RoundingMode.ofName?_eq_some_iff.mpr hname]

/-! ## Loading the settings -/

namespace EvaluatorSettings

variable {sources : Sources} {settings : EvaluatorSettings} {faults : List FieldFault}

/-- The number of places, read from its first source. -/
def readScale (sources : Sources) : Except FieldFault (Fin (greatestScale + 1)) :=
  sources.read "division_scale" "EVALUATOR_DIVISION_SCALE" default.divisionScale .scale

/-- The rounding mode, read from its first source. -/
def readRounding (sources : Sources) : Except FieldFault RoundingMode :=
  sources.read "rounding" "EVALUATOR_ROUNDING" default.rounding .roundingMode

/-- The value that sets the number of places, if any source has one. -/
def scale? (sources : Sources) : Option Datum :=
  sources.find? "division_scale" "EVALUATOR_DIVISION_SCALE"

/-- The value that sets the rounding, if any source has one. -/
def rounding? (sources : Sources) : Option Datum := sources.find? "rounding" "EVALUATOR_ROUNDING"

/-- Where nobody else says anything, the rounding is what the file binds to its name. -/
theorem rounding?_of_file {file : SettingsFile} {s : String}
    (h : (file.bindings []).find? "EVALUATOR_ROUNDING" = some s) :
    rounding? ⟨[], [], file⟩ = some (.text s) :=
  congrArg (Option.map Datum.text) h

theorem load_eq_ok_iff : load sources = .ok settings ↔
    readScale sources = .ok settings.divisionScale ∧
      readRounding sources = .ok settings.rounding := by
  obtain ⟨scale, rounding⟩ := settings
  rw [load, ← readScale, ← readRounding]
  cases readScale sources <;> cases readRounding sources <;> simp

/-- Loading fails with the faults of the settings that cannot be read. -/
theorem load_eq_error_iff : load sources = .error faults ↔
    faults ≠ [] ∧ faultsOf (readScale sources) ++ faultsOf (readRounding sources) = faults := by
  rw [load, ← readScale, ← readRounding]
  cases readScale sources <;> cases readRounding sources <;> simp [faultsOf]
  all_goals
    rintro rfl
    exact List.cons_ne_nil _ _

/-- Each setting is found at fault exactly if it cannot be read. -/
theorem exists_fault_iff (h : load sources = .error faults) :
    ((∃ fault ∈ faults, fault.field = "division_scale") ↔
        ∃ fault, readScale sources = .error fault) ∧
      ((∃ fault ∈ faults, fault.field = "rounding") ↔
        ∃ fault, readRounding sources = .error fault) := by
  obtain ⟨-, rfl⟩ := load_eq_error_iff.mp h
  have hscale : ∀ {fault}, readScale sources = .error fault → fault.field = "division_scale" :=
    Sources.field_of_read
  have hrounding : ∀ {fault}, readRounding sources = .error fault → fault.field = "rounding" :=
    Sources.field_of_read
  cases hfirst : readScale sources with
  | ok n =>
    cases hsecond : readRounding sources with
    | ok mode => simp [faultsOf]
    | error fault => simp [faultsOf, hrounding hsecond]
  | error fault =>
    cases hsecond : readRounding sources with
    | ok mode => simp [faultsOf, hscale hfirst]
    | error other => simp [faultsOf, hscale hfirst, hrounding hsecond]

/-- The number of places is found at fault exactly if its first source holds no whole number from 0
to 28. -/
theorem exists_fault_scale_iff (h : load sources = .error faults) :
    (∃ fault ∈ faults, fault.field = "division_scale") ↔
      ∃ datum, scale? sources = some datum ∧
        ∀ n : Nat, n ≤ 28 → Reading.integer datum ≠ .ok (n : Int) := by
  have hread : (∃ fault, readScale sources = .error fault) ↔ ∃ datum,
      scale? sources = some datum ∧ ∀ n, Reading.scale datum ≠ .ok n :=
    Sources.exists_read_eq_error_iff
  rw [(exists_fault_iff h).1, hread]
  simp only [Ne, Reading.scale_eq_ok_iff]
  refine exists_congr fun datum => and_congr_right fun _ => ?_
  constructor
  · intro hnone n hn
    exact hnone ⟨n, Nat.lt_succ_of_le hn⟩
  · intro hnone n
    exact hnone n (Nat.le_of_lt_succ n.isLt)

/-- The rounding is found at fault exactly if its first source holds anything but the name of a
mode. -/
theorem exists_fault_rounding_iff (h : load sources = .error faults) :
    (∃ fault ∈ faults, fault.field = "rounding") ↔
      ∃ datum, rounding? sources = some datum ∧ ∀ mode, ¬datum.Names mode := by
  have hread : (∃ fault, readRounding sources = .error fault) ↔ ∃ datum,
      rounding? sources = some datum ∧ ∀ mode, Reading.roundingMode datum ≠ .ok mode :=
    Sources.exists_read_eq_error_iff
  rw [(exists_fault_iff h).2, hread]
  simp only [Ne, Reading.roundingMode_eq_ok_iff]

/-- The settings as arguments. -/
def arguments (settings : EvaluatorSettings) : Record :=
  [("division_scale", .int settings.divisionScale), ("rounding", .text settings.rounding.name)]

/-- Settings that are given as arguments are loaded as they are. -/
theorem load_arguments (settings : EvaluatorSettings) (environment : Bindings)
    (file : SettingsFile) : load ⟨settings.arguments, environment, file⟩ = .ok settings := by
  have hother : ¬Bindings.foldCase "division_scale" = Bindings.foldCase "rounding" := by decide
  have hscale : Reading.scale (.int settings.divisionScale) = .ok settings.divisionScale :=
    Reading.scale_eq_ok_iff.mpr rfl
  have hmode : Reading.roundingMode (.text settings.rounding.name) = .ok settings.rounding :=
    Reading.roundingMode_eq_ok_iff.mpr settings.rounding.names_name
  refine load_eq_ok_iff.mpr ⟨Sources.read_of_argument ?_ hscale, Sources.read_of_argument ?_ hmode⟩
  · rw [arguments, Sources.argument?_cons, if_pos rfl]
  · rw [arguments, Sources.argument?_cons, if_neg hother, Sources.argument?_cons, if_pos rfl]

/-- Settings with which expressions can be evaluated, and that do not depend on where they came
from. -/
structure IsUsable (settings : EvaluatorSettings) : Prop where
  scale_le : settings.rule.scale ≤ 28
  rounding_mem : settings.rule.rounding ∈ ["ROUND_CEILING", "ROUND_DOWN", "ROUND_FLOOR",
    "ROUND_HALF_DOWN", "ROUND_HALF_EVEN", "ROUND_HALF_UP", "ROUND_UP", "ROUND_05UP"]
  reload : ∀ environment file, load ⟨settings.arguments, environment, file⟩ = .ok settings
  defined : ∀ subject text logger session,
    (Call.runIn (Session.enter subject text (some settings) logger) session).1 ≠
      .error (.broken (.arithmetic .invalidRounding))

/-- All settings are usable, so those that were loaded are. -/
theorem isUsable (settings : EvaluatorSettings) : settings.IsUsable := by
  refine ⟨Nat.le_of_lt_succ settings.divisionScale.isLt, ?_, settings.load_arguments, ?_⟩
  · change settings.rounding.name ∈ _
    cases settings.rounding <;> decide
  · intro subject text logger session h
    cases Session.eq_digitLimit_of_enter h

/-- Settings are loaded as their first sources tell, or as by default. -/
structure IsLoadedFrom (settings : EvaluatorSettings) (sources : Sources) : Prop where
  scale : ∀ datum, scale? sources = some datum →
    Reading.integer datum = .ok (settings.rule.scale : Int)
  scale_default : scale? sources = none → settings.rule.scale = 10
  rounding : ∀ datum, rounding? sources = some datum → datum.Names settings.rounding
  rounding_default : rounding? sources = none → settings.rounding = .halfUp

theorem isLoadedFrom (h : load sources = .ok settings) : settings.IsLoadedFrom sources := by
  obtain ⟨hscale, hrounding⟩ := load_eq_ok_iff.mp h
  obtain ⟨htold, hdefault⟩ := Sources.read_eq_ok_iff.mp hscale
  obtain ⟨htold', hdefault'⟩ := Sources.read_eq_ok_iff.mp hrounding
  constructor
  · intro datum hfound
    exact Reading.scale_eq_ok_iff.mp (htold datum hfound)
  · intro hnone
    exact congrArg Fin.val (hdefault hnone)
  · intro datum hfound
    exact Reading.roundingMode_eq_ok_iff.mp (htold' datum hfound)
  · exact hdefault'

/-- Settings either have faults or can be loaded. The number of places is at fault exactly if its
first source holds no whole number from 0 to 28, and the rounding exactly if its first source holds
anything but the name of a mode, in any case and between blanks. Settings that were loaded are what
these sources tell, or else the defaults. They have at most 28 places and the exact name of a mode,
can be loaded again from themselves under any other sources, and never keep a division from its
mode. -/
theorem load_sound (sources : Sources) :
    (∀ faults, load sources = .error faults → faults ≠ [] ∧
      ((∃ fault ∈ faults, fault.field = "division_scale") ↔ ∃ datum,
        scale? sources = some datum ∧
          ∀ n : Nat, n ≤ 28 → Reading.integer datum ≠ .ok (n : Int)) ∧
      ((∃ fault ∈ faults, fault.field = "rounding") ↔
        ∃ datum, rounding? sources = some datum ∧ ∀ mode, ¬datum.Names mode)) ∧
    ∀ settings, load sources = .ok settings →
      settings.IsLoadedFrom sources ∧ settings.IsUsable := by
  constructor
  · intro faults h
    exact ⟨(load_eq_error_iff.mp h).1, exists_fault_scale_iff h, exists_fault_rounding_iff h⟩
  · intro settings h
    exact ⟨isLoadedFrom h, settings.isUsable⟩

/-- A ligature is spelled out in upper case, so this environment rounds down. A number in the
arguments goes before it and names no mode. Where neither says anything the file decides: one names
a mode, the other does not. -/
theorem load_sound_ligature :
    let environment : Bindings :=
      [("evaluator_rounding", some " round_\uFB02oor "), ("EVALUATOR_DIVISION_SCALE", some " 007 ")]
    let file := SettingsFile.ofText "EVALUATOR_ROUNDING=sideways"
    let settings : EvaluatorSettings := ⟨7, .floor⟩
    let faults : List FieldFault := [⟨"rounding", .notText, none⟩]
    let named := SettingsFile.ofText "# half to even\nexport Evaluator_Rounding = 'round_Half_even'"
    let unknown : List FieldFault := [⟨"rounding", .refused ("Unknown rounding mode 'sideways'. " ++
      "Expected one of: ROUND_05UP, ROUND_CEILING, ROUND_DOWN, ROUND_FLOOR, ROUND_HALF_DOWN, " ++
      "ROUND_HALF_EVEN, ROUND_HALF_UP, ROUND_UP"), some "sideways"⟩]
    load ⟨[], environment, file⟩ = .ok settings ∧
      (Datum.text " round_\uFB02oor ").Names .floor ∧
      load ⟨settings.arguments, [("EVALUATOR_DIVISION_SCALE", some "many")], file⟩ = .ok settings ∧
      load ⟨[("rounding", .int 5)], environment, file⟩ = .error faults ∧
      (∃ fault ∈ faults, fault.field = "rounding") ∧
      load ⟨[], [], named⟩ = .ok ⟨10, .halfEven⟩ ∧
      (Datum.text "round_Half_even").Names .halfEven ∧
      load ⟨[], [], file⟩ = .error unknown ∧ ∀ mode, ¬(Datum.text "sideways").Names mode := by
  intro environment file settings faults named unknown
  have hload : load ⟨[], environment, file⟩ = .ok settings := by decide +kernel
  have hfaults : load ⟨[("rounding", .int 5)], environment, file⟩ = .error faults := by
    decide +kernel
  have hnamed : load ⟨[], [], named⟩ = .ok ⟨10, .halfEven⟩ := by decide +kernel
  have hunknown : load ⟨[], [], file⟩ = .error unknown := by decide +kernel
  obtain ⟨htold, husable⟩ := (load_sound _).2 _ hload
  have hnotText : ∃ fault ∈ faults, fault.field = "rounding" := by
    refine ((load_sound _).1 _ hfaults).2.2.mpr ⟨.int 5, rfl, ?_⟩
    rintro mode ⟨s, htext, -⟩
    cases htext
  have hnames : (Datum.text "round_Half_even").Names .halfEven := by
    refine ((load_sound _).2 _ hnamed).1.rounding _ (rounding?_of_file ?_)
    decide +kernel
  have hunnamed : ∀ mode, ¬(Datum.text "sideways").Names mode := by
    obtain ⟨datum, hdatum, hmode⟩ :=
      ((load_sound _).1 _ hunknown).2.2.mp ⟨_, List.mem_singleton_self _, rfl⟩
    have hfile : (file.bindings []).find? "EVALUATOR_ROUNDING" = some "sideways" := by
      decide +kernel
    rw [rounding?_of_file hfile] at hdatum
    cases hdatum
    exact hmode
  exact ⟨hload, htold.rounding _ rfl, husable.reload _ _, hfaults, hnotText, hnamed, hnames,
    hunknown, hunnamed⟩

end EvaluatorSettings

end LedgerAmount
