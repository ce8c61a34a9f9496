import Chip8.Proofs.BuiltSystem

/-!
Failures to build a system, as a call of the program shows them. The program reports each of them and
ends with status 2, except for a seed that was left blank and for a program that cannot be opened by its
kind; a document can give such a program, and the call then ends with an error that nobody handles.
-/

namespace Chip8

/-- Whether a value can be given where a file is opened: a path, or the number of an open file. -/
def Value.opens : Value → Bool
  | text _ | bytes _ | bool _ => true
  | int number => decide (-2147483648 ≤ number) && decide (number ≤ 2147483647)
  | _ => false

/-- Whether a file was asked for by a value that names none. -/
def FileError.ofKind : FileError → Bool
  | notAPath _ => true
  | _ => false

theorem Path.ofText_error {name : Text} {cause : FileError} (failed : Path.ofText name = .error cause) :
    cause.ofKind = false := by
  unfold Path.ofText at failed
  cases encoded : encodePath name with
  | ok bytes =>
      rw [encoded] at failed
      cases failed
  | error problem =>
      rw [encoded] at failed
      cases failed
      rfl

namespace Value

variable {value : Value}

theorem path?_of_opens {cause : FileError} (given : value.truthy = true) (opens : value.opens = true)
    (failed : value.path? = .error cause) : cause.ofKind = false := by
  unfold path? at failed
  rw [given] at failed
  cases value with
  | text name =>
      cases named : Path.ofText name with
      | ok path =>
          simp only [named] at failed
          cases failed
      | error problem =>
          simp only [named] at failed
          cases failed
          exact Path.ofText_error named
  | bytes name => cases failed
  | bool truth =>
      cases failed
      rfl
  | int number =>
      simp only [Value.opens, Bool.and_eq_true, decide_eq_true_eq] at opens
      have inside : ¬ (number < -2147483648 ∨ 2147483647 < number) := by omega
      simp only [Bool.not_true, Bool.false_eq_true, if_false, if_neg inside] at failed
      by_cases negative : number < 0
      · rw [if_pos negative] at failed
        cases failed
        rfl
      · rw [if_neg negative] at failed
        cases failed
        rfl
  | _ => cases opens

theorem path?_of_not_opens (given : value.truthy = true) (closed : value.opens = false) :
    value.path? = .error (.notAPath value.kindName) := by
  unfold path?
  rw [given]
  cases value with
  | null => cases given
  | text | bytes | bool => cases closed
  | int number =>
      have outside : number < -2147483648 ∨ 2147483647 < number := by
        simp only [Value.opens, Bool.and_eq_false_iff, decide_eq_false_iff_not] at closed
        omega
      simp only [Bool.not_true, Bool.false_eq_true, if_false, if_pos outside]
  | _ => rfl

end Value

namespace Folder

theorem enter_error {folder : Folder} {path : Path} {place : Place} {part : List UInt8} {cause : FileError}
    (failed : folder.enter path place part = .error cause) : cause.ofKind = false := by
  cases place with
  | file content =>
      cases failed
      rfl
  | outside =>
      simp only [enter] at failed
      split at failed
      · cases failed
      · cases failed
        rfl
  | folder inner =>
      simp only [enter] at failed
      split at failed
      · cases failed
      · split at failed
        · split at failed <;> cases failed
        · split at failed
          · cases failed
            rfl
          · split at failed
            · cases failed
            · split at failed
              · cases failed
              · cases failed
                rfl

theorem foldlM_enter_error {folder : Folder} {path : Path} {place : Place} {parts : List (List UInt8)}
    {cause : FileError} (failed : parts.foldlM (folder.enter path) place = .error cause) :
    cause.ofKind = false := by
  induction parts generalizing place with
  | nil => cases failed
  | cons part rest ih =>
      rw [List.foldlM_cons] at failed
      cases entered : folder.enter path place part with
      | error problem =>
          rw [entered] at failed
          cases failed
          exact enter_error entered
      | ok next =>
          rw [entered] at failed
          exact ih failed

theorem read_error {folder : Folder} {path : Path} {cause : FileError}
    (failed : folder.read path = .error cause) : cause.ofKind = false := by
  unfold read at failed
  dsimp only at failed
  generalize (if path.bytes.head? = some slash then Place.outside else .folder []) = start at failed
  split at failed
  · cases failed
    rfl
  · split at failed
    · cases failed
    · split at failed
      · cases failed
        rfl
      · split at failed
        · cases failed
          rfl
        · cases reached : (pathParts path.bytes).foldlM (folder.enter path) start with
          | error problem =>
              rw [reached] at failed
              cases failed
              exact foldlM_enter_error reached
          | ok place =>
              rw [reached] at failed
              cases place with
              | file content => cases failed
              | folder inner | outside =>
                  cases failed
                  rfl

end Folder

/-- The errors with which an assembly may end that are reported. -/
inductive Settings.Fails (settings : Settings) : AssemblyError → Prop
  | unread {cause : FileError} : cause.ofKind = false → Fails settings (.file cause)
  | tooLarge {length : Nat} : 4096 - settings.loadAddress < length →
      Fails settings (.problem (.misuse
        (.programTooLarge length settings.loadAddress (4096 - settings.loadAddress))))

theorem Settings.Fails.reported {settings : Settings} {cause : AssemblyError} (fails : settings.Fails cause) :
    (LaunchError.assembly cause).reported = true := by
  cases fails with
  | tooLarge => rfl
  | @unread cause proper =>
      cases cause with
      | notAPath kind => cases proper
      | _ => rfl

namespace Settings

variable {settings : Settings}

variable (sound : settings.Sound) (folder : Folder) (seed : Int)
  (given : settings.program.truthy = true)
include sound given

theorem assemble_fails (opens : settings.program.opens = true) {cause : AssemblyError}
    (failed : (Id.run (settings.assemble (fun path => folder.read path) seed false)).machine =
      .error cause) :
    settings.Fails cause := by
  have outcome := assemble_outcome sound (fun path => folder.read path) seed
  rw [failed] at outcome
  cases outcome with
  | unnamed unknown => exact .unread (Value.path?_of_opens given opens unknown)
  | unread named missing => exact .unread (Folder.read_error missing)
  | tooLarge named found large => exact .tooLarge large

theorem assemble_escapes (closed : settings.program.opens = false) :
    (Id.run (settings.assemble (fun path => folder.read path) seed false)).machine =
      .error (.file (.notAPath settings.program.kindName)) := by
  have unnamed := Value.path?_of_not_opens given closed
  have outcome := assemble_outcome sound (fun path => folder.read path) seed
  generalize (Id.run (settings.assemble (fun path => folder.read path) seed false)).machine = result
    at outcome ⊢
  cases outcome with
  | unnamed other =>
      cases unnamed.symm.trans other
      rfl
  | unread other | tooLarge other | bare other | loaded other => cases unnamed.symm.trans other

end Settings

namespace Conclusion

/-- An error was reported: it was logged at last, and the status is that of a failed start. -/
structure Reports (conclusion : Conclusion) (cause : LaunchError) : Prop where
  status : conclusion.exitStatus = 2
  logged : conclusion.log.getLast? = some cause.entry
  handled : conclusion.crash = none

structure Crashes (conclusion : Conclusion) (cause : LaunchError) : Prop where
  status : conclusion.exitStatus = 1
  escaped : conclusion.crash = some cause

end Conclusion

namespace Arguments

variable {arguments : Arguments} {settings : Settings} {around : Surroundings Id}

theorem prepare_seedBlank (found : Id.run (arguments.settings around) = .ok settings)
    (timed : arguments.isBlank .hz = false) (rate : 0 ≤ settings.run.cyclesPerSecond)
    (given : settings.program.truthy = true) (unseeded : arguments.isBlank .seed = true) (seed : Int) :
    Id.run (arguments.prepare around seed) = .failed .seedBlank [] := by
  unfold prepare
  simp only [Id.run_bind, found]
  simp [timed, Int.not_lt.mpr rate, given, unseeded]

theorem prepare_assembles (found : Id.run (arguments.settings around) = .ok settings)
    (timed : arguments.isBlank .hz = false) (rate : 0 ≤ settings.run.cyclesPerSecond)
    (given : settings.program.truthy = true) (seeded : arguments.isBlank .seed = false) (seed : Int) :
    Id.run (arguments.prepare around seed) = arguments.release settings
      (Id.run (settings.assemble around.read seed (around.strict && arguments.debug))) := by
  unfold prepare
  simp only [Id.run_bind, found]
  simp [timed, Int.not_lt.mpr rate, given, seeded]

end Arguments

theorem Surroundings.call_failed {around : Surroundings Id} {texts : List Text} {seed : Int}
    {breakAfter : Option Nat} {fuel : Nat} {arguments : Arguments} {cause : LaunchError} {log : List LogEntry}
    (asked : Request.ofTexts texts = .ok (.start arguments))
    (failed : Id.run (arguments.prepare around seed) = .failed cause log) :
    if cause.reported then (around.call texts seed breakAfter fuel).Reports cause
    else (around.call texts seed breakAfter fuel).Crashes cause := by
  unfold call
  rw [asked]
  dsimp only
  rw [failed, Preparation.conclude]
  split
  · refine ⟨rfl, ?_, rfl⟩
    have shown : cause.entry.shown arguments.debug = true := Bool.or_true _
    simp [List.filter_append, shown]
  · exact ⟨rfl, rfl⟩

/-- A failure to build the system of a session is reported, unless the seed was left blank or the program
is a value that cannot be opened. Such a program is one of the document, and it does end the call. How
documents are read does not matter. -/
theorem build_failures_reported (folder : Folder) (reader : DocumentReader) (texts : List Text) (seed : Int)
    (breakAfter : Option Nat) (fuel : Nat) {arguments : Arguments} {settings : Settings}
    (asked : Request.ofTexts texts = .ok (.start arguments))
    (found : Id.run (arguments.settings (folder.surroundings reader)) = .ok settings)
    (timed : arguments.isBlank .hz = false) (rate : 0 ≤ settings.run.cyclesPerSecond)
    (given : settings.program.truthy = true) :
    let conclusion := (folder.surroundings reader).call texts seed breakAfter fuel
    let assembly := Id.run (settings.assemble (fun path => folder.read path) seed false)
    (arguments.isBlank .seed = true → conclusion.Crashes .seedBlank) ∧
    (arguments.isBlank .seed = false → settings.program.opens = true →
      ∀ cause, assembly.machine = .error cause →
        settings.Fails cause ∧ conclusion.Reports (.assembly cause)) ∧
    (arguments.isBlank .seed = false → settings.program.opens = false →
      conclusion.Crashes (.assembly (.file (.notAPath settings.program.kindName)))) ∧
    ∀ path, arguments.program = some path → path ≠ [] → settings.program.opens = true := by
  intro conclusion assembly
  obtain ⟨base, sound, applied⟩ : ∃ base : Settings, base.Sound ∧ settings = arguments.apply base := by
    have obtained := arguments.settings_obtained (folder.surroundings reader)
    rw [found] at obtained
    cases obtained with
    | settings holds => exact holds
  have sound : settings.Sound := applied ▸ sound.apply arguments (applied ▸ rate)
  have ends {cause : AssemblyError} (seeded : arguments.isBlank .seed = false)
      (failed : assembly.machine = .error cause) :
      Id.run (arguments.prepare (folder.surroundings reader) seed) =
        .failed (.assembly cause) assembly.log := by
    have assembles := Arguments.prepare_assembles found timed rate given seeded seed
    change _ = arguments.release settings assembly at assembles
    rw [assembles, Arguments.release, failed]
  refine ⟨?_, ?_, ?_, ?_⟩
  · intro unseeded
    have failed := Arguments.prepare_seedBlank found timed rate given unseeded seed
    exact Surroundings.call_failed asked failed
  · intro seeded opens cause failed
    have fails := Settings.assemble_fails sound folder seed given opens failed
    have result := @Surroundings.call_failed _ _ _ breakAfter fuel _ _ _ asked (ends seeded failed)
    rw [if_pos fails.reported] at result
    exact ⟨fails, result⟩
  · intro seeded closed
    have failed := Settings.assemble_escapes sound folder seed given closed
    exact Surroundings.call_failed asked (ends seeded failed)
  · intro path program nonempty
    rw [applied, Arguments.apply, program]
    cases path with
    | nil => exact absurd rfl nonempty
    | cons letter rest => rfl

/-- A folder without a program, whose document has a list in its place. -/
def shelf : Folder where
  files := [("c.yaml".toUTF8.toList, "program: [1]\n".toUTF8.toList)]

theorem build_failures_reported_shelf :
    (∃ cause, (shelf.surroundings.call ["p.ch8"] 0 none 0).Reports (.assembly cause)) ∧
    ∃ kind, (shelf.surroundings.call ["--config", "c.yaml"] 0 none 0).Crashes
      (.assembly (.file (.notAPath kind))) := by
  constructor
  · let arguments : Arguments := { program := some "p.ch8" }
    have asked : Request.ofTexts ["p.ch8"] = .ok (.start arguments) := rfl
    have found : Id.run (arguments.settings shelf.surroundings) = .ok (arguments.apply {}) := rfl
    have lacking : (Id.run ((arguments.apply {}).assemble (fun path => shelf.read path) 0
        false)).machine.isOk = false := by decide +kernel
    obtain ⟨_, reported, _⟩ := build_failures_reported shelf readDocument ["p.ch8"] 0 none 0 asked found
      (by decide) (by decide) (by decide)
    cases ended : (Id.run ((arguments.apply {}).assemble (fun path => shelf.read path) 0 false)).machine with
    | ok machine =>
        rw [ended] at lacking
        cases lacking
    | error cause => exact ⟨cause, (reported (by decide) (by decide) cause ended).2⟩
  · let arguments : Arguments := { configFile := some "c.yaml" }
    have asked : Request.ofTexts ["--config", "c.yaml"] = .ok (.start arguments) := rfl
    have facts : (Id.run (arguments.settings shelf.surroundings)).toOption.any (fun settings =>
        decide (0 ≤ settings.run.cyclesPerSecond) && settings.program.truthy && !settings.program.opens) =
          true := by
      decide +kernel
    cases found : Id.run (arguments.settings shelf.surroundings) with
    | error cause =>
        rw [found] at facts
        cases facts
    | ok settings =>
        rw [found] at facts
        simp only [Except.toOption, Option.any_some, Bool.and_eq_true, decide_eq_true_eq,
          Bool.not_eq_true'] at facts
        obtain ⟨⟨rate, given⟩, closed⟩ := facts
        obtain ⟨_, _, crashed, _⟩ := build_failures_reported shelf readDocument ["--config", "c.yaml"] 0
          none 0 asked found (by decide) rate given
        exact ⟨_, crashed (by decide) closed⟩

/-- A document with a list for a program is accepted, but the error that it leads to is not reported. -/
theorem build_failure_escapes :
    (Settings.ofText "program: [1]\n").isOk = true ∧
      shelf.surroundings.call ["--config", "c.yaml"] 0 none 0 =
        { exitStatus := 1, crash := some (.assembly (.file (.notAPath "list"))) } := by
  decide +kernel

end Chip8
