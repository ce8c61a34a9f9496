import Chip8.CommandLine.Launch
import Chip8.Proofs.ImageLoad
import Chip8.Proofs.Reachability

/-!
Which settings are accepted. Reading them from a value or from a document ends in sound settings or in an
error that says what is wrong with the value, and never in an error that nobody foresees. Arguments keep
settings sound as soon as they pass the checks that follow, so a machine can be built from what is left.
-/

namespace Chip8

namespace Settings

/-- What comes of a step of reading: a result with a property, or a foreseen error. -/
inductive Judged {α : Type} (good : α → Prop) : Except SettingsError α → Prop
  | ok {value : α} (holds : good value) : Judged good (.ok value)
  | error {cause : SettingsError} (foreseen : cause.foreseen = true) : Judged good (.error cause)

variable {α β : Type}

theorem Judged.bind {good : α → Prop} {better : β → Prop} {step : Except SettingsError α}
    {next : α → Except SettingsError β} (judged : Judged good step)
    (following : ∀ value, good value → Judged better (next value)) :
    Judged better (step >>= next) := by
  cases judged with
  | ok holds => exact following _ holds
  | error foreseen => exact .error foreseen

theorem Judged.map {good : α → Prop} {step : Except SettingsError α} (judged : Judged good step)
    (change : α → β) : Judged (fun _ => True) (step.map change) := by
  cases judged with
  | ok holds => exact .ok trivial
  | error foreseen => exact .error foreseen

theorem Judged.of_ok {good : α → Prop} {value : α} (judged : Judged good (.ok value)) : good value := by
  cases judged with
  | ok holds => exact holds

/-- Nothing is known of the result, only that an error is a foreseen one. -/
abbrev Foreseen (step : Except SettingsError α) : Prop := Judged (fun _ => True) step

theorem show?_foreseen (value : Value) : Foreseen (show? value) := by
  rw [show?]
  cases value.showable with
  | true => exact .ok trivial
  | false => exact .error rfl

theorem refuse_judged {good : α → Prop} (number : Int) {cause : SettingsError}
    (foreseen : cause.foreseen = true) :
    Judged good (refuse number cause : Except SettingsError α) := by
  rw [refuse]
  cases canShow number with
  | true => exact .error foreseen
  | false => exact .error rfl

theorem wholeNumber_foreseen (value : Value) : Foreseen (wholeNumber value) := by
  have shown := show?_foreseen value
  cases value with
  | int number => exact .ok trivial
  | text content =>
      simp only [wholeNumber]
      cases readInteger (if hasHexMark content then 16 else 10) content with
      | ok number => exact .ok trivial
      | error cause => exact .error rfl
  | _ => exact shown.bind fun _ _ => .error rfl

theorem wholeNumber?_of_ne_null {value : Value} (present : value ≠ .null) :
    wholeNumber? value = (wholeNumber value).map some := by
  cases value with
  | null => exact absurd rfl present
  | _ => rfl

theorem wholeNumber?_foreseen (value : Value) : Foreseen (wholeNumber? value) := by
  by_cases absent : value = .null
  · rw [absent]
    exact .ok trivial
  · rw [wholeNumber?_of_ne_null absent]
    exact (wholeNumber_foreseen value).map some

theorem choice_foreseen (name : String) (choices : List String) (ofName? : String → Option α)
    (value : Value) : Foreseen (choice name choices ofName? value) := by
  apply (show?_foreseen value).bind
  intro shown _
  split
  · exact .ok trivial
  · exact .error rfl

theorem entriesOf_foreseen (name : String) (part : Section) : Foreseen (entriesOf name part) := by
  cases part with
  | absent | mapping => exact .ok trivial
  | other => exact .error rfl

theorem readRun_foreseen (entries : Entries) : Foreseen (readRun entries) := by
  apply (wholeNumber_foreseen _).bind
  intro cyclesPerSecond _
  apply (wholeNumber_foreseen _).bind
  intro timerHz _
  apply (choice_foreseen _ _ _ _).bind
  intro faultPolicy _
  apply (wholeNumber?_foreseen _).bind
  intro maxCycles _
  apply (wholeNumber_foreseen _).bind
  intro maxConsecutiveFaults _
  exact .ok trivial

theorem readDisplay_foreseen (entries : Entries) : Foreseen (readDisplay entries) := by
  apply (show?_foreseen _).bind
  intro lit _
  apply (show?_foreseen _).bind
  intro dark _
  exact .ok trivial

theorem check_judged (settings : Settings) : Judged Sound (check settings) := by
  unfold check
  dsimp only
  split
  · exact .error rfl
  · split
    · exact refuse_judged _ rfl
    · split
      · exact refuse_judged _ rfl
      · split
        · exact refuse_judged _ rfl
        · split
          · exact .error rfl
          · apply Judged.ok
            constructor <;> omega

theorem ofEntries_judged (entries : Entries) (part : String → Section) :
    Judged Sound (ofEntries entries part) := by
  apply (entriesOf_foreseen _ _).bind
  intro runEntries _
  apply (readRun_foreseen _).bind
  intro run _
  apply (entriesOf_foreseen _ _).bind
  intro displayEntries _
  apply (readDisplay_foreseen _).bind
  intro display _
  apply (wholeNumber_foreseen _).bind
  intro loadAddress _
  apply (wholeNumber_foreseen _).bind
  intro stackLimit _
  apply (choice_foreseen _ _ _ _).bind
  intro drawPolicy _
  apply (wholeNumber?_foreseen _).bind
  intro randomSeed _
  exact check_judged _

theorem ofValue_judged (value : Value) : Judged Sound (ofValue value) := by
  cases value with
  | mapping entries =>
      rw [ofValue]
      exact ofEntries_judged _ _
  | _ => exact .error rfl

theorem ofDocument_judged (document : Document) : Judged Sound (ofDocument document) := by
  rw [ofDocument]
  split
  · exact ofValue_judged _
  · exact .error rfl
  · exact ofEntries_judged _ _

theorem ofSource_sound {reader : DocumentReader} {source : Source} {settings : Settings}
    (read : ofSource reader source = .ok settings) : settings.Sound := by
  unfold ofSource at read
  cases parsed : reader source with
  | error cause =>
      rw [parsed] at read
      cases read
  | ok found =>
      rw [parsed] at read
      cases found with
      | none =>
          change ofValue (.mapping []) = .ok settings at read
          exact (read ▸ ofValue_judged (.mapping [])).of_ok
      | some document =>
          change ofDocument document = .ok settings at read
          exact (read ▸ ofDocument_judged document).of_ok

theorem default_sound : Sound {} where
  loadAddress_nonneg := by decide
  loadAddress_lt := by decide
  stackLimit_pos := by decide
  cycleRate_nonneg := by decide
  timerRate_nonneg := by decide
  lit_single := rfl
  dark_single := rfl

/-! ## Arguments -/

/-- Settings that are sound, that the constructor of a machine accepts, and whose timers run at a positive
rate. -/
structure Runnable (settings : Settings) : Prop where
  sound : settings.Sound
  built : ∀ bus generator drawPolicy, ∃ machine,
    Machine.build bus generator drawPolicy settings.stackLimit settings.loadAddress = .ok machine
  timerRate_pos : 0 < settings.run.timerRate

namespace Sound

variable {settings : Settings} (sound : settings.Sound)
include sound

/-- The arguments can spoil nothing but the rate of cycles. -/
theorem apply (arguments : Arguments) (rate : 0 ≤ (arguments.apply settings).run.cyclesPerSecond) :
    (arguments.apply settings).Sound :=
  { sound with cycleRate_nonneg := rate }

theorem runnable : settings.Runnable where
  sound := sound
  built := by
    intro bus generator drawPolicy
    have positive : ¬ settings.stackLimit ≤ 0 := Int.not_le.mpr sound.stackLimit_pos
    have inside : 0 ≤ settings.loadAddress ∧ settings.loadAddress < memorySize :=
      ⟨sound.loadAddress_nonneg, sound.loadAddress_lt⟩
    rw [Machine.build, if_neg positive, if_neg (not_not_intro inside)]
    exact ⟨_, rfl⟩
  timerRate_pos := by
    have nonneg := sound.cycleRate_nonneg
    rw [RunSettings.timerRate]
    split <;> omega

end Sound

end Settings

/-! ## Preparation -/

/-- Whether a problem is that of a machine that cannot be built. -/
def Problem.ofMachine : Problem → Bool
  | misuse .stackLimitNotPositive | misuse (.startOutsideMemory _) => true
  | _ => false

theorem Bus.loadImage_problem {image : List UInt8} {offset : Int} {bus after : Bus} {problem : Problem}
    (failed : loadImage image offset bus = .error problem after) : problem.ofMachine = false := by
  rw [loadImage_apply] at failed
  split at failed
  · cases failed
    rfl
  · split at failed
    · cases failed
      rfl
    · cases loaded : load offset image bus with
      | ok _ filled =>
          rw [loaded] at failed
          cases failed
      | error cause left =>
          rw [loaded] at failed
          cases failed
          obtain ⟨overreach, rfl⟩ := load_problem loaded
          rfl

theorem Assembly.load_problem {log : List LogEntry} {image : List UInt8} {address : Int}
    {machine : Machine} {problem : Problem}
    (failed : (Assembly.load log image address machine).machine = .error (.problem problem)) :
    problem.ofMachine = false := by
  rw [Assembly.load, Machine.onBus_apply] at failed
  cases loaded : Bus.loadImage image address machine.bus with
  | ok value bus =>
      rw [loaded] at failed
      cases failed
  | error cause bus =>
      rw [loaded] at failed
      cases failed
      exact Bus.loadImage_problem loaded

namespace Settings

/-- What comes of looking for settings in a file. -/
inductive Obtained (good : Settings → Prop) : Except LaunchError Settings → Prop
  | settings {settings : Settings} (holds : good settings) : Obtained good (.ok settings)
  | unread {cause : FileError} : Obtained good (.error (.file cause))
  | refused {cause : SettingsError} : Obtained good (.error (.settings cause))

theorem ofSource_obtained (reader : DocumentReader) (source : Source) :
    Obtained Sound ((ofSource reader source).mapError .settings) := by
  cases read : ofSource reader source with
  | error cause => exact .refused
  | ok settings => exact .settings (ofSource_sound read)

theorem ofFile_obtained (read : FileReader Id) (path : Text) (reader : DocumentReader) :
    Obtained Sound (Id.run (ofFile read path reader)) := by
  unfold ofFile
  split
  · exact .unread
  · rw [Id.run_bind]
    split
    · exact ofSource_obtained reader _
    · exact .unread

theorem machine_ok {settings : Settings} (sound : settings.Sound) (seed : Int) :
    ∃ machine, settings.machine seed = .ok machine := by
  obtain ⟨bus, standard, _⟩ := standardBus_isStandard
  obtain ⟨machine, built⟩ := sound.runnable.built bus (.ofSeed (settings.randomSeed.getD seed))
    settings.drawPolicy
  refine ⟨machine.reset, ?_⟩
  rw [Settings.machine, standard]
  change (do return (← Machine.build bus _ _ _ _).reset) = _
  rw [built]
  rfl

theorem assemble_problem {settings : Settings} (sound : settings.Sound) (read : FileReader Id)
    (seed : Int) (strict : Bool) {problem : Problem}
    (failed : (Id.run (settings.assemble read seed strict)).machine = .error (.problem problem)) :
    problem.ofMachine = false := by
  obtain ⟨machine, built⟩ := machine_ok sound seed
  unfold assemble at failed
  rw [built] at failed
  dsimp only at failed
  split at failed
  · cases failed
  · split at failed
    · cases failed
    · cases failed
    · simp only [Id.run_bind] at failed
      split at failed
      · cases failed
      · exact Assembly.load_problem failed

end Settings

/-- What is ready can be run, and nothing failed because a machine could not be built. -/
inductive Preparation.Safe : Preparation → Prop
  | usage {cause : UsageError} : Safe (.usage cause)
  | failed {cause : LaunchError} {log : List LogEntry}
      (foreign : ∀ problem, cause = .assembly (.problem problem) → problem.ofMachine = false) :
      Safe (.failed cause log)
  | ready {system : Prepared} (runnable : system.settings.Runnable) : Safe (.ready system)

namespace Arguments

variable {arguments : Arguments}

theorem settings_obtained (around : Surroundings Id) :
    Settings.Obtained (fun settings => ∃ base : Settings, base.Sound ∧ settings = arguments.apply base)
      (Id.run (arguments.settings around)) := by
  unfold Arguments.settings
  dsimp only
  split
  · exact .settings ⟨{}, Settings.default_sound, rfl⟩
  · exact .settings ⟨{}, Settings.default_sound, rfl⟩
  · rename_i path _ _
    rw [Id.run_bind]
    have obtained := Settings.ofFile_obtained around.read path around.readDocument
    generalize Id.run (Settings.ofFile around.read path around.readDocument) = fromFile at obtained ⊢
    cases obtained with
    | settings sound => exact .settings ⟨_, sound, rfl⟩
    | unread => exact .unread
    | refused => exact .refused

theorem release_safe {settings : Settings} (runnable : settings.Runnable) {assembly : Assembly}
    (foreign : ∀ problem, assembly.machine = .error (.problem problem) → problem.ofMachine = false) :
    (arguments.release settings assembly).Safe := by
  unfold release
  cases built : assembly.machine with
  | error cause =>
      apply Preparation.Safe.failed
      intro problem same
      cases same
      exact foreign problem built
  | ok machine =>
      dsimp only
      split
      · exact .failed nofun
      · split
        · exact .failed nofun
        · exact .ready runnable

theorem prepare_safe (around : Surroundings Id) (seed : Int) :
    (Id.run (arguments.prepare around seed)).Safe := by
  unfold prepare
  simp only [Id.run_bind]
  have obtained := arguments.settings_obtained around
  generalize Id.run (arguments.settings around) = found at obtained ⊢
  cases obtained with
  | unread | refused => exact .failed nofun
  | settings read =>
      obtain ⟨base, sound, rfl⟩ := read
      dsimp only
      split
      · exact .failed nofun
      · split
        · exact .failed nofun
        · rename_i rate
          have applied := sound.apply arguments (Int.not_lt.mp rate)
          split
          · exact .usage
          · split
            · exact .failed nofun
            · rw [Id.run_bind, Id.run_pure]
              apply release_safe applied.runnable
              intro problem failed
              exact Settings.assemble_problem applied _ seed _ failed

end Arguments

namespace Settings

/-- Settings that are accepted can be run. Reading ends in sound settings or in a foreseen error, arguments
keep settings sound that pass the check of the rate, and however a session reads files and documents, a
machine can be built from the settings that it comes to. -/
theorem accepted_settings_run :
    (∀ value, Judged Sound (ofValue value)) ∧
    (∀ document, Judged Sound (ofDocument document)) ∧
    Sound {} ∧
    (∀ (settings : Settings) (arguments : Arguments), settings.Sound →
      0 ≤ (arguments.apply settings).run.cyclesPerSecond → (arguments.apply settings).Runnable) ∧
    ∀ (around : Surroundings Id) (seed : Int) (arguments : Arguments),
      (Id.run (arguments.prepare around seed)).Safe :=
  ⟨ofValue_judged, ofDocument_judged, default_sound,
    fun _ arguments sound rate => (sound.apply arguments rate).runnable,
    fun around seed arguments => arguments.prepare_safe around seed⟩

/-- A value with settings. -/
def sparse : Value :=
  .mapping [(.text "load_address", .text "0x300"), (.text "runner", .mapping [(.text "timer_hz", .int 0)])]

theorem accepted_settings_run_sparse :
    ∃ settings, ofValue sparse = .ok settings ∧ settings.loadAddress = 0x300 ∧
      (Arguments.apply { hz := some 0 } settings).Runnable := by
  have read : (ofValue sparse).toOption.any (·.loadAddress == 0x300) = true := by decide
  obtain ⟨judged, _, _, applied, _⟩ := accepted_settings_run
  have sound := judged sparse
  cases found : ofValue sparse with
  | error cause =>
      rw [found] at read
      cases read
  | ok settings =>
      rw [found] at read sound
      exact ⟨settings, rfl, eq_of_beq read, applied settings _ sound.of_ok (Int.le_refl 0)⟩

end Settings

end Chip8
