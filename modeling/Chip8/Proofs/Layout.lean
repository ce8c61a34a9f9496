import Chip8.Proofs.Writing

/-!
Settings as they are laid out in a mapping. Every field may be written in each of its ways, a field with
its default may be left out, and so may a section, or nothing may stand in its place. Keys that name no
field do not matter. Whatever the layout, it is read back as the settings that were laid out.
-/

namespace Chip8

/-- How the entries of a mapping give a field: whatever stands under its name writes it, and the name may
be missing where the field can be left out. -/
structure Gives (entries : List (Value × Value)) (name : String) (writes : Value → Prop)
    (omissible : Prop) : Prop where
  written : ∀ value, (.text name, value) ∈ entries → writes value
  missing : (∀ value, (Value.text name, value) ∉ entries) → omissible

def WritesOptional : Option Int → Value → Prop
  | none, value => value = .null
  | some number, value => Writes number value

structure RunSettings.LaidOut (run : RunSettings) (entries : List (Value × Value)) : Prop where
  cyclesPerSecond : Gives entries "cycles_per_second" (Writes run.cyclesPerSecond)
    (run.cyclesPerSecond = 500)
  timerHz : Gives entries "timer_hz" (Writes run.timerHz) (run.timerHz = 60)
  faultPolicy : Gives entries "fault_policy" (Spells run.faultPolicy.name) (run.faultPolicy = .continue)
  maxCycles : Gives entries "max_cycles" (WritesOptional run.maxCycles) (run.maxCycles = none)
  maxConsecutiveFaults : Gives entries "max_consecutive_faults" (Writes run.maxConsecutiveFaults)
    (run.maxConsecutiveFaults = 64)

structure DisplaySettings.LaidOut (display : DisplaySettings) (entries : List (Value × Value)) :
    Prop where
  enabled : Gives entries "enabled" (· = .bool display.enabled) (display.enabled = true)
  lit : Gives entries "on_char" (· = .text display.lit) (display.lit = "*")
  dark : Gives entries "off_char" (· = .text display.dark) (display.dark = " ")
  showRegisters : Gives entries "show_registers" (· = .bool display.showRegisters)
    (display.showRegisters = false)

/-- A section is a mapping, or nothing stands in its place if it has its defaults. -/
def WritesSection (laidOut : List (Value × Value) → Prop) (isDefault : Prop) (value : Value) : Prop :=
  (∃ inner, value = .mapping inner ∧ laidOut inner) ∨ (value = .null ∧ isDefault)

structure Settings.LaidOut (settings : Settings) (entries : List (Value × Value)) : Prop where
  program : Gives entries "program" (· = settings.program) (settings.program = .null)
  loadAddress : Gives entries "load_address" (Writes settings.loadAddress) (settings.loadAddress = 0x200)
  stackLimit : Gives entries "stack_limit" (Writes settings.stackLimit) (settings.stackLimit = 16)
  drawPolicy : Gives entries "draw_policy" (Spells settings.drawPolicy.name) (settings.drawPolicy = .wrap)
  randomSeed : Gives entries "random_seed" (WritesOptional settings.randomSeed)
    (settings.randomSeed = none)
  run : Gives entries "runner" (WritesSection settings.run.LaidOut (settings.run = {}))
    (settings.run = {})
  display : Gives entries "display" (WritesSection settings.display.LaidOut (settings.display = {}))
    (settings.display = {})

@[simp] theorem Text.ofString_inj {left right : String} :
    Text.ofString left = Text.ofString right ↔ left = right := by
  constructor
  · intro same
    apply String.toList_inj.mp
    rw [← Text.plain_ofChars left.toList, ← Text.plain_ofChars right.toList]
    exact congrArg Text.plain same
  · rintro rfl
    rfl

theorem Value.sameKey_text {key : Value} {name : Text} :
    key.sameKey (.text name) = true ↔ key = .text name := by
  cases key with
  | text content => simp [sameKey]
  | _ => simp [sameKey, whole?]

namespace Gives

variable {entries : List (Value × Value)} {name : String} {writes : Value → Prop} {omissible : Prop}

theorem lookup (gives : Gives entries name writes omissible) :
    (∃ value, Value.lookup? name entries = some value ∧ writes value) ∨
      (Value.lookup? name entries = none ∧ omissible) := by
  unfold Value.lookup?
  cases found : entries.find? fun entry => entry.1.sameKey (.text name) with
  | none =>
      refine .inr ⟨rfl, gives.missing ?_⟩
      intro value member
      have other := List.find?_eq_none.mp found _ member
      exact other (Value.sameKey_text.mpr rfl)
  | some entry =>
      have member := List.mem_of_find?_eq_some found
      have same := List.find?_some found
      obtain ⟨key, value⟩ := entry
      cases Value.sameKey_text.mp same
      exact .inl ⟨value, rfl, gives.written value member⟩

/-- What the reader takes for a field: what is found under its name, or else the default. -/
theorem valueOf_cases (gives : Gives entries name writes omissible) (default : Value) :
    writes (Settings.valueOf (fun name => Value.lookup? name entries) name default) ∨
      (Settings.valueOf (fun name => Value.lookup? name entries) name default = default ∧
        omissible) := by
  rcases gives.lookup with ⟨value, found, written⟩ | ⟨missing, omitted⟩
  · refine .inl ?_
    rw [Settings.valueOf, found]
    exact written
  · refine .inr ⟨?_, omitted⟩
    rw [Settings.valueOf, missing]
    rfl

theorem value {value : Value} (gives : Gives entries name (· = value) omissible) (default : Value)
    (same : omissible → default = value) :
    Settings.valueOf (fun name => Value.lookup? name entries) name default = value := by
  rcases gives.valueOf_cases default with written | ⟨unwritten, omitted⟩
  · exact written
  · rw [unwritten, same omitted]

theorem number {number default : Int} (gives : Gives entries name (Writes number) (number = default)) :
    Settings.wholeNumber (Settings.valueOf (fun name => Value.lookup? name entries) name
      (.int default)) = .ok number := by
  rcases gives.valueOf_cases (.int default) with written | ⟨same, omitted⟩
  · exact written.wholeNumber
  · rw [same, omitted]
    rfl

theorem optional {number? : Option Int}
    (gives : Gives entries name (WritesOptional number?) (number? = none)) :
    Settings.wholeNumber? (Settings.valueOf (fun name => Value.lookup? name entries) name .null) =
      .ok number? := by
  rcases gives.valueOf_cases .null with written | ⟨same, omitted⟩
  · cases number? with
    | none =>
        rw [show _ = Value.null from written]
        rfl
    | some number => exact Writes.wholeNumber? written
  · rw [same, omitted]
    rfl

theorem choice {α : Type} {nameOf : α → String} {ofName? : String → Option α}
    (named : Named nameOf ofName?) {chosen default : α}
    (gives : Gives entries name (Spells (nameOf chosen)) (chosen = default)) (choices : List String) :
    Settings.choice name choices ofName? (Settings.valueOf (fun name => Value.lookup? name entries) name
      (.text (nameOf default))) = .ok chosen := by
  apply named.choice
  rcases gives.valueOf_cases (.text (nameOf default)) with written | ⟨same, omitted⟩
  · exact written
  · rw [same, omitted]
    exact named.spells_self default

theorem entriesOf {laidOut : List (Value × Value) → Prop} {isDefault : Prop}
    (gives : Gives entries name (WritesSection laidOut isDefault) isDefault)
    (blank : isDefault → laidOut []) :
    ∃ inner, laidOut inner ∧ Settings.entriesOf name (.ofValue (Value.lookup? name entries)) =
      .ok fun name => Value.lookup? name inner := by
  rcases gives.lookup with ⟨value, found, ⟨inner, rfl, laid⟩ | ⟨rfl, defaults⟩⟩ | ⟨missing, defaults⟩
  · refine ⟨inner, laid, ?_⟩
    rw [found]
    rfl
  · refine ⟨[], blank defaults, ?_⟩
    rw [found]
    rfl
  · refine ⟨[], blank defaults, ?_⟩
    rw [missing]
    rfl

theorem omitted (absent : ∀ value, (Value.text name, value) ∉ entries) (holds : omissible) :
    Gives entries name writes omissible where
  written := fun value member => absurd member (absent value)
  missing := fun _ => holds

theorem only (value : Value) (present : ∀ other, (.text name, other) ∈ entries ↔ other = value)
    (holds : writes value) : Gives entries name writes omissible where
  written := fun other member => (present other).mp member ▸ holds
  missing := fun absent => absurd ((present value).mpr rfl) (absent value)

end Gives

/-! ## Sections -/

theorem FaultPolicy.named : Named name ofName? where
  small policy := by cases policy <;> rfl
  found policy := by cases policy <;> rfl

theorem DrawPolicy.named : Named name ofName? where
  small policy := by cases policy <;> rfl
  found policy := by cases policy <;> rfl

theorem RunSettings.laidOut_nil : LaidOut {} [] where
  cyclesPerSecond := .omitted (by simp) rfl
  timerHz := .omitted (by simp) rfl
  faultPolicy := .omitted (by simp) rfl
  maxCycles := .omitted (by simp) rfl
  maxConsecutiveFaults := .omitted (by simp) rfl

theorem DisplaySettings.laidOut_nil : LaidOut {} [] where
  enabled := .omitted (by simp) rfl
  lit := .omitted (by simp) rfl
  dark := .omitted (by simp) rfl
  showRegisters := .omitted (by simp) rfl

theorem RunSettings.LaidOut.readRun {run : RunSettings} {entries : List (Value × Value)}
    (laidOut : run.LaidOut entries) :
    Settings.readRun (fun name => Value.lookup? name entries) = .ok run := by
  simp only [Settings.readRun, laidOut.cyclesPerSecond.number, laidOut.timerHz.number,
    laidOut.faultPolicy.choice FaultPolicy.named,
    laidOut.maxCycles.optional, laidOut.maxConsecutiveFaults.number, bind, Except.bind]
  rfl

theorem DisplaySettings.LaidOut.readDisplay {display : DisplaySettings} {entries : List (Value × Value)}
    (laidOut : display.LaidOut entries) :
    Settings.readDisplay (fun name => Value.lookup? name entries) = .ok display := by
  have enabled := laidOut.enabled.value (.bool true) fun same => by rw [same]
  have lit := laidOut.lit.value (.text "*") fun same => by rw [same]
  have dark := laidOut.dark.value (.text " ") fun same => by rw [same]
  have showRegisters := laidOut.showRegisters.value (.bool false) fun same => by rw [same]
  have shown : ∀ text : Text, Settings.show? (.text text) = .ok text := fun _ => rfl
  simp only [Settings.readDisplay, enabled, lit, dark, showRegisters, shown, bind, Except.bind]
  rfl

namespace Settings

variable {settings : Settings}

theorem Sound.check (sound : settings.Sound) : Settings.check settings = .ok settings := by
  have inside : 0 ≤ settings.loadAddress ∧ settings.loadAddress < memorySize :=
    ⟨sound.loadAddress_nonneg, sound.loadAddress_lt⟩
  have single : ¬ (settings.display.lit.length ≠ 1 ∨ settings.display.dark.length ≠ 1) := by
    rintro (lit | dark)
    · exact lit sound.lit_single
    · exact dark sound.dark_single
  unfold Settings.check
  dsimp only
  rw [if_neg (not_not_intro inside), if_neg (Int.not_le.mpr sound.stackLimit_pos),
    if_neg (Int.not_lt.mpr sound.cycleRate_nonneg), if_neg (Int.not_lt.mpr sound.timerRate_nonneg),
    if_neg single]

theorem layout_read_back (sound : settings.Sound) {entries : List (Value × Value)}
    (laidOut : settings.LaidOut entries) : ofValue (.mapping entries) = .ok settings := by
  obtain ⟨runEntries, runLaid, run⟩ := laidOut.run.entriesOf fun same => same ▸ RunSettings.laidOut_nil
  obtain ⟨displayEntries, displayLaid, display⟩ :=
    laidOut.display.entriesOf fun same => same ▸ DisplaySettings.laidOut_nil
  have loadAddress : wholeNumber (valueOf (fun name => Value.lookup? name entries) "load_address"
      (.int programStart)) = .ok settings.loadAddress := laidOut.loadAddress.number
  simp only [ofValue, ofEntries, run, display, runLaid.readRun, displayLaid.readDisplay,
    loadAddress, laidOut.stackLimit.number,
    laidOut.drawPolicy.choice DrawPolicy.named,
    laidOut.randomSeed.optional, laidOut.program.value .null Eq.symm, bind, Except.bind]
  exact sound.check

def timings : List (Value × Value) :=
  [(.text "cycles_per_second", .int 0), (.text "colour", .null)]

/-- A layout with numbers and names in unusual forms, a section of defaults and unknown keys. -/
def mixed : List (Value × Value) :=
  [(.text "load_address", .text "0X02a"), (.text "stack_limit", .text " +12"),
    (.text "draw_policy", .text "Clip"), (.text "random_seed", .null), (.int 3, .null),
    (.text "runner", .mapping timings), (.text "display", .null)]

theorem layout_read_back_mixed :
    ofValue (.mapping mixed) = .ok {
      loadAddress := 0x2A
      stackLimit := 12
      drawPolicy := .clip
      run := { cyclesPerSecond := 0 } } := by
  have leading : Numeral 16 ['0', '2'] 2 :=
    @Numeral.append 16 ['0'] 0 '2' 2 (.single (.inl rfl) (by decide)) (.inl rfl) (by decide)
  have hexadecimal : Numeral 16 ['0', '2', 'a'] 0x2A :=
    @Numeral.append 16 ['0', '2'] 2 'a' 10 leading (.inl rfl) (by decide)
  have decimal : Numeral 10 ['1', '2'] 12 :=
    @Numeral.append 10 ['1'] 1 '2' 2 (.single (.inl rfl) (by decide)) (.inl rfl) (by decide)
  have padded : Writes 12 (.text " +12") :=
    @Writes.decimal [' '] ['+'] ['1', '2'] [] 1 12 (List.all_eq_true.mp rfl) (by decide) decimal
      (by decide) (by simp)
  have run : RunSettings.LaidOut { cyclesPerSecond := 0 } timings := {
    cyclesPerSecond := .only (.int 0) (by simp [timings]) .native
    timerHz := .omitted (by simp [timings]) rfl
    faultPolicy := .omitted (by simp [timings]) rfl
    maxCycles := .omitted (by simp [timings]) rfl
    maxConsecutiveFaults := .omitted (by simp [timings]) rfl }
  apply layout_read_back
  · constructor <;> decide
  · exact {
      program := .omitted (by simp [mixed]) rfl
      loadAddress := .only (.text "0X02a") (by simp [mixed]) (.hexadecimal (.inr rfl) hexadecimal)
      stackLimit := .only (.text " +12") (by simp [mixed]) padded
      drawPolicy := .only (.text "Clip") (by simp [mixed]) ⟨"Clip".toList, rfl, rfl⟩
      randomSeed := .only .null (by simp [mixed]) rfl
      run := .only (.mapping timings) (by simp [mixed]) (.inl ⟨timings, rfl, run⟩)
      display := .only .null (by simp [mixed]) (.inr ⟨rfl, rfl⟩) }

end Settings

end Chip8
