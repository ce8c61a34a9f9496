import Chip8.Proofs.Acceptance
import Chip8.Proofs.BusTrace

/-!
The system that accepted settings give. It is there as soon as the program has room behind the load
address. Its memory is blank but for the program, which no run changes, and a reset always leads back to
the registers of the start.
-/

namespace Chip8

/-- The byte at an address of a memory that is blank but for an image. -/
def imageByte (image : List UInt8) (start address : Int) : UInt8 :=
  if start ≤ address ∧ address < start + image.length then image.getD (address - start).toNat 0 else 0

theorem imageByte_nil (start address : Int) : imageByte [] start address = 0 := by
  rw [imageByte]
  split <;> rfl

theorem Bus.byteAt_blank (address : Int) : byteAt (Vector.replicate 4096 0) address = 0 := by
  rw [byteAt, Array.getD_eq_getD_getElem?, Vector.toArray_replicate, Array.getElem?_replicate]
  split <;> rfl

theorem Device.getD_fill {cells : Array UInt8} {start : Nat} {block : List UInt8}
    (room : start + block.length ≤ cells.size) (place : Nat) :
    (fill cells start block).getD place 0 =
      if start ≤ place ∧ place < start + block.length then block.getD (place - start) 0
      else cells.getD place 0 := by
  induction block generalizing cells start with
  | nil =>
      rw [fill, List.length_nil, if_neg (by omega)]
  | cons byte rest ih =>
      rw [List.length_cons] at room ⊢
      have roomBehind : start + 1 + rest.length ≤ (cells.setIfInBounds start byte).size := by
        rw [Array.size_setIfInBounds]
        omega
      rw [fill, ih roomBehind]
      -- The rest goes behind the first byte, so it does not touch that byte again.
      by_cases here : place = start
      · subst here
        have present : place < cells.size := by omega
        rw [if_neg (by omega), if_pos (by omega)]
        simp [Array.getD_eq_getD_getElem?, present]
      · have kept : (cells.setIfInBounds start byte).getD place 0 = cells.getD place 0 := by
          rw [Array.getD_eq_getD_getElem?, Array.getD_eq_getD_getElem?,
            Array.getElem?_setIfInBounds_ne (Ne.symm here)]
        rw [kept]
        by_cases behind : start + 1 ≤ place ∧ place < start + 1 + rest.length
        · obtain ⟨offset, rfl⟩ := Nat.exists_eq_add_of_le behind.1
          have shifted : start + 1 + offset - start = offset + 1 := by omega
          rw [if_pos behind, if_pos (by omega), shifted, Nat.add_sub_cancel_left, List.getD_cons_succ]
        · rw [if_neg behind, if_neg (by omega)]

namespace Bus

/-- Every address of the memory gives the byte of an image, or zero beside the image. -/
def Carries (bus : Bus) (image : List UInt8) (start : Int) : Prop :=
  ∀ address, 0 ≤ address → address ≤ 0xFFF →
    peek address bus = .ok (imageByte image start address).toNat bus ∧
    ∃ after, read address bus = .ok (imageByte image start address).toNat after

namespace IsStandard

variable {bus : Bus} {cells : Vector UInt8 4096}

theorem carries (standard : bus.IsStandard cells) {image : List UInt8} {start : Int}
    (bytes : ∀ address, 0 ≤ address → address ≤ 0xFFF →
      byteAt cells address = imageByte image start address) :
    bus.Carries image start := by
  intro address low high
  have found : bus.answer address = .ok (imageByte image start address).toNat := by
    rw [standard.answer_eq, if_pos ⟨low, high⟩, bytes address low high]
  constructor
  · rw [peek_apply, found]
  · rw [read_apply, found]
    exact ⟨_, rfl⟩

theorem size_eq (standard : bus.IsStandard cells) : bus.size = 4096 := by
  rw [size, standard.mappings]
  rfl

theorem loadImage_fits (standard : bus.IsStandard cells) {image : List UInt8} {start : Int}
    (low : 0 ≤ start) (room : start + image.length ≤ 4096) :
    ∃ loaded after held, loadImage image start bus = .ok loaded after ∧ after.IsStandard held ∧
      ∀ address, 0 ≤ address → address ≤ 0xFFF → byteAt held address =
        if start ≤ address ∧ address < start + image.length then image.getD (address - start).toNat 0
        else byteAt cells address := by
  rw [loadImage_apply, standard.size_eq, if_neg (by omega), if_neg (by omega), load_apply]
  by_cases empty : image = []
  · rw [if_pos empty]
    refine ⟨_, bus, cells, rfl, standard, ?_⟩
    intro address _ _
    rw [empty, List.length_nil, if_neg (by omega)]
  · have positive : 0 < image.length := List.length_pos_iff.mpr empty
    have located : bus.locate? start = some (Mapping.mk 0 0xFFF 0, .memory cells.toArray) := by
      have covered : 0 ≤ start ∧ start ≤ 4095 := by omega
      simp [locate?, standard.mappings, standard.devices, Mapping.covers, covered]
    have size : cells.toArray.size = 4096 := cells.size_toArray
    have inside : ¬ (start - 0 < 0 ∨ (cells.toArray.size : Int) < start - 0 + image.length) := by omega
    rw [if_neg empty, located]
    dsimp only
    rw [if_pos (by omega), Device.writeBlock, if_neg inside]
    let filled := Device.fill cells.toArray (start - 0).toNat image
    have whole : filled.size = 4096 := (Device.size_fill _ _ _).trans size
    refine ⟨_, _, ⟨filled, whole⟩, rfl, ⟨?_, standard.mappings⟩, ?_⟩
    · simp [standard.devices, filled]
    · intro address first last
      have fits : (start - 0).toNat + image.length ≤ cells.toArray.size := by omega
      have within : ((start - 0).toNat ≤ address.toNat ∧
          address.toNat < (start - 0).toNat + image.length) ↔
          start ≤ address ∧ address < start + image.length := by omega
      have offset : address.toNat - (start - 0).toNat = (address - start).toNat := by omega
      have filledAt := Device.getD_fill fits address.toNat
      simp only [within, offset] at filledAt
      exact filledAt

end IsStandard

end Bus

structure State.Initial (state : State) (start : Int) : Prop where
  pc : state.pc = start
  registers : ∀ register, state.value register = 0
  index : state.i = 0
  delayTimer : state.delayTimer = 0
  soundTimer : state.soundTimer = 0
  stack : state.stack = []
  dark : ∀ point, state.display.lit point = false

def Command.writes : Command → Bool
  | .load .. | .write .. => true
  | .step | .execute _ | .tick | .reset => false

namespace Machine

theorem freshState_initial (start limit : Int) : (freshState start limit).Initial start where
  pc := rfl
  registers := by
    intro register
    simp [freshState, State.value]
  index := rfl
  delayTimer := rfl
  soundTimer := rfl
  stack := rfl
  dark := Display.lit_blank

theorem Cycle.startAddress {machine after : Machine} {snapshot : Snapshot}
    (cycle : Cycle machine snapshot after) : after.startAddress = machine.startAddress := by
  cases cycle with
  | fetchFault failed => rfl
  | decodeFault read failed => rfl
  | executionFault read decoded failed =>
      obtain ⟨_, more, _, rfl⟩ := Operation.execute_error failed
      rfl
  | completed read decoded executed =>
      obtain ⟨instruction, encodes, rfl⟩ := Operation.exists_encodes_of_decode decoded
      rw [Operation.execute_ofInstruction encodes] at executed
      exact (Instruction.effect_of_execute executed).kept.startAddress

theorem kept_noting (machine : Machine) (accesses : List Access) :
    machine.Kept { machine with bus := machine.bus.noting accesses } :=
  ⟨⟨accesses, rfl⟩, rfl, rfl, rfl, rfl, rfl, rfl, rfl⟩

/-- A word that is executed by itself changes as little as an instruction, also where it is refused. -/
theorem execute_kept (word : Int) (machine : Machine) : machine.Kept ((execute word).left machine) := by
  rw [Action.left, execute_apply]
  cases decoded : Operation.decode word with
  | error problem =>
      have kept := machine.kept_noting []
      rwa [Bus.noting_nil] at kept
  | ok operation =>
      dsimp only
      cases ran : operation.execute machine with
      | error problem after =>
          obtain ⟨_, accesses, _, rfl⟩ := Operation.execute_error ran
          exact machine.kept_noting accesses
      | ok _ after =>
          obtain ⟨instruction, encodes, rfl⟩ := Operation.exists_encodes_of_decode decoded
          rw [Operation.execute_ofInstruction encodes] at ran
          exact (Instruction.effect_of_execute ran).kept

/-- What a machine keeps from its assembly on: a memory that is not written from outside, and the address
that a reset leads to. -/
structure Holding (machine : Machine) (cells : Vector UInt8 4096) (start : Int) : Prop where
  memory : machine.bus.IsStandard cells
  start : machine.startAddress = start

namespace Holding

variable {machine after : Machine} {cells : Vector UInt8 4096} {start : Int}

theorem congr (holding : machine.Holding cells start) (devices : after.bus.devices = machine.bus.devices)
    (mappings : after.bus.mappings = machine.bus.mappings)
    (same : after.startAddress = machine.startAddress) : after.Holding cells start :=
  ⟨⟨devices.trans holding.memory.devices, mappings.trans holding.memory.mappings⟩,
    same.trans holding.start⟩

theorem kept (holding : machine.Holding cells start) (kept : machine.Kept after) :
    after.Holding cells start := by
  obtain ⟨accesses, bus⟩ := kept.bus
  refine holding.congr ?_ ?_ kept.startAddress
  · rw [bus, Bus.devices_noting]
  · rw [bus, Bus.mappings_noting]

theorem cycle (holding : machine.Holding cells start) {snapshot : Snapshot}
    (cycle : Cycle machine snapshot after) : after.Holding cells start := by
  refine holding.congr ?_ ?_ cycle.startAddress
  · rw [cycle.bus]
  · rw [cycle.bus]

theorem perform (holding : machine.Holding cells start) {command : Command}
    (quiet : command.writes = false) : (machine.perform command).Holding cells start := by
  cases command with
  | step =>
      obtain ⟨snapshot, after, ran⟩ := exists_step holding.memory.memoryOnly
      rw [Machine.perform, Action.left, ran]
      exact holding.cycle (cycle_of_step ran)
  | execute word => exact holding.kept (execute_kept word machine)
  | tick => exact holding.congr rfl rfl rfl
  | reset => exact holding.congr rfl rfl rfl
  | load address block => cases quiet
  | write address data => cases quiet

theorem foldl (holding : machine.Holding cells start) {commands : List Command}
    (quiet : ∀ command ∈ commands, command.writes = false) :
    (commands.foldl Machine.perform machine).Holding cells start := by
  induction commands generalizing machine with
  | nil => exact holding
  | cons command rest ih =>
      rw [List.forall_mem_cons] at quiet
      exact ih (holding.perform quiet.1) quiet.2

theorem reset (holding : machine.Holding cells start) : machine.reset.state.Initial start := by
  rw [← holding.start]
  exact freshState_initial machine.startAddress machine.stackLimit

end Holding

/-- A machine that starts with an image in its memory. The image stays whatever is run, and every reset
leads back to the start. -/
structure Built (machine : Machine) (image : List UInt8) (start : Int) : Prop where
  memory : ∃ cells, machine.bus.IsStandard cells
  initial : machine.state.Initial start
  carries : ∀ commands : List Command, (∀ command ∈ commands, command.writes = false) →
    (commands.foldl perform machine).bus.Carries image start
  restored : ∀ commands : List Command, (∀ command ∈ commands, command.writes = false) →
    (commands.foldl perform machine).reset.state.Initial start

theorem Holding.built {machine : Machine} {cells : Vector UInt8 4096} {image : List UInt8} {start : Int}
    (holding : machine.Holding cells start) (initial : machine.state.Initial start)
    (bytes : ∀ address, 0 ≤ address → address ≤ 0xFFF →
      Bus.byteAt cells address = imageByte image start address) : machine.Built image start where
  memory := ⟨cells, holding.memory⟩
  initial := initial
  carries := fun _ quiet => (holding.foldl quiet).memory.carries bytes
  restored := fun _ quiet => (holding.foldl quiet).reset

theorem build_fresh {bus : Bus} {cells : Vector UInt8 4096} (standard : bus.IsStandard cells)
    (generator : Generator) (drawPolicy : DrawPolicy) {limit start : Int} (room : ¬ limit ≤ 0)
    (inside : 0 ≤ start ∧ start < memorySize) :
    ∃ machine, build bus generator drawPolicy limit start = .ok machine ∧
      machine.reset.Holding cells start ∧ machine.reset.state.Initial start := by
  rw [build, if_neg room, if_neg (not_not_intro inside)]
  exact ⟨_, rfl, ⟨standard, rfl⟩, freshState_initial start limit⟩

end Machine

theorem Assembly.load_fits {machine : Machine} {cells : Vector UInt8 4096} {start : Int}
    (holding : machine.Holding cells start) (log : List LogEntry) {image : List UInt8}
    (low : 0 ≤ start) (room : start + image.length ≤ 4096) :
    ∃ filled held, (load log image start machine).machine = .ok filled ∧ filled.Holding held start ∧
      filled.state = machine.state ∧
      ∀ address, 0 ≤ address → address ≤ 0xFFF → Bus.byteAt held address =
        if start ≤ address ∧ address < start + image.length then image.getD (address - start).toNat 0
        else Bus.byteAt cells address := by
  obtain ⟨loaded, bus, held, ran, standard, bytes⟩ := holding.memory.loadImage_fits low room
  rw [load, Machine.onBus_apply, ran]
  exact ⟨_, held, rfl, ⟨standard, holding.start⟩, rfl, bytes⟩

theorem Assembly.load_tooLarge {machine : Machine} {cells : Vector UInt8 4096} {start : Int}
    (holding : machine.Holding cells start) (log : List LogEntry) {image : List UInt8}
    (inside : 0 ≤ start ∧ start < 4096) (large : 4096 < start + image.length) :
    (load log image start machine).machine =
      .error (.problem (.misuse (.programTooLarge image.length start (4096 - start)))) := by
  rw [load, Machine.onBus_apply, Bus.loadImage_apply, holding.memory.size_eq, if_neg (by omega),
    if_pos large]

namespace Settings

inductive Accepted (settings : Settings) : Prop
  | ofValue {value : Value} : ofValue value = .ok settings → Accepted settings
  | ofDocument {document : Document} : ofDocument document = .ok settings → Accepted settings

theorem Accepted.sound {settings : Settings} (accepted : settings.Accepted) : settings.Sound := by
  cases accepted with
  | @ofValue value read => exact (read ▸ ofValue_judged value).of_ok
  | @ofDocument document read => exact (read ▸ ofDocument_judged document).of_ok

/-- What the program of settings comes to: nothing, or the contents of a file. -/
inductive Names (settings : Settings) (read : FileReader Id) : Option (List UInt8) → Prop
  | nothing : settings.program.truthy = false → Names settings read none
  | file {path : Path} {image : List UInt8} : settings.program.path? = .ok (some path) →
      Id.run (read path) = .ok image → Names settings read (some image)

theorem machine_fresh {settings : Settings} (sound : settings.Sound) (seed : Int) :
    ∃ machine, settings.machine seed = .ok machine ∧
      machine.Holding (Vector.replicate 4096 0) settings.loadAddress ∧
      machine.state.Initial settings.loadAddress := by
  obtain ⟨bus, mapped, standard⟩ := standardBus_isStandard
  have positive : ¬ settings.stackLimit ≤ 0 := Int.not_le.mpr sound.stackLimit_pos
  have inside : 0 ≤ settings.loadAddress ∧ settings.loadAddress < memorySize :=
    ⟨sound.loadAddress_nonneg, sound.loadAddress_lt⟩
  obtain ⟨machine, built, fresh⟩ := Machine.build_fresh standard
    (.ofSeed (settings.randomSeed.getD seed)) settings.drawPolicy positive inside
  refine ⟨machine.reset, ?_, fresh⟩
  rw [Settings.machine, mapped]
  change (do return (← Machine.build bus _ _ _ _).reset) = _
  rw [built]
  rfl

variable {settings : Settings} {read : FileReader Id}

inductive Outcome (settings : Settings) (read : FileReader Id) : Except AssemblyError Machine → Prop
  | unnamed {cause : FileError} : settings.program.path? = .error cause →
      Outcome settings read (.error (.file cause))
  | unread {path : Path} {cause : FileError} : settings.program.path? = .ok (some path) →
      Id.run (read path) = .error cause → Outcome settings read (.error (.file cause))
  | tooLarge {path : Path} {image : List UInt8} : settings.program.path? = .ok (some path) →
      Id.run (read path) = .ok image → 4096 - settings.loadAddress < image.length →
      Outcome settings read (.error (.problem (.misuse
        (.programTooLarge image.length settings.loadAddress (4096 - settings.loadAddress)))))
  | bare {machine : Machine} : settings.program.path? = .ok none →
      machine.Built [] settings.loadAddress → Outcome settings read (.ok machine)
  | loaded {machine : Machine} {path : Path} {image : List UInt8} :
      settings.program.path? = .ok (some path) → Id.run (read path) = .ok image →
      image.length ≤ 4096 - settings.loadAddress → machine.Built image settings.loadAddress →
      Outcome settings read (.ok machine)

theorem load_outcome (sound : settings.Sound) {path : Path} {image : List UInt8}
    (named : settings.program.path? = .ok (some path)) (found : Id.run (read path) = .ok image)
    {machine : Machine} (holding : machine.Holding (Vector.replicate 4096 0) settings.loadAddress)
    (initial : machine.state.Initial settings.loadAddress) (log : List LogEntry) :
    Outcome settings read (Assembly.load log image settings.loadAddress machine).machine := by
  have low := sound.loadAddress_nonneg
  have high : settings.loadAddress < 4096 := sound.loadAddress_lt
  by_cases room : settings.loadAddress + image.length ≤ 4096
  · obtain ⟨filled, held, loaded, kept, same, bytes⟩ := Assembly.load_fits holding log low room
    rw [loaded]
    refine .loaded named found (by omega) (kept.built (same ▸ initial) ?_)
    intro address first last
    rw [bytes address first last, Bus.byteAt_blank, imageByte]
  · rw [Assembly.load_tooLarge holding log ⟨low, high⟩ (Int.not_le.mp room)]
    exact .tooLarge named found (by omega)

theorem assemble_outcome (sound : settings.Sound) (read : FileReader Id) (seed : Int) :
    Outcome settings read (Id.run (settings.assemble read seed false)).machine := by
  obtain ⟨machine, built, holding, initial⟩ := machine_fresh sound seed
  have showing : ¬ (false && !settings.showable) = true := Bool.false_ne_true
  unfold assemble
  rw [built]
  dsimp only
  rw [if_neg showing]
  cases named : settings.program.path? with
  | error cause => exact .unnamed named
  | ok path? =>
      cases path? with
      | none =>
          refine .bare named (holding.built initial ?_)
          intro address _ _
          rw [Bus.byteAt_blank, imageByte_nil]
      | some path =>
          simp only [Id.run_bind]
          cases found : Id.run (read path) with
          | error cause => exact .unread named found
          | ok image => exact load_outcome sound named found holding initial _

/-- A strict log makes no difference to what is built, only to whether anything is. -/
theorem assemble_strict (read : FileReader Id) (seed : Int) {strict : Bool} {machine : Machine}
    (assembled : (Id.run (settings.assemble read seed strict)).machine = .ok machine) :
    settings.assemble read seed strict = settings.assemble read seed false := by
  unfold assemble at assembled ⊢
  cases built : settings.machine seed with
  | error problem => rfl
  | ok fresh =>
      rw [built] at assembled
      dsimp only at assembled ⊢
      split at assembled
      · cases assembled
      · rename_i showing
        rw [if_neg showing]
        rfl

theorem assemble_built (sound : settings.Sound) {seed : Int} {strict : Bool} {machine : Machine}
    (assembled : (Id.run (settings.assemble read seed strict)).machine = .ok machine) :
    ∃ image, machine.Built image settings.loadAddress := by
  have outcome := assemble_outcome sound read seed
  rw [← assemble_strict read seed assembled, assembled] at outcome
  cases outcome with
  | bare named built => exact ⟨_, built⟩
  | loaded named found fits built => exact ⟨_, built⟩

/-- The memory of a built system. A program that is given is there if it has room behind the load
address, and otherwise the system is refused with the sizes. What is built starts at the load address with
nothing but its program, which it keeps, and is reset to the same registers. -/
theorem built_system_carries_program (accepted : settings.Accepted) {program : Option (List UInt8)}
    (names : settings.Names read program) (seed : Int) :
    let image := program.getD []
    let room := 4096 - settings.loadAddress
    let fits := program = none ∨ image.length ≤ room
    let outcome := (Id.run (settings.assemble read seed false)).machine
    ((∃ machine, outcome = .ok machine) ↔ fits) ∧
    (¬ fits → outcome =
      .error (.problem (.misuse (.programTooLarge image.length settings.loadAddress room)))) ∧
    ∀ machine, outcome = .ok machine → machine.Built image settings.loadAddress := by
  have outcome := assemble_outcome accepted.sound read seed
  dsimp only
  generalize (Id.run (settings.assemble read seed false)).machine = result at outcome
  cases names with
  | nothing absent =>
      have nowhere : settings.program.path? = .ok none := by simp [Value.path?, absent]
      cases outcome with
      | @bare machine named built =>
          refine ⟨iff_of_true ⟨machine, rfl⟩ (.inl rfl), ?_, ?_⟩
          · exact fun tooLarge => absurd (.inl rfl) tooLarge
          · rintro _ ⟨⟩
            exact built
      | unnamed named | unread named | tooLarge named | loaded named =>
          rw [nowhere] at named
          cases named
  | @file path image named content =>
      cases outcome with
      | unnamed other | bare other =>
          rw [named] at other
          cases other
      | unread other failed =>
          cases named.symm.trans other
          cases content.symm.trans failed
      | tooLarge other found large =>
          cases named.symm.trans other
          cases content.symm.trans found
          refine ⟨iff_of_false nofun ?_, fun _ => rfl, nofun⟩
          rintro (absent | fits)
          · cases absent
          · exact Int.not_lt.mpr fits large
      | @loaded machine _ _ other found fits built =>
          cases named.symm.trans other
          cases content.symm.trans found
          refine ⟨iff_of_true ⟨machine, rfl⟩ (.inr fits), ?_, ?_⟩
          · exact fun tooLarge => absurd (.inr fits) tooLarge
          · rintro _ ⟨⟩
            exact built

/-- Settings whose program has two bytes of room. -/
def cramped : Value :=
  .mapping [(.text "program", .text "p.ch8"), (.text "load_address", .text "0xFFE")]

theorem built_system_carries_program_cramped :
    let full : FileReader Id := fun _ => .ok [0x12, 0x34]
    let overfull : FileReader Id := fun _ => .ok [0x12, 0x34, 0x56]
    ∃ settings, ofValue cramped = .ok settings ∧
      (∃ machine, (Id.run (settings.assemble full 0 false)).machine = .ok machine ∧
        machine.state.pc = 0xFFE ∧
        Bus.peek 0xFFF ([.step, .reset, .tick].foldl Machine.perform machine).bus =
          .ok 0x34 ([.step, .reset, .tick].foldl Machine.perform machine).bus) ∧
      (Id.run (settings.assemble overfull 0 false)).machine =
        .error (.problem (.misuse (.programTooLarge 3 0xFFE 2))) := by
  intro full overfull
  have read : (ofValue cramped).toOption.any (fun settings => settings.loadAddress == 0xFFE &&
      settings.program.path?.toOption.any (·.any (·.bytes == "p.ch8".toUTF8.toList))) = true := by
    decide +kernel
  cases found : ofValue cramped with
  | error cause =>
      rw [found] at read
      cases read
  | ok settings =>
      rw [found] at read
      simp only [Except.toOption, Option.any_some, Bool.and_eq_true, beq_iff_eq] at read
      obtain ⟨address, named⟩ := read
      obtain ⟨path, named⟩ : ∃ path, settings.program.path? = .ok (some path) := by
        cases program : settings.program.path? with
        | error cause => simp [program] at named
        | ok path? =>
            cases path? with
            | none => simp [program] at named
            | some path => exact ⟨path, rfl⟩
      have accepted : settings.Accepted := .ofValue found
      have names (image : List UInt8) : settings.Names (fun _ => .ok image) (some image) :=
        .file named rfl
      obtain ⟨fits, _, built⟩ := built_system_carries_program accepted (names [0x12, 0x34]) 0
      obtain ⟨_, refused, _⟩ := built_system_carries_program accepted (names [0x12, 0x34, 0x56]) 0
      simp only [address] at fits refused built
      refine ⟨settings, rfl, ?_, ?_⟩
      · obtain ⟨machine, outcome⟩ := fits.mpr (by decide)
        have system := built machine outcome
        refine ⟨machine, outcome, system.initial.pc, ?_⟩
        exact (system.carries [.step, .reset, .tick] (by decide) 0xFFF (by decide) (by decide)).1
      · exact refused (by decide)

end Settings

end Chip8
