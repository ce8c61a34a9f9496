import Mathlib.Data.List.Basic
import Mathlib.Tactic.IntervalCases
import Chip8.Proofs.Execution
import Chip8.Proofs.PlainRegisters

/-!
The instructions on plain integers, with every result cut to its width by hand. They write registers, the
program counter and the display past the guarded operations, and still keep all bounds; and they do what
the instructions do.
-/

namespace Chip8

/-- What instructions work on, with the registers as plain integers. -/
structure PlainMachine where
  state : PlainState
  bus : Bus
  generator : Generator
  drawPolicy : DrawPolicy

namespace PlainMachine

variable {α : Type}

def onState (action : Action PlainState α) : Action PlainMachine α :=
  action.within PlainMachine.state fun state machine => { machine with state := state }

def onBus (action : Action Bus α) : Action PlainMachine α :=
  action.within PlainMachine.bus fun bus machine => { machine with bus := bus }

def drawByte : Action PlainMachine Int :=
  modifyGet fun machine =>
    let (byte, generator) := machine.generator.nextByte
    (byte.toNat, { machine with generator := generator })

/-- Sets a register to a number, whatever its size. -/
def put (register : Register) (value : Int) : Action PlainMachine Unit :=
  onState (modify (PlainState.withValue register.val value))

def putWithFlag (register : Register) (value : Int) (flag : Int) : Action PlainMachine Unit := do
  put register value
  put Register.flag flag

/-- Sets the program counter to a number, whatever its size. -/
def moveTo (target : Int) : Action PlainMachine Unit :=
  onState (modify fun state => { state with pc := target })

def skipIf (condition : Prop) [Decidable condition] : Action PlainMachine Unit :=
  if condition then onState PlainState.skip else pure ()

end PlainMachine

/-- Where the pixel in a column and row of a sprite lands, in plain integers. -/
def DrawPolicy.plainPlace (policy : DrawPolicy) (x y column row : Int) : Option (Int × Int) :=
  match policy with
  | wrap => some ((x + column) % 64, (y + row) % 32)
  | clip =>
      if x % 64 + column < 64 ∧ y % 32 + row < 32 then some (x % 64 + column, y % 32 + row)
      else none

def rowPixels (policy : DrawPolicy) (x y data : Int) (row : Nat) : List (Int × Int) :=
  (List.range 8).filterMap fun column : Nat =>
    if data / 2 ^ (7 - column) % 2 = 1 then policy.plainPlace x y column row else none

def spritePixels (policy : DrawPolicy) (x y : Int) (sprite : List Int) : List (Int × Int) :=
  sprite.zipIdx.flatMap fun entry => rowPixels policy x y entry.1 entry.2

/-- Flips pixels in order, and says whether any of them was lit when its turn came. -/
def PlainState.flipPixels : List (Int × Int) → Action PlainState Bool
  | [] => pure false
  | pixel :: rest => do
      let lit ← flipPixel pixel.1 pixel.2
      let others ← flipPixels rest
      return lit || others

open PlainMachine in
/-- Runs an instruction on plain integers. -/
def Instruction.executePlain (instruction : Instruction) : Action PlainMachine Unit := do
  let machine ← get
  let value := fun register : Register => machine.state.value register.val
  match instruction with
  | clear => onState PlainState.clearDisplay
  | ret =>
      let address ← onState PlainState.pop
      moveTo address
  | jump target => onState (PlainState.jump target.val)
  | call target =>
      onState (PlainState.push machine.state.pc)
      moveTo target.val
  | skipIfByte x byte => skipIf (value x = byte.toNat)
  | skipUnlessByte x byte => skipIf (value x ≠ byte.toNat)
  | skipIfEqual x y => skipIf (value x = value y)
  | skipUnlessEqual x y => skipIf (value x ≠ value y)
  | loadByte x byte => put x byte.toNat
  | addByte x byte => put x ((value x + byte.toNat) % 256)
  | copy x y => put x (value y)
  | bitOr x y => put x (Int.lor (value x) (value y))
  | bitAnd x y => put x (Int.land (value x) (value y))
  | bitXor x y => put x (Int.xor (value x) (value y))
  | add x y => putWithFlag x ((value x + value y) % 256) (if 255 < value x + value y then 1 else 0)
  | subtract x y => putWithFlag x ((value x - value y) % 256) (if value y ≤ value x then 1 else 0)
  | shiftRight x => putWithFlag x (value x / 2) (value x % 2)
  | subtractFrom x y => putWithFlag x ((value y - value x) % 256) (if value x ≤ value y then 1 else 0)
  | shiftLeft x => putWithFlag x (value x * 2 % 256) (value x / 128 % 2)
  | loadIndex address => onState (PlainState.setIndex address.val)
  | jumpOffset address =>
      let target := address.val + value Register.offset
      if target < memorySize then onState (PlainState.jump target)
      else Action.fault (.outOfBounds (.offsetTarget target))
  | random x mask => put x (Int.land (← drawByte) mask.toNat)
  | draw x y rows =>
      let sprite ← onBus (Bus.readBlock machine.state.i rows.val)
      put Register.flag 0
      let collided ← onState (PlainState.flipPixels (spritePixels machine.drawPolicy (value x) (value y) sprite))
      put Register.flag (if collided then 1 else 0)

def Operation.executePlain (operation : Operation) : Action PlainMachine Unit :=
  match operation.instruction? with
  | some instruction => instruction.executePlain
  | none => Action.fault (.unsupportedOpcode operation.opcode)

def PlainMachine.execute (word : Int) : Action PlainMachine Operation := do
  let operation ← ofExcept (Operation.decode word)
  operation.executePlain
  return operation

section Bounds

variable {limit : Int} {α : Type}

theorem bitwise_range {first second : Int} (inside : 0 ≤ first ∧ first ≤ 0xFF)
    (inside' : 0 ≤ second ∧ second ≤ 0xFF) :
    (0 ≤ Int.lor first second ∧ Int.lor first second ≤ 0xFF) ∧
      (0 ≤ Int.land first second ∧ Int.land first second ≤ 0xFF) ∧
      0 ≤ Int.xor first second ∧ Int.xor first second ≤ 0xFF := by
  obtain ⟨m, rfl⟩ := Int.eq_ofNat_of_zero_le inside.1
  obtain ⟨n, rfl⟩ := Int.eq_ofNat_of_zero_le inside'.1
  have small : m < 2 ^ 8 := by omega
  have small' : n < 2 ^ 8 := by omega
  have either := Nat.or_lt_two_pow small small'
  have both := Nat.and_lt_two_pow m small'
  have one := Nat.xor_lt_two_pow small small'
  have lor : Int.lor m n = (m ||| n : Nat) := rfl
  have land : Int.land m n = (m &&& n : Nat) := rfl
  have xor : Int.xor m n = (m ^^^ n : Nat) := rfl
  rw [lor, land, xor]
  omega

theorem DrawPolicy.plainPlace_inside {policy : DrawPolicy} {x y column row px py : Int}
    (right : 0 ≤ column) (below : 0 ≤ row) (placed : policy.plainPlace x y column row = some (px, py)) :
    (0 ≤ px ∧ px < 64) ∧ 0 ≤ py ∧ py < 32 := by
  cases policy with
  | wrap =>
      cases placed
      omega
  | clip =>
      simp only [plainPlace, Option.ite_none_right_eq_some, Option.some.injEq, Prod.mk.injEq] at placed
      omega

theorem spritePixels_inside {policy : DrawPolicy} {x y : Int} {sprite : List Int} {pixel : Int × Int}
    (covered : pixel ∈ spritePixels policy x y sprite) :
    (0 ≤ pixel.1 ∧ pixel.1 < 64) ∧ 0 ≤ pixel.2 ∧ pixel.2 < 32 := by
  obtain ⟨entry, _, covered⟩ := List.mem_flatMap.mp covered
  obtain ⟨column, _, placed⟩ := List.mem_filterMap.mp covered
  split at placed
  · exact DrawPolicy.plainPlace_inside (Int.natCast_nonneg _) (Int.natCast_nonneg _) placed
  · cases placed

theorem PlainState.flipPixels_completes {pixels : List (Int × Int)}
    (inside : ∀ pixel ∈ pixels, (0 ≤ pixel.1 ∧ pixel.1 < 64) ∧ 0 ≤ pixel.2 ∧ pixel.2 < 32) :
    Action.Completes (WellFormed limit) (fun _ => True) (flipPixels pixels) := by
  induction pixels with
  | nil => exact .pure trivial
  | cons pixel rest ih =>
      have first : Action.Completes (WellFormed limit) (fun _ => True) (flipPixel pixel.1 pixel.2) :=
        flipPixel_completes (inside pixel List.mem_cons_self)
      have others := ih fun other member => inside other (List.mem_cons_of_mem _ member)
      exact first.bind fun _ _ => others.bind fun _ _ => .pure trivial

theorem PlainState.flipPixels_sprite (policy : DrawPolicy) (x y : Int) (sprite : List Int) :
    Action.Completes (WellFormed limit) (fun _ => True) (flipPixels (spritePixels policy x y sprite)) :=
  flipPixels_completes fun _ => spritePixels_inside

namespace PlainMachine

/-- Nothing has changed, except that reads may have been noted on the bus. -/
def Unchanged (before after : PlainMachine) : Prop :=
  ∃ accesses, after = { before with bus := before.bus.noting accesses }

/-- An action that keeps the bounds of the registers and has no effect on them where it is refused. -/
abbrev Guards (limit : Int) (promise : α → Prop) (action : Action PlainMachine α) : Prop :=
  action.Keeps (fun machine => machine.state.WellFormed limit) Unchanged promise

/-- An action that keeps the bounds of the registers and is never refused. -/
abbrev Completes (limit : Int) (promise : α → Prop) (action : Action PlainMachine α) : Prop :=
  action.Completes (fun machine => machine.state.WellFormed limit) promise

theorem Unchanged.refl (machine : PlainMachine) : machine.Unchanged machine :=
  ⟨[], by rw [Bus.noting_nil]⟩

theorem onState_guards {promise : α → Prop} {action : Action PlainState α}
    (guards : PlainState.Guards limit promise action) : Guards limit promise (onState action) := by
  refine guards.within (fun _ _ => rfl) fun new machine same => ?_
  subst same
  exact .refl machine

theorem onState_completes {promise : α → Prop} {action : Action PlainState α}
    (completes : Action.Completes (PlainState.WellFormed limit) promise action) :
    Completes limit promise (onState action) :=
  completes.within fun _ _ => rfl

theorem readBlock_guards (address : Int) (count : Nat) :
    Guards limit (fun _ => True) (onBus (Bus.readBlock address count)) := by
  intro machine well
  rw [onBus, Action.within, Bus.readBlock_apply]
  rcases machine.bus.block address count with ⟨accesses, problem | data⟩
  · exact .refused ⟨accesses, rfl⟩
  · exact .done well trivial

theorem drawByte_completes : Completes limit (fun byte => 0 ≤ byte ∧ byte ≤ 0xFF) drawByte := by
  intro machine well
  have small := Nat.le_of_lt_succ machine.generator.nextByte.1.toNat_lt
  exact .done well ⟨Int.natCast_nonneg _, Int.ofNat_le.mpr small⟩

theorem put_completes (register : Register) {value : Int} (inside : 0 ≤ value ∧ value ≤ 0xFF) :
    Completes limit (fun _ => True) (put register value) :=
  onState_completes (.modify fun _ well => well.withValue _ inside)

theorem putWithFlag_completes (register : Register) {value flag : Int} (inside : 0 ≤ value ∧ value ≤ 0xFF)
    (small : 0 ≤ flag ∧ flag ≤ 1) : Completes limit (fun _ => True) (putWithFlag register value flag) :=
  (put_completes register inside).bind fun _ _ => put_completes _ (by omega)

theorem moveTo_completes {target : Int} (inside : 0 ≤ target ∧ target ≤ 0xFFFF) :
    Completes limit (fun _ => True) (moveTo target) :=
  onState_completes (.modify fun _ well => { well with pc := inside })

theorem skipIf_guards (condition : Prop) [Decidable condition] :
    Guards limit (fun _ => True) (skipIf condition) :=
  .ite (fun _ => onState_guards PlainState.skip_guards) fun _ => (Action.Completes.pure trivial).keeps

end PlainMachine

open PlainMachine in
/-- Every instruction keeps the bounds, those included that write past the guarded operations. -/
theorem Instruction.executePlain_guards (instruction : Instruction) :
    Guards limit (fun _ => True) instruction.executePlain := by
  intro machine well
  have value (register : Register) := well.value register.val
  rw [executePlain, Action.bind_apply, Action.get_apply]
  dsimp only
  cases instruction with
  | clear => exact (onState_completes PlainState.clearDisplay_completes).keeps machine well
  | ret =>
      exact (onState_guards PlainState.pop_guards).bind (fun _ inside => moveTo_completes inside) machine well
  | jump target => exact onState_guards (PlainState.jump_guards _) machine well
  | call target =>
      have pushed : Guards limit (fun _ => True) (onState (PlainState.push machine.state.pc)) :=
        onState_guards (PlainState.push_guards _)
      exact pushed.bind (fun _ _ => moveTo_completes (by omega)) machine well
  | skipIfByte | skipUnlessByte | skipIfEqual | skipUnlessEqual => exact skipIf_guards _ machine well
  | loadByte x byte =>
      have small := byte.toNat_lt
      exact (put_completes x (by omega)).keeps machine well
  | addByte x byte => exact (put_completes x (by omega)).keeps machine well
  | copy x y => exact (put_completes x (value y)).keeps machine well
  | bitOr x y => exact (put_completes x (bitwise_range (value x) (value y)).1).keeps machine well
  | bitAnd x y => exact (put_completes x (bitwise_range (value x) (value y)).2.1).keeps machine well
  | bitXor x y => exact (put_completes x (bitwise_range (value x) (value y)).2.2).keeps machine well
  | add x y | subtract x y | subtractFrom x y =>
      exact (putWithFlag_completes x (by omega) (by split <;> omega)).keeps machine well
  | shiftRight x | shiftLeft x =>
      have inside := value x
      exact (putWithFlag_completes x (by omega) (by omega)).keeps machine well
  | loadIndex address => exact onState_guards (PlainState.setIndex_guards _) machine well
  | jumpOffset address =>
      exact Action.Keeps.ite (fun _ => onState_guards (PlainState.jump_guards _))
        (fun _ => .fault Unchanged.refl _) machine well
  | random x mask =>
      have small := mask.toNat_lt
      have stored (byte : Int) (inside : 0 ≤ byte ∧ byte ≤ 0xFF) :
          Completes limit (fun _ => True) (put x (Int.land byte mask.toNat)) :=
        put_completes x (bitwise_range inside (by omega)).2.1
      exact (drawByte_completes.bind stored).keeps machine well
  | draw x y rows =>
      refine (readBlock_guards machine.state.i rows.val).bind (fun sprite _ => ?_) machine well
      have flagged (collided : Bool) :
          Completes limit (fun _ => True) (put Register.flag (if collided then 1 else 0)) :=
        put_completes _ (by split <;> omega)
      exact (put_completes _ (by omega)).bind fun _ _ =>
        (onState_completes (PlainState.flipPixels_sprite _ _ _ _)).bind fun collided _ => flagged collided

theorem Operation.executePlain_guards (operation : Operation) :
    PlainMachine.Guards limit (fun _ => True) operation.executePlain := by
  rw [executePlain]
  cases operation.instruction? with
  | some instruction => exact instruction.executePlain_guards
  | none => exact .fault PlainMachine.Unchanged.refl _

/-- Running a word keeps the bounds; a word that is refused changes nothing. -/
theorem PlainMachine.execute_guards (word : Int) : Guards limit (fun _ => True) (execute word) := by
  rw [execute]
  cases Operation.decode word with
  | error problem => exact fun machine _ => .refused (.refl machine)
  | ok operation => exact operation.executePlain_guards.bind fun _ _ => .pure trivial

end Bounds

def Machine.plain (machine : Machine) : PlainMachine where
  state := machine.state.plain
  bus := machine.bus
  generator := machine.generator
  drawPolicy := machine.drawPolicy

section Mirroring

def Point.plain (point : Point) : Int × Int := (point.x.val, point.y.val)

theorem DrawPolicy.plainPlace_eq (policy : DrawPolicy) (x y column row : Nat) :
    policy.plainPlace x y column row = (policy.place x y column row).map Point.plain := by
  cases policy with
  | wrap => rfl
  | clip =>
      by_cases inside : x % 64 + column < 64 ∧ y % 32 + row < 32
      · have inside' : (x : Int) % 64 + column < 64 ∧ (y : Int) % 32 + row < 32 := by omega
        rw [plainPlace, place, if_pos inside', dif_pos inside]
        rfl
      · have outside : ¬ ((x : Int) % 64 + column < 64 ∧ (y : Int) % 32 + row < 32) := by omega
        rw [plainPlace, place, if_neg outside, dif_neg inside]
        rfl

/-- The bits of an integer that a sprite row shows are those of its lowest byte. -/
theorem spriteBit_iff {column : Nat} (inside : column < 8) (data : Int) :
    spriteBit (UInt8.ofNat (data % 256).toNat) column = true ↔ data / 2 ^ (7 - column) % 2 = 1 := by
  rw [spriteBit, Nat.testBit_eq_decide_div_mod_eq, decide_eq_true_eq, UInt8.toNat_ofNat']
  interval_cases column <;> omega

theorem rowPixels_eq (policy : DrawPolicy) (x y row : Nat) (data : Int) :
    rowPixels policy x y data row =
      ((List.range 8).filterMap fun column =>
        if spriteBit (UInt8.ofNat (data % 256).toNat) column then policy.place x y column row
        else none).map Point.plain := by
  rw [rowPixels, List.map_filterMap]
  refine List.filterMap_congr fun column member => ?_
  have bit := spriteBit_iff (List.mem_range.mp member) data
  by_cases set : data / 2 ^ (7 - column) % 2 = 1
  · rw [if_pos set, if_pos (bit.mpr set), policy.plainPlace_eq]
  · rw [if_neg set, if_neg (fun shown => set (bit.mp shown))]
    rfl

theorem spritePixels_eq (policy : DrawPolicy) (x y : Nat) (sprite : List Int) :
    spritePixels policy x y sprite =
      (spritePoints policy x y (sprite.map fun data => UInt8.ofNat (data % 256).toNat)).map Point.plain := by
  rw [spritePixels, spritePoints, List.map_flatMap, List.zipIdx_map, List.flatMap_map]
  exact List.flatMap_congr fun entry _ => rowPixels_eq policy x y entry.2 entry.1

theorem State.flipPixel_point (point : Point) (state : State) :
    flipPixel (point.x.val : Int) (point.y.val : Int) state =
      .ok (state.display.lit point) { state with display := state.display.flip point } := by
  have inside : (0 ≤ (point.x.val : Int) ∧ (point.x.val : Int) < 64) ∧
      0 ≤ (point.y.val : Int) ∧ (point.y.val : Int) < 32 := by omega
  rw [flipPixel, pointOf, dif_pos inside]
  rfl

/-- Flipping pixels one by one through the guarded operation is flipping their points. -/
theorem State.flipPixels_plain (points : List Point) (state : State) :
    PlainState.flipPixels (points.map Point.plain) state.plain =
      .ok (state.display.flipAll points).2
        { state with display := (state.display.flipAll points).1 }.plain := by
  induction points generalizing state with
  | nil => rfl
  | cons point rest ih =>
      have flipped := flipPixel_mirrors point.x.val point.y.val state
      rw [flipPixel_point] at flipped
      rw [List.map_cons, PlainState.flipPixels, Action.bind_apply]
      simp only [Point.plain] at ih ⊢
      rw [flipped]
      simp only [Action.viewed, Action.bind_apply, ih]
      rfl

theorem flag_toNat (set : Bool) : (if set then (1 : Int) else 0) = ((if set then 1 else 0 : UInt8).toNat : Int) := by
  cases set <;> rfl

namespace Machine

variable {α β : Type}

/-- An action on plain integers does what the one on the machine does. -/
abbrev Mirrors (number : α → β) (image : Action PlainMachine β) (action : Action Machine α) : Prop :=
  Action.Mirrors plain number image action

theorem onState_mirrors {number : α → β} {image : Action PlainState β} {action : Action State α}
    (mirrors : State.Mirrors number image action) :
    Mirrors number (PlainMachine.onState image) (onState action) :=
  mirrors.within (fun _ => rfl) fun _ _ => rfl

theorem onBus_mirrors (action : Action Bus α) : Mirrors id (PlainMachine.onBus action) (onBus action) := by
  have same : Action.Mirrors id id action action := by
    intro bus
    rw [id]
    cases action bus <;> rfl
  exact same.within (fun _ => rfl) fun _ _ => rfl

theorem drawByte_mirrors : Mirrors (fun byte => (byte.toNat : Int)) PlainMachine.drawByte drawByte :=
  fun _ => rfl

theorem put_mirrors (register : Register) {value : Int} {byte : UInt8} (same : value = byte.toNat) :
    Mirrors id (PlainMachine.put register value) (put register byte) := by
  subst same
  exact onState_mirrors (.modify fun state => (state.plain_withValue register byte).symm)

theorem putWithFlag_mirrors (register : Register) {value flag : Int} {byte : UInt8} {set : Bool}
    (same : value = byte.toNat) (sameFlag : flag = if set then 1 else 0) :
    Mirrors id (PlainMachine.putWithFlag register value flag) (putWithFlag register byte set) :=
  (put_mirrors register same).bind fun _ => put_mirrors _ (sameFlag.trans (flag_toNat set))

theorem moveTo_mirrors (target : Int) :
    Mirrors id (PlainMachine.moveTo target) (onState (modify fun state => { state with pc := target })) :=
  onState_mirrors (.modify fun _ => rfl)

theorem skipIf_mirrors {condition : Prop} [Decidable condition] {flag : Bool} (same : condition ↔ flag = true) :
    Mirrors id (PlainMachine.skipIf condition) (skipIf flag) := by
  cases flag with
  | true =>
      rw [PlainMachine.skipIf, if_pos (same.mpr rfl)]
      exact onState_mirrors State.skip_mirrors
  | false =>
      rw [PlainMachine.skipIf, if_neg (fun holds => Bool.false_ne_true (same.mp holds))]
      exact .pure ()

end Machine

theorem PlainMachine.put_apply (register : Register) (value : Int) (machine : PlainMachine) :
    put register value machine =
      .ok () { machine with state := machine.state.withValue register.val value } := rfl

/-- That VF is cleared before the pixels are flipped shows in nothing: the flag is set afterwards. -/
theorem State.withValue_flipped (state : State) (register : Register) (first last : UInt8) (display : Display) :
    { state.withValue register first with display := display }.withValue register last =
      { state with display := display }.withValue register last := by
  simp [withValue]

theorem PlainMachine.draw_apply (machine : PlainMachine) (policy : DrawPolicy) (x y : Register)
    (sprite : List Int) (state : State) :
    (do
      put Register.flag 0
      let collided ← onState (PlainState.flipPixels
        (spritePixels policy (state.value x).toNat (state.value y).toNat sprite))
      put Register.flag (if collided then 1 else 0)) { machine with state := state.plain } =
      .ok () { machine with state := (state.drawn policy x y sprite).plain } := by
  have cleared : state.plain.withValue Register.flag.val 0 = (state.withValue Register.flag 0).plain :=
    (state.plain_withValue Register.flag 0).symm
  rw [Action.bind_apply, put_apply, cleared, spritePixels_eq]
  dsimp only
  rw [Action.bind_apply, onState, Action.within, State.flipPixels_plain]
  dsimp only
  rw [put_apply, flag_toNat, ← State.plain_withValue, State.withValue_flipped]
  rfl

/-- Drawing on plain integers: VF is cleared first and the pixels are flipped one by one. -/
theorem Machine.draw_mirrors (x y : Register) (rows : Fin 16) :
    Mirrors id (Instruction.draw x y rows).executePlain (Instruction.draw x y rows).execute := by
  intro machine
  have address : machine.plain.state.i = machine.state.i.toNat := rfl
  rw [Instruction.execute_draw, Instruction.executePlain, Action.bind_apply, Action.get_apply]
  dsimp only
  rw [Action.bind_apply, address, (onBus_mirrors (Bus.readBlock machine.state.i.toNat rows.val)) machine,
    onBus_apply, Bus.readBlock_apply]
  rcases machine.bus.block machine.state.i.toNat rows.val with ⟨accesses, problem | sprite⟩
  · rfl
  · have drawn := PlainMachine.draw_apply { machine.plain with bus := machine.bus.noting accesses }
      machine.drawPolicy x y sprite machine.state
    rw [← State.value_plain, ← State.value_plain] at drawn
    exact drawn

theorem toNat_add_emod (first second : UInt8) :
    ((first.toNat : Int) + second.toNat) % 256 = (first + second).toNat := by
  rw [UInt8.toNat_add]
  omega

theorem toNat_sub_emod (first second : UInt8) :
    ((first.toNat : Int) - second.toNat) % 256 = (first - second).toNat := by
  have small := second.toNat_lt
  rw [UInt8.toNat_sub]
  omega

theorem toNat_half (byte : UInt8) : (byte.toNat : Int) / (2 : Int) = ((byte >>> 1).toNat : Int) := by
  have half : (byte >>> 1).toNat = byte.toNat / 2 := UInt8.toNat_shiftRight byte 1
  omega

theorem toNat_double (byte : UInt8) : (byte.toNat : Int) * (2 : Int) % (256 : Int) = ((byte <<< 1).toNat : Int) := by
  have double : (byte <<< 1).toNat = byte.toNat <<< 1 % 2 ^ 8 := UInt8.toNat_shiftLeft byte 1
  rw [double, Nat.shiftLeft_eq]
  omega

theorem lowest_bit (byte : UInt8) : (byte.toNat : Int) % 2 = if byte.toNat.testBit 0 then 1 else 0 := by
  rw [Nat.testBit_zero]
  split <;> simp_all <;> omega

theorem highest_bit (byte : UInt8) :
    (byte.toNat : Int) / 128 % 2 = if byte.toNat.testBit 7 then 1 else 0 := by
  rw [Nat.testBit_eq_decide_div_mod_eq]
  split <;> simp_all <;> omega

theorem flag_of_iff {condition : Prop} [Decidable condition] {flag : Bool} (same : condition ↔ flag = true) :
    (if condition then (1 : Int) else 0) = if flag then 1 else 0 := by
  by_cases holds : condition
  · rw [if_pos holds, if_pos (same.mp holds)]
  · rw [if_neg holds, if_neg (fun set => holds (same.mpr set))]

theorem toNat_lor (first second : UInt8) :
    Int.lor first.toNat second.toNat = (first ||| second).toNat := by
  rw [UInt8.toNat_or]
  rfl

theorem toNat_land (first second : UInt8) :
    Int.land first.toNat second.toNat = (first &&& second).toNat := by
  rw [UInt8.toNat_and]
  rfl

theorem toNat_xor (first second : UInt8) :
    Int.xor first.toNat second.toNat = (first ^^^ second).toNat := by
  rw [UInt8.toNat_xor]
  rfl

theorem carry_iff (first second : UInt8) :
    (255 : Int) < (first.toNat : Int) + second.toNat ↔
      decide (255 < first.toNat + second.toNat) = true := by
  rw [decide_eq_true_eq]
  omega

theorem toNat_beq_iff (first second : UInt8) :
    (first.toNat : Int) = second.toNat ↔ (first == second) = true := by
  rw [Int.ofNat_inj, UInt8.toNat_inj, beq_iff_eq]

theorem toNat_bne_iff (first second : UInt8) :
    (first.toNat : Int) ≠ second.toNat ↔ (first != second) = true := by
  rw [Ne, toNat_beq_iff, bne, Bool.not_eq_true', Bool.not_eq_true]

theorem toNat_le_iff (first second : UInt8) :
    (first.toNat : Int) ≤ second.toNat ↔ decide (first ≤ second) = true := by
  rw [Int.ofNat_le, decide_eq_true_eq, UInt8.le_iff_toNat_le]

open Machine in
/-- Every instruction on plain integers does what the instruction does. -/
theorem Instruction.executePlain_mirrors (instruction : Instruction) :
    Mirrors id instruction.executePlain instruction.execute := by
  intro machine
  have value (register : Register) :
      machine.plain.state.value register.val = (machine.state.value register).toNat :=
    machine.state.value_plain register
  by_cases sprite : ∃ x y rows, instruction = draw x y rows
  · obtain ⟨x, y, rows, rfl⟩ := sprite
    exact draw_mirrors x y rows machine
  rw [executePlain, execute, Action.bind_apply, Action.bind_apply, Action.get_apply, Action.get_apply]
  dsimp only
  cases instruction with
  | draw x y rows => exact absurd ⟨x, y, rows, rfl⟩ sprite
  | clear => exact onState_mirrors State.clearDisplay_mirrors machine
  | ret => exact (onState_mirrors State.pop_mirrors).bind (fun address => moveTo_mirrors address.toNat) machine
  | jump target => exact onState_mirrors (State.jump_mirrors target.val) machine
  | call target =>
      exact (onState_mirrors (State.push_mirrors machine.state.pc)).bind
        (fun _ => moveTo_mirrors target.val) machine
  | skipIfByte x byte => exact skipIf_mirrors (by rw [value, toNat_beq_iff]) machine
  | skipUnlessByte x byte => exact skipIf_mirrors (by rw [value, toNat_bne_iff]) machine
  | skipIfEqual x y => exact skipIf_mirrors (by rw [value, value, toNat_beq_iff]) machine
  | skipUnlessEqual x y => exact skipIf_mirrors (by rw [value, value, toNat_bne_iff]) machine
  | loadByte x byte => exact put_mirrors x rfl machine
  | addByte x byte => exact put_mirrors x (by rw [value, toNat_add_emod]) machine
  | copy x y => exact put_mirrors x (value y) machine
  | bitOr x y => exact put_mirrors x (by rw [value, value, toNat_lor]) machine
  | bitAnd x y => exact put_mirrors x (by rw [value, value, toNat_land]) machine
  | bitXor x y => exact put_mirrors x (by rw [value, value, toNat_xor]) machine
  | add x y =>
      exact putWithFlag_mirrors x (by rw [value, value, toNat_add_emod])
        (flag_of_iff (by rw [value, value, carry_iff])) machine
  | subtract x y =>
      exact putWithFlag_mirrors x (by rw [value, value, toNat_sub_emod])
        (flag_of_iff (by rw [value, value, toNat_le_iff])) machine
  | subtractFrom x y =>
      exact putWithFlag_mirrors x (by rw [value, value, toNat_sub_emod])
        (flag_of_iff (by rw [value, value, toNat_le_iff])) machine
  | shiftRight x =>
      exact putWithFlag_mirrors x (by rw [value, toNat_half]) (by rw [value, lowest_bit]) machine
  | shiftLeft x =>
      exact putWithFlag_mirrors x (by rw [value, toNat_double]) (by rw [value, highest_bit]) machine
  | loadIndex address => exact onState_mirrors (State.setIndex_mirrors address.val) machine
  | jumpOffset address =>
      rw [value]
      exact Action.Mirrors.ite (onState_mirrors (State.jump_mirrors _)) (.fault _) machine
  | random x mask =>
      have stored (byte : UInt8) :
          Mirrors id (PlainMachine.put x (Int.land byte.toNat mask.toNat)) (put x (byte &&& mask)) :=
        put_mirrors x (toNat_land byte mask)
      exact drawByte_mirrors.bind stored machine

theorem Operation.executePlain_mirrors (operation : Operation) :
    Machine.Mirrors id operation.executePlain operation.execute := by
  rw [executePlain, execute]
  cases operation.instruction? with
  | some instruction => exact instruction.executePlain_mirrors
  | none => exact .fault _

/-- Running a word on plain integers is running it on the machine. -/
theorem Machine.execute_mirrors (word : Int) : Mirrors id (PlainMachine.execute word) (execute word) := by
  rw [PlainMachine.execute, execute]
  cases Operation.decode word with
  | error problem => exact fun _ => rfl
  | ok operation => exact operation.executePlain_mirrors.bind fun _ => .pure operation

end Mirroring

end Chip8
