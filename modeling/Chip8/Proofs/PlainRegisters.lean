import Mathlib.Data.Int.Bitwise
import Mathlib.Data.List.Basic
import Chip8.Proofs.ActionLaws

/-!
The registers as plain integers. No type keeps these in range and the depth of the call stack is a number
of its own, so that every bound is left to the guards of the operations. The operations are written out
once more on them, shown to keep the bounds, and shown to do what the operations on the registers do.
-/

namespace Chip8

/-- The registers as integers of any size, in lists of any length. -/
structure PlainState where
  pc : Int := programStart
  v : List Int := List.replicate 16 0
  i : Int := 0
  delayTimer : Int := 0
  soundTimer : Int := 0
  /-- Return addresses, the innermost call first. -/
  stack : List Int := []
  sp : Int := 0
  stackLimit : Int := 16
  /-- The pixels row by row. -/
  pixels : List Int := List.replicate 2048 0

namespace PlainState

def value (state : PlainState) (register : Nat) : Int := state.v.getD register 0

def withValue (register : Nat) (value : Int) (state : PlainState) : PlainState :=
  { state with v := state.v.set register value }

def placeOf (index : Int) : Action PlainState Nat :=
  if 0 ≤ index ∧ index < 16 then pure index.toNat
  else Action.misuse (.noSuchRegister index)

def readRegister (index : Int) : Action PlainState Int := do
  let place ← placeOf index
  return (← get).value place

def writeRegister (index value : Int) : Action PlainState Unit := do
  let place ← placeOf index
  if 0 ≤ value ∧ value ≤ 0xFF then modify (withValue place value)
  else Action.misuse (.registerOutOfRange value)

def setIndex (value : Int) : Action PlainState Unit :=
  if 0 ≤ value ∧ value ≤ 0xFFFF then modify fun state => { state with i := value }
  else Action.misuse (.indexOutOfRange value)

def jump (target : Int) : Action PlainState Unit :=
  if 0 ≤ target ∧ target < memorySize then modify fun state => { state with pc := target }
  else Action.fault (.outOfBounds (.target target))

def skip : Action PlainState Unit := do
  jump ((← get).pc + 2)

/-- Pushes the lowest sixteen bits of a return address and counts the entries anew. -/
def push (address : Int) : Action PlainState Unit := do
  let state ← get
  if state.stackLimit ≤ state.stack.length then
    Action.fault (.stackOverflow state.stackLimit)
  else
    set { state with stack := address % 65536 :: state.stack, sp := state.stack.length + 1 }

/-- Takes the innermost return address off the stack and counts the entries anew. -/
def pop : Action PlainState Int := do
  let state ← get
  match state.stack with
  | [] => Action.fault .stackUnderflow
  | address :: rest =>
      set { state with stack := rest, sp := rest.length }
      return address

def setDelayTimer (value : Int) : Action PlainState Unit :=
  if 0 ≤ value ∧ value ≤ 0xFF then modify fun state => { state with delayTimer := value }
  else Action.misuse (.timerOutOfRange value)

def setSoundTimer (value : Int) : Action PlainState Unit :=
  if 0 ≤ value ∧ value ≤ 0xFF then modify fun state => { state with soundTimer := value }
  else Action.misuse (.timerOutOfRange value)

/-- One timer step: a timer above zero loses one. -/
def ticked (state : PlainState) : PlainState :=
  { state with
    delayTimer := if 0 < state.delayTimer then state.delayTimer - 1 else state.delayTimer
    soundTimer := if 0 < state.soundTimer then state.soundTimer - 1 else state.soundTimer }

/-- A pixel, 1 for lit and 0 for dark. -/
def pixel (state : PlainState) (place : Nat) : Int := state.pixels.getD place 0

def pixelOf (x y : Int) : Action PlainState Nat :=
  if (0 ≤ x ∧ x < 64) ∧ 0 ≤ y ∧ y < 32 then pure (y * 64 + x).toNat
  else Action.fault (.outOfBounds (.pixel x y))

def readPixel (x y : Int) : Action PlainState Int := do
  let place ← pixelOf x y
  return (← get).pixel place

/-- The state with one pixel combined with 1 by an exclusive or. -/
def withFlipped (place : Nat) (state : PlainState) : PlainState :=
  { state with pixels := state.pixels.set place (Int.xor (state.pixel place) 1) }

/-- Flips a pixel and says whether it was lit. -/
def flipPixel (x y : Int) : Action PlainState Bool := do
  let place ← pixelOf x y
  let state ← get
  set (state.withFlipped place)
  return state.pixel place == 1

def clearDisplay : Action PlainState Unit :=
  modify fun state => { state with pixels := List.replicate state.pixels.length 0 }

/-- The bounds of all registers, with a given limit of the call stack. -/
structure WellFormed (limit : Int) (state : PlainState) : Prop where
  registers : state.v.length = 16 ∧ ∀ value ∈ state.v, 0 ≤ value ∧ value ≤ 0xFF
  index : 0 ≤ state.i ∧ state.i ≤ 0xFFFF
  pc : 0 ≤ state.pc ∧ state.pc ≤ 0xFFFF
  entries : ∀ address ∈ state.stack, 0 ≤ address ∧ address ≤ 0xFFFF
  timers : (0 ≤ state.delayTimer ∧ state.delayTimer ≤ 0xFF) ∧
    0 ≤ state.soundTimer ∧ state.soundTimer ≤ 0xFF
  depth : state.sp = state.stack.length ∧ state.sp ≤ limit
  stackLimit : state.stackLimit = limit
  display : state.pixels.length = 2048 ∧ ∀ pixel ∈ state.pixels, pixel = 0 ∨ pixel = 1

/-- An operation that keeps the bounds, with a promise for its value, and has no effect where it is refused. -/
abbrev Guards {α : Type} (limit : Int) (promise : α → Prop) (operation : Action PlainState α) : Prop :=
  operation.Keeps (WellFormed limit) Eq promise

section Bounds

variable {limit : Int} {state : PlainState}

theorem WellFormed.value (well : state.WellFormed limit) (register : Nat) :
    0 ≤ state.value register ∧ state.value register ≤ 0xFF := by
  rw [PlainState.value, List.getD_eq_getElem?_getD]
  cases found : state.v[register]? with
  | none => decide
  | some value => exact well.registers.2 value (List.mem_of_getElem? found)

theorem WellFormed.withValue (well : state.WellFormed limit) (register : Nat) {value : Int}
    (inside : 0 ≤ value ∧ value ≤ 0xFF) : (state.withValue register value).WellFormed limit := by
  refine { well with registers := ⟨(List.length_set ..).trans well.registers.1, ?_⟩ }
  intro stored member
  rcases List.mem_or_eq_of_mem_set member with old | rfl
  · exact well.registers.2 stored old
  · exact inside

theorem WellFormed.pixel (well : state.WellFormed limit) (place : Nat) :
    state.pixel place = 0 ∨ state.pixel place = 1 := by
  rw [PlainState.pixel, List.getD_eq_getElem?_getD]
  cases found : state.pixels[place]? with
  | none => exact .inl rfl
  | some pixel => exact well.display.2 pixel (List.mem_of_getElem? found)

theorem WellFormed.withFlipped (well : state.WellFormed limit) (place : Nat) :
    (state.withFlipped place).WellFormed limit := by
  refine { well with display := ⟨(List.length_set ..).trans well.display.1, ?_⟩ }
  intro pixel member
  rcases List.mem_or_eq_of_mem_set member with old | rfl
  · exact well.display.2 pixel old
  · rcases well.pixel place with dark | lit
    · rw [dark]
      exact .inr rfl
    · rw [lit]
      exact .inl rfl

theorem placeOf_guards (index : Int) : Guards limit (fun _ => True) (placeOf index) :=
  .ite (fun _ => (Action.Completes.pure trivial).keeps) fun _ => .misuse Eq.refl _

theorem readRegister_guards (index : Int) :
    Guards limit (fun value => 0 ≤ value ∧ value ≤ 0xFF) (readRegister index) :=
  (placeOf_guards index).bind fun place _ _ well => .done well (well.value place)

theorem writeRegister_guards (index value : Int) :
    Guards limit (fun _ => True) (writeRegister index value) := by
  rw [writeRegister, placeOf]
  split
  · rw [pure_bind]
    exact .ite (fun inside => (Action.Completes.modify fun _ well => well.withValue _ inside).keeps)
      fun _ => .misuse Eq.refl _
  · exact fun _ _ => .refused rfl

theorem setIndex_guards (value : Int) : Guards limit (fun _ => True) (setIndex value) :=
  .ite (fun inside => (Action.Completes.modify fun _ well => { well with index := inside }).keeps)
    fun _ => .misuse Eq.refl _

theorem jump_guards (target : Int) : Guards limit (fun _ => True) (jump target) := by
  refine .ite (fun inside => ?_) fun _ => .fault Eq.refl _
  have small : 0 ≤ target ∧ target ≤ 0xFFFF := by
    rw [memorySize] at inside
    omega
  exact (Action.Completes.modify fun _ well => { well with pc := small }).keeps

theorem skip_guards : Guards limit (fun _ => True) skip :=
  fun state well => jump_guards (state.pc + 2) state well

theorem push_guards (address : Int) : Guards limit (fun _ => True) (push address) := by
  intro state well
  rw [push, Action.bind_apply, Action.get_apply]
  dsimp only
  rw [Action.ite_apply]
  split
  · exact .refused rfl
  · rename_i room
    rw [well.stackLimit] at room
    refine .done { well with entries := ?_, depth := ?_ } trivial
    · intro entry member
      rcases List.mem_cons.mp member with rfl | old
      · omega
      · exact well.entries entry old
    · simp only [List.length_cons]
      omega

theorem pop_guards : Guards limit (fun address => 0 ≤ address ∧ address ≤ 0xFFFF) pop := by
  intro state well
  rw [pop, Action.bind_apply, Action.get_apply]
  dsimp only
  cases stack : state.stack with
  | nil => exact .refused rfl
  | cons address rest =>
      have depth := well.depth
      have entries := well.entries
      rw [stack] at depth entries
      rw [List.length_cons] at depth
      refine .done { well with entries := ?_, depth := ⟨rfl, ?_⟩ } (entries address List.mem_cons_self)
      · exact fun entry member => entries entry (List.mem_cons_of_mem _ member)
      · dsimp only
        omega

theorem setDelayTimer_guards (value : Int) : Guards limit (fun _ => True) (setDelayTimer value) :=
  .ite (fun inside => (Action.Completes.modify fun _ well =>
      { well with timers := ⟨inside, well.timers.2⟩ }).keeps)
    fun _ => .misuse Eq.refl _

theorem setSoundTimer_guards (value : Int) : Guards limit (fun _ => True) (setSoundTimer value) :=
  .ite (fun inside => (Action.Completes.modify fun _ well =>
      { well with timers := ⟨well.timers.1, inside⟩ }).keeps)
    fun _ => .misuse Eq.refl _

theorem tick_completes :
    Action.Completes (WellFormed limit) (fun _ => True) (modify ticked : Action PlainState Unit) := by
  refine .modify fun state well => { well with timers := ?_ }
  have timers := well.timers
  simp only [ticked]
  omega

theorem pixelOf_guards (x y : Int) : Guards limit (fun _ => True) (pixelOf x y) :=
  .ite (fun _ => (Action.Completes.pure trivial).keeps) fun _ => .fault Eq.refl _

theorem readPixel_guards (x y : Int) :
    Guards limit (fun pixel => pixel = 0 ∨ pixel = 1) (readPixel x y) :=
  (pixelOf_guards x y).bind fun place _ _ well => .done well (well.pixel place)

theorem flipPixel_guards (x y : Int) : Guards limit (fun _ => True) (flipPixel x y) :=
  (pixelOf_guards x y).bind fun place _ _ well => .done (well.withFlipped place) trivial

theorem flipPixel_completes {x y : Int} (inside : (0 ≤ x ∧ x < 64) ∧ 0 ≤ y ∧ y < 32) :
    Action.Completes (WellFormed limit) (fun _ => True) (flipPixel x y) := by
  rw [flipPixel, pixelOf, if_pos inside, pure_bind]
  exact fun _ well => .done (well.withFlipped _) trivial

theorem clearDisplay_completes :
    Action.Completes (WellFormed limit) (fun _ => True) clearDisplay := by
  refine .modify fun state well => { well with display := ⟨?_, ?_⟩ }
  · exact List.length_replicate.trans well.display.1
  · exact fun pixel member => .inl (List.eq_of_mem_replicate member)

end Bounds

end PlainState

namespace State

def plain (state : State) : PlainState where
  pc := state.pc
  v := state.v.toList.map fun byte => (byte.toNat : Int)
  i := state.i.toNat
  delayTimer := state.delayTimer.toNat
  soundTimer := state.soundTimer.toNat
  stack := state.stack.map fun address => (address.toNat : Int)
  sp := state.sp
  stackLimit := state.stackLimit
  pixels := state.display.bytes.map fun byte => (byte.toNat : Int)

/-- The plain integers tell all states apart. -/
theorem plain_injective : Function.Injective plain := by
  intro first second same
  have byte : Function.Injective fun byte : UInt8 => (byte.toNat : Int) :=
    fun _ _ equal => UInt8.toNat_inj.mp (Int.ofNat_inj.mp equal)
  have word : Function.Injective fun word : UInt16 => (word.toNat : Int) :=
    fun _ _ equal => UInt16.toNat_inj.mp (Int.ofNat_inj.mp equal)
  have pixel : Function.Injective fun lit : Bool => if lit then (1 : UInt8) else 0 := by
    rintro (_ | _) (_ | _) <;> decide
  obtain ⟨pc, v, i, delayTimer, soundTimer, stack, stackLimit, ⟨pixels⟩⟩ := first
  obtain ⟨pc', v', i', delayTimer', soundTimer', stack', stackLimit', ⟨pixels'⟩⟩ := second
  simp only [plain, Display.bytes, PlainState.mk.injEq] at same
  obtain ⟨rfl, registers, index, delay, sound, entries, _, rfl, shown⟩ := same
  obtain rfl := Vector.toList_inj.mp (List.map_injective_iff.mpr byte registers)
  obtain rfl := word index
  obtain rfl := byte delay
  obtain rfl := byte sound
  obtain rfl := List.map_injective_iff.mpr word entries
  obtain rfl := Vector.toList_inj.mp
    (List.map_injective_iff.mpr pixel (List.map_injective_iff.mpr byte shown))
  rfl

/-- An operation on plain integers does what the one on the registers does. -/
abbrev Mirrors {α β : Type} (number : α → β) (image : Action PlainState β) (operation : Action State α) : Prop :=
  Action.Mirrors State.plain number image operation

variable (state : State)

theorem value_plain (register : Register) :
    state.plain.value register.val = (state.value register).toNat := by
  simp [PlainState.value, plain, value]

theorem plain_withValue (register : Register) (byte : UInt8) :
    (state.withValue register byte).plain = state.plain.withValue register.val byte.toNat := by
  simp only [PlainState.withValue, plain, withValue, sp, ← List.map_set, Vector.toList_set]

theorem pixel_plain (point : Point) :
    state.plain.pixel point.number = if state.display.lit point then 1 else 0 := by
  simp only [PlainState.pixel, plain, Display.bytes, List.map_map]
  simp only [List.getD_eq_getElem?_getD, List.getElem?_map, Vector.getElem?_toList]
  cases lit : state.display.lit point <;> simp_all [Display.lit]

theorem plain_flip (point : Point) :
    { state with display := state.display.flip point }.plain = state.plain.withFlipped point.number := by
  rw [PlainState.withFlipped, pixel_plain]
  have flipped : Int.xor (if state.display.lit point then 1 else 0) 1 =
      (((if !state.display.lit point then 1 else 0 : UInt8).toNat : Nat) : Int) := by
    cases state.display.lit point <;> rfl
  rw [flipped]
  simp only [plain, Display.bytes, Display.flip, sp, Vector.toList_set, List.map_set]

theorem placeOf_mirrors (index : Int) :
    Mirrors (fun register => register.val) (PlainState.placeOf index) (registerOf index) :=
  .dite (fun _ => .pure _) (.misuse _)

theorem pixelOf_mirrors (x y : Int) :
    Mirrors (fun point => point.number.val) (PlainState.pixelOf x y) (pointOf x y) := by
  refine .dite (fun inside => ?_) (.fault _)
  let point : Point := ⟨⟨x.toNat, by omega⟩, ⟨y.toNat, by omega⟩⟩
  have place : (y * 64 + x).toNat = point.number.val := by
    simp only [Point.number, point]
    omega
  rw [place]
  exact .pure point

theorem readRegister_mirrors (index : Int) :
    Mirrors (fun byte => (byte.toNat : Int)) (PlainState.readRegister index) (readRegister index) :=
  (placeOf_mirrors index).bind fun register state => by
    simp [Action.viewed, value_plain]

theorem writeRegister_mirrors (index value : Int) :
    Mirrors id (PlainState.writeRegister index value) (writeRegister index value) := by
  rw [PlainState.writeRegister, writeRegister]
  refine (placeOf_mirrors index).bind fun register => .dite (fun inside => .modify fun state => ?_) (.misuse _)
  rw [plain_withValue, toNat_byteOf]

theorem setIndex_mirrors (value : Int) : Mirrors id (PlainState.setIndex value) (setIndex value) := by
  refine .dite (fun inside => .modify fun state => ?_) (.misuse _)
  simp only [plain, toNat_wordOf, sp]

theorem jump_mirrors (target : Int) : Mirrors id (PlainState.jump target) (jump target) := by
  rw [PlainState.jump, jump]
  exact .dite (fun _ => .modify fun _ => rfl) (.fault _)

theorem skip_mirrors : Mirrors id PlainState.skip skip :=
  fun state => jump_mirrors (state.pc + 2) state

theorem push_mirrors (address : Int) : Mirrors id (PlainState.push address) (push address) := by
  intro state
  simp only [PlainState.push, push, Action.bind_apply, Action.get_apply, Action.ite_apply]
  have depth : state.plain.stack.length = state.stack.length := List.length_map ..
  have limit : state.plain.stackLimit = state.stackLimit := rfl
  rw [depth, limit]
  split
  · rw [if_neg (by omega)]
    rfl
  · rw [if_pos (by omega)]
    simp only [Action.set_apply, Action.viewed, plain, sp, List.map_cons, toNat_wordOf, List.length_cons,
      Int.natCast_succ, id]

theorem pop_mirrors : Mirrors (fun address => (address.toNat : Int)) PlainState.pop pop := by
  intro state
  rw [pop_apply, PlainState.pop, Action.bind_apply, Action.get_apply]
  cases stack : state.stack with
  | nil => simp [plain, stack, Action.viewed]
  | cons address rest => simp [plain, stack, Action.viewed, sp]

theorem setDelayTimer_mirrors (value : Int) :
    Mirrors id (PlainState.setDelayTimer value) (setDelayTimer value) := by
  refine .dite (fun inside => .modify fun state => ?_) (.misuse _)
  simp only [plain, toNat_byteOf, sp]

theorem setSoundTimer_mirrors (value : Int) :
    Mirrors id (PlainState.setSoundTimer value) (setSoundTimer value) := by
  refine .dite (fun inside => .modify fun state => ?_) (.misuse _)
  simp only [plain, toNat_byteOf, sp]

theorem ticked_byte (byte : UInt8) :
    ((if byte = 0 then 0 else byte - 1).toNat : Int) =
      if (0 : Int) < byte.toNat then (byte.toNat : Int) - 1 else byte.toNat := by
  by_cases zero : byte = 0
  · subst zero
    rfl
  · have positive : 0 < byte.toNat := Nat.pos_of_ne_zero fun none => zero (UInt8.toNat_inj.mp none)
    have one : (1 : UInt8).toNat = 1 := rfl
    rw [if_neg zero, if_pos (by omega), UInt8.toNat_sub_of_le byte 1 positive, one]
    omega

theorem tick_mirrors :
    Mirrors id (modify PlainState.ticked : Action PlainState Unit) (modify ticked : Action State Unit) := by
  refine .modify fun state => ?_
  simp only [PlainState.ticked, ticked, plain, sp, ticked_byte]
  rfl

theorem readPixel_mirrors (x y : Int) :
    Mirrors (fun lit : Bool => if lit then 1 else 0) (PlainState.readPixel x y) (readPixel x y) :=
  (pixelOf_mirrors x y).bind fun point state => by
    simp [Action.viewed, pixel_plain]

theorem flipPixel_mirrors (x y : Int) : Mirrors id (PlainState.flipPixel x y) (flipPixel x y) :=
  (pixelOf_mirrors x y).bind fun point state => by
    cases lit : state.display.lit point <;> simp [Action.viewed, pixel_plain, plain_flip, lit]

theorem plain_blank : Display.blank.bytes.map (fun byte => (byte.toNat : Int)) = List.replicate 2048 0 := by
  simp only [Display.bytes, Display.blank, Vector.toList_replicate, List.map_replicate]
  rfl

theorem clearDisplay_mirrors : Mirrors id PlainState.clearDisplay clearDisplay := by
  refine .modify fun state => ?_
  have length : state.plain.pixels.length = 2048 := by
    rw [plain, List.length_map, state.display.bytes_pixels.1]
  rw [length, ← plain_blank]
  rfl

theorem plain_fresh (start limit : Int) :
    (Machine.freshState start limit).plain = { pc := start, stackLimit := limit } := by
  simp only [Machine.freshState, plain, plain_blank]
  rfl

theorem fresh_wellFormed {start limit : Int} (room : 0 ≤ limit) (inside : 0 ≤ start ∧ start ≤ 0xFFFF) :
    (Machine.freshState start limit).plain.WellFormed limit := by
  rw [plain_fresh]
  exact {
    registers := ⟨List.length_replicate, fun value member => by
      rw [List.eq_of_mem_replicate member]
      decide⟩
    index := by simp
    pc := inside
    entries := fun _ member => nomatch member
    timers := by simp
    depth := ⟨rfl, room⟩
    stackLimit := rfl
    display := ⟨List.length_replicate, fun _ member => .inl (List.eq_of_mem_replicate member)⟩ }

end State

end Chip8
