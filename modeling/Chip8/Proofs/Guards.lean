import Chip8.Proofs.PlainInstructions

/-!
Every operation on the registers guards their bounds. Whatever is done to a machine, by the operations
themselves or by instructions that pass them by, the registers are those of the machine on plain integers;
there nothing but the guards keeps them well formed, and what is refused leaves all of them as they were.
-/

namespace Chip8

/-- The operations on the registers that are open to the outside. -/
inductive StateCall where
  | readRegister (index : Int)
  | writeRegister (index value : Int)
  | setIndex (value : Int)
  | jump (target : Int)
  | skip
  | push (address : Int)
  | pop
  | setDelayTimer (value : Int)
  | setSoundTimer (value : Int)
  | tick
  | readPixel (x y : Int)
  | flipPixel (x y : Int)
  | clearDisplay

namespace StateCall

def perform : StateCall → Action State Unit
  | readRegister index => discard (State.readRegister index)
  | writeRegister index value => State.writeRegister index value
  | setIndex value => State.setIndex value
  | jump target => State.jump target
  | skip => State.skip
  | push address => State.push address
  | pop => discard State.pop
  | setDelayTimer value => State.setDelayTimer value
  | setSoundTimer value => State.setSoundTimer value
  | tick => modify State.ticked
  | readPixel x y => discard (State.readPixel x y)
  | flipPixel x y => discard (State.flipPixel x y)
  | clearDisplay => State.clearDisplay

def performPlain : StateCall → Action PlainState Unit
  | readRegister index => discard (PlainState.readRegister index)
  | writeRegister index value => PlainState.writeRegister index value
  | setIndex value => PlainState.setIndex value
  | jump target => PlainState.jump target
  | skip => PlainState.skip
  | push address => PlainState.push address
  | pop => discard PlainState.pop
  | setDelayTimer value => PlainState.setDelayTimer value
  | setSoundTimer value => PlainState.setSoundTimer value
  | tick => modify PlainState.ticked
  | readPixel x y => discard (PlainState.readPixel x y)
  | flipPixel x y => discard (PlainState.flipPixel x y)
  | clearDisplay => PlainState.clearDisplay

theorem performPlain_guards (limit : Int) (call : StateCall) :
    PlainState.Guards limit (fun _ => True) call.performPlain := by
  cases call with
  | readRegister index => exact (PlainState.readRegister_guards index).discard
  | writeRegister index value => exact PlainState.writeRegister_guards index value
  | setIndex value => exact PlainState.setIndex_guards value
  | jump target => exact PlainState.jump_guards target
  | skip => exact PlainState.skip_guards
  | push address => exact PlainState.push_guards address
  | pop => exact PlainState.pop_guards.discard
  | setDelayTimer value => exact PlainState.setDelayTimer_guards value
  | setSoundTimer value => exact PlainState.setSoundTimer_guards value
  | tick => exact PlainState.tick_completes.keeps
  | readPixel x y => exact (PlainState.readPixel_guards x y).discard
  | flipPixel x y => exact (PlainState.flipPixel_guards x y).discard
  | clearDisplay => exact PlainState.clearDisplay_completes.keeps

theorem perform_mirrors (call : StateCall) : State.Mirrors id call.performPlain call.perform := by
  cases call with
  | readRegister index => exact (State.readRegister_mirrors index).discard
  | writeRegister index value => exact State.writeRegister_mirrors index value
  | setIndex value => exact State.setIndex_mirrors value
  | jump target => exact State.jump_mirrors target
  | skip => exact State.skip_mirrors
  | push address => exact State.push_mirrors address
  | pop => exact State.pop_mirrors.discard
  | setDelayTimer value => exact State.setDelayTimer_mirrors value
  | setSoundTimer value => exact State.setSoundTimer_mirrors value
  | tick => exact State.tick_mirrors
  | readPixel x y => exact (State.readPixel_mirrors x y).discard
  | flipPixel x y => exact (State.flipPixel_mirrors x y).discard
  | clearDisplay => exact State.clearDisplay_mirrors

/-- What a completed call makes of the registers. Arguments are stored as they are; only a return address is
cut to sixteen bits. -/
def effect (call : StateCall) (state : PlainState) : PlainState :=
  match call with
  | readRegister _ | readPixel _ _ => state
  | writeRegister index value => state.withValue index.toNat value
  | setIndex value => { state with i := value }
  | jump target => { state with pc := target }
  | skip => { state with pc := state.pc + 2 }
  | push address =>
      { state with stack := address % 65536 :: state.stack, sp := state.stack.length + 1 }
  | pop => { state with stack := state.stack.tail, sp := state.stack.tail.length }
  | setDelayTimer value => { state with delayTimer := value }
  | setSoundTimer value => { state with soundTimer := value }
  | tick => state.ticked
  | flipPixel x y => state.withFlipped (y * 64 + x).toNat
  | clearDisplay => { state with pixels := List.replicate state.pixels.length 0 }

theorem effect_of_performPlain {call : StateCall} {state after : PlainState}
    (ran : call.performPlain state = .ok () after) : after = call.effect state := by
  cases call with
  | setIndex | jump | setDelayTimer | setSoundTimer =>
      simp only [performPlain, PlainState.setIndex, PlainState.jump, PlainState.setDelayTimer,
        PlainState.setSoundTimer, Action.ite_apply] at ran
      split at ran <;> cases ran
      rfl
  | skip =>
      simp only [performPlain, PlainState.skip, PlainState.jump, Action.bind_apply, Action.get_apply,
        Action.ite_apply] at ran
      split at ran <;> cases ran
      rfl
  | readRegister | readPixel | flipPixel =>
      simp only [performPlain, PlainState.readRegister, PlainState.readPixel, PlainState.flipPixel,
        PlainState.placeOf, PlainState.pixelOf] at ran
      split at ran <;> cases ran
      rfl
  | writeRegister index value =>
      rw [performPlain, PlainState.writeRegister, PlainState.placeOf] at ran
      split at ran
      · rw [pure_bind, Action.ite_apply] at ran
        split at ran <;> cases ran
        rfl
      · cases ran
  | push address =>
      simp only [performPlain, PlainState.push, Action.bind_apply, Action.get_apply, Action.ite_apply] at ran
      split at ran <;> cases ran
      rfl
  | pop =>
      rw [performPlain, Action.discard_apply, PlainState.pop, Action.bind_apply, Action.get_apply] at ran
      cases stack : state.stack <;> simp only [stack] at ran <;> cases ran
      rw [effect, stack]
      rfl
  | tick | clearDisplay =>
      cases ran
      rfl

/-- A completed call has exactly its effect on the registers. -/
theorem effect_of_perform {call : StateCall} {state after : State}
    (ran : call.perform state = .ok () after) : after.plain = call.effect state.plain := by
  apply effect_of_performPlain
  rw [call.perform_mirrors, ran]
  rfl

end StateCall

inductive MachineCall where
  | onState (call : StateCall)
  | execute (word : Int)

namespace MachineCall

def perform : MachineCall → Action Machine Unit
  | onState call => Machine.onState call.perform
  | execute word => discard (Machine.execute word)

def performPlain : MachineCall → Action PlainMachine Unit
  | onState call => PlainMachine.onState call.performPlain
  | execute word => discard (PlainMachine.execute word)

theorem performPlain_guards (limit : Int) (call : MachineCall) :
    PlainMachine.Guards limit (fun _ => True) call.performPlain := by
  cases call with
  | onState call => exact PlainMachine.onState_guards (call.performPlain_guards limit)
  | execute word => exact (PlainMachine.execute_guards word).discard

theorem perform_mirrors (call : MachineCall) : Machine.Mirrors id call.performPlain call.perform := by
  cases call with
  | onState call => exact Machine.onState_mirrors call.perform_mirrors
  | execute word => exact (Machine.execute_mirrors word).discard

/-- The machine after some calls, whether they were completed or refused. -/
def performAll (machine : Machine) (calls : List MachineCall) : Machine :=
  calls.foldl (fun machine call => call.perform.left machine) machine

def performAllPlain (machine : PlainMachine) (calls : List MachineCall) : PlainMachine :=
  calls.foldl (fun machine call => call.performPlain.left machine) machine

theorem left_plain (call : MachineCall) (machine : Machine) :
    (call.perform.left machine).plain = call.performPlain.left machine.plain := by
  rw [Action.left, Action.left, call.perform_mirrors machine]
  cases call.perform machine <;> rfl

theorem performAll_plain (machine : Machine) (calls : List MachineCall) :
    (performAll machine calls).plain = performAllPlain machine.plain calls := by
  induction calls generalizing machine with
  | nil => rfl
  | cons call rest ih =>
      rw [performAll, performAllPlain, List.foldl_cons, List.foldl_cons, ← left_plain]
      exact ih _

theorem left_wellFormed (call : MachineCall) {machine : PlainMachine} {limit : Int}
    (well : machine.state.WellFormed limit) :
    (call.performPlain.left machine).state.WellFormed limit := by
  have kept := call.performPlain_guards limit machine well
  rw [Action.left]
  generalize call.performPlain machine = result at kept ⊢
  cases kept with
  | done after _ => exact after
  | refused unchanged =>
      obtain ⟨accesses, rfl⟩ := unchanged
      exact well

theorem performAllPlain_wellFormed (calls : List MachineCall) {machine : PlainMachine} {limit : Int}
    (well : machine.state.WellFormed limit) : (performAllPlain machine calls).state.WellFormed limit := by
  induction calls generalizing machine with
  | nil => exact well
  | cons call rest ih => exact ih (call.left_wellFormed well)

/-- A call that is refused leaves the machine as it was, except that reads stay noted on the bus. -/
theorem unchanged_of_refused {call : MachineCall} {machine after : Machine} {problem : Problem} {limit : Int}
    (well : machine.plain.state.WellFormed limit) (refused : call.perform machine = .error problem after) :
    ∃ accesses, after = { machine with bus := machine.bus.noting accesses } := by
  cases call with
  | execute word =>
      rw [perform, Action.discard_apply, Machine.execute_apply] at refused
      cases decoded : Operation.decode word with
      | error cause =>
          rw [decoded] at refused
          cases refused
          exact ⟨[], by rw [Bus.noting_nil]⟩
      | ok operation =>
          simp only [decoded] at refused
          cases ran : operation.execute machine with
          | ok _ _ => simp only [ran, reduceCtorEq] at refused
          | error cause last =>
              simp only [ran] at refused
              cases refused
              obtain ⟨_, accesses, _, same⟩ := Operation.execute_error ran
              exact ⟨accesses, same⟩
  | onState call =>
      rw [perform, Machine.onState_apply] at refused
      cases ran : call.perform machine.state with
      | ok _ _ => simp only [ran, reduceCtorEq] at refused
      | error cause state =>
          simp only [ran] at refused
          cases refused
          have kept := call.performPlain_guards limit machine.state.plain well
          rw [call.perform_mirrors, ran] at kept
          cases kept with
          | refused same =>
              rw [State.plain_injective same]
              exact ⟨[], by rw [Bus.noting_nil]⟩

/-- After any calls the registers are those of the machine on plain integers and well formed there. In whatever
state this is, a call does the same on plain integers, and if it is refused, then nothing changes at all,
except that reads stay noted on the bus. -/
theorem calls_keep_well_formed (machine : Machine) (start limit : Int) (room : 1 ≤ limit)
    (inside : 0 ≤ start ∧ start ≤ 0xFFFF) (fresh : machine.state = Machine.freshState start limit)
    (calls : List MachineCall) :
    (performAll machine calls).plain = performAllPlain machine.plain calls ∧
    (performAll machine calls).plain.state.WellFormed limit ∧
    ∀ call : MachineCall,
      call.performPlain (performAll machine calls).plain =
        Action.viewed Machine.plain id (call.perform (performAll machine calls)) ∧
      ∀ problem after, call.perform (performAll machine calls) = .error problem after →
        after.state = (performAll machine calls).state ∧
        ∃ accesses, after = { performAll machine calls with
          bus := (performAll machine calls).bus.noting accesses } := by
  have same := performAll_plain machine calls
  have well : (performAll machine calls).plain.state.WellFormed limit := by
    have started : machine.plain.state.WellFormed limit := by
      rw [Machine.plain, fresh]
      exact State.fresh_wellFormed (by omega) inside
    rw [same]
    exact performAllPlain_wellFormed calls started
  refine ⟨same, well, fun call => ⟨call.perform_mirrors _, fun problem after refused => ?_⟩⟩
  obtain ⟨accesses, unchanged⟩ := unchanged_of_refused well refused
  exact ⟨by rw [unchanged], accesses, unchanged⟩

/-- A machine without memory and with room for one return address. -/
def shallow : Machine where
  state := Machine.freshState 0x200 1
  bus := {}
  generator := ⟨Vector.replicate 624 0, 0⟩
  drawPolicy := .wrap
  startAddress := 0x200
  stackLimit := 1
  cycleCount := 0

/-- A return takes the program counter to its bound, the index register reaches its own and goes no further,
and a second call is refused. -/
theorem calls_keep_well_formed_at_bound :
    let calls : List MachineCall :=
      [.onState (.push 0x1FFFF), .execute 0x00EE, .onState (.jump 0x1000), .onState (.push 7),
        .onState (.setIndex 0xFFFF), .onState (.setIndex 0x10000)]
    let reached := performAll shallow calls
    shallow.state = Machine.freshState 0x200 1 ∧ reached.plain.state.WellFormed 1 ∧
      reached.plain.state.pc = 0xFFFF ∧ reached.plain.state.i = 0xFFFF ∧ reached.plain.state.stack = [7] ∧
      ∃ problem after, perform (.execute 0x2300) reached = .error problem after ∧
        after.state = reached.state := by
  intro calls reached
  obtain ⟨-, well, each⟩ :=
    calls_keep_well_formed shallow 0x200 1 (by decide) (by decide) rfl calls
  have refused : ∃ problem after, perform (.execute 0x2300) reached = .error problem after :=
    ⟨_, _, rfl⟩
  obtain ⟨problem, after, failed⟩ := refused
  exact ⟨rfl, well, by decide, by decide, by decide, problem, after, failed,
    ((each _).2 _ _ failed).1⟩

end MachineCall

end Chip8
