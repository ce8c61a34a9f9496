import Chip8.Machine

/-!
What actions do when they run. The lemmas here turn an action applied to a state into its result, first
for the building blocks of actions and then for the operations on the registers, so that later proofs
compute with results and never open an operation again.
-/

namespace Chip8

namespace Action

variable {σ α β : Type}

@[simp] theorem bind_apply (action : Action σ α) (next : α → Action σ β) (state : σ) :
    (action >>= next) state =
      match action state with
      | .ok value after => next value after
      | .error problem after => .error problem after := by
  cases result : action state <;> simp [bind, EStateM.bind, result]

@[simp] theorem map_apply (change : α → β) (action : Action σ α) (state : σ) :
    (change <$> action) state =
      match action state with
      | .ok value after => .ok (change value) after
      | .error problem after => .error problem after := by
  cases result : action state <;> simp [Functor.map, EStateM.map, result]

@[simp] theorem pure_apply (value : α) (state : σ) :
    (pure value : Action σ α) state = .ok value state := rfl

@[simp] theorem get_apply (state : σ) : (get : Action σ σ) state = .ok state state := rfl

@[simp] theorem set_apply (after state : σ) :
    (set after : Action σ PUnit) state = .ok () after := rfl

@[simp] theorem modify_apply (change : σ → σ) (state : σ) :
    (modify change : Action σ PUnit) state = .ok () (change state) := rfl

@[simp] theorem modifyGet_apply (change : σ → α × σ) (state : σ) :
    (modifyGet change : Action σ α) state = .ok (change state).1 (change state).2 := rfl

@[simp] theorem fault_apply (cause : Fault) (state : σ) :
    (fault cause : Action σ α) state = .error (.fault cause) state := rfl

@[simp] theorem misuse_apply (cause : Misuse) (state : σ) :
    (misuse cause : Action σ α) state = .error (.misuse cause) state := rfl

@[simp] theorem ofExcept_apply (result : Except Problem α) (state : σ) :
    (ofExcept result : Action σ α) state =
      match result with
      | .ok value => .ok value state
      | .error problem => .error problem state := by
  cases result <;> rfl

@[simp] theorem discard_apply (action : Action σ α) (state : σ) :
    (discard action : Action σ PUnit) state =
      match action state with
      | .ok _ after => .ok () after
      | .error problem after => .error problem after := by
  cases result : action state <;> simp [discard, Functor.mapConst, EStateM.map, result]

theorem ite_apply (condition : Prop) [Decidable condition] (yes no : Action σ α) (state : σ) :
    (if condition then yes else no) state = if condition then yes state else no state := by
  split <;> rfl

/-- The state that an action leaves behind, whether it completes or fails. -/
def left (action : Action σ α) (state : σ) : σ :=
  match action state with
  | .ok _ after => after
  | .error _ after => after

end Action

namespace Machine

variable {α : Type}

@[simp] theorem onState_apply (action : Action State α) (machine : Machine) :
    onState action machine =
      match action machine.state with
      | .ok value state => .ok value { machine with state := state }
      | .error problem state => .error problem { machine with state := state } := by
  cases result : action machine.state <;> simp [onState, Action.within, result]

@[simp] theorem onBus_apply (action : Action Bus α) (machine : Machine) :
    onBus action machine =
      match action machine.bus with
      | .ok value bus => .ok value { machine with bus := bus }
      | .error problem bus => .error problem { machine with bus := bus } := by
  cases result : action machine.bus <;> simp [onBus, Action.within, result]

theorem left_onBus (action : Action Bus α) (machine : Machine) :
    (onBus action).left machine = { machine with bus := action.left machine.bus } := by
  cases result : action machine.bus <;> simp [Action.left, result]

@[simp] theorem drawByte_apply (machine : Machine) :
    drawByte machine =
      .ok machine.generator.nextByte.1 { machine with generator := machine.generator.nextByte.2 } :=
  rfl

end Machine

namespace State

theorem jump_apply (target : Int) (state : State) :
    jump target state =
      if 0 ≤ target ∧ target < 4096 then .ok () { state with pc := target }
      else .error (.fault (.outOfBounds (.target target))) state := by
  unfold jump memorySize
  rw [Action.ite_apply]
  rfl

/-- A jump to an address of twelve bits is never refused. -/
@[simp] theorem jump_address (target : Fin 4096) (state : State) :
    jump target.val state = .ok () { state with pc := (target.val : Int) } := by
  rw [jump_apply, if_pos (by omega)]

theorem skip_apply (state : State) : skip state = jump (state.pc + 2) state := by
  simp [skip]

theorem wordOf_emod (address : Int) (inside : 0 ≤ address % 65536 ∧ address % 65536 ≤ 0xFFFF) :
    wordOf (address % 65536) inside = UInt16.ofInt address := by
  simp [wordOf, UInt16.ofInt, UInt16.ofNatLT_eq_ofNat]

theorem push_apply (address : Int) (state : State) :
    push address state =
      if (state.sp : Int) < state.stackLimit then
        .ok () { state with stack := UInt16.ofInt address :: state.stack }
      else .error (.fault (.stackOverflow state.stackLimit)) state := by
  simp only [push, Action.bind_apply, Action.get_apply, Action.ite_apply, wordOf_emod]
  rfl

theorem pop_apply (state : State) :
    pop state =
      match state.stack with
      | [] => .error (.fault .stackUnderflow) state
      | address :: rest => .ok address { state with stack := rest } := by
  cases stack : state.stack <;> simp [pop, stack]

@[simp] theorem setIndex_address (address : Fin 4096) (state : State) :
    setIndex address.val state = .ok () { state with i := UInt16.ofNat address.val } := by
  have inside : 0 ≤ ((address.val : Nat) : Int) ∧ ((address.val : Nat) : Int) ≤ 0xFFFF := by omega
  simp [setIndex, inside, wordOf, UInt16.ofNatLT_eq_ofNat]

@[simp] theorem clearDisplay_apply (state : State) :
    clearDisplay state = .ok () { state with display := .blank } := rfl

end State

end Chip8
