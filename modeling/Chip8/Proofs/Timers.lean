import Chip8.Proofs.Cycles

/-!
The timers from the machine's side: it takes no notice of them. A cycle with other timers does the same
and leaves the timers as they are, since no instruction reads or sets one.
-/

namespace Chip8

def State.withTimers (delay sound : UInt8) (state : State) : State :=
  { state with delayTimer := delay, soundTimer := sound }

namespace Machine

variable {α β : Type}

def withTimers (delay sound : UInt8) (machine : Machine) : Machine :=
  { machine with state := machine.state.withTimers delay sound }

/-- An action that takes no notice of the timers. With other timers it does the same, and they stay. -/
def IgnoresTimers (action : Action Machine α) : Prop :=
  ∀ (machine : Machine) (delay sound : UInt8),
    action (machine.withTimers delay sound) =
      match action machine with
      | .ok value after => .ok value (after.withTimers delay sound)
      | .error problem after => .error problem (after.withTimers delay sound)

/-- Whether a change leaves both timers alone. -/
def SameTimers (before after : Machine) : Prop :=
  after.state.delayTimer = before.state.delayTimer ∧ after.state.soundTimer = before.state.soundTimer

theorem withTimers_self (machine : Machine) :
    machine.withTimers machine.state.delayTimer machine.state.soundTimer = machine := rfl

theorem skipIf_ignoresTimers (condition : Bool) : IgnoresTimers (skipIf condition) := by
  intro machine delay sound
  rw [skipIf_apply, skipIf_apply]
  cases condition with
  | false => rfl
  | true =>
      have samePc : (machine.withTimers delay sound).state.pc = machine.state.pc := rfl
      rw [if_pos rfl, if_pos rfl, samePc]
      by_cases inside : 0 ≤ machine.state.pc + 2 ∧ machine.state.pc + 2 < 4096
      · rw [if_pos inside, if_pos inside]
        rfl
      · rw [if_neg inside, if_neg inside]

theorem fetch_ignoresTimers : IgnoresTimers fetch := by
  intro machine delay sound
  rw [fetch_apply, fetch_apply]
  have sameBlock : (machine.withTimers delay sound).bus.block
      (machine.withTimers delay sound).state.pc 2 = machine.bus.block machine.state.pc 2 := rfl
  rw [sameBlock]
  rcases machine.bus.block machine.state.pc 2 with ⟨accesses, problem | bytes⟩ <;> rfl

theorem describe_ignoresTimers (start : Int) (operation : Option Operation)
    (fault : Option FaultReport) : IgnoresTimers (describe start operation fault) := by
  intro machine delay sound
  rw [describe_apply, describe_apply]
  rfl

theorem giveUp_ignoresTimers (start : Int) (word : Option Int) (operation : Option Operation)
    (problem : Problem) : IgnoresTimers (giveUp start word operation problem) := by
  intro machine delay sound
  cases problem with
  | fault cause => exact describe_ignoresTimers _ _ _ machine delay sound
  | misuse cause => rfl

end Machine

theorem Instruction.execute_ignoresTimers (instruction : Instruction) :
    Machine.IgnoresTimers instruction.execute := by
  intro machine delay sound
  cases instruction with
  | ret =>
      rw [execute_ret, execute_ret]
      have sameStack : (machine.withTimers delay sound).state.stack = machine.state.stack := rfl
      rw [sameStack]
      cases machine.state.stack <;> rfl
  | call target =>
      rw [execute_call, execute_call]
      by_cases room : (machine.state.sp : Int) < machine.state.stackLimit
      · have sameRoom : ((machine.withTimers delay sound).state.sp : Int) <
            (machine.withTimers delay sound).state.stackLimit := room
        rw [if_pos room, if_pos sameRoom]
        rfl
      · have sameRoom : ¬ ((machine.withTimers delay sound).state.sp : Int) <
            (machine.withTimers delay sound).state.stackLimit := room
        rw [if_neg room, if_neg sameRoom]
        rfl
  | jump target =>
      rw [execute_jump, execute_jump]
      rfl
  | loadIndex address =>
      rw [execute_loadIndex, execute_loadIndex]
      rfl
  | jumpOffset address =>
      rw [execute_jumpOffset, execute_jumpOffset]
      have sameOffset : (machine.withTimers delay sound).state.value Register.offset =
          machine.state.value Register.offset := rfl
      rw [sameOffset]
      by_cases inside : (address.val : Int) + (machine.state.value Register.offset).toNat < 4096
      · rw [if_pos inside, if_pos inside]
        rfl
      · rw [if_neg inside, if_neg inside]
  | skipIfByte | skipUnlessByte | skipIfEqual | skipUnlessEqual =>
      exact Machine.skipIf_ignoresTimers _ machine delay sound
  | draw x y rows =>
      rw [execute_draw, execute_draw]
      have sameBlock : (machine.withTimers delay sound).bus.block
          (machine.withTimers delay sound).state.i.toNat rows.val =
            machine.bus.block machine.state.i.toNat rows.val := rfl
      rw [sameBlock]
      rcases machine.bus.block machine.state.i.toNat rows.val with ⟨accesses, problem | sprite⟩ <;> rfl
  | _ => rfl

theorem Operation.execute_ignoresTimers (operation : Operation) :
    Machine.IgnoresTimers operation.execute := by
  intro machine delay sound
  cases found : operation.instruction? with
  | some instruction =>
      simp only [Operation.execute, found]
      exact instruction.execute_ignoresTimers machine delay sound
  | none => simp only [Operation.execute, found, Action.fault_apply]

namespace Machine

theorem step_ignoresTimers : IgnoresTimers step := by
  intro machine delay sound
  have sameStart : (machine.withTimers delay sound).logging [] =
      (machine.logging []).withTimers delay sound := rfl
  rw [step_apply, step_apply, sameStart, fetch_ignoresTimers]
  cases fetch (machine.logging []) with
  | error problem after => exact giveUp_ignoresTimers _ _ _ _ after delay sound
  | ok word after =>
      dsimp only
      cases Operation.decode word with
      | error problem => exact giveUp_ignoresTimers _ _ _ _ after delay sound
      | ok operation =>
          dsimp only
          rw [operation.execute_ignoresTimers after delay sound]
          cases operation.execute after with
          | error problem last => exact giveUp_ignoresTimers _ _ _ _ last delay sound
          | ok _ last => exact describe_ignoresTimers _ _ _ { last with cycleCount := _ } delay sound

theorem left_step_timers (machine : Machine) : SameTimers machine (step.left machine) := by
  have same := step_ignoresTimers machine machine.state.delayTimer machine.state.soundTimer
  rw [withTimers_self] at same
  cases ran : step machine with
  | ok snapshot after =>
      rw [ran] at same
      have kept := (EStateM.Result.ok.inj same).2
      rw [Action.left, ran, kept]
      exact ⟨rfl, rfl⟩
  | error problem after =>
      rw [ran] at same
      have kept := (EStateM.Result.error.inj same).2
      rw [Action.left, ran, kept]
      exact ⟨rfl, rfl⟩

end Machine

end Chip8
