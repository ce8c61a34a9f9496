import Chip8.Proofs.Timeline

/-!
Calls and returns over whole runs. A move pushes, pops or keeps the call stack; it pushes exactly when it
completes a call and pops exactly when it completes a return. So what lies below a return address stays
there until the matching return, however deeply calls are nested in between.
-/

namespace Chip8

theorem toNat_ofInt (number : Int) : ((UInt16.ofInt number).toNat : Int) = number % 65536 := by
  simp only [UInt16.ofInt, UInt16.toNat_ofNat']
  omega

theorem ofInt_emod (number : Int) : UInt16.ofInt (number % 65536) = UInt16.ofInt number := by
  simp only [UInt16.ofInt]
  congr 1
  omega

theorem Instruction.Effect.stack_kept {instruction : Instruction} {machine after : Machine}
    (effect : Effect machine instruction after) (noCall : instruction.mnemonic ≠ "CALL")
    (noReturn : instruction.mnemonic ≠ "RET") : after.state.stack = machine.state.stack := by
  cases effect with
  | ret stack => exact absurd rfl noReturn
  | call target room => exact absurd rfl noCall
  | _ => rfl

namespace Machine

/-- Whether a move is a cycle that completes an instruction of the given name. -/
def completes (machine : Machine) (name : String) : Move → Bool
  | .step =>
      match step machine with
      | .ok snapshot _ => snapshot.ok && snapshot.operation.any (·.mnemonic == name)
      | .error .. => false
  | _ => false

/-- What a move does to the call stack, and how that shows. -/
inductive StackChange (machine : Machine) (move : Move) : Prop
  | keeps : machine.completes "CALL" move = false → machine.completes "RET" move = false →
      (machine.moved move).state.stack = machine.state.stack → StackChange machine move
  | pushes : machine.completes "CALL" move = true → machine.completes "RET" move = false →
      (machine.moved move).state.stack =
        UInt16.ofInt (machine.state.pc + 2) :: machine.state.stack → StackChange machine move
  | pops {address : UInt16} : machine.completes "CALL" move = false →
      machine.completes "RET" move = true →
      machine.state.stack = address :: (machine.moved move).state.stack →
      (machine.moved move).state.pc = (address.toNat : Int) → StackChange machine move

theorem stackChange_of_cycle {machine after : Machine} {snapshot : Snapshot}
    (ran : step machine = .ok snapshot after) : machine.StackChange .step := by
  have left := moved_step ran
  have shown (name : String) : machine.completes name .step =
      (snapshot.ok && snapshot.operation.any (·.mnemonic == name)) := by
    simp only [completes, ran]
  cases cycle_of_step ran with
  | fetchFault failed =>
      exact .keeps (shown _) (shown _) (by rw [left]; rfl)
  | decodeFault read failed =>
      exact .keeps (shown _) (shown _) (by rw [left]; rfl)
  | executionFault read decoded failed =>
      obtain ⟨_, more, _, rfl⟩ := Operation.execute_error failed
      exact .keeps (shown _) (shown _) (by rw [left]; rfl)
  | completed read decoded executed =>
      obtain ⟨instruction, encodes, rfl⟩ := Operation.exists_encodes_of_decode decoded
      rw [Operation.execute_ofInstruction encodes] at executed
      have named (name : String) : machine.completes name .step = (instruction.mnemonic == name) :=
        shown name
      cases instruction with
      | call target =>
          rw [Instruction.execute_call] at executed
          split at executed <;> cases executed
          refine .pushes (named _) (named _) ?_
          rw [left]
          exact congrArg (· :: machine.state.stack) (ofInt_emod (machine.state.pc + 2))
      | ret =>
          rw [Instruction.execute_ret] at executed
          split at executed <;> cases executed
          rename_i address rest stack
          exact .pops (named _) (named _) (by rw [left]; exact stack) (by rw [left]; rfl)
      | _ =>
          have kept := (Instruction.effect_of_execute executed).stack_kept
            (by simp [Instruction.mnemonic]) (by simp [Instruction.mnemonic])
          refine .keeps (named _) (named _) ?_
          rw [left]
          exact kept

theorem stackChange (machine : Machine) (move : Move) : machine.StackChange move := by
  cases move with
  | step =>
      cases ran : step machine with
      | ok snapshot after => exact stackChange_of_cycle ran
      | error problem after =>
          obtain ⟨accesses, rfl⟩ := step_error ran
          refine .keeps ?_ ?_ ?_ <;> simp only [completes, moved, Action.left, ran]
          rfl
  | tick => exact .keeps rfl rfl rfl
  | _ =>
      refine .keeps rfl rfl ?_
      rw [moved_state machine (by simp) (by simp)]

/-- A move that completes a call makes the stack deeper by one, and one that completes a return makes it
less deep by one. -/
theorem moved_depth (machine : Machine) (move : Move) :
    (machine.moved move).state.sp + (if machine.completes "RET" move then 1 else 0) =
      machine.state.sp + if machine.completes "CALL" move then 1 else 0 := by
  cases stackChange machine move with
  | keeps noCall noReturn kept => rw [noCall, noReturn, State.sp, State.sp, kept]
  | pushes called noReturn pushed =>
      rw [called, noReturn, State.sp, State.sp, pushed]
      rfl
  | pops noCall returned popped =>
      rw [noCall, returned, State.sp, State.sp, popped]
      rfl

/-- How many of the moves before a time complete an instruction of the given name. -/
def completions (machine : Machine) (moves : Nat → Move) (name : String) (time : Nat) : Nat :=
  (List.range time).countP fun moment =>
    (machine.timeline moves moment).completes name (moves moment)

variable {machine : Machine} {moves : Nat → Move} {call : Nat}

theorem timeline_pushed
    (called : (machine.timeline moves call).completes "CALL" (moves call) = true) :
    (machine.timeline moves (call + 1)).state.stack =
      UInt16.ofInt ((machine.timeline moves call).state.pc + 2) ::
        (machine.timeline moves call).state.stack := by
  cases stackChange (machine.timeline moves call) (moves call) with
  | keeps noCall => exact absurd called (by simp [noCall])
  | pushes _ _ pushed => exact pushed
  | pops noCall => exact absurd called (by simp [noCall])

theorem timeline_nested
    (called : (machine.timeline moves call).completes "CALL" (moves call) = true) {later : Nat}
    (after : call < later)
    (above : ∀ time, call < time → time ≤ later →
      (machine.timeline moves call).state.sp < (machine.timeline moves time).state.sp) :
    ∃ nested, (machine.timeline moves later).state.stack =
      nested ++ UInt16.ofInt ((machine.timeline moves call).state.pc + 2) ::
        (machine.timeline moves call).state.stack := by
  -- The invariant is the lower part of the stack: the return address on what the caller had.
  induction after with
  | refl => exact ⟨[], timeline_pushed called⟩
  | @step later after ih =>
      have aboveNext := above (later + 1) (Nat.lt_succ_of_lt after) (Nat.le_refl _)
      obtain ⟨nested, lower⟩ := ih fun time start stop => above time start (by omega)
      cases stackChange (machine.timeline moves later) (moves later) with
      | keeps _ _ kept => exact ⟨nested, kept.trans lower⟩
      | pushes _ _ pushed =>
          exact ⟨UInt16.ofInt _ :: nested, pushed.trans (congrArg (UInt16.ofInt _ :: ·) lower)⟩
      | pops _ _ popped =>
          rw [lower] at popped
          cases nested with
          | nil =>
              -- Only the return address was left above the caller's stack.
              have level : (machine.timeline moves (later + 1)).state.stack =
                  (machine.timeline moves call).state.stack := (List.cons.inj popped).2.symm
              rw [State.sp, State.sp, level] at aboveNext
              exact absurd aboveNext (Nat.lt_irrefl _)
          | cons top nested => exact ⟨nested, (List.cons.inj popped).2.symm⟩

/-- A move changes the depth by one at most, so it cannot fall below that of a call unnoticed. -/
theorem timeline_above
    (called : (machine.timeline moves call).completes "CALL" (moves call) = true) {later : Nat}
    (after : call < later)
    (apart : ∀ time, call < time → time ≤ later →
      (machine.timeline moves time).state.sp ≠ (machine.timeline moves call).state.sp) :
    (machine.timeline moves call).state.sp < (machine.timeline moves later).state.sp := by
  induction after with
  | refl =>
      rw [State.sp, State.sp, timeline_pushed called]
      exact Nat.lt_succ_self _
  | @step later after ih =>
      have apartNext := apart (later + 1) (Nat.lt_succ_of_lt after) (Nat.le_refl _)
      have aboveNow := ih fun time start stop => apart time start (by omega)
      have depth := moved_depth (machine.timeline moves later) (moves later)
      rw [timeline] at apartNext ⊢
      split at depth <;> omega

theorem timeline_returned
    (called : (machine.timeline moves call).completes "CALL" (moves call) = true) {last : Nat}
    (after : call < last)
    (apart : ∀ time, call < time → time ≤ last →
      (machine.timeline moves time).state.sp ≠ (machine.timeline moves call).state.sp)
    (back : (machine.timeline moves (last + 1)).state.sp = (machine.timeline moves call).state.sp) :
    (machine.timeline moves last).completes "RET" (moves last) = true ∧
      (machine.timeline moves (last + 1)).state.pc =
        ((machine.timeline moves call).state.pc + 2) % 65536 ∧
      (machine.timeline moves (last + 1)).state.stack =
        (machine.timeline moves call).state.stack := by
  have above (time : Nat) (start : call < time) (stop : time ≤ last) :
      (machine.timeline moves call).state.sp < (machine.timeline moves time).state.sp :=
    timeline_above called start fun earlier start' stop' => apart earlier start' (by omega)
  obtain ⟨nested, lower⟩ := timeline_nested called after above
  have aboveLast := above last after (Nat.le_refl _)
  have depth := moved_depth (machine.timeline moves last) (moves last)
  rw [timeline] at back
  -- Only a return brings the depth down.
  cases stackChange (machine.timeline moves last) (moves last) with
  | keeps noCall noReturn =>
      rw [noCall, noReturn, if_neg Bool.false_ne_true] at depth
      omega
  | pushes called noReturn =>
      rw [called, noReturn, if_neg Bool.false_ne_true, if_pos rfl] at depth
      omega
  | pops _ returned popped resumed =>
      rw [lower] at popped
      have level : nested = [] := by
        have lengths := congrArg List.length popped
        simp only [State.sp, List.length_append, List.length_cons] at *
        exact List.length_eq_zero_iff.mp (by omega)
      subst level
      obtain ⟨resume, rest⟩ := List.cons.inj popped
      refine ⟨returned, ?_, rest.symm⟩
      rw [timeline, resumed, ← resume, toNat_ofInt]

theorem timeline_balance (machine : Machine) (moves : Nat → Move) (time : Nat) :
    (machine.timeline moves time).state.sp + machine.completions moves "RET" time =
      machine.state.sp + machine.completions moves "CALL" time := by
  induction time with
  | zero => rfl
  | succ time ih =>
      have counted (name : String) : machine.completions moves name (time + 1) =
          machine.completions moves name time +
            if (machine.timeline moves time).completes name (moves time) then 1 else 0 := by
        simp only [completions, List.range_succ, List.countP_append, List.countP_singleton]
      have depth := moved_depth (machine.timeline moves time) (moves time)
      rw [counted, counted, timeline]
      omega

/-- Calls and returns match over every run. While the depth is above that of a call, its return address
lies on the caller's stack, and the first move after which the depth is that of the caller again is a
return, to behind the call and with the caller's stack. From an empty stack the depth is the number of
calls without a return. -/
theorem calls_return (machine : Machine) (moves : Nat → Move) :
    (∀ call, (machine.timeline moves call).completes "CALL" (moves call) = true →
      let caller := (machine.timeline moves call).state
      (∀ later, call < later →
        (∀ time, call < time → time ≤ later → caller.sp < (machine.timeline moves time).state.sp) →
        ∃ nested resume, (machine.timeline moves later).state.stack = nested ++ resume :: caller.stack ∧
          ((resume : UInt16).toNat : Int) = (caller.pc + 2) % 65536) ∧
      ∀ last, call < last →
        (∀ time, call < time → time ≤ last → (machine.timeline moves time).state.sp ≠ caller.sp) →
        (machine.timeline moves (last + 1)).state.sp = caller.sp →
        (machine.timeline moves last).completes "RET" (moves last) = true ∧
          (machine.timeline moves (last + 1)).state.pc = (caller.pc + 2) % 65536 ∧
          (machine.timeline moves (last + 1)).state.stack = caller.stack) ∧
    (machine.state.stack = [] → ∀ time, ((machine.timeline moves time).state.sp : Int) =
      machine.completions moves "CALL" time - machine.completions moves "RET" time) := by
  refine ⟨?_, ?_⟩
  · intro call called
    refine ⟨?_, ?_⟩
    · intro later after above
      obtain ⟨nested, lower⟩ := timeline_nested called after above
      exact ⟨nested, _, lower, toNat_ofInt _⟩
    · intro last after apart back
      exact timeline_returned called after apart back
  · intro empty time
    have balance := timeline_balance machine moves time
    have level : machine.state.sp = 0 := congrArg List.length empty
    omega

/-- A call at 0 to 4, in it a call to 8, and two returns. -/
def nestedCalls : Machine where
  state := { pc := 0 }
  bus := {
    devices := #[.memory #[0x20, 0x04, 0x00, 0x00, 0x20, 0x08, 0x00, 0xEE, 0x00, 0xEE]]
    mappings := [Mapping.mk 0 9 0] }
  generator := ⟨Vector.replicate 624 0, 0⟩
  drawPolicy := .wrap
  startAddress := 0
  stackLimit := 16
  cycleCount := 0

theorem calls_return_nested :
    (nestedCalls.timeline onlySteps 0).completes "CALL" (onlySteps 0) = true ∧
      (∃ nested resume, (nestedCalls.timeline onlySteps 2).state.stack = nested ++ [resume] ∧
        ((resume : UInt16).toNat : Int) = 2) ∧
      (nestedCalls.timeline onlySteps 3).completes "RET" (onlySteps 3) = true ∧
      (nestedCalls.timeline onlySteps 4).state.pc = 2 ∧
      (nestedCalls.timeline onlySteps 4).state.stack = [] ∧
      ((nestedCalls.timeline onlySteps 3).state.sp : Int) =
        nestedCalls.completions onlySteps "CALL" 3 - nestedCalls.completions onlySteps "RET" 3 := by
  have called : (nestedCalls.timeline onlySteps 0).completes "CALL" (onlySteps 0) = true := by
    decide
  have depths : (nestedCalls.timeline onlySteps 0).state.sp = 0 ∧
      (nestedCalls.timeline onlySteps 1).state.sp = 1 ∧
      (nestedCalls.timeline onlySteps 2).state.sp = 2 ∧
      (nestedCalls.timeline onlySteps 3).state.sp = 1 ∧
      (nestedCalls.timeline onlySteps 4).state.sp = 0 := by decide
  obtain ⟨level, first, second, third, fourth⟩ := depths
  have above (time : Nat) (start : 0 < time) (stop : time ≤ 3) :
      (nestedCalls.timeline onlySteps 0).state.sp < (nestedCalls.timeline onlySteps time).state.sp := by
    obtain rfl | rfl | rfl : time = 1 ∨ time = 2 ∨ time = 3 := by omega
    all_goals omega
  have apart (time : Nat) (start : 0 < time) (stop : time ≤ 3) :
      (nestedCalls.timeline onlySteps time).state.sp ≠ (nestedCalls.timeline onlySteps 0).state.sp := by
    have higher := above time start stop
    omega
  have behind : ((nestedCalls.timeline onlySteps 0).state.pc + 2) % 65536 = 2 := by decide
  have empty : (nestedCalls.timeline onlySteps 0).state.stack = [] := rfl
  obtain ⟨matched, balanced⟩ := calls_return nestedCalls onlySteps
  obtain ⟨lower, returned⟩ := matched 0 called
  obtain ⟨nested, resume, lies, resumes⟩ :=
    lower 2 (by omega) fun time start stop => above time start (by omega)
  obtain ⟨completed, pc, stack⟩ := returned 3 (by omega) apart (fourth.trans level.symm)
  rw [empty] at lies stack
  exact ⟨called, ⟨nested, resume, lies, resumes.trans behind⟩, completed, pc.trans behind, stack,
    balanced rfl 3⟩

end Machine

end Chip8
