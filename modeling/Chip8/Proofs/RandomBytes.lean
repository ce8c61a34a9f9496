import Chip8.Proofs.Books
import Chip8.Proofs.Dependence

/-!
The random bytes over whole histories. Whatever is done with a machine, only a completed random
instruction takes a byte from the generator, and then just one; nothing turns the generator back. So the
generator is always as far along its stream as random instructions have completed, and two machines go
through the same history for as long as their streams give the same bytes.
-/

namespace Chip8

namespace Operation

variable {operation : Operation} {x : Register} {mask : UInt8}

/-- The register and the mask of an operation that draws a random byte. -/
def random? (operation : Operation) : Option (Register × UInt8) :=
  let fields := Fields.ofWord operation.opcode
  if operation.pattern = "Cxkk" then some (fields.x, fields.kk) else none

theorem random?_eq_some_iff :
    operation.random? = some (x, mask) ↔ operation.instruction? = some (.random x mask) := by
  have listed : Instruction.ofPattern? (Instruction.random x mask).pattern (Fields.ofWord operation.opcode) =
      some (.random (Fields.ofWord operation.opcode).x (Fields.ofWord operation.opcode).kk) := rfl
  rw [instruction?_eq_some_iff, listed]
  simp [random?, Instruction.pattern]

theorem bytes_eq (operation : Operation) :
    operation.bytes = if operation.random?.isSome then 1 else 0 := by
  rw [bytes]
  cases draws : operation.random? with
  | some drawn =>
      rw [random?_eq_some_iff.mp draws]
      rfl
  | none =>
      cases found : operation.instruction? with
      | none => rfl
      | some instruction =>
          cases instruction with
          | random x mask =>
              rw [random?_eq_some_iff.mpr found] at draws
              cases draws
          | _ => rfl

theorem execute_of_random? (draws : operation.random? = some (x, mask)) (machine : Machine) :
    operation.execute machine =
      .ok () { machine with
        state := machine.state.withValue x (machine.generator.nextByte.1 &&& mask)
        generator := machine.generator.nextByte.2 } := by
  simp only [execute, random?_eq_some_iff.mp draws, Instruction.execute_random]

end Operation

/-- What can be done with a machine. -/
inductive Deed where
  | step
  /-- A cycle of a session that drives the machine. -/
  | cycle (session : Session)
  | execute (word : Int)
  | perform (operation : Operation)
  | reset
  /-- Any change of the registers from outside; one step of the timers is an example. -/
  | registers (change : State → State)
  /-- Any use of the bus from outside. -/
  | memory (change : Bus → Bus)

namespace Machine

/-- The machine after a deed, whether the deed completed or failed. -/
def did (machine : Machine) : Deed → Machine
  | .step => step.left machine
  | .cycle session => (Session.cycle.left { session with machine := machine }).machine
  | .execute word => (execute word).left machine
  | .perform operation => operation.execute.left machine
  | .reset => machine.reset
  | .registers change => { machine with state := change machine.state }
  | .memory change => { machine with bus := change machine.bus }

/-- What a deed shows, if it is a cycle. -/
def snapshot? (machine : Machine) : Deed → Option Snapshot
  | .step =>
      match step machine with
      | .ok snapshot _ => some snapshot
      | .error .. => none
  | .cycle session =>
      match Session.cycle { session with machine := machine } with
      | .ok snapshot _ => some snapshot
      | .error .. => none
  | _ => none

/-- The operation that a deed executes without a fault. -/
def completed? (machine : Machine) : Deed → Option Operation
  | .step => (machine.snapshot? .step).bind Snapshot.completed?
  | .cycle session => (machine.snapshot? (.cycle session)).bind Snapshot.completed?
  | .execute word =>
      match execute word machine with
      | .ok operation _ => some operation
      | .error .. => none
  | .perform operation =>
      match operation.execute machine with
      | .ok .. => some operation
      | .error .. => none
  | .reset | .registers _ | .memory _ => none

/-- The register and the mask for which a deed draws a random byte. -/
def drew? (machine : Machine) (deed : Deed) : Option (Register × UInt8) :=
  (machine.completed? deed).bind Operation.random?

def draws (machine : Machine) (deed : Deed) : Nat := if (machine.drew? deed).isSome then 1 else 0

def after (machine : Machine) (deeds : List Deed) : Machine := deeds.foldl did machine

/-- How many of the deeds complete a random instruction. -/
def drawn (machine : Machine) : List Deed → Nat
  | [] => 0
  | deed :: rest => machine.draws deed + (machine.did deed).drawn rest

/-- What the deeds show, oldest first. -/
def shown (machine : Machine) : List Deed → List (Option Snapshot)
  | [] => []
  | deed :: rest => machine.snapshot? deed :: (machine.did deed).shown rest

end Machine

namespace Generator

theorem advance_advance (generator : Generator) (first second : Nat) :
    (generator.advance first).advance second = generator.advance (first + second) := by
  induction first generalizing generator with
  | zero => rw [Nat.zero_add, advance]
  | succ first ih =>
      rw [Nat.succ_add]
      exact ih generator.nextByte.2

theorem stream_advance (generator : Generator) (first second : Nat) :
    (generator.advance first).stream second = generator.stream (first + second) := by
  rw [stream, advance_advance, stream]

end Generator

namespace Session

/-- The registers after the time of a cycle has passed for the timers. -/
def aged (session : Session) (state : State) : State :=
  if session.settings.timerHz ≤ 0 then state
  else (catchUp session.settings.timerRate (session.timerDebt + session.settings.timerHz) state).2

theorem machine_concluded (session : Session) (machine : Machine) (snapshot : Snapshot) :
    (session.concluded machine snapshot).machine =
      { machine with state := session.aged machine.state } := by
  rw [concluded, account_apply]
  dsimp only
  by_cases still : session.settings.timerHz ≤ 0
  · rw [passTime, if_pos still, aged, if_pos still]
  · rw [passTime_apply _ (by simpa using still), aged, if_neg still]

theorem value_aged (session : Session) (state : State) : (session.aged state).value = state.value := by
  rw [aged]
  split
  · rfl
  · obtain ⟨delay, sound, same⟩ := catchUp_withTimers session.settings.timerRate
      (session.timerDebt + session.settings.timerHz) state
    rw [same]
    rfl

end Session

namespace Machine

variable {machine : Machine}

theorem snapshot?_of_step (machine : Machine) :
    machine.snapshot? .step =
      match step machine with
      | .ok snapshot _ => some snapshot
      | .error .. => none := rfl

theorem snapshot?_step {after : Machine} {snapshot : Snapshot}
    (ran : step machine = .ok snapshot after) : machine.snapshot? .step = some snapshot := by
  rw [snapshot?_of_step, ran]

theorem snapshot?_failed {after : Machine} {problem : Problem}
    (ran : step machine = .error problem after) : machine.snapshot? .step = none := by
  rw [snapshot?_of_step, ran]

theorem did_cycle (machine : Machine) (session : Session) :
    machine.did (.cycle session) =
      match machine.snapshot? .step with
      | some _ => { machine.did .step with state := session.aged (machine.did .step).state }
      | none => machine.did .step := by
  rw [did, did, Action.left, Action.left, Session.cycle_apply, snapshot?_of_step]
  cases step machine with
  | ok snapshot after => exact Session.machine_concluded _ after snapshot
  | error problem after => rfl

theorem snapshot?_cycle (machine : Machine) (session : Session) :
    machine.snapshot? (.cycle session) = machine.snapshot? .step := by
  have cycled : machine.snapshot? (.cycle session) =
      match Session.cycle { session with machine := machine } with
      | .ok snapshot _ => some snapshot
      | .error .. => none := rfl
  rw [cycled, snapshot?_of_step, Session.cycle_apply]
  cases step machine <;> rfl

theorem completed?_step {after : Machine} {snapshot : Snapshot}
    (ran : step machine = .ok snapshot after) : machine.completed? .step = snapshot.completed? := by
  rw [completed?, snapshot?_step ran, Option.bind_some]

theorem completed?_cycle (machine : Machine) (session : Session) :
    machine.completed? (.cycle session) = machine.completed? .step := by
  rw [completed?, completed?, snapshot?_cycle]

theorem did_execute (machine : Machine) (word : Int) :
    machine.did (.execute word) =
      match Operation.decode word with
      | .ok operation => machine.did (.perform operation)
      | .error _ => machine := by
  rw [did, Action.left, execute_apply]
  cases Operation.decode word with
  | error problem => rfl
  | ok operation =>
      dsimp only
      rw [did, Action.left]
      cases operation.execute machine <;> rfl

theorem completed?_execute (machine : Machine) (word : Int) :
    machine.completed? (.execute word) =
      match Operation.decode word with
      | .ok operation => machine.completed? (.perform operation)
      | .error _ => none := by
  rw [completed?, execute_apply]
  cases decoded : Operation.decode word with
  | error problem => rfl
  | ok operation =>
      dsimp only
      rw [completed?]
      cases operation.execute machine <;> rfl

theorem draws_eq (machine : Machine) (deed : Deed) :
    machine.draws deed = (machine.completed? deed).elim 0 Operation.bytes := by
  rw [draws, drew?]
  cases machine.completed? deed with
  | none => rfl
  | some operation => exact operation.bytes_eq.symm

theorem drew?_of_next? {x : Register} {mask : UInt8} (next : machine.next? = some (.random x mask)) :
    machine.drew? .step = some (x, mask) := by
  rw [next?] at next
  rcases fetched : machine.bus.block machine.state.pc 2 with ⟨accesses, problem | bytes⟩
  · rw [fetched] at next
    cases next
  · rw [fetched] at next
    dsimp only at next
    cases decoded : Operation.decode (bigEndian bytes) with
    | error problem =>
        rw [decoded] at next
        cases next
    | ok operation =>
        rw [decoded] at next
        have draws := Operation.random?_eq_some_iff.mpr next
        have ran := step_of_cycle (.completed fetched decoded (Operation.execute_of_random? draws _))
        rw [drew?, completed?_step ran]
        exact draws

theorem value_of_drew?_step {x : Register} {mask : UInt8}
    (drew : machine.drew? .step = some (x, mask)) :
    (machine.did .step).state.value x = machine.generator.nextByte.1 &&& mask := by
  cases ran : step machine with
  | error problem after =>
      rw [drew?, completed?, snapshot?_failed ran] at drew
      cases drew
  | ok snapshot after =>
      rw [drew?, completed?_step ran] at drew
      rw [did, Action.left, ran]
      cases cycle_of_step ran with
      | fetchFault | decodeFault | executionFault => cases drew
      | completed read decoded executed =>
          rw [Operation.execute_of_random? drew] at executed
          cases executed
          exact (State.value_withValue _ x x _).trans (if_pos rfl)

theorem value_of_drew?_perform {operation : Operation} {x : Register} {mask : UInt8}
    (drew : machine.drew? (.perform operation) = some (x, mask)) :
    (machine.did (.perform operation)).state.value x = machine.generator.nextByte.1 &&& mask := by
  have draws : operation.random? = some (x, mask) := by
    rw [drew?, completed?] at drew
    cases result : operation.execute machine with
    | ok _ after => rwa [result] at drew
    | error problem after =>
        rw [result] at drew
        cases drew
  rw [did, Action.left, Operation.execute_of_random? draws]
  exact (State.value_withValue _ x x _).trans (if_pos rfl)

/-- The register of a random instruction takes the next byte of the generator, under the mask. -/
theorem value_of_drew? {deed : Deed} {x : Register} {mask : UInt8}
    (drew : machine.drew? deed = some (x, mask)) :
    (machine.did deed).state.value x = machine.generator.nextByte.1 &&& mask := by
  cases deed with
  | step => exact value_of_drew?_step drew
  | cycle session =>
      rw [drew?, completed?_cycle] at drew
      rw [← value_of_drew?_step drew, did_cycle]
      cases machine.snapshot? .step with
      | none => rfl
      | some snapshot => exact congrFun (session.value_aged _) x
  | execute word =>
      rw [drew?, completed?_execute] at drew
      rw [did_execute]
      cases decoded : Operation.decode word with
      | error problem =>
          rw [decoded] at drew
          cases drew
      | ok operation =>
          rw [decoded] at drew
          exact value_of_drew?_perform drew
  | perform operation => exact value_of_drew?_perform drew
  | reset | registers change | memory change => cases drew

def withGenerator (generator : Generator) (machine : Machine) : Machine :=
  { machine with generator := generator }

/-- A deed does the same with another generator, and advances it as far as the first. -/
structure DidAlike (machine : Machine) (other : Generator) (deed : Deed) : Prop where
  shows : (machine.withGenerator other).snapshot? deed = machine.snapshot? deed
  completes : (machine.withGenerator other).completed? deed = machine.completed? deed
  did : (machine.withGenerator other).did deed =
    (machine.did deed).withGenerator (other.advance (machine.draws deed))

variable {other : Generator}

theorem stepped_alike (byte : (machine.drew? .step).isSome →
      other.nextByte.1 = machine.generator.nextByte.1) : machine.DidAlike other .step := by
  have seen : SeenAlike machine (machine.withGenerator other) machine.next? := by
    constructor
    case state => rfl
    case answers => rfl
    case byte =>
      intro x mask next
      exact byte (by rw [drew?_of_next? next]; rfl)
    case drawPolicy => exact fun _ _ _ _ => rfl
  have alike := step_alike seen rfl
  generalize ran : step machine = result at alike
  generalize ran' : step (machine.withGenerator other) = result' at alike
  cases alike with
  | described snapshot state cycles =>
      refine ⟨?_, ?_, ?_⟩
      · rw [snapshot?_step ran, snapshot?_step ran']
      · rw [completed?_step ran, completed?_step ran']
      · rw [draws_eq, completed?_step ran, did, did, Action.left, Action.left, ran, ran']
        rfl
  | passedOn problem state accesses =>
      have nothing : machine.snapshot? .step = none := snapshot?_failed ran
      have nothing' : (machine.withGenerator other).snapshot? .step = none := snapshot?_failed ran'
      refine ⟨?_, ?_, ?_⟩
      · rw [nothing, nothing']
      · rw [completed?, completed?, nothing, nothing']
      · rw [draws_eq, completed?, nothing, did, did, Action.left, Action.left, ran, ran']
        rfl

theorem performed_alike {operation : Operation}
    (byte : (machine.drew? (.perform operation)).isSome →
      other.nextByte.1 = machine.generator.nextByte.1) :
    machine.DidAlike other (.perform operation) := by
  have seen : SeenAlike machine (machine.withGenerator other) operation.instruction? := by
    constructor
    case state => rfl
    case answers => rfl
    case byte =>
      intro x mask found
      have draws := Operation.random?_eq_some_iff.mpr found
      exact byte (by rw [drew?, completed?, Operation.execute_of_random? draws]; simp [draws])
    case drawPolicy => exact fun _ _ _ _ => rfl
  have alike := Operation.execute_alike seen
  generalize ran : operation.execute machine = result at alike
  generalize ran' : operation.execute (machine.withGenerator other) = result' at alike
  cases alike with
  | completes state accesses =>
      refine ⟨rfl, ?_, ?_⟩
      · rw [completed?, completed?, ran, ran']
      · rw [draws_eq, completed?, ran, did, did, Action.left, Action.left, ran, ran']
        rfl
  | faults cause accesses =>
      refine ⟨rfl, ?_, ?_⟩
      · rw [completed?, completed?, ran, ran']
      · rw [draws_eq, completed?, ran, did, did, Action.left, Action.left, ran, ran']
        rfl

/-- With another generator that has the next byte in common, as far as the deed draws one, a deed does the
same and draws as many. -/
theorem did_alike (machine : Machine) {other : Generator} (deed : Deed)
    (byte : (machine.drew? deed).isSome → other.nextByte.1 = machine.generator.nextByte.1) :
    machine.DidAlike other deed := by
  cases deed with
  | step => exact stepped_alike byte
  | cycle session =>
      rw [drew?, completed?_cycle] at byte
      have stepped := stepped_alike byte
      refine ⟨?_, ?_, ?_⟩
      · rw [snapshot?_cycle, snapshot?_cycle, stepped.shows]
      · rw [completed?_cycle, completed?_cycle, stepped.completes]
      · rw [did_cycle, did_cycle, stepped.shows, stepped.did, draws_eq, draws_eq, completed?_cycle]
        cases machine.snapshot? .step <;> rfl
  | execute word =>
      rw [drew?, completed?_execute] at byte
      cases decoded : Operation.decode word with
      | error problem =>
          refine ⟨rfl, ?_, ?_⟩
          · rw [completed?_execute, completed?_execute, decoded]
          · rw [draws_eq, completed?_execute, did_execute, did_execute, decoded]
            rfl
      | ok operation =>
          rw [decoded] at byte
          have performed := performed_alike byte
          refine ⟨rfl, ?_, ?_⟩
          · rw [completed?_execute, completed?_execute, decoded]
            exact performed.completes
          · rw [draws_eq, completed?_execute, did_execute, did_execute, decoded]
            dsimp only
            rw [← draws_eq]
            exact performed.did
  | perform operation => exact performed_alike byte
  | reset | registers change | memory change => exact ⟨rfl, rfl, rfl⟩

theorem generator_did (machine : Machine) (deed : Deed) :
    (machine.did deed).generator = machine.generator.advance (machine.draws deed) := by
  have same : machine.withGenerator machine.generator = machine := rfl
  have alike := (machine.did_alike deed fun _ => rfl).did
  rw [same] at alike
  exact congrArg generator alike

/-- Over a history the generators go through their streams together, and the machines do the same for as
long as the streams agree. -/
theorem after_alike (deeds : List Deed) {machine : Machine} {other : Generator}
    (streams : ∀ count < machine.drawn deeds, other.stream count = machine.generator.stream count) :
    (machine.withGenerator other).after deeds =
        (machine.after deeds).withGenerator (other.advance (machine.drawn deeds)) ∧
      (machine.withGenerator other).shown deeds = machine.shown deeds ∧
      (machine.withGenerator other).drawn deeds = machine.drawn deeds := by
  -- Both generators move on with every deed, so the induction is over their streams from there.
  induction deeds generalizing machine other with
  | nil => exact ⟨rfl, rfl, rfl⟩
  | cons deed rest ih =>
      simp only [drawn] at streams
      have alike : machine.DidAlike other deed := machine.did_alike deed fun drew =>
        streams 0 (by rw [draws, if_pos drew]; omega)
      have sameDraws : (machine.withGenerator other).draws deed = machine.draws deed := by
        rw [draws_eq, draws_eq, alike.completes]
      obtain ⟨reached, shows, draws⟩ := @ih (machine.did deed) (other.advance (machine.draws deed)) (by
        intro count sooner
        rw [generator_did, Generator.stream_advance, Generator.stream_advance]
        exact streams _ (by omega))
      rw [Generator.advance_advance] at reached
      refine ⟨?_, ?_, ?_⟩
      · rw [after, List.foldl_cons, alike.did]
        exact reached
      · rw [shown, shown, alike.shows, alike.did, shows]
      · rw [drawn, drawn, sameDraws, alike.did, draws]

theorem generator_after (machine : Machine) (deeds : List Deed) :
    (machine.after deeds).generator = machine.generator.advance (machine.drawn deeds) := by
  -- With the generator that it has, the machine is compared to itself.
  have same : machine.withGenerator machine.generator = machine := rfl
  have alike := (@after_alike deeds machine machine.generator fun _ _ => rfl).1
  rw [same] at alike
  exact congrArg generator alike

/-- The random bytes that are drawn from a machine follow the stream of its generator. After any history
as many bytes are drawn as random instructions have completed, and the next such instruction stores the
next byte under its mask. The history with another generator is the same, and shows the same, for as long
as the two streams agree; without a random instruction, whatever the streams are. -/
theorem draws_follow_stream (first : Machine) (deeds : List Deed) :
    (first.after deeds).generator = first.generator.advance (first.drawn deeds) ∧
    (∀ deed x mask, (first.after deeds).drew? deed = some (x, mask) →
      ((first.after deeds).did deed).state.value x =
        first.generator.stream (first.drawn deeds) &&& mask) ∧
    ∀ other agreed, (∀ count < agreed, other.stream count = first.generator.stream count) →
      first.drawn deeds ≤ agreed →
      ({ first with generator := other }.after deeds =
          { first.after deeds with generator := other.advance (first.drawn deeds) }) ∧
        { first with generator := other }.shown deeds = first.shown deeds ∧
        { first with generator := other }.drawn deeds = first.drawn deeds := by
  refine ⟨first.generator_after deeds, ?_, ?_⟩
  · intro deed x mask drew
    rw [value_of_drew? drew, generator_after, Generator.stream]
  · intro other agreed streams few
    exact after_alike deeds fun count sooner => streams count (by omega)

/-- A generator whose first byte is 34, whatever its second word is. -/
def loaded (second : UInt32) : Generator :=
  ⟨((Vector.replicate 624 0).set 0 0x10000000).set 1 second, 0⟩

/-- A machine that rolls a die again after every reset. -/
def rolling : Machine where
  state := { pc := 0 }
  bus := { devices := #[.memory #[0xC0, 0xFF]], mappings := [Mapping.mk 0 1 0] }
  generator := loaded 0x30000000
  drawPolicy := .wrap
  startAddress := 0
  stackLimit := 16
  cycleCount := 0

def oneRoll : List Deed := [.step, .execute 0xE000, .reset]

theorem draws_follow_stream_rolling :
    rolling.drawn oneRoll = 1 ∧
      ((rolling.after oneRoll).did (.cycle { machine := rolling, settings := {} })).state.value 0 = 98 ∧
      (∀ count < 1, (loaded 0).stream count = rolling.generator.stream count) ∧
      { rolling with generator := loaded 0 }.after oneRoll =
        { rolling.after oneRoll with generator := (loaded 0).advance 1 } := by
  have once : rolling.drawn oneRoll = 1 := by decide
  have again : (rolling.after oneRoll).drew? (.cycle { machine := rolling, settings := {} }) =
      some (0, 0xFF) := by decide
  have second : rolling.generator.stream 1 &&& 0xFF = 98 := by decide
  have streams : ∀ count < 1, (loaded 0).stream count = rolling.generator.stream count := by
    intro count first
    obtain rfl : count = 0 := by omega
    decide
  obtain ⟨_, stores, alike⟩ := draws_follow_stream rolling oneRoll
  have value := stores _ 0 0xFF again
  have same := (alike (loaded 0) 1 streams (Nat.le_of_eq once)).1
  rw [once] at value same
  exact ⟨once, value.trans second, streams, same⟩

end Machine

end Chip8
