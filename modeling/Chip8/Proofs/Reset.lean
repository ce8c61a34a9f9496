import Chip8.Proofs.BusTrace
import Chip8.Proofs.RandomBytes
import Chip8.Proofs.Simulation

/-!
A reset leaves nothing of the past. All that a machine is, apart from what its bus answers and where its
generator stands, is set by a reset as by its construction; so from there on it does what a new machine
does on a bus that answers alike.
-/

namespace Chip8

/-- Whether a deed is a use of the bus from outside. -/
def Deed.usesBus : Deed → Bool
  | .memory _ => true
  | _ => false

namespace Machine

theorem did_inherits (machine : Machine) (deed : Deed) :
    machine.Inherits (machine.did deed) deed.usesBus := by
  cases deed with
  | step => exact step_inherits machine
  | cycle session =>
      have stepped := step_inherits machine
      rw [did_cycle]
      cases machine.snapshot? .step with
      | none => exact stepped
      | some snapshot =>
          exact ⟨stepped.drawPolicy, stepped.startAddress, stepped.stackLimit, stepped.answers⟩
  | execute word =>
      rw [did_execute]
      cases Operation.decode word with
      | ok operation => exact perform_inherits operation machine
      | error problem => exact .refl machine false
  | perform operation => exact perform_inherits operation machine
  | reset | registers change => exact ⟨rfl, rfl, rfl, fun _ => rfl⟩
  | memory change => exact ⟨rfl, rfl, rfl, fun quiet => absurd quiet (by simp [Deed.usesBus])⟩

theorem after_inherits (machine : Machine) (deeds : List Deed) :
    machine.Inherits (machine.after deeds) (deeds.any Deed.usesBus) := by
  induction deeds generalizing machine with
  | nil => exact .refl machine false
  | cons deed rest ih =>
      have first := machine.did_inherits deed
      have later := ih (machine.did deed)
      refine ⟨later.drawPolicy.trans first.drawPolicy, later.startAddress.trans first.startAddress,
        later.stackLimit.trans first.stackLimit, ?_⟩
      intro quiet
      rw [List.any_cons, Bool.or_eq_false_iff] at quiet
      exact (later.answers quiet.2).trans (first.answers quiet.1)

/-- Two machines that are the same but for their buses, and these answer alike. -/
structure Matches (first second : Machine) : Prop where
  same : second = { first with bus := second.bus }
  answers : second.bus.answer = first.bus.answer

theorem step_matches {first second : Machine} (alike : first.Matches second) :
    Agree Matches (step first) (step second) := by
  obtain ⟨same, answers⟩ := alike
  generalize second.bus = bus at same answers
  subst same
  have stepped : SteppedAlike first { first with bus := bus } (step first)
      (step { first with bus := bus }) :=
    step_alike (.on_bus first _ answers) rfl
  generalize step first = result at stepped
  generalize step { first with bus := bus } = result' at stepped
  cases stepped with
  | described snapshot state cycles => exact .ok snapshot ⟨rfl, answers⟩
  | passedOn problem state accesses => exact .error problem ⟨rfl, answers⟩

theorem steps_matches (count : Nat) {first second : Machine} (alike : first.Matches second) :
    Agree Matches (steps count first) (steps count second) := by
  induction count generalizing first second with
  | zero => exact .ok [] alike
  | succ count ih =>
      have stepped := step_matches alike
      simp only [steps, Action.bind_apply, Action.pure_apply]
      generalize step first = result at stepped
      generalize step second = result' at stepped
      cases stepped with
      | error problem after => exact .error problem after
      | @ok snapshot last last' after =>
          have rest := ih after
          dsimp only
          generalize steps count last = result at rest
          generalize steps count last' = result' at rest
          cases rest with
          | error problem after => exact .error problem after
          | ok snapshots after => exact .ok (snapshot :: snapshots) after

/-- On memories any number of cycles is described. -/
theorem exists_steps (count : Nat) {machine : Machine} (memories : machine.bus.MemoryOnly) :
    ∃ snapshots after, steps count machine = .ok snapshots after ∧ snapshots.length = count := by
  induction count generalizing machine with
  | zero => exact ⟨[], machine, rfl, rfl⟩
  | succ count ih =>
      obtain ⟨snapshot, next, ran⟩ := exists_step memories
      have kept : next.bus.MemoryOnly := by
        rw [(cycle_of_step ran).bus]
        exact memories
      obtain ⟨snapshots, after, rest, shown⟩ := ih kept
      refine ⟨snapshot :: snapshots, after, ?_, by rw [List.length_cons, shown]⟩
      simp only [steps, Action.bind_apply, ran, rest, Action.pure_apply]

def asBuilt (bus : Bus) (generator : Generator) (drawPolicy : DrawPolicy) (limit start : Int) :
    Machine where
  state := freshState start limit
  bus := bus
  generator := generator
  drawPolicy := drawPolicy
  startAddress := start
  stackLimit := limit
  cycleCount := 0

theorem build_asBuilt (bus : Bus) (generator : Generator) (drawPolicy : DrawPolicy)
    {limit start : Int} (positive : 0 < limit) (inside : 0 ≤ start ∧ start < memorySize) :
    build bus generator drawPolicy limit start =
      .ok (asBuilt bus generator drawPolicy limit start) := by
  rw [build, if_neg (by omega), if_neg (not_not_intro inside)]
  rfl

theorem reset_after (bus : Bus) (generator : Generator) (drawPolicy : DrawPolicy) (limit start : Int)
    (deeds : List Deed) :
    let used := (asBuilt bus generator drawPolicy limit start).after deeds
    used.reset = asBuilt used.bus used.generator drawPolicy limit start := by
  intro used
  have inherits := (asBuilt bus generator drawPolicy limit start).after_inherits deeds
  have reset : used.reset =
      asBuilt used.bus used.generator used.drawPolicy used.stackLimit used.startAddress := rfl
  rw [reset, inherits.drawPolicy, inherits.stackLimit, inherits.startAddress]
  rfl

/-- A reset makes a machine as new, whatever was done with it before. What it does from there on, and what
it shows, is what a machine newly built with its settings does that takes over the generator where it
stands, on any bus that answers as its own. Without a random instruction and without a use of the bus from
outside, it is what the machine did from its construction on. -/
theorem reset_behaves_as_built (bus : Bus) (generator : Generator) (drawPolicy : DrawPolicy)
    (limit start : Int) (positive : 0 < limit) (inside : 0 ≤ start ∧ start < 0x1000) :
    ∃ first, build bus generator drawPolicy limit start = .ok first ∧ ∀ deeds,
      (∀ other : Bus, other.answer = (first.after deeds).bus.answer →
        ∃ fresh, build other (first.after deeds).generator drawPolicy limit start = .ok fresh ∧
          ∀ count, Agree Matches (steps count (first.after deeds).reset) (steps count fresh)) ∧
      ((∀ deed ∈ deeds, deed.usesBus = false) → first.drawn deeds = 0 →
        ∀ count, Agree Matches (steps count (first.after deeds).reset) (steps count first)) ∧
      ((first.after deeds).bus.MemoryOnly → ∀ count, ∃ snapshots last,
        steps count (first.after deeds).reset = .ok snapshots last ∧ snapshots.length = count) := by
  refine ⟨_, build_asBuilt bus generator drawPolicy positive inside, ?_⟩
  intro deeds
  have restored := reset_after bus generator drawPolicy limit start deeds
  refine ⟨?_, ?_, ?_⟩
  · intro other answers
    refine ⟨_, build_asBuilt other _ drawPolicy positive inside, ?_⟩
    intro count
    rw [restored]
    exact steps_matches count ⟨rfl, answers⟩
  · intro quiet undrawn count
    have inherits := (asBuilt bus generator drawPolicy limit start).after_inherits deeds
    have untouched : deeds.any Deed.usesBus = false := by simpa using quiet
    rw [restored, generator_after, undrawn]
    exact steps_matches count ⟨rfl, (inherits.answers untouched).symm⟩
  · intro memories count
    exact exists_steps count memories

/-- Four cells of memory that count in V0 and then draw a random byte. -/
def countingBus : Bus where
  devices := #[.memory #[0x70, 0x01, 0xC1, 0xFF]]
  mappings := [Mapping.mk 0 3 0]

def wornDown : List Deed := [.step, .step, .execute 0xE000, .registers State.ticked]

theorem reset_behaves_as_built_counting :
    ∃ first, build countingBus (loaded 0) .wrap 16 0 = .ok first ∧
      (∃ fresh,
        build { countingBus with activity := [Access.mk .write 0 0x70] }
          (first.after wornDown).generator .wrap 16 0 = .ok fresh ∧
        Agree Matches (steps 2 (first.after wornDown).reset) (steps 2 fresh)) ∧
      Agree Matches (steps 2 (first.after [.step]).reset) (steps 2 first) ∧
      ∃ snapshots last,
        steps 2 (first.after wornDown).reset = .ok snapshots last ∧ snapshots.length = 2 := by
  obtain ⟨first, built, resets⟩ :=
    reset_behaves_as_built countingBus (loaded 0) .wrap 16 0 (by decide) (by decide)
  have made := built
  rw [build_asBuilt _ _ _ (by decide) (by decide)] at made
  cases made
  have bus : ((asBuilt countingBus (loaded 0) .wrap 16 0).after wornDown).bus = countingBus := by
    decide
  have memories : countingBus.MemoryOnly := .single _ _ _
  have undrawn : (asBuilt countingBus (loaded 0) .wrap 16 0).drawn [.step] = 0 := by decide
  have quiet : ∀ deed ∈ [Deed.step], deed.usesBus = false := by
    intro deed member
    rw [List.mem_singleton.mp member]
    rfl
  obtain ⟨fresh, _, described⟩ := resets wornDown
  obtain ⟨_, repeats, _⟩ := resets [.step]
  obtain ⟨other, rebuilt, alike⟩ :=
    fresh { countingBus with activity := [Access.mk .write 0 0x70] } (by rw [bus]; rfl)
  exact ⟨_, built, ⟨other, rebuilt, alike 2⟩, repeats quiet undrawn 2, described (by rwa [bus]) 2⟩

end Machine

end Chip8
