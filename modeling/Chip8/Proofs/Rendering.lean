import Chip8.Proofs.Actions
import Chip8.Screen
import Mathlib.Data.List.Induction

/-!
Frame after frame on a terminal. A terminal is a painter together with the source of the registers that
it lists. It remembers the frame of the last call, whether or not that call wrote anything, and this decides
how calls bear on later ones: among frames of the right size exactly the repetitions are left out, while
a frame of the wrong size fails and yet is remembered.
-/

namespace Chip8

/-- What an action answers. -/
def Action.answer {σ α : Type} (action : Action σ α) (state : σ) : Except Problem α :=
  match action state with
  | .ok value _ => .ok value
  | .error problem _ => .error problem

namespace Painter

/-- The text of a frame that is drawn. -/
def screen (painter : Painter) (registers : Option (List (String × Int))) (frame : List UInt8) : Text :=
  let clearing : Text := if painter.clear then clearScreen else ""
  let listing : Text := match registers with
    | some registers => "\n" ++ registerText registers
    | none => ""
  clearing ++ Text.joined "\n" ((frameRows 32 frame).map painter.brush.row) ++ listing ++
    Text.ofString "\n"

/-- What a call answers. -/
def outcome (painter : Painter) (registers : Option (List (String × Int))) (frame : List UInt8) :
    Except Problem (Option Text) :=
  if painter.last = some frame ∧ registers.isNone then .ok none
  else if frame.length = 2048 then .ok (some (painter.screen registers frame))
  else .error (.misuse (.frameSizeWrong frame.length))

/-- Every call leaves its frame behind, also one that fails. -/
theorem paint_outcome (frame : List UInt8) (registers : Option (List (String × Int))) (painter : Painter) :
    paint frame registers painter =
      match painter.outcome registers frame with
      | .ok written => .ok written { painter with last := some frame }
      | .error problem => .error problem { painter with last := some frame } := by
  simp only [paint, outcome, Action.bind_apply, Action.get_apply, Action.ite_apply, Action.set_apply,
    Brush.picture]
  by_cases seen : painter.last = some frame ∧ registers.isNone = true
  · rw [if_pos seen, if_pos seen, ← seen.1]
    rfl
  · rw [if_neg seen, if_neg seen]
    by_cases sized : frame.length = 2048
    · simp only [if_pos sized]
      rfl
    · simp only [if_neg sized]
      rfl

theorem outcome_listing (painter : Painter) (registers : List (String × Int)) (frame : List UInt8) :
    painter.outcome (some registers) frame =
      if frame.length = 2048 then .ok (some (painter.screen (some registers) frame))
      else .error (.misuse (.frameSizeWrong frame.length)) := by
  simp [outcome]

theorem outcome_sized {frame : List UInt8} (sized : frame.length = 2048) (painter : Painter)
    (registers : Option (List (String × Int))) :
    painter.outcome registers frame =
      .ok (if painter.last = some frame ∧ registers.isNone then none
        else some (painter.screen registers frame)) := by
  rw [outcome, if_pos sized]
  split <;> rfl

end Painter

/-- A painter with a source of registers. The source tells the registers at a moment, and it may answer each
call differently: it is told how many calls came before. -/
structure Terminal (μ : Type) where
  painter : Painter := {}
  source : Option (μ → Nat → List (String × Int)) := none
  /-- How often the source was called. -/
  asked : Nat := 0

namespace Terminal

variable {μ : Type}

/-- The registers that are listed below a frame. -/
def registers (terminal : Terminal μ) (moment : μ) : Option (List (String × Int)) :=
  terminal.source.map fun source => source moment terminal.asked

/-- Draws a frame and gives the text to write. The source is called only for a frame that can be drawn. -/
def render (moment : μ) (frame : List UInt8) : Action (Terminal μ) (Option Text) := do
  let registers := (← get).registers moment
  let written ← (Painter.paint frame registers).within painter fun painter terminal =>
    { terminal with painter := painter }
  modify fun terminal => { terminal with asked := terminal.asked + if registers.isSome then 1 else 0 }
  return written

/-- The terminal with another frame to remember. -/
def remembering (terminal : Terminal μ) (last : Option (List UInt8)) : Terminal μ :=
  { terminal with painter := { terminal.painter with last := last } }

/-- The terminal after a call. -/
def next (terminal : Terminal μ) (frame : List UInt8) : Terminal μ :=
  { terminal.remembering (some frame) with
    asked := terminal.asked + if terminal.source.isSome ∧ frame.length = 2048 then 1 else 0 }

theorem render_apply (moment : μ) (frame : List UInt8) (terminal : Terminal μ) :
    render moment frame terminal =
      match terminal.painter.outcome (terminal.registers moment) frame with
      | .ok written => .ok written (terminal.next frame)
      | .error problem => .error problem (terminal.next frame) := by
  obtain ⟨painter, source, asked⟩ := terminal
  simp only [render, Action.bind_apply, Action.get_apply, Action.within, Painter.paint_outcome, registers]
  cases source with
  | none =>
      dsimp only [Option.map_none]
      cases painter.outcome none frame <;> simp [next, remembering]
  | some source =>
      by_cases sized : frame.length = 2048 <;>
        simp [Painter.outcome_listing, sized, next, remembering]

/-- The answers to calls, each with the moment of the call and its frame. -/
def results (terminal : Terminal μ) : List (μ × List UInt8) → List (Except Problem (Option Text))
  | [] => []
  | (moment, frame) :: calls =>
      (render moment frame).answer terminal :: ((render moment frame).left terminal).results calls

/-- The terminal after calls. -/
def after (terminal : Terminal μ) (calls : List (μ × List UInt8)) : Terminal μ :=
  calls.foldl (fun terminal call => (render call.1 call.2).left terminal) terminal

@[simp] theorem left_render (moment : μ) (frame : List UInt8) (terminal : Terminal μ) :
    (render moment frame).left terminal = terminal.next frame := by
  rw [Action.left, render_apply]
  cases terminal.painter.outcome (terminal.registers moment) frame <;> rfl

@[simp] theorem answer_render (moment : μ) (frame : List UInt8) (terminal : Terminal μ) :
    (render moment frame).answer terminal =
      terminal.painter.outcome (terminal.registers moment) frame := by
  rw [Action.answer, render_apply]
  cases terminal.painter.outcome (terminal.registers moment) frame <;> rfl

theorem results_cons (terminal : Terminal μ) (moment : μ) (frame : List UInt8)
    (calls : List (μ × List UInt8)) :
    terminal.results ((moment, frame) :: calls) =
      terminal.painter.outcome (terminal.registers moment) frame ::
        (terminal.next frame).results calls := by
  rw [results, answer_render, left_render]

theorem after_cons (terminal : Terminal μ) (moment : μ) (frame : List UInt8)
    (calls : List (μ × List UInt8)) :
    terminal.after ((moment, frame) :: calls) = (terminal.next frame).after calls := by
  rw [after, List.foldl_cons, left_render, ← after]

/-- What is due to be written for each of the calls: without a source the screen of every frame that differs
from the one before, and with one the screen of every frame together with the registers at its moment. -/
def due (terminal : Terminal μ) (calls : List (μ × List UInt8)) : List (Option Text) :=
  match terminal.source with
  | none =>
      let frames := calls.map Prod.snd
      List.zipWith (fun before frame =>
          if before = some frame then none else some (terminal.painter.screen none frame))
        (terminal.painter.last :: frames.map some) frames
  | some source =>
      (calls.zipIdx terminal.asked).map fun ((moment, frame), number) =>
        some (terminal.painter.screen (some (source moment number)) frame)

/-- The texts that are due for calls. -/
def texts (terminal : Terminal μ) (calls : List (μ × List UInt8)) : List Text :=
  (terminal.due calls).filterMap id

@[simp] theorem due_nil (terminal : Terminal μ) : terminal.due [] = [] := by
  cases source : terminal.source <;> simp [due, source]

theorem due_cons (terminal : Terminal μ) (moment : μ) {frame : List UInt8} (sized : frame.length = 2048)
    (calls : List (μ × List UInt8)) :
    terminal.due ((moment, frame) :: calls) =
      (if terminal.painter.last = some frame ∧ (terminal.registers moment).isNone then none
        else some (terminal.painter.screen (terminal.registers moment) frame)) ::
          (terminal.next frame).due calls := by
  obtain ⟨painter, source, asked⟩ := terminal
  cases source with
  | none => simp [due, registers, next, remembering, Painter.screen]
  | some source => simp [due, registers, next, remembering, Painter.screen, sized]

/-- Frames of the right size never fail, and what is written is what is due. -/
theorem results_due (terminal : Terminal μ) (calls : List (μ × List UInt8))
    (sized : ∀ call ∈ calls, call.2.length = 2048) :
    terminal.results calls = (terminal.due calls).map .ok := by
  induction calls generalizing terminal with
  | nil => rw [results, due_nil, List.map_nil]
  | cons call calls ih =>
      obtain ⟨moment, frame⟩ := call
      have ⟨first, rest⟩ := List.forall_mem_cons.mp sized
      rw [results_cons, due_cons terminal moment first, Painter.outcome_sized first, ih _ rest,
        List.map_cons]

theorem after_concat (terminal : Terminal μ) (calls : List (μ × List UInt8)) (call : μ × List UInt8) :
    terminal.after (calls ++ [call]) = (terminal.after calls).next call.2 := by
  rw [after, List.foldl_append, ← after]
  exact left_render call.1 call.2 _

/-- All that calls leave behind is the frame of the last one and the number of calls of the source. -/
theorem after_painter (terminal : Terminal μ) (calls : List (μ × List UInt8)) :
    ∃ last asked, terminal.after calls = { terminal.remembering last with asked := asked } := by
  induction calls using List.reverseRecOn with
  | nil => exact ⟨terminal.painter.last, terminal.asked, rfl⟩
  | append_singleton calls call ih =>
      obtain ⟨last, asked, same⟩ := ih
      rw [after_concat, same]
      exact ⟨_, _, rfl⟩

theorem after_asked (terminal : Terminal μ) {calls : List (μ × List UInt8)}
    (sized : ∀ call ∈ calls, call.2.length = 2048) :
    (terminal.after calls).asked = terminal.asked + if terminal.source.isSome then calls.length else 0 := by
  induction calls generalizing terminal with
  | nil => simp [after]
  | cons call calls ih =>
      obtain ⟨moment, frame⟩ := call
      have ⟨first, rest⟩ := List.forall_mem_cons.mp sized
      rw [after_cons, ih _ rest]
      cases source : terminal.source with
      | none => simp [next, remembering, source]
      | some source => simp [next, remembering, source, first]; omega

theorem due_append (terminal : Terminal μ) {calls : List (μ × List UInt8)}
    (sized : ∀ call ∈ calls, call.2.length = 2048) (more : List (μ × List UInt8)) :
    terminal.due (calls ++ more) = terminal.due calls ++ (terminal.after calls).due more := by
  induction calls generalizing terminal with
  | nil => rw [List.nil_append, due_nil, List.nil_append, after, List.foldl_nil]
  | cons call calls ih =>
      obtain ⟨moment, frame⟩ := call
      have ⟨first, rest⟩ := List.forall_mem_cons.mp sized
      rw [List.cons_append, due_cons terminal moment first, due_cons terminal moment first, ih _ rest,
        after_cons, List.cons_append]

theorem texts_append (terminal : Terminal μ) {calls : List (μ × List UInt8)}
    (sized : ∀ call ∈ calls, call.2.length = 2048) (more : List (μ × List UInt8)) :
    terminal.texts (calls ++ more) = terminal.texts calls ++ (terminal.after calls).texts more := by
  rw [texts, due_append terminal sized, List.filterMap_append, ← texts, ← texts]

theorem screen_after (terminal : Terminal μ) (calls : List (μ × List UInt8)) :
    (terminal.after calls).painter.screen = terminal.painter.screen := by
  obtain ⟨last, asked, same⟩ := terminal.after_painter calls
  rw [same]
  rfl

theorem registers_after (terminal : Terminal μ) {calls : List (μ × List UInt8)}
    (sized : ∀ call ∈ calls, call.2.length = 2048) (moment : μ) :
    (terminal.after calls).registers moment =
      terminal.source.map fun source => source moment (terminal.asked + calls.length) := by
  have count := terminal.after_asked sized
  obtain ⟨last, asked, same⟩ := terminal.after_painter calls
  rw [same] at count ⊢
  cases source : terminal.source with
  | none => simp [registers, remembering, source]
  | some source =>
      have asks : asked = terminal.asked + calls.length := by simpa [source] using count
      simp [registers, remembering, source, asks]

/-- A terminal that started with nothing to remember shows the frame of the last call, whether that call
wrote it or an earlier one. -/
theorem getLast?_texts {terminal : Terminal μ} (fresh : terminal.painter.last = none)
    {calls : List (μ × List UInt8)} (sized : ∀ call ∈ calls, call.2.length = 2048) (moment : μ)
    {frame : List UInt8} (also : frame.length = 2048) :
    (terminal.texts (calls ++ [(moment, frame)])).getLast? =
      some (terminal.painter.screen
        (terminal.source.map fun source => source moment (terminal.asked + calls.length)) frame) := by
  induction calls using List.reverseRecOn generalizing moment frame with
  | nil =>
      rw [texts, List.nil_append, due_cons terminal moment also, fresh]
      simp [registers]
  | append_singleton calls call ih =>
      rw [texts, terminal.due_append sized, due_cons _ moment also, registers_after _ sized, screen_after,
        due_nil, List.filterMap_append]
      split
      · rename_i seen
        -- Nothing was written, since the call before had the same frame and nothing to list.
        obtain ⟨earlier, last⟩ := List.forall_mem_append.mp sized
        have source : terminal.source = none := by simpa using seen.2
        have same : call.2 = frame := by
          rw [after_concat] at seen
          exact Option.some.inj seen.1
        have shown := ih earlier call.1 (last call (List.mem_singleton_self call))
        rw [texts, source, Option.map_none] at shown
        rw [source, Option.map_none, ← same]
        simpa using shown
      · simp

end Terminal

end Chip8
