import Chip8.Proofs.Rendering

/-!
The traces of failed calls. A frame of the wrong size fails, unless it comes twice in a row: the terminal
remembers it although it never drew it. For the same reason a frame that was drawn is drawn again when only
frames of the wrong size have come since. These are all the ways in which a failed call bears on others, and
a terminal that lists registers knows none of them.
-/

namespace Chip8

/-- A frame of the wrong size comes twice in a row, or a frame of the right size comes again and only
frames of the wrong size, at least one, lie between. -/
def Echoes (frames : List (List UInt8)) : Prop :=
  ∃ frame between, frame :: (between ++ [frame]) <:+: frames ∧
    (∀ other ∈ between, other.length ≠ 2048) ∧ (frame.length = 2048 ↔ between ≠ [])

/-- The first frame of the right size. -/
def firstSized (frames : List (List UInt8)) : Option (List UInt8) :=
  frames.find? fun frame => frame.length = 2048

theorem length_of_firstSized {frames : List (List UInt8)} {frame : List UInt8}
    (first : firstSized frames = some frame) : frame.length = 2048 := by
  simpa using List.find?_some first

theorem firstSized_cons_sized {frame : List UInt8} (sized : frame.length = 2048)
    (frames : List (List UInt8)) : firstSized (frame :: frames) = some frame :=
  List.find?_cons_of_pos (decide_eq_true sized)

theorem firstSized_cons_wrong {frame : List UInt8} (wrong : frame.length ≠ 2048)
    (frames : List (List UInt8)) : firstSized (frame :: frames) = firstSized frames :=
  List.find?_cons_of_neg (by simpa using wrong)

theorem firstSized_eq_some {frame : List UInt8} (sized : frame.length = 2048)
    (frames : List (List UInt8)) :
    firstSized frames = some frame ↔
      ∃ between, between ++ [frame] <+: frames ∧ ∀ other ∈ between, other.length ≠ 2048 := by
  simp only [firstSized, List.find?_eq_some_iff_append, sized, decide_true, true_and, Bool.not_eq_true',
    decide_eq_false_iff_not]
  constructor
  · rintro ⟨between, rest, rfl, wrong⟩
    exact ⟨between, ⟨rest, by simp⟩, wrong⟩
  · rintro ⟨between, ⟨rest, rfl⟩, wrong⟩
    exact ⟨between, rest, by simp, wrong⟩

theorem not_echoes_nil : ¬ Echoes [] := by
  rintro ⟨frame, between, inside, _⟩
  cases List.infix_nil.mp inside

theorem echoes_cons (frame : List UInt8) (frames : List (List UInt8)) :
    Echoes (frame :: frames) ↔
      (∃ between, between ++ [frame] <+: frames ∧ (∀ other ∈ between, other.length ≠ 2048) ∧
        (frame.length = 2048 ↔ between ≠ [])) ∨ Echoes frames := by
  constructor
  · rintro ⟨again, between, inside, wrong, ends⟩
    rcases List.infix_cons_iff.mp inside with start | later
    · obtain ⟨rfl, rest⟩ := List.cons_prefix_cons.mp start
      exact .inl ⟨between, rest, wrong, ends⟩
    · exact .inr ⟨again, between, later, wrong, ends⟩
  · rintro (⟨between, start, wrong, ends⟩ | ⟨again, between, later, wrong, ends⟩)
    · exact ⟨frame, between, (List.cons_prefix_cons.mpr ⟨rfl, start⟩).isInfix, wrong, ends⟩
    · exact ⟨again, between, later.trans (List.suffix_cons frame frames).isInfix, wrong, ends⟩

theorem not_echoes_singleton (frame : List UInt8) : ¬ Echoes [frame] := by
  rw [echoes_cons]
  rintro (⟨between, start, _⟩ | rest)
  · simp at start
  · exact not_echoes_nil rest

/-- A frame of the right size is not echoed by the one after it. -/
theorem echoes_cons_cons_sized (last : List UInt8) {frame : List UInt8} (sized : frame.length = 2048)
    (frames : List (List UInt8)) :
    Echoes (last :: frame :: frames) ↔ Echoes (frame :: frames) := by
  rw [echoes_cons]
  refine or_iff_right ?_
  rintro ⟨_ | ⟨first, between⟩, start, wrong, ends⟩
  · obtain ⟨rfl, _⟩ := List.cons_prefix_cons.mp start
    exact ends.mp sized rfl
  · obtain ⟨rfl, _⟩ := List.cons_prefix_cons.mp start
    exact wrong _ List.mem_cons_self sized

theorem echoes_cons_cons_wrong (last : List UInt8) {frame : List UInt8} (wrong : frame.length ≠ 2048)
    (frames : List (List UInt8)) :
    Echoes (last :: frame :: frames) ↔
      last = frame ∨ firstSized frames = some last ∨ Echoes (frame :: frames) := by
  rw [echoes_cons, ← or_assoc]
  refine or_congr ?_ Iff.rfl
  constructor
  · rintro ⟨_ | ⟨first, between⟩, start, others, ends⟩
    · exact .inl (List.cons_prefix_cons.mp start).1
    · obtain ⟨rfl, rest⟩ := List.cons_prefix_cons.mp start
      have sized : last.length = 2048 := ends.mpr (List.cons_ne_nil _ _)
      exact .inr ((firstSized_eq_some sized frames).mpr ⟨between, rest, (List.forall_mem_cons.mp others).2⟩)
  · rintro (rfl | first)
    · exact ⟨[], by simp, by simp, by simpa using wrong⟩
    · have sized := length_of_firstSized first
      obtain ⟨between, rest, others⟩ := (firstSized_eq_some sized frames).mp first
      exact ⟨frame :: between, List.cons_prefix_cons.mpr ⟨rfl, rest⟩,
        List.forall_mem_cons.mpr ⟨wrong, others⟩, by simpa using sized⟩

/-- Whether calls answer the same on two terminals, one of which does without the frames of the wrong size.
They start with different frames to remember. -/
def Unechoed (before drawn : Option (List UInt8)) : List (List UInt8) → Prop
  | [] => True
  | frame :: frames =>
      if frame.length = 2048 then
        (before = some frame ↔ drawn = some frame) ∧ Unechoed (some frame) (some frame) frames
      else before ≠ some frame ∧ Unechoed (some frame) drawn frames

theorem unechoed_cons_sized (before drawn : Option (List UInt8)) {frame : List UInt8}
    (sized : frame.length = 2048) (frames : List (List UInt8)) :
    Unechoed before drawn (frame :: frames) ↔
      (before = some frame ↔ drawn = some frame) ∧ Unechoed (some frame) (some frame) frames := by
  rw [Unechoed, if_pos sized]

theorem unechoed_cons_wrong (before drawn : Option (List UInt8)) {frame : List UInt8}
    (wrong : frame.length ≠ 2048) (frames : List (List UInt8)) :
    Unechoed before drawn (frame :: frames) ↔
      before ≠ some frame ∧ Unechoed (some frame) drawn frames := by
  rw [Unechoed, if_neg wrong]

/-- As long as both terminals remember the same frame, and while one of them remembers a frame of the wrong
size that the other has not seen. -/
theorem unechoed_cases (frames : List (List UInt8)) :
    (∀ last : Option (List UInt8), Unechoed last last frames ↔ ¬ Echoes (last.toList ++ frames)) ∧
    ∀ (wrong : List UInt8) (drawn : Option (List UInt8)), wrong.length ≠ 2048 →
      (Unechoed (some wrong) drawn frames ↔
        (¬ ∃ frame, drawn = some frame ∧ firstSized frames = some frame) ∧ ¬ Echoes (wrong :: frames)) := by
  -- Each frame leads from one of the two situations to one of them.
  induction frames with
  | nil =>
      constructor
      · rintro (_ | last) <;> simp [Unechoed, not_echoes_nil, not_echoes_singleton]
      · intro wrong drawn size
        simp [Unechoed, not_echoes_singleton, firstSized]
  | cons frame frames ih =>
      obtain ⟨same, other⟩ := ih
      by_cases sized : frame.length = 2048
      · have rest : Unechoed (some frame) (some frame) frames ↔ ¬ Echoes (frame :: frames) :=
          same (some frame)
        constructor
        · rintro (_ | last) <;>
            simp [unechoed_cons_sized _ _ sized, echoes_cons_cons_sized _ sized, rest]
        · intro wrong drawn size
          have different : wrong ≠ frame := by
            rintro rfl
            exact size sized
          rw [unechoed_cons_sized _ _ sized, echoes_cons_cons_sized _ sized, rest,
            firstSized_cons_sized sized]
          simp [different]
      · constructor
        · rintro (_ | last)
          · simp [unechoed_cons_wrong _ _ sized, other frame _ sized]
          · simp [unechoed_cons_wrong _ _ sized, other frame _ sized, echoes_cons_cons_wrong _ sized]
        · intro wrong drawn size
          have never : firstSized frames ≠ some wrong := fun first => size (length_of_firstSized first)
          rw [unechoed_cons_wrong _ _ sized, other frame _ sized, echoes_cons_cons_wrong _ sized,
            firstSized_cons_wrong sized]
          simp [never, and_left_comm]

namespace Terminal

variable {μ : Type}

/-- Calls on a terminal fail for the frames of the wrong size, and for the others they answer as another
terminal does that only sees those. -/
structure Omits (terminal other : Terminal μ) (calls : List (μ × List UInt8)) : Prop where
  failing : ∀ pair ∈ calls.zip (terminal.results calls), pair.1.2.length ≠ 2048 →
    pair.2 = .error (.misuse (.frameSizeWrong pair.1.2.length))
  others : ((calls.zip (terminal.results calls)).filter fun pair => pair.1.2.length = 2048).map Prod.snd =
    other.results (calls.filter fun call => call.2.length = 2048)

/-- The calls with a frame of the wrong size fail, and the others answer as if those had not been made. -/
def Traceless (terminal : Terminal μ) (calls : List (μ × List UInt8)) : Prop :=
  terminal.Omits terminal calls

theorem omits_cons_sized (terminal other : Terminal μ) (moment : μ) {frame : List UInt8}
    (sized : frame.length = 2048) (calls : List (μ × List UInt8)) :
    terminal.Omits other ((moment, frame) :: calls) ↔
      terminal.painter.outcome (terminal.registers moment) frame =
          other.painter.outcome (other.registers moment) frame ∧
        (terminal.next frame).Omits (other.next frame) calls := by
  constructor
  · rintro ⟨failing, others⟩
    simp only [results_cons, List.zip_cons_cons, List.forall_mem_cons] at failing
    simp only [results_cons, List.zip_cons_cons, List.filter_cons, sized, decide_true, if_true,
      List.map_cons, List.cons.injEq] at others
    exact ⟨others.1, failing.2, others.2⟩
  · rintro ⟨same, failing, others⟩
    constructor
    · simp only [results_cons, List.zip_cons_cons, List.forall_mem_cons]
      exact ⟨absurd sized, failing⟩
    · simp only [results_cons, List.zip_cons_cons, List.filter_cons, sized, decide_true, if_true,
        List.map_cons, same, others]

theorem omits_cons_wrong (terminal other : Terminal μ) (moment : μ) {frame : List UInt8}
    (wrong : frame.length ≠ 2048) (calls : List (μ × List UInt8)) :
    terminal.Omits other ((moment, frame) :: calls) ↔
      terminal.painter.outcome (terminal.registers moment) frame =
          .error (.misuse (.frameSizeWrong frame.length)) ∧
        (terminal.next frame).Omits other calls := by
  have left : decide (frame.length = 2048) = false := decide_eq_false wrong
  constructor
  · rintro ⟨failing, others⟩
    simp only [results_cons, List.zip_cons_cons, List.forall_mem_cons] at failing
    simp only [results_cons, List.zip_cons_cons, List.filter_cons, left, Bool.false_eq_true,
      if_false] at others
    exact ⟨failing.1 wrong, failing.2, others⟩
  · rintro ⟨fails, failing, others⟩
    constructor
    · simp only [results_cons, List.zip_cons_cons, List.forall_mem_cons]
      exact ⟨fun _ => fails, failing⟩
    · simp only [results_cons, List.zip_cons_cons, List.filter_cons, left, Bool.false_eq_true, if_false,
        others]

theorem omits_nil (terminal other : Terminal μ) : terminal.Omits other [] :=
  ⟨fun _ member => absurd member List.not_mem_nil, rfl⟩

theorem next_last (terminal : Terminal μ) (frame : List UInt8) :
    (terminal.next frame).painter.last = some frame := rfl

/-- What a call leaves behind does not depend on what the terminal remembered. -/
theorem next_remembering (terminal : Terminal μ) (last : Option (List UInt8)) (frame : List UInt8) :
    (terminal.remembering last).next frame = terminal.next frame := rfl

theorem registers_remembering (terminal : Terminal μ) (last : Option (List UInt8)) (moment : μ) :
    (terminal.remembering last).registers moment = terminal.registers moment := rfl

theorem screen_remembering (terminal : Terminal μ) (last : Option (List UInt8)) :
    (terminal.remembering last).painter.screen = terminal.painter.screen := rfl

theorem remembering_last (terminal : Terminal μ) :
    terminal.remembering terminal.painter.last = terminal := rfl

theorem remembering_next {terminal : Terminal μ} {frame : List UInt8}
    (uncounted : ¬ (terminal.source.isSome = true ∧ frame.length = 2048)) (last : Option (List UInt8)) :
    terminal.remembering last = (terminal.next frame).remembering last := by
  simp only [remembering, next, if_neg uncounted, Nat.add_zero]

/-- With a listing of the registers the frame that is remembered does not matter. -/
theorem omits_listing (terminal : Terminal μ) (listing : terminal.source.isSome = true)
    (last : Option (List UInt8)) (calls : List (μ × List UInt8)) :
    terminal.Omits (terminal.remembering last) calls := by
  induction calls generalizing terminal last with
  | nil => exact omits_nil terminal _
  | cons call calls ih =>
      obtain ⟨moment, frame⟩ := call
      obtain ⟨source, asks⟩ := Option.isSome_iff_exists.mp listing
      have registers : terminal.registers moment = some (source moment terminal.asked) := by
        rw [Terminal.registers, asks, Option.map_some]
      have later := ih (terminal.next frame) listing
      by_cases sized : frame.length = 2048
      · rw [omits_cons_sized terminal _ moment sized, next_remembering, registers_remembering,
          registers, Painter.outcome_listing, Painter.outcome_listing]
        exact ⟨rfl, later (some frame)⟩
      · rw [omits_cons_wrong terminal _ moment sized, registers, Painter.outcome_listing, if_neg sized,
          remembering_next (fun counted => sized counted.2)]
        exact ⟨rfl, later last⟩

theorem omits_plain (terminal : Terminal μ) (plain : terminal.source = none)
    (drawn : Option (List UInt8)) (calls : List (μ × List UInt8)) :
    terminal.Omits (terminal.remembering drawn) calls ↔
      Unechoed terminal.painter.last drawn (calls.map Prod.snd) := by
  induction calls generalizing terminal drawn with
  | nil => exact iff_of_true (omits_nil terminal _) trivial
  | cons call calls ih =>
      obtain ⟨moment, frame⟩ := call
      have registers : terminal.registers moment = none := by
        rw [Terminal.registers, plain, Option.map_none]
      have later := ih (terminal.next frame) plain
      rw [List.map_cons]
      by_cases sized : frame.length = 2048
      · rw [omits_cons_sized terminal _ moment sized, next_remembering, unechoed_cons_sized _ _ sized,
          registers_remembering, registers, Painter.outcome_sized sized, Painter.outcome_sized sized,
          screen_remembering]
        refine and_congr ?_ (later (some frame))
        have last : (terminal.remembering drawn).painter.last = drawn := rfl
        rw [last]
        by_cases seen : terminal.painter.last = some frame <;> by_cases other : drawn = some frame <;>
          simp [seen, other]
      · rw [omits_cons_wrong terminal _ moment sized, remembering_next (fun counted => sized counted.2),
          unechoed_cons_wrong _ _ sized, registers]
        refine and_congr ?_ (later drawn)
        by_cases seen : terminal.painter.last = some frame <;> simp [Painter.outcome, seen, sized]

theorem traceless_iff (terminal : Terminal μ) (calls : List (μ × List UInt8)) :
    terminal.Traceless calls ↔
      terminal.source.isSome = true ∨ ¬ Echoes (terminal.painter.last.toList ++ calls.map Prod.snd) := by
  rw [Traceless]
  cases source : terminal.source with
  | none =>
      have plain := omits_plain terminal source terminal.painter.last calls
      rw [remembering_last, (unechoed_cases _).1] at plain
      simp [plain]
  | some asks =>
      have listing : terminal.source.isSome = true := by
        rw [source]
        rfl
      have traceless := omits_listing terminal listing terminal.painter.last calls
      rw [remembering_last] at traceless
      exact iff_of_true traceless (.inl rfl)

/-- How a failed call bears on others. A frame of the wrong size writes nothing and fails, except that a
terminal without a listing keeps silent if the frame is the one of the call before. All calls with such a
frame fail, and the others answer as if those had not been made, exactly if there is a listing or the frames
do not echo. -/
theorem failed_frames_remembered (terminal : Terminal μ) (calls : List (μ × List UInt8)) :
    (∀ moment frame, frame.length ≠ 2048 →
      (render moment frame).answer terminal =
        if terminal.painter.last = some frame ∧ terminal.source = none then .ok none
        else .error (.misuse (.frameSizeWrong frame.length))) ∧
    (∀ moment frame, ((render moment frame).left terminal).painter.last = some frame) ∧
    (terminal.Traceless calls ↔
      terminal.source.isSome = true ∨
        ¬ Echoes (terminal.painter.last.toList ++ calls.map Prod.snd)) := by
  refine ⟨?_, ?_, terminal.traceless_iff calls⟩
  · intro moment frame wrong
    simp [Painter.outcome, registers, wrong]
  · intro moment frame
    rw [left_render, next_last]

/-- Two frames of one byte, and a blank frame that comes again after a frame of one byte. -/
theorem failed_frames_traced :
    ¬ ({} : Terminal Unit).Traceless [((), [0]), ((), [0])] ∧
      ¬ ({} : Terminal Unit).Traceless
        [((), List.replicate 2048 0), ((), [0]), ((), List.replicate 2048 0)] := by
  simp only [traceless_iff, List.map_cons, List.map_nil]
  constructor
  · have echoes : Echoes [[0], [0]] := ⟨[0], [], List.infix_rfl, by simp, by simp⟩
    simp [echoes]
  · have size : (List.replicate 2048 (0 : UInt8)).length = 2048 := List.length_replicate
    generalize List.replicate 2048 (0 : UInt8) = blank at size
    have echoes : Echoes [blank, [0], blank] := ⟨blank, [[0]], List.infix_rfl, by simp, by simp [size]⟩
    simp [echoes]

end Terminal

end Chip8
