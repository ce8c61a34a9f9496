import Chip8.Proofs.Runs

/-!
Two runs side by side. Where related sessions go through a cycle in the same way and the viewers answer
alike, whole runs come to the same and stay related, whatever their clocks do. The first use is a viewer
that records what it is shown: it makes no difference to a run.
-/

namespace Chip8

/-- Two calls come to the same, with the same value or for the same reason, and leave related states. -/
inductive Agree {ε σ τ α : Type} (related : σ → τ → Prop) :
    EStateM.Result ε σ α → EStateM.Result ε τ α → Prop
  | ok (value : α) {first : σ} {second : τ} : related first second →
      Agree related (.ok value first) (.ok value second)
  | error (problem : ε) {first : σ} {second : τ} : related first second →
      Agree related (.error problem first) (.error problem second)

theorem Agree.mono {ε σ τ α : Type} {narrow wide : σ → τ → Prop}
    {first : EStateM.Result ε σ α} {second : EStateM.Result ε τ α} (agree : Agree narrow first second)
    (widens : ∀ state state', narrow state state' → wide state state') : Agree wide first second := by
  cases agree with
  | ok value related => exact .ok value (widens _ _ related)
  | error problem related => exact .error problem (widens _ _ related)

variable {κ κ' ρ ρ' : Type}

theorem Agree.reached {α : Type} {related : Run κ ρ → Run κ' ρ' → Prop}
    {first : EStateM.Result Escape (Run κ ρ) α} {second : EStateM.Result Escape (Run κ' ρ') α}
    (agree : Agree related first second) : related (Run.reached first) (Run.reached second) := by
  cases agree with
  | ok _ related | error _ related => exact related

theorem Agree.value? {α : Type} {related : Run κ ρ → Run κ' ρ' → Prop}
    {first : EStateM.Result Escape (Run κ ρ) α} {second : EStateM.Result Escape (Run κ' ρ') α}
    (agree : Agree related first second) : Run.value? first = Run.value? second := by
  cases agree with
  | ok | error => rfl

/-- What related sessions and viewers have to do for their runs to stay related. -/
structure Simulation (view : Viewer ρ) (view' : Viewer ρ') (sessions : Session → Session → Prop)
    (viewers : ρ → ρ' → Prop) : Prop where
  going : ∀ session session', sessions session session' → session.goesOn = session'.goesOn
  cycled : ∀ session session', sessions session session' →
    Agree sessions (Session.cycle session) (Session.cycle session')
  answers : ∀ session session' snapshot viewer viewer', sessions session session' →
    viewers viewer viewer' →
    (view session.machine snapshot viewer).1 = (view' session'.machine snapshot viewer').1
  watches : ∀ session session' snapshot viewer viewer', sessions session session' →
    viewers viewer viewer' →
    viewers (view session.machine snapshot viewer).2 (view' session'.machine snapshot viewer').2
  stopped : ∀ session session', sessions session session' → sessions session.stop session'.stop
  finished : ∀ session session', sessions session session' →
    sessions (Run.finish session) (Run.finish session') ∧
      (Run.finish session).summary = (Run.finish session').summary

namespace Run

/-- Runs with related sessions and viewers. Their clocks need not have anything in common. -/
def Related (sessions : Session → Session → Prop) (viewers : ρ → ρ' → Prop) (first : Run κ ρ)
    (second : Run κ' ρ') : Prop :=
  sessions first.session second.session ∧ viewers first.viewer second.viewer

variable {view : Viewer ρ} {view' : Viewer ρ'} {sessions : Session → Session → Prop}
  {viewers : ρ → ρ' → Prop}

theorem cycle_agree (simulation : Simulation view view' sessions viewers) {first : Run κ ρ}
    {second : Run κ' ρ'} (related : Related sessions viewers first second) :
    Agree (Related sessions viewers) (cycle view first) (cycle view' second) := by
  obtain ⟨session, viewer⟩ := related
  rw [cycle, cycle]
  have cycled := simulation.cycled _ _ session
  generalize Session.cycle first.session = result at cycled
  generalize Session.cycle second.session = result' at cycled
  cases cycled with
  | error problem after => exact .error _ ⟨after, viewer⟩
  | @ok snapshot session session' after =>
      have watches := simulation.watches _ _ snapshot _ _ after viewer
      dsimp only
      rw [simulation.answers _ _ snapshot _ _ after viewer]
      cases (view' session'.machine snapshot second.viewer).1 with
      | proceed => exact .ok _ ⟨after, watches⟩
      | stop => exact .ok _ ⟨simulation.stopped _ _ after, watches⟩
      | interrupt => exact .error _ ⟨after, watches⟩

theorem play_agree (simulation : Simulation view view' sessions viewers) {fuel : Nat}
    {first : Run κ ρ} {second : Run κ' ρ'} {ending : EStateM.Result Escape (Run κ ρ) Bool}
    {ending' : EStateM.Result Escape (Run κ' ρ') Bool} (played : Play view fuel first ending)
    (played' : Play view' fuel second ending') (related : Related sessions viewers first second) :
    Agree (Related sessions viewers) ending ending' := by
  -- Related runs are related again after a cycle, but with other sessions and times on their clocks.
  induction fuel generalizing first second with
  | zero =>
      cases played
      cases played'
      exact .ok false related
  | succ fuel ih =>
      have next := play_succ played
      have next' := play_succ played'
      rw [← simulation.going _ _ related.1] at next'
      by_cases going : first.session.goesOn = true
      · rw [if_pos going] at next next'
        have cycled := cycle_agree simulation related
        generalize cycle view first = result at cycled next
        generalize cycle view' second = result' at cycled next'
        cases cycled with
        | ok snapshot after =>
            obtain ⟨time, played⟩ := next
            obtain ⟨time', played'⟩ := next'
            exact ih played played' after
        | error escape after =>
            rw [next, next']
            exact .error escape after
      · rw [if_neg going] at next next'
        rw [next, next']
        exact .ok true related

theorem run_agree (simulation : Simulation view view' sessions viewers) (clock : Clock κ)
    (clock' : Clock κ') (fuel : Nat) {first : Run κ ρ} {second : Run κ' ρ'}
    (paced : first.session.settings.hasPeriod = true)
    (paced' : second.session.settings.hasPeriod = true)
    (started : sessions (start first.session) (start second.session))
    (viewer : viewers first.viewer second.viewer) :
    Agree (Related sessions viewers) (run clock view fuel first) (run clock' view' fuel second) := by
  obtain ⟨time, ending, played, ended⟩ := run_play clock view fuel paced
  obtain ⟨time', ending', played', ended'⟩ := run_play clock' view' fuel paced'
  rw [ended, ended']
  cases play_agree simulation played played' ⟨started, viewer⟩ with
  | ok value after =>
      cases value with
      | true =>
          obtain ⟨finished, summary⟩ := simulation.finished _ _ after.1
          rw [closed, closed, summary]
          exact .ok _ ⟨finished, after.2⟩
      | false => exact .ok _ ⟨simulation.stopped _ _ after.1, after.2⟩
  | error escape after => exact .error _ ⟨simulation.stopped _ _ after.1, after.2⟩

end Run

/-- A viewer that also keeps the snapshots it was shown, oldest first. -/
def Viewer.recording (view : Viewer ρ) : Viewer (ρ × List Snapshot) := fun machine snapshot seen =>
  let (signal, viewer) := view machine snapshot seen.1
  (signal, viewer, seen.2 ++ [snapshot])

theorem Simulation.recording {view : Viewer ρ} {view' : Viewer ρ'}
    {sessions : Session → Session → Prop} {viewers : ρ → ρ' → Prop}
    (simulation : Simulation view view' sessions viewers) :
    Simulation view.recording view'.recording sessions
      fun seen seen' => viewers seen.1 seen'.1 ∧ seen.2 = seen'.2 := by
  constructor
  case going => exact simulation.going
  case cycled => exact simulation.cycled
  case answers =>
    intro session session' snapshot seen seen' related known
    exact simulation.answers session session' snapshot _ _ related known.1
  case watches =>
    intro session session' snapshot seen seen' related known
    exact ⟨simulation.watches session session' snapshot _ _ related known.1,
      congrArg (· ++ [snapshot]) known.2⟩
  case stopped => exact simulation.stopped
  case finished => exact simulation.finished

namespace Run

def recording (run : Run κ ρ) : Run κ (ρ × List Snapshot) where
  session := run.session
  clock := run.clock
  viewer := (run.viewer, [])

/-- The snapshots that a run shows, oldest first. -/
def shown (clock : Clock κ) (view : Viewer ρ) (fuel : Nat) (before : Run κ ρ) : List Snapshot :=
  (left (run clock view.recording fuel) before.recording).viewer.2

theorem shown_agree {view : Viewer ρ} {view' : Viewer ρ'} {sessions : Session → Session → Prop}
    {viewers : ρ → ρ' → Prop} (simulation : Simulation view view' sessions viewers) (clock : Clock κ)
    (clock' : Clock κ') (fuel : Nat) {first : Run κ ρ} {second : Run κ' ρ'}
    (paced : first.session.settings.hasPeriod = true)
    (paced' : second.session.settings.hasPeriod = true)
    (started : sessions (start first.session) (start second.session))
    (viewer : viewers first.viewer second.viewer) :
    shown clock view fuel first = shown clock' view' fuel second := by
  have recorded : Agree _ (run clock view.recording fuel first.recording)
      (run clock' view'.recording fuel second.recording) :=
    run_agree simulation.recording clock clock' fuel paced paced' started ⟨viewer, rfl⟩
  exact recorded.reached.2.2

/-- Recording makes no difference to a run. -/
theorem run_recording (clock : Clock κ) (view : Viewer ρ) (fuel : Nat) (before : Run κ ρ) :
    Agree (Related Eq fun viewer seen => viewer = seen.1)
      (run clock view fuel before) (run clock view.recording fuel before.recording) := by
  have simulation : Simulation view view.recording Eq fun viewer seen => viewer = seen.1 := by
    constructor
    case going => exact fun _ _ same => congrArg _ same
    case cycled =>
      intro session _ same
      subst same
      cases Session.cycle session with
      | ok snapshot after => exact .ok snapshot rfl
      | error problem after => exact .error problem rfl
    case answers =>
      intro session _ snapshot viewer seen same known
      subst same known
      rfl
    case watches =>
      intro session _ snapshot viewer seen same known
      subst same known
      rfl
    case stopped => exact fun _ _ same => congrArg _ same
    case finished => exact fun _ _ same => ⟨congrArg _ same, by rw [same]⟩
  by_cases paced : before.session.settings.hasPeriod = true
  · exact run_agree simulation clock clock fuel paced paced rfl rfl
  · rw [run_unpaced clock view fuel paced, run_unpaced clock view.recording fuel paced]
    exact .error _ ⟨rfl, rfl⟩

end Run

end Chip8
