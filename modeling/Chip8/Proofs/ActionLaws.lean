import Chip8.Proofs.Actions

/-!
Two properties of actions that sequences of actions inherit. An action keeps an invariant if it leaves it
behind whenever it completes and leaves nothing changed whenever it is refused; it mirrors another action
if the two do the same, seen through a view of the state.
-/

namespace Chip8

namespace Action

variable {σ τ α β α' β' : Type}

section Keeping

variable {inv : σ → Prop} {same : σ → σ → Prop} {promise : α → Prop} {promise' : β → Prop}

/-- A result that leaves an invariant behind, with a value as promised, or a state that counts as the old one. -/
inductive Kept (inv same : σ → Prop) (promise : α → Prop) : EStateM.Result Problem σ α → Prop
  | done {value : α} {after : σ} : inv after → promise value → Kept inv same promise (.ok value after)
  | refused {problem : Problem} {after : σ} : same after → Kept inv same promise (.error problem after)

/-- An action that may be refused, but then without effect. -/
def Keeps (inv : σ → Prop) (same : σ → σ → Prop) (promise : α → Prop) (action : Action σ α) : Prop :=
  ∀ state, inv state → Kept inv (same state) promise (action state)

/-- An action that is never refused. -/
def Completes (inv : σ → Prop) (promise : α → Prop) (action : Action σ α) : Prop :=
  ∀ state, inv state → Kept inv (fun _ => False) promise (action state)

theorem Kept.of_completed {unchanged : σ → Prop} {result : EStateM.Result Problem σ α}
    (kept : Kept inv (fun _ => False) promise result) : Kept inv unchanged promise result := by
  cases kept with
  | done after value => exact .done after value
  | refused never => exact never.elim

theorem Completes.keeps {action : Action σ α} (completes : Completes inv promise action) :
    Keeps inv same promise action :=
  fun state holds => (completes state holds).of_completed

/-- What follows a refusable action must not be refused itself, for then the first one has had its effect. -/
theorem Keeps.bind {action : Action σ α} {next : α → Action σ β} (first : Keeps inv same promise action)
    (rest : ∀ value, promise value → Completes inv promise' (next value)) :
    Keeps inv same promise' (action >>= next) := by
  intro state holds
  rw [bind_apply]
  have kept := first state holds
  generalize action state = result at kept ⊢
  cases kept with
  | done after value => exact (rest _ value _ after).of_completed
  | refused unchanged => exact .refused unchanged

theorem Completes.bind {action : Action σ α} {next : α → Action σ β}
    (first : Completes inv promise action)
    (rest : ∀ value, promise value → Completes inv promise' (next value)) :
    Completes inv promise' (action >>= next) := by
  intro state holds
  rw [bind_apply]
  have kept := first state holds
  generalize action state = result at kept ⊢
  cases kept with
  | done after value => exact rest _ value _ after
  | refused never => exact .refused never

theorem Completes.pure {value : α} (promised : promise value) :
    Completes inv promise (Pure.pure value : Action σ α) :=
  fun _ holds => .done holds promised

theorem Completes.modify {change : σ → σ} (keeps : ∀ state, inv state → inv (change state)) :
    Completes inv (fun _ => True) (modify change : Action σ PUnit) :=
  fun state holds => .done (keeps state holds) trivial

section Within

variable {part : τ → σ} {replace : σ → τ → τ} {same' : τ → τ → Prop} {action : Action σ α}

theorem Keeps.within (keeps : Keeps inv same promise action) (replaced : ∀ new whole, part (replace new whole) = new)
    (unchanged : ∀ new whole, same (part whole) new → same' whole (replace new whole)) :
    Keeps (fun whole => inv (part whole)) same' promise (action.within part replace) := by
  intro whole holds
  have kept := keeps (part whole) holds
  rw [Action.within]
  generalize action (part whole) = result at kept ⊢
  cases kept with
  | done after value => exact .done (by rwa [replaced]) value
  | refused old => exact .refused (unchanged _ whole old)

theorem Completes.within (completes : Completes inv promise action)
    (replaced : ∀ new whole, part (replace new whole) = new) :
    Completes (fun whole => inv (part whole)) promise (action.within part replace) := by
  have keeps : Keeps inv (fun _ _ => False) promise action := completes
  exact keeps.within replaced fun _ _ never => never

end Within

theorem Keeps.ite {condition : Prop} [Decidable condition] {yes no : Action σ α}
    (first : condition → Keeps inv same promise yes) (second : ¬ condition → Keeps inv same promise no) :
    Keeps inv same promise (if condition then yes else no) := by
  split
  · exact first ‹_›
  · exact second ‹_›

theorem Keeps.fault (unchanged : ∀ state, same state state) (cause : Fault) :
    Keeps inv same promise (fault cause : Action σ α) :=
  fun state _ => .refused (unchanged state)

theorem Keeps.misuse (unchanged : ∀ state, same state state) (cause : Misuse) :
    Keeps inv same promise (misuse cause : Action σ α) :=
  fun state _ => .refused (unchanged state)

theorem Keeps.discard {action : Action σ α} (keeps : Keeps inv same promise action) :
    Keeps inv same (fun _ => True) (Functor.discard action : Action σ PUnit) := by
  intro state holds
  rw [discard_apply]
  have kept := keeps state holds
  generalize action state = result at kept ⊢
  cases kept with
  | done after _ => exact .done after trivial
  | refused unchanged => exact .refused unchanged

end Keeping

section Mirroring

variable {view : σ → τ} {number : α → β} {number' : α' → β'}

/-- A result seen through a view of the state and of the value. -/
def viewed (view : σ → τ) (number : α → β) : EStateM.Result Problem σ α → EStateM.Result Problem τ β
  | .ok value after => .ok (number value) (view after)
  | .error problem after => .error problem (view after)

/-- An action on the view does what the other does on the state itself. -/
def Mirrors (view : σ → τ) (number : α → β) (image : Action τ β) (action : Action σ α) : Prop :=
  ∀ state, image (view state) = viewed view number (action state)

theorem Mirrors.bind {image : Action τ β} {action : Action σ α} {next' : β → Action τ β'}
    {next : α → Action σ α'} (first : Mirrors view number image action)
    (rest : ∀ value, Mirrors view number' (next' (number value)) (next value)) :
    Mirrors view number' (image >>= next') (action >>= next) := by
  intro state
  rw [bind_apply, bind_apply, first state]
  cases action state with
  | ok value after => exact rest value after
  | error problem after => rfl

theorem Mirrors.pure (value : α) :
    Mirrors view number (Pure.pure (number value) : Action τ β) (Pure.pure value : Action σ α) :=
  fun _ => rfl

theorem Mirrors.modify {change : σ → σ} {change' : τ → τ}
    (same : ∀ state, change' (view state) = view (change state)) :
    Mirrors view id (modify change' : Action τ PUnit) (modify change : Action σ PUnit) := by
  intro state
  rw [modify_apply, modify_apply, same]
  rfl

theorem Mirrors.within {σ' τ' : Type} {whole : σ' → τ'} {part : σ' → σ} {part' : τ' → τ}
    {replace : σ → σ' → σ'} {replace' : τ → τ' → τ'} {image : Action τ β} {action : Action σ α}
    (mirrors : Mirrors view number image action) (parts : ∀ state, part' (whole state) = view (part state))
    (replaced : ∀ new state, replace' (view new) (whole state) = whole (replace new state)) :
    Mirrors whole number (image.within part' replace') (action.within part replace) := by
  intro state
  rw [Action.within, Action.within, parts, mirrors (part state)]
  cases action (part state) with
  | ok value after => simp only [viewed, replaced]
  | error problem after => simp only [viewed, replaced]

theorem Mirrors.ite {condition : Prop} [Decidable condition] {yes' no' : Action τ β} {yes no : Action σ α}
    (first : Mirrors view number yes' yes) (second : Mirrors view number no' no) :
    Mirrors view number (if condition then yes' else no') (if condition then yes else no) := by
  split
  · exact first
  · exact second

/-- A guard on the state itself may also hand over the proof that it was passed. -/
theorem Mirrors.dite {condition : Prop} [Decidable condition] {yes' no' : Action τ β}
    {yes : condition → Action σ α} {no : Action σ α}
    (first : ∀ holds, Mirrors view number yes' (yes holds)) (second : Mirrors view number no' no) :
    Mirrors view number (if condition then yes' else no') (if holds : condition then yes holds else no) := by
  split
  · exact first ‹_›
  · exact second

theorem Mirrors.fault (cause : Fault) :
    Mirrors view number (Action.fault cause : Action τ β) (Action.fault cause : Action σ α) :=
  fun _ => rfl

theorem Mirrors.misuse (cause : Misuse) :
    Mirrors view number (Action.misuse cause : Action τ β) (Action.misuse cause : Action σ α) :=
  fun _ => rfl

theorem Mirrors.discard {image : Action τ β} {action : Action σ α} (mirrors : Mirrors view number image action) :
    Mirrors view id (Functor.discard image : Action τ PUnit) (Functor.discard action : Action σ PUnit) := by
  intro state
  rw [discard_apply, discard_apply, mirrors state]
  cases action state <;> rfl

end Mirroring

end Action

end Chip8
