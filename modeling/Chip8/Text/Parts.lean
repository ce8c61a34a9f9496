/-!
Lists cut at a mark, such as texts at a colon and paths at a slash. Joined with the mark the parts are the
list again, and none of them holds it.
-/

namespace Chip8

variable {α : Type} [DecidableEq α]

/-- Cuts a list at every occurrence of a mark. -/
def partsAt (mark : α) : List α → List (List α)
  | [] => [[]]
  | item :: rest =>
      match partsAt mark rest with
      | part :: parts => if item = mark then [] :: part :: parts else (item :: part) :: parts
      | [] => [[item]]

theorem partsAt_ne_nil (mark : α) (text : List α) : partsAt mark text ≠ [] := by
  cases text with
  | nil => simp [partsAt]
  | cons item rest =>
      rw [partsAt]
      split
      · split <;> simp
      · simp

theorem intercalate_partsAt (mark : α) (text : List α) :
    [mark].intercalate (partsAt mark text) = text := by
  induction text with
  | nil => simp [partsAt, List.intercalate]
  | cons item rest ih =>
      rw [partsAt]
      split
      next part parts cut =>
        rw [cut] at ih
        by_cases same : item = mark
        · simp only [same, ↓reduceIte]
          simp [List.intercalate, List.intersperse, ← ih]
        · simp only [same, ↓reduceIte]
          cases parts with
          | nil => simpa [List.intercalate] using ih
          | cons second others =>
              simp only [List.intercalate, List.intersperse, List.flatten_cons] at ih ⊢
              simp [← ih]
      next empty => exact absurd empty (partsAt_ne_nil mark rest)

theorem not_mem_of_mem_partsAt {mark : α} {text part : List α}
    (member : part ∈ partsAt mark text) : mark ∉ part := by
  induction text generalizing part with
  | nil =>
      simp only [partsAt, List.mem_singleton] at member
      simp [member]
  | cons item rest ih =>
      rw [partsAt] at member
      split at member
      next first parts cut =>
        have inner : ∀ other ∈ first :: parts, mark ∉ other := fun other known => ih (by rwa [cut])
        split at member
        next same =>
          rcases List.mem_cons.1 member with new | old
          · simp [new]
          · exact inner part old
        next other =>
          rcases List.mem_cons.1 member with new | old
          · rw [new]
            simp only [List.mem_cons, not_or]
            exact ⟨fun equal => other equal.symm, inner first (by simp)⟩
          · exact inner part (by simp [old])
      next empty => exact absurd empty (partsAt_ne_nil mark rest)

end Chip8
