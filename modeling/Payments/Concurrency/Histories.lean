import Mathlib.Data.List.Basic

namespace Payments
namespace Concurrency

/-!
# Conditions along a history

A history lists what has happened, newest first.  Many properties of runs say
that whatever has happened was justified by what had happened before it.  Such
a property is kept by every step that records a justified entry, and it says
something about every entry of the history.
-/

variable {Entry : Type} {allowed : Entry -> List Entry -> Prop}

/-- Every entry was allowed by the entries before it. -/
def Along (allowed : Entry -> List Entry -> Prop) : List Entry -> Prop
  | [] => True
  | entry :: earlier => allowed entry earlier ∧ Along allowed earlier

namespace Along

theorem nil : Along allowed [] := trivial

theorem cons {entry : Entry} {history : List Entry} (along : Along allowed history)
    (admitted : allowed entry history) : Along allowed (entry :: history) :=
  ⟨admitted, along⟩

theorem mono {weaker : Entry -> List Entry -> Prop} {history : List Entry} (along : Along allowed history)
    (implied : forall entry earlier, allowed entry earlier -> weaker entry earlier) : Along weaker history := by
  induction history with
  | nil => trivial
  | cons entry earlier inductionHypothesis =>
      exact ⟨implied entry earlier along.1, inductionHypothesis along.2⟩

theorem suffix {earlier history : List Entry} (along : Along allowed history) (grown : earlier <:+ history) :
    Along allowed earlier := by
  rcases grown with ⟨later, rfl⟩
  induction later with
  | nil => exact along
  | cons entry later inductionHypothesis => exact inductionHypothesis along.2

/-- What holds along a history holds at each of its entries. -/
theorem at_split {later earlier history : List Entry} {entry : Entry} (along : Along allowed history)
    (split : history = later ++ entry :: earlier) : allowed entry earlier :=
  (along.suffix ⟨later, split.symm⟩).1

/-- Entries that are allowed in every case may be appended. -/
theorem append {new history : List Entry} (along : Along allowed history)
    (admitted : forall entry, entry ∈ new -> forall earlier, allowed entry earlier) :
    Along allowed (new ++ history) := by
  induction new with
  | nil => exact along
  | cons head tail inductionHypothesis =>
      refine (inductionHypothesis (fun entry listed => admitted entry (List.mem_cons_of_mem _ listed))).cons ?_
      exact admitted head List.mem_cons_self _

/-- Of two entries of a history, one was allowed when the other one had happened. -/
theorem of_two {history : List Entry} {first second : Entry} (along : Along allowed history)
    (one : first ∈ history) (two : second ∈ history) (different : first ≠ second) :
    (Exists fun earlier => allowed first earlier ∧ second ∈ earlier) ∨
      Exists fun earlier => allowed second earlier ∧ first ∈ earlier := by
  induction history with
  | nil => cases one
  | cons head tail inductionHypothesis =>
      rcases List.mem_cons.mp one with same | before
      · rcases List.mem_cons.mp two with same' | before'
        · exact absurd (same.trans same'.symm) different
        · exact .inl ⟨tail, same ▸ along.1, before'⟩
      · rcases List.mem_cons.mp two with same' | before'
        · exact .inr ⟨tail, same' ▸ along.1, before⟩
        · exact inductionHypothesis along.2 before before'

end Along

/-- A new entry stands at the end of a split, or it was recorded before. -/
theorem split_cons {later earlier history : List Entry} {entry new : Entry}
    (split : new :: history = later ++ entry :: earlier) :
    (later = [] ∧ entry = new ∧ earlier = history) ∨
      Exists fun rest => later = new :: rest ∧ history = rest ++ entry :: earlier := by
  cases later with
  | nil =>
      have parts := List.cons.inj split
      exact .inl ⟨rfl, parts.1.symm, parts.2.symm⟩
  | cons head tail =>
      have parts := List.cons.inj split
      exact .inr ⟨tail, by rw [parts.1], parts.2⟩

/-- A prefix without the entry does not split at it. -/
theorem split_append {new later earlier history : List Entry} {entry : Entry} (fresh : entry ∉ new)
    (split : new ++ history = later ++ entry :: earlier) :
    Exists fun rest => later = new ++ rest ∧ history = rest ++ entry :: earlier := by
  induction new generalizing later with
  | nil => exact ⟨later, rfl, split⟩
  | cons head tail inductionHypothesis =>
      rcases split_cons split with ⟨_, same, _⟩ | ⟨rest, same, remaining⟩
      · exact absurd (same ▸ List.mem_cons_self) fresh
      · rcases inductionHypothesis (fun listed => fresh (List.mem_cons_of_mem _ listed)) remaining with
          ⟨rest', same', split'⟩
        exact ⟨rest', by rw [same, same', List.cons_append], split'⟩

end Concurrency
end Payments
