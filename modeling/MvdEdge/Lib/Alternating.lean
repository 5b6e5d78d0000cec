import Mathlib.Data.List.Basic

/-! Sequences in which two letters take turns. -/

set_option autoImplicit false

namespace MvdEdge.Lib

variable {α : Type}

/-- `first`, `second`, `first`, ... for as long as the list goes on. -/
def Alternating (first second : α) : List α → Prop
  | [] => True
  | letter :: rest => letter = first ∧ Alternating second first rest

def turn [DecidableEq α] (first second : α) (letters : List α) : α :=
  if letters.getLast? = some first then second else first

theorem Alternating.of_append {first second : α} {letters rest : List α}
    (alternating : Alternating first second (letters ++ rest)) :
    Alternating first second letters := by
  induction letters generalizing first second with
  | nil => trivial
  | cons letter letters ih => exact ⟨alternating.1, ih alternating.2⟩

private theorem getLast?_mem_pair {first second : α} {letters : List α}
    (alternating : Alternating first second letters) {last : α}
    (found : letters.getLast? = some last) : last = first ∨ last = second := by
  induction letters generalizing first second with
  | nil => simp at found
  | cons letter letters ih =>
      cases letters with
      | nil => exact .inl (by simpa [alternating.1, eq_comm] using found)
      | cons next rest =>
          rw [List.getLast?_cons_cons] at found
          exact (ih alternating.2 found).symm

theorem Alternating.concat [DecidableEq α] {first second : α} (distinct : first ≠ second)
    {letters : List α} (alternating : Alternating first second letters) :
    Alternating first second (letters ++ [turn first second letters]) := by
  induction letters generalizing first second with
  | nil => exact ⟨by simp [turn], trivial⟩
  | cons letter letters ih =>
      refine ⟨alternating.1, ?_⟩
      have continued := ih distinct.symm alternating.2
      suffices same : turn first second (letter :: letters) = turn second first letters by
        rw [List.append_eq, same]
        exact continued
      cases letters with
      | nil => simp [turn, alternating.1]
      | cons next rest =>
          have last := getLast?_mem_pair alternating.2 (List.getLast?_eq_some_getLast (by simp))
          unfold turn
          rw [List.getLast?_cons_cons, List.getLast?_eq_some_getLast (List.cons_ne_nil next rest)]
          cases last with
          | inl isSecond =>
              rw [isSecond]
              simp [distinct.symm]
          | inr isFirst =>
              rw [isFirst]
              simp [distinct]

end MvdEdge.Lib
