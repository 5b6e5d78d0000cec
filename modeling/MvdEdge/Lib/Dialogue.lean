import Mathlib.Data.List.Basic

/-! Programs that ask questions and go on from the answers: held against a list of
answers, or with a party that answers each question and remembers. -/

set_option autoImplicit false

namespace MvdEdge.Lib

inductive Dialogue (Q A α : Type) where
  | done (value : α)
  | ask (question : Q) (next : A → Dialogue Q A α)

/-- A party that answers questions, in a state of its own. -/
structure Party (σ Q A : Type) where
  respond : σ → Q → A × σ

variable {σ Q A B α β : Type}

namespace Dialogue

def bind : Dialogue Q A α → (α → Dialogue Q A β) → Dialogue Q A β
  | .done value, rest => rest value
  | .ask question next, rest => .ask question fun answer => (next answer).bind rest

@[simp] theorem bind_done (dialogue : Dialogue Q A α) : dialogue.bind .done = dialogue := by
  induction dialogue with
  | done value => rfl
  | ask question next ih => exact congrArg (ask question) (funext ih)

section Answers

variable (answers : Nat → A)

/-- The outcome and the questions asked, with `answers` from the number `first` on. -/
def converse : Nat → Dialogue Q A α → α × List Q
  | _, .done value => (value, [])
  | first, .ask question next =>
      let (value, questions) := converse (first + 1) (next (answers first))
      (value, question :: questions)

@[simp] theorem converse_done (first : Nat) (value : α) :
    converse answers first (.done value : Dialogue Q A α) = (value, []) := rfl

theorem converse_bind (dialogue : Dialogue Q A α) (rest : α → Dialogue Q A β) (first : Nat) :
    converse answers first (dialogue.bind rest) =
      let begun := converse answers first dialogue
      let ended := converse answers (first + begun.2.length) (rest begun.1)
      (ended.1, begun.2 ++ ended.2) := by
  induction dialogue generalizing first with
  | done value => rfl
  | ask question next ih =>
      simp only [bind, converse, ih, List.length_cons, List.cons_append]
      rw [Nat.add_right_comm, Nat.add_assoc]

end Answers

end Dialogue

namespace Party

variable (party : Party σ Q A)

/-- The outcome, the questions asked and what they leave of the party. -/
def converse : σ → Dialogue Q A α → α × List Q × σ
  | state, .done value => (value, [], state)
  | state, .ask question next =>
      let (answer, reached) := party.respond state question
      let (value, questions, final) := converse reached (next answer)
      (value, question :: questions, final)

/-- What questions leave of the party. -/
def hear (state : σ) (questions : List Q) : σ :=
  questions.foldl (fun state question => (party.respond state question).2) state

/-- The answers from the number `first` on are those of the party to the questions. -/
def Gives (answers : Nat → A) : σ → Nat → List Q → Prop
  | _, _, [] => True
  | state, first, question :: questions =>
      answers first = (party.respond state question).1 ∧
        Gives answers (party.respond state question).2 (first + 1) questions

/-- The party as heard through what is made of its answers. -/
def through (party : Party σ Q A) (translate : A → B) : Party σ Q B where
  respond := fun state question =>
    (translate (party.respond state question).1, (party.respond state question).2)

variable {party}

theorem hear_append (state : σ) (earlier later : List Q) :
    party.hear state (earlier ++ later) = party.hear (party.hear state earlier) later :=
  List.foldl_append

theorem Gives.through {answers : Nat → A} {state : σ} {first : Nat} {questions : List Q}
    (gives : party.Gives answers state first questions) (translate : A → B) :
    (party.through translate).Gives (fun number => translate (answers number)) state first
      questions := by
  induction questions generalizing state first with
  | nil => exact trivial
  | cons question questions ih =>
      obtain ⟨answered, later⟩ := gives
      exact ⟨congrArg translate answered, ih later⟩

theorem Gives.append {answers : Nat → A} {state : σ} {first : Nat} {earlier later : List Q}
    (gives : party.Gives answers state first (earlier ++ later)) :
    party.Gives answers state first earlier ∧
      party.Gives answers (party.hear state earlier) (first + earlier.length) later := by
  induction earlier generalizing state first with
  | nil => exact ⟨trivial, gives⟩
  | cons question earlier ih =>
      obtain ⟨answered, rest⟩ := gives
      obtain ⟨begun, ended⟩ := ih rest
      rw [Nat.add_right_comm] at ended
      exact ⟨⟨answered, begun⟩, ended⟩

/-- Answers that are the party's make for the conversation with the party. -/
theorem Gives.converse {answers : Nat → A} {state : σ} {first : Nat} {dialogue : Dialogue Q A α}
    (gives : party.Gives answers state first (dialogue.converse answers first).2) :
    party.converse state dialogue =
      ((dialogue.converse answers first).1, (dialogue.converse answers first).2,
        party.hear state (dialogue.converse answers first).2) := by
  induction dialogue generalizing state first with
  | done value => rfl
  | ask question next ih =>
      obtain ⟨answered, later⟩ := gives
      rw [Party.converse, Dialogue.converse, hear, List.foldl_cons]
      simp only [← answered]
      rw [ih _ later]
      rfl

theorem converse_bind (dialogue : Dialogue Q A α) (rest : α → Dialogue Q A β) (state : σ) :
    party.converse state (dialogue.bind rest) =
      let begun := party.converse state dialogue
      let ended := party.converse begun.2.2 (rest begun.1)
      (ended.1, begun.2.1 ++ ended.2.1, ended.2.2) := by
  induction dialogue generalizing state with
  | done value => rfl
  | ask question next ih => simp only [Dialogue.bind, Party.converse, ih, List.cons_append]

theorem converse_then {dialogue : Dialogue Q A α} {rest : α → Dialogue Q A β}
    {state reached final : σ} {value : α} {result : β} {asked later : List Q}
    (begun : party.converse state dialogue = (value, asked, reached))
    (ended : party.converse reached (rest value) = (result, later, final)) :
    party.converse state (dialogue.bind rest) = (result, asked ++ later, final) := by
  rw [converse_bind, begun]
  simp only [ended]

end Party

end MvdEdge.Lib
