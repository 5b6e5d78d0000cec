import Mathlib.Data.List.TakeWhile

/-! Texts made of lines and lines made of fields, over any symbols: how they are
taken apart, and which texts come back as the pieces they were made of. -/

set_option autoImplicit false

namespace MvdEdge.Lib.DelimitedText

variable {α : Type}

section Lines

variable (isBreak : α → Bool) (joins : α → α → Bool)

/-- The lines of a text, `line` being what is already read of the first. Two breaks
that `joins` pairs end one line together, and an empty line at the end is no line. -/
def splitLines : List α → List α → List (List α)
  | line, [] => if line.isEmpty then [] else [line]
  | line, [symbol] => if isBreak symbol then [line] else [line ++ [symbol]]
  | line, symbol :: next :: rest =>
      if isBreak symbol then
        if joins symbol next then line :: splitLines [] rest
        else line :: splitLines [] (next :: rest)
      else splitLines (line ++ [symbol]) (next :: rest)

variable {isBreak joins} {terminator : α} (breaks : isBreak terminator = true)
  (alone : ∀ next, joins terminator next = false)

include breaks alone

theorem splitLines_line {line : List α} (unbroken : ∀ symbol ∈ line, isBreak symbol = false)
    (front rest : List α) : splitLines isBreak joins front (line ++ terminator :: rest) =
      (front ++ line) :: splitLines isBreak joins [] rest := by
  induction line generalizing front with
  | nil =>
      cases rest with
      | nil => simp [splitLines, breaks]
      | cons next rest => simp [splitLines, breaks, alone]
  | cons symbol line ih =>
      rw [List.forall_mem_cons] at unbroken
      obtain ⟨next, tail, shape⟩ :=
        List.exists_cons_of_ne_nil (List.append_ne_nil_of_right_ne_nil line
          (List.cons_ne_nil terminator rest))
      have step := ih unbroken.2 (front ++ [symbol])
      rw [shape] at step
      rw [List.cons_append, shape, splitLines, if_neg (by simp [unbroken.1]), step,
        List.append_assoc]
      rfl

/-- Terminated lines come back as they are. -/
theorem splitLines_flatMap {lines : List (List α)}
    (unbroken : ∀ line ∈ lines, ∀ symbol ∈ line, isBreak symbol = false) :
    splitLines isBreak joins [] (lines.flatMap (· ++ [terminator])) = lines := by
  induction lines with
  | nil => rfl
  | cons line lines ih =>
      rw [List.forall_mem_cons] at unbroken
      rw [List.flatMap_cons, List.append_assoc, List.singleton_append,
        splitLines_line breaks alone unbroken.1, ih unbroken.2, List.nil_append]

end Lines

section Fields

variable [DecidableEq α]

/-- The fields of a line; after `limit` separators the rest is one field. -/
def splitFields (separator : α) : Nat → List α → List (List α)
  | 0, text => [text]
  | limit + 1, text =>
      match text.dropWhile (· ≠ separator) with
      | [] => [text]
      | _ :: rest => text.takeWhile (· ≠ separator) :: splitFields separator limit rest

variable {separator : α}

theorem splitFields_append {front : List α} (plain : separator ∉ front) (limit : Nat)
    (rest : List α) : splitFields separator (limit + 1) (front ++ separator :: rest) =
      front :: splitFields separator limit rest := by
  have passes : ∀ symbol ∈ front, decide (symbol ≠ separator) = true := by
    intro symbol member
    simp only [decide_eq_true_eq]
    rintro rfl
    exact plain member
  rw [splitFields, List.dropWhile_append_of_pos passes, List.takeWhile_append_of_pos passes]
  simp

theorem length_splitFields {limit : Nat} {text : List α} (enough : limit ≤ text.count separator) :
    (splitFields separator limit text).length = limit + 1 := by
  induction limit generalizing text with
  | zero => rfl
  | succ limit ih =>
      have present : separator ∈ text := List.count_pos_iff.mp (by omega)
      obtain ⟨front, rest, rfl, plain⟩ := List.eq_append_cons_of_mem present
      rw [List.count_append, List.count_eq_zero_of_not_mem plain, List.count_cons_self] at enough
      rw [splitFields_append plain, List.length_cons, ih (by omega)]

/-- A symbol that has to be told from a mark-up symbol has `mark` in front. -/
def escape (special : List α) (mark : α) (text : List α) : List α :=
  text.flatMap fun symbol => if symbol ∈ special then [mark, symbol] else [symbol]

theorem escape_eq_self {special : List α} {mark : α} {text : List α}
    (plain : ∀ symbol ∈ special, symbol ∉ text) : escape special mark text = text := by
  induction text with
  | nil => rfl
  | cons symbol text ih =>
      have ordinary : symbol ∉ special := fun found => plain symbol found List.mem_cons_self
      have rest : escape special mark text = text :=
        ih fun other found member => plain other found (List.mem_cons_of_mem _ member)
      rw [escape, List.flatMap_cons, if_neg ordinary, ← escape, rest]
      rfl

theorem mem_escape {special : List α} {mark : α} {text : List α} {symbol : α}
    (member : symbol ∈ escape special mark text) : symbol = mark ∨ symbol ∈ text := by
  obtain ⟨original, inside, here⟩ := List.mem_flatMap.mp member
  split at here
  · rcases List.mem_cons.mp here with mark | here
    · exact .inl mark
    · exact .inr (List.mem_singleton.mp here ▸ inside)
  · exact .inr (List.mem_singleton.mp here ▸ inside)

end Fields

end MvdEdge.Lib.DelimitedText
