import MvdEdge.Lib.Effect

/-! Programs that write a journal which no program reads. Without its journal, a
journaled program is the program it was made from, and an invariant may relate the
state to the journal. -/

set_option autoImplicit false

namespace MvdEdge.Lib.Ghost

open Effect

variable {ε σ α β κ : Type}

def present : Part (σ × List κ) σ :=
  ⟨Prod.fst, fun state pair => (state, pair.2), fun _ _ => rfl⟩

/-- The program writes nothing in the journal. -/
def silent (program : EStateM ε σ α) : EStateM ε (σ × List κ) α := zoom present program

/-- An entry about the state of the moment, if there is one to make, in front of the
older ones. -/
def noting (entry : σ → Option κ) : EStateM ε (σ × List κ) Unit :=
  modifyGet fun pair => ((), (pair.1, (entry pair.1).toList ++ pair.2))

def erased : EStateM.Result ε (σ × List κ) α → EStateM.Result ε σ α
  | .ok value pair => .ok value pair.1
  | .error failure pair => .error failure pair.1

theorem silent_bind (program : EStateM ε σ α) (next : α → EStateM ε σ β) :
    (silent (program >>= next) : EStateM ε (σ × List κ) β) =
      silent program >>= fun value => silent (next value) := by
  funext pair
  simp only [silent, zoom, present, Bind.bind, EStateM.bind]
  cases program pair.1 <;> rfl

theorem noting_none {entry : σ → Option κ} (blank : ∀ state, entry state = none) :
    (noting entry : EStateM ε (σ × List κ) Unit) = Pure.pure () := by
  funext pair
  simp only [noting, blank]
  rfl

/-- Without its journal, `noted` is `program`. -/
def Erases (noted : EStateM ε (σ × List κ) α) (program : EStateM ε σ α) : Prop :=
  ∀ pair, erased (noted pair) = program pair.1

section Erasure

theorem Erases.silent (program : EStateM ε σ α) :
    Erases (silent program : EStateM ε (σ × List κ) α) program := by
  intro pair
  unfold Ghost.silent zoom
  rw [show present.get pair = pair.1 from rfl]
  cases program pair.1 <;> rfl

theorem Erases.pure (value : α) :
    Erases (Pure.pure value : EStateM ε (σ × List κ) α) (Pure.pure value) :=
  fun _ => rfl

theorem Erases.throw (failure : ε) :
    Erases (MonadExcept.throw failure : EStateM ε (σ × List κ) α) (MonadExcept.throw failure) :=
  fun _ => rfl

theorem Erases.bind {noted : EStateM ε (σ × List κ) α} {program : EStateM ε σ α}
    {notedNext : α → EStateM ε (σ × List κ) β} {next : α → EStateM ε σ β}
    (first : Erases noted program) (second : ∀ value, Erases (notedNext value) (next value)) :
    Erases (noted >>= notedNext) (program >>= next) := by
  intro pair
  have same := first pair
  simp only [Bind.bind, EStateM.bind]
  rw [← same]
  cases noted pair with
  | ok value reached => exact second value reached
  | error failure reached => rfl

/-- What is noted before a program is not part of it. -/
theorem Erases.noting {entry : σ → Option κ} {noted : EStateM ε (σ × List κ) α}
    {program : EStateM ε σ α} (rest : Erases noted program) :
    Erases (do Ghost.noting entry; noted) program :=
  fun pair => rest (pair.1, (entry pair.1).toList ++ pair.2)

/-- Nor is what is noted after it. -/
theorem Erases.followed {entry : σ → Option κ} {noted : EStateM ε (σ × List κ) Unit}
    {program : EStateM ε σ Unit} (body : Erases noted program) :
    Erases (do noted; Ghost.noting entry) program := by
  intro pair
  rw [← body pair]
  simp only [Bind.bind, EStateM.bind]
  cases noted pair <;> rfl

theorem Erases.attempt {ρ : Type} {caught : ε → Option ρ} {noted : EStateM ε (σ × List κ) α}
    {program : EStateM ε σ α} (body : Erases noted program) :
    Erases (Effect.attempt caught noted) (Effect.attempt caught program) := by
  intro pair
  have same := body pair
  unfold Effect.attempt
  rw [← same]
  cases noted pair with
  | ok value reached => rfl
  | error failure reached =>
      simp only [erased]
      cases caught failure <;> rfl

theorem Erases.ensuring {unwinds : ε → Bool} {noted : EStateM ε (σ × List κ) α}
    {program : EStateM ε σ α} {notedCleanup : EStateM ε (σ × List κ) Unit}
    {cleanup : EStateM ε σ Unit} (body : Erases noted program)
    (closing : Erases notedCleanup cleanup) :
    Erases (Effect.ensuring unwinds noted notedCleanup)
      (Effect.ensuring unwinds program cleanup) := by
  intro pair
  have same := body pair
  unfold Effect.ensuring
  rw [← same]
  cases noted pair with
  | ok value reached =>
      have closed := closing reached
      simp only [erased]
      rw [← closed]
      cases notedCleanup reached <;> rfl
  | error failure reached =>
      have closed := closing reached
      simp only [erased]
      cases unwinds failure with
      | false => rfl
      | true =>
          simp only [if_true]
          rw [← closed]
          cases notedCleanup reached <;> rfl

theorem Erases.after {noted : EStateM ε (σ × List κ) α} {program : EStateM ε σ α}
    (erases : Erases noted program) (state : σ) (journal : List κ) :
    (Effect.after noted (state, journal)).1 = Effect.after program state := by
  have same := erases (state, journal)
  unfold Effect.after
  rw [← same]
  cases noted (state, journal) <;> rfl

end Erasure

section Rules

variable {pre : σ × List κ → Prop} {post : α → σ × List κ → Prop}
  {raised : ε → σ × List κ → Prop}

/-- A silent program is judged under the journal as it stands. -/
theorem Triple.silent {program : EStateM ε σ α}
    (under : ∀ journal, Triple (fun state => pre (state, journal)) program
      (fun value state => post value (state, journal))
      fun failure state => raised failure (state, journal)) :
    Triple pre (silent program) post raised := by
  intro pair holds
  have outcome := under pair.2 pair.1 holds
  unfold Ghost.silent zoom
  rw [show present.get pair = pair.1 from rfl]
  cases ran : program pair.1 with
  | ok value next =>
      rw [ran] at outcome
      exact outcome
  | error failure next =>
      rw [ran] at outcome
      exact outcome

theorem Triple.silent_get {next : σ → EStateM ε (σ × List κ) β} {final : β → σ × List κ → Prop}
    (rest : ∀ state, Triple (fun pair => pair.1 = state ∧ pre pair) (next state) final raised) :
    Triple pre (Ghost.silent MonadState.get >>= next) final raised :=
  fun pair holds => rest pair.1 pair ⟨rfl, holds⟩

theorem Triple.noting {entry : σ → Option κ} {done : Unit → σ × List κ → Prop}
    (entails : ∀ state journal, pre (state, journal) →
      done () (state, (entry state).toList ++ journal)) :
    Triple pre (noting entry) done raised :=
  Triple.modify fun pair holds => entails pair.1 pair.2 holds

/-- A place where nothing is noted. -/
theorem Triple.noting_blank {entry : σ → Option κ} (blank : ∀ state, entry state = none) :
    Triple pre (Ghost.noting entry) (fun _ => pre) raised := by
  rw [noting_none blank]
  exact Triple.pure fun _ holds => holds

end Rules

end MvdEdge.Lib.Ghost
