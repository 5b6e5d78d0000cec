import Mathlib.Logic.Basic

/-! Programs with a state and exceptions, and a logic of pre- and
postconditions for them. A triple speaks about both ways a program can end. -/

set_option autoImplicit false

namespace MvdEdge.Lib.Effect

variable {ε σ α β τ : Type}

def after (program : EStateM ε σ α) (state : σ) : σ :=
  match program state with
  | .ok _ next => next
  | .error _ next => next

def failing (program : EStateM ε σ α) (state : σ) : Option ε :=
  match program state with
  | .ok _ _ => none
  | .error failure _ => some failure

/-- `try: program` with the handled failures turned into a value. A failure that
`caught` does not translate passes through. -/
def attempt {ρ : Type} (caught : ε → Option ρ) (program : EStateM ε σ α) :
    EStateM ε σ (Except ρ α) := fun state =>
  match program state with
  | .ok value next => .ok (.ok value) next
  | .error failure next =>
      match caught failure with
      | some reason => .ok (.error reason) next
      | none => .error failure next

/-- `try: program finally: cleanup`. A failure for which `unwinds` is false ends
the program on the spot, cleanup included. -/
def ensuring (unwinds : ε → Bool) (program : EStateM ε σ α) (cleanup : EStateM ε σ Unit) :
    EStateM ε σ α := fun state =>
  match program state with
  | .ok value next =>
      match cleanup next with
      | .ok _ last => .ok value last
      | .error failure last => .error failure last
  | .error failure next =>
      if unwinds failure then
        match cleanup next with
        | .ok _ last => .error failure last
        | .error later last => .error later last
      else .error failure next

/-- A state that counts the operations performed on it, so that an environment can
answer each of them differently. -/
class Ticking (σ : Type) where
  tick : σ → Nat
  advance : σ → σ

/-- One operation. The environment may make it fail before it does anything, in
the ways the operation `honours`. -/
def operation [Ticking σ] (fault : Nat → Option ε) (honours : ε → Bool)
    (act : Nat → σ → α × σ) : EStateM ε σ α := fun state =>
  match (fault (Ticking.tick state)).filter honours with
  | some failure => .error failure (Ticking.advance state)
  | none =>
      let (value, next) := act (Ticking.tick state) (Ticking.advance state)
      .ok value next

structure Part (σ τ : Type) where
  get : σ → τ
  set : τ → σ → σ
  get_set : ∀ part state, get (set part state) = part

def zoom (part : Part σ τ) (program : EStateM ε τ α) : EStateM ε σ α := fun state =>
  match program (part.get state) with
  | .ok value next => .ok value (part.set next state)
  | .error failure next => .error failure (part.set next state)

def Holds (post : α → σ → Prop) (raised : ε → σ → Prop) : EStateM.Result ε σ α → Prop
  | .ok value state => post value state
  | .error failure state => raised failure state

@[simp] theorem holds_ok {post : α → σ → Prop} {raised : ε → σ → Prop} {value : α} {state : σ} :
    Holds post raised (.ok value state) ↔ post value state := Iff.rfl

@[simp] theorem holds_error {post : α → σ → Prop} {raised : ε → σ → Prop} {failure : ε}
    {state : σ} : Holds post raised (.error failure state) ↔ raised failure state := Iff.rfl

/-- From a state in `pre`, `program` either returns in `post` or raises in `raised`. -/
def Triple (pre : σ → Prop) (program : EStateM ε σ α) (post : α → σ → Prop)
    (raised : ε → σ → Prop) : Prop :=
  ∀ state, pre state → Holds post raised (program state)

/-- `inv` survives `program`, whether it returns or raises. -/
def Preserves (inv : σ → Prop) (program : EStateM ε σ α) : Prop :=
  Triple inv program (fun _ => inv) (fun _ => inv)

/-- `program` changes nothing that `view` shows. -/
def Leaves (view : σ → τ) (program : EStateM ε σ α) : Prop :=
  ∀ shown, Preserves (fun state => view state = shown) program

section Rules

variable {pre pre' : σ → Prop} {post post' : α → σ → Prop} {raised raised' : ε → σ → Prop}

theorem Triple.pure {value : α} (entails : ∀ state, pre state → post value state) :
    Triple pre (Pure.pure value : EStateM ε σ α) post raised :=
  entails

theorem Triple.throw {failure : ε} (entails : ∀ state, pre state → raised failure state) :
    Triple pre (MonadExcept.throw failure : EStateM ε σ α) post raised :=
  entails

theorem Triple.update {change : σ → α × σ}
    (entails : ∀ state, pre state → post (change state).1 (change state).2) :
    Triple pre (modifyGet change : EStateM ε σ α) post raised :=
  entails

theorem Triple.modify {change : σ → σ} {done : Unit → σ → Prop}
    (entails : ∀ state, pre state → done () (change state)) :
    Triple pre (modifyGet fun state => ((), change state) : EStateM ε σ Unit) done raised :=
  entails

theorem Holds.imp {result : EStateM.Result ε σ α} (holds : Holds post' raised' result)
    (returns : ∀ value state, post' value state → post value state)
    (raises : ∀ failure state, raised' failure state → raised failure state) :
    Holds post raised result := by
  cases result with
  | ok value next => exact returns value next holds
  | error failure next => exact raises failure next holds

theorem Triple.conseq {program : EStateM ε σ α} (triple : Triple pre' program post' raised')
    (before : ∀ state, pre state → pre' state)
    (returns : ∀ value state, post' value state → post value state)
    (raises : ∀ failure state, raised' failure state → raised failure state) :
    Triple pre program post raised :=
  fun state holds => (triple state (before state holds)).imp returns raises

theorem Triple.before {program : EStateM ε σ α} (triple : Triple pre' program post raised)
    (entails : ∀ state, pre state → pre' state) : Triple pre program post raised :=
  fun state holds => triple state (entails state holds)

theorem Triple.returning {program : EStateM ε σ α} (triple : Triple pre program post' raised)
    (entails : ∀ value state, post' value state → post value state) :
    Triple pre program post raised :=
  triple.conseq (fun _ holds => holds) entails fun _ _ holds => holds

theorem Triple.raising {program : EStateM ε σ α} (triple : Triple pre program post raised')
    (entails : ∀ failure state, raised' failure state → raised failure state) :
    Triple pre program post raised :=
  triple.conseq (fun _ holds => holds) (fun _ _ holds => holds) entails

theorem Triple.both {program : EStateM ε σ α} (left : Triple pre program post raised)
    (right : Triple pre' program post' raised') :
    Triple (fun state => pre state ∧ pre' state) program
      (fun value state => post value state ∧ post' value state)
      (fun failure state => raised failure state ∧ raised' failure state) := by
  intro state holds
  have first := left state holds.1
  have second := right state holds.2
  cases ran : program state with
  | ok value next =>
      rw [ran] at first second
      exact ⟨first, second⟩
  | error failure next =>
      rw [ran] at first second
      exact ⟨first, second⟩

theorem Triple.of_exists {ι : Type} {instances : ι → σ → Prop} {program : EStateM ε σ α}
    (each : ∀ index, Triple (instances index) program post raised) :
    Triple (fun state => ∃ index, instances index state) program post raised := by
  intro state holds
  obtain ⟨index, holds⟩ := holds
  exact each index state holds

theorem Triple.bind {program : EStateM ε σ α} {next : α → EStateM ε σ β}
    {middle : α → σ → Prop} {final : β → σ → Prop}
    (first : Triple pre program middle raised)
    (second : ∀ value, Triple (middle value) (next value) final raised) :
    Triple pre (program >>= next) final raised := by
  intro state holds
  have outcome := first state holds
  simp only [Bind.bind, EStateM.bind]
  cases ran : program state with
  | ok value reached =>
      rw [ran] at outcome
      exact second value reached outcome
  | error failure reached =>
      rw [ran] at outcome
      exact outcome

theorem Triple.through {program : EStateM ε σ α} {next : α → EStateM ε σ β}
    (middle : α → σ → Prop) {final : β → σ → Prop}
    (first : Triple pre program middle raised)
    (second : ∀ value, Triple (middle value) (next value) final raised) :
    Triple pre (program >>= next) final raised :=
  Triple.bind first second

theorem Triple.get {next : σ → EStateM ε σ β} {final : β → σ → Prop}
    (rest : ∀ state,
      Triple (fun current => current = state ∧ pre state) (next state) final raised) :
    Triple pre (MonadState.get >>= next) final raised := by
  intro state holds
  exact rest state state ⟨rfl, holds⟩

theorem Triple.read {next : σ → EStateM ε σ β} {final : β → σ → Prop}
    (rest : ∀ state, Triple pre (next state) final raised) :
    Triple pre (MonadState.get >>= next) final raised :=
  fun state holds => rest state state holds

theorem Triple.attempt {ρ : Type} {caught : ε → Option ρ} {program : EStateM ε σ α}
    {final : Except ρ α → σ → Prop} {middle : ε → σ → Prop}
    (body : Triple pre program (fun value => final (.ok value)) middle)
    (handled : ∀ failure reason state, caught failure = some reason →
      middle failure state → final (.error reason) state)
    (unhandled : ∀ failure state, caught failure = none →
      middle failure state → raised failure state) :
    Triple pre (Effect.attempt caught program) final raised := by
  intro state holds
  have outcome := body state holds
  unfold Effect.attempt
  cases ran : program state with
  | ok value next =>
      rw [ran] at outcome
      exact outcome
  | error failure next =>
      rw [ran] at outcome
      cases translated : caught failure with
      | some reason => simpa [translated] using handled failure reason next translated outcome
      | none => simpa [translated] using unhandled failure next translated outcome

theorem Triple.ensuring {unwinds : ε → Bool} {program : EStateM ε σ α}
    {cleanup : EStateM ε σ Unit} {middle : α → σ → Prop} {failed : ε → σ → Prop}
    (body : Triple pre program middle failed)
    (returned : ∀ value, Triple (middle value) cleanup (fun _ => post value) raised)
    (unwound : ∀ failure, unwinds failure = true →
      Triple (failed failure) cleanup (fun _ => raised failure) raised)
    (stopped : ∀ failure state, unwinds failure = false →
      failed failure state → raised failure state) :
    Triple pre (Effect.ensuring unwinds program cleanup) post raised := by
  intro state holds
  have outcome := body state holds
  unfold Effect.ensuring
  cases ran : program state with
  | ok value next =>
      rw [ran] at outcome
      have cleaned := returned value next outcome
      cases closing : cleanup next with
      | ok done last => simpa [closing] using cleaned
      | error later last => simpa [closing] using cleaned
  | error failure next =>
      rw [ran] at outcome
      cases mode : unwinds failure with
      | false => simpa [mode] using stopped failure next mode outcome
      | true =>
          have cleaned := unwound failure mode next outcome
          cases closing : cleanup next with
          | ok done last => simpa [mode, closing] using cleaned
          | error later last => simpa [mode, closing] using cleaned

theorem Triple.operation_cases [Ticking σ] {fault : Nat → Option ε} {honours : ε → Bool}
    {act : Nat → σ → α × σ}
    (returns : ∀ state, (fault (Ticking.tick state)).filter honours = none → pre state →
      post (act (Ticking.tick state) (Ticking.advance state)).1
        (act (Ticking.tick state) (Ticking.advance state)).2)
    (fails : ∀ failure state, (fault (Ticking.tick state)).filter honours = some failure →
      pre state → raised failure (Ticking.advance state)) :
    Triple pre (Effect.operation fault honours act) post raised := by
  intro state holds
  unfold Effect.operation
  cases failed : (fault (Ticking.tick state)).filter honours with
  | none => exact returns state failed holds
  | some failure => exact fails failure state failed holds

theorem Triple.operation_of_fault [Ticking σ] {fault : Nat → Option ε} {honours : ε → Bool}
    {act : Nat → σ → α × σ}
    (returns : ∀ state, pre state →
      post (act (Ticking.tick state) (Ticking.advance state)).1
        (act (Ticking.tick state) (Ticking.advance state)).2)
    (fails : ∀ failure state, fault (Ticking.tick state) = some failure →
      honours failure = true → pre state → raised failure (Ticking.advance state)) :
    Triple pre (Effect.operation fault honours act) post raised :=
  Triple.operation_cases (fun state _ => returns state) fun failure state failed => by
    obtain ⟨stored, honoured⟩ := Option.filter_eq_some_iff.mp failed
    exact fails failure state stored honoured

theorem Triple.operation [Ticking σ] {fault : Nat → Option ε} {honours : ε → Bool}
    {act : Nat → σ → α × σ}
    (returns : ∀ state, pre state →
      post (act (Ticking.tick state) (Ticking.advance state)).1
        (act (Ticking.tick state) (Ticking.advance state)).2)
    (fails : ∀ failure state, honours failure = true → pre state →
      raised failure (Ticking.advance state)) :
    Triple pre (Effect.operation fault honours act) post raised :=
  Triple.operation_of_fault returns fun failure state _ => fails failure state

theorem Triple.zoom (part : Part σ τ) {ω : Type} (frame : σ → ω)
    (outside : ∀ state next, frame (part.set next state) = frame state)
    {before : τ → Prop} {program : EStateM ε τ α} {returned : α → τ → Prop}
    {failed : ε → τ → Prop} (inner : Triple before program returned failed)
    (kept : ω → Prop) :
    Triple (fun state => before (part.get state) ∧ kept (frame state))
      (Effect.zoom part program)
      (fun value state => returned value (part.get state) ∧ kept (frame state))
      (fun failure state => failed failure (part.get state) ∧ kept (frame state)) := by
  intro state both
  obtain ⟨holds, framed⟩ := both
  have outcome := inner (part.get state) holds
  unfold Effect.zoom
  cases ran : program (part.get state) with
  | ok value next =>
      rw [ran] at outcome
      simp only [holds_ok, part.get_set, outside]
      exact ⟨outcome, framed⟩
  | error failure next =>
      rw [ran] at outcome
      simp only [holds_error, part.get_set, outside]
      exact ⟨outcome, framed⟩

theorem Triple.after {program : EStateM ε σ α} {last : σ → Prop}
    (triple : Triple pre program (fun _ => last) (fun _ => last)) {state : σ}
    (holds : pre state) : last (Effect.after program state) := by
  have outcome := triple state holds
  unfold Effect.after
  cases ran : program state with
  | ok value next => simpa [ran] using outcome
  | error failure next => simpa [ran] using outcome

theorem Triple.returns {program : EStateM ε σ α}
    (triple : Triple pre program post fun _ _ => False) {state : σ} (holds : pre state) :
    ∃ value next, program state = .ok value next ∧ post value next := by
  have outcome := triple state holds
  cases ran : program state with
  | ok value next =>
      rw [ran] at outcome
      exact ⟨value, next, rfl, outcome⟩
  | error failure next =>
      rw [ran] at outcome
      exact outcome.elim

theorem Triple.any (pre : σ → Prop) (program : EStateM ε σ α) :
    Triple pre program (fun _ _ => True) fun _ _ => True := by
  intro state _
  cases program state <;> trivial

end Rules

section Preservation

variable {inv : σ → Prop}

theorem Preserves.pure (value : α) : Preserves inv (Pure.pure value : EStateM ε σ α) :=
  Triple.pure fun _ holds => holds

theorem Preserves.throw (failure : ε) :
    Preserves inv (MonadExcept.throw failure : EStateM ε σ α) :=
  Triple.throw fun _ holds => holds

theorem Preserves.bind {program : EStateM ε σ α} {next : α → EStateM ε σ β}
    (first : Preserves inv program) (second : ∀ value, Preserves inv (next value)) :
    Preserves inv (program >>= next) :=
  Triple.bind first second

theorem Preserves.attempt {ρ : Type} {caught : ε → Option ρ} {program : EStateM ε σ α}
    (body : Preserves inv program) : Preserves inv (Effect.attempt caught program) :=
  Triple.attempt body (fun _ _ _ _ holds => holds) (fun _ _ _ holds => holds)

theorem Preserves.after {program : EStateM ε σ α} (preserved : Preserves inv program)
    {state : σ} (holds : inv state) : inv (Effect.after program state) :=
  Triple.after preserved holds

theorem Leaves.frame {view : σ → τ} {program : EStateM ε σ α} {pre : σ → Prop}
    {post : α → σ → Prop} {raised : ε → σ → Prop} (frame : τ → Prop)
    (leaves : Leaves view program) (triple : Triple pre program post raised) :
    Triple (fun state => pre state ∧ frame (view state)) program
      (fun value state => post value state ∧ frame (view state))
      (fun failure state => raised failure state ∧ frame (view state)) := by
  refine triple.both fun state framed => ?_
  refine (leaves (view state) state rfl).imp (fun _ next same => ?_) fun _ next same => ?_
  · exact same.symm ▸ framed
  · exact same.symm ▸ framed

section Views

variable {view : σ → τ}

theorem Leaves.pure (value : α) : Leaves view (Pure.pure value : EStateM ε σ α) :=
  fun _ => Preserves.pure value

theorem Leaves.throw (failure : ε) : Leaves view (MonadExcept.throw failure : EStateM ε σ α) :=
  fun _ => Preserves.throw failure

theorem Leaves.get : Leaves view (MonadState.get : EStateM ε σ σ) := fun _ _ same => same

theorem Leaves.update {change : σ → α × σ} (same : ∀ state, view (change state).2 = view state) :
    Leaves view (modifyGet change : EStateM ε σ α) :=
  fun _ => Triple.update fun state shown => (same state).trans shown

theorem Leaves.operation [Ticking σ] {fault : Nat → Option ε} {honours : ε → Bool}
    {act : Nat → σ → α × σ} (same : ∀ tick state, view (act tick state).2 = view state)
    (ticks : ∀ state, view (Ticking.advance state) = view state) :
    Leaves view (Effect.operation fault honours act) :=
  fun _ => Triple.operation (fun state shown => (same _ _).trans ((ticks state).trans shown))
    fun _ state _ shown => (ticks state).trans shown

theorem Leaves.pair {ω : Type} {other : σ → ω} {program : EStateM ε σ α}
    (left : Leaves view program) (right : Leaves other program) :
    Leaves (fun state => (view state, other state)) program := by
  intro shown state holds
  refine ((left (view state)).both (right (other state)) state ⟨rfl, rfl⟩).imp ?_ ?_
  · exact fun _ _ both => (congrArg₂ Prod.mk both.1 both.2).trans holds
  · exact fun _ _ both => (congrArg₂ Prod.mk both.1 both.2).trans holds

theorem Leaves.bind {program : EStateM ε σ α} {next : α → EStateM ε σ β}
    (first : Leaves view program) (second : ∀ value, Leaves view (next value)) :
    Leaves view (program >>= next) :=
  fun shown => Preserves.bind (first shown) fun value => second value shown

theorem Leaves.of_after {program : EStateM ε σ α}
    (same : ∀ state, view (Effect.after program state) = view state) : Leaves view program := by
  intro shown state holds
  have left := same state
  unfold Effect.after at left
  cases ran : program state with
  | ok value next =>
      rw [ran] at left
      exact left.trans holds
  | error failure next =>
      rw [ran] at left
      exact left.trans holds

end Views

theorem Leaves.zoom_part {ω : Type} (part : Part σ τ) {inside : τ → ω}
    {program : EStateM ε τ α} (leaves : Leaves inside program) :
    Leaves (fun state => inside (part.get state)) (Effect.zoom part program) := by
  intro shown
  have zoomed := Triple.zoom part (fun _ => ()) (fun _ _ => rfl) (leaves shown) fun _ => True
  exact zoomed.conseq (fun _ holds => ⟨holds, trivial⟩) (fun _ _ both => both.1)
    fun _ _ both => both.1

theorem Leaves.zoom {ω : Type} {part : Part σ τ} {view : σ → ω}
    (outside : ∀ state next, view (part.set next state) = view state)
    (program : EStateM ε τ α) : Leaves view (Effect.zoom part program) :=
  fun shown =>
    (Triple.zoom part view outside (Triple.any (fun _ => True) program) (· = shown)).conseq
      (fun _ same => ⟨trivial, same⟩) (fun _ _ both => both.2) fun _ _ both => both.2

/-- What looking the same preserves, a program that changes no looks preserves. -/
theorem Leaves.triple {view : σ → τ} {program : EStateM ε σ α} {pre : σ → Prop}
    {raised : ε → σ → Prop} (leaves : Leaves view program)
    (stable : ∀ state next, view next = view state → pre state → pre next)
    (raises : ∀ failure state, pre state → raised failure state) :
    Triple pre program (fun _ => pre) raised := by
  intro state holds
  exact (leaves (view state) state rfl).imp (fun _ next same => stable state next same holds)
    fun failure next same => raises failure next (stable state next same holds)

end Preservation

end MvdEdge.Lib.Effect
