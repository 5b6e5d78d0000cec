import MvdEdge.Lib.Effect

/-! The failures that may get out of a program, from whatever state it begins in. -/

set_option autoImplicit false

namespace MvdEdge.Lib.Effect

variable {ε σ α β τ : Type}

/-- Only `allowed` failures get out of `program`. -/
def Raises (allowed : ε → Prop) (program : EStateM ε σ α) : Prop :=
  Triple (fun _ => True) program (fun _ _ => True) fun failure _ => allowed failure

namespace Raises

variable {allowed : ε → Prop} {program : EStateM ε σ α}

theorem pure (value : α) : Raises allowed (Pure.pure value : EStateM ε σ α) :=
  Triple.pure fun _ _ => trivial

theorem update (change : σ → α × σ) : Raises allowed (modifyGet change : EStateM ε σ α) :=
  Triple.update fun _ _ => trivial

theorem bind {next : α → EStateM ε σ β} (first : Raises allowed program)
    (second : ∀ value, Raises allowed (next value)) : Raises allowed (program >>= next) :=
  Triple.bind first fun value => second value

theorem get {next : σ → EStateM ε σ β} (rest : ∀ state, Raises allowed (next state)) :
    Raises allowed (MonadState.get >>= next) := Triple.read rest

theorem operation [Ticking σ] {fault : Nat → Option ε} {honours : ε → Bool}
    {act : Nat → σ → α × σ} (stored : ∀ tick failure, fault tick = some failure → allowed failure) :
    Raises allowed (Effect.operation fault honours act) :=
  Triple.operation_of_fault (fun _ _ => trivial) fun _ _ found _ _ => stored _ _ found

theorem attempt {ρ : Type} {caught : ε → Option ρ} (raises : Raises allowed program) :
    Raises allowed (Effect.attempt caught program) :=
  Triple.attempt raises (fun _ _ _ _ _ => trivial) fun _ _ _ permitted => permitted

theorem zoom {part : Part σ τ} {inside : EStateM ε τ α} (raises : Raises allowed inside) :
    Raises allowed (Effect.zoom part inside) := by
  intro state _
  have outcome := raises (part.get state) trivial
  unfold Effect.zoom
  cases ran : inside (part.get state) with
  | ok value next => exact trivial
  | error failure next =>
      rw [ran] at outcome
      exact outcome

end Raises

end MvdEdge.Lib.Effect
