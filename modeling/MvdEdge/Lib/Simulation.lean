import MvdEdge.Lib.Effect

/-! Two programs over states of two kinds, one showing the other: from related states
both return related values or both fail in the same way, in related states again. -/

set_option autoImplicit false

namespace MvdEdge.Lib.Effect

variable {ε σ τ α β γ δ : Type}

inductive Alike (related : σ → τ → Prop) (values : α → β → Prop) :
    EStateM.Result ε σ α → EStateM.Result ε τ β → Prop where
  | returned {value : α} {shown : β} {state : σ} {image : τ} (same : values value shown)
      (reached : related state image) : Alike related values (.ok value state) (.ok shown image)
  | raised (failure : ε) {state : σ} {image : τ} (reached : related state image) :
      Alike related values (.error failure state) (.error failure image)

def Simulates (related : σ → τ → Prop) (values : α → β → Prop) (program : EStateM ε σ α)
    (image : EStateM ε τ β) : Prop :=
  ∀ state shown, related state shown → Alike related values (program state) (image shown)

namespace Simulates

variable {related : σ → τ → Prop} {values : α → β → Prop} {program : EStateM ε σ α}
  {image : EStateM ε τ β}

theorem pure {value : α} {shown : β} (same : values value shown) :
    Simulates related values (Pure.pure value : EStateM ε σ α) (Pure.pure shown) :=
  fun _ _ start => .returned same start

theorem throw (failure : ε) :
    Simulates related values (MonadExcept.throw failure : EStateM ε σ α)
      (MonadExcept.throw failure : EStateM ε τ β) :=
  fun _ _ start => .raised failure start

theorem modify {change : σ → σ} {changeImage : τ → τ}
    (same : ∀ state shown, related state shown → related (change state) (changeImage shown)) :
    Simulates related Eq (modifyGet fun state => ((), change state) : EStateM ε σ Unit)
      (modifyGet fun shown => ((), changeImage shown)) :=
  fun state shown start => .returned rfl (same state shown start)

theorem bind {final : γ → δ → Prop} {next : α → EStateM ε σ γ} {nextImage : β → EStateM ε τ δ}
    (first : Simulates related values program image)
    (rest : ∀ value shown, values value shown →
      Simulates related final (next value) (nextImage shown)) :
    Simulates related final (program >>= next) (image >>= nextImage) := by
  intro state shown start
  have outcome := first state shown start
  simp only [Bind.bind, EStateM.bind]
  generalize program state = result, image shown = seen at outcome
  cases outcome with
  | returned same reached => exact rest _ _ same _ _ reached
  | raised failure reached => exact .raised failure reached

theorem attempt {ρ : Type} {caught : ε → Option ρ} {outcomes : Except ρ α → Except ρ β → Prop}
    (simulates : Simulates related values program image)
    (returned : ∀ value shown, values value shown → outcomes (.ok value) (.ok shown))
    (failed : ∀ reason, outcomes (.error reason) (.error reason)) :
    Simulates related outcomes (Effect.attempt caught program) (Effect.attempt caught image) := by
  intro state shown start
  have outcome := simulates state shown start
  simp only [Effect.attempt]
  generalize program state = result, image shown = seen at outcome
  cases outcome with
  | returned same reached => exact .returned (returned _ _ same) reached
  | raised failure reached =>
      dsimp only
      cases caught failure with
      | none => exact .raised failure reached
      | some reason => exact .returned (failed reason) reached

/-- An operation on both states, if they count alike. -/
theorem operation [Ticking σ] [Ticking τ] {fault : Nat → Option ε} {honours : ε → Bool}
    {act : Nat → σ → α × σ} {actImage : Nat → τ → β × τ}
    (counts : ∀ state shown, related state shown → Ticking.tick state = Ticking.tick shown)
    (advances : ∀ state shown, related state shown →
      related (Ticking.advance state) (Ticking.advance shown))
    (acts : ∀ tick state shown, related state shown →
      values (act tick state).1 (actImage tick shown).1 ∧
        related (act tick state).2 (actImage tick shown).2) :
    Simulates related values (Effect.operation fault honours act)
      (Effect.operation fault honours actImage) := by
  intro state shown start
  simp only [Effect.operation, ← counts state shown start]
  cases (fault (Ticking.tick state)).filter honours with
  | some failure => exact .raised failure (advances state shown start)
  | none =>
      obtain ⟨same, reached⟩ := acts (Ticking.tick state) _ _ (advances state shown start)
      exact .returned same reached

theorem failing {state : σ} {shown : τ} (simulates : Simulates related values program image)
    (start : related state shown) :
    Effect.failing program state = Effect.failing image shown := by
  have outcome := simulates state shown start
  unfold Effect.failing
  generalize program state = result, image shown = seen at outcome ⊢
  cases outcome with
  | returned => rfl
  | raised => rfl

end Simulates

end MvdEdge.Lib.Effect
