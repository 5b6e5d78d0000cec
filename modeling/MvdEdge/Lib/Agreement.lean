import MvdEdge.Lib.Effect

/-! Two programs that do the same from the states of interest, however they differ
elsewhere. -/

set_option autoImplicit false

namespace MvdEdge.Lib.Effect

variable {ε σ α β : Type}

/-- From the states with `pre` the programs end alike, in the same state. -/
def AgreeOn (pre : σ → Prop) (left right : EStateM ε σ α) : Prop :=
  ∀ state, pre state → left state = right state

theorem failing_congr {left right : EStateM ε σ α} {state : σ} (same : left state = right state) :
    failing left state = failing right state := by
  rw [failing, failing, same]

namespace AgreeOn

variable {pre : σ → Prop} {left right : EStateM ε σ α}

theorem refl (program : EStateM ε σ α) : AgreeOn pre program program := fun _ _ => rfl

theorem bind {next other : α → EStateM ε σ β} {middle : α → σ → Prop} {raised : ε → σ → Prop}
    (agree : AgreeOn pre left right) (first : Triple pre left middle raised)
    (rest : ∀ value, AgreeOn (middle value) (next value) (other value)) :
    AgreeOn pre (left >>= next) (right >>= other) := by
  intro state holds
  have outcome := first state holds
  simp only [Bind.bind, EStateM.bind, ← agree state holds]
  cases ran : left state with
  | ok value reached =>
      rw [ran] at outcome
      exact rest value reached outcome
  | error failure reached => rfl

/-- The programs differ only in what comes after a common beginning. -/
theorem after {program : EStateM ε σ α} {next other : α → EStateM ε σ β}
    {middle : α → σ → Prop} {raised : ε → σ → Prop} (first : Triple pre program middle raised)
    (rest : ∀ value, AgreeOn (middle value) (next value) (other value)) :
    AgreeOn pre (program >>= next) (program >>= other) :=
  (refl program).bind first rest

theorem attempt {ρ : Type} {caught : ε → Option ρ} (agree : AgreeOn pre left right) :
    AgreeOn pre (Effect.attempt caught left) (Effect.attempt caught right) := by
  intro state holds
  rw [Effect.attempt, Effect.attempt, agree state holds]

theorem ensuring {unwinds : ε → Bool} {cleanup : EStateM ε σ Unit}
    (agree : AgreeOn pre left right) :
    AgreeOn pre (Effect.ensuring unwinds left cleanup) (Effect.ensuring unwinds right cleanup) := by
  intro state holds
  rw [Effect.ensuring, Effect.ensuring, agree state holds]

end AgreeOn

end MvdEdge.Lib.Effect
