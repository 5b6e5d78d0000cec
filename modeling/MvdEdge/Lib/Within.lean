import MvdEdge.Lib.Ghost

/-! Programs judged by two states at once: wherever a program ends, by a value or by a
failure, the state it leaves stands in a relation to the one it found. -/

set_option autoImplicit false

namespace MvdEdge.Lib.Effect

variable {ε σ α β τ : Type}

/-- From every state `program` ends in one that `reach` relates to it. -/
def Within (reach : σ → σ → Prop) (program : EStateM ε σ α) : Prop :=
  ∀ first, Triple (· = first) program (fun _ => reach first) fun _ => reach first

/-- The relations that programs in sequence stay within. -/
structure Composes (reach : σ → σ → Prop) : Prop where
  refl : ∀ state, reach state state
  trans : ∀ {first second third}, reach first second → reach second third → reach first third

namespace Within

variable {reach wider : σ → σ → Prop} {program : EStateM ε σ α}

theorem of_change {change : σ → α × σ} (related : ∀ state, reach state (change state).2) :
    Within reach (modifyGet change : EStateM ε σ α) := by
  intro first
  exact Triple.update fun state same => same ▸ related state

theorem operation [Ticking σ] {fault : Nat → Option ε} {honours : ε → Bool}
    {act : Nat → σ → α × σ}
    (acted : ∀ state, reach state (act (Ticking.tick state) (Ticking.advance state)).2)
    (failed : ∀ state, reach state (Ticking.advance state)) :
    Within reach (Effect.operation fault honours act) := by
  intro first
  exact Triple.operation (fun state same => same ▸ acted state)
    fun _ state _ same => same ▸ failed state

theorem imp (within : Within reach program)
    (entails : ∀ first last, reach first last → wider first last) : Within wider program :=
  fun first => (within first).conseq (fun _ same => same) (fun _ _ => entails first _)
    fun _ _ => entails first _

theorem of_leaves {view : σ → τ} (leaves : Leaves view program) :
    Within (fun first last => view last = view first) program :=
  fun first => (leaves (view first)).before fun _ same => same ▸ rfl

theorem both (left : Within reach program) (right : Within wider program) :
    Within (fun first last => reach first last ∧ wider first last) program :=
  fun first => ((left first).both (right first)).before fun _ same => ⟨same, same⟩

theorem zoom {part : Part σ τ} {inside : EStateM ε τ α}
    (related : ∀ state next, reach state (part.set next state)) :
    Within reach (Effect.zoom part inside) := by
  intro first state same
  subst same
  unfold Effect.zoom
  cases inside (part.get state) with
  | ok value next => exact related state next
  | error failure next => exact related state next

theorem zoom_part {part : Part σ τ} {inside : EStateM ε τ α} {reached : τ → τ → Prop}
    (within : Within reached inside) :
    Within (fun first last => reached (part.get first) (part.get last))
      (Effect.zoom part inside) := by
  intro first state same
  subst same
  have outcome := within (part.get state) (part.get state) rfl
  unfold Effect.zoom
  cases ran : inside (part.get state) with
  | ok value next =>
      rw [ran] at outcome
      change reached (part.get state) (part.get (part.set next state))
      rwa [part.get_set]
  | error failure next =>
      rw [ran] at outcome
      change reached (part.get state) (part.get (part.set next state))
      rwa [part.get_set]

theorem attempt {ρ : Type} {caught : ε → Option ρ} (within : Within reach program) :
    Within reach (Effect.attempt caught program) :=
  fun first => Triple.attempt (within first) (fun _ _ _ _ reached => reached)
    fun _ _ _ reached => reached

variable (closed : Composes reach)

include closed

theorem pure (value : α) : Within reach (Pure.pure value : EStateM ε σ α) :=
  fun first => Triple.pure fun _ same => same ▸ closed.refl first

theorem throw (failure : ε) : Within reach (MonadExcept.throw failure : EStateM ε σ α) :=
  fun first => Triple.throw fun _ same => same ▸ closed.refl first

/-- What a program keeps of a state, it keeps of all the states that lead there. -/
theorem onward (within : Within reach program) (first : σ) :
    Triple (reach first) program (fun _ => reach first) fun _ => reach first := by
  intro state reached
  exact (within state state rfl).imp (fun _ _ => closed.trans reached)
    fun _ _ => closed.trans reached

theorem bind {next : α → EStateM ε σ β} (first : Within reach program)
    (second : ∀ value, Within reach (next value)) : Within reach (program >>= next) :=
  fun state => Triple.bind (first state) fun value => (second value).onward closed state

end Within

end MvdEdge.Lib.Effect
