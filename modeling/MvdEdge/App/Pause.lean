import MvdEdge.App.Run
import Mathlib.Algebra.BigOperators.Group.List.Basic
import Mathlib.Tactic.IntervalCases
import Mathlib.Tactic.Linarith
import Mathlib.Tactic.Ring

/-! How long a pause between scans can get. The end of `interruptible_sleep` is an
instant of the wall clock, so what it sleeps in all depends on how that clock moves. -/

set_option autoImplicit false

namespace MvdEdge

/-- `total <= number`. -/
def PyFloat.bounds (number : PyFloat) (total : ℚ) : Prop :=
  match number with
  | .finite value => total ≤ value
  | .inf => True
  | _ => False

instance (number : PyFloat) (total : ℚ) : Decidable (number.bounds total) :=
  match number with
  | .finite value => inferInstanceAs (Decidable (total ≤ value))
  | .inf => inferInstanceAs (Decidable True)
  | .negInf => inferInstanceAs (Decidable False)
  | .nan => inferInstanceAs (Decidable False)

theorem PyFloat.bounds_zero {number : PyFloat} (positive : number.isPositive = true) :
    number.bounds 0 := by
  cases number with
  | finite value => exact le_of_lt (by simpa [isPositive] using positive)
  | inf => trivial
  | negInf => simp [isPositive] at positive
  | nan => simp [isPositive] at positive

namespace Agent

open Lib Lib.Effect

section Sleeps

variable (env : AgentEnv) (duration : PyFloat) (interval : ℚ) (start : Nat)

/-- The clock in turn `count` of the loop of a pause that began with operation `start`. -/
def reading (count : Nat) : Time := env.clock (start + 2 + 3 * count)

/-- `end_at - time.time()` in that turn. -/
def remaining (count : Nat) : PyFloat :=
  (duration.after (env.clock start)).less (reading env start count)

/-- Turn `count` comes to its sleep: by then no shutdown was seen, the clock was short of
the end, and nothing interrupted the pause. -/
def UnderWay (count : Nat) : Prop :=
  (∀ tick, start ≤ tick → tick < start + 4 + 3 * count →
    (env.fault tick).filter Exn.interrupts = none) ∧
  ∀ earlier ≤ count, env.shutdown (start + 1 + 3 * earlier) = false ∧
    (remaining env duration start earlier).reachedBy 0 = false

/-- What rounding adds to the time that is left by the clock of turn `count`. -/
def gain (count : Nat) : ℚ :=
  match duration with
  | .finite value =>
      Binary64.round (Binary64.round (env.clock start + value) - reading env start count) -
        (env.clock start + value - reading env start count)
  | _ => 0

/-- The sleeps of `count` turns and one more fit into the duration, or in one of these
turns the clock was ahead of the sleeps by the turns since, and by what rounding added. -/
def KeepsUp (adjustment : Nat → ℚ) (count : Nat) : Prop :=
  duration.bounds ((count + 1) * interval) ∨
    ∃ earlier ≤ count, ((count : ℚ) - earlier) * interval + gain env duration start earlier ≤
      adjustment earlier

/-- In every turn the clock has moved on by what was slept since the start, and by an
adjustment, which may be of either sign. -/
def Adjusted (world : World) (adjustment : Nat → ℚ) : Prop :=
  ∀ (turns : Nat) (issued : List ℚ),
    (after (interruptibleSleep env duration interval turns) world).slept =
        issued.map PyFloat.finite ++ world.slept →
      reading env world.tick issued.length = env.clock world.tick + issued.sum +
        adjustment issued.length

/-- The argument of `time.sleep` in turn `count`. -/
def nap (count : Nat) : ℚ :=
  match remaining env duration start count with
  | .finite value => min interval value
  | _ => interval

/-- The sleeps before turn `count`, newest first. -/
def naps : Nat → List ℚ
  | 0 => []
  | count + 1 => nap env duration interval start count :: naps count

variable {env duration interval start}

@[simp] theorem length_naps (count : Nat) :
    (naps env duration interval start count).length = count := by
  induction count with
  | zero => rfl
  | succ count ih => rw [naps, List.length_cons, ih]

theorem UnderWay.earlier {count earlier : Nat} (underWay : UnderWay env duration start count)
    (le : earlier ≤ count) : UnderWay env duration start earlier :=
  ⟨fun tick from_ before => underWay.1 tick from_ (by omega),
    fun turn before => underWay.2 turn (before.trans le)⟩

/-- A sum that grows by a step, but never beyond a bound of its turn, is within a limit
when all the steps are, or the steps after a turn whose bound leaves room for them. -/
theorem ratchet_le_iff (total : Nat → ℚ) {bound : Nat → ℚ} {step : ℚ} (zero : total 0 = 0)
    {count : Nat}
    (next : ∀ turn < count, total (turn + 1) = min (total turn + step) (bound turn))
    (limit : ℚ) : total count ≤ limit ↔ count * step ≤ limit ∨
      ∃ turn < count, bound turn + ((count : ℚ) - 1 - turn) * step ≤ limit := by
  induction count generalizing limit with
  | zero => simp [zero]
  | succ count ih =>
      have before := ih (fun turn lt => next turn (by omega)) (limit - step)
      have split : total (count + 1) ≤ limit ↔
          total count ≤ limit - step ∨ bound count ≤ limit := by
        rw [next count (Nat.lt_succ_self count), min_le_iff, le_sub_iff_add_le]
      rw [split, before]
      push_cast
      constructor
      · rintro ((all | ⟨turn, lt, fits⟩) | last)
        · exact .inl (by linarith)
        · exact .inr ⟨turn, by omega, by linarith⟩
        · exact .inr ⟨count, by omega, by linarith⟩
      · rintro (all | ⟨turn, lt, fits⟩)
        · exact .inl (.inl (by linarith))
        · cases Nat.lt_succ_iff_lt_or_eq.mp lt with
          | inl earlier => exact .inl (.inr ⟨turn, earlier, by linarith⟩)
          | inr same =>
              subst same
              exact .inr (by linarith)

/-- One more sleep, by a clock with an adjustment. -/
theorem sum_naps_succ {value adjustment : ℚ} {count : Nat}
    (read : reading env start count = env.clock start +
      (naps env (.finite value) interval start count).sum + adjustment) :
    (naps env (.finite value) interval start (count + 1)).sum =
      min ((naps env (.finite value) interval start count).sum + interval)
        (value - adjustment + gain env (.finite value) start count) := by
  have rounded : Binary64.round (Binary64.round (env.clock start + value) -
      reading env start count) + (naps env (.finite value) interval start count).sum =
        value - adjustment + gain env (.finite value) start count := by
    rw [gain, read]
    ring
  calc (naps env (.finite value) interval start (count + 1)).sum
      = min interval (Binary64.round (Binary64.round (env.clock start + value) -
          reading env start count)) + (naps env (.finite value) interval start count).sum := rfl
    _ = _ := by rw [← min_add_add_right, rounded, add_comm interval]

/-- The sleeps of a pause are within its duration when those before its last turn are, or
the last turn keeps up. -/
theorem naps_bounded_iff {adjustment : Nat → ℚ} (positive : duration.isPositive = true)
    {count : Nat} (read : ∀ turn ≤ count, reading env start turn = env.clock start +
      (naps env duration interval start turn).sum + adjustment turn) :
    duration.bounds (naps env duration interval start (count + 1)).sum ↔
      KeepsUp env duration interval start adjustment count := by
  cases duration with
  | finite value =>
      have grows : ∀ turn < count + 1, (naps env (.finite value) interval start (turn + 1)).sum =
          min ((naps env (.finite value) interval start turn).sum + interval)
            (value - adjustment turn + gain env (.finite value) start turn) :=
        fun turn lt => sum_naps_succ (read turn (Nat.lt_succ_iff.mp lt))
      have ratchet := ratchet_le_iff
        (fun turn => (naps env (.finite value) interval start turn).sum) rfl grows value
      refine ratchet.trans (or_congr (by simp [PyFloat.bounds]) (exists_congr fun turn => ?_))
      refine and_congr Nat.lt_succ_iff ?_
      push_cast
      constructor <;> intro fits <;> linarith
  | inf => exact iff_of_true trivial (.inl trivial)
  | negInf => simp [PyFloat.isPositive] at positive
  | nan => simp [PyFloat.isPositive] at positive

/-! ## The waiting loop -/

theorem pause_remaining (count : Nat) :
    pause interval (remaining env duration start count) =
      .finite (nap env duration interval start count) := by
  unfold nap
  cases remaining env duration start count <;> rfl

variable (env duration interval start) in
/-- What a pause of so many turns adds to the sleeps of `earlier`: a sleep for each turn
that was under way. -/
def Napped (turns : Nat) (earlier : List PyFloat) (world : World) : Prop :=
  ∃ count ≤ turns, (∀ turn < count, UnderWay env duration start turn) ∧
    (count = turns ∨ ¬ UnderWay env duration start count) ∧
    world.slept = (naps env duration interval start count).map PyFloat.finite ++ earlier

variable (env duration interval start) in
/-- A turn of the loop polls, reads the clock and sleeps; so many `done` of the three, in
turn `count`. -/
structure Napping (earlier : List PyFloat) (count done : Nat) (world : World) : Prop where
  tick : world.tick = start + 1 + 3 * count + done
  quiet : ∀ tick, start ≤ tick → tick < world.tick →
    (env.fault tick).filter Exn.interrupts = none
  slept : world.slept = (naps env duration interval start count).map PyFloat.finite ++ earlier

variable {earlier : List PyFloat} {count turns : Nat}

theorem Napping.stopped {done : Nat} {world next : World}
    (napping : Napping env duration interval start earlier count done world)
    (before : ∀ turn < count, UnderWay env duration start turn) (le : count ≤ turns)
    (ended : ¬ UnderWay env duration start count) (same : next.slept = world.slept) :
    Napped env duration interval start turns earlier next :=
  ⟨count, le, before, .inr ended, same.trans napping.slept⟩

theorem quiet_advance {world : World} (none : (env.fault world.tick).filter Exn.interrupts = none)
    (quiet : ∀ tick, start ≤ tick → tick < world.tick →
      (env.fault tick).filter Exn.interrupts = .none) :
    ∀ tick, start ≤ tick → tick < world.tick + 1 →
      (env.fault tick).filter Exn.interrupts = .none := by
  intro tick from_ before
  cases Nat.lt_succ_iff_lt_or_eq.mp before with
  | inl earlier => exact quiet tick from_ earlier
  | inr same => exact same ▸ none

/-- An interrupt of the turn ends the pause before its sleep. -/
theorem Napping.interrupted {done : Nat} {world : World} {failure : Exn}
    (napping : Napping env duration interval start earlier count done world) (among : done < 3)
    (failed : (env.fault world.tick).filter Exn.interrupts = some failure) :
    ¬ UnderWay env duration start count := by
  intro underWay
  have tick := napping.tick
  rw [underWay.1 world.tick (by omega) (by omega)] at failed
  contradiction

theorem reads_napping (before : ∀ turn < count, UnderWay env duration start turn)
    (le : count ≤ turns) {α : Type} (answer : Nat → α) {done : Nat} (among : done < 3) :
    Triple (Napping env duration interval start earlier count done)
      (quietly env fun tick world => (answer tick, world))
      (fun value world => value = answer (start + 1 + 3 * count + done) ∧
        Napping env duration interval start earlier count (done + 1) world)
      (fun _ => Napped env duration interval start turns earlier) := by
  apply Triple.operation_cases
  · intro world none napping
    refine ⟨congrArg answer napping.tick, congrArg (· + 1) napping.tick, ?_, napping.slept⟩
    exact quiet_advance none napping.quiet
  · intro failure world failed napping
    exact napping.stopped before le (napping.interrupted among failed) rfl

theorem sleeps_napping (before : ∀ turn < count, UnderWay env duration start turn)
    (le : count ≤ turns) :
    Triple (Napping env duration interval start earlier count 2)
      (quietly env fun _ world => ((), { world with
        slept := pause interval (remaining env duration start count) :: world.slept }))
      (fun _ world => Napping env duration interval start earlier (count + 1) 0 world)
      (fun _ => Napped env duration interval start turns earlier) := by
  apply Triple.operation_cases
  · intro world none napping
    constructor
    · change world.tick + 1 = _
      rw [napping.tick]
      ring
    · exact quiet_advance none napping.quiet
    · change pause interval (remaining env duration start count) :: world.slept = _
      rw [pause_remaining, napping.slept]
      rfl
  · intro failure world failed napping
    exact napping.stopped before le (napping.interrupted (by omega) failed) rfl

theorem sleepUntil_napped (turns : Nat)
    (before : ∀ turn < count, UnderWay env duration start turn) :
    Triple (Napping env duration interval start earlier count 0)
      (sleepUntil env (duration.after (env.clock start)) interval turns)
      (fun _ => Napped env duration interval start (count + turns) earlier)
      (fun _ => Napped env duration interval start (count + turns) earlier) := by
  induction turns generalizing count with
  | zero => exact Triple.throw fun world napping => ⟨count, le_rfl, before, .inl rfl, napping.slept⟩
  | succ turns ih =>
      have le : count ≤ count + (turns + 1) := Nat.le_add_right _ _
      apply Triple.bind (reads_napping before le env.shutdown (by omega))
      rintro stop world ⟨polled, napping⟩
      cases stop with
      | true =>
          refine napping.stopped before le (fun underWay => ?_) rfl
          exact Bool.false_ne_true ((underWay.2 count le_rfl).1.symm.trans polled.symm)
      | false =>
          apply Triple.bind (reads_napping before le env.clock (by omega)) _ world napping
          rintro now read ⟨rfl, later⟩
          have same : (duration.after (env.clock start)).less
              (env.clock (start + 1 + 3 * count + (0 + 1))) =
                remaining env duration start count := by
            rw [remaining, reading]
            congr 2
            omega
          dsimp only
          rw [same]
          cases late : (remaining env duration start count).reachedBy 0 with
          | true =>
              refine later.stopped before le (fun underWay => ?_) rfl
              exact Bool.false_ne_true ((underWay.2 count le_rfl).2.symm.trans late)
          | false =>
              apply Triple.bind (sleeps_napping before le) _ read later
              intro _ slept napping'
              have underWay : ∀ turn < count + 1, UnderWay env duration start turn := by
                intro turn lt
                cases Nat.lt_succ_iff_lt_or_eq.mp lt with
                | inl earlier => exact before turn earlier
                | inr same =>
                    subst same
                    have tick := napping'.tick
                    refine ⟨fun tick from_ until_ => napping'.quiet tick from_ (by omega), ?_⟩
                    intro turn' le'
                    cases Nat.le_iff_lt_or_eq.mp le' with
                    | inl earlier => exact (before turn' earlier).2 turn' le_rfl
                    | inr same => exact same ▸ ⟨polled.symm, late⟩
              have rest := ih underWay slept napping'
              rwa [show count + (turns + 1) = count + 1 + turns by omega]

variable (env duration interval) in
/-- Every run of a pause, cut at any turn and stopped by any interrupt, sleeps in this way. -/
theorem interruptibleSleep_napped (turns : Nat) (world : World) :
    Napped env duration interval world.tick turns world.slept
      (after (interruptibleSleep env duration interval turns) world) := by
  have started : Triple (· = world) (time env)
      (fun now next => now = env.clock world.tick ∧
        Napping env duration interval world.tick world.slept 0 0 next)
      (fun _ => Napped env duration interval world.tick turns world.slept) := by
    rw [time, quietly]
    apply Triple.operation_cases
    · rintro _ none rfl
      refine ⟨rfl, rfl, quiet_advance none fun tick from_ before => ?_, rfl⟩
      exact absurd from_ (Nat.not_le_of_lt before)
    · rintro failure _ failed rfl
      refine ⟨0, Nat.zero_le _, fun _ impossible => absurd impossible (Nat.not_lt_zero _),
        .inr fun underWay => ?_, rfl⟩
      exact absurd ((underWay.1 _ le_rfl (by omega)).symm.trans failed) nofun
  have whole : Triple (· = world) (interruptibleSleep env duration interval turns)
      (fun _ => Napped env duration interval world.tick turns world.slept)
      (fun _ => Napped env duration interval world.tick turns world.slept) := by
    apply Triple.bind started
    rintro now next ⟨rfl, napping⟩
    have slept := sleepUntil_napped turns
      (fun _ impossible => absurd impossible (Nat.not_lt_zero _)) next napping
    rwa [Nat.zero_add] at slept
  exact whole.after rfl

theorem finite_injective : Function.Injective PyFloat.finite := fun _ _ => PyFloat.finite.inj

/-- With a clock that is only adjusted, the readings of a pause are those of its sleeps. -/
theorem Adjusted.read {world : World} {adjustment : Nat → ℚ}
    (adjusted : Adjusted env duration interval world adjustment) {count : Nat}
    (before : ∀ turn < count, UnderWay env duration world.tick turn) :
    reading env world.tick count = env.clock world.tick +
      (naps env duration interval world.tick count).sum + adjustment count := by
  obtain ⟨reached, le, _, stopped, slept⟩ :=
    interruptibleSleep_napped env duration interval count world
  obtain rfl : reached = count := by
    cases stopped with
    | inl same => exact same
    | inr ended => exact le.antisymm (not_lt.mp fun early => ended (before reached early))
  have read := adjusted reached _ slept
  rwa [length_naps] at read

end Sleeps

/-- Whatever the clock does, all runs of a pause sleep no longer than asked, and not at all
once a shutdown is seen, exactly when the clock keeps up in every turn that is under way. -/
theorem interruptibleSleep_bounded_iff (env : AgentEnv) {duration : PyFloat} {interval : ℚ}
    (positive : duration.isPositive = true) (world : World) {adjustment : Nat → ℚ}
    (adjusted : Adjusted env duration interval world adjustment) :
    (∀ turns, ∃ issued : List ℚ,
      (after (interruptibleSleep env duration interval turns) world).slept =
        issued.map PyFloat.finite ++ world.slept ∧
      duration.bounds issued.sum ∧
      ∀ count, env.shutdown (world.tick + 1 + 3 * count) = true → issued.length ≤ count) ↔
    ∀ count, UnderWay env duration world.tick count →
      KeepsUp env duration interval world.tick adjustment count := by
  constructor
  · intro bounded count underWay
    have before : ∀ turn < count + 1, UnderWay env duration world.tick turn :=
      fun turn lt => underWay.earlier (Nat.lt_succ_iff.mp lt)
    obtain ⟨reached, le, _, stopped, slept⟩ :=
      interruptibleSleep_napped env duration interval (count + 1) world
    obtain rfl : reached = count + 1 := by
      cases stopped with
      | inl same => exact same
      | inr ended => exact le.antisymm (not_lt.mp fun early => ended (before reached early))
    obtain ⟨issued, observed, bounds, -⟩ := bounded (count + 1)
    rw [observed, List.append_cancel_right_eq] at slept
    rw [List.map_injective_iff.mpr finite_injective slept] at bounds
    exact (naps_bounded_iff positive fun turn le =>
      adjusted.read fun earlier lt => before earlier (by omega)).mp bounds
  · intro keeps turns
    obtain ⟨count, -, before, -, slept⟩ :=
      interruptibleSleep_napped env duration interval turns world
    refine ⟨_, slept, ?_, fun seen stop => ?_⟩
    · cases count with
      | zero => exact PyFloat.bounds_zero positive
      | succ count =>
          exact (naps_bounded_iff positive fun turn le =>
            adjusted.read fun earlier lt => before earlier (by omega)).mpr
              (keeps count (before count (Nat.lt_succ_self count)))
    · rw [length_naps]
      by_contra later
      have awake := ((before seen (Nat.lt_of_not_le later)).2 seen le_rfl).1
      rw [awake] at stop
      contradiction

/-- A clock that moves on by a quarter of a second in each of two sleeps. -/
def quarterlyEnv : AgentEnv :=
  { sampleSurroundings with
    clock := fun tick => if tick ≤ 2 then 0 else if tick ≤ 5 then 1 / 4 else 1 / 2 }

theorem quarterlyEnv_over (count : Nat)
    (before : ∀ turn < count, UnderWay quarterlyEnv (.finite (1 / 2)) 0 turn) : count ≤ 2 := by
  by_contra more
  have late := ((before 2 (by omega)).2 2 le_rfl).2
  revert late
  decide +kernel

theorem quarterlyEnv_adjusted :
    Adjusted quarterlyEnv (.finite (1 / 2)) (1 / 4) sampleWorld fun _ => 0 := by
  intro turns issued observed
  obtain ⟨count, -, before, -, slept⟩ :=
    interruptibleSleep_napped quarterlyEnv (.finite (1 / 2)) (1 / 4) turns sampleWorld
  rw [observed, List.append_cancel_right_eq] at slept
  obtain rfl := List.map_injective_iff.mpr finite_injective slept
  have few := quarterlyEnv_over count before
  interval_cases count <;> decide +kernel

/-- A pause of half a second by that clock, in two sleeps. -/
theorem interruptibleSleep_bounded_iff_quarterly : ∃ issued : List ℚ,
    (after (interruptibleSleep quarterlyEnv (.finite (1 / 2)) (1 / 4) 9) sampleWorld).slept =
      issued.map PyFloat.finite ∧ issued = [1 / 4, 1 / 4] ∧
    (PyFloat.finite (1 / 2)).bounds issued.sum := by
  have keeps : ∀ count, UnderWay quarterlyEnv (.finite (1 / 2)) sampleWorld.tick count →
      KeepsUp quarterlyEnv (.finite (1 / 2)) (1 / 4) sampleWorld.tick (fun _ => 0) count := by
    intro count underWay
    have few := quarterlyEnv_over (count + 1) fun turn lt => underWay.earlier (by omega)
    have few : (count : ℚ) + 1 ≤ 2 := by exact_mod_cast few
    have fits : ((count : ℚ) + 1) * (1 / 4) ≤ 1 / 2 := by linarith
    exact .inl fits
  obtain ⟨issued, slept, bounds, -⟩ := (interruptibleSleep_bounded_iff quarterlyEnv
    (by decide +kernel) sampleWorld quarterlyEnv_adjusted).mpr keeps 9
  rw [show sampleWorld.slept = [] from rfl, List.append_nil] at slept
  have observed : (after (interruptibleSleep quarterlyEnv (.finite (1 / 2)) (1 / 4) 9)
      sampleWorld).slept = [1 / 4, 1 / 4].map PyFloat.finite := by decide +kernel
  refine ⟨issued, slept, ?_, bounds⟩
  exact List.map_injective_iff.mpr finite_injective (slept.symm.trans observed)

/-- In November 2023 a pause of two milliseconds ends on a multiple of 2^-22 seconds, beyond it. -/
example : (after (interruptibleSleep { sampleSurroundings with clock := fun _ => 1700000000 }
    (.finite (1 / 500)) (1 / 5) 1) sampleWorld).slept = [.finite (8389 / 2 ^ 22)] ∧
    ¬ (PyFloat.finite (1 / 500)).bounds (8389 / 2 ^ 22) := by
  decide +kernel

/-- After the first sleep the clock is set back by a second: the pause of half a second
sleeps for four fifths of one and has not ended. -/
theorem interruptibleSleep_exceeds : ¬ ∀ (env : AgentEnv) (duration : PyFloat) (interval : ℚ)
    (turns : Nat) (world : World), duration.isPositive = true → 0 < interval →
      ∃ issued : List ℚ,
        (after (interruptibleSleep env duration interval turns) world).slept =
          issued.map PyFloat.finite ++ world.slept ∧
        duration.bounds issued.sum ∧
        ∀ count, env.shutdown (world.tick + 1 + 3 * count) = true → issued.length ≤ count := by
  intro claim
  let env := { sampleSurroundings with
    clock := fun tick => if tick ≤ 2 then 0 else ((tick : ℚ) - 2) / 15 - 1 }
  obtain ⟨issued, slept, bounded, -⟩ := claim env (.finite (1 / 2)) (1 / 5) 4 sampleWorld
    (by decide +kernel) (by norm_num)
  have observed : (after (interruptibleSleep env (.finite (1 / 2)) (1 / 5) 4) sampleWorld).slept =
      [1 / 5, 1 / 5, 1 / 5, 1 / 5].map PyFloat.finite := by decide +kernel
  rw [observed, show sampleWorld.slept = [] from rfl, List.append_nil] at slept
  rw [← List.map_injective_iff.mpr finite_injective slept] at bounded
  revert bounded
  decide +kernel

end Agent

end MvdEdge
