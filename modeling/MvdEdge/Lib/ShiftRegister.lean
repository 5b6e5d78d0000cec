import Mathlib.Algebra.Ring.Parity
import Mathlib.Data.List.GetD
import Mathlib.Data.Nat.Bits
import Mathlib.Logic.Function.Iterate

/-! Shift registers with feedback, low bit first, of any width and polynomial. Such a
register is linear, so that what it makes of a corrupted stream differs from what it
makes of the stream by what it makes of the error alone. -/

set_option autoImplicit false

namespace MvdEdge.Lib.ShiftRegister

variable {w : Nat}

def shift (poly reg : BitVec w) : BitVec w :=
  if reg &&& 1#w ≠ 0#w then (reg >>> 1) ^^^ poly else reg >>> 1

def bitWord (bit : Bool) : BitVec w := (BitVec.ofBool bit).setWidth w

def feed (poly reg : BitVec w) (bit : Bool) : BitVec w := shift poly (reg ^^^ bitWord bit)

def run (poly reg : BitVec w) (bits : List Bool) : BitVec w := bits.foldl (feed poly) reg

/-- The bits of a stream as one word, the first bit lowest. -/
def word (bits : List Bool) : BitVec w := (BitVec.ofBoolListLE bits).setWidth w

theorem getLsbD_word (bits : List Bool) (index : Nat) :
    (word bits : BitVec w).getLsbD index = (decide (index < w) && bits.getD index false) := by
  rw [word, BitVec.getLsbD_setWidth, BitVec.getLsbD_ofBoolListLE]

theorem getLsbD_bitWord (bit : Bool) (index : Nat) :
    (bitWord bit : BitVec w).getLsbD index =
      (decide (index < w) && (decide (index = 0) && bit)) := by
  rw [bitWord, BitVec.getLsbD_setWidth, BitVec.getLsbD_ofBool]

@[simp] theorem bitWord_false : (bitWord false : BitVec w) = 0#w := by
  apply BitVec.eq_of_getLsbD_eq
  intro index _
  simp [getLsbD_bitWord]

/-! ## Linearity -/

theorem and_one_ne_zero_iff (reg : BitVec w) : reg &&& 1#w ≠ 0#w ↔ reg.getLsbD 0 = true := by
  rw [BitVec.and_one_eq_setWidth_ofBool_getLsbD]
  cases low : reg.getLsbD 0 with
  | false => simp
  | true =>
      have positive : 0 < w := by
        by_contra empty
        simp [BitVec.getLsbD_of_ge reg 0 (Nat.le_of_not_lt empty)] at low
      simp only [iff_true]
      intro zero
      have bit := congrArg (·.getLsbD 0) zero
      simp [positive] at bit

theorem shift_eq (poly reg : BitVec w) :
    shift poly reg = (reg >>> 1) ^^^ if reg.getLsbD 0 then poly else 0#w := by
  rw [shift]
  by_cases low : reg.getLsbD 0 = true
  · rw [if_pos ((and_one_ne_zero_iff reg).mpr low), if_pos low]
  · rw [if_neg fun set => low ((and_one_ne_zero_iff reg).mp set), if_neg low, BitVec.xor_zero]

theorem shift_xor (poly left right : BitVec w) :
    shift poly (left ^^^ right) = shift poly left ^^^ shift poly right := by
  simp only [shift_eq, BitVec.getLsbD_xor, BitVec.ushiftRight_xor_distrib]
  apply BitVec.eq_of_getLsbD_eq
  intro index _
  simp only [BitVec.getLsbD_xor, apply_ite (BitVec.getLsbD · index), BitVec.getLsbD_zero]
  cases left.getLsbD 0 <;> cases right.getLsbD 0 <;> cases poly.getLsbD index <;>
    cases (left >>> 1).getLsbD index <;> simp

@[simp] theorem shift_zero (poly : BitVec w) : shift poly 0#w = 0#w := by
  simp [shift_eq]

theorem bitWord_xor (left right : Bool) :
    (bitWord (left ^^ right) : BitVec w) = bitWord left ^^^ bitWord right := by
  apply BitVec.eq_of_getLsbD_eq
  intro index _
  cases left <;> cases right <;> simp [getLsbD_bitWord]

theorem feed_xor (poly left right : BitVec w) (one other : Bool) :
    feed poly (left ^^^ right) (one ^^ other) = feed poly left one ^^^ feed poly right other := by
  rw [feed, feed, feed, ← shift_xor, bitWord_xor]
  congr 1
  ac_rfl

/-- The register after two streams at once: the errors of a stream travel on their own. -/
theorem run_xor (poly : BitVec w) {ones others : List Bool}
    (sameLength : ones.length = others.length) (left right : BitVec w) :
    run poly (left ^^^ right) (List.zipWith xor ones others) =
      run poly left ones ^^^ run poly right others := by
  induction ones generalizing others left right with
  | nil =>
      cases others with
      | nil => rfl
      | cons => simp at sameLength
  | cons one ones ih =>
      cases others with
      | nil => simp at sameLength
      | cons other others =>
          have shorter : ones.length = others.length := by simpa using sameLength
          have step := feed_xor poly left right one other
          simp only [run, List.zipWith_cons_cons, List.foldl_cons] at ih ⊢
          rw [← ih shorter, ← step]

/-! ## Whole words -/

theorem run_append (poly reg : BitVec w) (bits rest : List Bool) :
    run poly reg (bits ++ rest) = run poly (run poly reg bits) rest :=
  List.foldl_append

theorem run_clear (poly : BitVec w) {bits : List Bool} (clear : ∀ bit ∈ bits, bit = false)
    (reg : BitVec w) : run poly reg bits = (shift poly)^[bits.length] reg := by
  induction bits generalizing reg with
  | nil => rfl
  | cons bit bits ih =>
      rw [List.forall_mem_cons] at clear
      change run poly (feed poly reg bit) bits = _
      rw [ih clear.2, clear.1, feed, bitWord_false, BitVec.xor_zero]
      rfl

theorem word_cons (bit : Bool) (bits : List Bool) :
    (word (bit :: bits) : BitVec w) = bitWord bit ^^^ (word bits <<< 1) := by
  apply BitVec.eq_of_getLsbD_eq
  intro index inside
  rw [BitVec.getLsbD_xor, BitVec.getLsbD_shiftLeft, getLsbD_word, getLsbD_word, getLsbD_bitWord]
  cases index with
  | zero => simp
  | succ index => simp [inside, Nat.lt_of_succ_lt inside]

theorem shift_shiftLeft (poly : BitVec w) {reg : BitVec w} (top : reg.getLsbD (w - 1) = false) :
    shift poly (reg <<< 1) = reg := by
  apply BitVec.eq_of_getLsbD_eq
  intro index inside
  have low : (reg <<< 1).getLsbD 0 = false := by simp
  rw [shift_eq, low, if_neg (by simp), BitVec.xor_zero, BitVec.getLsbD_ushiftRight,
    BitVec.getLsbD_shiftLeft]
  by_cases last : 1 + index < w
  · simp [Nat.add_comm 1 index]
    omega
  · have here : index = w - 1 := by omega
    rw [here, top]
    simp
    omega

/-- A stream no longer than the register can be added to it at once. -/
theorem run_eq_shifts (poly : BitVec w) {bits : List Bool} (short : bits.length ≤ w)
    (reg : BitVec w) : run poly reg bits = (shift poly)^[bits.length] (reg ^^^ word bits) := by
  induction bits generalizing reg with
  | nil =>
      have none : (word [] : BitVec w) = 0#w := by
        apply BitVec.eq_of_getLsbD_eq
        intro index _
        simp [getLsbD_word]
      rw [none, BitVec.xor_zero]
      rfl
  | cons bit bits ih =>
      have shorter : bits.length ≤ w - 1 := by simp at short; omega
      have top : (word bits : BitVec w).getLsbD (w - 1) = false := by
        rw [getLsbD_word, List.getD_eq_default _ _ shorter, Bool.and_false]
      change run poly (feed poly reg bit) bits = _
      rw [ih (by omega), feed, word_cons, ← BitVec.xor_assoc, List.length_cons,
        Function.iterate_succ_apply, shift_xor poly _ (word bits <<< 1), shift_shiftLeft poly top]

/-! ## What the polynomial has to be for no error to vanish -/

theorem eq_zero_of_shift_eq_zero {poly reg : BitVec w} (top : poly.getLsbD (w - 1) = true)
    (vanished : shift poly reg = 0#w) : reg = 0#w := by
  rw [shift_eq] at vanished
  have positive : 0 < w := by
    by_contra empty
    simp [BitVec.getLsbD_of_ge poly (w - 1) (by omega)] at top
  cases low : reg.getLsbD 0 with
  | true =>
      have bit := congrArg (·.getLsbD (w - 1)) vanished
      simp [low, top, BitVec.getLsbD_of_ge reg (1 + (w - 1)) (by omega)] at bit
  | false =>
      rw [low, if_neg (by simp), BitVec.xor_zero] at vanished
      apply BitVec.eq_of_getLsbD_eq
      intro index _
      cases index with
      | zero => simpa using low
      | succ index =>
          have bit := congrArg (·.getLsbD index) vanished
          simpa [Nat.add_comm 1 index] using bit

theorem shifts_ne_zero {poly : BitVec w} (top : poly.getLsbD (w - 1) = true) (count : Nat)
    {reg : BitVec w} (nonzero : reg ≠ 0#w) : (shift poly)^[count] reg ≠ 0#w := by
  induction count generalizing reg with
  | zero => exact nonzero
  | succ count ih => exact ih fun vanished => nonzero (eq_zero_of_shift_eq_zero top vanished)

theorem word_ne_zero {bits : List Bool} (short : bits.length ≤ w) (set : true ∈ bits) :
    (word bits : BitVec w) ≠ 0#w := by
  intro vanished
  obtain ⟨index, inside, here⟩ := List.getElem_of_mem set
  have bit : (word bits : BitVec w).getLsbD index = false := by rw [vanished, BitVec.getLsbD_zero]
  rw [getLsbD_word, List.getD_eq_getElem _ _ inside, here] at bit
  simp at bit
  omega

theorem run_zero_clear (poly : BitVec w) {bits : List Bool} (clear : ∀ bit ∈ bits, bit = false) :
    run poly 0#w bits = 0#w := by
  rw [run_clear poly clear]
  exact Function.iterate_fixed (shift_zero poly) _

theorem run_window_ne_zero {poly : BitVec w} (top : poly.getLsbD (w - 1) = true)
    {before window after : List Bool} (short : window.length ≤ w) (set : true ∈ window)
    (clearBefore : ∀ bit ∈ before, bit = false) (clearAfter : ∀ bit ∈ after, bit = false) :
    run poly 0#w (before ++ (window ++ after)) ≠ 0#w := by
  rw [run_append, run_append, run_zero_clear poly clearBefore, run_eq_shifts poly short,
    BitVec.zero_xor, run_clear poly clearAfter]
  exact shifts_ne_zero top _ (shifts_ne_zero top _ (word_ne_zero short set))

/-- Errors inside a window no longer than the register. -/
theorem run_burst_ne_zero {poly : BitVec w} (top : poly.getLsbD (w - 1) = true)
    {bits : List Bool} (set : true ∈ bits) {start : Nat}
    (inside : ∀ index, (here : index < bits.length) → bits[index] = true →
      start ≤ index ∧ index < start + w) : run poly 0#w bits ≠ 0#w := by
  have clearBefore : ∀ bit ∈ bits.take start, bit = false := by
    intro bit member
    obtain ⟨index, here, rfl⟩ := List.getElem_of_mem member
    rw [List.length_take] at here
    rw [List.getElem_take, Bool.eq_false_iff]
    intro flipped
    have := inside index (by omega) flipped
    omega
  have clearAfter : ∀ bit ∈ (bits.drop start).drop w, bit = false := by
    intro bit member
    obtain ⟨index, here, rfl⟩ := List.getElem_of_mem member
    rw [List.length_drop, List.length_drop] at here
    rw [List.getElem_drop, List.getElem_drop, Bool.eq_false_iff]
    intro flipped
    have := inside (start + (w + index)) (by omega) flipped
    omega
  have parts : bits.take start ++
      ((bits.drop start).take w ++ (bits.drop start).drop w) = bits := by
    rw [List.take_append_drop, List.take_append_drop]
  have inWindow : true ∈ (bits.drop start).take w := by
    rw [← parts, List.mem_append, List.mem_append] at set
    rcases set with before | window | after
    · simpa using clearBefore true before
    · exact window
    · simpa using clearAfter true after
  rw [← parts]
  exact run_window_ne_zero top (List.length_take_le w _) inWindow clearBefore clearAfter

/-- Whether an odd number of the register's bits is set. -/
def parity (reg : BitVec w) : Bool := ((List.range w).countP reg.getLsbD).bodd

theorem parity_zero : parity 0#w = false := by
  have none : (List.range w).countP (0#w).getLsbD = 0 := by
    rw [List.countP_eq_zero]
    intro index _
    simp
  rw [parity, none]
  rfl

theorem bodd_countP_xor {α : Type*} (left right : α → Bool) (items : List α) :
    (items.countP fun item => left item ^^ right item).bodd =
      ((items.countP left).bodd ^^ (items.countP right).bodd) := by
  induction items with
  | nil => simp
  | cons item items ih =>
      simp only [List.countP_cons, Nat.bodd_add, ih]
      cases left item <;> cases right item <;> simp

theorem parity_xor (left right : BitVec w) :
    parity (left ^^^ right) = (parity left ^^ parity right) := by
  rw [parity, parity, parity, ← bodd_countP_xor]
  congr 2
  funext index
  exact BitVec.getLsbD_xor

theorem parity_ushiftRight (reg : BitVec w) :
    parity reg = (parity (reg >>> 1) ^^ reg.getLsbD 0) := by
  have above : reg.getLsbD w = false := BitVec.getLsbD_of_ge reg w (Nat.le_refl w)
  have outer : (List.range (w + 1)).countP reg.getLsbD = (List.range w).countP reg.getLsbD := by
    rw [List.range_succ, List.countP_append, List.countP_singleton, above]
    rfl
  have inner : (reg.getLsbD ∘ Nat.succ) = (reg >>> 1).getLsbD := by
    funext index
    rw [BitVec.getLsbD_ushiftRight, Nat.add_comm]
    rfl
  rw [parity, ← outer, List.range_succ_eq_map, List.countP_cons, List.countP_map, inner,
    Nat.bodd_add, parity]
  cases reg.getLsbD 0 <;> rfl

theorem parity_shift {poly : BitVec w} (odd : parity poly = true) (reg : BitVec w) :
    parity (shift poly reg) = parity reg := by
  rw [shift_eq, parity_xor, parity_ushiftRight reg]
  cases reg.getLsbD 0 with
  | true => simp [odd]
  | false => simp [parity_zero]

theorem parity_bitWord (positive : 0 < w) (bit : Bool) : parity (bitWord bit : BitVec w) = bit := by
  obtain ⟨smaller, rfl⟩ := Nat.exists_eq_succ_of_ne_zero (Nat.ne_of_gt positive)
  have above : ((bitWord bit : BitVec (smaller + 1)) >>> 1) = 0#(smaller + 1) := by
    apply BitVec.eq_of_getLsbD_eq
    intro index _
    simp [getLsbD_bitWord]
  rw [parity_ushiftRight, above, parity_zero, getLsbD_bitWord]
  simp

theorem parity_run {poly : BitVec w} (positive : 0 < w) (odd : parity poly = true)
    (reg : BitVec w) (bits : List Bool) :
    parity (run poly reg bits) = (parity reg ^^ (bits.count true).bodd) := by
  induction bits generalizing reg with
  | nil => simp [run]
  | cons bit bits ih =>
      change parity (run poly (feed poly reg bit) bits) = _
      rw [ih, feed, parity_shift odd, parity_xor, parity_bitWord positive]
      cases bit with
      | true => simp
      | false => simp

/-- Errors in an odd number of places. -/
theorem run_odd_ne_zero {poly : BitVec w} (positive : 0 < w) (odd : parity poly = true)
    {bits : List Bool} (count : Odd (bits.count true)) : run poly 0#w bits ≠ 0#w := by
  intro vanished
  have balance := parity_run positive odd 0#w bits
  rw [vanished, parity_zero, Bool.false_xor] at balance
  have even := Nat.mod_two_of_bodd (bits.count true)
  rw [← balance, Nat.odd_iff.mp count] at even
  simp at even

/-- No shift of `reg` up to the `count`th is `target`. -/
def avoids (poly target : BitVec w) : Nat → BitVec w → Bool
  | 0, _ => true
  | count + 1, reg => reg != target && avoids poly target count (shift poly reg)

theorem avoids_iff {poly target : BitVec w} {count : Nat} {reg : BitVec w} :
    avoids poly target count reg = true ↔ ∀ k < count, (shift poly)^[k] reg ≠ target := by
  induction count generalizing reg with
  | zero => simp [avoids]
  | succ count ih =>
      rw [avoids, Bool.and_eq_true, bne_iff_ne, ih, Nat.forall_lt_succ_left']
      rfl

theorem run_pair_ne_zero {poly : BitVec w} (top : poly.getLsbD (w - 1) = true) {order : Nat}
    (apart : avoids poly 1#w order (shift poly 1#w) = true) {before between after : List Bool}
    (clearBefore : ∀ bit ∈ before, bit = false) (clearBetween : ∀ bit ∈ between, bit = false)
    (clearAfter : ∀ bit ∈ after, bit = false) (near : between.length < order) :
    run poly 0#w (before ++ true :: (between ++ true :: after)) ≠ 0#w := by
  have one : (bitWord true : BitVec w) = 1#w := by
    apply BitVec.eq_of_getLsbD_eq
    intro index inside
    rw [getLsbD_bitWord, BitVec.getLsbD_one]
    simp [inside]
    omega
  rw [run_append, run_zero_clear poly clearBefore]
  change run poly (feed poly 0#w true) (between ++ true :: after) ≠ 0#w
  rw [run_append, run_clear poly clearBetween]
  change run poly (feed poly _ true) after ≠ 0#w
  rw [run_clear poly clearAfter, feed, feed, one, BitVec.zero_xor]
  apply shifts_ne_zero top
  intro vanished
  have equal := BitVec.xor_eq_zero_iff.mp (eq_zero_of_shift_eq_zero top vanished)
  exact avoids_iff.mp apart between.length near equal

theorem clear_of_not_mem {bits : List Bool} (unset : true ∉ bits) : ∀ bit ∈ bits, bit = false := by
  intro bit member
  cases bit with
  | true => exact absurd member unset
  | false => rfl

/-- Errors in two places nearer than the order of the polynomial. -/
theorem run_two_ne_zero {poly : BitVec w} (top : poly.getLsbD (w - 1) = true) {order : Nat}
    (apart : avoids poly 1#w order (shift poly 1#w) = true) {bits : List Bool}
    (two : bits.count true = 2) (near : bits.length ≤ order + 1) : run poly 0#w bits ≠ 0#w := by
  have first : true ∈ bits := List.count_pos_iff.mp (by omega)
  obtain ⟨before, rest, rfl, unsetBefore⟩ := List.eq_append_cons_of_mem first
  rw [List.count_append, List.count_eq_zero_of_not_mem unsetBefore, List.count_cons_self] at two
  have second : true ∈ rest := List.count_pos_iff.mp (by omega)
  obtain ⟨between, after, rfl, unsetBetween⟩ := List.eq_append_cons_of_mem second
  rw [List.count_append, List.count_eq_zero_of_not_mem unsetBetween, List.count_cons_self] at two
  have unsetAfter : true ∉ after := List.count_eq_zero.mp (by omega)
  apply run_pair_ne_zero top apart (clear_of_not_mem unsetBefore) (clear_of_not_mem unsetBetween)
    (clear_of_not_mem unsetAfter)
  simp only [List.length_append, List.length_cons] at near
  omega

end MvdEdge.Lib.ShiftRegister
