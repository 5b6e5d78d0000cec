import MvdEdge.Adapters.InventoryReport
import MvdEdge.Lib.ShiftRegister
import Mathlib.Data.List.Induction

/-! What the frame CRC detects. `crc16` is a shift register over the bits of the frame,
low bit first, and the trailer continues the stream: a frame is valid when it
leaves the register empty. -/

set_option autoImplicit false

namespace MvdEdge

open Lib.ShiftRegister

def crcPolynomial : BitVec 16 := 0x8408#16

theorem crcShift_eq : crcShift = shift crcPolynomial := rfl

/-! ## The bit stream of a frame -/

def byteBits (value : UInt8) : List Bool := (List.range 8).map value.toNat.testBit

def frameBits (frame : Bytes) : List Bool := (List.range (8 * frame.length)).map (frameBit frame)

@[simp] theorem length_frameBits (frame : Bytes) :
    (frameBits frame).length = 8 * frame.length := by
  simp [frameBits]

theorem frameBits_cons (value : UInt8) (frame : Bytes) :
    frameBits (value :: frame) = byteBits value ++ frameBits frame := by
  rw [frameBits, List.length_cons, Nat.mul_succ, Nat.add_comm, List.range_add, List.map_append,
    List.map_map]
  congr 1
  apply List.map_congr_left
  intro index _
  simp [frameBit, Nat.add_div_left]

theorem frameBits_append (front rest : Bytes) :
    frameBits (front ++ rest) = frameBits front ++ frameBits rest := by
  induction front with
  | nil => rfl
  | cons value front ih =>
      rw [List.cons_append, frameBits_cons, frameBits_cons, ih, List.append_assoc]

theorem word_byteBits (value : UInt8) :
    (word (byteBits value) : BitVec 16) = value.toBitVec.setWidth 16 := by
  apply BitVec.eq_of_getLsbD_eq
  intro index inside
  rw [getLsbD_word, BitVec.getLsbD_setWidth, byteBits]
  by_cases small : index < 8
  · rw [List.getD_eq_getElem _ _ (by simpa using small)]
    simp [BitVec.getLsbD, inside]
  · rw [List.getD_eq_default _ _ (by simpa using small),
      BitVec.getLsbD_of_ge _ _ (Nat.le_of_not_lt small)]

theorem crcByte_eq_run (crc : BitVec 16) (value : UInt8) :
    crcByte crc value = run crcPolynomial crc (byteBits value) := by
  rw [crcByte, crcShift_eq, run_eq_shifts crcPolynomial (by simp [byteBits]), word_byteBits]
  rfl

theorem crc16_eq_run (data : Bytes) :
    crc16 data = run crcPolynomial 0xFFFF#16 (frameBits data) := by
  rw [crc16]
  induction data using List.reverseRecOn with
  | nil => rfl
  | append_singleton front value ih =>
      rw [List.foldl_append, ih, frameBits_append, run_append, frameBits_cons]
      change crcByte _ value = run _ _ (byteBits value ++ [])
      rw [List.append_nil, crcByte_eq_run]

/-! ## Valid frames -/

theorem word_trailer (low high : UInt8) :
    (word (frameBits [low, high]) : BitVec 16) =
      low.toBitVec.setWidth 16 ||| (high.toBitVec.setWidth 16 <<< 8) := by
  apply BitVec.eq_of_getLsbD_eq
  intro index inside
  rw [frameBits_cons, frameBits_cons, getLsbD_word, BitVec.getLsbD_or, BitVec.getLsbD_shiftLeft,
    ← word_byteBits, ← word_byteBits, getLsbD_word, getLsbD_word]
  by_cases first : index < 8
  · rw [List.getD_append _ _ _ _ (by simpa [byteBits] using first)]
    simp [first]
  · rw [List.getD_append_right _ _ _ _ (by simpa [byteBits] using first),
      List.getD_eq_default (byteBits low) _ (by simpa [byteBits] using first)]
    rw [show frameBits [] = [] from rfl, List.append_nil]
    simp [first, inside, byteBits, show index - 8 < 16 by omega]

theorem crc16_trailer_eq_zero_iff (body : Bytes) (low high : UInt8) :
    crc16 (body ++ [low, high]) = 0#16 ↔
      crc16 body = low.toBitVec.setWidth 16 ||| (high.toBitVec.setWidth 16 <<< 8) := by
  rw [crc16_eq_run, frameBits_append, run_append, ← crc16_eq_run,
    run_eq_shifts crcPolynomial (by simp), word_trailer]
  constructor
  · intro vanished
    by_contra differs
    have top : crcPolynomial.getLsbD (16 - 1) = true := by decide
    exact shifts_ne_zero top _ (fun same => differs (BitVec.xor_eq_zero_iff.mp same)) vanished
  · intro same
    rw [same, BitVec.xor_self]
    exact Function.iterate_fixed (shift_zero crcPolynomial) _

theorem hasValidCrc_iff {frame : Bytes} (long : 3 ≤ frame.length) :
    hasValidCrc frame = true ↔ crc16 frame = 0#16 := by
  have parts : frame = frame.take (frame.length - 2) ++
      [frame[frame.length - 2], frame[frame.length - 1]] := by
    have last : frame.drop (frame.length - 2) =
        [frame[frame.length - 2], frame[frame.length - 1]] := by
      rw [List.drop_eq_getElem_cons (by omega), List.drop_eq_getElem_cons (by omega),
        List.drop_eq_nil_of_le (by omega)]
      simp [show frame.length - 2 + 1 = frame.length - 1 by omega]
    rw [← last, List.take_append_drop]
  rw [hasValidCrc, dif_neg (by omega), beq_iff_eq, ← crc16_trailer_eq_zero_iff, ← parts]

theorem crc16_makeCommand (address command : UInt8) (params : Bytes)
    (fits : 1 + 1 + params.length + 2 < 256) :
    crc16 (makeCommand address command params fits) = 0#16 := by
  rw [makeCommand, crcTrailer, crc16_trailer_eq_zero_iff]
  apply BitVec.eq_of_getLsbD_eq
  intro index inside
  simp only [BitVec.getLsbD_or, BitVec.getLsbD_setWidth, BitVec.getLsbD_shiftLeft,
    BitVec.getLsbD_ushiftRight]
  by_cases first : index < 8
  · simp [first, inside]
  · simp [first, inside, show index - 8 < 8 by omega, show index - 8 < 16 by omega,
      show 8 + (index - 8) = index by omega]

/-! ## Flipped bits -/

/-- The errors in a frame on its way, as a bit stream of their own. -/
def errors (sent received : Bytes) : List Bool :=
  (List.range (8 * sent.length)).map fun index => frameBit sent index != frameBit received index

theorem crc16_xor {sent received : Bytes} (sameLength : received.length = sent.length) :
    crc16 sent ^^^ crc16 received = run crcPolynomial 0#16 (errors sent received) := by
  have streams : errors sent received =
      List.zipWith xor (frameBits sent) (frameBits received) := by
    rw [frameBits, frameBits, sameLength, List.zipWith_map, List.zipWith_self]
    rfl
  rw [crc16_eq_run, crc16_eq_run, streams, ← BitVec.xor_self (x := 0xFFFF#16), run_xor]
  rw [length_frameBits, length_frameBits, sameLength]

theorem count_errors (sent received : Bytes) :
    (errors sent received).count true = (flippedBits sent received).length := by
  rw [errors, flippedBits, List.count_eq_countP, List.countP_map, List.countP_eq_length_filter]
  congr 2
  funext index
  simp

theorem mem_flippedBits_iff {sent received : Bytes} {index : Nat} :
    index ∈ flippedBits sent received ↔
      ∃ here : index < (errors sent received).length, (errors sent received)[index] = true := by
  simp [flippedBits, errors]

/-- The sets of bits whose flipping a 16-bit CCITT CRC detects: a burst, an odd number,
or two. -/
inductive Detectable (flipped : List Nat) : Prop where
  | burst (start : Nat) : flipped ≠ [] →
      (∀ index ∈ flipped, start ≤ index ∧ index < start + 16) → Detectable flipped
  | odd : Odd flipped.length → Detectable flipped
  | two : flipped.length = 2 → Detectable flipped

theorem run_errors_ne_zero {sent received : Bytes} (bounded : sent.length ≤ 256)
    (detectable : Detectable (flippedBits sent received)) :
    run crcPolynomial 0#16 (errors sent received) ≠ 0#16 := by
  have top : crcPolynomial.getLsbD (16 - 1) = true := by decide
  cases detectable with
  | burst start nonempty inside =>
      have set : true ∈ errors sent received := by
        apply List.count_pos_iff.mp
        rw [count_errors]
        exact List.length_pos_of_ne_nil nonempty
      apply run_burst_ne_zero top set
      intro index here flipped
      exact inside index (mem_flippedBits_iff.mpr ⟨here, flipped⟩)
  | odd count =>
      have oddTerms : parity crcPolynomial = true := by decide
      rw [← count_errors] at count
      exact run_odd_ne_zero (by decide) oddTerms count
  | two count =>
      -- The polynomial has order 32767, a frame at most 2048 bits.
      have apart : avoids crcPolynomial 1#16 2047 (shift crcPolynomial 1#16) = true := by
        decide +kernel
      rw [← count_errors] at count
      apply run_two_ne_zero top apart count
      simp [errors]
      omega

/-- No detectable corruption of a valid frame is valid, wherever in data and trailer
it falls, and every command that can be built is a valid frame. -/
theorem hasValidCrc_detects :
    (∀ sent received : Bytes, 3 ≤ sent.length → sent.length ≤ 256 →
      hasValidCrc sent = true → received.length = sent.length →
        Detectable (flippedBits sent received) → hasValidCrc received = false) ∧
    ∀ (address command : UInt8) (params : Bytes) (fits : 1 + 1 + params.length + 2 < 256),
      let frame := makeCommand address command params fits
      (frame.getD 0 0).toNat = frame.length - 1 ∧ hasValidCrc frame = true := by
  constructor
  · intro sent received long bounded valid sameLength detectable
    rw [Bool.eq_false_iff]
    intro accepted
    have linear := crc16_xor sameLength
    rw [(hasValidCrc_iff long).mp valid, (hasValidCrc_iff (by omega)).mp accepted] at linear
    exact run_errors_ne_zero bounded detectable linear.symm
  · intro address command params fits
    have length : (makeCommand address command params fits).length = params.length + 5 := by
      simp [makeCommand, crcTrailer]
    constructor
    · have size : (UInt8.ofNat (1 + 1 + params.length + 2)).toNat = 1 + 1 + params.length + 2 :=
        UInt8.toNat_ofNat_of_lt fits
      rw [length]
      change (UInt8.ofNat (1 + 1 + params.length + 2)).toNat = _
      omega
    · exact (hasValidCrc_iff (by omega)).mpr (crc16_makeCommand address command params fits)

/-- One error in the data and one in the trailer of a five-byte command. -/
theorem hasValidCrc_detects_straddling :
    hasValidCrc [0x04, 0x00, 0x81, 0xDB, 0x4A] = false ∧
      hasValidCrc (makeCommand 0x00 INVENTORY_COMMAND []) = true :=
  ⟨hasValidCrc_detects.1 [0x04, 0x00, 0x01, 0xDB, 0x4B] _ (by decide) (by decide)
    (by decide +kernel) rfl (.two (by decide +kernel)),
  (hasValidCrc_detects.2 0x00 INVENTORY_COMMAND [] (by decide)).2⟩

end MvdEdge
