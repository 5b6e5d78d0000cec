import MvdEdge.Adapters.FrameProperties
import Mathlib.Data.List.GetD

/-! Well-formed tag reports and what can reach the decoder in their place: the
report itself, a truncation of it, and the report after line noise. -/

set_option autoImplicit false

namespace MvdEdge

open Lib

/-- The content of a well-formed inventory answer that lists tags. -/
structure TagReport where
  address : UInt8
  status : UInt8
  epcs : List Bytes
  statusValid : status ∈ ([0x01, 0x02, 0x03, 0x04] : Bytes)
  fits : 1 + 1 + (status :: UInt8.ofNat epcs.length :: byteLength.encode epcs).length + 2 < 256

namespace TagReport

def frame (report : TagReport) : Bytes :=
  makeCommand report.address INVENTORY_COMMAND
    (report.status :: UInt8.ofNat report.epcs.length :: byteLength.encode report.epcs) report.fits

def tags (report : TagReport) : List Str := report.epcs.map hexUpper

variable (report : TagReport)

theorem encode_length_lt : (byteLength.encode report.epcs).length + 6 < 256 := by
  have fits := report.fits
  simp only [List.length_cons] at fits
  omega

theorem epcs_fit : byteLength.Fits report.epcs := by
  intro record member
  have shorter := byteLength.length_lt_length_encode member
  have bounded := report.encode_length_lt
  change record.length < 256
  omega

theorem count_toNat : (UInt8.ofNat report.epcs.length).toNat = report.epcs.length := by
  have fewer := byteLength.length_le_length_encode report.epcs
  have bounded := report.encode_length_lt
  exact UInt8.toNat_ofNat_of_lt (by change report.epcs.length < 256; omega)

theorem exists_frame_eq : ∃ low high, report.frame =
    UInt8.ofNat ((byteLength.encode report.epcs).length + 6) :: report.address ::
      INVENTORY_COMMAND :: report.status :: UInt8.ofNat report.epcs.length ::
        (byteLength.encode report.epcs ++ [low, high]) := by
  simp only [frame, makeCommand, crcTrailer, List.length_cons, List.cons_append, List.nil_append]
  rw [show 1 + 1 + ((byteLength.encode report.epcs).length + 1 + 1) + 2 =
    (byteLength.encode report.epcs).length + 6 by omega]
  exact ⟨_, _, rfl⟩

theorem frame_length : report.frame.length = (byteLength.encode report.epcs).length + 7 := by
  obtain ⟨low, high, shape⟩ := report.exists_frame_eq
  rw [shape]
  simp

theorem frame_head : report.frame.getD 0 0 = UInt8.ofNat (report.frame.length - 1) := by
  rw [report.frame_length]
  obtain ⟨low, high, shape⟩ := report.exists_frame_eq
  rw [shape]
  rfl

theorem frame_head_toNat : (report.frame.getD 0 0).toNat = report.frame.length - 1 := by
  have bounded := report.encode_length_lt
  have length := report.frame_length
  rw [report.frame_head]
  exact UInt8.toNat_ofNat_of_lt (by change report.frame.length - 1 < 256; omega)

theorem frame_content : (report.frame.take (report.frame.length - 2)).drop 4 =
    UInt8.ofNat report.epcs.length :: byteLength.encode report.epcs := by
  rw [report.frame_length]
  obtain ⟨low, high, shape⟩ := report.exists_frame_eq
  rw [shape]
  simp

theorem classify_frame : classifyInventoryResponse report.frame = ⟨.VALID, report.tags⟩ := by
  have length := report.frame_length
  have content := report.frame_content
  have area : recordArea report.frame = byteLength.encode report.epcs := by
    rw [recordArea, show 5 = 4 + 1 from rfl, ← List.drop_drop, content]
    rfl
  have header : headerAccepted report.frame = true := by
    have size := report.frame_head_toNat
    obtain ⟨low, high, shape⟩ := report.exists_frame_eq
    simp only [headerAccepted, Bool.and_eq_true, Bool.or_eq_true, beq_iff_eq, decide_eq_true_eq]
    refine ⟨⟨.inr (by omega), by rw [shape]; rfl⟩, ?_⟩
    rw [shape]
    exact report.statusValid
  have count : (report.frame.getD 4 0).toNat = report.epcs.length := by
    rw [← report.count_toNat]
    obtain ⟨low, high, shape⟩ := report.exists_frame_eq
    rw [shape]
    rfl
  have split := byteLength.split_encode report.epcs_fit []
  rw [List.append_nil] at split
  rw [classifyInventoryResponse_long (by omega), if_pos header, count, area, split]
  rfl

theorem classify_truncated {received rest : Bytes} (cut : report.frame = received ++ rest)
    (arrived : received ≠ []) (missing : rest ≠ []) :
    classifyInventoryResponse received = ⟨.MALFORMED, []⟩ := by
  have size := report.frame_head_toNat
  have total : report.frame.length = received.length + rest.length := by
    rw [cut, List.length_append]
  have restPos := List.length_pos_of_ne_nil missing
  have receivedPos := List.length_pos_of_ne_nil arrived
  have head : report.frame.getD 0 0 = received[0] := by
    rw [cut, List.getD_append _ _ _ _ receivedPos, List.getD_eq_getElem _ _ receivedPos]
  rw [head] at size
  unfold classifyInventoryResponse
  rw [dif_neg arrived]
  have nonzero : received[0] ≠ 0 := by
    intro zero
    have bounded := report.frame_length
    rw [zero] at size
    simp at size
    omega
  have differs : received.length ≠ received[0].toNat + 1 := by omega
  simp [nonzero, differs, InventoryResult.malformed]

end TagReport

/-! ## Line noise -/

def frameBit (frame : Bytes) (index : Nat) : Bool :=
  (frame.getD (index / 8) 0).toNat.testBit (index % 8)

def flippedBits (sent received : Bytes) : List Nat :=
  (List.range (8 * sent.length)).filter fun index =>
    frameBit sent index != frameBit received index

/-- One to three flipped bits, or any bits inside sixteen consecutive ones. -/
structure LineNoise (sent received : Bytes) : Prop where
  sameLength : received.length = sent.length
  small : ((flippedBits sent received).length ∈ [1, 2, 3]) ∨
    ∃ start, ∀ index ∈ flippedBits sent received, start ≤ index ∧ index < start + 16

/-- Noise the decoder copes with: it breaks the header, or the announced records
no longer fit before the trailer, or it left the count and the records alone. -/
def NoiseHarmless (sent received : Bytes) : Prop :=
  headerAccepted received = false ∨
  (¬ ∃ records rest, records.length = (received.getD 4 0).toNat ∧ byteLength.Fits records ∧
    recordArea received = byteLength.encode records ++ rest) ∨
  (received.take (received.length - 2)).drop 4 = (sent.take (sent.length - 2)).drop 4

/-- The decoder keeps noise away from the tags of a report exactly when the noise
is harmless: the CRC of a frame that lists tags is not consulted. -/
theorem classify_noise_iff (report : TagReport) {received : Bytes}
    (noise : LineNoise report.frame received) :
    ((classifyInventoryResponse received).status = .VALID →
      (classifyInventoryResponse received).tags = report.tags) ↔
        NoiseHarmless report.frame received := by
  have length := report.frame_length
  have sameLength := noise.sameLength
  have content := report.frame_content
  rw [classifyInventoryResponse_long (by omega), NoiseHarmless, content]
  have inside : 4 < (received.take (received.length - 2)).length := by
    rw [List.length_take]
    omega
  have pieces : (received.take (received.length - 2)).drop 4 =
      received.getD 4 0 :: recordArea received := by
    rw [List.drop_eq_getElem_cons inside, recordArea]
    simp [show 4 < received.length by omega]
  have areaLength : (recordArea received).length = (byteLength.encode report.epcs).length := by
    rw [recordArea, List.length_drop, List.length_take]
    omega
  rw [pieces]
  cases header : headerAccepted received with
  | false => simp [InventoryResult.malformed]
  | true =>
      cases found : byteLength.split (received.getD 4 0).toNat (recordArea received) with
      | none =>
          have unreadable := byteLength.split_eq_none_iff.mp found
          exact iff_of_true (by simp [InventoryResult.malformed]) (.inr (.inl unreadable))
      | some result =>
          obtain ⟨records, rest⟩ := result
          obtain ⟨counted, fits, area⟩ := byteLength.split_eq_some_iff.mp found
          have readable : ∃ records rest, records.length = (received.getD 4 0).toNat ∧
              byteLength.Fits records ∧
              recordArea received = byteLength.encode records ++ rest :=
            ⟨records, rest, counted, fits, area⟩
          simp only [↓reduceIte, forall_const, reduceCtorEq, false_or, not_true_eq_false,
            readable, List.cons.injEq]
          constructor
          · -- Equal tags are equal EPCs, and those fill the whole record area.
            intro sameTags
            have sameRecords : records = report.epcs :=
              List.map_injective_iff.mpr (fun _ _ => hexUpper_injective) sameTags
            have noRest : rest = [] := by
              rw [area, sameRecords, List.length_append] at areaLength
              exact List.eq_nil_of_length_eq_zero (by omega)
            refine ⟨?_, by rw [area, sameRecords, noRest, List.append_nil]⟩
            rw [← UInt8.toNat_inj, ← counted, sameRecords, report.count_toNat]
          · intro both
            obtain ⟨sameCount, sameArea⟩ := both
            rw [sameCount, report.count_toNat, sameArea] at found
            have original := byteLength.split_encode report.epcs_fit []
            rw [List.append_nil, found, Option.some_inj] at original
            rw [TagReport.tags, (Prod.mk.inj original).1]

def singleTagReport : TagReport where
  address := 0x00
  status := 0x01
  epcs := [[0xAA, 0xBB, 0xCC]]
  statusValid := by decide
  fits := by decide

/-- A flipped bit of the CRC trailer changes no tag. -/
theorem classify_noise_iff_trailer :
    let received : Bytes :=
      [0x0A, 0x00, 0x01, 0x01, 0x01, 0x03, 0xAA, 0xBB, 0xCC, 0x00, 0x00]
    LineNoise singleTagReport.frame received ∧
      ((classifyInventoryResponse received).status = .VALID →
        (classifyInventoryResponse received).tags = singleTagReport.tags) := by
  have noise : LineNoise singleTagReport.frame
      [0x0A, 0x00, 0x01, 0x01, 0x01, 0x03, 0xAA, 0xBB, 0xCC, 0x00, 0x00] :=
    ⟨by decide +kernel, .inr ⟨72, by decide +kernel⟩⟩
  exact ⟨noise, (classify_noise_iff singleTagReport noise).mpr (.inr (.inr (by decide +kernel)))⟩

/-- A flipped bit of an EPC byte is reported as another tag. -/
theorem classify_noise_epc : ¬ ∀ (report : TagReport) (received : Bytes),
    LineNoise report.frame received →
      (classifyInventoryResponse received).status = .VALID →
        (classifyInventoryResponse received).tags = report.tags := by
  intro claim
  have noise : LineNoise singleTagReport.frame (singleTagReport.frame.set 6 0xAB) :=
    ⟨by decide +kernel, .inl (by decide +kernel)⟩
  have same := claim singleTagReport _ noise (by decide +kernel)
  revert same
  decide +kernel

end MvdEdge
