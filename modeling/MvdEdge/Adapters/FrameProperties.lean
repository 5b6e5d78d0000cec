import MvdEdge.Adapters.Frame
import Mathlib.Data.List.TakeDrop

/-! The language of the inventory decoder. Its record loop is counted splitting
of the bytes between the header and the CRC trailer, so what it accepts and
what it returns are properties of length-prefixed records. -/

set_option autoImplicit false

namespace MvdEdge

open Lib

def byteLength : LengthPrefix UInt8 where
  bound := 256
  size := UInt8.toNat
  mark := UInt8.ofNat
  size_lt := fun symbol => symbol.toNat_lt
  size_mark := fun _ short => UInt8.toNat_ofNat_of_lt short
  mark_size := fun _ => UInt8.ofNat_toNat

/-! ## Hexadecimal EPCs -/

private theorem hexDigits_injective : ∀ left < 16, ∀ right < 16,
    hexDigits.getD left '0' = hexDigits.getD right '0' → left = right := by decide

theorem hexUpper_injective {left right : Bytes} (same : hexUpper left = hexUpper right) :
    left = right := by
  induction left generalizing right with
  | nil =>
      cases right with
      | nil => rfl
      | cons byte right => simp [hexUpper] at same
  | cons byte left ih =>
      cases right with
      | nil => simp [hexUpper] at same
      | cons other right =>
          simp only [hexUpper, List.flatMap_cons, List.cons_append, List.nil_append,
            List.cons.injEq] at same
          obtain ⟨high, low, rest⟩ := same
          have byteBound := byte.toNat_lt
          have otherBound := other.toNat_lt
          have sameHigh := hexDigits_injective _ (by omega) _ (by omega) high
          have sameLow := hexDigits_injective _ (by omega) _ (by omega) low
          have sameByte : byte = other := UInt8.toNat_inj.mp (by omega)
          rw [sameByte, ih rest]

/-! ## The record loop -/

def recordArea (response : Bytes) : Bytes := (response.take (response.length - 2)).drop 5

/-! Both record loops look at the bytes in front of the CRC trailer, from the
running position on. -/

theorem untrailed_cons {response : Bytes} {position : Nat}
    (inside : position < response.length - 2) :
    (response.take (response.length - 2)).drop position =
      response[position] :: (response.take (response.length - 2)).drop (position + 1) := by
  have here : position < (response.take (response.length - 2)).length := by
    rw [List.length_take]
    omega
  rw [List.drop_eq_getElem_cons here, List.getElem_take]

theorem untrailed_nil {response : Bytes} {position : Nat}
    (trailer : position ≥ response.length - 2) :
    (response.take (response.length - 2)).drop position = [] :=
  List.drop_eq_nil_of_le (by rw [List.length_take]; omega)

theorem record_fits_iff {response : Bytes} {position : Nat}
    (inside : position < response.length - 2) :
    byteLength.size response[position] ≤
      ((response.take (response.length - 2)).drop (position + 1)).length ↔
      ¬ position + 1 + response[position].toNat > response.length - 2 := by
  rw [List.length_drop, List.length_take]
  change response[position].toNat ≤ _ ↔ _
  omega

theorem record_slice {response : Bytes} {position size : Nat}
    (fits : ¬ position + 1 + size > response.length - 2) :
    ((response.take (response.length - 2)).drop (position + 1)).take size =
      (response.drop (position + 1)).take size := by
  rw [List.drop_take, List.take_take]
  congr 1
  omega

theorem inventoryRecords_eq_split (response : Bytes) (turns position : Nat) (tags : List Str) :
    inventoryRecords response turns position tags =
      (byteLength.split turns ((response.take (response.length - 2)).drop position)).map
        fun found => tags ++ found.1.map hexUpper := by
  induction turns generalizing position tags with
  | zero => simp [inventoryRecords, LengthPrefix.split]
  | succ turns ih =>
      rw [inventoryRecords]
      split
      · rename_i trailer
        simp [untrailed_nil trailer, LengthPrefix.split]
      · rename_i inside
        have inside := Nat.lt_of_not_ge inside
        simp only [untrailed_cons inside, LengthPrefix.split, record_fits_iff inside]
        split
        · simp
        · rename_i fits
          have size : byteLength.size response[position] = response[position].toNat := rfl
          rw [ih, List.drop_drop, Option.map_map, size, record_slice fits]
          simp [Function.comp_def]

theorem parsedRecords_eq_leading (response : Bytes) (turns position : Nat) (tags : List Str) :
    parsedRecords response turns position tags =
      tags ++ (byteLength.leading turns
        ((response.take (response.length - 2)).drop position)).map hexUpper := by
  induction turns generalizing position tags with
  | zero => simp [parsedRecords, LengthPrefix.leading]
  | succ turns ih =>
      rw [parsedRecords]
      split
      · rename_i trailer
        simp [untrailed_nil trailer, LengthPrefix.leading]
      · rename_i inside
        have inside := Nat.lt_of_not_ge inside
        simp only [untrailed_cons inside, LengthPrefix.leading, record_fits_iff inside]
        split
        · simp
        · rename_i fits
          have size : byteLength.size response[position] = response[position].toNat := rfl
          rw [ih, List.drop_drop, size, record_slice fits]
          simp

def headerAccepted (response : Bytes) : Bool :=
  (response.getD 0 0 == 0 || response.length == (response.getD 0 0).toNat + 1) &&
    response.getD 2 0 == INVENTORY_COMMAND &&
    decide (response.getD 3 0 ∈ ([0x01, 0x02, 0x03, 0x04] : Bytes))

theorem getD_eq_getElem {response : Bytes} {index : Nat} (inside : index < response.length) :
    response.getD index 0 = response[index] := by
  simp [inside]

/-- The header in front of the status byte. -/
def framed (response : Bytes) : Bool :=
  (response.getD 0 0 == 0 || response.length == (response.getD 0 0).toNat + 1) &&
    response.getD 2 0 == INVENTORY_COMMAND

/-- What the decoder does with a response of the least length and above. -/
theorem classifyInventoryResponse_six {response : Bytes} (six : 6 ≤ response.length) :
    classifyInventoryResponse response =
      if framed response = true then
        if isNoTagInventoryResponse response = true then ⟨.VALID, []⟩
        else if response.getD 3 0 ∈ ([0x01, 0x02, 0x03, 0x04] : Bytes) then
          match byteLength.split (response.getD 4 0).toNat (recordArea response) with
          | none => .malformed
          | some found => ⟨.VALID, found.1.map hexUpper⟩
        else .malformed
      else .malformed := by
  have nonempty : response ≠ [] := by
    intro empty
    simp [empty] at six
  unfold classifyInventoryResponse framed
  rw [getD_eq_getElem (by omega : 0 < response.length),
    getD_eq_getElem (by omega : 2 < response.length),
    getD_eq_getElem (by omega : 3 < response.length),
    getD_eq_getElem (by omega : 4 < response.length),
    dif_neg nonempty, dif_neg (by omega : ¬ response.length < 6), inventoryRecords_eq_split]
  by_cases length : response[0] = 0 ∨ response.length = response[0].toNat + 1
  · have passes : ¬ (response[0] ≠ 0 ∧ response.length ≠ response[0].toNat + 1) := by
      intro both
      obtain ⟨nonzero, differs⟩ := both
      exact length.elim nonzero differs
    by_cases command : response[2] = INVENTORY_COMMAND
    · have accepted : ((response[0] == 0 || response.length == response[0].toNat + 1) &&
          response[2] == INVENTORY_COMMAND) = true := by
        simpa [command] using length
      rw [if_neg passes, if_neg (by simpa using command), if_pos accepted]
      by_cases status : response[3] ∈ ([0x01, 0x02, 0x03, 0x04] : Bytes)
      · rw [if_neg (not_not_intro status), if_pos status]
        simp only [recordArea, List.nil_append]
        cases byteLength.split response[4].toNat
          ((response.take (response.length - 2)).drop 5) <;> rfl
      · rw [if_pos status, if_neg status]
    · simp [passes, command]
  · have fails : response[0] ≠ 0 ∧ response.length ≠ response[0].toNat + 1 := by
      simpa [not_or] using length
    simp [fails]

/-- What the decoder does with a response that is longer than the no-tag frame. -/
theorem classifyInventoryResponse_long {response : Bytes} (long : 7 ≤ response.length) :
    classifyInventoryResponse response =
      if headerAccepted response = true then
        match byteLength.split (response.getD 4 0).toNat (recordArea response) with
        | none => .malformed
        | some found => ⟨.VALID, found.1.map hexUpper⟩
      else .malformed := by
  have size : response.length ≠ 6 := by omega
  have tagged : isNoTagInventoryResponse response = false := by
    simp [isNoTagInventoryResponse, size]
  have header : headerAccepted response =
      (framed response && decide (response.getD 3 0 ∈ ([0x01, 0x02, 0x03, 0x04] : Bytes))) := rfl
  rw [classifyInventoryResponse_six (by omega), tagged, header]
  cases framed response <;> simp

end MvdEdge
