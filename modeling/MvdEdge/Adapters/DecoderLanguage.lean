import MvdEdge.Adapters.FrameProperties

/-! The exact language of the inventory decoder, and what the older decoder
reads from the same frames. -/

set_option autoImplicit false

namespace MvdEdge

open Lib

/-! ## Subscripts

The decoder once more with every subscript looked up, `none` standing for an
`IndexError`. Slices of a `bytes` value never raise. -/

def hasValidCrc? (response : Bytes) : Option Bool :=
  if response.length < 3 then some false
  else do
    let expected := crc16 (response.take (response.length - 2))
    let low ← response[response.length - 2]?
    let high ← response[response.length - 1]?
    some (expected == (low.toBitVec.setWidth 16 ||| (high.toBitVec.setWidth 16 <<< 8)))

def isNoTagInventoryResponse? (response : Bytes) : Option Bool :=
  if response.length ≠ 6 then some false
  else do
    let length ← response[0]?
    if length ≠ 0x05 then some false
    else
      let command ← response[2]?
      if command ≠ INVENTORY_COMMAND then some false
      else
        let status ← response[3]?
        if status ≠ INVENTORY_NO_TAG_STATUS then some false
        else hasValidCrc? response

/-- The inner `none` is the `MALFORMED` result. -/
def inventoryRecords? (response : Bytes) : Nat → Nat → List Str → Option (Option (List Str))
  | 0, _, tags => some (some tags)
  | turns + 1, position, tags =>
      if position ≥ response.length - 2 then some none
      else do
        let head ← response[position]?
        let epcLength := head.toNat
        if position + 1 + epcLength > response.length - 2 then some none
        else
          let epcBytes := (response.drop (position + 1)).take epcLength
          inventoryRecords? response turns (position + 1 + epcLength)
            (tags ++ [hexUpper epcBytes])

def classifyInventoryResponse? (response : Bytes) : Option InventoryResult :=
  if response = [] then some ⟨.NO_RESPONSE, []⟩
  else do
    let first ← response[0]?
    let expectedLength := first.toNat + 1
    if first ≠ 0 ∧ response.length ≠ expectedLength then some .malformed
    else if response.length < 6 then some .malformed
    else
      let command ← response[2]?
      if command ≠ INVENTORY_COMMAND then some .malformed
      else
        let noTag ← isNoTagInventoryResponse? response
        if noTag then some ⟨.VALID, []⟩
        else
          let status ← response[3]?
          if status ∉ ([0x01, 0x02, 0x03, 0x04] : Bytes) then some .malformed
          else
            let tagCount ← response[4]?
            let tags ← inventoryRecords? response tagCount.toNat 5 []
            match tags with
            | none => some .malformed
            | some tags => some ⟨.VALID, tags⟩

theorem hasValidCrc?_eq (response : Bytes) :
    hasValidCrc? response = some (hasValidCrc response) := by
  unfold hasValidCrc? hasValidCrc
  split
  · rfl
  · rename_i long
    have last : response.length - 1 < response.length := by omega
    have before : response.length - 2 < response.length := by omega
    simp [List.getElem?_eq_getElem last, List.getElem?_eq_getElem before]

theorem isNoTagInventoryResponse?_eq (response : Bytes) :
    isNoTagInventoryResponse? response = some (isNoTagInventoryResponse response) := by
  unfold isNoTagInventoryResponse? isNoTagInventoryResponse
  by_cases six : response.length = 6
  · rw [if_neg (not_not_intro six), dif_pos six, hasValidCrc?_eq,
      List.getElem?_eq_getElem (by omega : 0 < response.length),
      List.getElem?_eq_getElem (by omega : 2 < response.length),
      List.getElem?_eq_getElem (by omega : 3 < response.length)]
    by_cases length : response[0] = 0x05 <;> by_cases command : response[2] = INVENTORY_COMMAND <;>
      by_cases status : response[3] = INVENTORY_NO_TAG_STATUS <;> simp [length, command, status]
  · rw [if_pos six, dif_neg six]

theorem inventoryRecords?_eq (response : Bytes) (turns position : Nat) (tags : List Str) :
    inventoryRecords? response turns position tags =
      some (inventoryRecords response turns position tags) := by
  induction turns generalizing position tags with
  | zero => rfl
  | succ turns ih =>
      rw [inventoryRecords?, inventoryRecords]
      split
      · rfl
      · rename_i inside
        have here : position < response.length := by omega
        simp only [List.getElem?_eq_getElem here, Option.bind_eq_bind, Option.bind_some, ih]
        split <;> rfl

/-- The checks in front of a subscript keep it inside the response. -/
theorem classifyInventoryResponse?_eq (response : Bytes) :
    classifyInventoryResponse? response = some (classifyInventoryResponse response) := by
  unfold classifyInventoryResponse? classifyInventoryResponse
  by_cases empty : response = []
  · rw [if_pos empty, dif_pos empty]
  · have nonempty : 0 < response.length := List.length_pos_of_ne_nil empty
    rw [if_neg empty, dif_neg empty, List.getElem?_eq_getElem nonempty]
    by_cases short : response.length < 6
    · simp [short]
    · rw [List.getElem?_eq_getElem (by omega : 2 < response.length),
        List.getElem?_eq_getElem (by omega : 3 < response.length),
        List.getElem?_eq_getElem (by omega : 4 < response.length),
        isNoTagInventoryResponse?_eq]
      simp only [Option.bind_eq_bind, Option.bind_some, inventoryRecords?_eq, dif_neg short,
        if_neg short, apply_ite some]
      cases inventoryRecords response response[4].toNat 5 [] <;> rfl

/-! ## The language -/

/-- As many byte strings as byte 4 announces, length-prefixed one after the
other from byte 5 on, in front of the CRC trailer. -/
structure Announced (response : Bytes) (records : List Bytes) : Prop where
  counted : response[4]?.map UInt8.toNat = some records.length
  fits : byteLength.Fits records
  front : byteLength.encode records <+: (response.take (response.length - 2)).drop 5

/-- `05 00 01 FB` and its CRC. -/
structure NoTags (response : Bytes) : Prop where
  size : response.length = 6
  length : response[0]? = some 0x05
  status : response[3]? = some 0xFB
  crc : hasValidCrc response = true

structure Accepts (response : Bytes) (tags : List Str) : Prop where
  size : 6 ≤ response.length
  command : response[2]? = some 0x01
  length : ∃ first, response[0]? = some first ∧ (first = 0 ∨ response.length = first.toNat + 1)
  content : (NoTags response ∧ tags = []) ∨
    (∃ status ∈ ([1, 2, 3, 4] : Bytes), response[3]? = some status) ∧
      ∃ records, Announced response records ∧ tags = records.map hexUpper

theorem getElem?_eq_some_getD {response : Bytes} {index : Nat} (inside : index < response.length) :
    response[index]? = some (response.getD index 0) := by
  simp [inside]

theorem getD_eq_of_getElem? {response : Bytes} {index : Nat} {byte : UInt8}
    (stored : response[index]? = some byte) : response.getD index 0 = byte := by
  rw [List.getD_eq_getElem?_getD, stored, Option.getD_some]

theorem announced_iff {response : Bytes} (six : 6 ≤ response.length) {records : List Bytes} :
    Announced response records ↔ ∃ rest,
      byteLength.split (response.getD 4 0).toNat (recordArea response) = some (records, rest) := by
  have count : response[4]?.map UInt8.toNat = some (response.getD 4 0).toNat := by
    rw [getElem?_eq_some_getD (by omega)]
    rfl
  constructor
  · intro announced
    obtain ⟨counted, fits, rest, front⟩ := announced
    rw [count, Option.some.injEq] at counted
    exact ⟨rest, byteLength.split_eq_some_iff.mpr ⟨counted.symm, fits, front.symm⟩⟩
  · intro found
    obtain ⟨rest, found⟩ := found
    obtain ⟨counted, fits, area⟩ := byteLength.split_eq_some_iff.mp found
    exact ⟨by rw [count, counted], fits, rest, area.symm⟩

theorem Announced.six {response : Bytes} {records : List Bytes}
    (announced : Announced response records) (short : response.length < 6) : records = [] := by
  have front := announced.front
  have nothing : (response.take (response.length - 2)).drop 5 = [] :=
    List.drop_eq_nil_of_le (by rw [List.length_take]; omega)
  rw [nothing, List.prefix_nil] at front
  cases records with
  | nil => rfl
  | cons record records => simp at front

theorem Announced.unique {response : Bytes} {records others : List Bytes}
    (announced : Announced response records) (again : Announced response others) :
    records = others := by
  by_cases short : response.length < 6
  · rw [announced.six short, again.six short]
  · have six : 6 ≤ response.length := Nat.le_of_not_lt short
    obtain ⟨rest, found⟩ := (announced_iff six).mp announced
    obtain ⟨left, same⟩ := (announced_iff six).mp again
    rw [found] at same
    exact congrArg Prod.fst (Option.some.inj same)

theorem framed_iff {response : Bytes} (six : 6 ≤ response.length) :
    framed response = true ↔ response[2]? = some 0x01 ∧
      ∃ first, response[0]? = some first ∧
        (first = 0 ∨ response.length = first.toNat + 1) := by
  rw [getElem?_eq_some_getD (by omega : 2 < response.length),
    getElem?_eq_some_getD (by omega : 0 < response.length)]
  simp [framed, INVENTORY_COMMAND, and_comm]

theorem isNoTagInventoryResponse_iff {response : Bytes} (framed : framed response = true) :
    isNoTagInventoryResponse response = true ↔ NoTags response := by
  constructor
  · intro accepted
    unfold isNoTagInventoryResponse at accepted
    split at accepted
    · rename_i six
      simp only [Bool.and_eq_true, beq_iff_eq] at accepted
      obtain ⟨⟨⟨length, _⟩, status⟩, crc⟩ := accepted
      exact ⟨six, by rw [List.getElem?_eq_getElem (by omega), length],
        by rw [List.getElem?_eq_getElem (by omega), status]; rfl, crc⟩
    · simp at accepted
  · intro noTags
    obtain ⟨six, length, status, crc⟩ := noTags
    obtain ⟨command, _⟩ := (framed_iff (by omega)).mp framed
    rw [List.getElem?_eq_getElem (by omega), Option.some.injEq] at length status command
    simp [isNoTagInventoryResponse, six, length, status, command, crc, INVENTORY_COMMAND,
      INVENTORY_NO_TAG_STATUS]

theorem classifyInventoryResponse_short {response : Bytes} (short : response.length < 6) :
    classifyInventoryResponse response =
      if response = [] then ⟨.NO_RESPONSE, []⟩ else .malformed := by
  unfold classifyInventoryResponse
  by_cases empty : response = []
  · simp [empty]
  · rw [dif_neg empty, if_neg empty, dif_pos short, ite_self]

/-- With the header accepted, what decides is the status byte and what follows it. -/
theorem accepts_iff {response : Bytes} (six : 6 ≤ response.length)
    (header : framed response = true) (tags : List Str) :
    Accepts response tags ↔ (isNoTagInventoryResponse response = true ∧ tags = []) ∨
      (response.getD 3 0 ∈ ([0x01, 0x02, 0x03, 0x04] : Bytes) ∧ ∃ found,
        byteLength.split (response.getD 4 0).toNat (recordArea response) = some found ∧
          tags = found.1.map hexUpper) := by
  have status := getElem?_eq_some_getD (by omega : 3 < response.length)
  constructor
  · intro accepts
    cases accepts.content with
    | inl none => exact .inl ⟨(isNoTagInventoryResponse_iff header).mpr none.1, none.2⟩
    | inr some =>
        obtain ⟨⟨code, allowed, stored⟩, records, announced, rfl⟩ := some
        rw [status, Option.some.injEq] at stored
        obtain ⟨rest, found⟩ := (announced_iff six).mp announced
        exact .inr ⟨stored ▸ allowed, (records, rest), found, rfl⟩
  · intro either
    obtain ⟨command, length⟩ := (framed_iff six).mp header
    constructor
    · exact six
    · exact command
    · exact length
    · cases either with
      | inl none => exact .inl ⟨(isNoTagInventoryResponse_iff header).mp none.1, none.2⟩
      | inr some =>
          obtain ⟨allowed, found, split, same⟩ := some
          exact .inr ⟨⟨_, allowed, status⟩, found.1, (announced_iff six).mpr ⟨found.2, split⟩, same⟩

theorem status_of_isNoTag {response : Bytes}
    (noTag : isNoTagInventoryResponse response = true) :
    response.getD 3 0 ∉ ([0x01, 0x02, 0x03, 0x04] : Bytes) := by
  unfold isNoTagInventoryResponse at noTag
  split at noTag
  · simp only [Bool.and_eq_true, beq_iff_eq] at noTag
    rw [getD_eq_getElem (by omega), noTag.1.2]
    decide
  · simp at noTag

theorem classifyInventoryResponse_valid_iff (response : Bytes) (tags : List Str) :
    classifyInventoryResponse response = ⟨.VALID, tags⟩ ↔ Accepts response tags := by
  by_cases six : 6 ≤ response.length
  · rw [classifyInventoryResponse_six six]
    cases header : framed response with
    | false =>
        constructor
        · intro valid
          simp [InventoryResult.malformed] at valid
        · intro accepts
          have passed := (framed_iff six).mpr ⟨accepts.command, accepts.length⟩
          simp [header] at passed
    | true =>
        rw [if_pos rfl, accepts_iff six header]
        cases noTag : isNoTagInventoryResponse response with
        | true =>
            simp only [status_of_isNoTag noTag, false_and, or_false, true_and, if_true,
              InventoryResult.mk.injEq]
            exact eq_comm
        | false =>
            by_cases status : response.getD 3 0 ∈ ([0x01, 0x02, 0x03, 0x04] : Bytes)
            · rw [if_neg Bool.false_ne_true, if_pos status]
              cases byteLength.split (response.getD 4 0).toNat (recordArea response) with
              | none => simp [InventoryResult.malformed]
              | some found =>
                  simp only [InventoryResult.mk.injEq, true_and, status, Bool.false_eq_true,
                    false_and, false_or, Option.some.injEq, exists_eq_left']
                  exact eq_comm
            · rw [if_neg Bool.false_ne_true, if_neg status]
              simp only [status, Bool.false_eq_true, false_and, or_self, iff_false]
              simp [InventoryResult.malformed]
  · constructor
    · intro valid
      rw [classifyInventoryResponse_short (Nat.lt_of_not_le six)] at valid
      split at valid <;> simp [InventoryResult.malformed] at valid
    · intro accepts
      exact absurd accepts.size six

/-- The three kinds of answers. -/
theorem classifyInventoryResponse_cases (response : Bytes) :
    (response = [] ∧ classifyInventoryResponse response = ⟨.NO_RESPONSE, []⟩) ∨
      response ≠ [] ∧ (classifyInventoryResponse response = .malformed ∨
        ∃ tags, classifyInventoryResponse response = ⟨.VALID, tags⟩) := by
  by_cases six : 6 ≤ response.length
  · have nonempty : response ≠ [] := by
      intro empty
      simp [empty] at six
    rw [classifyInventoryResponse_six six]
    refine .inr ⟨nonempty, ?_⟩
    split
    · split
      · exact .inr ⟨_, rfl⟩
      · split
        · split
          · exact .inl rfl
          · exact .inr ⟨_, rfl⟩
        · exact .inl rfl
    · exact .inl rfl
  · rw [classifyInventoryResponse_short (Nat.lt_of_not_le six)]
    by_cases empty : response = []
    · exact .inl ⟨empty, if_pos empty⟩
    · exact .inr ⟨empty, .inl (if_neg empty)⟩

theorem classifyInventoryResponse_language (response : Bytes) :
    classifyInventoryResponse? response = some (classifyInventoryResponse response) ∧
    ((classifyInventoryResponse response).status = .NO_RESPONSE ↔ response = []) ∧
    (∀ tags, classifyInventoryResponse response = ⟨.VALID, tags⟩ ↔ Accepts response tags) ∧
    (response ≠ [] → (∀ tags, ¬ Accepts response tags) →
      classifyInventoryResponse response = ⟨.MALFORMED, []⟩) ∧
    ∀ records others, Announced response records → Announced response others →
      records = others := by
  refine ⟨classifyInventoryResponse?_eq response, ?_,
    classifyInventoryResponse_valid_iff response, ?_, ?_⟩
  · obtain ⟨empty, none⟩ | ⟨nonempty, malformed | ⟨tags, valid⟩⟩ :=
      classifyInventoryResponse_cases response
    · rw [none]
      exact ⟨fun _ => empty, fun _ => rfl⟩
    · simp [malformed, nonempty, InventoryResult.malformed]
    · simp [valid, nonempty]
  · intro nonempty rejected
    obtain ⟨empty, _⟩ | ⟨_, malformed | ⟨tags, valid⟩⟩ :=
      classifyInventoryResponse_cases response
    · exact absurd empty nonempty
    · exact malformed
    · exact absurd ((classifyInventoryResponse_valid_iff response tags).mp valid) (rejected tags)
  · intro records others announced again
    exact announced.unique again

/-! ## The two decoders -/

/-- A frame whose header announces tags. -/
structure TagFrame (response : Bytes) : Prop where
  size : 6 ≤ response.length
  command : response[2]? = some 0x01
  length : ∃ first, response[0]? = some first ∧ (first = 0 ∨ response.length = first.toNat + 1)
  status : ∃ status ∈ ([1, 2, 3, 4] : Bytes), response[3]? = some status

theorem parseInventoryResponse_six {response : Bytes} (six : 6 ≤ response.length) :
    parseInventoryResponse response =
      if response.getD 2 0 = INVENTORY_COMMAND ∧
          response.getD 3 0 ∈ ([0x01, 0x02, 0x03, 0x04] : Bytes) then
        (byteLength.leading (response.getD 4 0).toNat (recordArea response)).map hexUpper
      else [] := by
  unfold parseInventoryResponse
  rw [dif_neg (Nat.not_lt_of_le six), parsedRecords_eq_leading,
    getD_eq_getElem (by omega : 2 < response.length),
    getD_eq_getElem (by omega : 3 < response.length),
    getD_eq_getElem (by omega : 4 < response.length)]
  by_cases command : response[2] = INVENTORY_COMMAND <;>
    by_cases status : response[3] ∈ ([0x01, 0x02, 0x03, 0x04] : Bytes)
  · rw [if_neg (not_not_intro command), if_neg (not_not_intro status), if_pos ⟨command, status⟩]
    rfl
  · rw [if_neg (not_not_intro command), if_pos status, if_neg fun both => status both.2]
  · rw [if_pos command, if_neg fun both => command both.1]
  · rw [if_pos command, if_neg fun both => command both.1]

theorem parseInventoryResponse_of_accepts {response : Bytes} {tags : List Str}
    (accepts : Accepts response tags) : parseInventoryResponse response = tags := by
  have six := accepts.size
  have header := (framed_iff six).mpr ⟨accepts.command, accepts.length⟩
  have command : response.getD 2 0 = INVENTORY_COMMAND := getD_eq_of_getElem? accepts.command
  rw [parseInventoryResponse_six six]
  cases (accepts_iff six header tags).mp accepts with
  | inl none =>
      obtain ⟨noTag, rfl⟩ := none
      exact if_neg fun both => status_of_isNoTag noTag both.2
  | inr some =>
      obtain ⟨status, found, split, rfl⟩ := some
      rw [if_pos ⟨command, status⟩, byteLength.leading_of_split split]

theorem parseInventoryResponse_agrees (response : Bytes) :
    (∀ tags, classifyInventoryResponse response = ⟨.VALID, tags⟩ →
      parseInventoryResponse response = tags) ∧
    (TagFrame response → ∃ count records, response[4]? = some count ∧
      parseInventoryResponse response = records.map hexUpper ∧
      byteLength.Leads count.toNat ((response.take (response.length - 2)).drop 5) records ∧
      (∀ others, byteLength.Leads count.toNat ((response.take (response.length - 2)).drop 5)
        others → others <+: records) ∧
      (parseInventoryResponse response).length ≤ count.toNat ∧
      ((parseInventoryResponse response).length = count.toNat ↔
        (classifyInventoryResponse response).status = .VALID)) := by
  constructor
  · intro tags valid
    exact parseInventoryResponse_of_accepts
      ((classifyInventoryResponse_valid_iff response tags).mp valid)
  · intro frame
    have six := frame.size
    have header := (framed_iff six).mpr ⟨frame.command, frame.length⟩
    have command : response.getD 2 0 = INVENTORY_COMMAND := getD_eq_of_getElem? frame.command
    have status : response.getD 3 0 ∈ ([0x01, 0x02, 0x03, 0x04] : Bytes) := by
      obtain ⟨code, allowed, stored⟩ := frame.status
      exact getD_eq_of_getElem? stored ▸ allowed
    have parsed := parseInventoryResponse_six six
    rw [if_pos ⟨command, status⟩] at parsed
    have leads := byteLength.leading_leads (response.getD 4 0).toNat (recordArea response)
    refine ⟨_, _, getElem?_eq_some_getD (by omega), parsed, leads,
      fun others first => first.prefix_leading, ?_, ?_⟩
    · rw [parsed, List.length_map]
      exact leads.counted
    · have tagged : isNoTagInventoryResponse response = false :=
        Bool.eq_false_iff.mpr fun noTag => status_of_isNoTag noTag status
      rw [parsed, List.length_map, byteLength.length_leading_eq_iff,
        classifyInventoryResponse_six six, if_pos header, tagged, if_neg Bool.false_ne_true,
        if_pos status]
      cases byteLength.split (response.getD 4 0).toNat (recordArea response) with
      | none => simp [InventoryResult.malformed]
      | some found => simp

end MvdEdge
