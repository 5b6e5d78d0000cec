import Mathlib.Data.List.Basic

/-! Length-prefixed records: each record is preceded by one symbol that stands
for its length. Encoding and counted decoding are inverse to each other. -/

set_option autoImplicit false

namespace MvdEdge.Lib

/-- A symbol alphabet whose symbols double as the lengths below `bound`. -/
structure LengthPrefix (β : Type) where
  bound : Nat
  size : β → Nat
  mark : Nat → β
  size_lt : ∀ symbol, size symbol < bound
  size_mark : ∀ length, length < bound → size (mark length) = length
  mark_size : ∀ symbol, mark (size symbol) = symbol

namespace LengthPrefix

variable {β : Type} (format : LengthPrefix β)

def encode (records : List (List β)) : List β :=
  records.flatMap fun record => format.mark record.length :: record

def Fits (records : List (List β)) : Prop :=
  ∀ record ∈ records, record.length < format.bound

/-- Split `count` records off the front, if that many complete ones are there. -/
def split : Nat → List β → Option (List (List β) × List β)
  | 0, symbols => some ([], symbols)
  | _ + 1, [] => none
  | count + 1, head :: symbols =>
      if format.size head ≤ symbols.length then
        (split count (symbols.drop (format.size head))).map fun found =>
          (symbols.take (format.size head) :: found.1, found.2)
      else none

@[simp] theorem encode_nil : format.encode [] = [] := rfl

@[simp] theorem encode_cons (record : List β) (records : List (List β)) :
    format.encode (record :: records) =
      format.mark record.length :: (record ++ format.encode records) := by
  simp [encode]

theorem length_le_length_encode (records : List (List β)) :
    records.length ≤ (format.encode records).length := by
  induction records with
  | nil => simp
  | cons record records ih =>
      simp only [encode_cons, List.length_cons, List.length_append]
      omega

theorem length_lt_length_encode {record : List β} {records : List (List β)}
    (member : record ∈ records) : record.length < (format.encode records).length := by
  induction records with
  | nil => simp at member
  | cons head records ih =>
      simp only [encode_cons, List.length_cons, List.length_append]
      rcases List.mem_cons.mp member with rfl | member
      · omega
      · have shorter := ih member
        omega

theorem split_encode {records : List (List β)} (fits : format.Fits records) (rest : List β) :
    format.split records.length (format.encode records ++ rest) = some (records, rest) := by
  induction records with
  | nil => simp [split]
  | cons record records ih =>
      have short := fits record List.mem_cons_self
      have tail := ih fun other member => fits other (List.mem_cons_of_mem record member)
      simp [split, format.size_mark _ short, tail]

/-- Successful splitting reads back exactly an encoding, and leaves what follows it. -/
theorem split_eq_some_iff {count : Nat} {symbols rest : List β} {records : List (List β)} :
    format.split count symbols = some (records, rest) ↔
      records.length = count ∧ format.Fits records ∧ symbols = format.encode records ++ rest := by
  constructor
  · intro found
    induction count generalizing symbols records with
    | zero =>
        simp only [split, Option.some.injEq, Prod.mk.injEq] at found
        obtain ⟨rfl, rfl⟩ := found
        exact ⟨rfl, by simp [Fits], rfl⟩
    | succ count ih =>
        cases symbols with
        | nil => simp [split] at found
        | cons head symbols =>
            simp only [split] at found
            split at found
            · rename_i enough
              obtain ⟨⟨others, left⟩, recursive, shape⟩ := Option.map_eq_some_iff.mp found
              simp only [Prod.mk.injEq] at shape
              obtain ⟨rfl, rfl⟩ := shape
              obtain ⟨counted, fits, remaining⟩ := ih recursive
              have length : (symbols.take (format.size head)).length = format.size head := by
                rw [List.length_take, Nat.min_eq_left enough]
              refine ⟨by simp [counted], ?_, ?_⟩
              · intro record member
                rcases List.mem_cons.mp member with rfl | member
                · rw [length]
                  exact format.size_lt head
                · exact fits record member
              · rw [encode_cons, length, format.mark_size, List.cons_append, List.append_assoc,
                  ← remaining, List.take_append_drop]
            · simp at found
  · intro both
    obtain ⟨rfl, fits, rfl⟩ := both
    exact format.split_encode fits rest

theorem split_eq_none_iff {count : Nat} {symbols : List β} :
    format.split count symbols = none ↔ ¬ ∃ records rest, records.length = count ∧
      format.Fits records ∧ symbols = format.encode records ++ rest := by
  constructor
  · intro failed both
    obtain ⟨records, rest, readable⟩ := both
    rw [format.split_eq_some_iff.mpr readable] at failed
    contradiction
  · intro unreadable
    rw [Option.eq_none_iff_forall_ne_some]
    rintro ⟨records, rest⟩ found
    exact unreadable ⟨records, rest, format.split_eq_some_iff.mp found⟩

/-! ## Complete records at the front -/

/-- The complete records at the front, up to `count` of them. -/
def leading : Nat → List β → List (List β)
  | 0, _ => []
  | _ + 1, [] => []
  | count + 1, head :: symbols =>
      if format.size head ≤ symbols.length then
        symbols.take (format.size head) :: leading count (symbols.drop (format.size head))
      else []

/-- Records that fit, whose encoding comes first, at most `count` of them. -/
structure Leads (count : Nat) (symbols : List β) (records : List (List β)) : Prop where
  counted : records.length ≤ count
  fits : format.Fits records
  front : format.encode records <+: symbols

theorem leading_leads (count : Nat) (symbols : List β) :
    format.Leads count symbols (format.leading count symbols) := by
  induction count generalizing symbols with
  | zero => exact ⟨Nat.le_refl 0, by simp [leading, Fits], List.nil_prefix⟩
  | succ count ih =>
      cases symbols with
      | nil => exact ⟨by simp [leading], by simp [leading, Fits], List.nil_prefix⟩
      | cons head symbols =>
          rw [leading]
          split
          · rename_i enough
            have rest := ih (symbols.drop (format.size head))
            have length : (symbols.take (format.size head)).length = format.size head := by
              rw [List.length_take, Nat.min_eq_left enough]
            constructor
            · exact Nat.succ_le_succ rest.counted
            · intro record member
              cases List.mem_cons.mp member with
              | inl same =>
                  rw [same, length]
                  exact format.size_lt head
              | inr later => exact rest.fits record later
            · rw [encode_cons, length, format.mark_size]
              apply List.prefix_cons_inj head |>.mpr
              conv_rhs => rw [← List.take_append_drop (format.size head) symbols]
              exact List.prefix_append_right_inj _ |>.mpr rest.front
          · exact ⟨by simp, by simp [Fits], List.nil_prefix⟩

/-- No longer list of records comes first. -/
theorem Leads.prefix_leading {count : Nat} {symbols : List β} {records : List (List β)}
    (leads : format.Leads count symbols records) : records <+: format.leading count symbols := by
  induction records generalizing count symbols with
  | nil => exact List.nil_prefix
  | cons record records ih =>
      obtain ⟨counted, fits, rest, front⟩ := leads
      have short : record.length < format.bound := fits record List.mem_cons_self
      cases count with
      | zero => simp at counted
      | succ count =>
          have others : format.Leads count (format.encode records ++ rest) records :=
            ⟨Nat.le_of_succ_le_succ counted,
              fun other member => fits other (List.mem_cons_of_mem record member),
              List.prefix_append _ _⟩
          rw [← front, encode_cons, List.cons_append, leading, format.size_mark _ short,
            List.append_assoc, if_pos (by simp), List.take_left, List.drop_left]
          exact List.prefix_cons_inj record |>.mpr (ih others)

theorem leading_of_split {count : Nat} {symbols rest : List β} {records : List (List β)}
    (found : format.split count symbols = some (records, rest)) :
    format.leading count symbols = records := by
  obtain ⟨counted, fits, area⟩ := format.split_eq_some_iff.mp found
  have leads : format.Leads count symbols records :=
    ⟨Nat.le_of_eq counted, fits, area ▸ List.prefix_append _ _⟩
  have longest := leads.prefix_leading
  have bounded := (format.leading_leads count symbols).counted
  exact (longest.eq_of_length_le (counted ▸ bounded)).symm

/-- As many records as announced are at the front if the area splits into them. -/
theorem length_leading_eq_iff {count : Nat} {symbols : List β} :
    (format.leading count symbols).length = count ↔ (format.split count symbols).isSome := by
  constructor
  · intro counted
    obtain ⟨_, fits, rest, front⟩ := format.leading_leads count symbols
    have found := format.split_eq_some_iff.mpr ⟨counted, fits, front.symm⟩
    rw [found]
    rfl
  · intro found
    obtain ⟨both, split⟩ := Option.isSome_iff_exists.mp found
    rw [format.leading_of_split split]
    exact (format.split_eq_some_iff.mp split).1

end LengthPrefix

end MvdEdge.Lib
