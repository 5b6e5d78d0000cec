import MvdEdge.Lib.SortedDict
import Mathlib.Data.List.Lex
import Mathlib.Data.Char

/-! JSON objects whose members are texts or null, in the texts that Python's `json`
makes of them and reads back. Members of other kinds, and the halves of surrogate
pairs outside a pair, are left out: they do not read. -/

set_option autoImplicit false

namespace MvdEdge.Lib.JsonText

abbrev Text := List Char

abbrev Object := InsertionDict Text (Option Text)

/-! ## Writing -/

def hexDigit (digit : Nat) : Char :=
  if digit < 10 then Char.ofNat ('0'.toNat + digit) else Char.ofNat ('a'.toNat + (digit - 10))

def unitEscape (unit : Nat) : Text :=
  ['\\', 'u', hexDigit (unit / 0x1000 % 16), hexDigit (unit / 0x100 % 16),
    hexDigit (unit / 0x10 % 16), hexDigit (unit % 16)]

/-- The letter after the backslash, where a character has one. -/
def shortForm (char : Char) : Option Char :=
  if char = '"' then some '"'
  else if char = '\\' then some '\\'
  else if char = '\n' then some 'n'
  else if char = '\r' then some 'r'
  else if char = '\t' then some 't'
  else if char = '\x0c' then some 'f'
  else if char = '\x08' then some 'b'
  else none

/-- `ensure_ascii`: characters beyond the printable ASCII ones are escaped, those
beyond the basic plane as a pair of surrogates. -/
def escape (char : Char) : Text :=
  match shortForm char with
  | some letter => ['\\', letter]
  | none =>
      if ' ' ≤ char ∧ char ≤ '~' then [char]
      else if char.toNat < 0x10000 then unitEscape char.toNat
      else
        unitEscape (0xd800 + (char.toNat - 0x10000) / 0x400) ++
          unitEscape (0xdc00 + (char.toNat - 0x10000) % 0x400)

def quoted (text : Text) : Text := '"' :: (text.flatMap escape ++ ['"'])

def member : Option Text → Text
  | none => "null".toList
  | some text => quoted text

def entry (pair : Text × Option Text) : Text := quoted pair.1 ++ ": ".toList ++ member pair.2

def entries : List (Text × Option Text) → Text
  | [] => []
  | [last] => entry last
  | pair :: rest => entry pair ++ ", ".toList ++ entries rest

/-- `json.dumps(object)` -/
def write (object : Object) : Text := '{' :: (entries object.entries ++ ['}'])

/-- `json.dumps(object, sort_keys=True)` -/
def dumps (object : Object) : Text := write object.sorted

/-! ## Reading -/

def hexValue (char : Char) : Option Nat :=
  if '0' ≤ char ∧ char ≤ '9' then some (char.toNat - '0'.toNat)
  else if 'a' ≤ char ∧ char ≤ 'f' then some (char.toNat - 'a'.toNat + 10)
  else if 'A' ≤ char ∧ char ≤ 'F' then some (char.toNat - 'A'.toNat + 10)
  else none

def longForm (letter : Char) : Option Char :=
  if letter = '"' ∨ letter = '\\' ∨ letter = '/' then some letter
  else if letter = 'n' then some '\n'
  else if letter = 'r' then some '\r'
  else if letter = 't' then some '\t'
  else if letter = 'f' then some '\x0c'
  else if letter = 'b' then some '\x08'
  else none

/-- Where in a text literal the next character stands. -/
inductive Place where
  | plain
  | escaped
  | hex (left value : Nat)

/-- The code units of a text literal, and what follows its closing quote. -/
def readUnits : Place → Text → Option (List Nat × Text)
  | _, [] => none
  | .plain, char :: rest =>
      if char = '"' then some ([], rest)
      else if char = '\\' then readUnits .escaped rest
      -- Control characters do not stand for themselves.
      else if char.toNat < 0x20 then none
      else (readUnits .plain rest).map (Prod.map (char.toNat :: ·) id)
  | .escaped, char :: rest =>
      if char = 'u' then readUnits (.hex 3 0) rest
      else (longForm char).bind fun plain =>
        (readUnits .plain rest).map (Prod.map (plain.toNat :: ·) id)
  | .hex 0 value, char :: rest =>
      (hexValue char).bind fun digit =>
        (readUnits .plain rest).map (Prod.map ((16 * value + digit) :: ·) id)
  | .hex (left + 1) value, char :: rest =>
      (hexValue char).bind fun digit => readUnits (.hex left (16 * value + digit)) rest

def isHigh (unit : Nat) : Bool := 0xd800 ≤ unit && unit < 0xdc00

def isLow (unit : Nat) : Bool := 0xdc00 ≤ unit && unit < 0xe000

def charOf (unit : Nat) : Option Char :=
  if unit.isValidChar then some (Char.ofNat unit) else none

/-- Pairs of surrogates become the characters they stand for. -/
def joinUnits : List Nat → Option Text
  | [] => some []
  | [unit] => (charOf unit).map ([·])
  | unit :: next :: rest =>
      if isHigh unit && isLow next then
        (joinUnits rest).map
          (Char.ofNat (0x10000 + (unit - 0xd800) * 0x400 + (next - 0xdc00)) :: ·)
      else
        (charOf unit).bind fun char => (joinUnits (next :: rest)).map (char :: ·)

/-- A text literal, after the opening quote. -/
def readText (text : Text) : Option (Text × Text) :=
  (readUnits .plain text).bind fun read =>
    (joinUnits read.1).map fun chars => (chars, read.2)

def skip (text : Text) : Text :=
  text.dropWhile fun char => char = ' ' || char = '\t' || char = '\n' || char = '\r'

def expect (char : Char) : Text → Option Text
  | [] => none
  | first :: rest => if first = char then some rest else none

def readMember : Text → Option (Option Text × Text)
  | 'n' :: 'u' :: 'l' :: 'l' :: rest => some (none, rest)
  | text => do
      let (value, rest) ← readText (← expect '"' text)
      return (some value, rest)

/-- The members of an object up to its closing brace, at most `fuel` of them. -/
def readEntries : Nat → Text → Option (List (Text × Option Text) × Text)
  | 0, _ => none
  | fuel + 1, text => do
      let (key, text) ← readText (← expect '"' text)
      let (value, text) ← readMember (skip (← expect ':' (skip text)))
      match expect '}' (skip text) with
      | some rest => return ([(key, value)], rest)
      | none => do
          let (later, rest) ← readEntries fuel (skip (← expect ',' (skip text)))
          return ((key, value) :: later, rest)

def readObject (text : Text) : Option (List (Text × Option Text) × Text) := do
  let text := skip (← expect '{' text)
  match expect '}' text with
  | some rest => return ([], rest)
  | none => readEntries text.length text

/-- `json.loads`; of a repeated key the last member counts. -/
def loads (text : Text) : Option Object := do
  let (pairs, rest) ← readObject (skip text)
  if skip rest = [] then return .ofPairs pairs else none

/-! ## What is written reads back -/

theorem hexValue_hexDigit : ∀ digit < 16, hexValue (hexDigit digit) = some digit := by decide

theorem readUnits_unitEscape {unit : Nat} (fits : unit < 0x10000) (rest : Text) :
    readUnits .plain (unitEscape unit ++ rest) =
      (readUnits .plain rest).map (Prod.map (unit :: ·) id) := by
  have digit (place : Nat) : hexValue (hexDigit (unit / place % 16)) = some (unit / place % 16) :=
    hexValue_hexDigit _ (Nat.mod_lt _ (by decide))
  have last : hexValue (hexDigit (unit % 16)) = some (unit % 16) :=
    hexValue_hexDigit _ (Nat.mod_lt _ (by decide))
  have whole : 16 * (16 * (16 * (16 * 0 + unit / 0x1000 % 16) + unit / 0x100 % 16) +
      unit / 0x10 % 16) + unit % 16 = unit := by
    omega
  simp only [unitEscape, List.cons_append, List.nil_append, readUnits, digit, last,
    Option.bind_some, whole]
  rfl

/-- The code units of UTF-16. -/
def unitsOf (char : Char) : List Nat :=
  if char.toNat < 0x10000 then [char.toNat]
  else [0xd800 + (char.toNat - 0x10000) / 0x400, 0xdc00 + (char.toNat - 0x10000) % 0x400]

theorem longForm_of_shortForm {char letter : Char} (short : shortForm char = some letter) :
    letter ≠ 'u' ∧ longForm letter = some char ∧ unitsOf char = [char.toNat] := by
  unfold shortForm at short
  split_ifs at short <;> cases short <;> subst_vars <;> decide

theorem plain_of_shortForm {char : Char} (long : shortForm char = none) :
    char ≠ '"' ∧ char ≠ '\\' := by
  unfold shortForm at long
  split_ifs at long
  exact ⟨‹_›, ‹_›⟩

theorem lt_of_char (char : Char) : char.toNat < 0x110000 ∧
    (char.toNat < 0xd800 ∨ 0xdfff < char.toNat) := by
  have valid : char.toNat.isValidChar := char.valid
  unfold Nat.isValidChar at valid
  omega

theorem readUnits_escape (char : Char) (rest : Text) :
    readUnits .plain (escape char ++ rest) =
      (readUnits .plain rest).map (Prod.map (unitsOf char ++ ·) id) := by
  unfold escape
  cases short : shortForm char with
  | some letter =>
      obtain ⟨notHex, long, units⟩ := longForm_of_shortForm short
      simp only [List.cons_append, List.nil_append, readUnits, notHex, long, units,
        Option.bind_some, ↓reduceIte]
      rfl
  | none =>
      obtain ⟨notQuote, notBackslash⟩ := plain_of_shortForm short
      by_cases printable : ' ' ≤ char ∧ char ≤ '~'
      · have least : 0x20 ≤ char.toNat := printable.1
        have greatest : char.toNat ≤ 0x7e := printable.2
        have units : unitsOf char = [char.toNat] := if_pos (by omega)
        simp only [if_pos printable, List.cons_append, List.nil_append, readUnits,
          if_neg notQuote, if_neg notBackslash, if_neg (Nat.not_lt_of_le least), units]
      · rw [if_neg printable, unitsOf]
        by_cases basic : char.toNat < 0x10000
        · simp only [if_pos basic]
          exact readUnits_unitEscape basic rest
        · have range := (lt_of_char char).1
          simp only [if_neg basic]
          rw [List.append_assoc, readUnits_unitEscape (by omega), readUnits_unitEscape (by omega),
            Option.map_map]
          rfl

theorem readUnits_quoted (text rest : Text) :
    readUnits .plain (text.flatMap escape ++ '"' :: rest) = some (text.flatMap unitsOf, rest) := by
  induction text with
  | nil => rfl
  | cons char text ih =>
      rw [List.flatMap_cons, List.append_assoc, readUnits_escape, ih]
      rfl

theorem charOf_toNat (char : Char) : charOf char.toNat = some char := by
  have valid : char.toNat.isValidChar := char.valid
  rw [charOf, if_pos valid, Char.ofNat_toNat]

theorem joinUnits_cons_of_not_high {unit : Nat} (alone : isHigh unit = false) (rest : List Nat) :
    joinUnits (unit :: rest) =
      (charOf unit).bind fun char => (joinUnits rest).map (char :: ·) := by
  cases rest with
  | nil => cases found : charOf unit <;> simp [joinUnits, found]
  | cons next rest => simp [joinUnits, alone]

theorem joinUnits_unitsOf (char : Char) (rest : List Nat) :
    joinUnits (unitsOf char ++ rest) = (joinUnits rest).map (char :: ·) := by
  have range := lt_of_char char
  unfold unitsOf
  by_cases basic : char.toNat < 0x10000
  · have alone : isHigh char.toNat = false := by
      simp only [isHigh, Bool.and_eq_false_iff, decide_eq_false_iff_not]
      omega
    rw [if_pos basic, List.singleton_append, joinUnits_cons_of_not_high alone, charOf_toNat]
    rfl
  · have pair : 0x10000 + (0xd800 + (char.toNat - 0x10000) / 0x400 - 0xd800) * 0x400 +
        (0xdc00 + (char.toNat - 0x10000) % 0x400 - 0xdc00) = char.toNat := by
      omega
    have high : isHigh (0xd800 + (char.toNat - 0x10000) / 0x400) = true := by
      simp only [isHigh, Bool.and_eq_true, decide_eq_true_eq]
      omega
    have low : isLow (0xdc00 + (char.toNat - 0x10000) % 0x400) = true := by
      simp only [isLow, Bool.and_eq_true, decide_eq_true_eq]
      omega
    rw [if_neg basic, List.cons_append, List.singleton_append, joinUnits, high, low, pair,
      Char.ofNat_toNat]
    rfl

theorem joinUnits_flatMap (text : Text) : joinUnits (text.flatMap unitsOf) = some text := by
  induction text with
  | nil => rfl
  | cons char text ih =>
      rw [List.flatMap_cons, joinUnits_unitsOf, ih]
      rfl

theorem readText_quoted (text rest : Text) :
    readText (text.flatMap escape ++ '"' :: rest) = some (text, rest) := by
  simp [readText, readUnits_quoted, joinUnits_flatMap]

theorem quoted_append (text rest : Text) :
    quoted text ++ rest = '"' :: (text.flatMap escape ++ '"' :: rest) := by
  simp [quoted]

@[simp] theorem expect_self (char : Char) (rest : Text) : expect char (char :: rest) = some rest :=
  if_pos rfl

theorem expect_of_ne {char first : Char} (differs : first ≠ char) (rest : Text) :
    expect char (first :: rest) = none :=
  if_neg differs

theorem readMember_member (value : Option Text) (rest : Text) :
    readMember (member value ++ rest) = some (value, rest) := by
  cases value with
  | none => rfl
  | some text =>
      rw [member, quoted_append, readMember]
      · simp [readText_quoted]
      · intro _ shape
        cases shape

theorem skip_member (value : Option Text) (rest : Text) :
    skip (' ' :: (member value ++ rest)) = member value ++ rest := by
  cases value <;> rfl

theorem skip_entries {pairs : List (Text × Option Text)} (present : pairs ≠ []) (rest : Text) :
    skip (entries pairs ++ rest) = entries pairs ++ rest := by
  cases pairs with
  | nil => exact absurd rfl present
  | cons pair pairs => cases pairs <;> rfl

theorem entry_append (pair : Text × Option Text) (rest : Text) :
    entry pair ++ rest =
      '"' :: (pair.1.flatMap escape ++ '"' :: ':' :: ' ' :: (member pair.2 ++ rest)) := by
  simp [entry, quoted]

theorem readEntries_entries {pairs : List (Text × Option Text)} (present : pairs ≠ []) {fuel : Nat}
    (enough : pairs.length ≤ fuel) (rest : Text) :
    readEntries fuel (entries pairs ++ '}' :: rest) = some (pairs, rest) := by
  induction pairs generalizing fuel with
  | nil => exact absurd rfl present
  | cons pair pairs ih =>
      cases fuel with
      | zero => simp at enough
      | succ fuel =>
          have colon (later : Text) : skip (':' :: later) = ':' :: later := rfl
          cases pairs with
          | nil =>
              have brace : skip ('}' :: rest) = '}' :: rest := rfl
              rw [entries, entry_append, readEntries]
              simp [readText_quoted, colon, skip_member, readMember_member, brace]
          | cons next pairs =>
              have later := ih (by simp) (Nat.le_of_succ_le_succ enough)
              have comma (later : Text) : skip (',' :: later) = ',' :: later := rfl
              have notBrace (later : Text) : expect '}' (',' :: later) = none :=
                expect_of_ne (by decide) later
              have space : skip (' ' :: (entries (next :: pairs) ++ '}' :: rest)) =
                  skip (entries (next :: pairs) ++ '}' :: rest) := rfl
              rw [skip_entries (by simp)] at space
              have separator : ", ".toList = [',', ' '] := rfl
              rw [entries, List.append_assoc, List.append_assoc, entry_append, readEntries,
                separator]
              · simp [readText_quoted, colon, comma, notBrace, skip_member, readMember_member,
                  space, later]
              · simp

theorem length_le_length_entries (pairs : List (Text × Option Text)) :
    pairs.length ≤ (entries pairs).length := by
  induction pairs with
  | nil => simp
  | cons pair pairs ih =>
      have quote : 0 < (entry pair).length := by simp [entry, quoted]
      cases pairs with
      | nil => exact quote
      | cons next pairs =>
          rw [entries, List.length_append, List.length_append, List.length_cons]
          · omega
          · simp

theorem readObject_write (object : Object) (rest : Text) :
    readObject (write object ++ rest) = some (object.entries, rest) := by
  have opened : write object ++ rest = '{' :: (entries object.entries ++ '}' :: rest) := by
    simp [write]
  rw [opened, readObject, expect_self]
  cases members : object.entries with
  | nil => rfl
  | cons pair pairs =>
      have present := List.cons_ne_nil pair pairs
      have enough : (pair :: pairs).length ≤ (entries (pair :: pairs) ++ '}' :: rest).length :=
        (length_le_length_entries _).trans (by simp)
      have notClosed : expect '}' (entries (pair :: pairs) ++ '}' :: rest) = none := by
        cases pairs <;> exact expect_of_ne (by decide) _
      simp only [Option.bind_eq_bind, Option.bind_some, skip_entries present, notClosed]
      exact readEntries_entries present enough rest

theorem loads_write (object : Object) : loads (write object) = some object := by
  have start : skip (write object) = write object := rfl
  have read := readObject_write object []
  rw [List.append_nil] at read
  rw [loads, start, read]
  exact congrArg some (InsertionDict.ofPairs_entries object)

theorem loads_dumps (object : Object) : loads (dumps object) = some object.sorted :=
  loads_write _

example : (loads " \x7b\"a\":\"\\ud83D\\ude00\\/\\t\" ,\n\"b\" : null, \"a\":\"\"\x7d".toList).map
    (·.entries) = some [("a".toList, some []), ("b".toList, none)] := by
  decide +kernel

example : dumps (.ofPairs [("b".toList, some ['"', 'é', Char.ofNat 0x1f600]), ("a".toList, none)]) =
    "\x7b\"a\": null, \"b\": \"\\\"\\u00e9\\ud83d\\ude00\"\x7d".toList := by
  decide +kernel

end MvdEdge.Lib.JsonText
