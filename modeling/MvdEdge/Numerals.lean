import MvdEdge.Base

/-! `int`, as it reads a stripped text in a given base. -/

set_option autoImplicit false

namespace MvdEdge

/-- Where the decimal digits of each script begin, ten in a row (Unicode 14). -/
def decimalZeros : List Nat :=
  [0x30, 0x660, 0x6f0, 0x7c0, 0x966, 0x9e6, 0xa66, 0xae6, 0xb66, 0xbe6, 0xc66, 0xce6, 0xd66,
    0xde6, 0xe50, 0xed0, 0xf20, 0x1040, 0x1090, 0x17e0, 0x1810, 0x1946, 0x19d0, 0x1a80, 0x1a90,
    0x1b50, 0x1bb0, 0x1c40, 0x1c50, 0xa620, 0xa8d0, 0xa900, 0xa9d0, 0xa9f0, 0xaa50, 0xabf0,
    0xff10, 0x104a0, 0x10d30, 0x11066, 0x110f0, 0x11136, 0x111d0, 0x112f0, 0x11450, 0x114d0,
    0x11650, 0x116c0, 0x11730, 0x118e0, 0x11950, 0x11c50, 0x11d50, 0x11da0, 0x16a60, 0x16ac0,
    0x16b50, 0x1d7ce, 0x1d7d8, 0x1d7e2, 0x1d7ec, 0x1d7f6, 0x1e140, 0x1e2f0, 0x1e950, 0x1fbf0]

/-- A decimal digit of any script as the ASCII one. -/
def asciiDigit (char : Char) : Char :=
  match decimalZeros.find? fun first => first ≤ char.toNat && char.toNat < first + 10 with
  | some first => Char.ofNat ('0'.toNat + (char.toNat - first))
  | none => char

def digitValue (radix : Nat) (char : Char) : Option Nat :=
  let value :=
    if '0' ≤ char ∧ char ≤ '9' then some (char.toNat - '0'.toNat)
    else if 'a' ≤ char ∧ char ≤ 'z' then some (char.toNat - 'a'.toNat + 10)
    else if 'A' ≤ char ∧ char ≤ 'Z' then some (char.toNat - 'A'.toNat + 10)
    else none
  value.filter (· < radix)

/-- Digits with single underscores between them. -/
def digitsValue (radix : Nat) : Nat → Str → Option Nat
  | _, [] => none
  | value, [char] => (digitValue radix char).map (radix * value + ·)
  | value, char :: '_' :: rest => do
      digitsValue radix (radix * value + (← digitValue radix char)) rest
  | value, char :: rest => do
      digitsValue radix (radix * value + (← digitValue radix char)) rest

/-- The radix a mark after a leading zero stands for. -/
def radixMark (mark : Char) : Option Nat :=
  if mark = 'x' ∨ mark = 'X' then some 16
  else if mark = 'o' ∨ mark = 'O' then some 8
  else if mark = 'b' ∨ mark = 'B' then some 2
  else none

def unsignedValue (base : Nat) (digits : Str) : Option Nat :=
  match digits with
  | '0' :: mark :: rest =>
      match (radixMark mark).filter fun radix => base = 0 || base = radix with
      | some radix =>
          digitsValue radix 0 (match rest with | '_' :: rest => rest | rest => rest)
      | none =>
          if base ≠ 0 then digitsValue base 0 digits
          -- Without a mark only zero itself begins with a zero.
          else (digitsValue 10 0 digits).filter (· = 0)
  | digits => digitsValue (if base = 0 then 10 else base) 0 digits

/-- `int(raw, base)`; base 0 takes the radix from the text. -/
def int (raw : Str) (base : Nat) : Option Int :=
  match raw.map asciiDigit with
  | '-' :: digits => (unsignedValue base digits).map fun value => -(value : Int)
  | '+' :: digits => (unsignedValue base digits).map (↑·)
  | digits => (unsignedValue base digits).map (↑·)

example : ["ea60", "0x_10c4", "-٠x1_0", "1__0", "0x"].map (fun raw => int raw.toList 16) =
    [some 60000, some 4292, some (-16), none, none] := by decide +kernel

end MvdEdge
