/-!
# Decimal numerals

`isDigit` holds of every decimal digit of Unicode. A numeral has a value (`word?`) only if all its
digits are ASCII and the value fits a 64-bit word.
-/

namespace Conformance.Numeral

/-- The zeros of the decimal digits (general category Nd). Each starts a run of ten. -/
def zeros : List Nat := [
  0x30, 0x660, 0x6F0, 0x7C0, 0x966, 0x9E6, 0xA66, 0xAE6, 0xB66, 0xBE6, 0xC66, 0xCE6, 0xD66, 0xDE6,
  0xE50, 0xED0, 0xF20, 0x1040, 0x1090, 0x17E0, 0x1810, 0x1946, 0x19D0, 0x1A80, 0x1A90, 0x1B50,
  0x1BB0, 0x1C40, 0x1C50, 0xA620, 0xA8D0, 0xA900, 0xA9D0, 0xA9F0, 0xAA50, 0xABF0, 0xFF10, 0x104A0,
  0x10D30, 0x10D40, 0x11066, 0x110F0, 0x11136, 0x111D0, 0x112F0, 0x11450, 0x114D0, 0x11650,
  0x116C0, 0x116D0, 0x116DA, 0x11730, 0x118E0, 0x11950, 0x11BF0, 0x11C50, 0x11D50, 0x11DA0,
  0x11F50, 0x16130, 0x16A60, 0x16AC0, 0x16B50, 0x16D70, 0x1CCF0, 0x1D7CE, 0x1D7D8, 0x1D7E2,
  0x1D7EC, 0x1D7F6, 0x1E140, 0x1E2F0, 0x1E4F0, 0x1E5F1, 0x1E950, 0x1FBF0]

/-- Whether a character is a decimal digit of any script. -/
def isDigit (c : Char) : Bool := zeros.any fun z => z ≤ c.toNat && c.toNat ≤ z + 9

/-- One more than the greatest 64-bit word. -/
def wordLimit : Nat := 0x10000000000000000

/-- The value of ASCII digits, read from the left onto a value so far. -/
def valueFrom (value : Nat) : List Char → Nat
  | [] => value
  | c :: cs => valueFrom (value * 10 + (c.toNat - '0'.toNat)) cs

/-- The number that a non-empty run of ASCII digits writes, if it fits a 64-bit word. -/
def word? (digits : List Char) : Option Nat :=
  if digits ≠ [] ∧ digits.all Char.isDigit ∧ valueFrom 0 digits < wordLimit then
    some (valueFrom 0 digits)
  else none

end Conformance.Numeral
