/-!
# Numbers in texts

Lengths, ports, addresses and escapes are written with digits of some base.  A number is read by
its value alone, so zeros in front do not matter, however many there are.
-/

namespace PreviewServer

/-! ### Digits of any base -/

/-- The value of a digit in bases up to sixteen. -/
def digitValue? (c : Char) : Option Nat :=
  if '0' ≤ c ∧ c ≤ '9' then some (c.toNat - '0'.toNat)
  else if 'a' ≤ c ∧ c ≤ 'f' then some (c.toNat - 'a'.toNat + 10)
  else if 'A' ≤ c ∧ c ≤ 'F' then some (c.toNat - 'A'.toNat + 10)
  else none

/-- The number that digits of a base denote, most significant digit first; no digits denote
zero. -/
def numberInBase? (base : Nat) (digits : List Char) : Option Nat :=
  digits.foldl
    (fun n c =>
      match n, digitValue? c with
      | some n, some d => if d < base then some (n * base + d) else none
      | _, _ => none)
    (some 0)

/-- The numbers that a port must stay below: those of two bytes. -/
def portLimit : Nat := 65536

/-! ### Decimal numbers -/

/-- The number that decimal digits denote, most significant digit first. -/
def decimalValue (digits : List Char) : Nat :=
  digits.foldl (fun n c => n * 10 + (c.toNat - '0'.toNat)) 0

/-- It is the number with these digits. -/
theorem decimalValue_eq (digits : List Char) :
    decimalValue digits = Nat.ofDigitChars 10 digits 0 := by
  rw [decimalValue, Nat.ofDigitChars_eq_foldl]
  congr 1
  funext n c
  rw [Nat.mul_comm]

/-- The text without a plus sign at its start. -/
def withoutPlus : List Char → List Char
  | '+' :: digits => digits
  | digits => digits

/-- Reads a number below `limit`: decimal digits, with or without a plus sign. -/
def readDecimal? (limit : Nat) (text : List Char) : Option Nat :=
  let digits := withoutPlus text
  if digits ≠ [] ∧ digits.all Char.isDigit ∧ decimalValue digits < limit then
    some (decimalValue digits)
  else none

/-- Digits are read as the number that they denote, if that is below the limit. -/
theorem readDecimal?_of_isDigit (limit : Nat) {digits : List Char} (hne : digits ≠ [])
    (h : ∀ c ∈ digits, c.isDigit = true) :
    readDecimal? limit digits =
      if Nat.ofDigitChars 10 digits 0 < limit then some (Nat.ofDigitChars 10 digits 0)
      else none := by
  have hplus : withoutPlus digits = digits := by
    unfold withoutPlus
    split
    · exact absurd (h '+' List.mem_cons_self) (by decide)
    · rfl
  have hall : digits.all Char.isDigit = true := List.all_eq_true.mpr h
  simp only [readDecimal?, hplus, hne, hall, decimalValue_eq, ne_eq, not_false_eq_true, true_and]

end PreviewServer
