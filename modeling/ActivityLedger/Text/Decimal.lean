/-!
# Decimal digits

Natural numbers in decimal notation, padded with zeros to a least width, and the
value that a run of digits stands for.
-/

namespace ActivityLedger.Text

def digits (n : Nat) : List Char := Nat.toDigits 10 n

/-- The decimal digits of a number, with leading zeros up to a least width. -/
def padded (width n : Nat) : List Char :=
  List.replicate (width - (digits n).length) '0' ++ digits n

def value (cs : List Char) : Nat := Nat.ofDigitChars 10 cs 0

theorem value_digits (n : Nat) : value (digits n) = n :=
  Nat.ofDigitChars_toDigits (by decide) (by decide)

theorem isDigit_of_mem_digits {n : Nat} {c : Char} (member : c ∈ digits n) : c.isDigit = true :=
  Nat.isDigit_of_mem_toDigits (by decide) (by decide) member

theorem value_padded (width n : Nat) : value (padded width n) = n := by
  have zeros (count : Nat) (rest : List Char) :
      value (List.replicate count '0' ++ rest) = value rest := by
    induction count with
    | zero => rfl
    | succ count ih =>
        simpa [value, Nat.ofDigitChars, List.replicate_succ] using ih
  rw [padded, zeros, value_digits]

theorem isDigit_of_mem_padded {width n : Nat} {c : Char} (member : c ∈ padded width n) :
    c.isDigit = true := by
  rcases List.mem_append.mp member with inZeros | inDigits
  · rw [List.eq_of_mem_replicate inZeros]
    decide
  · exact isDigit_of_mem_digits inDigits

theorem length_padded {width n : Nat} (positive : 0 < width) (fits : n < Nat.pow 10 width) :
    (padded width n).length = width := by
  have short : (digits n).length ≤ width :=
    (Nat.length_toDigits_le_iff (by decide) positive).mpr fits
  simp only [padded, List.length_append, List.length_replicate]
  omega

/-- The sign, if any, and the digits of an integer. -/
def integer (n : Int) : List Char :=
  if n < 0 then '-' :: digits n.natAbs else digits n.natAbs

end ActivityLedger.Text
