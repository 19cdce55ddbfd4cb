import ActivityLedger.Text.Decimal
import ActivityLedger.Text.Order
import Mathlib.Algebra.Order.Ring.Int

/-!
# Digits in order

Runs of digits of one length are told apart and ordered by their values, and a text
in front of both changes nothing about their order.
-/

namespace ActivityLedger.Text

def digit (c : Char) : Nat := c.toNat - '0'.toNat

/-- A digit lies between zero and nine, and its code is that of zero plus the digit. -/
theorem toNat_eq_of_isDigit {c : Char} (isDigit : c.isDigit = true) :
    c.toNat = 48 + digit c ∧ digit c ≤ 9 := by
  simp only [Char.isDigit, Bool.and_eq_true, decide_eq_true_eq] at isDigit
  obtain ⟨lower, upper⟩ := isDigit
  have atLeast : 48 ≤ c.toNat := lower
  have atMost : c.toNat ≤ 57 := upper
  have zero : '0'.toNat = 48 := rfl
  unfold digit
  omega

/-! ## Values -/

@[simp] theorem value_nil : value [] = 0 := Nat.ofDigitChars_nil

theorem value_append (xs ys : List Char) :
    value (xs ++ ys) = 10 ^ ys.length * value xs + value ys := by
  rw [value, Nat.ofDigitChars_append, Nat.ofDigitChars_eq_ofDigitChars_zero]
  rfl

theorem value_cons (c : Char) (cs : List Char) :
    value (c :: cs) = 10 ^ cs.length * digit c + value cs := by
  rw [value, Nat.ofDigitChars_cons, Nat.ofDigitChars_eq_ofDigitChars_zero, Nat.mul_zero,
    Nat.zero_add]
  rfl

theorem value_lt {cs : List Char} (digits : ∀ c ∈ cs, c.isDigit = true) :
    value cs < 10 ^ cs.length := by
  induction cs with
  | nil => simp
  | cons c rest ih =>
      have below := ih fun other member => digits other (List.mem_cons_of_mem c member)
      have small := (toNat_eq_of_isDigit (digits c List.mem_cons_self)).2
      have most := Nat.mul_le_mul_left (10 ^ rest.length) small
      rw [value_cons, List.length_cons, Nat.pow_succ]
      omega

theorem value_cons_lt_iff {c d : Char} {xs ys : List Char} (length : xs.length = ys.length)
    (digits : ∀ c ∈ xs, c.isDigit = true) (otherDigits : ∀ c ∈ ys, c.isDigit = true) :
    value (c :: xs) < value (d :: ys) ↔
      digit c < digit d ∨ (digit c = digit d ∧ value xs < value ys) := by
  have below := value_lt digits
  have otherBelow := value_lt otherDigits
  rw [value_cons, value_cons, ← length]
  rw [← length] at otherBelow
  rcases Nat.lt_trichotomy (digit c) (digit d) with less | same | greater
  · have gap := Nat.mul_le_mul_left (10 ^ xs.length) less
    rw [Nat.mul_succ] at gap
    simp only [less, true_or, iff_true]
    omega
  · rw [same]
    simp
  · have gap := Nat.mul_le_mul_left (10 ^ xs.length) greater
    rw [Nat.mul_succ] at gap
    omega

/-! ## Bytes -/

theorem bytes_ofList (cs : List Char) :
    bytes (String.ofList cs) = cs.flatMap String.utf8EncodeChar := by
  rw [bytes, String.toByteArray_ofList, List.utf8Encode]
  simp

/-- A text in front of two others leaves their order as it is. -/
theorem precedes_ofList_append_iff (start xs ys : List Char) :
    precedes (String.ofList (start ++ xs)) (String.ofList (start ++ ys)) ↔
      precedes (String.ofList xs) (String.ofList ys) := by
  simp only [precedes, bytes_ofList, List.flatMap_append]
  generalize start.flatMap String.utf8EncodeChar = front
  induction front with
  | nil => rfl
  | cons byte rest ih => simpa [List.cons_lt_cons_iff] using ih

theorem utf8EncodeChar_of_isDigit {c : Char} (isDigit : c.isDigit = true) :
    String.utf8EncodeChar c = [UInt8.ofNat c.toNat] := by
  obtain ⟨code, small⟩ := toNat_eq_of_isDigit isDigit
  have ascii : c.val.toNat ≤ 127 := by
    show c.toNat ≤ 127
    omega
  simp only [String.utf8EncodeChar]
  rw [if_pos (by simpa using ascii)]
  rfl

theorem byte_lt_iff {c d : Char} (isDigit : c.isDigit = true) (otherIsDigit : d.isDigit = true) :
    UInt8.ofNat c.toNat < UInt8.ofNat d.toNat ↔ digit c < digit d := by
  obtain ⟨code, small⟩ := toNat_eq_of_isDigit isDigit
  obtain ⟨otherCode, otherSmall⟩ := toNat_eq_of_isDigit otherIsDigit
  rw [UInt8.lt_iff_toNat_lt, UInt8.toNat_ofNat', UInt8.toNat_ofNat', code, otherCode]
  omega

theorem byte_eq_iff {c d : Char} (isDigit : c.isDigit = true) (otherIsDigit : d.isDigit = true) :
    UInt8.ofNat c.toNat = UInt8.ofNat d.toNat ↔ digit c = digit d := by
  obtain ⟨code, small⟩ := toNat_eq_of_isDigit isDigit
  obtain ⟨otherCode, otherSmall⟩ := toNat_eq_of_isDigit otherIsDigit
  rw [← UInt8.toNat_inj, UInt8.toNat_ofNat', UInt8.toNat_ofNat', code, otherCode]
  omega

/-- Runs of digits of one length are ordered as their values. -/
theorem precedes_ofList_iff {xs ys : List Char} (length : xs.length = ys.length)
    (digits : ∀ c ∈ xs, c.isDigit = true) (otherDigits : ∀ c ∈ ys, c.isDigit = true) :
    precedes (String.ofList xs) (String.ofList ys) ↔ value xs < value ys := by
  simp only [precedes, bytes_ofList]
  induction xs generalizing ys with
  | nil =>
      cases ys with
      | nil => simp
      | cons d ys => cases length
  | cons c xs ih =>
      cases ys with
      | nil => cases length
      | cons d ys =>
          have shorter : xs.length = ys.length := Nat.succ.inj length
          have digitsRest : ∀ c ∈ xs, c.isDigit = true :=
            fun c member => digits c (List.mem_cons_of_mem _ member)
          have otherRest : ∀ c ∈ ys, c.isDigit = true :=
            fun c member => otherDigits c (List.mem_cons_of_mem _ member)
          have first := digits c List.mem_cons_self
          have otherFirst := otherDigits d List.mem_cons_self
          rw [List.flatMap_cons, List.flatMap_cons, utf8EncodeChar_of_isDigit first,
            utf8EncodeChar_of_isDigit otherFirst, List.singleton_append, List.singleton_append,
            List.cons_lt_cons_iff, byte_lt_iff first otherFirst, byte_eq_iff first otherFirst,
            ih shorter digitsRest otherRest, value_cons_lt_iff shorter digitsRest otherRest]

/-- Runs of digits of one length with one value are the same. -/
theorem eq_of_value_eq {xs ys : List Char} (length : xs.length = ys.length)
    (digits : ∀ c ∈ xs, c.isDigit = true) (otherDigits : ∀ c ∈ ys, c.isDigit = true)
    (same : value xs = value ys) : xs = ys := by
  apply String.ofList_injective
  apply eq_of_not_precedes
  · rw [precedes_ofList_iff length digits otherDigits]
    omega
  · rw [precedes_ofList_iff length.symm otherDigits digits]
    omega

end ActivityLedger.Text
