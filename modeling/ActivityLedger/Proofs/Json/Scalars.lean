import ActivityLedger.Json.Printer
import ActivityLedger.Json.Reader
import ActivityLedger.Proofs.DigitOrder

/-!
# Texts and numbers in JSON

A written text is read back character by character: what is escaped stands for itself
again, and no character has the code of half a character.  A written number is read back
up to the first character that does not belong to a number.
-/

namespace ActivityLedger.Json

/-! ## Texts -/

theorem hexValue?_hexDigit {n : Nat} (small : n < 16) : hexValue? (hexDigit n) = some n := by
  decide +revert

theorem readUnits_backslash {c : Char} (short : c ≠ 'u') (rest : List Char) :
    readUnits ('\\' :: c :: rest) =
      (unescape? c).bind fun c => (readUnits rest).map fun read => (c.toNat :: read.1, read.2) := by
  rw [readUnits]
  · cases unescape? c with
    | none => rfl
    | some c => cases readUnits rest <;> rfl
  · intro a b c d later same
    simp_all

theorem readUnits_plain {c : Char} (quote : c ≠ '"') (backslash : c ≠ '\\')
    (printable : 32 ≤ c.toNat) (rest : List Char) :
    readUnits (c :: rest) = (readUnits rest).map fun read => (c.toNat :: read.1, read.2) := by
  rw [readUnits]
  · rw [if_neg (by omega)]
    cases readUnits rest <;> rfl
  · simpa using quote
  · intro a b c d e later same
    simp_all
  · intro a later same
    simp_all

/-- An escaped character is read as its own code, before anything that can be read. -/
theorem readUnits_escape (c : Char) (rest : List Char) :
    readUnits (escape c ++ rest) =
      (readUnits rest).map fun read => (c.toNat :: read.1, read.2) := by
  unfold escape
  split
  case h_8 quote backslash backspace feed line carriage tab =>
    split
    · rename_i control
      have high := hexValue?_hexDigit (by omega : c.toNat / 16 < 16)
      have low := hexValue?_hexDigit (by omega : c.toNat % 16 < 16)
      have zero : hexValue? '0' = some 0 := rfl
      have code : c.toNat / 16 * 16 + c.toNat % 16 = c.toNat := by omega
      simp only [List.cons_append, List.nil_append, readUnits, hexUnit?, zero, high, low]
      cases readUnits rest <;> simp [code]
    · rename_i printable
      exact readUnits_plain quote backslash (by omega) rest
  all_goals
    rw [List.cons_append, List.cons_append, List.nil_append, readUnits_backslash (by decide)]
    rfl

/-- The characters of a text are read back up to the closing quote. -/
theorem readUnits_flatMap_escape (cs rest : List Char) :
    readUnits (cs.flatMap escape ++ '"' :: rest) = some (cs.map Char.toNat, rest) := by
  induction cs with
  | nil => rfl
  | cons c cs ih =>
      rw [List.flatMap_cons, List.append_assoc, readUnits_escape, ih]
      rfl

/-- No character has the code of half a character. -/
theorem not_isHalf (c : Char) : isLeading c.toNat = false ∧ isTrailing c.toNat = false := by
  have valid : c.toNat < 0xD800 ∨ (0xDFFF < c.toNat ∧ c.toNat < 0x110000) := c.valid
  simp only [isLeading, isTrailing, Bool.and_eq_false_iff, decide_eq_false_iff_not]
  omega

theorem joinUnits?_map_toNat (cs : List Char) : joinUnits? (cs.map Char.toNat) = some cs := by
  induction cs with
  | nil => rfl
  | cons c cs ih =>
      obtain ⟨notLeading, notTrailing⟩ := not_isHalf c
      cases cs with
      | nil => simp [joinUnits?, notLeading, notTrailing]
      | cons next cs =>
          rw [List.map_cons] at ih
          simp [joinUnits?, notLeading, notTrailing, ih]

/-- A written text is read back, whatever follows it. -/
theorem readText_writeText (s : String) (rest : List Char) :
    ∃ later, writeText s ++ rest = '"' :: later ∧ readText later = some (some s, rest) := by
  refine ⟨s.toList.flatMap escape ++ '"' :: rest, by simp [writeText], ?_⟩
  simp [readText, readUnits_flatMap_escape, joinUnits?_map_toNat]

/-! ## Numbers -/

/-- What follows a number is not read as a part of it. -/
def Stops (rest : List Char) : Prop :=
  ∀ c ∈ rest.head?, c.isDigit = false ∧ c ≠ '.' ∧ c ≠ 'e' ∧ c ≠ 'E'

theorem splitDigits_append {run rest : List Char} (digits : ∀ c ∈ run, c.isDigit = true)
    (ends : ∀ c ∈ rest.head?, c.isDigit = false) : splitDigits (run ++ rest) = (run, rest) := by
  have none : rest.takeWhile Char.isDigit = [] ∧ rest.dropWhile Char.isDigit = rest := by
    cases rest with
    | nil => exact ⟨rfl, rfl⟩
    | cons c later => simp [ends c rfl]
  rw [splitDigits, List.takeWhile_append_of_pos digits, List.dropWhile_append_of_pos digits,
    none.1, none.2, List.append_nil]

/-- The digits of a number do not begin with a zero, unless they are one. -/
theorem head?_digits {n : Nat} (long : 1 < (Text.digits n).length) :
    (Text.digits n).head? ≠ some '0' := by
  intro zero
  obtain ⟨later, digits⟩ : ∃ later, Text.digits n = '0' :: later := by
    cases digits : Text.digits n <;> simp_all
  rw [digits, List.length_cons] at long
  have below : Text.value later < 10 ^ later.length := Text.value_lt fun c member =>
    Text.isDigit_of_mem_digits (digits ▸ List.mem_cons_of_mem _ member)
  have value : 10 ^ later.length * Text.digit '0' + Text.value later = n := by
    rw [← Text.value_cons, ← digits, Text.value_digits]
  -- A number below a power of ten has no more digits than the power has zeros.
  have short : (Text.digits n).length ≤ later.length := by
    refine (Nat.length_toDigits_le_iff (by decide) (by omega)).mpr ?_
    rw [← value]
    simpa [Text.digit] using below
  rw [digits, List.length_cons] at short
  omega

/-- A number is read part by part: its sign, its digits, and an exponent. -/
theorem readNumber_digits (negative : Bool) (n : Nat) {tail rest : List Char}
    {exponent : Option Int} (ends : ∀ c ∈ tail.head?, c.isDigit = false ∧ c ≠ '.')
    (read : readExponent tail = some (exponent, rest)) :
    readNumber ((if negative then ['-'] else []) ++ (Text.digits n ++ tail)) =
      some (if exponent.isNone && !(negative && n == 0) then
        .integer (if negative then -(n : Int) else n) else
        .decimal negative n (exponent.getD 0), rest) := by
  have digits : ∀ c ∈ Text.digits n, c.isDigit = true := fun _ => Text.isDigit_of_mem_digits
  have parts := splitDigits_append digits fun c first => (ends c first).1
  have nonempty : Text.digits n ≠ [] := Nat.toDigits_ne_nil
  have start : ((Text.digits n).isEmpty ||
      decide (1 < (Text.digits n).length) && (Text.digits n).head? == some '0') = false := by
    simpa [nonempty] using head?_digits
  have fraction : readFraction tail = some ([], tail) := by
    unfold readFraction
    split
    · exact absurd rfl (ends '.' rfl).2
    · rfl
  cases negative with
  | true =>
      simp only [if_true, List.cons_append, List.nil_append, readNumber, parts, start, fraction,
        read, Text.value_digits, List.append_nil, Option.bind_eq_bind, Option.bind_some]
      cases exponent <;> by_cases zero : n = 0 <;> simp [zero]
  | false =>
      generalize unsigned : Text.digits n ++ tail = cs at parts
      simp only [Bool.false_eq_true, if_false, List.nil_append]
      unfold readNumber
      split
      rename_i isNegative magnitude sign
      split at sign
      · rename_i later
        have minus : '-' ∈ Text.digits n := by
          cases written : Text.digits n <;> simp_all
        exact absurd (digits '-' minus) (by decide)
      · cases sign
        simp only [parts, start, fraction, read, Text.value_digits, List.append_nil,
          Option.bind_eq_bind, Option.bind_some]
        cases exponent <;> simp

theorem integer_eq (n : Int) :
    Text.integer n = (if decide (n < 0) then ['-'] else []) ++ Text.digits n.natAbs := by
  unfold Text.integer
  by_cases negative : n < 0 <;> simp [negative]

theorem readSign_append (negative : Bool) {run : List Char} (nonempty : run ≠ [])
    (digits : ∀ c ∈ run, c.isDigit = true) (rest : List Char) :
    readSign ((if negative then ['-'] else []) ++ (run ++ rest)) = (negative, run ++ rest) := by
  cases negative with
  | true => rfl
  | false =>
      obtain ⟨c, later, rfl⟩ := List.exists_cons_of_ne_nil nonempty
      have isDigit := digits c List.mem_cons_self
      simp only [Bool.false_eq_true, if_false, List.nil_append, List.cons_append]
      unfold readSign
      split
      · simp_all
      · simp_all
      · rfl

theorem readExponent_integer (n : Int) {rest : List Char} (stops : Stops rest) :
    readExponent ('e' :: (Text.integer n ++ rest)) = some (some n, rest) := by
  have digits : ∀ c ∈ Text.digits n.natAbs, c.isDigit = true := fun _ => Text.isDigit_of_mem_digits
  have nonempty : Text.digits n.natAbs ≠ [] := Nat.toDigits_ne_nil
  have parts := splitDigits_append digits fun c first => (stops c first).1
  have sign := readSign_append (decide (n < 0)) nonempty digits rest
  simp only [readExponent, true_or, if_true, integer_eq, List.append_assoc, sign, parts]
  rw [if_neg (by simpa using nonempty), Text.value_digits]
  by_cases negative : n < 0
  · simp [negative, abs_of_neg]
  · have size : (n.natAbs : Int) = n := by omega
    simp [negative, size]

/-- A written number is read back, if what follows does not belong to it. -/
theorem readNumber_writeNumber (number : Number) {rest : List Char} (stops : Stops rest) :
    readNumber (writeNumber number ++ rest) = some (number, rest) := by
  cases number with
  | integer n =>
      have read : readExponent rest = some (none, rest) := by
        cases rest with
        | nil => rfl
        | cons c later =>
            obtain ⟨_, _, small, large⟩ := stops c rfl
            simp [readExponent, small, large]
      rw [writeNumber, integer_eq, List.append_assoc,
        readNumber_digits _ _ (fun c first => ⟨(stops c first).1, (stops c first).2.1⟩) read]
      by_cases negative : n < 0
      · have nonzero : n ≠ 0 := by omega
        simp [negative, nonzero, abs_of_neg]
      · have size : (n.natAbs : Int) = n := by omega
        simp [negative, size]
  | decimal negative digits exponent =>
      have ends : ∀ c ∈ ('e' :: (Text.integer exponent ++ rest)).head?,
          c.isDigit = false ∧ c ≠ '.' := by
        rintro c ⟨⟩
        exact ⟨rfl, by decide⟩
      have read := readNumber_digits negative digits ends (readExponent_integer exponent stops)
      simpa [writeNumber] using read

end ActivityLedger.Json
