import ActivityLedger.Calendar.Reading
import ActivityLedger.Proofs.DigitOrder

/-!
# Dates as texts

A date is read back from its own text, whatever its year, where blanks are allowed
and where they are not.  The text is made of digits, hyphens and a plus sign.
-/

namespace ActivityLedger

namespace Text

theorem isBlank_of_isDigit {c : Char} (isDigit : c.isDigit = true) : isBlank c = false := by
  have code := toNat_eq_of_isDigit isDigit
  simp [isBlank, inRanges, blankRanges]
  omega

theorem trimLeft_cons {c : Char} {rest : List Char} (dark : isBlank c = false) :
    trimLeft (c :: rest) = c :: rest := by
  simp [trimLeft, List.dropWhile, dark]

theorem trimLeft_append {run rest : List Char} (nonempty : run ≠ [])
    (digits : ∀ c ∈ run, c.isDigit = true) : trimLeft (run ++ rest) = run ++ rest := by
  cases run with
  | nil => exact absurd rfl nonempty
  | cons c later => exact trimLeft_cons (isBlank_of_isDigit (digits c List.mem_cons_self))

theorem padded_ne_nil {width n : Nat} : padded width n ≠ [] := by
  intro nothing
  have digitsNil : digits n = [] := by
    have parts := List.append_eq_nil_iff.mp nothing
    exact parts.2
  exact absurd digitsNil Nat.toDigits_ne_nil

end Text

namespace Date

/-- What follows a run of digits: nothing, or a hyphen. -/
def Ends (rest : List Char) : Prop := ∀ c ∈ rest.head?, c = '-'

theorem readDigits_append {limit : Nat} {run rest : List Char} (nonempty : run ≠ [])
    (digits : ∀ c ∈ run, c.isDigit = true) (within : run.length ≤ limit) (ends : Ends rest) :
    readDigits limit (run ++ rest) = .ok (Text.value run, rest) := by
  have taken : ((run ++ rest).take limit).takeWhile Char.isDigit = run := by
    rw [List.take_append, List.take_of_length_le within, List.takeWhile_append_of_pos digits]
    cases rest with
    | nil => simp
    | cons c later =>
        have hyphen : c = '-' := ends c rfl
        subst hyphen
        cases limit - run.length <;> simp
  cases run with
  | nil => exact absurd rfl nonempty
  | cons c later =>
      have first := digits c List.mem_cons_self
      rw [List.cons_append] at taken ⊢
      simp only [readDigits, if_pos first, taken]
      rw [← List.cons_append, List.drop_left]

theorem readPart_padded {limit n : Nat} {rest : List Char} (positive : 1 ≤ n) (within : n ≤ limit)
    (short : n < 100) (ends : Ends rest) :
    readPart limit (Text.padded 2 n ++ rest) = .ok (n, rest) := by
  have digits : ∀ c ∈ Text.padded 2 n, c.isDigit = true := fun _ => Text.isDigit_of_mem_padded
  have length : (Text.padded 2 n).length = 2 := Text.length_padded (by decide) short
  rw [readPart, Text.trimLeft_append Text.padded_ne_nil digits,
    readDigits_append Text.padded_ne_nil digits (by omega) ends, Text.value_padded]
  exact if_pos ⟨positive, within⟩

theorem readYear_yearText {year : Int} {rest : List Char} (lower : Calendar.firstYear ≤ year)
    (upper : year ≤ Calendar.lastYear) (ends : Ends rest) :
    readYear (yearText year ++ rest) = .ok (year, rest) := by
  have digits (n : Nat) : ∀ c ∈ Text.padded 4 n, c.isDigit = true :=
    fun _ => Text.isDigit_of_mem_padded
  have inRange : -2147483648 ≤ year ∧ year ≤ 2147483647 := by
    unfold Calendar.firstYear at lower
    unfold Calendar.lastYear at upper
    omega
  -- What follows a sign is read to its end.
  have signed : readDigits (Text.padded 4 year.natAbs ++ rest).length
      (Text.padded 4 year.natAbs ++ rest) = .ok (year.natAbs, rest) := by
    rw [readDigits_append Text.padded_ne_nil (digits _) (by simp) ends, Text.value_padded]
  by_cases plain : 0 ≤ year ∧ year ≤ 9999
  · have length : (Text.padded 4 year.toNat).length = 4 :=
      Text.length_padded (by decide) (by omega : year.toNat < 10000)
    have read : readDigits 4 (Text.padded 4 year.toNat ++ rest) = .ok (year.toNat, rest) := by
      rw [readDigits_append Text.padded_ne_nil (digits _) (by omega) ends, Text.value_padded]
    have trimmed : Text.trimLeft (Text.padded 4 year.toNat ++ rest) =
        Text.padded 4 year.toNat ++ rest :=
      Text.trimLeft_append Text.padded_ne_nil (digits _)
    have number : (year.toNat : Int) = year := by omega
    rw [yearText, if_pos plain, readYear, trimmed]
    cases written : Text.padded 4 year.toNat with
    | nil => exact absurd written Text.padded_ne_nil
    | cons c later =>
        have isDigit : c.isDigit = true := digits year.toNat c (by simp [written])
        rw [written] at read
        rw [List.cons_append] at read ⊢
        split
        · rename_i same
          cases same
          exact absurd isDigit (by decide)
        · rename_i same
          cases same
          exact absurd isDigit (by decide)
        · simp only [read, Except.map, bind, Except.bind, number, if_pos inRange]
  · rw [yearText, if_neg plain]
    by_cases negative : year < 0
    · have number : -(year.natAbs : Int) = year := by omega
      rw [if_pos negative, List.cons_append, readYear, Text.trimLeft_cons (by decide)]
      simp only [signed, Except.map, bind, Except.bind, number, if_pos inRange]
    · have number : (year.natAbs : Int) = year := by omega
      rw [if_neg negative, List.cons_append, readYear, Text.trimLeft_cons (by decide)]
      simp only [signed, Except.map, bind, Except.bind, number, if_pos inRange]

/-- A date is read back from its text, whether blanks are allowed or not. -/
theorem read_text (loose : Bool) (date : Date) : read loose date.text.toList = .ok date := by
  have month := date.month_le
  have day := Nat.le_trans date.day_le (Calendar.monthLength_le _ _)
  have hyphen (rest : List Char) : Ends ('-' :: rest) := by
    rintro c ⟨⟩
    rfl
  have dark (rest : List Char) : Text.trimLeft ('-' :: rest) = '-' :: rest :=
    Text.trimLeft_cons (by decide)
  have nothing : Text.trimLeft [] = [] := rfl
  have written : date.text.toList =
      yearText date.year ++ ('-' :: (Text.padded 2 date.month ++ ('-' :: (Text.padded 2 date.day ++
        [])))) := by
    simp [text]
  have year := readYear_yearText date.firstYear_le date.le_lastYear
    (hyphen (Text.padded 2 date.month ++ ('-' :: (Text.padded 2 date.day ++ []))))
  have inYear := readPart_padded date.one_le_month month (by omega)
    (hyphen (Text.padded 2 date.day ++ []))
  have inMonth : readPart 31 (Text.padded 2 date.day ++ []) = .ok (date.day, []) :=
    readPart_padded date.one_le_day day (by omega) nofun
  have parts : ofParts? date.year date.month date.day = some date :=
    ofParts?_eq_some_iff.mpr ⟨rfl, rfl, rfl⟩
  rw [written]
  simp only [read, year, inYear, inMonth, readHyphen, bind, Except.bind, parts, dark, nothing,
    ite_self, List.isEmpty_nil, if_true]

theorem ofStored_text (date : Date) : ofStored date.text = .ok date := read_text false date

theorem ofText?_text (date : Date) : ofText? date.text = some date := by
  rw [ofText?, read_text]
  rfl

/-- The text of a date has no character of code zero. -/
theorem zero_notMem_text (date : Date) : '\x00' ∉ date.text.toList := by
  have digits (width n : Nat) : '\x00' ∉ Text.padded width n := fun member =>
    absurd (Text.isDigit_of_mem_padded member) (by decide)
  have year : '\x00' ∉ yearText date.year := by
    unfold yearText
    split
    · exact digits _ _
    · split <;> simp [digits]
  simp [text, year, digits]

end Date

end ActivityLedger
