import ActivityLedger.Proofs.Keys
import ActivityLedger.Proofs.StoredDates

/-!
# Compact dates and the ends of ids

A key's id is the entity and the compact form of its period, and reading that form gives the
first day of the period.  A text is read exactly if it is four digits of a month or six of
a day between any blanks, and then it is what the key of the date that is read ends with.
Reading measures bytes and cuts at bytes, and it never cuts inside a character.
-/

namespace ActivityLedger

namespace Text

/-! ## Bytes of digits -/

def isDigitByte (byte : UInt8) : Bool := 48 ≤ byte && byte ≤ 57

theorem isDigitByte_ofNat_iff {code : Nat} (small : code < 256) :
    isDigitByte (UInt8.ofNat code) = true ↔ 48 ≤ code ∧ code ≤ 57 := by
  simp only [isDigitByte, Bool.and_eq_true, decide_eq_true_eq, UInt8.le_iff_toNat_le,
    UInt8.toNat_ofNat']
  rw [Nat.mod_eq_of_lt small]
  rfl

theorem isDigit_iff {c : Char} : c.isDigit = true ↔ 48 ≤ c.toNat ∧ c.toNat ≤ 57 := by
  rw [Char.isDigit, Bool.and_eq_true, decide_eq_true_eq, decide_eq_true_eq]
  exact Iff.rfl

theorem all_utf8EncodeChar (c : Char) :
    (String.utf8EncodeChar c).all isDigitByte = c.isDigit := by
  have code : c.val.toNat = c.toNat := rfl
  -- A character of two bytes or more starts with a byte above those of digits.
  have longer {first : Nat} {rest : List UInt8} (high : 128 ≤ first) (small : first < 256)
      (large : 127 < c.toNat) :
      (UInt8.ofNat first :: rest).all isDigitByte = true ↔ 48 ≤ c.toNat ∧ c.toNat ≤ 57 := by
    rw [List.all_cons, Bool.and_eq_true, isDigitByte_ofNat_iff small]
    constructor
    · rintro ⟨inside, _⟩
      omega
    · omega
  rw [Bool.eq_iff_iff, isDigit_iff]
  simp only [String.utf8EncodeChar]
  split
  · rw [List.all_cons, List.all_nil, Bool.and_true, isDigitByte_ofNat_iff (by omega)]
    rfl
  · split
    · exact longer (by omega) (by omega) (by omega)
    · split
      · exact longer (by omega) (by omega) (by omega)
      · exact longer (by omega) (by omega) (by omega)

theorem all_bytes (cs : List Char) :
    (bytes (String.ofList cs)).all isDigitByte = cs.all Char.isDigit := by
  rw [bytes_ofList, List.all_flatMap]
  simp only [all_utf8EncodeChar]

theorem length_bytes {cs : List Char} (digits : ∀ c ∈ cs, c.isDigit = true) :
    (bytes (String.ofList cs)).length = cs.length := by
  rw [bytes_ofList]
  induction cs with
  | nil => rfl
  | cons c rest ih =>
      obtain ⟨first, others⟩ := List.forall_mem_cons.mp digits
      rw [List.flatMap_cons, List.length_append, utf8EncodeChar_of_isDigit first, ih others]
      simp [Nat.add_comm]

/-! ## Cuts -/

/-- A text cut after a number of bytes, if that is an end of a character. -/
def cut? : Nat → List Char → Option (List Char × List Char)
  | 0, cs => some ([], cs)
  | _ + 1, [] => none
  | size + 1, c :: cs =>
      if c.utf8Size ≤ size + 1 then
        (cut? (size + 1 - c.utf8Size) cs).map fun parts => (c :: parts.1, parts.2)
      else none
termination_by structural _ cs => cs

/-- The part of a text between two numbers of bytes, if both are ends of characters. -/
def slice? (first last : Nat) (cs : List Char) : Option (List Char) :=
  (cut? last cs).bind fun outer => (cut? first outer.1).map Prod.snd

theorem utf8Size_of_isDigit {c : Char} (isDigit : c.isDigit = true) : c.utf8Size = 1 := by
  rw [← String.length_utf8EncodeChar, utf8EncodeChar_of_isDigit isDigit]
  rfl

theorem cut?_of_digits {cs : List Char} (digits : ∀ c ∈ cs, c.isDigit = true) {size : Nat}
    (inside : size ≤ cs.length) : cut? size cs = some (cs.take size, cs.drop size) := by
  induction cs generalizing size with
  | nil =>
      cases Nat.le_zero.mp inside
      rfl
  | cons c rest ih =>
      obtain ⟨first, others⟩ := List.forall_mem_cons.mp digits
      cases size with
      | zero => rfl
      | succ size =>
          have later : size ≤ rest.length := Nat.le_of_succ_le_succ inside
          rw [cut?, utf8Size_of_isDigit first, if_pos (Nat.le_add_left 1 size),
            Nat.add_sub_cancel, ih others later]
          rfl

/-- Digits may be cut anywhere. -/
theorem slice?_of_digits {cs : List Char} (digits : ∀ c ∈ cs, c.isDigit = true) {first last : Nat}
    (order : first ≤ last) (inside : last ≤ cs.length) :
    slice? first last cs = some ((cs.take last).drop first) := by
  have front : ∀ c ∈ cs.take last, c.isDigit = true :=
    fun c member => digits c (List.mem_of_mem_take member)
  have within : first ≤ (cs.take last).length := by
    rw [List.length_take]
    omega
  rw [slice?, cut?_of_digits digits inside, Option.bind_some, cut?_of_digits front within]
  rfl

/-- Digits are their own value, written at their own width. -/
theorem padded_value_of_length {cs : List Char} {width : Nat} (length : cs.length = width + 1)
    (digits : ∀ c ∈ cs, c.isDigit = true) : padded (width + 1) (value cs) = cs := by
  have fits : value cs < 10 ^ (width + 1) := length ▸ value_lt digits
  exact eq_of_value_eq ((length_padded (Nat.succ_pos width) fits).trans length.symm)
    (fun _ => isDigit_of_mem_padded) digits (value_padded (width + 1) (value cs))

end Text

namespace Date

/-! ## Reading by bytes -/

/-- The date whose parts are cut out between bytes of a text of some size, a month standing for
its first day.  There is no answer if a cut falls inside a character. -/
def ofSlices? (size : Nat) (cs : List Char) : Option (Option Date) :=
  (Text.slice? 0 2 cs).bind fun year =>
  (Text.slice? 2 4 cs).bind fun month =>
  (if size = 6 then (Text.slice? 4 6 cs).map Text.value else some 1).map fun day =>
    ofParts? (firstCompactYear + Text.value year) (Text.value month) day

/-- The date that a compact form between blanks stands for, found by counting bytes and cutting
between them.  There is no answer if a cut falls inside a character. -/
def ofCompactByBytes? (text : String) : Option (Except Error Date) :=
  let trimmed := Text.trim text.toList
  let bytes := Text.bytes (String.ofList trimmed)
  if (bytes.length = 4 ∨ bytes.length = 6) ∧ bytes.all Text.isDigitByte = true then
    (ofSlices? bytes.length trimmed).map fun
      | some date => .ok date
      | none => .error (.request (.absentDate (String.ofList trimmed)))
  else some (.error (.request (.dateShape (String.ofList trimmed))))

/-- Four or six bytes of digits are four or six digits. -/
theorem shape_bytes_iff (cs : List Char) :
    (((Text.bytes (String.ofList cs)).length = 4 ∨ (Text.bytes (String.ofList cs)).length = 6) ∧
        (Text.bytes (String.ofList cs)).all Text.isDigitByte = true) ↔
      (cs.length = 4 ∨ cs.length = 6) ∧ cs.all Char.isDigit = true := by
  rw [Text.all_bytes]
  refine and_congr_left fun digits => ?_
  rw [Text.length_bytes (List.all_eq_true.mp digits)]

theorem ofSlices?_of_digits {cs : List Char} (length : cs.length = 4 ∨ cs.length = 6)
    (digits : ∀ c ∈ cs, c.isDigit = true) : ofSlices? cs.length cs = some (ofDigits? cs) := by
  have year : Text.slice? 0 2 cs = some (cs.take 2) :=
    Text.slice?_of_digits digits (by decide) (by omega)
  have month : Text.slice? 2 4 cs = some ((cs.take 4).drop 2) :=
    Text.slice?_of_digits digits (by decide) (by omega)
  rw [ofSlices?, year, month, Option.bind_some, Option.bind_some]
  match cs, length with
  | [y₁, y₂, m₁, m₂], _ => rfl
  | [y₁, y₂, m₁, m₂, d₁, d₂], _ =>
      have six : [y₁, y₂, m₁, m₂, d₁, d₂].length = 6 := rfl
      rw [if_pos six, Text.slice?_of_digits digits (by decide) (Nat.le_refl 6)]
      rfl

/-- Cutting between bytes never falls inside a character, and finds the same dates. -/
theorem ofCompactByBytes?_eq (text : String) :
    ofCompactByBytes? text = some (ofCompact text) := by
  unfold ofCompactByBytes? ofCompact
  generalize Text.trim text.toList = trimmed
  dsimp only
  by_cases shape : (trimmed.length = 4 ∨ trimmed.length = 6) ∧ trimmed.all Char.isDigit = true
  · have digits := List.all_eq_true.mp shape.2
    rw [if_pos ((shape_bytes_iff trimmed).mpr shape), if_pos shape, Text.length_bytes digits,
      ofSlices?_of_digits shape.1 digits]
    cases ofDigits? trimmed <;> rfl
  · rw [if_neg (mt (shape_bytes_iff trimmed).mp shape), if_neg shape]

/-! ## What digits name -/

/-- Digits that name a day of the century, a month standing for its first day. -/
inductive NamedBy : List Char → Date → Prop where
  | month {cs : List Char} {date : Date} (digits : ∀ c ∈ cs, c.isDigit = true)
      (four : cs.length = 4)
      (year : date.year = firstCompactYear + Text.value (cs.take 2))
      (month : date.month = Text.value (cs.drop 2)) (day : date.day = 1) : NamedBy cs date
  | day {cs : List Char} {date : Date} (digits : ∀ c ∈ cs, c.isDigit = true)
      (six : cs.length = 6)
      (year : date.year = firstCompactYear + Text.value (cs.take 2))
      (month : date.month = Text.value ((cs.drop 2).take 2))
      (day : date.day = Text.value (cs.drop 4)) : NamedBy cs date

theorem namedBy_iff {cs : List Char} {date : Date} :
    NamedBy cs date ↔ ((cs.length = 4 ∨ cs.length = 6) ∧ cs.all Char.isDigit = true) ∧
      ofDigits? cs = some date := by
  constructor
  · intro named
    cases named with
    | month digits four year month day =>
        refine ⟨⟨.inl four, List.all_eq_true.mpr digits⟩, ?_⟩
        match cs, four with
        | [y₁, y₂, m₁, m₂], _ => exact ofParts?_eq_some_iff.mpr ⟨year, month, day⟩
    | day digits six year month day =>
        refine ⟨⟨.inr six, List.all_eq_true.mpr digits⟩, ?_⟩
        match cs, six with
        | [y₁, y₂, m₁, m₂, d₁, d₂], _ => exact ofParts?_eq_some_iff.mpr ⟨year, month, day⟩
  · rintro ⟨⟨length, all⟩, found⟩
    have digits := List.all_eq_true.mp all
    match cs, length with
    | [y₁, y₂, m₁, m₂], _ =>
        obtain ⟨year, month, day⟩ := ofParts?_eq_some_iff.mp found
        exact .month digits rfl year month day
    | [y₁, y₂, m₁, m₂, d₁, d₂], _ =>
        obtain ⟨year, month, day⟩ := ofParts?_eq_some_iff.mp found
        exact .day digits rfl year month day

/-- A text is read as a date exactly if digits between its blanks name the date. -/
theorem ofCompact_eq_ok_iff {text : String} {date : Date} :
    ofCompact text = .ok date ↔ NamedBy (Text.trim text.toList) date := by
  rw [namedBy_iff, ofCompact]
  split
  · rename_i shape
    rw [and_iff_right shape]
    split <;> rename_i found <;> rw [found] <;> simp
  · rename_i shape
    exact ⟨nofun, fun named => absurd named.1 shape⟩

/-! ## What dates are written as -/

theorem hundreds_year {date : Date} (compact : date.HasCompact) :
    date.year = firstCompactYear + ((date.year % 100).toNat : Int) := by
  simp only [HasCompact, firstCompactYear, lastCompactYear] at compact ⊢
  omega

theorem namedBy_compactMonth {date : Date} (compact : date.HasCompact) :
    NamedBy date.compactMonth date.firstOfMonth := by
  have width := Text.length_padded (by decide : 0 < 2) date.yearDigits_lt
  refine .month (fun _ => isDigit_of_mem_compactMonth) date.length_compactMonth ?_ ?_ rfl
  · rw [compactMonth, List.take_left' width, Text.value_padded]
    exact hundreds_year compact
  · rw [compactMonth, List.drop_left' width, Text.value_padded]
    rfl

theorem namedBy_compactDay {date : Date} (compact : date.HasCompact) :
    NamedBy date.compactDay date := by
  have width := Text.length_padded (by decide : 0 < 2) date.yearDigits_lt
  have monthWidth := Text.length_padded (by decide : 0 < 2) date.month_lt
  refine .day (fun _ => isDigit_of_mem_compactDay) date.length_compactDay ?_ ?_ ?_
  · rw [compactDay, compactMonth, List.append_assoc, List.take_left' width, Text.value_padded]
    exact hundreds_year compact
  · rw [compactDay, compactMonth, List.append_assoc, List.drop_left' width,
      List.take_left' monthWidth, Text.value_padded]
  · rw [compactDay, List.drop_left' date.length_compactMonth, Text.value_padded]

/-- The text that a key ends with is read as the first day of its period. -/
theorem namedBy_periodText (kind : TrackerKind) {date : Date} (compact : date.HasCompact) :
    NamedBy (Key.periodText kind date) (Key.periodOf kind date) := by
  unfold Key.periodText Key.periodOf
  split
  · exact namedBy_compactMonth compact
  · exact namedBy_compactDay compact

theorem NamedBy.digits {cs : List Char} {date : Date} (named : NamedBy cs date) :
    ∀ c ∈ cs, c.isDigit = true := by
  cases named with
  | month digits => exact digits
  | day digits => exact digits

theorem NamedBy.year_eq {cs : List Char} {date : Date} (named : NamedBy cs date) :
    date.year = firstCompactYear + Text.value (cs.take 2) := by
  cases named with
  | month _ _ year => exact year
  | day _ _ year => exact year

theorem NamedBy.value_lt {cs : List Char} {date : Date} (named : NamedBy cs date) :
    Text.value (cs.take 2) < 100 := by
  have front : ∀ c ∈ cs.take 2, c.isDigit = true :=
    fun c member => named.digits c (List.mem_of_mem_take member)
  have below := Text.value_lt front
  exact Nat.lt_of_lt_of_le below
    (Nat.pow_le_pow_right (by decide) (List.length_take_le 2 cs))

/-- Every date that digits name lies in the century. -/
theorem NamedBy.hasCompact {cs : List Char} {date : Date} (named : NamedBy cs date) :
    date.HasCompact := by
  have year := named.year_eq
  have below := named.value_lt
  simp only [HasCompact, firstCompactYear, lastCompactYear] at year ⊢
  omega

theorem NamedBy.compactMonth_eq {cs : List Char} {date : Date} (named : NamedBy cs date)
    (month : date.month = Text.value ((cs.drop 2).take 2)) (length : 4 ≤ cs.length) :
    date.compactMonth = cs.take 4 := by
  have year : (date.year % 100).toNat = Text.value (cs.take 2) := by
    have century := named.year_eq
    have below := named.value_lt
    simp only [firstCompactYear] at century
    omega
  rw [compactMonth, year, month,
    Text.padded_value_of_length (by simp; omega)
      fun c member => named.digits c (List.mem_of_mem_take member),
    Text.padded_value_of_length (by simp; omega)
      fun c member => named.digits c (List.mem_of_mem_drop (List.mem_of_mem_take member))]
  show _ = cs.take (2 + 2)
  exact List.take_add.symm

theorem NamedBy.periodText_eq {cs : List Char} {date : Date} (named : NamedBy cs date)
    {kind : TrackerKind} (width : kind.isMonthly = decide (cs.length = 4)) :
    Key.periodText kind date = cs ∧ Key.periodOf kind date = date := by
  cases named with
  | month digits four year month day =>
      have named : NamedBy cs date := .month digits four year month day
      have front : (cs.drop 2).take 2 = cs.drop 2 := List.take_of_length_le (by simp [four])
      have monthly : kind.isMonthly = true := by rw [width, four]; rfl
      rw [Key.periodText, Key.periodOf, if_pos monthly, if_pos monthly,
        named.compactMonth_eq (by rw [front]; exact month) (Nat.le_of_eq four.symm),
        List.take_of_length_le (Nat.le_of_eq four)]
      exact ⟨rfl, Date.ext rfl rfl day.symm⟩
  | day digits six year month day =>
      have named : NamedBy cs date := .day digits six year month day
      have daily : ¬ kind.isMonthly = true := by rw [width, six]; decide
      rw [Key.periodText, Key.periodOf, if_neg daily, if_neg daily, compactDay,
        named.compactMonth_eq month (by omega), day,
        Text.padded_value_of_length (by simp [six])
          fun c member => digits c (List.mem_of_mem_drop member)]
      exact ⟨List.take_append_drop 4 cs, rfl⟩

end Date

/-! ## Both ways -/

/-- For an entity with a name and a date of the century there is a key whose id goes on after
the entity with a text that is read as the first day of the period. -/
def Key.EndsWithPeriod (kind : TrackerKind) (entityId : String) (date : Date) : Prop :=
  entityId ≠ "" → date.HasCompact →
    ∃ key ending, Key.build kind entityId date = .ok key ∧ key.id = entityId ++ ending ∧
      Date.ofCompact ending = .ok key.periodStart

/-- A text is read without a cut inside a character, exactly if its digits name a date, and
then it is, blanks aside, the end of the ids of the date's keys at its width. -/
structure Date.ReadExactly (text : String) : Prop where
  whole : ofCompactByBytes? text = some (ofCompact text)
  named : ∀ date, ofCompact text = .ok date ↔ NamedBy (Text.trim text.toList) date
  written : ∀ date kind entityId, ofCompact text = .ok date → entityId ≠ "" →
    ∃ key, Key.build kind entityId date = .ok key ∧
      (kind.isMonthly = decide ((Text.trim text.toList).length = 4) →
        key.id = entityId ++ String.ofList (Text.trim text.toList) ∧ key.periodStart = date)

theorem Key.id_of (kind : TrackerKind) (entityId : String) (date : Date) :
    (Key.of kind entityId date).id = entityId ++ String.ofList (periodText kind date) := by
  show idText kind entityId date = _
  rw [idText, String.ofList_append, String.ofList_toList]

theorem Key.trim_periodText (kind : TrackerKind) (date : Date) :
    Text.trim (periodText kind date) = periodText kind date :=
  Text.trim_eq_self
    (fun _ member => Text.isBlank_of_isDigit
      (isDigit_of_mem_periodText (List.mem_of_mem_head? member)))
    (fun _ member => Text.isBlank_of_isDigit
      (isDigit_of_mem_periodText (List.mem_of_mem_getLast? member)))

/-- What keys end with is read as their periods, and what is read as a date is what keys of the
date end with. -/
theorem Key.compactDates_inverse :
    (∀ kind entityId date, Key.EndsWithPeriod kind entityId date) ∧
      ∀ text, Date.ReadExactly text := by
  constructor
  · intro kind entityId date present compact
    refine ⟨Key.of kind entityId date, String.ofList (periodText kind date),
      build_eq_ok_iff.mpr ⟨⟨present, compact⟩, rfl⟩, id_of kind entityId date, ?_⟩
    rw [Date.ofCompact_eq_ok_iff, String.toList_ofList, trim_periodText]
    exact Date.namedBy_periodText kind compact
  · intro text
    refine ⟨Date.ofCompactByBytes?_eq text, fun date => Date.ofCompact_eq_ok_iff, ?_⟩
    intro date kind entityId read present
    have named := Date.ofCompact_eq_ok_iff.mp read
    refine ⟨Key.of kind entityId date, build_eq_ok_iff.mpr ⟨⟨present, named.hasCompact⟩, rfl⟩, ?_⟩
    intro width
    obtain ⟨written, start⟩ := named.periodText_eq width
    rw [id_of, written]
    exact ⟨rfl, start⟩

end ActivityLedger
