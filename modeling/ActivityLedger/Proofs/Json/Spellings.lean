import ActivityLedger.Proofs.Json.Scalars
import Mathlib.Data.List.DropRight

/-!
# Spellings of JSON values

A value may be spelled with or without blanks between its parts.  Every spelling is read
as the value that it spells, and nothing of what follows it is taken.
-/

namespace ActivityLedger.Json

/-! ## Blanks -/

def Blank (cs : List Char) : Prop := ∀ c ∈ cs, c = ' ' ∨ c = '\n' ∨ c = '\t' ∨ c = '\r'

theorem blank_nil : Blank [] := fun _ member => absurd member List.not_mem_nil

theorem blank_newLine (level : Nat) : Blank (newLine level) := by
  intro c member
  rcases List.mem_cons.mp member with rfl | space
  · exact Or.inr (Or.inl rfl)
  · exact Or.inl (List.eq_of_mem_replicate space)

theorem skipBlanks_append {gap : List Char} (blank : Blank gap) (rest : List Char) :
    skipBlanks (gap ++ rest) = skipBlanks rest :=
  List.dropWhile_append_of_pos fun c member => by simpa [or_assoc] using blank c member

theorem skipBlanks_cons {c : Char} (dark : ¬ Blank [c]) (rest : List Char) :
    skipBlanks (c :: rest) = c :: rest := by
  have skipped : ¬ (c = ' ' ∨ c = '\n' ∨ c = '\t' ∨ c = '\r') := by simpa [Blank] using dark
  exact List.dropWhile_cons_of_neg (by simpa [and_assoc] using skipped)

/-- Blanks in front of a value change nothing. -/
theorem readValue_skipBlanks (steps : Nat) (cs : List Char) :
    readValue steps (skipBlanks cs) = readValue steps cs := by
  have again : skipBlanks (skipBlanks cs) = skipBlanks cs :=
    List.dropWhile_idempotent _ cs
  cases steps <;> simp only [readValue, again]

theorem readItems_skipBlanks (steps : Nat) (cs : List Char) :
    readItems steps (skipBlanks cs) = readItems steps cs := by
  cases steps <;> simp only [readItems, readValue_skipBlanks]

theorem readMembers_skipBlanks (steps : Nat) (cs : List Char) :
    readMembers steps (skipBlanks cs) = readMembers steps cs := by
  have again : skipBlanks (skipBlanks cs) = skipBlanks cs :=
    List.dropWhile_idempotent _ cs
  cases steps <;> simp only [readMembers, again]

/-! ## Spellings -/

/-- What can be spelled: a value, or what follows an opening bracket, up to its closing one. -/
inductive Part where
  | value (value : Value)
  | items (items : List Value)
  | members (members : List (String × Value))

inductive Spells : Part → List Char → Prop where
  | gap {part : Part} {gap cs : List Char} (blank : Blank gap) (inner : Spells part cs) :
      Spells part (gap ++ cs)
  | null : Spells (.value .null) ['n', 'u', 'l', 'l']
  | yes : Spells (.value (.bool true)) ['t', 'r', 'u', 'e']
  | no : Spells (.value (.bool false)) ['f', 'a', 'l', 's', 'e']
  | number (number : Number) : Spells (.value (.number number)) (writeNumber number)
  | text (s : String) : Spells (.value (.text s)) (writeText s)
  | emptyList {gap : List Char} (blank : Blank gap) :
      Spells (.value (.list [])) ('[' :: (gap ++ [']']))
  | list {items : List Value} {cs : List Char} (inner : Spells (.items items) cs) :
      Spells (.value (.list items)) ('[' :: cs)
  | lastItem {item : Value} {cs gap : List Char} (only : Spells (.value item) cs)
      (blank : Blank gap) : Spells (.items [item]) (cs ++ (gap ++ [']']))
  | nextItem {item : Value} {items : List Value} {cs gap later : List Char}
      (first : Spells (.value item) cs) (blank : Blank gap) (others : Spells (.items items) later) :
      Spells (.items (item :: items)) (cs ++ (gap ++ ',' :: later))
  | emptyObject {gap : List Char} (blank : Blank gap) :
      Spells (.value (.object [])) ('\x7b' :: (gap ++ ['\x7d']))
  | object {members : List (String × Value)} {cs : List Char}
      (inner : Spells (.members members) cs) : Spells (.value (.object members)) ('\x7b' :: cs)
  | lastMember (name : String) {value : Value} {before cs gap : List Char} (colon : Blank before)
      (only : Spells (.value value) cs) (blank : Blank gap) :
      Spells (.members [(name, value)])
        (writeText name ++ (before ++ ':' :: (cs ++ (gap ++ ['\x7d']))))
  | nextMember (name : String) {value : Value} {members : List (String × Value)}
      {before cs gap later : List Char} (colon : Blank before) (first : Spells (.value value) cs)
      (blank : Blank gap) (others : Spells (.members members) later) :
      Spells (.members ((name, value) :: members))
        (writeText name ++ (before ++ ':' :: (cs ++ (gap ++ ',' :: later))))

/-! ## Reading -/

/-- The part is read from the text, and the rest is left. -/
def Reads (steps : Nat) (rest : List Char) : Part → List Char → Prop
  | .value value, cs => Stops rest → readValue steps (cs ++ rest) = some (value, rest)
  | .items items, cs => readItems steps (cs ++ rest) = some (items, rest)
  | .members members, cs =>
      readMembers steps (cs ++ rest) =
        some (members.map fun member => (some member.1, member.2), rest)

theorem exists_writeNumber (number : Number) :
    ∃ c later, writeNumber number = c :: later ∧ (c = '-' ∨ c.isDigit = true) := by
  have begins (negative : Bool) (n : Nat) (later : List Char) :
      ∃ c after, (if negative then ['-'] else []) ++ (Text.digits n ++ later) = c :: after ∧
        (c = '-' ∨ c.isDigit = true) := by
    have nonempty : Text.digits n ≠ [] := Nat.toDigits_ne_nil
    obtain ⟨c, digits, written⟩ := List.exists_cons_of_ne_nil nonempty
    have isDigit : c.isDigit = true := Text.isDigit_of_mem_digits (n := n) (by simp [written])
    cases negative with
    | true => exact ⟨_, _, rfl, Or.inl rfl⟩
    | false => exact ⟨c, digits ++ later, by rw [written]; rfl, Or.inr isDigit⟩
  cases number with
  | integer n =>
      have here := begins (decide (n < 0)) n.natAbs []
      rwa [List.append_nil, ← integer_eq] at here
  | decimal negative digits exponent =>
      have here := begins negative digits ('e' :: Text.integer exponent)
      simpa [writeNumber] using here

theorem skipBlanks_writeNumber (number : Number) (rest : List Char) :
    skipBlanks (writeNumber number ++ rest) = writeNumber number ++ rest := by
  obtain ⟨c, later, written, first⟩ := exists_writeNumber number
  rw [written, List.cons_append]
  refine skipBlanks_cons ?_ (later ++ rest)
  intro blank
  rcases blank c List.mem_cons_self with rfl | rfl | rfl | rfl <;> exact absurd first (by decide)

/-- After the blanks a spelling has a character that closes nothing. -/
theorem Spells.opens {part : Part} {cs : List Char} (spelled : Spells part cs) :
    ∃ c later, (∀ rest, skipBlanks (cs ++ rest) = c :: (later ++ rest)) ∧ c ≠ ']' ∧ c ≠ '\x7d' := by
  induction spelled with
  | gap blank inner ih =>
      obtain ⟨c, later, first, opening⟩ := ih
      refine ⟨c, later, fun rest => ?_, opening⟩
      rw [List.append_assoc, skipBlanks_append blank, first]
  | number number =>
      obtain ⟨c, later, written, first⟩ := exists_writeNumber number
      refine ⟨c, later, fun rest => by rw [skipBlanks_writeNumber, written]; rfl, ?_, ?_⟩
      · rintro rfl
        exact absurd first (by decide)
      · rintro rfl
        exact absurd first (by decide)
  | @lastItem item cs gap only blank ih =>
      obtain ⟨c, later, first, opening⟩ := ih
      refine ⟨c, later ++ (gap ++ [']']), fun rest => ?_, opening⟩
      simp only [List.append_assoc, first]
  | @nextItem item items cs gap next only blank others ih =>
      obtain ⟨c, later, first, opening⟩ := ih
      refine ⟨c, later ++ (gap ++ ',' :: next), fun rest => ?_, opening⟩
      simp only [List.append_assoc, first]
  | _ => exact ⟨_, _, fun _ => rfl, by decide, by decide⟩

section

variable {steps : Nat} {cs later tail rest : List Char}

theorem readValue_writeNumber (number : Number) (stops : Stops rest) :
    readValue (steps + 1) (writeNumber number ++ rest) = some (.number number, rest) := by
  obtain ⟨c, later, written, first⟩ := exists_writeNumber number
  have read := readNumber_writeNumber number stops
  have dark := skipBlanks_writeNumber number rest
  rw [written, List.cons_append] at read dark ⊢
  simp only [readValue, dark]
  split
  case h_7 => simp [read]
  all_goals
    rename_i same
    rw [(List.cons.inj same).1] at first
    exact absurd first (by decide)

theorem readValue_writeText (s : String) :
    readValue (steps + 1) (writeText s ++ rest) = some (.text s, rest) := by
  obtain ⟨later, written, read⟩ := readText_writeText s rest
  rw [written]
  simp [readValue, skipBlanks, read]

theorem readValue_emptyList (closed : skipBlanks cs = ']' :: rest) :
    readValue (steps + 1) ('[' :: cs) = some (.list [], rest) := by
  have opening : skipBlanks ('[' :: cs) = '[' :: cs := rfl
  simp only [readValue, opening, closed]

theorem readValue_list {c : Char} {items : List Value} (opened : skipBlanks cs = c :: later)
    (other : c ≠ ']') (read : readItems steps cs = some (items, rest)) :
    readValue (steps + 1) ('[' :: cs) = some (.list items, rest) := by
  have opening : skipBlanks ('[' :: cs) = '[' :: cs := rfl
  rw [← readItems_skipBlanks, opened] at read
  simp only [readValue, opening, opened]
  split
  · simp_all
  · simp [read]

theorem readItems_last {item : Value} (read : readValue steps cs = some (item, tail))
    (closed : skipBlanks tail = ']' :: rest) :
    readItems (steps + 1) cs = some ([item], rest) := by
  simp [readItems, read, closed]

theorem readItems_next {item : Value} {items : List Value}
    (read : readValue steps cs = some (item, tail)) (comma : skipBlanks tail = ',' :: later)
    (others : readItems steps later = some (items, rest)) :
    readItems (steps + 1) cs = some (item :: items, rest) := by
  simp [readItems, read, comma, others]

theorem readValue_emptyObject (closed : skipBlanks cs = '\x7d' :: rest) :
    readValue (steps + 1) ('\x7b' :: cs) = some (.object [], rest) := by
  have opening : skipBlanks ('\x7b' :: cs) = '\x7b' :: cs := rfl
  simp only [readValue, opening, closed]

theorem object_some (members : List (String × Value)) :
    object (members.map fun member => (some member.1, member.2)) = .object members := by
  have named : ((members.map fun member => (some member.1, member.2)).mapM fun member =>
      member.1.map fun name => (name, member.2)) = some members := by
    induction members with
    | nil => rfl
    | cons member rest ih => simp_all
  rw [object, named]

theorem readValue_object {c : Char} {members : List (String × Value)}
    (opened : skipBlanks cs = c :: later) (other : c ≠ '\x7d')
    (read : readMembers steps cs =
      some (members.map fun member => (some member.1, member.2), rest)) :
    readValue (steps + 1) ('\x7b' :: cs) = some (.object members, rest) := by
  have opening : skipBlanks ('\x7b' :: cs) = '\x7b' :: cs := rfl
  rw [← readMembers_skipBlanks, opened] at read
  simp only [readValue, opening, opened]
  split
  · simp_all
  · simp [read, object_some]

theorem readMembers_last {value : Value} (name : String) (colon : skipBlanks cs = ':' :: later)
    (read : readValue steps later = some (value, tail))
    (closed : skipBlanks tail = '\x7d' :: rest) :
    readMembers (steps + 1) (writeText name ++ cs) = some ([(some name, value)], rest) := by
  obtain ⟨quoted, written, readName⟩ := readText_writeText name cs
  have opening : skipBlanks ('"' :: quoted) = '"' :: quoted := rfl
  rw [written]
  simp [readMembers, opening, readName, colon, read, closed]

theorem readMembers_next {value : Value} {members : List (Option String × Value)} (name : String)
    {others : List Char} (colon : skipBlanks cs = ':' :: later)
    (read : readValue steps later = some (value, tail)) (comma : skipBlanks tail = ',' :: others)
    (readOthers : readMembers steps others = some (members, rest)) :
    readMembers (steps + 1) (writeText name ++ cs) =
      some ((some name, value) :: members, rest) := by
  obtain ⟨quoted, written, readName⟩ := readText_writeText name cs
  have opening : skipBlanks ('"' :: quoted) = '"' :: quoted := rfl
  rw [written]
  simp [readMembers, opening, readName, colon, read, comma, readOthers]

theorem Reads.gap {part : Part} {gap : List Char} (blank : Blank gap)
    (reads : Reads steps rest part cs) : Reads steps rest part (gap ++ cs) := by
  cases part with
  | value value =>
      intro stops
      rw [List.append_assoc, ← readValue_skipBlanks, skipBlanks_append blank, readValue_skipBlanks]
      exact reads stops
  | items items =>
      rw [Reads, List.append_assoc, ← readItems_skipBlanks, skipBlanks_append blank,
        readItems_skipBlanks]
      exact reads
  | members members =>
      rw [Reads, List.append_assoc, ← readMembers_skipBlanks, skipBlanks_append blank,
        readMembers_skipBlanks]
      exact reads

end

/-- What follows an item or a member does not belong to a number. -/
theorem stops_append {gap : List Char} (blank : Blank gap) {c : Char}
    (closing : c = ',' ∨ c = ']' ∨ c = '\x7d') (rest : List Char) : Stops (gap ++ c :: rest) := by
  intro first here
  cases gap with
  | nil =>
      cases here
      rcases closing with rfl | rfl | rfl <;> decide
  | cons space gap =>
      cases here
      rcases blank first List.mem_cons_self with rfl | rfl | rfl | rfl <;> decide

/-- Every spelling is read as the part that it spells, whatever follows it.  Each step but one in
two takes a character. -/
theorem Spells.reads {part : Part} {cs : List Char} (spelled : Spells part cs) {steps : Nat}
    (enough : 2 * cs.length ≤ steps + 1) (rest : List Char) : Reads (steps + 1) rest part cs := by
  induction spelled generalizing steps rest with
  | @gap part gap cs blank inner ih =>
      rw [List.length_append] at enough
      exact (ih (by omega) rest).gap blank
  | null => exact fun _ => rfl
  | yes => exact fun _ => rfl
  | no => exact fun _ => rfl
  | number number => exact readValue_writeNumber number
  | text s => exact fun _ => readValue_writeText s
  | @emptyList gap blank =>
      intro _
      refine readValue_emptyList ?_
      rw [List.append_eq, List.append_assoc, skipBlanks_append blank]
      rfl
  | @list items cs inner ih =>
      intro _
      rw [List.length_cons] at enough
      obtain ⟨steps, rfl⟩ : ∃ fewer, steps = fewer + 1 := ⟨steps - 1, by omega⟩
      obtain ⟨c, later, first, other, _⟩ := inner.opens
      exact readValue_list (first rest) other (ih (by omega) rest)
  | @lastItem item cs gap only blank ih =>
      simp only [List.length_append, List.length_cons] at enough
      obtain ⟨steps, rfl⟩ : ∃ fewer, steps = fewer + 1 := ⟨steps - 1, by omega⟩
      have stops := stops_append blank (c := ']') (by simp) rest
      have read := @ih steps (by omega) (gap ++ ']' :: rest) stops
      rw [Reads, List.append_assoc, List.append_assoc]
      exact readItems_last read (skipBlanks_append blank _)
  | @nextItem item items cs gap later first blank others firstRead othersRead =>
      simp only [List.length_append, List.length_cons] at enough
      obtain ⟨steps, rfl⟩ : ∃ fewer, steps = fewer + 1 := ⟨steps - 1, by omega⟩
      have stops := stops_append blank (c := ',') (by simp) (later ++ rest)
      have read := @firstRead steps (by omega) (gap ++ ',' :: (later ++ rest)) stops
      rw [Reads, List.append_assoc, List.append_assoc]
      exact readItems_next read (skipBlanks_append blank _) (othersRead (by omega) rest)
  | @emptyObject gap blank =>
      intro _
      refine readValue_emptyObject ?_
      rw [List.append_eq, List.append_assoc, skipBlanks_append blank]
      rfl
  | @object members cs inner ih =>
      intro _
      rw [List.length_cons] at enough
      obtain ⟨steps, rfl⟩ : ∃ fewer, steps = fewer + 1 := ⟨steps - 1, by omega⟩
      obtain ⟨c, later, first, _, other⟩ := inner.opens
      exact readValue_object (first rest) other (ih (by omega) rest)
  | @lastMember name value before cs gap colon only blank ih =>
      simp only [List.length_append, List.length_cons] at enough
      obtain ⟨steps, rfl⟩ : ∃ fewer, steps = fewer + 1 := ⟨steps - 1, by omega⟩
      have stops := stops_append blank (c := '\x7d') (by simp) rest
      have read := @ih steps (by omega) (gap ++ '\x7d' :: rest) stops
      simp only [Reads, List.append_assoc, List.cons_append]
      exact readMembers_last name (skipBlanks_append colon _) read (skipBlanks_append blank _)
  | @nextMember name value members before cs gap later colon first blank others firstRead
      othersRead =>
      simp only [List.length_append, List.length_cons] at enough
      obtain ⟨steps, rfl⟩ : ∃ fewer, steps = fewer + 1 := ⟨steps - 1, by omega⟩
      have stops := stops_append blank (c := ',') (by simp) (later ++ rest)
      have read := @firstRead steps (by omega) (gap ++ ',' :: (later ++ rest)) stops
      simp only [Reads, List.append_assoc, List.cons_append]
      exact readMembers_next name (skipBlanks_append colon _) read (skipBlanks_append blank _)
        (othersRead (by omega) rest)

/-- A text that spells a value is read as the value. -/
theorem Spells.read?_eq {value : Value} {cs : List Char} (spelled : Spells (.value value) cs) :
    Value.read? (String.ofList cs) = some value := by
  have read : readValue (2 * cs.length + 2) (cs ++ []) = some (value, []) :=
    spelled.reads (by omega) [] nofun
  rw [List.append_nil] at read
  simp [Value.read?, read, skipBlanks]

end ActivityLedger.Json
