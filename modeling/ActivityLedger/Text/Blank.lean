import ActivityLedger.Text.Range

/-!
# Blank characters

White space in the sense of the Unicode property of that name, 25 characters in
all, and the removal of it from the ends of a text.
-/

namespace ActivityLedger.Text

def blankRanges : List (Nat × Nat) := [
  (0x09, 0x0D), (0x20, 0x20), (0x85, 0x85), (0xA0, 0xA0), (0x1680, 0x1680),
  (0x2000, 0x200A), (0x2028, 0x2029), (0x202F, 0x202F), (0x205F, 0x205F), (0x3000, 0x3000)]

def isBlank (c : Char) : Bool := inRanges blankRanges c

def trimLeft (cs : List Char) : List Char := cs.dropWhile isBlank

def trimRight (cs : List Char) : List Char := (cs.reverse.dropWhile isBlank).reverse

def trim (cs : List Char) : List Char := trimRight (trimLeft cs)

theorem trim_eq_self {cs : List Char}
    (first : ∀ c ∈ cs.head?, isBlank c = false) (last : ∀ c ∈ cs.getLast?, isBlank c = false) :
    trim cs = cs := by
  have left : trimLeft cs = cs := by
    cases cs with
    | nil => rfl
    | cons c rest => simp [trimLeft, List.dropWhile, first c (by simp)]
  have right : trimRight cs = cs := by
    unfold trimRight
    cases reversed : cs.reverse with
    | nil =>
        have empty : cs = [] := by simpa using reversed
        simp [empty]
    | cons c rest =>
        have ends : cs.getLast? = some c := by
          rw [List.getLast?_eq_head?_reverse, reversed]
          rfl
        rw [List.dropWhile_cons_of_neg (by simp [last c (by simp [ends])]), ← reversed,
          List.reverse_reverse]
  rw [trim, left, right]

end ActivityLedger.Text
