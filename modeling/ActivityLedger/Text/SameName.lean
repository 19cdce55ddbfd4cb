/-!
# Names without regard to case

A database takes two names for the same if they differ only in the case of the
letters from A to Z.
-/

namespace ActivityLedger.Text

/-- A text with the letters from A to Z made small. -/
def small (text : String) : String := String.ofList (text.toList.map Char.toLower)

/-- Two names are the same but for the case of the letters from A to Z. -/
def isSameName (a b : String) : Bool := small a = small b

end ActivityLedger.Text
