import ActivityLedger.Text.Range
import ActivityLedger.Text.VisibleTable

/-!
# Quoted text

The form in which a report shows a text from outside: between double quotes,
with a backslash before quotes and backslashes, letters for the common controls,
and code points in braces for all that is not visible by itself.
-/

namespace ActivityLedger.Text

def isVisible (c : Char) : Bool :=
  if c.toNat < 127 then 32 ≤ c.toNat
  else !inRanges VisibleTable.shapeless c && !inRanges VisibleTable.extending c

/-- A character by its code point in hexadecimal. -/
def codePoint (c : Char) : List Char :=
  ['\\', 'u', '\x7b'] ++ Nat.toDigits 16 c.toNat ++ ['\x7d']

def quoteChar : Char → List Char
  | '\x00' => ['\\', '0']
  | '\t' => ['\\', 't']
  | '\r' => ['\\', 'r']
  | '\n' => ['\\', 'n']
  | '"' => ['\\', '"']
  | '\\' => ['\\', '\\']
  | c => if isVisible c then [c] else codePoint c

def quoted (text : String) : String :=
  String.ofList (['"'] ++ text.toList.flatMap quoteChar ++ ['"'])

end ActivityLedger.Text
