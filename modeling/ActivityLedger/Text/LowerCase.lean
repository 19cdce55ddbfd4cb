import ActivityLedger.Text.CaseTable
import ActivityLedger.Text.Range

/-!
# Lower case

The full lower-case form of a text.  Each character goes to its own partner,
with two exceptions: the dotted capital I becomes two characters, and a capital
sigma takes its final form at the end of a word.
-/

namespace ActivityLedger.Text

def lowerChar (c : Char) : Char :=
  if c.toNat < 128 then c.toLower
  else
    match CaseTable.lowering.find? fun run =>
        run.first ≤ c.toNat && c.toNat ≤ run.last && (c.toNat - run.first) % run.stride == 0 with
    | some run => Char.ofNat (c.toNat + run.shift).toNat
    | none => c

/-- The nearest character that is not skipped has a case. -/
def meetsCased (cs : List Char) : Bool :=
  match cs.dropWhile (inRanges CaseTable.ignorable) with
  | [] => false
  | c :: _ => inRanges CaseTable.cased c

/-- The lower-case form of a text, given the characters before it in reverse. -/
def lowerAfter (before : List Char) : List Char → List Char
  | [] => []
  | c :: rest =>
      let lowered :=
        if c = 'Σ' then
          if meetsCased before && !meetsCased rest then ['ς'] else ['σ']
        else if c = 'İ' then ['i', Char.ofNat 0x307]
        else [lowerChar c]
      lowered ++ lowerAfter (c :: before) rest

def lowerCase (cs : List Char) : List Char := lowerAfter [] cs

end ActivityLedger.Text
