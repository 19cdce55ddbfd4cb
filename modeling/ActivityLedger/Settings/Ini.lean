import ActivityLedger.Json.Reader
import ActivityLedger.Settings.Setting
import ActivityLedger.Text.Blank

/-!
# Reading sections of texts

A file of sections has one entry on a line: a name, a sign of equality or a colon,
and a text.  An entry belongs to the section whose name in brackets stands above
it, and one above all sections stands by itself.  Where a name or a section is
repeated the last one counts.
-/

namespace ActivityLedger.Ini

def unescape : Char → Char
  | '0' => '\x00'
  | 'a' => '\x07'
  | 'b' => '\x08'
  | 't' => '\t'
  | 'r' => '\r'
  | 'n' => '\n'
  | c => c

/-- What stands before a character that ends a text, and the rest from that character on.  The end
of the file ends a text or makes it a broken one. -/
def readText? (isEnd : Char → Bool) (mayRunOut : Bool) :
    List Char → Option (List Char × List Char)
  | [] => if mayRunOut then some ([], []) else none
  | '\\' :: 'x' :: a :: b :: c :: d :: rest => do
      let unit ← Json.hexUnit? a b c d
      if Json.isLeading unit || Json.isTrailing unit then none
      else do
        let (text, rest) ← readText? isEnd mayRunOut rest
        return (Char.ofNat unit :: text, rest)
  | '\\' :: '\n' :: rest => readText? isEnd mayRunOut rest
  | '\\' :: c :: rest => do
      if c = 'x' then none
      else do
        let (text, rest) ← readText? isEnd mayRunOut rest
        return (unescape c :: text, rest)
  | c :: rest =>
      if isEnd c then some ([], c :: rest)
      else if c = '\\' then none
      else do
        let (text, rest) ← readText? isEnd mayRunOut rest
        return (c :: text, rest)

def readLine? : List Char → Option (List Char × List Char) :=
  readText? (fun c => c = '\n' || c = '\r') true

/-- The text of an entry after its sign: the rest of the line, of which a part at the start may
stand in quotes. -/
def readValue? (cs : List Char) : Option (List Char × List Char) :=
  let readQuoted? (quote : Char) (rest : List Char) : Option (List Char × List Char) := do
    let (inner, rest) ← readText? (· = quote) false rest
    let (outer, rest) ← readLine? (rest.drop 1)
    return (inner ++ outer, rest)
  match cs.dropWhile fun c => Text.isBlank c && c ≠ '\n' && c ≠ '\r' with
  | '"' :: rest => readQuoted? '"' rest
  | '\'' :: rest => readQuoted? '\'' rest
  | rest => readLine? rest

/-- A section with its entries, the section without a name coming first. -/
abbrev Section := Option String × List (String × Setting)

/-- The rest after blanks, and whether it starts a line. -/
def skipBlanks (startsLine : Bool) : List Char → Bool × List Char
  | [] => (startsLine, [])
  | c :: rest => if Text.isBlank c then skipBlanks (c = '\n') rest else (startsLine, c :: rest)

def trimmed (cs : List Char) : String := .ofList (Text.trim cs)

/-- The sections of a text, the last one first, with a bound on the steps. -/
def readSections? : Nat → Bool → List Char → Section → List Section → Option (List Section)
  | 0, _, _, _, _ => none
  | steps + 1, startsLine, cs, current, done =>
      match skipBlanks startsLine cs with
      | (_, []) => some (current :: done)
      | (startsLine, c :: rest) =>
          if c = ';' || c = '#' then
            if startsLine then
              readSections? steps true ((rest.dropWhile (· ≠ '\n')).drop 1) current done
            else none
          else if c = '[' then do
            let (name, rest) ← readText? (· = ']') false rest
            readSections? steps false (rest.drop 1) (some (trimmed name), []) (current :: done)
          else do
            let (name, rest) ← readText? (fun c => c = '=' || c = ':') false (c :: rest)
            let name := trimmed name
            if name = "" then none
            else do
              let (value, rest) ← readValue? (rest.drop 1)
              let entry := (name, Setting.text (trimmed value))
              readSections? steps false rest (current.1, current.2 ++ [entry]) done

/-- The entries of a section: those without a section, or one with the table of the section. -/
def entriesOf : Section → List (String × Setting)
  | (none, entries) => entries
  | (some name, entries) => [(name, .tableOf entries)]

def setting? (text : String) : Option Setting :=
  (readSections? (text.length + 1) true text.toList (none, []) []).map fun sections =>
    .tableOf (sections.reverse.flatMap entriesOf)

end ActivityLedger.Ini
