import ActivityLedger.Settings.Moment
import ActivityLedger.Settings.Setting

/-!
# Reading TOML

A document is a list of lines: headers that open a table, and names with values.
Nothing may be defined twice.  A table that a header only passes through may be
opened later; one that dotted names built may be extended by dotted names alone.
-/

namespace ActivityLedger.Toml

/-- How a table came about. -/
inductive Origin where
  | passed
  | opened
  | dotted
  /-- Between braces, in the place of a value. -/
  | closed
deriving DecidableEq

/-- A part of a document: a value, a moment, a list of values, a table, or a list of tables that
may grow. -/
inductive Node where
  | leaf (setting : Setting)
  | moment (text : String)
  | list (items : List Node)
  | table (origin : Origin) (entries : List (String × Node))
  | tables (items : List (List (String × Node)))

abbrev Entries := List (String × Node)

def momentName : String := "$__toml_private_datetime"

/-- The moment that is written in a text of its own. -/
def momentOf? : Node → Option Setting
  | .leaf (.text text) =>
      match Moment.read text.toList with
      | some (moment, []) => some (.text (.ofList moment))
      | _ => none
  | _ => none

mutual

def Node.setting? : Node → Option Setting
  | .leaf setting => some setting
  | .moment text => some (.text text)
  | .list items => (itemsOf? items).map .list
  | .table _ entries => tableOf? entries
  | .tables items => (tablesOf? items).map .list

def itemsOf? : List Node → Option (List Setting)
  | [] => some []
  | item :: rest => do
      let setting ← item.setting?
      return setting :: (← itemsOf? rest)

def tableOf? : List (String × Node) → Option Setting
  | [] => some (.table [])
  | (name, node) :: rest =>
      if name = momentName then momentOf? node
      else do
        let setting ← node.setting?
        return .table ((name, setting) :: (← entriesOf? rest))

def entriesOf? : List (String × Node) → Option (List (String × Setting))
  | [] => some []
  | (name, node) :: rest => do
      let setting ← node.setting?
      return (name, setting) :: (← entriesOf? rest)

def tablesOf? : List (List (String × Node)) → Option (List Setting)
  | [] => some []
  | entries :: rest => do
      let setting ← tableOf? entries
      return setting :: (← tablesOf? rest)

end

/-! ## Building a document -/

def replace (name : String) (node : Node) : Entries → Entries
  | [] => [(name, node)]
  | (other, old) :: rest =>
      if other = name then (name, node) :: rest else (other, old) :: replace name node rest

/-- Entries with a value under a dotted name that must be new. -/
def define (node : Node) : List String → Entries → Option Entries
  | [], _ => none
  | [name], entries =>
      match entries.lookup name with
      | none => some (replace name node entries)
      | some _ => none
  | name :: path, entries =>
      match entries.lookup name with
      | none =>
          (define node path []).map fun inner => replace name (.table .dotted inner) entries
      | some (.table .dotted inner) =>
          (define node path inner).map fun inner => replace name (.table .dotted inner) entries
      | some _ => none

def changeLast (change : Entries → Option Entries) (items : List Entries) :
    Option (List Entries) :=
  match items.getLast? with
  | some last => (change last).map fun last => items.dropLast ++ [last]
  | none => none

/-- Entries with a change in the table at the end of a path, which is built where it is missing. -/
def descend (change : Entries → Option Entries) : List String → Entries → Option Entries
  | [], entries => change entries
  | name :: path, entries =>
      match entries.lookup name with
      | none =>
          (descend change path []).map fun inner => replace name (.table .passed inner) entries
      | some (.table .passed inner) =>
          (descend change path inner).map fun inner => replace name (.table .passed inner) entries
      | some (.table .opened inner) =>
          (descend change path inner).map fun inner => replace name (.table .opened inner) entries
      | some (.tables items) =>
          (changeLast (descend change path) items).map fun items =>
            replace name (.tables items) entries
      | some _ => none

def openTable (name : String) (entries : Entries) : Option Entries :=
  match entries.lookup name with
  | none => some (replace name (.table .opened []) entries)
  | some (.table .passed inner) => some (replace name (.table .opened inner) entries)
  | some _ => none

def addTable (name : String) (entries : Entries) : Option Entries :=
  match entries.lookup name with
  | none => some (replace name (.tables [[]]) entries)
  | some (.tables items) => some (replace name (.tables (items ++ [[]])) entries)
  | some _ => none

def atLast (change : String → Entries → Option Entries) (path : List String)
    (entries : Entries) : Option Entries :=
  match path.getLast? with
  | some name => descend (change name) path.dropLast entries
  | none => none

/-! ## Reading names and texts -/

def skipBlanks (cs : List Char) : List Char := cs.dropWhile fun c => c = ' ' || c = '\t'

def lineEnd? : List Char → Option (List Char)
  | '\n' :: rest => some rest
  | '\r' :: '\n' :: rest => some rest
  | _ => none

def isRemark (c : Char) : Bool := c = '\t' || 32 ≤ c.toNat

/-- What follows the rest of a line, which holds nothing but a comment. -/
def endLine? (cs : List Char) : Option (List Char) :=
  let rest :=
    match skipBlanks cs with
    | '#' :: rest => rest.dropWhile isRemark
    | rest => rest
  if rest.isEmpty then some [] else lineEnd? rest

/-- Blanks, ends of lines and comments are passed over, with a bound on the steps. -/
def skipSpace : Nat → List Char → List Char
  | 0, cs => cs
  | steps + 1, cs =>
      match skipBlanks cs with
      | '#' :: rest => skipSpace steps (rest.dropWhile isRemark)
      | '\n' :: rest => skipSpace steps rest
      | '\r' :: '\n' :: rest => skipSpace steps rest
      | rest => rest

def digitsValue? (base : Nat) (cs : List Char) : Option Nat :=
  cs.foldlM (fun sum c =>
    let digit :=
      if c.isDigit then c.toNat - 48
      else if 'a' ≤ c ∧ c ≤ 'f' then c.toNat - 87
      else if 'A' ≤ c ∧ c ≤ 'F' then c.toNat - 55
      else base
    if digit < base then some (sum * base + digit) else none) 0

def charOf? (point : Nat) : Option Char :=
  if h : point.isValidChar then some (Char.ofNatAux point h) else none

def readEscape : List Char → Option (Char × List Char)
  | 'b' :: rest => some ('\x08', rest)
  | 't' :: rest => some ('\t', rest)
  | 'n' :: rest => some ('\n', rest)
  | 'f' :: rest => some ('\x0c', rest)
  | 'r' :: rest => some ('\r', rest)
  | '"' :: rest => some ('"', rest)
  | '\\' :: rest => some ('\\', rest)
  | 'u' :: rest => point 4 rest
  | 'U' :: rest => point 8 rest
  | _ => none
where
  /-- A character by the digits of its code point. -/
  point (count : Nat) (cs : List Char) : Option (Char × List Char) := do
    if cs.length < count then none
    else do
      let c ← charOf? (← digitsValue? 16 (cs.take count))
      return (c, cs.drop count)

def isPlain (c : Char) : Bool := c = '\t' || (32 ≤ c.toNat && c.toNat != 127)

def readBasic : Nat → List Char → Option (List Char × List Char)
  | 0, _ => none
  | _ + 1, [] => none
  | _ + 1, '"' :: rest => some ([], rest)
  | steps + 1, '\\' :: rest => do
      let (c, rest) ← readEscape rest
      let (cs, rest) ← readBasic steps rest
      return (c :: cs, rest)
  | steps + 1, c :: rest =>
      if isPlain c then do
        let (cs, rest) ← readBasic steps rest
        return (c :: cs, rest)
      else none

def readLiteral : List Char → Option (List Char × List Char)
  | [] => none
  | '\'' :: rest => some ([], rest)
  | c :: rest =>
      if isPlain c then do
        let (cs, rest) ← readLiteral rest
        return (c :: cs, rest)
      else none

/-- Up to two quotes after the three that end a text of several lines, which belong to it. -/
def lastQuotes (quote : Char) (cs : List Char) : List Char × List Char :=
  let count := min 2 (cs.takeWhile fun c => c = quote).length
  (cs.take count, cs.drop count)

def skipLines : List Char → List Char
  | ' ' :: rest | '\t' :: rest | '\n' :: rest | '\r' :: '\n' :: rest => skipLines rest
  | rest => rest

def readBasicLines : Nat → List Char → Option (List Char × List Char)
  | 0, _ => none
  | _ + 1, [] => none
  | _ + 1, '"' :: '"' :: '"' :: rest => some (lastQuotes '"' rest)
  | steps + 1, '\\' :: rest =>
      match lineEnd? (skipBlanks rest) with
      | some rest => readBasicLines steps (skipLines rest)
      | none => do
          let (c, rest) ← readEscape rest
          let (cs, rest) ← readBasicLines steps rest
          return (c :: cs, rest)
  | steps + 1, '\r' :: '\n' :: rest => do
      let (cs, rest) ← readBasicLines steps rest
      return ('\n' :: cs, rest)
  | steps + 1, c :: rest =>
      if isPlain c || c = '\n' then do
        let (cs, rest) ← readBasicLines steps rest
        return (c :: cs, rest)
      else none

def readLiteralLines : List Char → Option (List Char × List Char)
  | [] => none
  | '\'' :: '\'' :: '\'' :: rest => some (lastQuotes '\'' rest)
  | '\r' :: '\n' :: rest => do
      let (cs, rest) ← readLiteralLines rest
      return ('\n' :: cs, rest)
  | c :: rest =>
      if isPlain c || c = '\n' then do
        let (cs, rest) ← readLiteralLines rest
        return (c :: cs, rest)
      else none

/-- The text of several lines without an end of line right after its quotes. -/
def skipFirstLine (cs : List Char) : List Char := (lineEnd? cs).getD cs

def isBare (c : Char) : Bool := c.isAlphanum || c = '_' || c = '-'

def readPart (cs : List Char) : Option (String × List Char) :=
  match cs with
  | '"' :: rest => (readBasic (rest.length + 1) rest).map fun (part, rest) => (.ofList part, rest)
  | '\'' :: rest => (readLiteral rest).map fun (part, rest) => (.ofList part, rest)
  | _ =>
      let part := cs.takeWhile isBare
      if part.isEmpty then none else some (.ofList part, cs.dropWhile isBare)

/-- A name with dots between its parts, with a bound on the steps. -/
def readName : Nat → List Char → Option (List String × List Char)
  | 0, _ => none
  | steps + 1, cs => do
      let (part, rest) ← readPart (skipBlanks cs)
      match skipBlanks rest with
      | '.' :: rest => do
          let (parts, rest) ← readName steps rest
          return (part :: parts, rest)
      | rest => return ([part], rest)

/-! ## Reading values -/

/-- A run of digits in which single underscores may stand between digits. -/
def joinDigits? (isDigit : Char → Bool) (cs : List Char) : Option (List Char) :=
  let rec go : Bool → List Char → Option (List Char)
    | afterDigit, [] => if afterDigit then some [] else none
    | afterDigit, c :: rest =>
        if c = '_' then if afterDigit then go false rest else none
        else if isDigit c then (go true rest).map (c :: ·)
        else none
  go false cs

def based? (base : Nat) (cs : List Char) : Option Setting := do
  let run ← joinDigits? Char.isAlphanum cs
  let n ← digitsValue? base run
  if n ≤ 9223372036854775807 then some (.integer n) else none

def splitSign : List Char → Bool × List Char
  | '-' :: rest => (true, rest)
  | '+' :: rest => (false, rest)
  | rest => (false, rest)

def wholeDigits? (cs : List Char) : Option (List Char) :=
  match joinDigits? Char.isDigit cs with
  | some run => if 1 < run.length && run.head? == some '0' then none else some run
  | none => none

def decimal? (cs : List Char) : Option Setting := do
  let (negative, cs) :=
    match cs with
    | '-' :: rest => (true, rest)
    | _ => (false, cs)
  let isPart (c : Char) : Bool := c.isDigit || c = '_'
  let whole ← wholeDigits? (cs.takeWhile isPart)
  let isExponent (c : Char) : Bool := c = 'e' || c = 'E'
  match cs.dropWhile isPart with
  | [] =>
      let n : Int := if negative then -(Text.value whole : Int) else Text.value whole
      if -9223372036854775808 ≤ n ∧ n ≤ 9223372036854775807 then return .integer n else none
  | rest => do
      let (fraction, rest) ←
        match rest with
        | '.' :: rest => do
            let fraction ← joinDigits? Char.isDigit (rest.takeWhile isPart)
            pure (fraction, rest.dropWhile isPart)
        | rest => pure ([], rest)
      let exponent : Int ←
        match rest with
        | [] => pure 0
        | c :: rest =>
            if isExponent c then do
              let (negative, rest) := splitSign rest
              let size : Int := Text.value (← joinDigits? Char.isDigit rest)
              pure (if negative then -size else size)
            else none
      let size := Text.value (whole ++ fraction)
      let exponent := exponent - fraction.length
      let number := Binary64.ofDecimal negative size exponent
      if number.isInfinite then none else return .ofFraction negative number

def number? (cs : List Char) : Option Setting :=
  match cs with
  | ['i', 'n', 'f'] => some (.real (.infinite false))
  | ['-', 'i', 'n', 'f'] => some (.real (.infinite true))
  | ['n', 'a', 'n'] | ['-', 'n', 'a', 'n'] => some .notNumber
  | '0' :: 'x' :: rest => based? 16 rest
  | '0' :: 'o' :: rest => based? 8 rest
  | '0' :: 'b' :: rest => based? 2 rest
  | _ => decimal? cs

def word? (cs : List Char) : Option Setting :=
  match cs with
  | ['t', 'r', 'u', 'e'] => some (.bool true)
  | ['f', 'a', 'l', 's', 'e'] => some (.bool false)
  | '+' :: rest => number? rest
  | _ => number? cs

def isWordPart (c : Char) : Bool := c.isAlphanum || c = '_' || c = '-' || c = '+' || c = '.'

def textNode (read : Option (List Char × List Char)) : Option (Node × List Char) :=
  read.map fun (cs, rest) => (.leaf (.text (.ofList cs)), rest)

mutual

def readValue : Nat → List Char → Option (Node × List Char)
  | 0, _ => none
  | steps + 1, cs =>
      match cs with
      | '"' :: '"' :: '"' :: rest =>
          textNode (readBasicLines (rest.length + 1) (skipFirstLine rest))
      | '"' :: rest => textNode (readBasic (rest.length + 1) rest)
      | '\'' :: '\'' :: '\'' :: rest => textNode (readLiteralLines (skipFirstLine rest))
      | '\'' :: rest => textNode (readLiteral rest)
      | '[' :: rest => do
          let (items, rest) ← readItems steps (skipSpace rest.length rest)
          return (.list items, rest)
      | '\x7b' :: rest =>
          match skipBlanks rest with
          | '\x7d' :: rest => some (.table .closed [], rest)
          | rest => do
              let (entries, rest) ← readEntries steps [] rest
              return (.table .closed entries, rest)
      | _ =>
          match Moment.read cs with
          | some (text, rest) => some (.moment (.ofList text), rest)
          | none => do
              let setting ← word? (cs.takeWhile isWordPart)
              return (.leaf setting, cs.dropWhile isWordPart)

def readItems : Nat → List Char → Option (List Node × List Char)
  | 0, _ => none
  | steps + 1, cs =>
      match cs with
      | ']' :: rest => some ([], rest)
      | _ => do
          let (item, rest) ← readValue steps cs
          match skipSpace rest.length rest with
          | ',' :: rest => do
              let (items, rest) ← readItems steps (skipSpace rest.length rest)
              return (item :: items, rest)
          | ']' :: rest => return ([item], rest)
          | _ => none

def readEntries : Nat → Entries → List Char → Option (Entries × List Char)
  | 0, _, _ => none
  | steps + 1, entries, cs => do
      let (name, rest) ← readName (cs.length + 1) cs
      match rest with
      | '=' :: rest => do
          let (node, rest) ← readValue steps (skipBlanks rest)
          let entries ← define node name entries
          match skipBlanks rest with
          | ',' :: rest => readEntries steps entries rest
          | '\x7d' :: rest => return (entries, rest)
          | _ => none
      | _ => none

end

/-! ## Reading documents -/

/-- The lines of a document after those that were read, with the path of the table that is open
and a bound on the steps. -/
def readLines : Nat → List String → Entries → List Char → Option Entries
  | 0, _, _, _ => none
  | steps + 1, path, entries, cs =>
      match skipSpace cs.length cs with
      | [] => some entries
      | '[' :: '[' :: rest => do
          let (name, rest) ← readName (rest.length + 1) rest
          match rest with
          | ']' :: ']' :: rest =>
              readLines steps name (← atLast addTable name entries) (← endLine? rest)
          | _ => none
      | '[' :: rest => do
          let (name, rest) ← readName (rest.length + 1) rest
          match rest with
          | ']' :: rest =>
              readLines steps name (← atLast openTable name entries) (← endLine? rest)
          | _ => none
      | line => do
          let (name, rest) ← readName (line.length + 1) line
          match rest with
          | '=' :: rest => do
              let (node, rest) ← readValue (2 * rest.length + 2) (skipBlanks rest)
              let entries ← descend (define node name) path entries
              readLines steps path entries (← endLine? rest)
          | _ => none

/-- The setting that a document is.  A mark of the byte order at its start is passed over. -/
def setting? (text : String) : Option Setting :=
  let cs :=
    match text.toList with
    | '\ufeff' :: rest => rest
    | cs => cs
  (readLines (cs.length + 1) [] [] cs).bind tableOf?

end ActivityLedger.Toml
