import ActivityLedger.Settings.Yaml.Scalar

/-!
# Tokens of a document

A document by indentation is a run of tokens, in which the start and the end of each
indented block are tokens of their own.  A text is known to be a key only when the
colon behind it is read; its token is then put in front of it.
-/

namespace ActivityLedger.Yaml

inductive Token where
  | directive
  | documentStart
  | documentEnd
  | blockList
  | blockTable
  | blockEnd
  | list
  | listEnd
  | table
  | tableEnd
  | item
  | comma
  | key
  | value
  | alias (name : String)
  | anchor (name : String)
  | tag (handle name : String)
  | scalar (isPlain : Bool) (text : String)
deriving DecidableEq

/-- A token that may turn out to be a key. -/
structure KeyStart where
  isRequired : Bool
  /-- How many tokens stand before it. -/
  position : Nat
  index : Nat
  line : Nat
  column : Nat

structure Scan where
  cursor : Cursor
  tokens : List Token
  /-- A key without a mark may start here. -/
  mayStartKey : Bool
  /-- What may turn out to be a key, on each level of brackets, the innermost first. -/
  keys : List (Option KeyStart)
  /-- The column of the innermost block, and those of the blocks around it. -/
  indent : Int
  outer : List Int
  /-- Where a colon needs no gap behind it. -/
  closeValue : Option Nat

namespace Scan

def start (text : String) : Scan := ⟨.start text, [], true, [none], -1, [], none⟩

def isInFlow (scan : Scan) : Bool := 1 < scan.keys.length

def push (scan : Scan) (token : Token) : Scan := { scan with tokens := scan.tokens ++ [token] }

def skip (scan : Scan) (count : Nat) : Scan := { scan with cursor := scan.cursor.skip count }

def allowKey (scan : Scan) (mayStartKey : Bool) : Scan := { scan with mayStartKey := mayStartKey }

def dropKey? (scan : Scan) : Option Scan :=
  match scan.keys with
  | some key :: rest => if key.isRequired then none else some { scan with keys := none :: rest }
  | _ => some scan

/-- What starts here may turn out to be a key. -/
def noteKey? (scan : Scan) : Option Scan :=
  if scan.mayStartKey then do
    let scan ← scan.dropKey?
    let cursor := scan.cursor
    let key : KeyStart := {
      isRequired := scan.isInFlow && scan.indent = cursor.column
      position := scan.tokens.length
      index := cursor.index
      line := cursor.line
      column := cursor.column }
    return { scan with keys := some key :: scan.keys.drop 1 }
  else some scan

/-- Keys are given up that are in another line or too far away. -/
def giveUpKeys? (scan : Scan) : Option Scan := do
  let cursor := scan.cursor
  let keys ← scan.keys.mapM fun (key? : Option KeyStart) =>
    match key? with
    | none => some none
    | some key =>
        if key.line < cursor.line || key.index + 1024 < cursor.index then
          if key.isRequired then none else some none
        else some (some key)
  return { scan with keys := keys }

/-- A block is opened if the column is behind that of the innermost one. -/
def openBlock (scan : Scan) (column position : Nat) (token : Token) : Scan :=
  if !scan.isInFlow && scan.indent < column then
    { scan with
      tokens := scan.tokens.insertIdx position token
      indent := column
      outer := scan.indent :: scan.outer }
  else scan

def closeBlocks (column : Int) : List Int → Scan → Scan
  | [], scan => scan
  | next :: outer, scan =>
      if !scan.isInFlow && column < scan.indent then
        closeBlocks column outer { scan.push .blockEnd with indent := next, outer := outer }
      else scan

def closeTo (scan : Scan) (column : Int) : Scan := closeBlocks column scan.outer scan

/-- The place behind spaces, comments and line breaks, with a bound on the steps.  A line break
lets a key start, and a tab does not stand where one may. -/
def skipGaps : Nat → Scan → Scan
  | 0, scan => scan
  | steps + 1, scan =>
      let c := scan.cursor.head
      if c = ' ' || c = '\t' && (scan.isInFlow || !scan.mayStartKey) then
        skipGaps steps (scan.skip 1)
      else if isBreak c then
        skipGaps steps
          { scan with
            cursor := scan.cursor.skipBreak
            mayStartKey := scan.mayStartKey || !scan.isInFlow }
      else if c = '#' then
        skipGaps steps { scan with cursor := scan.cursor.skipWhile fun c => !endsLine c }
      else scan

/-- A directive, which has no effect. -/
def readDirective? (scan : Scan) : Option Scan := do
  let scan ← (scan.closeTo (-1)).dropKey?
  let line := scan.cursor.rest.takeWhile fun c => !endsLine c
  let word (cs : List Char) : List Char := cs.takeWhile fun c => !isSpace c
  let name := word (line.drop 1)
  guard (!name.isEmpty && name.all fun c => c.isAlphanum || c = '_' || c = '-')
  let version := word ((line.drop (name.length + 1)).dropWhile isSpace)
  if name = ['Y', 'A', 'M', 'L'] then
    let minor := (version.dropWhile Char.isDigit).drop 1
    guard ((version.head?.map Char.isDigit).getD false)
    guard ((version.dropWhile Char.isDigit).head? = some '.')
    guard (!minor.isEmpty && minor.all Char.isDigit)
  return { (scan.push .directive).allowKey false with
    cursor := (scan.cursor.skip line.length).skipBreak }

def readMark (scan : Scan) (token : Token) (count : Nat) : Scan := (scan.push token).skip count

def readOpening? (scan : Scan) (token : Token) : Option Scan := do
  let scan ← scan.noteKey?
  return ({ scan with keys := none :: scan.keys }.allowKey true).readMark token 1

def readClosing? (scan : Scan) (token : Token) : Option Scan := do
  let scan ← scan.dropKey?
  let keys := if scan.isInFlow then scan.keys.drop 1 else scan.keys
  return ({ scan with keys := keys }.allowKey false).readMark token 1

def readItem? (scan : Scan) : Option Scan := do
  guard (!scan.isInFlow && scan.mayStartKey)
  let scan ← (scan.openBlock scan.cursor.column scan.tokens.length .blockList).dropKey?
  return (scan.allowKey true).readMark .item 1

def readKey? (scan : Scan) : Option Scan := do
  guard (scan.isInFlow || scan.mayStartKey)
  let scan ← (scan.openBlock scan.cursor.column scan.tokens.length .blockTable).dropKey?
  return (scan.allowKey !scan.isInFlow).readMark .key 1

def readValue? (scan : Scan) : Option Scan :=
  match scan.keys with
  | some key :: rest =>
      let scan := { scan with tokens := scan.tokens.insertIdx key.position .key }
      let scan := scan.openBlock key.column key.position .blockTable
      some (({ scan with keys := none :: rest }.allowKey false).readMark .value 1)
  | _ => do
      guard (scan.isInFlow || scan.mayStartKey)
      let scan := scan.openBlock scan.cursor.column scan.tokens.length .blockTable
      return (scan.allowKey !scan.isInFlow).readMark .value 1

def isNameChar (c : Char) : Bool := c.isAlphanum || c = '_' || c = '-'

def readAnchor? (scan : Scan) (token : String → Token) : Option Scan := do
  let scan ← scan.noteKey?
  let name := (scan.cursor.rest.drop 1).takeWhile isNameChar
  let after := scan.cursor.ahead (name.length + 1)
  guard (!name.isEmpty && (isGap after || "?:,]%@".toList.contains after ||
    after = '\x7d' || after = Char.ofNat 96))
  return (scan.allowKey false).readMark (token (.ofList name)) (name.length + 1)

def isTagChar (c : Char) : Bool :=
  isNameChar c || ";/?:@&=+$,.!~*'()[]%".toList.contains c

/-- A tag: between angle brackets, or behind one or two exclamation marks. -/
def readTag? (scan : Scan) : Option Scan := do
  let scan ← scan.noteKey?
  let rest := scan.cursor.rest.drop 1
  let (token, count) ←
    match rest with
    | '<' :: rest =>
        let name := rest.takeWhile isTagChar
        if !name.isEmpty && (rest.drop name.length).head? = some '>' then
          some (Token.tag "" (.ofList name), name.length + 3)
        else none
    | _ =>
        let handle := rest.takeWhile isNameChar
        let tail := rest.drop handle.length
        let name := (tail.drop 1).takeWhile isTagChar
        if tail.head? = some '!' then
          if name.isEmpty then none
          else
            some (Token.tag ("!" ++ .ofList handle ++ "!") (.ofList name),
              handle.length + name.length + 2)
        else
          let name := rest.takeWhile isTagChar
          some (Token.tag "!" (.ofList name), name.length + 1)
  guard (isGap (scan.cursor.ahead count))
  return (scan.allowKey false).readMark token count

def readLines? (scan : Scan) (isLiteral : Bool) : Option Scan := do
  let scan ← scan.noteKey?
  let (text, after) ← readBlock? isLiteral scan.indent scan.cursor.next
  return { (scan.push (.scalar false (.ofList text))).allowKey true with cursor := after }

def readQuotes? (scan : Scan) (isSingle : Bool) : Option Scan := do
  let scan ← scan.noteKey?
  let (text, after) ←
    readQuoted? isSingle (scan.cursor.rest.length + 1) scan.cursor.next []
  return { (scan.push (.scalar false (.ofList text))).allowKey false with
    cursor := after
    closeValue := some after.index }

def readText? (scan : Scan) : Option Scan := do
  let scan ← scan.noteKey?
  let (text, isBroken, after) ←
    readPlain? scan.isInFlow (scan.indent + 1) (scan.cursor.rest.length + 1) scan.cursor [] [] false
  return { (scan.push (.scalar true (.ofList text))).allowKey isBroken with cursor := after }

def startsValue (scan : Scan) : Bool :=
  let following := scan.cursor.ahead 1
  isGap following || scan.isInFlow &&
    (isFlowMark following || scan.closeValue = some scan.cursor.index)

/-- The next token, or the end of a text. -/
def step? (scan : Scan) : Option Scan := do
  let cursor := scan.cursor
  let following := cursor.ahead 1
  if cursor.column = 0 && cursor.head = '%' then scan.readDirective?
  else if cursor.isAtDocumentMark then
    let scan ← (scan.closeTo (-1)).dropKey?
    let token := if cursor.head = '-' then Token.documentStart else Token.documentEnd
    return (scan.allowKey false).readMark token 3
  else
    match cursor.head with
    | '[' => scan.readOpening? .list
    | ']' => scan.readClosing? .listEnd
    | '\x7b' => scan.readOpening? .table
    | '\x7d' => scan.readClosing? .tableEnd
    | ',' =>
        let scan ← scan.dropKey?
        return (scan.allowKey true).readMark .comma 1
    | '*' => scan.readAnchor? .alias
    | '&' => scan.readAnchor? .anchor
    | '!' => scan.readTag?
    | '\'' => scan.readQuotes? true
    | '"' => scan.readQuotes? false
    | '%' | '@' => none
    | c =>
        if c = Char.ofNat 96 then none
        else if c = '-' && isGap following then scan.readItem?
        else if c = '?' && isGap following then scan.readKey?
        else if c = ':' && scan.startsValue then scan.readValue?
        else if (c = '|' || c = '>') && !scan.isInFlow then scan.readLines? (c = '|')
        else scan.readText?

def run? : Nat → Scan → Option (List Token)
  | 0, _ => none
  | steps + 1, scan => do
      let scan ← (skipGaps scan.cursor.rest.length scan).giveUpKeys?
      let scan := scan.closeTo scan.cursor.column
      if scan.cursor.head = ending then
        let scan ← (scan.closeTo (-1)).dropKey?
        return scan.tokens
      else run? steps (← scan.step?)

end Scan

def tokens? (text : String) : Option (List Token) := Scan.run? (text.length + 1) (Scan.start text)

end ActivityLedger.Yaml
