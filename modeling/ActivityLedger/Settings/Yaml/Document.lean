import ActivityLedger.Settings.Yaml.Token

/-!
# Reading YAML

A file holds one document at most.  Tables and lists are written by indentation or
between brackets; a value may have a name by which it is used again.  A table keeps
the entries whose keys are texts or integers.
-/

namespace ActivityLedger.Yaml

/-- Values by their names, the last one first. -/
abbrev Anchors := List (String × Setting)

/-- A value, the tokens behind it, and the names that are known then. -/
abbrev Read := Option (Setting × List Token × Anchors)

/-- The names and the tag before a value, and the tokens behind them. -/
def splitProperties : List Token → Option String × Option (String × String) × List Token
  | .anchor name :: .tag handle suffix :: rest | .tag handle suffix :: .anchor name :: rest =>
      (some name, some (handle, suffix), rest)
  | .anchor name :: rest => (some name, none, rest)
  | .tag handle suffix :: rest => (none, some (handle, suffix), rest)
  | rest => (none, none, rest)

def scalarValue? (isPlain : Bool) (tag : Option (String × String)) (text : String) :
    Option Setting :=
  match isPlain, tag with
  | true, none => plainValue? text
  | true, some ("!!", name) => taggedValue? name text
  | _, _ => some (.text text)

/-- The entry of a table, if its key is a text or an integer. -/
def entryOf (key value : Setting) : List (String × Setting) :=
  match key with
  | .text name => [(name, value)]
  | .integer n => [(.ofList (Text.integer n), value)]
  | _ => []

def startsWith (tokens : List Token) (rest : List Token) : Bool :=
  match rest with
  | token :: _ => token ∈ tokens
  | [] => true

mutual

/-- A value, which may be an indented block or a list that is not indented further, with a bound
on the steps. -/
def readNode? : Nat → Bool → Bool → List Token → Anchors → Read
  | 0, _, _, _, _ => none
  | steps + 1, mayIndent, mayAlign, tokens, anchors =>
      match tokens with
      | .alias name :: rest => (anchors.lookup name).map fun value => (value, rest, anchors)
      | _ => do
          let (name, tag, rest) := splitProperties tokens
          -- Within its own value a name stands for nothing yet.
          let known := (name.toList.map fun name => (name, Setting.missing)) ++ anchors
          let (value, rest, anchors) ←
            readContent? steps mayIndent mayAlign tag name.isSome rest known
          return (value, rest, (name.toList.map fun name => (name, value)) ++ anchors)

/-- A value after its name and its tag, which let it be empty, with a bound on the steps. -/
def readContent? :
    Nat → Bool → Bool → Option (String × String) → Bool → List Token → Anchors → Read
  | 0, _, _, _, _, _, _ => none
  | steps + 1, mayIndent, mayAlign, tag, isNamed, tokens, anchors => do
      let empty : Read := do
        if tag.isNone && !isNamed then none
        else return (← scalarValue? true tag "", tokens, anchors)
      match tokens with
      | .scalar isPlain text :: rest =>
          return (← scalarValue? isPlain tag text, rest, anchors)
      | .item :: _ =>
          if mayAlign then
            let (items, rest, anchors) ← readAligned? steps tokens anchors
            return (.list items, rest, anchors)
          else empty
      | .list :: rest =>
          let (items, rest, anchors) ← readList? steps true rest anchors
          return (.list items, rest, anchors)
      | .table :: rest =>
          let (entries, rest, anchors) ← readTable? steps true rest anchors
          return (.tableOf entries, rest, anchors)
      | .blockList :: rest =>
          if mayIndent then
            let (items, rest, anchors) ← readItems? steps rest anchors
            return (.list items, rest, anchors)
          else empty
      | .blockTable :: rest =>
          if mayIndent then
            let (entries, rest, anchors) ← readEntries? steps rest anchors
            return (.tableOf entries, rest, anchors)
          else empty
      | _ => empty

def readUnless? : Nat → List Token → Bool → Bool → List Token → Anchors → Read
  | 0, _, _, _, _, _ => none
  | steps + 1, stops, mayIndent, mayAlign, tokens, anchors =>
      if startsWith stops tokens then some (.missing, tokens, anchors)
      else readNode? steps mayIndent mayAlign tokens anchors

def readAfterColon? : Nat → List Token → Bool → List Token → Anchors → Read
  | 0, _, _, _, _ => none
  | steps + 1, stops, isBlock, tokens, anchors =>
      match tokens with
      | .value :: rest => readUnless? steps stops isBlock isBlock rest anchors
      | _ => some (.missing, tokens, anchors)

/-- The items of a list that is not indented further than its key, with a bound on the steps. -/
def readAligned? : Nat → List Token → Anchors → Option (List Setting × List Token × Anchors)
  | 0, _, _ => none
  | steps + 1, tokens, anchors =>
      match tokens with
      | .item :: rest => do
          let (item, rest, anchors) ←
            readUnless? steps [.item, .key, .value, .blockEnd] true false rest anchors
          let (items, rest, anchors) ← readAligned? steps rest anchors
          return (item :: items, rest, anchors)
      | _ => some ([], tokens, anchors)

def readItems? : Nat → List Token → Anchors → Option (List Setting × List Token × Anchors)
  | 0, _, _ => none
  | steps + 1, tokens, anchors =>
      match tokens with
      | .item :: rest => do
          let (item, rest, anchors) ← readUnless? steps [.item, .blockEnd] true false rest anchors
          let (items, rest, anchors) ← readItems? steps rest anchors
          return (item :: items, rest, anchors)
      | .blockEnd :: rest => some ([], rest, anchors)
      | _ => none

def readEntries? :
    Nat → List Token → Anchors → Option (List (String × Setting) × List Token × Anchors)
  | 0, _, _ => none
  | steps + 1, tokens, anchors => do
      let stops := [Token.key, .value, .blockEnd]
      let entry (key : Setting) (tokens : List Token) (anchors : Anchors) :
          Option (List (String × Setting) × List Token × Anchors) := do
        let (value, rest, anchors) ← readAfterColon? steps stops true tokens anchors
        let (entries, rest, anchors) ← readEntries? steps rest anchors
        return (entryOf key value ++ entries, rest, anchors)
      match tokens with
      | .key :: rest =>
          let (key, rest, anchors) ← readUnless? steps stops true true rest anchors
          entry key rest anchors
      | .value :: _ => entry .missing tokens anchors
      | .blockEnd :: rest => return ([], rest, anchors)
      | _ => none

def readTable? :
    Nat → Bool → List Token → Anchors → Option (List (String × Setting) × List Token × Anchors)
  | 0, _, _, _ => none
  | steps + 1, isFirst, tokens, anchors => do
      let tokens ←
        match tokens with
        | .tableEnd :: _ => some tokens
        | .comma :: rest => some (if isFirst then tokens else rest)
        | _ => if isFirst then some tokens else none
      let entry (key : Setting) (tokens : List Token) (anchors : Anchors) :
          Option (List (String × Setting) × List Token × Anchors) := do
        let (value, rest, anchors) ←
          readAfterColon? steps [.comma, .tableEnd] false tokens anchors
        let (entries, rest, anchors) ← readTable? steps false rest anchors
        return (entryOf key value ++ entries, rest, anchors)
      match tokens with
      | .tableEnd :: rest => return ([], rest, anchors)
      | .key :: rest =>
          let (key, rest, anchors) ←
            readUnless? steps [.value, .comma, .tableEnd] false false rest anchors
          entry key rest anchors
      | .value :: _ => entry .missing tokens anchors
      | _ =>
          let (key, rest, anchors) ← readNode? steps false false tokens anchors
          let (entries, rest, anchors) ← readTable? steps false rest anchors
          return (entryOf key .missing ++ entries, rest, anchors)

/-- The items of a list in brackets and its end, each but the first after a comma, with a bound on
the steps.  A key among them starts a table with one entry. -/
def readList? : Nat → Bool → List Token → Anchors → Option (List Setting × List Token × Anchors)
  | 0, _, _, _ => none
  | steps + 1, isFirst, tokens, anchors => do
      let tokens ←
        match tokens with
        | .listEnd :: _ => some tokens
        | .comma :: rest => some (if isFirst then tokens else rest)
        | _ => if isFirst then some tokens else none
      let more (item : Setting) (tokens : List Token) (anchors : Anchors) :
          Option (List Setting × List Token × Anchors) := do
        let (items, rest, anchors) ← readList? steps false tokens anchors
        return (item :: items, rest, anchors)
      match tokens with
      | .listEnd :: rest => return ([], rest, anchors)
      | .key :: rest =>
          let stops := [Token.comma, .listEnd]
          let (key, rest, anchors) ←
            readUnless? steps (.value :: stops) false false rest anchors
          let (value, rest, anchors) ← readAfterColon? steps stops false rest anchors
          more (.tableOf (entryOf key value)) rest anchors
      | _ =>
          let (item, rest, anchors) ← readNode? steps false false tokens anchors
          more item rest anchors

end

def readDocument? (steps : Nat) (isImplicit : Bool) (tokens : List Token) :
    Option (Setting × List Token) := do
  let rest := tokens.dropWhile (· = .directive)
  let (value, rest, _) ←
    match rest with
    | .documentStart :: rest =>
        readUnless? steps [.directive, .documentStart, .documentEnd] true false rest []
    | _ => if isImplicit && rest = tokens then readNode? steps true false rest [] else none
  return (value, if rest.head? = some .documentEnd then rest.drop 1 else rest)

/-- The setting that a text is, which is an empty table if it holds no document. -/
def setting? (text : String) : Option Setting := do
  let tokens ← tokens? text
  if tokens.isEmpty then return .table []
  else
    let (value, rest) ← readDocument? (4 * tokens.length + 8) true tokens
    guard (rest.dropWhile (· = .documentEnd)).isEmpty
    return value

end ActivityLedger.Yaml
