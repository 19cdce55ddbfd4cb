import ActivityLedger.Relational.Database
import ActivityLedger.Relational.Token
import ActivityLedger.Text.SameName

/-!
# Statements that change tables

What a statement names: a table, which may stand behind the name of its database
and may have another name for the statement, and a column.  The names come from
outside, so all that a statement may hold in their places is read, and the first
token that does not fit is the fault.
-/

namespace ActivityLedger.Relational

structure TableRef where
  schema? : Option String
  name : String
deriving DecidableEq

/-- What a statement reads of its tokens, and those that are left. -/
abbrev Reading (α : Type) := List Token → Except SqlFault (α × List Token)

/-- The fault of a statement that cannot go on with its next token. -/
def unfit {α : Type} : List Token → Except SqlFault α
  | [] => .error .incomplete
  | .illegal text :: _ => .error (.unrecognized text)
  | token :: _ => .error (.unexpected token.written)

def reservedWords : List String := [
  "add", "all", "alter", "and", "as", "autoincrement", "between", "case", "check", "collate",
  "commit", "constraint", "create", "default", "deferrable", "delete", "distinct", "drop", "else",
  "escape", "except", "exists", "foreign", "from", "group", "having", "in", "index", "insert",
  "intersect", "into", "is", "isnull", "join", "limit", "not", "nothing", "notnull", "null", "on",
  "or", "order", "primary", "references", "returning", "select", "set", "table", "then", "to",
  "transaction", "union", "unique", "update", "using", "values", "when", "where"]

namespace Reading

/-- A name: a word that is not reserved, or a text in quotes. -/
def name : Reading String
  | .quoted name _ :: rest => .ok (name, rest)
  | .word text :: rest =>
      if Text.small text ∈ reservedWords then unfit (.word text :: rest) else .ok (text, rest)
  | rest => unfit rest

/-- The token is a given word or mark.  The sign of equality may be doubled. -/
def isWritten (text : String) : Token → Bool
  | .word other | .mark other => Text.isSameName text other || text = "=" && other = "=="
  | .quoted _ _ | .illegal _ => false

def expect : List String → List Token → Except SqlFault (List Token)
  | [], rest => .ok rest
  | _ :: _, [] => unfit []
  | text :: texts, token :: rest =>
      if isWritten text token then expect texts rest else unfit (token :: rest)

def startsWith (texts : List String) (rest : List Token) : Bool := (expect texts rest).isOk

/-- The name of a table, behind that of its database if that is named. -/
def table : Reading TableRef := fun rest => do
  let (first, rest) ← name rest
  if startsWith ["."] rest then
    let (second, rest) ← name (← expect ["."] rest)
    return (⟨some first, second⟩, rest)
  else return (⟨none, first⟩, rest)

/-- The rest after another name for a table, if there is one. -/
def skipAlias (rest : List Token) : Except SqlFault (List Token) := do
  if startsWith ["as"] rest then
    let (_, rest) ← name (← expect ["as"] rest)
    return rest
  else return rest

/-- The rest after the demand that a table be searched with an index or without one, if there is
such a demand. -/
def skipSearch (rest : List Token) : Except SqlFault (List Token) := do
  if startsWith ["not"] rest then expect ["not", "indexed"] rest
  else if startsWith ["indexed"] rest then
    let (_, rest) ← name (← expect ["indexed", "by"] rest)
    return rest
  else return rest

/-- The name of a column, which may stand between brackets. -/
def column : Reading String := fun rest => do
  if startsWith ["("] rest then
    let (column, rest) ← name (← expect ["("] rest)
    return (column, ← expect [")"] rest)
  else name rest

/-- A statement ends with its text or at a semicolon. -/
def finish (rest : List Token) : Except SqlFault Unit :=
  if rest.isEmpty || startsWith [";"] rest then .ok () else unfit rest

end Reading

open Reading

def readUpdate (table column : String) (condition : List String) :
    Except SqlFault (TableRef × String) := do
  let condition := ["=", "?", "WHERE"] ++ condition
  let text := "UPDATE " ++ table ++ " SET " ++ column ++ " " ++ " ".intercalate condition
  let (table, rest) ← Reading.table (← expect ["UPDATE"] (Token.ofText text))
  let rest ← expect ["SET"] (← skipSearch (← skipAlias rest))
  let (column, rest) ← Reading.column rest
  finish (← expect condition rest)
  return (table, column)

/-- The table from which a row is deleted, and whether all of its rows are. -/
def readDelete (table : String) : Except SqlFault (TableRef × Bool) := do
  let text := "DELETE FROM " ++ table ++ " WHERE id = ?"
  let (table, rest) ← Reading.table (← expect ["DELETE", "FROM"] (Token.ofText text))
  let rest ← skipSearch (← skipAlias rest)
  if startsWith ["WHERE"] rest then
    finish (← expect ["WHERE", "id", "=", "?"] rest)
    return (table, false)
  else
    finish rest
    return (table, true)

def readDrop (table : String) : Except SqlFault (TableRef × Bool) := do
  let rest ← expect ["DROP", "TABLE"] (Token.ofText ("DROP TABLE " ++ table))
  let mayMiss := startsWith ["if"] rest
  let (table, rest) ← Reading.table (← if mayMiss then expect ["if", "exists"] rest else .ok rest)
  finish rest
  return (table, mayMiss)

namespace TableRef

def text (ref : TableRef) : String :=
  match ref.schema? with
  | some schema => schema ++ "." ++ ref.name
  | none => ref.name

def catalogNames (temporary : Bool) : List String :=
  if temporary then ["sqlite_temp_master", "sqlite_temp_schema"]
  else ["sqlite_master", "sqlite_schema"]

def catalog? (ref : TableRef) : Option String :=
  let isOne (names : List String) : Bool := names.contains (Text.small ref.name)
  let main := catalogNames false
  let temporary := catalogNames true
  match ref.schema?.map Text.small with
  | none =>
      if isOne main then main.head? else if isOne temporary then temporary.head? else none
  | some "main" => if isOne main then main.head? else none
  | some "temp" => if isOne (main ++ temporary) then temporary.head? else none
  | some _ => none

def table? (ref : TableRef) : Option TableName :=
  if (ref.schema?.map Text.small).getD "main" = "main" then
    TableName.all.find? fun table => table.name = Text.small ref.name
  else none

/-- The table that a reference means, which must not be a list of tables. -/
def resolve (ref : TableRef) (refusal : String → SqlFault) : Except SqlFault TableName :=
  match ref.catalog?, ref.table? with
  | some catalog, _ => .error (refusal catalog)
  | none, some table => .ok table
  | none, none => .error (.noTable ref.text)

end TableRef

end ActivityLedger.Relational
