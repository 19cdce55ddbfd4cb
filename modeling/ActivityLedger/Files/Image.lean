import ActivityLedger.Exchange.Trackers
import ActivityLedger.Files.Opening
import ActivityLedger.Json.Printer
import ActivityLedger.Json.Reader

/-!
# Images

A database as the bytes of its file: the mark that every database starts with, and
after it the tables as a JSON object.
-/

namespace ActivityLedger

open Json Relational

/-- A number of either sort is a number or a pair, an infinity its sign, a text itself. -/
instance : Format Cell where
  write
    | .integer n => .of n
    | .real (.finite mantissa exponent) =>
        .list [.number (.integer mantissa), .number (.integer exponent)]
    | .real (.infinite negative) => .of negative
    | .text s => .of s
  read?
    | .list [mantissa, exponent] => do
        return .real (.finite (← mantissa.int?) (← exponent.int?))
    | .bool negative => some (.real (.infinite negative))
    | .text s => some (.text s)
    | value => (read? value).map .integer

instance {κ : Type} [Vocabulary κ] : Format (ContentRow κ) where
  write row := .object [
    ("number", .of row.number),
    ("content_id", .of row.contentId),
    ("author_id", .of row.authorId),
    ("day", .of row.day),
    ("counters", .of row.counters)]
  read? value := do
    match ← fields? ["number", "content_id", "author_id", "day", "counters"] value with
    | [number, contentId, authorId, day, counters] =>
        return {
          number := ← requiredField number
          contentId := ← requiredField contentId
          authorId := ← requiredField authorId
          day := ← requiredField day
          counters := ← requiredField counters }
    | _ => none

instance : Format UserRow where
  write row := .object [
    ("number", .of row.number),
    ("user_id", .of row.userId),
    ("month", .of row.month),
    ("days_in_month", .of row.daysInMonth),
    ("counters", .of row.counters)]
  read? value := do
    match ← fields? ["number", "user_id", "month", "days_in_month", "counters"] value with
    | [number, userId, month, daysInMonth, counters] =>
        return {
          number := ← requiredField number
          userId := ← requiredField userId
          month := ← requiredField month
          daysInMonth := ← requiredField daysInMonth
          counters := ← requiredField counters }
    | _ => none

instance : Format DayRow where
  write row := .object [
    ("number", .of row.number),
    ("day", .of row.day),
    ("counters", .of row.counters)]
  read? value := do
    match ← fields? ["number", "day", "counters"] value with
    | [number, day, counters] =>
        return {
          number := ← requiredField number
          day := ← requiredField day
          counters := ← requiredField counters }
    | _ => none

instance {ρ : Type} [Format ρ] : Format (Shelf ρ) where
  write shelf := .object (shelf.entries.map fun entry => (entry.1, .of entry.2))
  read?
    | .object members =>
        members.foldlM (fun shelf member => do
          return shelf.insert member.1 (← read? member.2)) Shelf.empty
    | _ => none

instance {ρ : Type} [Format ρ] : Format (Table ρ) where
  write
    | .missing => .null
    | .foreign => .list []
    | .rows shelf => .of shelf
  read?
    | .null => some .missing
    | .list [] => some .foreign
    | value => (read? value).map .rows

instance : Format Database where
  write database := .object [
    ("posts", .of database.posts),
    ("comments", .of database.comments),
    ("users", .of database.users),
    ("days", .of database.days),
    ("migrations", .of database.migrations)]
  read? value := do
    match ← fields? ["posts", "comments", "users", "days", "migrations"] value with
    | [posts, comments, users, days, migrations] =>
        return {
          posts := ← requiredField posts
          comments := ← requiredField comments
          users := ← requiredField users
          days := ← requiredField days
          migrations := ← requiredField migrations }
    | _ => none

def FileContent.toBytes : FileContent → List UInt8
  | .bytes content => content
  | .database tables => Heading.start ++ Text.bytes (Value.of tables).compact

/-- The database whose image given bytes are. -/
def readImage? (content : List UInt8) : Option Database := do
  guard (content.take Heading.start.length = Heading.start)
  let text ← String.fromUTF8? ⟨(content.drop Heading.start.length).toArray⟩
  read? (← Value.read? text)

def FileContent.ofBytes (content : List UInt8) : FileContent :=
  match readImage? content with
  | some tables => .database tables
  | none => .bytes content

end ActivityLedger
