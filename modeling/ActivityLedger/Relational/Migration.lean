import ActivityLedger.Error
import ActivityLedger.Relational.Database

/-!
# Migrations

There is one migration, which creates the tables and their indexes.  What exists
already stays as it is.  A migration that was applied is noted and not run again.
-/

namespace ActivityLedger.Relational

def schemaName : String := "001_tracker_schema.sql"

def postIndexStatement : String :=
  "CREATE INDEX IF NOT EXISTS idx_post_trackers_post ON post_trackers(post_id, id);"

namespace Database

def blank : Database := ⟨.missing, .missing, .missing, .missing, none⟩

/-- The table, or an empty one where it is missing. -/
def created {ρ : Type} : Table ρ → Table ρ
  | .missing => .rows .empty
  | table => table

def withSchema (database : Database) : Database :=
  { database with
    posts := created database.posts
    comments := created database.comments
    users := created database.users
    days := created database.days }

/-- The second statement of the schema fails on a foreign table of posts. -/
def schemaFault (database : Database) : Option Error :=
  match database.posts with
  | .foreign => some (.migration (s!"Failed to execute statement #2 in {schemaName}: " ++
      (SqlFault.noColumn "post_id").shown ++ "\nStatement: " ++ postIndexStatement))
  | .missing | .rows _ => none

/-- Applies the migrations that were not applied yet.  The list of those that were is created
where it is missing, even if a migration fails. -/
def migrate (database : Database) : Except Error Unit × Database :=
  let applied := database.migrations.getD []
  let noted := { database with migrations := some applied }
  if schemaName ∈ applied then (.ok (), noted)
  else
    match noted.schemaFault with
    | some error => (.error error, noted)
    | none => (.ok (), { noted.withSchema with migrations := some (applied ++ [schemaName]) })

def appliedMigrations (database : Database) : Except Error (List String) :=
  match database.migrations with
  | some applied => .ok applied
  | none => .error (.database (SqlFault.noTable TableName.migrations.name).shown)

/-- The list of migrations can be read. -/
def checkHealth (database : Database) : Except Error Unit :=
  match database.migrations with
  | some _ => .ok ()
  | none =>
      .error (.database
        ("Health check failed: " ++ (SqlFault.noTable TableName.migrations.name).shown))

def fresh : Database := blank.migrate.2

end Database

end ActivityLedger.Relational
