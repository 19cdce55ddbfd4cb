import ActivityLedger.Command.Line
import ActivityLedger.Command.Report
import ActivityLedger.Exchange.Outcomes
import ActivityLedger.Json.Printer
import ActivityLedger.Record.Recording
import ActivityLedger.Settings.Source
import ActivityLedger.Store.Memory

/-!
# Runs

A run of the program takes arguments, the environment, today's date and the files,
and gives a report and the files it leaves.
-/

namespace ActivityLedger.Command

open Relational (Database)

/-- What a run does to files: it gives a text to print, or fails, and leaves files. -/
abbrev Action := Files → Except Error String × Files

structure Surroundings where
  environment : Environment
  today : Date

def failing (error : Error) : Action := fun files => (.error error, files)

def printed (value : Json.Value) : String := value.pretty ++ "\n"

/-- An action on the configured database, which is kept in its file afterwards. -/
def onDatabase (surroundings : Surroundings) (settings : Settings) (create : Bool)
    (act : Database → Except Error String × Database) : Action := fun files =>
  match settings.location surroundings.environment with
  | .error error => (.error error, files)
  | .ok location =>
      match files.openLocation location create with
      | (.error error, files) => (.error error, files)
      | (.ok database, files) =>
          let (result, database) := act database
          (result, files.saveAt location database)

def create (surroundings : Surroundings) (settings : Settings) : Action :=
  onDatabase surroundings settings true fun database =>
    let result : Except Error String := do
      database.checkHealth
      let path := settings.databasePath surroundings.environment
      let count := (← database.appliedMigrations).length
      return "✓ Database initialized: " ++ path ++ s!" ({count} migrations)\n"
    (result, database)

/-- The date that is written, or today where none is. -/
def dateOr (today : Date) : Option String → Except Error Date
  | some text => Date.ofCompact text
  | none => .ok today

def dateOf? : Option String → Except Error (Option Date)
  | some text => (Date.ofCompact text).map some
  | none => .ok none

namespace Entry

/-- The owner that is given, or else the actor. -/
def contentOwner (entry : Entry) : String := (entry.owner.or entry.actor).getD ""

def event (entry : Entry) : Except Error Event := do
  let operation ← Operation.ofWord entry.operation
  let vote ←
    match entry.vote with
    | some word => (Vote.ofWord word).map some
    | none => pure none
  return {
    operation := operation
    actor := match entry.actor with
      | some id => .user id
      | none => .anonymous
    contentOwnerId := entry.contentOwner
    contentKind := operation.content
    isNewContent := operation.creates
    contentId := entry.contentId
    parentContentId := entry.parentId
    vote := vote
    viewCount := entry.views
    openCount := entry.opens }

def registry (entry : Entry) (event : Event) : Registry :=
  let withParent :=
    match entry.parentId, entry.parentOwner with
    | some post, some author => Registry.empty.withPost post author
    | _, _ => .empty
  if event.operation = .updateComment then
    withParent.withComment entry.contentId (entry.commentOwner.getD entry.contentOwner)
  else withParent

end Entry

def recordIn {σ : Type} (store : Store σ) (today : Date) (entry : Entry) (event : Event)
    (state : σ) : Except Error String × σ :=
  match dateOr today entry.date with
  | .error error => (.error error, state)
  | .ok date =>
      let (result, next) := record store (entry.registry event).directory event date state
      (result.map fun outcome => printed outcome.toValue, next)

/-- Records an event, and in a trial leaves nothing. -/
def recordEntry (surroundings : Surroundings) (settings : Settings) (entry : Entry) : Action :=
  match entry.event with
  | .error error => failing error
  | .ok event =>
      if entry.isTrial then fun files =>
        ((recordIn Memory.store surroundings.today entry event Memory.empty).1, files)
      else
        onDatabase surroundings settings false
          (recordIn Database.store surroundings.today entry event)

def printContent (surroundings : Surroundings) (settings : Settings) (kind id : String)
    (span : Span) : Action :=
  match ContentKind.ofWord kind with
  | .error error => failing error
  | .ok kind =>
      onDatabase surroundings settings false fun database =>
        let result : Except Error String := do
          let request : Request := ⟨id, ← dateOf? span.first, ← dateOf? span.last⟩
          let selection ← selectContent Database.store settings.dayLimit surroundings.today kind
            request database
          return printed selection.toValue
        (result, database)

def printUser (surroundings : Surroundings) (settings : Settings) (id : String) (span : Span) :
    Action :=
  onDatabase surroundings settings false fun database =>
    let result : Except Error String := do
      let request : Request := ⟨id, ← dateOf? span.first, ← dateOf? span.last⟩
      let selection ←
        selectUser Database.store settings.dayLimit surroundings.today request database
      return printed selection.toValue
    (result, database)

def perform (surroundings : Surroundings) (settings : Settings) : Task → Action
  | .create => create surroundings settings
  | .record entry => recordEntry surroundings settings entry
  | .content kind id span => printContent surroundings settings kind id span
  | .user id span => printUser surroundings settings id span

def pathVariable : String := "TRACKING_DB_PATH"

/-- The settings of a run.  The command line decides about the database before the environment,
and both before the other settings. -/
def settingsOf (environment : Environment) (files : Files) (line : Line) :
    Except Error Settings := do
  let settings ← Settings.loadFrom environment files line.settingsFile
  match line.databasePath.or (environment.get? pathVariable) with
  | some path => return { settings with path := some path }
  | none => return settings

def usage : String :=
  "Usage: tracking [OPTIONS] <COMMAND>\n\n" ++
  "Commands: init, record, content, user, help\n"

def versionLine : String := "tracking 0.4.0\n"

def Ending.report : Ending → Report
  | .refused => .refused
  | .help => .done usage
  | .version => .done versionLine

def run (surroundings : Surroundings) (arguments : List String) (files : Files) :
    Report × Files :=
  match Line.read arguments with
  | .error ending => (ending.report, files)
  | .ok line =>
      match settingsOf surroundings.environment files line with
      | .error error => (.failed error, files)
      | .ok settings =>
          let (result, next) := perform surroundings settings line.task files
          (.ofResult result, next)

/-- The file in which a run keeps its database, if there is one. -/
def databaseFile? (environment : Environment) (arguments : List String) (files : Files) :
    Option String :=
  match Line.read arguments with
  | .error _ => none
  | .ok line =>
      match (settingsOf environment files line).bind fun settings =>
          settings.location environment with
      | .ok (.file path) => some path
      | _ => none

end ActivityLedger.Command
