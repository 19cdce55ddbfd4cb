import ActivityLedger.Command.Options
import ActivityLedger.Settings.Setting

/-!
# Command lines

What can be asked of the program: to create the database, to record an event, and to
print the trackers of a post, a comment or a user.  Before that the database and a
file with settings may be named.
-/

namespace ActivityLedger.Command

structure Entry where
  operation : String
  actor : Option String
  owner : Option String
  contentId : String
  parentId : Option String
  vote : Option String
  views : Count
  opens : Count
  parentOwner : Option String
  commentOwner : Option String
  date : Option String
  /-- The event is recorded in a store that is given up afterwards. -/
  isTrial : Bool

/-- The days that somebody asks for, as they are written. -/
structure Span where
  first : Option String
  last : Option String

inductive Task where
  | create
  | record (entry : Entry)
  | content (kind id : String) (span : Span)
  | user (id : String) (span : Span)

structure Line where
  databasePath : Option String
  settingsFile : Option String
  task : Task

/-! ## What may be given -/

def anyText : Operand := .value fun _ => true

def anyPath : Operand := .value fun value => value != ""

def anyCount : Operand := .value fun value => (Setting.countOf value).isSome

/-- An option without a letter. -/
def OptionRule.long (name : String) (operand : Operand) : OptionRule := ⟨name, none, operand⟩

def helpRule : OptionRule := ⟨"--help", some "-h", .ends .help⟩

def programGrammar : Grammar where
  options := [
    ⟨"--log-level", some "-l", anyText⟩,
    .long "--db-path" anyText,
    .long "--config" anyPath,
    helpRule,
    ⟨"--version", some "-V", .ends .version⟩]
  commands := ["init", "record", "content", "user", helpWord]

def createGrammar : Grammar := ⟨[helpRule], []⟩

def recordGrammar : Grammar where
  options := [
    .long "--operation" anyText,
    .long "--actor" anyText,
    .long "--owner" anyText,
    .long "--content-id" anyText,
    .long "--parent-id" anyText,
    .long "--vote" anyText,
    .long "--views" anyCount,
    .long "--opens" anyCount,
    .long "--parent-owner" anyText,
    .long "--comment-owner" anyText,
    .long "--date" anyText,
    .long "--dry-run" .nothing,
    helpRule]
  commands := []

/-- The options that say whose trackers are printed, and of which days. -/
def selectionRules : List OptionRule := [
  .long "--id" anyText,
  .long "--start" anyText,
  .long "--end" anyText,
  helpRule]

def contentGrammar : Grammar := ⟨.long "--kind" anyText :: selectionRules, []⟩

def userGrammar : Grammar := ⟨selectionRules, []⟩

/-! ## Reading -/

def required (name : String) (given : Given) : Except Ending String :=
  match given.lookup name with
  | some value => .ok value
  | none => .error .refused

/-- The count that an option gives, which is zero without the option. -/
def countOption (name : String) (given : Given) : Count :=
  ((given.lookup name).bind Setting.countOf).getD Count.zero

def entryOf (given : Given) : Except Ending Entry := do
  return {
    operation := ← required "--operation" given
    actor := given.lookup "--actor"
    owner := given.lookup "--owner"
    contentId := ← required "--content-id" given
    parentId := given.lookup "--parent-id"
    vote := given.lookup "--vote"
    views := countOption "--views" given
    opens := countOption "--opens" given
    parentOwner := given.lookup "--parent-owner"
    commentOwner := given.lookup "--comment-owner"
    date := given.lookup "--date"
    isTrial := (given.lookup "--dry-run").isSome }

def spanOf (given : Given) : Span := ⟨given.lookup "--start", given.lookup "--end"⟩

def optionsOf (grammar : Grammar) (arguments : List String) : Except Ending Given :=
  (grammar.read arguments []).map Prod.fst

def helpAbout : List String → Ending
  | [] => .help
  | [word] => if programGrammar.commands.contains word then .help else .refused
  | _ :: _ :: _ => .refused

def taskOf (word : String) (arguments : List String) : Except Ending Task := do
  match word with
  | "init" => do
      let _ ← optionsOf createGrammar arguments
      return .create
  | "record" => return .record (← entryOf (← optionsOf recordGrammar arguments))
  | "content" => do
      let given ← optionsOf contentGrammar arguments
      return .content ((given.lookup "--kind").getD "post") (← required "--id" given) (spanOf given)
  | "user" => do
      let given ← optionsOf userGrammar arguments
      return .user (← required "--id" given) (spanOf given)
  | _ => throw (helpAbout arguments)

def Line.read (arguments : List String) : Except Ending Line := do
  match ← programGrammar.read arguments [] with
  | (given, some (word, rest)) =>
      return {
        databasePath := given.lookup "--db-path"
        settingsFile := given.lookup "--config"
        task := ← taskOf word rest }
  | (_, none) => throw .refused

end ActivityLedger.Command
