import ActivityLedger.Settings.Setting

/-!
# The environment

The variables that a program is started with, and the settings that some of them
carry: those whose name starts with the name of the program, with two underscores
for each dot.
-/

namespace ActivityLedger

abbrev Environment := List (String × String)

namespace Environment

def get? (environment : Environment) (name : String) : Option String := environment.lookup name

def settingStart : List Char := ['t', 'r', 'a', 'c', 'k', 'i', 'n', 'g', '_']

/-- A name with a dot for every two underscores. -/
def dotted : List Char → List Char
  | '_' :: '_' :: rest => '.' :: dotted rest
  | c :: rest => c :: dotted rest
  | [] => []

def settingName? (name : String) : Option String :=
  let cs := Text.lowerCase name.toList
  if settingStart.isPrefixOf cs then some (.ofList (dotted (cs.drop settingStart.length))) else none

def settings (environment : Environment) : List (String × Setting) :=
  environment.filterMap fun entry =>
    (settingName? entry.1).map fun name => (name, .text entry.2)

def join (path part : String) : String :=
  if path.endsWith "/" then path ++ part else path ++ "/" ++ part

/-- The directory for the data of a user's programs. -/
def dataDirectory (environment : Environment) : String :=
  let home :=
    match environment.get? "HOME" with
    | some home => if home = "" then "/root" else home
    | none => "/root"
  match environment.get? "XDG_DATA_HOME" with
  | some path => if path.startsWith "/" then path else join home ".local/share"
  | none => join home ".local/share"

end Environment

end ActivityLedger
