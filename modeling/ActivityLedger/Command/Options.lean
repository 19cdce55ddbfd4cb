/-!
# Options

A command line is a list of options with their values, and may end with the word of
a command and what is meant for it.  It is read from left to right.  The reading
ends with the first fault, and with the first option that asks for information.
-/

namespace ActivityLedger.Command

/-- Why a command line is not carried out. -/
inductive Ending where
  | refused
  /-- Somebody asks how the program is used. -/
  | help
  /-- Somebody asks for the version of the program. -/
  | version
deriving DecidableEq

inductive Operand where
  /-- The option has no value, and the reading ends with it. -/
  | ends (ending : Ending)
  /-- The option has no value. -/
  | nothing
  /-- The option has a value that satisfies a condition. -/
  | value (condition : String → Bool)

def Operand.accepts : Operand → String → Bool
  | .value condition, text => condition text
  | .ends _, _ | .nothing, _ => true

structure OptionRule where
  /-- The name, which starts with two hyphens. -/
  name : String
  /-- The same with one hyphen and a letter. -/
  short : Option String
  operand : Operand

/-- What may be given up to a command. -/
structure Grammar where
  options : List OptionRule
  commands : List String

abbrev Given := List (String × String)

inductive Argument where
  /-- The mark after which there are no options. -/
  | separator
  | option (name : String) (value : Option String)
  | word (text : String)
deriving DecidableEq

namespace Argument

/-- The form of an argument.  A hyphen alone is a word. -/
def ofText (text : String) : Argument :=
  match text.toList with
  | ['-', '-'] => .separator
  | '-' :: '-' :: cs =>
      let name := '-' :: '-' :: cs.takeWhile fun c => c != '='
      match cs.dropWhile fun c => c != '=' with
      | [] => .option (.ofList name) none
      | _ :: value => .option (.ofList name) (some (.ofList value))
  | ['-', letter] => .option (.ofList ['-', letter]) none
  | '-' :: letter :: '=' :: value => .option (.ofList ['-', letter]) (some (.ofList value))
  | '-' :: letter :: value => .option (.ofList ['-', letter]) (some (.ofList value))
  | _ => .word text

/-- The argument may be the value of the option before it. -/
def isWord (text : String) : Bool :=
  match ofText text with
  | .word _ => true
  | .separator | .option .. => false

end Argument

inductive Step where
  | stop (ending : Ending)
  | separate
  | command (word : String)
  | given (rule : OptionRule) (value : String)
  /-- The value of the option is the next argument. -/
  | wants (rule : OptionRule)

def helpWord : String := "help"

namespace Grammar

/-- What one argument does.  What is written to a letter without a value is not looked at. -/
def step (grammar : Grammar) (text : String) : Step :=
  match Argument.ofText text with
  | .separator => .separate
  | .word word => if grammar.commands.contains word then .command word else .stop .refused
  | .option name value =>
      match grammar.options.find? fun rule => rule.name == name || rule.short == some name with
      | none => .stop .refused
      | some rule =>
          match rule.operand, value with
          | .ends ending, none => .stop ending
          | .ends ending, some _ => .stop (if rule.name = name then .refused else ending)
          | .nothing, none => .given rule ""
          | .nothing, some _ => .stop .refused
          | .value _, none => .wants rule
          | .value _, some value => .given rule value

/-- The options with one more, which must be new and have a fitting value. -/
def add (rule : OptionRule) (value : String) (given : Given) : Except Ending Given :=
  if rule.operand.accepts value && (given.lookup rule.name).isNone then
    .ok (given ++ [(rule.name, value)])
  else .error .refused

def asksForHelp (grammar : Grammar) (rest : List String) : Bool :=
  grammar.commands.contains helpWord && rest.head? == some helpWord

/-- The options on a command line up to its command, with the command and what is meant for it.
The value in an argument of its own is checked as late as possible, after a word for help. -/
def read (grammar : Grammar) :
    List String → Given → Except Ending (Given × Option (String × List String))
  | [], given => .ok (given, none)
  | text :: rest, given =>
      match grammar.step text, rest with
      | .stop ending, _ => .error ending
      | .separate, [] => .ok (given, none)
      | .separate, _ :: _ => .error .refused
      | .command word, rest => .ok (given, some (word, rest))
      | .given rule value, rest =>
          match add rule value given with
          | .ok given => grammar.read rest given
          | .error ending => .error ending
      | .wants _, [] => .error .refused
      | .wants rule, value :: rest =>
          if !Argument.isWord value then .error .refused
          else if grammar.asksForHelp rest then .ok (given, some (helpWord, rest.drop 1))
          else
            match add rule value given with
            | .ok given => grammar.read rest given
            | .error ending => .error ending

end Grammar

end ActivityLedger.Command
