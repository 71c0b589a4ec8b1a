import CommitStore.CommandLine.Options
import CommitStore.Numeral
import CommitStore.Text.Quoted
set_option autoImplicit false

/-!
# Commands

The commands with the options and arguments they take, and how a command line is read into a
`Request`. The options of the program itself come before the command. Asking for help wins over
faults of the arguments, but not over options that cannot be read.
-/

namespace CommitStore
namespace CommandLine

/-! ## 1. What there is -/

/-- The name under which the program is called. -/
def programName : String := "branchkeep"

/-- The names of the commands. -/
inductive CommandName
  | gc
  | hide
  | log
  | pin
  | refs
  | unhide
  deriving DecidableEq, Repr

/-- All commands in the order in which the help lists them. -/
def CommandName.all : List CommandName := [.gc, .hide, .log, .pin, .refs, .unhide]

/-- The word for a command. -/
def CommandName.text : CommandName → String
  | .gc => "gc"
  | .hide => "hide"
  | .log => "log"
  | .pin => "pin"
  | .refs => "refs"
  | .unhide => "unhide"

/-- The option that asks for help. -/
def helpOption : OptionSpec := ⟨none, "--help", none, "Show this message and exit."⟩

/-- The options of the program. -/
def programOptions : List OptionSpec :=
  [⟨none, "--db", some "TEXT", "Path to the repository database."⟩,
    ⟨none, "--main-branch", some "TEXT", "Name of the main branch."⟩, helpOption]

/-- The options of a command. -/
def CommandName.options : CommandName → List OptionSpec
  | .gc => [⟨some 'v', "--verbose", none, "List each deleted reference."⟩, helpOption]
  | .log =>
    [⟨some 'n', "--limit", some "INTEGER", "Maximum number of commits to show."⟩, helpOption]
  | _ => [helpOption]

/-- Whether a command takes a commit to work on. -/
def CommandName.takesTarget : CommandName → Bool
  | .hide | .unhide | .pin => true
  | .gc | .log | .refs => false

/-- What the help calls the commit that a command works on. -/
def targetName : String := "TARGET"

/-- What the help says of the program. -/
def programHelp : List String :=
  ["branchkeep: keep visible commits alive across garbage collection."]

/-- What the help says of a command, paragraph by paragraph. -/
def CommandName.help : CommandName → List String
  | .gc =>
    ["Delete reserved references to commits that left the visible set.",
      "Branches, tags and HEAD are never touched."]
  | .hide => ["Hide TARGET. Its pin is released by the next gc."]
  | .log => ["Show first-parent history from HEAD backward."]
  | .pin =>
    ["Pin TARGET so native garbage collection keeps it.",
      "TARGET can be a commit id, id prefix (min 4 chars), branch, or ref name."]
  | .refs => ["List reserved references and whether gc would keep them."]
  | .unhide => ["Make TARGET visible again and re-pin it."]

/-! ## 2. What can be wrong -/

/-- Why a command line is refused. -/
inductive UsageFault
  | option (fault : OptionFault)
  | missingCommand
  | unknownCommand (name : String) (similar : List String)
  | missingTarget
  | extraArguments (arguments : List String)
  | notAnInteger (value : String)
  deriving DecidableEq, Repr

/-- Names that may have been meant, as a remark. -/
def remarkOnSimilar : List String → String
  | [] => ""
  | [one] => " Did you mean " ++ Text.quoted one ++ "?"
  | several =>
    " (Did you mean one of: " ++ ", ".intercalate (several.map Text.quoted) ++ "?)"

/-- The fault in words. -/
def UsageFault.describe : UsageFault → String
  | .option (.unknown name similar) =>
    "No such option " ++ Text.quoted name ++ "." ++ remarkOnSimilar similar
  | .option (.valueMissing name) => "Option '" ++ name ++ "' requires an argument."
  | .option (.valueUnwanted name) => "Option '" ++ name ++ "' does not take a value."
  | .missingCommand => "Missing command."
  | .unknownCommand name similar =>
    "No such command " ++ Text.quoted name ++ "." ++ remarkOnSimilar similar
  | .missingTarget => "Missing argument '" ++ targetName ++ "'."
  | .extraArguments [one] => "Got unexpected extra argument (" ++ one ++ ")"
  | .extraArguments several =>
    "Got unexpected extra arguments (" ++ " ".intercalate several ++ ")"
  | .notAnInteger value =>
    "Invalid value for '-n' / '--limit': " ++ Text.quoted value ++ " is not a valid integer."

/-- Whether the fault is shown together with the usage of the command. A fault in the value of an
option is found before it is known which command the option belongs to. -/
def UsageFault.showsUsage : UsageFault → Bool
  | .option (.valueMissing _) | .option (.valueUnwanted _) => false
  | _ => true

/-! ## 3. Requests -/

/-- A command with its arguments. -/
inductive Command
  | gc (listsNames : Bool)
  | hide (target : String)
  | log (limit : Int)
  | pin (target : String)
  | refs
  | unhide (target : String)
  deriving DecidableEq, Repr

/-- Where the command works. -/
structure Settings where
  path : String
  mainBranch : String
  deriving DecidableEq, Repr

/-- What a command line asks for. -/
inductive Request
  /-- The help of the program or of a command; `askedFor` if an option asked for it. -/
  | help (command : Option CommandName) (askedFor : Bool)
  | perform (settings : Settings) (command : Command)
  deriving DecidableEq, Repr

/-- A fault with the command that was being read. -/
structure Refusal where
  command : Option CommandName
  fault : UsageFault
  deriving DecidableEq, Repr

/-- How many commits a history shows unless it is told. -/
def defaultLimit : Int := 20

/-- The limit of a history. -/
def readLimit (value : Option String) : Except UsageFault Int :=
  match value with
  | none => .ok defaultLimit
  | some s =>
    match Numeral.read s with
    | .ok n => .ok n
    | .error _ => .error (.notAnInteger s)

/-- A command whose options have been read, with its target if it takes one. -/
def CommandName.build (name : CommandName) (r : Reading) (target : String) :
    Except UsageFault Command :=
  match name with
  | .gc => .ok (.gc (r.has "--verbose"))
  | .hide => .ok (.hide target)
  | .log => (readLimit (r.value? "--limit")).map .log
  | .pin => .ok (.pin target)
  | .refs => .ok .refs
  | .unhide => .ok (.unhide target)

/-- Reads the arguments of a command; `none` if they ask for help. -/
def CommandName.read (name : CommandName) (args : List String) :
    Except UsageFault (Option Command) := do
  let r ← (readArguments name.options true args).mapError .option
  if r.has helpOption.long then return none
  let (target, extra) ←
    if name.takesTarget then
      match r.others with
      | [] => throw .missingTarget
      | target :: extra => pure (target, extra)
    else pure ("", r.others)
  -- A value that cannot be read is reported before arguments that are too many.
  let command ← name.build r target
  if extra.isEmpty then return some command else throw (.extraArguments extra)

/-- The variables that stand in for options that are not given, and the values of last resort. -/
def settings (getVariable : String → Option String) (r : Reading) : Settings where
  path := (r.value? "--db" <|> nonempty (getVariable "BRANCHKEEP_DB")).getD ".branchkeep.db"
  mainBranch :=
    (r.value? "--main-branch" <|> nonempty (getVariable "BRANCHKEEP_MAIN_BRANCH")).getD "main"
where
  /-- A variable without text counts as not set. -/
  nonempty : Option String → Option String
    | some "" => none
    | value => value

/-- The command of a name. A name that is written like an option was kept from being read as one,
and is read as one after all. -/
def commandNamed (args : List String) (name : String) : Except UsageFault (Option CommandName) :=
  match CommandName.all.find? (·.text == name) with
  | some command => .ok (some command)
  | none => do
    if looksLikeOption name then
      let r ← (readArguments programOptions false args).mapError .option
      if r.has helpOption.long then return none
    throw (.unknownCommand name (Text.similarNames (CommandName.all.map (·.text)) name))

/-- Reads a command line. -/
def readRequest (getVariable : String → Option String) (args : List String) :
    Except Refusal Request := do
  if args.isEmpty then return .help none false
  let ofProgram (fault : UsageFault) : Refusal := ⟨none, fault⟩
  let r ← (readArguments programOptions false args).mapError fun fault => ofProgram (.option fault)
  -- Help of the program wins over a missing or unknown command.
  if r.has helpOption.long then return .help none true
  match r.others with
  | [] => throw (ofProgram .missingCommand)
  | name :: rest =>
    match ← (commandNamed (name :: rest) name).mapError ofProgram with
    | none => return .help none true
    | some command =>
      match ← (command.read rest).mapError fun fault => ⟨some command, fault⟩ with
      | none => return .help (some command) true
      | some performed => return .perform (settings getVariable r) performed

end CommandLine
end CommitStore
