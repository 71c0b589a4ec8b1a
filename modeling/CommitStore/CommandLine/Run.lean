import CommitStore.CommandLine.Help
import CommitStore.Report.Basic
import CommitStore.Repository.Basic
set_option autoImplicit false

/-!
# Running a command line

A run reads the command line, opens the store it names, performs the command and shows what came of
it. It answers an exit code, the text it shows, and the tables that it leaves in the store. Only
what was committed stays: a command that fails before it commits leaves the store as it was.
-/

namespace CommitStore
namespace CommandLine

/-! ## 1. The terminal -/

/-- The numbers of columns and lines of a terminal that does not tell. -/
def defaultColumns : Nat := 80

@[inherit_doc defaultColumns]
def defaultLines : Nat := 25

/-- A size of the terminal. A variable that is not written in digits does not tell; one that looks
like digits has to be a number. -/
def readSize (value : Option String) (default : Nat) : Except Numeral.Fault Nat :=
  let digits := value.getD ""
  if digits != "" && digits.toList.all Text.looksLikeDigit then
    (Numeral.read digits).map Int.toNat
  else .ok default

/-- The width of reports. The number of lines shows nowhere, but it is read together with it. -/
def reportWidth (getVariable : String → Option String) : Except Numeral.Fault Nat := do
  let columns ← readSize (getVariable "COLUMNS") defaultColumns
  let _ ← readSize (getVariable "LINES") defaultLines
  return columns

/-! ## 2. Commands -/

/-- What is found at a path. -/
inductive Located
  | nothing
  | unreadable
  | store (tables : Tables)

/-- What a run answers. -/
structure Outcome where
  exitCode : Nat
  output : String
  /-- The tables that the run leaves, with the path of their store. -/
  left : Option (String × Tables)

/-- How much of an id a message shows. -/
def shownOid : Nat := 12

/-- The start of an id in markup. -/
def markedOid (oid : Oid) : List Char :=
  "[yellow]".toList ++ (Oid.abbreviate shownOid oid).toList ++ "[/yellow]".toList

/-- Performs a command, and answers the report on it. -/
def perform (config : Config) (width : Nat) : Command → Action Report.Result
  | .gc listsNames => do
    let o ← Repository.sweep config true
    return Report.sweep width o.scanned o.skipped o.deleted listsNames
  | .hide target => do
    let oid ← Repository.resolveCommit target
    Repository.hide config oid
    return Report.paragraph width ("Hid ".toList ++ markedOid oid)
  | .unhide target => do
    let oid ← Repository.resolveCommit target
    Repository.unhide config oid
    return Report.paragraph width ("Unhid ".toList ++ markedOid oid)
  | .log limit => do
    return Report.history width (← Repository.log (some limit))
  | .pin target => do
    let oid ← Repository.resolveCommit target
    let name ← Repository.pin config oid
    return Report.paragraph width
      ("Pinned ".toList ++ markedOid oid ++ " as ".toList ++ Markup.escape name)
  | .refs => do
    return Report.pins width (← Repository.listPins config)

/-! ## 3. Runs -/

/-- A failed run that leaves everything as it was, with the report of the error. -/
def failure (width : Nat) (message : String) : Outcome :=
  ⟨1, (Report.error width message).toOption.getD "", none⟩

/-- The answer to a command that was performed on a session. -/
def conclude (width : Nat) (path : String) (result : Except Error Report.Result) (s : Session) :
    Outcome :=
  let left := some (path, s.committed)
  let failed (message : String) : Outcome :=
    ⟨1, s.sink ++ (failure width message).output, left⟩
  match result with
  | .ok (.ok report) => ⟨0, s.sink ++ report, left⟩
  | .ok (.error fault) => failed fault.describe
  | .error e => failed e.text

/-- Opens a store and performs a command on it. -/
def performOn (width : Nat) (now : Instant) (settings : Settings) (tables : Tables)
    (command : Command) : Outcome :=
  let config : Config := { path := settings.path, mainBranch := settings.mainBranch }
  match Schema.openTables tables with
  | .error e => failure width e.text
  | .ok tables =>
    let (result, s) := (perform config width command).runOn (Session.start tables true now)
    conclude width settings.path result s

/-- What a command line answers at a point in time; `locate` finds what is at a path. -/
def answer (getVariable : String → Option String) (now : Instant) (locate : String → Located)
    (args : List String) : Outcome :=
  match readRequest getVariable args with
  | .error refusal => ⟨2, refusalPage refusal, none⟩
  | .ok (.help command askedFor) => ⟨if askedFor then 0 else 2, helpPage command, none⟩
  | .ok (.perform settings command) =>
    match reportWidth getVariable with
    -- A terminal of unreadable size stops the run before anything is shown.
    | .error _ => ⟨1, "", none⟩
    | .ok width =>
      match locate settings.path with
      | .nothing => failure width ("Database not found: " ++ settings.path)
      | .unreadable => failure width databaseText
      | .store tables => performOn width now settings tables command

/-- Runs a command line at a point in time; `locate` finds what is at a path. The lines of the
output end in newlines only. -/
def run (getVariable : String → Option String) (now : Instant) (locate : String → Located)
    (args : List String) : Outcome :=
  let outcome := answer getVariable now locate args
  { outcome with output := String.ofList (Text.joinLineEnds outcome.output.toList) }

end CommandLine
end CommitStore
