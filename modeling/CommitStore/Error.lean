import CommitStore.Json.Display
import CommitStore.Record.Field
import CommitStore.Reference.Table
set_option autoImplicit false

/-!
# Errors

An `Error` is a cause with the data it is about. `Error.message?` is the only place that puts errors
into words; errors of the database have no words of their own, and where another error quotes one a
fixed placeholder stands for it.

The kinds form a hierarchy: every error of this library is a general one, and a failure to compute
the visible set is also a failure of the collection.
-/

namespace CommitStore

/-! ## 1. Kinds -/

/-- The kinds of errors that belong to the library. -/
inductive ErrorKind
  | general
  | objectNotFound
  | resolution
  | storeAccess
  | invalidReferenceName
  | invalidBranchName
  | branchExists
  | branchNotFound
  | ambiguousStart
  | eventLog
  | collection
  | visibility
  deriving DecidableEq, Repr, Inhabited

/-- The kinds that a kind belongs to, itself first and the most general one last. -/
def ErrorKind.lineage : ErrorKind → List ErrorKind
  | .general => [.general]
  | .visibility => [.visibility, .collection, .general]
  | kind => [kind, .general]

/-! ## 2. Causes -/

/-- Why access to the store failed or a name was refused. -/
inductive Reason
  | chain (fault : RefTable.Fault)
  | name (fault : RefName.Fault)
  | branch (fault : RefName.BranchFault)
  | notReserved
  | rejected
  | database
  | newerSchema (found supported : String)
  | stated (words : String)
  deriving DecidableEq, Repr

/-- What the database does not do. -/
inductive DatabaseFault
  /-- A row breaks a rule of its table. -/
  | integrity
  /-- The transaction failed earlier and has not been rolled back. -/
  | pendingRollback
  /-- The tables are gone. -/
  | unavailable
  /-- A pattern is too long to be matched. -/
  | longPattern
  deriving DecidableEq, Repr

/-- Everything that can go wrong. -/
inductive Error
  | objectNotFound (oid : Oid)
  | unresolved (name : RefName) (reason : Reason)
  | storeAccess (operation : String) (name : Option RefName) (reason : Reason)
  | invalidReferenceName (name : RefName) (reason : Reason)
  | invalidBranchName (name : String) (reason : Reason)
  | branchExists (name : String)
  | branchNotFound (name : String)
  | ambiguousStart (start : String) (candidates : List Oid)
  | noCommits
  | currentBranch (name : String)
  | notACommit (name : String)
  | unknownEvent (kind : String) (event : Nat)
  | unreplayable (kind : Json.Value)
  | missingId (event : String) (kind : String)
  | visibility (cause : Error)
  | shortStart (length : Nat)
  | unknownEventKind (kind : String)
  | malformedNumber (text : String)
  | longNumber (digits : Nat)
  /-- A number that has too many digits to be written. -/
  | unwritableNumber
  | fields (faults : List Record.FieldFault)
  | database (fault : DatabaseFault)
  /-- A number that does not fit into a row. -/
  | wideNumber
  | provider (words : String)
  | stated (kind : ErrorKind) (words : String)
  deriving Repr

/-- The kind of an error; `none` for errors that come from outside the library's hierarchy. -/
def Error.kind? : Error → Option ErrorKind
  | .objectNotFound _ => some .objectNotFound
  | .unresolved _ _ => some .resolution
  | .storeAccess _ _ _ => some .storeAccess
  | .invalidReferenceName _ _ => some .invalidReferenceName
  | .invalidBranchName _ _ => some .invalidBranchName
  | .branchExists _ => some .branchExists
  | .branchNotFound _ => some .branchNotFound
  | .ambiguousStart _ _ => some .ambiguousStart
  | .noCommits | .currentBranch _ | .notACommit _ => some .general
  | .unknownEvent _ _ | .unreplayable _ | .missingId _ _ => some .eventLog
  | .visibility _ => some .visibility
  | .stated kind _ => some kind
  | .shortStart _ | .unknownEventKind _ | .malformedNumber _ | .longNumber _
  | .unwritableNumber => none
  | .fields _ | .database _ | .wideNumber | .provider _ => none

/-! ## 3. Words -/

/-- What stands for the text of a database error. -/
def databaseText : String := "<sql>"

/-- The reason in words. -/
def Reason.describe : Reason → String
  | .chain fault => fault.describe
  | .name fault => fault.describe
  | .branch fault => fault.describe
  | .notReserved => "not a reserved GC reference name"
  | .rejected => "rejected by reference store"
  | .database => databaseText
  | .newerSchema found supported =>
    "schema version " ++ found ++ " is newer than supported " ++ supported
  | .stated words => words

namespace Error

/-- How many candidates an ambiguous start lists, and how much of each. -/
def shownCandidates : Nat := 5

@[inherit_doc shownCandidates]
def shownCharacters : Nat := 12

/-- How much of a quoted text a malformed number shows. -/
def shownNumber : Nat := 200

/-- The candidates of an ambiguous start, shortened. -/
def listCandidates (candidates : List Oid) : String :=
  ", ".intercalate
    ((candidates.take shownCandidates).map fun oid => Oid.abbreviate shownCharacters oid ++ "...")

/-- The operation and the reference that it was about, if it was about one. -/
def accessText (operation : String) (name : Option RefName) : String :=
  match name with
  | none | some "" => operation
  | some name => operation ++ " " ++ name

/-- That a number has too many digits; `detail` says more of the number. -/
def digitLimitText (detail : String) : String :=
  "Exceeds the limit (" ++ toString Numeral.maxDigits ++
    " digits) for integer string conversion" ++ detail ++
    "; use sys.set_int_max_str_digits() to increase the limit"

/-- The message of an error; database errors have none, and faults of fields are listed one by
one. -/
def message? : Error → Option String
  | .objectNotFound oid => some ("Object not found: " ++ oid)
  | .unresolved name reason =>
    some ("Cannot resolve reference '" ++ name ++ "': " ++ reason.describe)
  | .storeAccess operation name reason =>
    some (accessText operation name ++ " failed: " ++ reason.describe)
  | .invalidReferenceName name reason =>
    some ("Invalid reference name '" ++ name ++ "': " ++ reason.describe)
  | .invalidBranchName name reason =>
    some ("Invalid branch name '" ++ name ++ "': " ++ reason.describe)
  | .branchExists name => some ("Branch already exists: " ++ name)
  | .branchNotFound name => some ("Branch not found: " ++ name)
  | .ambiguousStart start candidates =>
    some ("Ambiguous prefix '" ++ start ++ "'. Matches: " ++ listCandidates candidates)
  | .noCommits => some "Cannot create branch: no commits exist"
  | .currentBranch name => some ("Cannot delete the current branch '" ++ name ++ "'")
  | .notACommit name => some ("'" ++ name ++ "' does not point to a commit")
  | .unknownEvent kind event =>
    some ("Unknown event type " ++ Text.quoted kind ++ " in event " ++ toString event)
  | .unreplayable kind =>
    some ("Cannot replay event type " ++ kind.display)
  | .missingId event kind =>
    some ("Event " ++ event ++ " (" ++ kind ++ ") is missing a commit id")
  | .visibility cause =>
    some ("Computing visible commits failed: " ++ cause.message?.getD databaseText)
  | .shortStart length =>
    some ("Prefix must be at least 4 characters, got " ++ toString length)
  | .unknownEventKind kind => some (Text.quoted kind ++ " is not a valid EventType")
  | .malformedNumber text =>
    some ("invalid literal for int() with base 10: " ++
      String.ofList ((Text.quoted text).toList.take shownNumber))
  | .longNumber digits =>
    some (digitLimitText (": value has " ++ toString digits ++ " digits"))
  | .unwritableNumber => some (digitLimitText "")
  | .fields _ | .database _ => none
  | .wideNumber => some "Python int too large to convert to SQLite INTEGER"
  | .provider words => some words
  | .stated _ words => some words

/-- The message of an error, or what stands for it. -/
def text (e : Error) : String := e.message?.getD databaseText

end Error
end CommitStore
