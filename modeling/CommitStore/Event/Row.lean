import CommitStore.Instant
import CommitStore.Oid
import CommitStore.Reference.Name
set_option autoImplicit false

/-!
# Events

An event records what the user did to a commit. The log keeps the kind of an event as text, so that
rows of a kind this library does not know can be kept; `EventRow.event?` reads it.

Which of the ids an event holds matter depends on its kind: `commit`, `hide` and `unhide` are about
`commit`, `replace` leads from `old` to `new`, and `refUpdate` says how a reference moved.
-/

namespace CommitStore

/-- The kinds of events. -/
inductive EventKind
  | commit
  | hide
  | unhide
  | replace
  | refUpdate
  deriving DecidableEq, Repr, Inhabited

namespace EventKind

/-- All kinds. -/
def all : List EventKind := [.commit, .hide, .unhide, .replace, .refUpdate]

/-- The text that the log keeps for a kind. -/
def text : EventKind → String
  | .commit => "commit"
  | .hide => "hide"
  | .unhide => "unhide"
  | .replace => "rewrite"
  | .refUpdate => "ref_update"

/-- The kind with the given text. -/
def ofText? (s : String) : Option EventKind := all.find? fun kind => kind.text == s

theorem ofText?_text (kind : EventKind) : ofText? kind.text = some kind := by
  cases kind <;> decide

end EventKind

/-- What an event is about. -/
structure EventSubject where
  commit : Option Oid := none
  old : Option Oid := none
  new : Option Oid := none
  ref : Option RefName := none
  deriving DecidableEq, Repr, Inhabited

/-- A row of the event log. -/
structure EventRow extends EventSubject where
  id : Nat
  transaction : Int
  kind : String
  at_ : Instant
  deriving DecidableEq, Repr, Inhabited

/-- The events of one user action. -/
structure Transaction where
  id : Nat
  message : Option String
  createdAt : Instant
  deriving DecidableEq, Repr, Inhabited

/-- An event of a known kind. -/
structure Event extends EventSubject where
  /-- What messages call the event: its id, if it has one. -/
  label : String
  kind : EventKind
  deriving DecidableEq, Repr, Inhabited

/-- The event of a row, if its kind is known. -/
def EventRow.event? (row : EventRow) : Option Event :=
  (EventKind.ofText? row.kind).map fun kind => ⟨row.toEventSubject, toString row.id, kind⟩

end CommitStore
