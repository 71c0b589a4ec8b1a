import CommitStore.Error
import CommitStore.Session.Tables
set_option autoImplicit false

/-!
# Sessions

A session works on a copy of the committed tables until it commits or rolls back. A change that
breaks a rule of the tables undoes the whole open transaction and leaves the session broken: nothing
but a rollback works after it. The tables of a store that is not durable are gone once the session
is closed.

An `Action` is a step of a session that may fail. It keeps the changes it made before it failed, as
the open transaction does. `read` and `changeUnless` are the only ways to the tables; each says on
its own what a broken or a gone store answers.
-/

namespace CommitStore

/-- What the reference store of a session has been told to refuse. -/
structure Refusals where
  /-- References that cannot be deleted. -/
  deletions : List RefName := []
  /-- Whether the references cannot be listed. -/
  listing : Bool := false
  /-- Whether no name is accepted for a pin. -/
  names : Bool := false
  deriving DecidableEq, Repr, Inhabited

/-- An open store. -/
structure Session where
  committed : Tables
  /-- The tables as the open transaction sees them. -/
  working : Tables
  broken : Bool
  /-- Whether the broken session still holds a row that it was asked to write. -/
  holdsRow : Bool
  closed : Bool
  /-- Whether the tables outlive the session. -/
  durable : Bool
  refusals : Refusals
  now : Instant
  /-- What was written to the sink of progress lines. -/
  sink : String
  deriving Inhabited

namespace Session

/-- A session on committed tables. -/
def start (tables : Tables) (durable : Bool) (now : Instant) : Session :=
  { committed := tables, working := tables, broken := false, holdsRow := false,
    closed := false, durable, refusals := {}, now, sink := "" }

/-- Whether the tables are gone. -/
def isGone (s : Session) : Bool := s.closed && !s.durable

/-- The session with the open transaction undone. -/
def rolledBack (s : Session) : Session :=
  { s with working := s.committed, broken := false, holdsRow := false }

/-- The session after its open transaction was made part of the store. -/
def committing (s : Session) : Session := { s with committed := s.working }

/-- The session after a change that breaks a rule. -/
def failed (s : Session) : Session := { s with working := s.committed, broken := true }

end Session

/-- A step of a session. -/
abbrev Action (α : Type) := ExceptT Error (StateM Session) α

namespace Action

variable {α : Type}

/-- Runs an action on a session. -/
def runOn (action : Action α) (s : Session) : Except Error α × Session := action s

/-- The action that answers and leaves the session as a function of the session says. -/
def ofFunction (f : Session → Except Error α × Session) : Action α := f

/-! ## 1. The tables -/

/-- Looks at the tables. -/
def read (look : Tables → α) : Action α := ofFunction fun s =>
  if s.broken then (.error (.database .pendingRollback), s)
  else if s.isGone then (.error (.database .unavailable), s)
  else (.ok (look s.working), s)

/-- Changes the tables; `none` stands for a change that is refused, as `refusal` says. -/
def changeUnless (refusal : Error) (edit : Tables → Option (α × Tables)) : Action α :=
  ofFunction fun s =>
    if s.broken then (.error (.database .pendingRollback), { s with holdsRow := true })
    else if s.isGone then (.error (.database .unavailable), s.failed)
    else
      match edit s.working with
      | some (answer, tables) => (.ok answer, { s with working := tables })
      | none => (.error refusal, s.failed)

/-- Changes the tables; `none` stands for a change that breaks a rule. -/
def change (edit : Tables → Option (α × Tables)) : Action α :=
  changeUnless (.database .integrity) edit

/-- Changes the tables in a way that breaks no rule. -/
def update (edit : Tables → Tables) : Action Unit := change fun t => some ((), edit t)

/-- Writes what the session holds. Only a broken session holds anything that was not written when it
was asked for. -/
def flush : Action Unit := ofFunction fun s =>
  if s.holdsRow then (.error (.database .pendingRollback), s) else (.ok (), s)

/-- The point in time at which the action runs. -/
def now : Action Instant := ofFunction fun s => (.ok s.now, s)

/-- What the reference store has been told to refuse. -/
def refusals : Action Refusals := ofFunction fun s => (.ok s.refusals, s)

/-- An action whose database errors are reported as a failed operation of the store. -/
def accessing (operation : String) (name : Option RefName) (action : Action α) : Action α :=
  ofFunction fun s =>
    match action.runOn s with
    | (.error (.database _), s) => (.error (.storeAccess operation name .database), s)
    | answer => answer

/-! ## 2. Transactions -/

/-- Makes the open transaction part of the store. -/
def commit : Action Unit := ofFunction fun s =>
  if s.broken then (.error (.database .pendingRollback), s) else (.ok (), s.committing)

/-- Undoes the open transaction. -/
def rollback : Action Unit := ofFunction fun s => (.ok (), s.rolledBack)

/-- Closes the session; what was not committed is lost. -/
def close : Action Unit := ofFunction fun s =>
  (.ok (), if s.closed then s else { s.rolledBack with closed := true })

/-! ## 3. The sink -/

/-- Writes a line to the sink. -/
def writeLine (line : String) : Action Unit := ofFunction fun s =>
  (.ok (), { s with sink := s.sink ++ line ++ "\n" })

end Action
end CommitStore
