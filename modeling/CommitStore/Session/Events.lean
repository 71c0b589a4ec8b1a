import CommitStore.Event.Record
import CommitStore.Session.References
import CommitStore.VisibleSet
set_option autoImplicit false

/-!
# The event log of a session, and what it makes visible

Recording transactions and events, reading the log back, and replaying it. The log may hold rows of
a kind that this library does not know; reading such a log fails as a whole. The visible set is
computed from the replayed log, the head and the branches, and leaves its questions to the
merge-base cache behind.
-/

namespace CommitStore
namespace EventLog

open CommitStore.Action (read change changeUnless)

/-! ## 1. Recording -/

/-- Opens a transaction of events, and answers its number. -/
def newTransaction (message : Option String) : Action Nat := do
  let now ← Action.now
  change fun t => some (t.addTransaction message now)

/-- The numbers that fit into a row lie from minus this limit on up to below it. -/
def rowLimit : Int := 0x8000000000000000

/-- Adds an event of any kind to a transaction. -/
def addRow (kind : String) (transaction : Int) (subject : EventSubject) : Action EventRow := do
  let now ← Action.now
  let fits := decide (-rowLimit ≤ transaction) && decide (transaction < rowLimit)
  changeUnless (if fits then .database .integrity else .wideNumber) fun t =>
    if t.hasTransaction transaction then some (t.addEvent kind transaction subject now) else none

/-- Adds an event to a transaction. -/
def add (kind : EventKind) (transaction : Int) (subject : EventSubject) : Action EventRow :=
  addRow kind.text transaction subject

/-! ## 2. Reading -/

/-- The rows whose kinds are known, or the first row whose kind is not. -/
def checkKinds : List EventRow → Except Error (List Event)
  | [] => .ok []
  | row :: rest =>
    match row.event? with
    | none => .error (.unknownEvent row.kind row.id)
    | some event => (checkKinds rest).map (event :: ·)

/-- The rows of the log, oldest first. -/
def rows : Action (List EventRow) := do
  let rows ← read (·.events)
  match checkKinds rows with
  | .ok _ => pure rows
  | .error e => throw e

/-- What the rows of a log add up to. -/
def replayRows (rows : List EventRow) : Except Error Replay := do
  (Replay.ofEvents (← checkKinds rows)).mapError Replay.MissingId.toError

/-- What the log adds up to. -/
def replay : Action Replay := do
  match replayRows (← read (·.events)) with
  | .ok r => pure r
  | .error e => throw e

/-! ## 3. The visible set -/

/-- The direct target of a branch. -/
def branchTip? (refs : RefTable) (branch : String) : Option Oid :=
  (refs.get? (RefName.ofBranch branch)).bind (·.target)

/-- The roots of the visible set of a repository with the given main branch. -/
def rootsOf (t : Tables) (mainBranch : String) (active : List Oid) : VisibleSet.Roots where
  head := RefStore.headOf t.refs
  main := branchTip? t.refs mainBranch
  branches := (RefStore.branchNames t.refs).filterMap (branchTip? t.refs)
  active := active

/-- The visible commits for given roots, and the tables with the cache afterwards. -/
def computeVisible (t : Tables) (roots : VisibleSet.Roots) : List Oid × Tables :=
  let (visible, cache) :=
    VisibleSet.compute t.objects.ancestry t.mergeBases t.objects.contains roots
  (visible, { t with mergeBases := cache })

/-- The visible commits for given roots; the active commits come from the log. -/
def visibleFrom (head main : Option Oid) (branches : List Oid) : Action (List Oid) := do
  let active := (← replay).active
  change fun t => some (computeVisible t ⟨head, main, branches, active⟩)

/-- The commits that count as visible in a repository with the given main branch. -/
def visible (mainBranch : String) : Action (List Oid) := do
  let active := (← replay).active
  change fun t => some (computeVisible t (rootsOf t mainBranch active))

end EventLog

/-! ## 4. The schema -/

namespace Schema

/-- Refuses a version that is no number, or newer than this library. -/
def check (version : String) : Except Error Unit :=
  match Numeral.read version with
  | .error .malformed => .error (.malformedNumber version)
  | .error (.tooLong digits) => .error (.longNumber digits)
  | .ok n =>
    if (supportedSchema : Int) < n then
      .error (.storeAccess "open store" none (.newerSchema version (toString supportedSchema)))
    else .ok ()

/-- The tables as opening a store leaves them: a missing version is stamped, a newer one refused. -/
def openTables (t : Tables) : Except Error Tables :=
  match t.schemaVersion with
  | none => .ok { t with schemaVersion := some (toString supportedSchema) }
  | some version => (check version).map fun () => t

/-- Stores a version, makes it part of the store, and then opens the store again. -/
def restamp (version : Option String) : Action (Option String) := do
  -- A broken session refuses before the version is replaced.
  let _ ← Action.read (·.schemaVersion)
  Action.update fun t => { t with schemaVersion := version }
  Action.commit
  match openTables (← Action.read id) with
  | .error e => throw e
  | .ok t => do
    Action.update fun _ => t
    Action.commit
    pure t.schemaVersion

end Schema
end CommitStore
