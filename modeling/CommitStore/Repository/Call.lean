import CommitStore.Repository.Basic
set_option autoImplicit false

/-!
# Calls as data

A `Call` is one call of the repository's API with its arguments, and a `Reply` what it answers. A
history is a list of calls, each with the point in time at which it is made; `run` performs a
history on a session and gives all answers. This is the form in which statements about every use of
a repository are made.
-/

namespace CommitStore

/-- A call of the repository. -/
inductive Call
  | commit (message : String) (parents : Option (List Oid))
  | createBlob (data : String)
  | createTag (name : String) (target : Oid) (message : Option String)
  | getCommit (oid : Oid)
  | log (limit : Option Int)
  | resolveCommit (name : String)
  | createBranch (name : String) (source : Option Oid) (attaches : Bool)
  | deleteBranch (name : String)
  | branches
  | checkout (target : String)
  | hide (oid : Oid)
  | unhide (oid : Oid)
  | replace (old new : Oid)
  | events
  | visible
  | pin (oid : Oid)
  | sweep (announces : Bool)
  | listPins
  | head
  | describe
  | close
  deriving DecidableEq, Repr

/-- Where a repository stands. -/
structure HeadState where
  oid : Option Oid
  branch : Option String
  detached : Bool
  deriving DecidableEq, Repr, Inhabited

/-- What a call answers. -/
inductive Reply
  | done
  | commit (info : CommitInfo)
  | maybeCommit (info : Option CommitInfo)
  | commits (infos : List CommitInfo)
  | oid (oid : Oid)
  | oids (oids : List Oid)
  | name (name : RefName)
  | names (names : List String)
  | events (rows : List EventRow)
  | swept (outcome : Sweep.Outcome)
  | pins (pins : List Pin.Listed)
  | head (state : HeadState)
  | words (words : String)
  deriving DecidableEq, Repr

namespace Repository

/-- Where the repository stands: its commit, its branch, and whether it is on no branch. -/
def headState : Action HeadState := do
  let oid ← RefStore.head
  let branch ← RefStore.currentBranch
  let detached ← RefStore.isDetached
  pure ⟨oid, branch, detached⟩

/-- Performs a call. -/
def perform (config : Config) : Call → Action Reply
  | .commit message parents => return .commit (← commit config message parents)
  | .createBlob data => return .oid (← createBlob data)
  | .createTag name target message => return .oid (← createTag name target message)
  | .getCommit oid => return .maybeCommit (← getCommit oid)
  | .log limit => return .commits (← log limit)
  | .resolveCommit name => return .oid (← resolveCommit name)
  | .createBranch name source attaches => return .oid (← createBranch name source attaches)
  | .deleteBranch name => return .oid (← deleteBranch name)
  | .branches => return .names (← RefStore.branches)
  | .checkout target => return .oid (← checkout target)
  | .hide oid => do
    hide config oid
    return .done
  | .unhide oid => do
    unhide config oid
    return .done
  | .replace old new => do
    replace config old new
    return .done
  | .events => return .events (← EventLog.rows)
  | .visible => return .oids (← visible config)
  | .pin oid => return .name (← pin config oid)
  | .sweep announces => return .swept (← sweep config announces)
  | .listPins => return .pins (← listPins config)
  | .head => return .head (← headState)
  | .describe => return .words (← describe)
  | .close => do
    Action.close
    return .done

/-- The session at a point in time. -/
def at_ (s : Session) (now : Instant) : Session := { s with now }

/-- Performs calls one after the other; a failed call does not keep the next one from being made. -/
def run (config : Config) : List (Instant × Call) → Session → List (Except Error Reply) × Session
  | [], s => ([], s)
  | (now, call) :: rest, s =>
    let (answer, s) := (perform config call).runOn (at_ s now)
    let (answers, s) := run config rest s
    (answer :: answers, s)

/-- The session of a new repository that is kept in memory. -/
def fresh : Session := Session.start .empty false default

end Repository
end CommitStore
