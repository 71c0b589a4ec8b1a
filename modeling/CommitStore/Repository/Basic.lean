import CommitStore.Branch
import CommitStore.Config
import CommitStore.Object.Commit
import CommitStore.Object.Id
import CommitStore.Session.Events
import CommitStore.Sweep
set_option autoImplicit false

/-!
# The repository

The calls that a user makes. Each one is an action on the session of a repository with a given
configuration; one that changes something ends by committing. A call that fails half-way leaves its
changes in the open transaction, except a sweep, which undoes them.

A commit is stored, logged and pinned in one transaction: it stays alive when the head moves on, and
a sweep releases it once it is no longer visible.
-/

namespace CommitStore
namespace Repository

open CommitStore.Action (read)

/-! ## 1. Objects -/

/-- The commit with the given id. -/
def getCommit (oid : Oid) : Action (Option CommitInfo) := read fun t => t.objects.commit? oid

/-- Refuses an id that is not the id of a stored commit. -/
def requireCommit (oid : Oid) : Action Unit := do
  if (← getCommit oid).isNone then
    throw (.objectNotFound oid)

/-- Refuses the first of some ids that is not the id of a stored commit. -/
def requireCommits : List Oid → Action Unit
  | [] => pure ()
  | oid :: rest => do
    unless ← read fun t => t.objects.isCommit oid do
      throw (.objectNotFound oid)
    requireCommits rest

/-- Pins an object under the configured root, within the open transaction. -/
def pinOpen (config : Config) (oid : Oid) : Action RefName :=
  Pin.mark config.pinRoot oid config.pinMessage

/-- Stores the row of a commit, and the list of its parents if it is a merge. -/
def saveCommit (oid : Oid) (parents : List Oid) (message : Option String) : Action Unit := do
  let createdAt ← Action.now
  ObjectRows.save { oid, kind := .commit, parent := parents.head?, message, createdAt }
  if 1 < parents.length then
    ObjectRows.addParents oid parents

/-- Makes a commit on top of the given parents, or of the head, and moves the head to it. -/
def commit (config : Config) (message : String) (parents : Option (List Oid)) :
    Action CommitInfo := do
  let parents ← match parents with
    | some parents => pure parents
    | none => do pure (← RefStore.head).toList
  requireCommits parents
  let createdAt ← Action.now
  let oid := ObjectId.ofCommit parents message createdAt.toIsoUtc
  saveCommit oid parents (some message)
  -- The commit exists from here on; what follows moves the head, logs both, and pins the commit.
  let oldHead ← RefStore.head
  RefStore.updateHead config.mainBranch oid ("commit: " ++ message)
  let transaction ← EventLog.newTransaction (some "commit")
  let _ ← EventLog.add .commit transaction { commit := some oid }
  let _ ← EventLog.add .refUpdate transaction
    { ref := some RefName.head, old := oldHead, new := some oid }
  let _ ← pinOpen config oid
  Action.commit
  pure ⟨oid, parents, some message, createdAt⟩

/-- Stores a blob. -/
def createBlob (data : String) : Action Oid := do
  let createdAt ← Action.now
  let payload := ObjectId.blobPayload data
  let oid := ObjectId.ofBlob data
  ObjectRows.save { oid, kind := .blob, payload := some (payload.print Json.stored), createdAt }
  Action.commit
  pure oid

/-- Stores an annotated tag of a stored object, and the reference of the tag. -/
def createTag (name : String) (target : Oid) (message : Option String) : Action Oid := do
  unless ← ObjectRows.contains target do
    throw (.objectNotFound target)
  let createdAt ← Action.now
  let payload := ObjectId.tagPayload name target message
  let oid := ObjectId.ofTag name target message
  ObjectRows.save
    { oid, kind := .tag, target := some target, payload := some (payload.print Json.stored),
      message, createdAt }
  RefStore.put (RefName.ofTag name) oid ("tag: " ++ name)
  Action.commit
  pure oid

/-- The history of the head along first parents, newest first, cut at `limit` commits. A history
without a limit is no longer than the store has objects. -/
def log (limit : Option Int) : Action (List CommitInfo) := do
  let head ← RefStore.head
  read fun t => t.objects.firstParents ((limit.map Int.toNat).getD t.objects.objects.length) head

/-- The object that a branch, a reference or the start of an id names. -/
def resolveObject (name : String) : Action Oid := do
  match ← RefStore.branch? name with
  | some oid => pure oid
  | none =>
    match ← RefStore.get? name with
    | some r => RefStore.resolve r
    | none =>
      -- What is too short to be the start of an id is not looked up.
      if name.length < ObjectStore.minLength then
        throw (.objectNotFound name)
      match ← ObjectRows.lookup name with
      | some o => pure o.oid
      | none => throw (.objectNotFound name)

/-- The commit that a branch, a reference or the start of an id names. -/
def resolveCommit (name : String) : Action Oid := do
  match ← RefStore.peel (← resolveObject name) with
  | some commit => pure commit
  | none => throw (.notACommit name)

/-! ## 2. Branches -/

/-- Creates a branch. -/
def createBranch (name : String) (source : Option Oid) (attaches : Bool) : Action Oid := do
  let oid ← Branch.create name source attaches
  Action.commit
  pure oid

/-- Deletes a branch. Its commits stay pinned until the next sweep. -/
def deleteBranch (name : String) : Action Oid := do
  let oid ← Branch.delete name
  let transaction ← EventLog.newTransaction (some "branch delete")
  let _ ← EventLog.add .refUpdate transaction
    { ref := some (RefName.ofBranch name), old := some oid }
  Action.commit
  pure oid

/-- Where a checkout of something that is no branch goes. -/
def checkoutCommit (target : String) : Action Oid :=
  tryCatch (resolveCommit target) fun e =>
    match e with
    | .objectNotFound _ => throw (.branchNotFound target)
    | e => throw e

/-- Attaches the head to a branch, or puts it at a commit. -/
def checkout (target : String) : Action Oid := do
  let oid ← match ← RefStore.branch? target with
    | some oid => do
      RefStore.attachHead target
      pure oid
    | none => do
      let oid ← checkoutCommit target
      RefStore.detachHead oid
      pure oid
  Action.commit
  pure oid

/-! ## 3. Sweeping -/

/-- The visible commits. -/
def visible (config : Config) : Action (List Oid) := EventLog.visible config.mainBranch

/-- Releases the pins of commits that are no longer visible. A failed sweep is undone. -/
def sweep (config : Config) (announces : Bool) : Action Sweep.Outcome := do
  let announcement := if announces then some config.sweepMessage else none
  let outcome ← tryCatch (Sweep.run config.pinRoot announcement (visible config)) fun e => do
    Action.rollback
    throw e
  Action.commit
  pure outcome

/-- The pins that lead to a commit, each with whether its commit is visible. -/
def listPins (config : Config) : Action (List Pin.Listed) := do
  let visible ← visible config
  -- The listing itself may be refused.
  let _ ← RefStore.list
  read fun t => Pin.listing t config.pinRoot visible

/-! ## 4. Visibility -/

/-- Pins an object. -/
def pin (config : Config) (oid : Oid) : Action RefName := do
  let name ← pinOpen config oid
  Action.commit
  pure name

/-- Records that a commit is hidden. Its pin is released by the next sweep. -/
def hide (config : Config) (oid : Oid) : Action Unit := do
  requireCommit oid
  let transaction ← EventLog.newTransaction (some "hide")
  let _ ← EventLog.add .hide transaction { commit := some oid }
  Action.commit
  if config.sweepsOnHide then
    let _ ← sweep config false

/-- Records that a commit is visible again, and pins it. -/
def unhide (config : Config) (oid : Oid) : Action Unit := do
  requireCommit oid
  let transaction ← EventLog.newTransaction (some "unhide")
  let _ ← EventLog.add .unhide transaction { commit := some oid }
  let _ ← pin config oid

/-- Records that one commit took the place of another, and pins the new one. -/
def replace (config : Config) (old new : Oid) : Action Unit := do
  requireCommit old
  requireCommit new
  let transaction ← EventLog.newTransaction (some "rewrite")
  let _ ← EventLog.add .replace transaction { old := some old, new := some new }
  let _ ← pin config new

/-! ## 5. The repository as a whole -/

/-- A repository in a few words: where it stands, or that it is closed. -/
def describe : Action String := do
  if ← Action.ofFunction fun s => (.ok s.closed, s) then
    pure "Repository(closed=True)"
  else
    pure ("Repository(head='" ++ (← RefStore.head).getD "None" ++ "')")

end Repository
end CommitStore
