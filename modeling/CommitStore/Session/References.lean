import CommitStore.Reference.Reserved
import CommitStore.Session.Basic
import CommitStore.Text.Wildcard
set_option autoImplicit false

/-!
# References of a session

Reading, resolving and changing references. Every direct write is journalled with the target before
and after it; making a reference symbolic is not. `HEAD` follows one symbolic link and no more: it
is the branch that a commit moves, or a commit itself when it is detached.

Where the database fails, the error names the operation and the reference that it was about.
-/

namespace CommitStore
namespace RefStore

open CommitStore.Action (read change update accessing)

/-! ## 1. Reading -/

/-- All references in the order of their names. -/
def list : Action (List Reference) := do
  if (← Action.refusals).listing then
    throw (.storeAccess "list references" none (.stated "injected failure"))
  accessing "list references" none (read fun t => t.refs.references)

/-- The reference with the given name. -/
def get? (name : RefName) : Action (Option Reference) :=
  accessing "read reference" (some name) (read fun t => t.refs.reference? name)

/-- The object that a reference stands for. -/
def resolve (r : Reference) : Action Oid := do
  -- Only a reference that leads to another one needs a look at the table.
  let refs ← match r.target, r.symbolic with
    | none, some name => accessing "read reference" (some name) (read (·.refs))
    | _, _ => pure .empty
  match refs.resolve r with
  | .ok oid => pure oid
  | .error fault => throw (.unresolved r.name (.chain fault))

/-- The commit that is left when all tags around an object are taken off. Where the tags have no end
a store that takes them off one by one does not return, so no statement should rest on the answer for
them. -/
def peel (oid : Oid) : Action (Option Oid) := do
  let objects ← accessing "peel reference" (some oid) (read (·.objects))
  match objects.peel oid with
  | .commit commit => pure (some commit)
  | .noCommit | .endless => pure none
  | .missing missing => throw (.objectNotFound missing)

/-- The journal of a reference, oldest change first. -/
def journal (name : RefName) : Action (List JournalEntry) :=
  accessing "read reflog" (some name) (read fun t => t.journal.filter (·.ref == name))

/-- Whether the store accepts a name for a pin. -/
def acceptsName (name : RefName) : Action Bool := do
  return !(← Action.refusals).names && RefName.isValid name

/-! ## 2. Writing -/

/-- Points a reference directly at an object. -/
def write (name : RefName) (oid : Oid) (message : Option String) : Action Unit := do
  let now ← Action.now
  -- The old target is looked up for the journal, so a gone store fails before anything is changed.
  let _ ← read (·.refs)
  update fun t => t.writeDirect name oid message now

/-- Points a reference with a valid name at a stored object. -/
def put (name : RefName) (oid : Oid) (message : String) : Action Unit := do
  if let some fault := RefName.fault? name then
    throw (.invalidReferenceName name (.name fault))
  accessing "create reference" (some name) do
    if ← read fun t => t.objects.contains oid then
      write name oid (some message)
    else throw (.objectNotFound oid)

/-- Removes a reference, if there is one. -/
def remove (name : RefName) (message : Option String) : Action Unit :=
  accessing "delete reference" (some name) do
    let now ← Action.now
    if ← read fun t => t.refs.contains name then
      update fun t => t.removeRef name message now

/-- Removes a reference unless the store refuses to. -/
def delete (name : RefName) : Action Unit := do
  if name ∈ (← Action.refusals).deletions then
    throw (.storeAccess "delete reference" (some name) (.stated "injected failure"))
  remove name none

/-- Points a reference at another one. -/
def writeSymbolic (name symbolic : RefName) : Action Unit :=
  accessing "set symbolic reference" (some name) do
    let _ ← read (·.refs)
    update fun t => t.writeSymbolic name symbolic

/-- Adds a reference of any shape without a look at its name or at the objects. The journal does not
tell of it; a name that is taken breaks a rule. -/
def insertRow (name : RefName) (p : Pointer) : Action Unit :=
  change fun t =>
    if t.refs.contains name then none else some ((), { t with refs := t.refs.insert name p })

/-! ## 3. The head -/

/-- The reference that `HEAD` stands for: the branch that it is attached to, or itself. An empty
name attaches to nothing. -/
def attachedTo? (p : Pointer) : Option RefName :=
  match p.symbolic with
  | none | some "" => none
  | some name => some name

/-- The object at `HEAD`, if there is one. -/
def headOf (refs : RefTable) : Option Oid :=
  match refs.get? RefName.head with
  | none => none
  | some p =>
    match attachedTo? p with
    | some name => (refs.get? name).bind (·.target)
    | none => p.target

/-- The commit that the session stands at. -/
def head : Action (Option Oid) :=
  accessing "read reference" (some RefName.head) (read fun t => headOf t.refs)

/-- The tables with the head moved to a commit. A store without `HEAD` gets one that is attached to
the default branch. -/
def moveHead (t : Tables) (defaultBranch : String) (oid : Oid) (message : String) (now : Instant) :
    Tables :=
  match t.refs.get? RefName.head with
  | none =>
    let branch := RefName.ofBranch defaultBranch
    (t.writeSymbolic RefName.head branch).writeDirect branch oid (some message) now
  | some p => t.writeDirect ((attachedTo? p).getD RefName.head) oid (some message) now

/-- Moves the head, or the branch that it is attached to, to a commit. -/
def updateHead (defaultBranch : String) (oid : Oid) (message : String) : Action Unit :=
  accessing "update reference" (some RefName.head) do
    let now ← Action.now
    let _ ← read (·.refs)
    update fun t => moveHead t defaultBranch oid message now

/-- Whether `HEAD` points at no other reference. -/
def isDetached : Action Bool := do
  return (← get? RefName.head).any fun r => r.symbolic.isNone

/-- Attaches the head to a branch. -/
def attachHead (branch : String) : Action Unit :=
  writeSymbolic RefName.head (RefName.ofBranch branch)

/-- Puts the head directly at a commit. -/
def detachHead (oid : Oid) : Action Unit :=
  accessing "update reference" (some RefName.head)
    (write RefName.head oid (some ("checkout: moving to " ++ oid)))

/-- The name of a branch without the root of all branches, if it is under that root. -/
def branchOf? (name : RefName) : Option String :=
  let root := RefName.branchRoot.toList
  if root.isPrefixOf name.toList then some (String.ofList (name.toList.drop root.length)) else none

/-- The branch that the head is attached to. -/
def currentBranch : Action (Option String) := do
  return (← get? RefName.head).bind fun r => r.symbolic.bind branchOf?

/-! ## 4. Branches -/

/-- The direct target of a branch. -/
def branch? (branch : String) : Action (Option Oid) := do
  return (← get? (RefName.ofBranch branch)).bind (·.target)

/-- Points a branch at an object. -/
def setBranch (branch : String) (oid : Oid) (message : String) : Action Unit :=
  let name := RefName.ofBranch branch
  accessing "update reference" (some name) (write name oid (some message))

/-- The names of all branches, in order. The root of the branches is looked up as a pattern, so it
is found in either case, and what has the length of the root is taken off. -/
def branchNames (refs : RefTable) : List String :=
  let found := refs.names.filter (Text.startsLike RefName.branchRoot)
  let names := found.map fun name =>
    String.ofList (name.toList.drop RefName.branchRoot.length)
  names.mergeSort Text.notAfter

/-- The names of all branches, in order. -/
def branches : Action (List String) :=
  accessing "list branches" none (read fun t => branchNames t.refs)

end RefStore
end CommitStore
