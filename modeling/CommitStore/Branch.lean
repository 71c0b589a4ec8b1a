import CommitStore.Session.Objects
import CommitStore.Session.References
set_option autoImplicit false

/-!
# Branches

Creating and deleting branches within the open transaction. A branch starts at a stored object, or
at the head; the branch that the head is attached to cannot be deleted.
-/

namespace CommitStore
namespace Branch

/-- Creates a branch, attaches the head to it if asked to, and answers where it starts. -/
def create (name : String) (source : Option Oid) (attaches : Bool) : Action Oid := do
  if let some fault := RefName.branchFault? name then
    throw (.invalidBranchName name (.branch fault))
  if (← RefStore.branch? name).isSome then
    throw (.branchExists name)
  let oid ← start source
  RefStore.setBranch name oid ("branch: created from " ++ oid)
  if attaches then
    RefStore.attachHead name
  pure oid
where
  /-- Where a branch with the given source starts. -/
  start : Option Oid → Action Oid
    | none => do
      match ← RefStore.head with
      | none => throw .noCommits
      | some oid => pure oid
    | some oid => do
      unless ← ObjectRows.contains oid do
        throw (.objectNotFound oid)
      pure oid

/-- Deletes a branch, and answers where it was. -/
def delete (name : String) : Action Oid := do
  match ← RefStore.branch? name with
  | none => throw (.branchNotFound name)
  | some oid =>
    if (← RefStore.currentBranch) = some name then
      throw (.currentBranch name)
    RefStore.remove (RefName.ofBranch name) (some ("branch: deleted " ++ name))
    pure oid

end Branch
end CommitStore
