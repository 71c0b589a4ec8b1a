import CommitStore.Object.Lookup
import CommitStore.Session.Basic
set_option autoImplicit false

/-!
# Objects of a session

Storing, linking and removing objects within the open transaction. Storing an object whose id is
taken changes nothing, because equal ids mean equal documents. Database errors are passed on as they
are.
-/

namespace CommitStore
namespace ObjectRows

open CommitStore.Action (read change)

/-- The object with the given id. -/
def get? (oid : Oid) : Action (Option StoredObject) := read fun t => t.objects.get? oid

/-- Whether an object is stored. -/
def contains (oid : Oid) : Action Bool := do return (← get? oid).isSome

/-- Stores an object, unless its id is taken. -/
def save (o : StoredObject) : Action Unit := do
  unless ← contains o.oid do
    change fun t =>
      if t.objects.admits o then some ((), { t with objects := t.objects.insert o }) else none

/-- Gives a commit a list of parents. An empty list needs no row of its own. -/
def addParents (commit : Oid) (parents : List Oid) : Action Unit :=
  if parents.isEmpty then Action.flush
  else
    change fun t =>
      if t.objects.admitsLinks commit parents then
        some ((), { t with objects := t.objects.link commit parents })
      else none

/-- The parents of an object. -/
def parents (oid : Oid) : Action (List Oid) := read fun t => t.objects.parents oid

/-- The object whose id starts as given. -/
def lookup (start : String) : Action (Option StoredObject) :=
  if start.length < ObjectStore.minLength then throw (.shortStart start.length)
  else do
    match ← read fun t => t.objects.lookup start with
    | .tooShort => throw (.shortStart start.length)
    | .tooLong => throw (.database .longPattern)
    | .none => pure none
    | .unique o => pure (some o)
    | .ambiguous candidates => throw (.ambiguousStart start candidates)

/-- Removes an object that no other row names, and tells whether it was stored. -/
def purge (oid : Oid) : Action Bool := do
  if ← contains oid then
    change fun t =>
      if t.objects.isReferenced oid then none
      else some (true, { t with objects := t.objects.erase oid })
  else pure false

/-! ## Ancestry -/

/-- The merge base of two ids. Equal ids need no look at the tables. -/
def mergeBase (a b : Oid) : Action (Option Oid) :=
  if a = b then pure (some a)
  else do
    let (base, cache) ← read fun t => t.objects.ancestry.mergeBase t.mergeBases a b
    Action.update fun t => { t with mergeBases := cache }
    pure base

/-- The row of the cache for a pair. -/
def cachedBase (lhs rhs : Oid) : Action (Option MergeBaseRow) :=
  read fun t => t.mergeBases.row? lhs rhs

/-- Sets the row of the cache for a pair. -/
def recordBase (lhs rhs : Oid) (base : Option Oid) : Action Unit := do
  let _ ← cachedBase lhs rhs
  Action.update fun t => { t with mergeBases := t.mergeBases.record lhs rhs base }

/-- Whether one id is another one or one of its ancestors. -/
def isAncestor (ancestor oid : Oid) : Action Bool := do
  let base ← mergeBase ancestor oid
  if ancestor = oid then pure true
  else read fun t => t.objects.ancestry.reachesFrom base ancestor oid

/-- An id with its ancestors up to the ids at which the walk stops. A walk that stops at once needs
no look at the tables. -/
def walk (start : Oid) (stopAt : List Oid) : Action (List Oid) :=
  if start ∈ stopAt then pure [start]
  else read fun t => t.objects.ancestry.walk start stopAt.contains

end ObjectRows
end CommitStore
