import CommitStore.Session.References
set_option autoImplicit false

/-!
# Pins

A pin is the reserved reference of a commit (`Reference/Reserved`), pointing directly at it. While
it is there, the commit is not lost even if no branch leads to it.

The primitive refuses a name that a sweep would not recognise, because such a pin could never be
released, and a name that the store does not accept. What the store accepts is up to the store.
`commitOf?` says which commit a reference keeps alive.
-/

namespace CommitStore
namespace Pin

/-- Pins an object under a name that a check of the store accepts, and answers the name of the
pin. -/
def markChecked (accepts : RefName → Action Bool) (root : String) (oid : Oid) (message : String) :
    Action RefName := do
  let name := Reserved.pinName root oid
  unless Reserved.isReserved root name do
    throw (.invalidReferenceName name .notReserved)
  unless ← accepts name do
    let reason := ((RefName.fault? name).map Reason.name).getD .rejected
    throw (.invalidReferenceName name reason)
  RefStore.put name oid message
  pure name

/-- Pins an object, and answers the name of the pin. -/
def mark (root : String) (oid : Oid) (message : String) : Action RefName :=
  markChecked RefStore.acceptsName root oid message

/-- The commit that a reference resolves and peels to; `none` if it does neither, or if the tags on
the way have no end. -/
def commitOf? (t : Tables) (r : Reference) : Option Oid :=
  match t.refs.resolve r with
  | .error _ => none
  | .ok oid =>
    match t.objects.peel oid with
    | .commit commit => some commit
    | .noCommit | .missing _ | .endless => none

/-- A pin in a listing, with the commit it keeps. -/
structure Listed where
  ref : RefName
  commit : Oid
  visible : Bool
  deriving DecidableEq, Repr, Inhabited

/-- The pins among the references that lead to a commit, in the order of their names. -/
def listing (t : Tables) (root : String) (visible : List Oid) : List Listed :=
  (t.refs.references.filter fun r => Reserved.isReserved root r.name).filterMap fun r =>
    (commitOf? t r).map fun commit => ⟨r.name, commit, visible.contains commit⟩

end Pin
end CommitStore
