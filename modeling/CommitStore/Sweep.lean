import CommitStore.Pin
set_option autoImplicit false

/-!
# Sweeping pins

A sweep compares the pins with the visible commits and deletes those whose commits are no longer
visible. A reference that leads to no commit is skipped, and a reference outside the reserved names
is only counted. Where tags lead back to where they came from, taking them off one by one has no end;
a sweep of references that lead there is one that does not return.

The line that announces a sweep is written before anything else. If the visible commits cannot be
computed, or the references cannot be listed, nothing is deleted; if a deletion fails, the pins
before it in the order of the names are gone.
-/

namespace CommitStore
namespace Sweep

/-! ## 1. Classifying -/

/-- What a look at all references finds. -/
structure Findings where
  dangling : List RefName
  scanned : Nat
  skipped : Nat
  deriving DecidableEq, Repr, Inhabited

/-- Whether a reference is a pin of a commit that is not visible. -/
def isDangling (t : Tables) (root : String) (visible : List Oid) (r : Reference) : Bool :=
  Reserved.isReserved root r.name && (Pin.commitOf? t r).any fun commit => !visible.contains commit

/-- What the references of some tables amount to, for a set of visible commits. -/
def classify (t : Tables) (root : String) (visible : List Oid) (refs : List Reference) :
    Findings where
  dangling := (refs.filter (isDangling t root visible)).map (·.name)
  scanned := refs.length
  skipped := (refs.filter fun r => (Pin.commitOf? t r).isNone).length

/-- Looks at all references. -/
def find (root : String) (visible : List Oid) : Action Findings := do
  let refs ← RefStore.list
  Action.read fun t => classify t root visible refs

/-! ## 2. The sweep -/

/-- What a sweep did. -/
structure Outcome where
  scanned : Nat
  skipped : Nat
  deleted : List RefName
  deriving DecidableEq, Repr, Inhabited

/-- Deletes references one after the other. -/
def deleteAll : List RefName → Action Unit
  | [] => pure ()
  | name :: rest => do
    RefStore.delete name
    deleteAll rest

/-- Sweeps the pins under a root. `announcement` is the line that is written first, where there is a
sink for it. -/
def run (root : String) (announcement : Option String) (visibility : Action (List Oid)) :
    Action Outcome := do
  if let some line := announcement then
    Action.writeLine line
  let visible ← tryCatch visibility fun e => throw (.visibility e)
  -- All dangling pins are known before the first of them is deleted.
  let findings ← find root visible
  deleteAll findings.dangling
  pure ⟨findings.scanned, findings.skipped, findings.dangling⟩

end Sweep
end CommitStore
