import CommitStore.NameMap
import CommitStore.Oid
import CommitStore.Reference.Name
set_option autoImplicit false

/-!
# The reference table and symbolic resolution

A reference points directly at an object, or symbolically at another reference. The table can hold
entries of any shape, with both pointers or with neither, and `resolve` says what such an entry
stands for: a direct target wins, a symbolic one is followed, an entry without either is a fault.

A chain is cut off after `maxLinks` references have been looked at, the first one included.
-/

namespace CommitStore

/-- What a reference points at. -/
structure Pointer where
  target : Option Oid
  symbolic : Option RefName
  deriving DecidableEq, Repr, Inhabited

/-- A reference with its name. -/
structure Reference extends Pointer where
  name : RefName
  deriving DecidableEq, Repr, Inhabited

/-- All references of a store. -/
abbrev RefTable := NameMap Pointer

namespace Pointer

/-- A pointer directly at an object. -/
def direct (oid : Oid) : Pointer := ⟨some oid, none⟩

/-- A pointer at another reference. -/
def toName (name : RefName) : Pointer := ⟨none, some name⟩

/-- The reference of this pointer under a name. -/
def named (p : Pointer) (name : RefName) : Reference := ⟨p, name⟩

/-- Whether this is a pointer at another reference. -/
def isSymbolic (p : Pointer) : Bool := p.symbolic.isSome

end Pointer

namespace RefTable

/-! ## 1. Listing -/

/-- The reference with the given name. -/
def reference? (refs : RefTable) (name : RefName) : Option Reference :=
  (refs.get? name).map (·.named name)

/-- All references in the order of their names. -/
def references (refs : RefTable) : List Reference :=
  refs.entries.map fun entry => entry.2.named entry.1

/-! ## 2. Resolution -/

/-- Why a reference stands for no object. -/
inductive Fault
  | noTarget
  | missing (name : RefName)
  | cycle
  | tooDeep
  deriving DecidableEq, Repr

/-- The fault in words. -/
def Fault.describe : Fault → String
  | .noTarget => "reference has no target"
  | .missing name => "symbolic target '" ++ name ++ "' does not exist"
  | .cycle => "symbolic reference cycle"
  | .tooDeep => "symbolic reference chain too deep"

/-- How many references of a chain are looked at. -/
def maxLinks : Nat := 5

/-- The object at the end of a chain; `seen` are the names of the chain so far, and `links` counts
how many references may still be looked at. -/
def follow (refs : RefTable) : (links : Nat) → (seen : List RefName) → Pointer → Except Fault Oid
  | 0, _, _ => .error .tooDeep
  | links + 1, seen, p =>
    match p.target, p.symbolic with
    | some oid, _ => .ok oid
    | none, none => .error .noTarget
    | none, some name =>
      match refs.get? name with
      | none => .error (.missing name)
      | some next =>
        if name ∈ seen then .error .cycle else follow refs links (name :: seen) next

/-- The object that a reference stands for. -/
def resolve (refs : RefTable) (r : Reference) : Except Fault Oid :=
  follow refs maxLinks [r.name] r.toPointer

end RefTable
end CommitStore
