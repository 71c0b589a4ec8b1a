import CommitStore.Event.Row
import CommitStore.MergeBase
import CommitStore.Reference.Table
set_option autoImplicit false

/-!
# The tables of a store

Everything that a store keeps: the objects, the references with the journal of their changes, the
log of transactions and events, the cached merge bases, and the version of the schema. Row numbers
of transactions and events go on from the greatest one there is.
-/

namespace CommitStore

/-- One change of a reference: what it pointed at directly before and after. -/
structure JournalEntry where
  ref : RefName
  old : Option Oid
  new : Option Oid
  message : Option String
  at_ : Instant
  deriving DecidableEq, Repr, Inhabited

/-- The version of the schema that this library writes. -/
def supportedSchema : Nat := 1

/-- All tables of a store. -/
structure Tables where
  objects : ObjectStore
  refs : RefTable
  journal : List JournalEntry
  transactions : List Transaction
  events : List EventRow
  mergeBases : MergeBaseCache
  schemaVersion : Option String

namespace Tables

/-- The tables of a new store. -/
def empty : Tables := ⟨.empty, .empty, [], [], [], [], some (toString supportedSchema)⟩

instance : Inhabited Tables := ⟨empty⟩

/-- The number of the next row after rows with the given numbers. -/
def nextId (ids : List Nat) : Nat := ids.foldl max 0 + 1

/-- The tables with a transaction added, and its number. -/
def addTransaction (t : Tables) (message : Option String) (now : Instant) : Nat × Tables :=
  let id := nextId (t.transactions.map (·.id))
  (id, { t with transactions := t.transactions ++ [⟨id, message, now⟩] })

/-- Whether there is a transaction with the given number. -/
def hasTransaction (t : Tables) (id : Int) : Bool :=
  t.transactions.any fun row => (row.id : Int) == id

/-- The tables with an event added, and its row. -/
def addEvent (t : Tables) (kind : String) (transaction : Int) (subject : EventSubject)
    (now : Instant) : EventRow × Tables :=
  let row : EventRow := ⟨subject, nextId (t.events.map (·.id)), transaction, kind, now⟩
  (row, { t with events := t.events ++ [row] })

/-- The tables with a reference pointing directly at an object, and the change in the journal. -/
def writeDirect (t : Tables) (name : RefName) (oid : Oid) (message : Option String)
    (now : Instant) : Tables :=
  let old := (t.refs.get? name).bind (·.target)
  { t with
    refs := t.refs.insert name (.direct oid)
    journal := t.journal ++ [⟨name, old, some oid, message, now⟩] }

/-- The tables with a reference pointing at another one. The journal tells only of direct
targets. -/
def writeSymbolic (t : Tables) (name symbolic : RefName) : Tables :=
  { t with refs := t.refs.insert name (.toName symbolic) }

/-- The tables without a reference, and the change in the journal if there was one. -/
def removeRef (t : Tables) (name : RefName) (message : Option String) (now : Instant) : Tables :=
  match t.refs.get? name with
  | none => t
  | some old =>
    { t with
      refs := t.refs.erase name
      journal := t.journal ++ [⟨name, old.target, none, message, now⟩] }

end Tables
end CommitStore
