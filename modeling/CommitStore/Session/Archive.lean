import CommitStore.Json.Reader
import CommitStore.Json.Printer
import CommitStore.Session.Tables
set_option autoImplicit false

/-!
# The kept form of a store

All tables of a store as one JSON value, and back. A row is an array of its columns; a store is an
object with a field for each table. What is read has to have the invariants of the tables: ids of
objects that occur twice, or references out of order, make a value that is no store.

Reading takes back what writing produces, table by table (`objects?_ofObjects`, `refs?_ofRefs`) and
as a whole (`tables?_ofTables`).
-/

namespace CommitStore
namespace Archive

open Json (Value)

/-! ## 1. Columns -/

/-- A text. -/
def text? : Value → Option String
  | .text s => some s
  | _ => none

/-- A text or null. -/
def optional? : Value → Option (Option String)
  | .null => some none
  | .text s => some (some s)
  | _ => none

/-- A number. -/
def natural? : Value → Option Nat
  | .integer (.ofNat n) => some n
  | _ => none

/-- A point in time, as the number of its microseconds. -/
def ofInstant (t : Instant) : Value := .integer t.micros

@[inherit_doc ofInstant]
def instant? : Value → Option Instant
  | .integer n => some ⟨n⟩
  | _ => none

theorem optional?_ofText? (s : Option String) : optional? (Value.ofText? s) = some s := by
  cases s <;> rfl

/-! ## 2. Rows -/

/-- A table of rows. -/
def ofRows {α : Type} (write : α → Value) (rows : List α) : Value := .array (rows.map write)

@[inherit_doc ofRows]
def rows? {α : Type} (read : Value → Option α) : Value → Option (List α)
  | .array items => items.mapM read
  | _ => none

theorem rows?_ofRows {α : Type} {write : α → Value} {read : Value → Option α}
    (h : ∀ row, read (write row) = some row) (rows : List α) :
    rows? read (ofRows write rows) = some rows := by
  show (rows.map write).mapM read = some rows
  induction rows with
  | nil => rfl
  | cons row rest ih => simp [List.mapM_cons, h, ih]

/-- An object. -/
def ofObject (o : StoredObject) : Value :=
  .array [.text o.oid, .text o.kind.text, .ofText? o.parent, .ofText? o.target, .ofText? o.payload,
    .ofText? o.message, ofInstant o.createdAt]

@[inherit_doc ofObject]
def object? : Value → Option StoredObject
  | .array [oid, kind, parent, target, payload, message, createdAt] => do
    let kind ← (← text? kind) |> ObjectKind.ofText?
    return ⟨← text? oid, kind, ← optional? parent, ← optional? target, ← optional? payload,
      ← optional? message, ← instant? createdAt⟩
  | _ => none

theorem object?_ofObject (o : StoredObject) : object? (ofObject o) = some o := by
  have hkind : ObjectKind.ofText? o.kind.text = some o.kind := by cases o.kind <;> decide
  simp [object?, ofObject, text?, optional?_ofText?, instant?, ofInstant, hkind]

/-- A parent link. -/
def ofLink (link : ParentLink) : Value :=
  .array [.text link.commit, .text link.parent, .integer link.position]

@[inherit_doc ofLink]
def link? : Value → Option ParentLink
  | .array [commit, parent, position] => do
    return ⟨← text? commit, ← text? parent, ← natural? position⟩
  | _ => none

theorem link?_ofLink (link : ParentLink) : link? (ofLink link) = some link := rfl

/-- A reference. -/
def ofRefRow (entry : RefName × Pointer) : Value :=
  .array [.text entry.1, .ofText? entry.2.target, .ofText? entry.2.symbolic]

@[inherit_doc ofRefRow]
def refRow? : Value → Option (RefName × Pointer)
  | .array [name, target, symbolic] => do
    return (← text? name, ⟨← optional? target, ← optional? symbolic⟩)
  | _ => none

/-- An entry of the journal. -/
def ofJournal (e : JournalEntry) : Value :=
  .array [.text e.ref, .ofText? e.old, .ofText? e.new, .ofText? e.message, ofInstant e.at_]

@[inherit_doc ofJournal]
def journal? : Value → Option JournalEntry
  | .array [ref, old, new, message, at_] => do
    return ⟨← text? ref, ← optional? old, ← optional? new, ← optional? message, ← instant? at_⟩
  | _ => none

/-- A transaction. -/
def ofTransaction (t : Transaction) : Value :=
  .array [.integer t.id, .ofText? t.message, ofInstant t.createdAt]

@[inherit_doc ofTransaction]
def transaction? : Value → Option Transaction
  | .array [id, message, createdAt] => do
    return ⟨← natural? id, ← optional? message, ← instant? createdAt⟩
  | _ => none

/-- An event. -/
def ofEvent (e : EventRow) : Value :=
  .array [.integer e.id, .integer e.transaction, .text e.kind, .ofText? e.commit, .ofText? e.old,
    .ofText? e.new, .ofText? e.ref, ofInstant e.at_]

@[inherit_doc ofEvent]
def event? : Value → Option EventRow
  | .array [id, .integer transaction, kind, commit, old, new, ref, at_] => do
    let subject : EventSubject :=
      ⟨← optional? commit, ← optional? old, ← optional? new, ← optional? ref⟩
    return ⟨subject, ← natural? id, transaction, ← text? kind, ← instant? at_⟩
  | _ => none

/-- A cached merge base. -/
def ofMergeBase (row : MergeBaseRow) : Value :=
  .array [.text row.lhs, .text row.rhs, .ofText? row.base]

@[inherit_doc ofMergeBase]
def mergeBase? : Value → Option MergeBaseRow
  | .array [lhs, rhs, base] => do return ⟨← text? lhs, ← text? rhs, ← optional? base⟩
  | _ => none

/-! ## 3. Tables -/

/-- All objects with their parent links. -/
def ofObjects (s : ObjectStore) : Value :=
  .array [ofRows ofObject s.objects, ofRows ofLink s.links]

@[inherit_doc ofObjects]
def objects? : Value → Option ObjectStore
  | .array [objects, links] => do
    let objects ← rows? object? objects
    let links ← rows? link? links
    if nodup : (objects.map (·.oid)).Nodup then some ⟨objects, links, nodup⟩ else none
  | _ => none

/-- All references. -/
def ofRefs (refs : RefTable) : Value := ofRows ofRefRow refs.entries

@[inherit_doc ofRefs]
def refs? (v : Value) : Option RefTable := do
  let entries ← rows? refRow? v
  if sorted : entries.Pairwise fun a b => Text.before a.1 b.1 = true then some ⟨entries, sorted⟩
  else none

/-- All tables of a store. -/
def ofTables (t : Tables) : Value :=
  .object
    [("objects", ofObjects t.objects), ("refs", ofRefs t.refs),
      ("journal", ofRows ofJournal t.journal),
      ("transactions", ofRows ofTransaction t.transactions), ("events", ofRows ofEvent t.events),
      ("mergeBases", ofRows ofMergeBase t.mergeBases), ("schema", .ofText? t.schemaVersion)]

@[inherit_doc ofTables]
def tables? (v : Value) : Option Tables := do
  return {
    objects := ← v.field? "objects" >>= objects?
    refs := ← v.field? "refs" >>= refs?
    journal := ← v.field? "journal" >>= rows? journal?
    transactions := ← v.field? "transactions" >>= rows? transaction?
    events := ← v.field? "events" >>= rows? event?
    mergeBases := ← v.field? "mergeBases" >>= rows? mergeBase?
    schemaVersion := ← v.field? "schema" >>= optional? }

theorem objects?_ofObjects (s : ObjectStore) : objects? (ofObjects s) = some s := by
  simp [objects?, ofObjects, rows?_ofRows object?_ofObject, rows?_ofRows link?_ofLink, s.nodup]

theorem refs?_ofRefs (refs : RefTable) : refs? (ofRefs refs) = some refs := by
  have hentries : rows? refRow? (ofRows ofRefRow refs.entries) = some refs.entries :=
    rows?_ofRows (fun entry => by simp [refRow?, ofRefRow, text?, optional?_ofText?]) _
  simp [refs?, ofRefs, hentries, refs.sorted]

theorem tables?_ofTables (t : Tables) : tables? (ofTables t) = some t := by
  have hjournal : rows? journal? (ofRows ofJournal t.journal) = some t.journal :=
    rows?_ofRows (fun e => by
      simp [journal?, ofJournal, text?, optional?_ofText?, instant?, ofInstant]) _
  have htransactions : rows? transaction? (ofRows ofTransaction t.transactions) =
      some t.transactions :=
    rows?_ofRows (fun row => by
      simp [transaction?, ofTransaction, natural?, optional?_ofText?, instant?, ofInstant]) _
  have hevents : rows? event? (ofRows ofEvent t.events) = some t.events :=
    rows?_ofRows (fun e => by
      simp [event?, ofEvent, text?, natural?, optional?_ofText?, instant?, ofInstant]) _
  have hbases : rows? mergeBase? (ofRows ofMergeBase t.mergeBases) = some t.mergeBases :=
    rows?_ofRows (fun row => by simp [mergeBase?, ofMergeBase, text?, optional?_ofText?]) _
  simp [tables?, ofTables, Value.field?, objects?_ofObjects, refs?_ofRefs, hjournal, htransactions,
    hevents, hbases, optional?_ofText?]

/-! ## 4. Text -/

/-- The text of a store. -/
def write (t : Tables) : String := (ofTables t).print Json.wire

/-- The store of a text, if it is one. -/
def read? (s : String) : Option Tables := Json.read? s >>= tables?

end Archive
end CommitStore
