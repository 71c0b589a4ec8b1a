import CommitStore.Error
import CommitStore.Event.Replay
set_option autoImplicit false

/-!
# Events given as records

An event from outside arrives as a record and is checked field by field before it is replayed; all
faults are reported, in the order of the fields. `Event.unchecked` takes a record without checking
it, and then only its kind can be refused.
-/

namespace CommitStore
namespace Event

open Json (Value)

/-! ## 1. Checked -/

/-- The kind of an event. -/
def readKind (v : Value) : Except Record.Mismatch EventKind :=
  let refusal := Record.Mismatch.notOneOf (EventKind.all.map EventKind.text)
  match v with
  | .text s =>
    match EventKind.ofText? s with
    | some kind => .ok kind
    | none => .error refusal
  | _ => .error refusal

/-- The event that a record gives. -/
def ofRecord (record : Value) : Except Error Event :=
  let text (name : String) : Except Record.FieldFault (Option String) :=
    Record.field record name (Record.nullable Record.text) none
  let kind := Record.required record "event_type" readKind
  let commit := text "commit_oid"
  let old := text "old_oid"
  let new := text "new_oid"
  let ref := text "ref_name"
  let id := Record.field record "event_id" (Record.nullable Record.integer) none
  match kind, commit, old, new, ref, id with
  | .ok kind, .ok commit, .ok old, .ok new, .ok ref, .ok id =>
    .ok { commit, old, new, ref, kind, label := (id.map Value.integer |>.getD .null).shown }
  | _, _, _, _, _, _ =>
    .error (.fields (Record.faultOf kind ++ Record.faultOf commit ++ Record.faultOf old ++
      Record.faultOf new ++ Record.faultOf ref ++ Record.faultOf id))

/-! ## 2. Unchecked -/

/-- A field that is a text, and nothing if it is no text. -/
def textField? (record : Value) (name : String) : Option String :=
  match record.field? name with
  | some (.text s) => some s
  | _ => none

/-- The event of a record whose kind is known. -/
def unchecked (record : Value) : Except Error Event :=
  match (textField? record "event_type").bind EventKind.ofText? with
  | none => .error (.unreplayable ((record.field? "event_type").getD .null))
  | some kind =>
    .ok { commit := textField? record "commit_oid", old := textField? record "old_oid",
          new := textField? record "new_oid", ref := textField? record "ref_name", kind,
          label := ((record.field? "event_id").getD .null).shown }

end Event

/-- The error of an event without an id that its kind needs. -/
def Replay.MissingId.toError (fault : Replay.MissingId) : Error :=
  .missingId fault.event fault.kind.text

/-- The state after a record, and what was wrong with it. -/
def Replay.stepRecord (r : Replay) (event : Except Error Event) : Option Error × Replay :=
  match event with
  | .error e => (some e, r)
  | .ok event =>
    match r.step event with
    | (.ok (), r) => (none, r)
    | (.error fault, r) => (some fault.toError, r)

end CommitStore
