import CommitStore.Event.Row
import CommitStore.NameMap
set_option autoImplicit false

/-!
# Replaying the event log

Replay folds events, oldest first, into the visibility of each commit that they mention. The last
mention counts. A commit that no event mentions has no visibility of its own.

An event whose kind needs an id that it does not hold is refused. The ids of a replacement are taken
one after the other, so a replacement without a new id has hidden its old one by the time it is
refused; the state that a refused event leaves is part of the answer (`step` gives both).
-/

namespace CommitStore

/-- The visibility of a commit. -/
inductive Visibility
  | visible
  | hidden
  deriving DecidableEq, Repr, Inhabited

/-- The name of a visibility. -/
def Visibility.text : Visibility → String
  | .visible => "visible"
  | .hidden => "hidden"

/-- What replay has seen so far. -/
structure Replay where
  state : NameMap Visibility
  count : Nat

namespace Replay

/-! ## 1. The state -/

/-- Before the first event. -/
def start : Replay := ⟨.empty, 0⟩

instance : Inhabited Replay := ⟨start⟩

/-- The visibility of a commit, if an event has mentioned it. -/
def visibility? (r : Replay) (oid : Oid) : Option Visibility := r.state.get? oid

/-- The commits that are visible, in the order of their ids. -/
def active (r : Replay) : List Oid :=
  (r.state.entries.filter fun entry => entry.2 == .visible).map (·.1)

/-- The state in which one commit has the given visibility. -/
def set (r : Replay) (oid : Oid) (visibility : Visibility) : Replay :=
  { r with state := r.state.insert oid visibility }

/-- The state with one more event counted. -/
def counted (r : Replay) : Replay := { r with count := r.count + 1 }

/-! ## 2. One event -/

/-- An event without an id that its kind needs. -/
structure MissingId where
  event : String
  kind : EventKind
  deriving DecidableEq, Repr

/-- What an event does to the commits that it mentions, in the order in which it does it. -/
def mentions (e : Event) : List (Option Oid × Visibility) :=
  match e.kind with
  | .commit | .unhide => [(e.commit, .visible)]
  | .hide => [(e.commit, .hidden)]
  | .replace => [(e.old, .hidden), (e.new, .visible)]
  | .refUpdate => []

/-- Applies mentions up to the first one without an id, and tells whether there was none such. -/
def apply (r : Replay) : List (Option Oid × Visibility) → Bool × Replay
  | [] => (true, r)
  | (none, _) :: _ => (false, r)
  | (some oid, visibility) :: rest => (r.set oid visibility).apply rest

/-- The state after an event, and what was wrong with the event. A refused event is not counted. -/
def step (r : Replay) (e : Event) : Except MissingId Unit × Replay :=
  match r.apply (mentions e) with
  | (true, r) => (.ok (), r.counted)
  | (false, r) => (.error ⟨e.label, e.kind⟩, r)

/-! ## 3. A whole log -/

/-- The state after all events, or the first event that is refused. -/
def run (r : Replay) : List Event → Except MissingId Replay
  | [] => .ok r
  | e :: rest =>
    match r.step e with
    | (.ok (), r) => r.run rest
    | (.error fault, _) => .error fault

/-- The state that a log leads to. -/
def ofEvents (events : List Event) : Except MissingId Replay := start.run events

end Replay
end CommitStore
