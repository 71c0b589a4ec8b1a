import CommitStore.Event.Record
import CommitStore.Proofs.Replaying
import CommitStore.Proofs.Visibility
set_option autoImplicit false

/-!
# What a replayed log says

Replay is a fold, and a fold over a long log says little by itself. Read backwards it is simple: the
visibility of an id is what the last event that mentions it gives to it (`Event.gives?`), and an id
that no event mentions has none. `run_whole` carries this from one event to a whole log, on top of
any state. Two states with the same visibilities are the same state, so all that does not move a
last mention can be read off at once: reference updates come and go, and neighbours that mention
different ids change places.

All of that is about events that hold the ids that their kinds need. An event that does not is
refused, and the state stays as it was with one exception: a replacement without a new id has hidden
its old one before it is refused (`Replay.HidesHalfway`).
-/

namespace CommitStore

/-! ## 1. States and look-ups -/

/-- A map is known by what its names are mapped to. -/
theorem NameMap.ext_get? {α : Type} {m m' : NameMap α} (h : ∀ name, m.get? name = m'.get? name) :
    m = m' := by
  have hentries : m.entries = m'.entries := by
    refine Text.eq_of_mem_iff Prod.fst m.sorted m'.sorted ?_
    rintro ⟨name, value⟩
    rw [m.mem_entries_iff, m'.mem_entries_iff, h]
  cases m
  cases m'
  cases hentries
  rfl

namespace Replay

theorem state_eq {r r' : Replay} (h : ∀ oid, r.visibility? oid = r'.visibility? oid) :
    r.state = r'.state := NameMap.ext_get? h

theorem eq_of_visibility {r r' : Replay} (h : ∀ oid, r.visibility? oid = r'.visibility? oid)
    (hcount : r.count = r'.count) : r = r' := by
  have hstate := state_eq h
  cases r
  cases r'
  cases hstate
  cases hcount
  rfl

end Replay

/-! ## 2. What an event gives to an id -/

namespace Event

/-- The visibility that an event gives to an id, if it mentions the id for one. Of a replacement by
the same id the new one counts. -/
def gives? (e : Event) (oid : Oid) : Option Visibility :=
  match e.kind with
  | .commit | .unhide => if e.commit = some oid then some .visible else none
  | .hide => if e.commit = some oid then some .hidden else none
  | .replace =>
    if e.new = some oid then some .visible
    else if e.old = some oid then some .hidden
    else none
  | .refUpdate => none

/-- An event holds the ids that its kind needs. -/
def IsWhole (e : Event) : Prop :=
  match e.kind with
  | .commit | .hide | .unhide => e.commit.isSome = true
  | .replace => e.old.isSome = true ∧ e.new.isSome = true
  | .refUpdate => True

/-- What the last event of a log that mentions an id gives to it. -/
def lastGiven? (events : List Event) (oid : Oid) : Option Visibility :=
  events.reverse.findSome? (·.gives? oid)

theorem lastGiven?_cons (e : Event) (rest : List Event) (oid : Oid) :
    lastGiven? (e :: rest) oid = (lastGiven? rest oid).or (e.gives? oid) := by
  rw [lastGiven?, List.reverse_cons, List.findSome?_append]
  congr 1
  cases hgives : e.gives? oid <;> simp [hgives]

theorem lastGiven?_append (xs ys : List Event) (oid : Oid) :
    lastGiven? (xs ++ ys) oid = (lastGiven? ys oid).or (lastGiven? xs oid) := by
  rw [lastGiven?, List.reverse_append, List.findSome?_append]
  rfl

theorem lastGiven?_eq_some_iff {events : List Event} {oid : Oid} {visibility : Visibility} :
    lastGiven? events oid = some visibility ↔
      ∃ earlier e later, events = earlier ++ e :: later ∧ e.gives? oid = some visibility ∧
        ∀ e' ∈ later, e'.gives? oid = none := by
  rw [lastGiven?, List.findSome?_eq_some_iff]
  constructor
  · rintro ⟨later, e, earlier, hsplit, hgives, hlater⟩
    refine ⟨earlier.reverse, e, later.reverse, ?_, hgives, ?_⟩
    · rw [← List.reverse_reverse events, hsplit]
      simp
    · intro e' he'
      exact hlater e' (List.mem_reverse.mp he')
  · rintro ⟨earlier, e, later, rfl, hgives, hlater⟩
    refine ⟨later.reverse, e, earlier.reverse, by simp, hgives, ?_⟩
    intro e' he'
    exact hlater e' (List.mem_reverse.mp he')

theorem lastGiven?_eq_none_iff {events : List Event} {oid : Oid} :
    lastGiven? events oid = none ↔ ∀ e ∈ events, e.gives? oid = none := by
  rw [lastGiven?, List.findSome?_eq_none_iff]
  simp only [List.mem_reverse]

/-- An event moves references only. -/
def movesReference (e : Event) : Bool := e.kind == .refUpdate

theorem gives?_of_movesReference {e : Event} (h : e.movesReference = true) (oid : Oid) :
    e.gives? oid = none := by
  rw [gives?, beq_iff_eq.mp h]

theorem isWhole_of_movesReference {e : Event} (h : e.movesReference = true) : e.IsWhole := by
  rw [IsWhole, beq_iff_eq.mp h]
  trivial

/-- Updates of references do not count for the last mention. -/
theorem lastGiven?_filter (events : List Event) (oid : Oid) :
    lastGiven? (events.filter fun e => !e.movesReference) oid = lastGiven? events oid := by
  induction events with
  | nil => rfl
  | cons e rest ih =>
    rw [List.filter_cons]
    cases hmoves : e.movesReference with
    | true =>
      rw [lastGiven?_cons, gives?_of_movesReference hmoves, Option.or_none]
      exact ih
    | false =>
      show lastGiven? (e :: rest.filter _) oid = _
      rw [lastGiven?_cons, lastGiven?_cons, ih]

/-- Neighbours that mention different ids may change places. -/
theorem lastGiven?_swap {a b : Event} (h : ∀ oid, a.gives? oid = none ∨ b.gives? oid = none)
    (earlier later : List Event) (oid : Oid) :
    lastGiven? (earlier ++ b :: a :: later) oid = lastGiven? (earlier ++ a :: b :: later) oid := by
  simp only [lastGiven?_append, lastGiven?_cons, Option.or_assoc]
  rcases h oid with hnone | hnone <;> simp [hnone]

end Event

/-! ## 3. Whole events -/

namespace Replay

/-- An event that holds its ids is applied, and overrules what was known of the ids it mentions. -/
theorem step_whole (r : Replay) {e : Event} (he : e.IsWhole) :
    ∃ r', r.step e = (.ok (), r') ∧ r'.count = r.count + 1 ∧
      ∀ oid, r'.visibility? oid = (e.gives? oid).or (r.visibility? oid) := by
  obtain ⟨⟨commit, old, new, ref⟩, label, kind⟩ := e
  -- Events about one commit set one visibility.
  have hset (id : Oid) (visibility : Visibility) (oid : Oid) :
      (r.set id visibility).visibility? oid =
        (if some id = some oid then some visibility else none).or (r.visibility? oid) := by
    rw [visibility?_set]
    by_cases hoid : oid = id
    · simp [hoid]
    · simp [hoid, Ne.symm hoid]
  cases kind with
  | commit | unhide =>
    obtain ⟨id, rfl⟩ := Option.isSome_iff_exists.mp he
    exact ⟨(r.set id .visible).counted, rfl, rfl, hset id .visible⟩
  | hide =>
    obtain ⟨id, rfl⟩ := Option.isSome_iff_exists.mp he
    exact ⟨(r.set id .hidden).counted, rfl, rfl, hset id .hidden⟩
  | replace =>
    obtain ⟨hold, hnew⟩ := he
    obtain ⟨oldId, rfl⟩ := Option.isSome_iff_exists.mp hold
    obtain ⟨newId, rfl⟩ := Option.isSome_iff_exists.mp hnew
    refine ⟨((r.set oldId .hidden).set newId .visible).counted, rfl, rfl, ?_⟩
    intro oid
    show ((r.set oldId .hidden).set newId .visible).visibility? oid =
      (if some newId = some oid then some .visible
        else if some oldId = some oid then some .hidden else none).or (r.visibility? oid)
    rw [visibility?_set, hset]
    by_cases hoid : oid = newId
    · simp [hoid]
    · simp [hoid, Ne.symm hoid]
  | refUpdate => exact ⟨r.counted, rfl, rfl, fun oid => rfl⟩

/-- **A log of events that hold their ids is replayed to its end**, on top of any state, and the
last mention of an id overrules what was known before. -/
theorem run_whole {events : List Event} (hevents : ∀ e ∈ events, e.IsWhole) (r : Replay) :
    ∃ r', r.run events = .ok r' ∧ r'.count = r.count + events.length ∧
      ∀ oid, r'.visibility? oid = (Event.lastGiven? events oid).or (r.visibility? oid) := by
  induction events generalizing r with
  | nil => exact ⟨r, rfl, rfl, fun oid => rfl⟩
  | cons e rest ih =>
    obtain ⟨next, hstep, hcount, hnext⟩ := r.step_whole (hevents e List.mem_cons_self)
    obtain ⟨r', hrun, hcount', hr'⟩ := ih (fun e he => hevents e (List.mem_cons_of_mem _ he)) next
    refine ⟨r', ?_, ?_, ?_⟩
    · rw [run, hstep]
      exact hrun
    · rw [hcount', hcount, List.length_cons]
      omega
    · intro oid
      rw [hr', hnext, Event.lastGiven?_cons, Option.or_assoc]

/-- The same from the first event on. -/
theorem ofEvents_whole {events : List Event} (hevents : ∀ e ∈ events, e.IsWhole) :
    ∃ r, ofEvents events = .ok r ∧ r.count = events.length ∧
      ∀ oid, r.visibility? oid = Event.lastGiven? events oid := by
  obtain ⟨r, hrun, hcount, hr⟩ := run_whole hevents start
  refine ⟨r, hrun, ?_, ?_⟩
  · rw [hcount]
    exact Nat.zero_add _
  · intro oid
    rw [hr oid]
    exact Option.or_none

/-! ## 4. Whole logs -/

/-- What a replayed log answers, in terms of its events. -/
structure TellsOf (r : Replay) (events : List Event) : Prop where
  /-- The last event that mentions an id decides. -/
  visibility : ∀ oid visibility, r.visibility? oid = some visibility ↔
    ∃ earlier e later, events = earlier ++ e :: later ∧ e.gives? oid = some visibility ∧
      ∀ e' ∈ later, e'.gives? oid = none
  unmentioned : ∀ oid, r.visibility? oid = none ↔ ∀ e ∈ events, e.gives? oid = none
  active : ∀ oid, oid ∈ r.active ↔ r.visibility? oid = some .visible
  count : r.count = events.length
  /-- Updates of references may be put in and taken out anywhere. -/
  referenceUpdates : ∀ others : List Event,
    others.filter (fun e => !e.movesReference) = events.filter (fun e => !e.movesReference) →
      ∃ r', ofEvents others = .ok r' ∧ r'.active = r.active ∧
        ∀ oid, r'.visibility? oid = r.visibility? oid
  /-- A longer log is replayed on top. -/
  longer : ∀ more, ofEvents (events ++ more) = r.run more
  /-- Neighbours that mention different ids may change places. -/
  swap : ∀ earlier a b later, events = earlier ++ a :: b :: later →
    (∀ oid, a.gives? oid = none ∨ b.gives? oid = none) →
      ofEvents (earlier ++ b :: a :: later) = .ok r

/-- Logs that differ in updates of references only are whole together. -/
theorem isWhole_of_filter_eq {events others : List Event} (hevents : ∀ e ∈ events, e.IsWhole)
    (hsame : others.filter (fun e => !e.movesReference) =
      events.filter (fun e => !e.movesReference)) : ∀ e ∈ others, e.IsWhole := by
  intro e he
  cases hmoves : e.movesReference with
  | true => exact Event.isWhole_of_movesReference hmoves
  | false =>
    have hmem : e ∈ events.filter fun e => !e.movesReference := by
      rw [← hsame]
      exact List.mem_filter.mpr ⟨he, by rw [hmoves]; rfl⟩
    exact hevents e (List.mem_filter.mp hmem).1

/-- **The last mention counts.** A log of events that hold the ids of their kinds is replayed to its
end, and the state tells of the log: each visibility is what the last event that mentions the id
gives to it, and only ids that no event mentions have none; the visible ids are the active ones, and
every event is counted; updates of references have no part in it; a longer log is replayed on top of
the state; and two neighbours that mention different ids can be swapped. -/
theorem ofEvents_tellsOf (events : List Event) (hevents : ∀ e ∈ events, e.IsWhole) :
    ∃ r, ofEvents events = .ok r ∧ r.TellsOf events := by
  obtain ⟨r, hrun, hcount, hr⟩ := ofEvents_whole hevents
  refine ⟨r, hrun, ?_⟩
  constructor
  case visibility =>
    intro oid visibility
    rw [hr, Event.lastGiven?_eq_some_iff]
  case unmentioned =>
    intro oid
    rw [hr, Event.lastGiven?_eq_none_iff]
  case active => exact r.mem_active_iff
  case count => exact hcount
  case referenceUpdates =>
    intro others hsame
    obtain ⟨r', hrun', _, hr'⟩ := ofEvents_whole (isWhole_of_filter_eq hevents hsame)
    have hvisibility (oid : Oid) : r'.visibility? oid = r.visibility? oid := by
      rw [hr', hr, ← Event.lastGiven?_filter others, hsame, Event.lastGiven?_filter]
    refine ⟨r', hrun', ?_, hvisibility⟩
    rw [Replay.active, Replay.active, state_eq hvisibility]
  case longer => exact run_append hrun
  case swap =>
    rintro earlier a b later rfl hapart
    have hperm : (earlier ++ b :: a :: later).Perm (earlier ++ a :: b :: later) :=
      (List.Perm.swap a b later).append_left earlier
    obtain ⟨r', hrun', hcount', hr'⟩ :=
      ofEvents_whole fun e he => hevents e (hperm.mem_iff.mp he)
    have hsame : r' = r := by
      refine eq_of_visibility ?_ ?_
      · intro oid
        rw [hr', hr, Event.lastGiven?_swap hapart]
      · rw [hcount', hcount, hperm.length_eq]
    rw [hrun', hsame]

/-- The theorem at a commit that is hidden and then replaced by itself, with another commit between:
the new id of the replacement counts. -/
theorem ofEvents_tellsOf_itself :
    let events : List Event :=
      [⟨{ commit := some "a1" }, "1", .hide⟩, ⟨{ commit := some "b2" }, "2", .commit⟩,
        ⟨{ old := some "a1", new := some "a1" }, "3", .replace⟩]
    (∀ e ∈ events, e.IsWhole) ∧ ∃ r, ofEvents events = .ok r ∧
      r.visibility? "a1" = some .visible ∧ r.visibility? "c3" = none ∧ r.count = 3 := by
  intro events
  have hwhole : ∀ e ∈ events, e.IsWhole := by
    simp [events, Event.IsWhole]
  obtain ⟨r, hrun, htells⟩ := ofEvents_tellsOf events hwhole
  refine ⟨hwhole, r, hrun, ?_, ?_, htells.count⟩
  · rw [htells.visibility]
    exact ⟨events.take 2, ⟨{ old := some "a1", new := some "a1" }, "3", .replace⟩, [], rfl, rfl,
      by simp⟩
  · rw [htells.unmentioned]
    simp [events, Event.gives?]

end Replay

/-! ## 5. Refused events -/

/-- A replacement that holds its old id only. -/
def Event.LacksNew (e : Event) (old : Oid) : Prop :=
  e.kind = .replace ∧ e.old = some old ∧ e.new = none

namespace Replay

/-- An event is a replacement that lacks the new id, and the old one is not hidden yet. -/
def HidesHalfway (r : Replay) (event : Except Error Event) (old : Oid) : Prop :=
  ∃ e, event = .ok e ∧ e.LacksNew old ∧ r.visibility? old ≠ some .hidden

/-- An event that lacks an id is refused before it does anything, unless it is a replacement that
lacks only the new one. -/
theorem step_error {r r' : Replay} {e : Event} {fault : MissingId}
    (h : r.step e = (.error fault, r')) :
    (r' = r ∧ ∀ old, ¬ e.LacksNew old) ∨ ∃ old, e.LacksNew old ∧ r' = r.set old .hidden := by
  obtain ⟨⟨commit, old, new, ref⟩, label, kind⟩ := e
  cases kind with
  | commit | unhide | hide =>
    cases commit with
    | none =>
      cases h
      refine Or.inl ⟨rfl, ?_⟩
      rintro old ⟨hkind, _⟩
      cases hkind
    | some id => cases h
  | replace =>
    cases old with
    | none =>
      cases h
      refine Or.inl ⟨rfl, ?_⟩
      rintro other ⟨_, hother, _⟩
      cases hother
    | some oldId =>
      cases new with
      | none =>
        cases h
        exact Or.inr ⟨oldId, ⟨rfl, rfl, rfl⟩, rfl⟩
      | some newId => cases h
  | refUpdate => cases h

/-- The same of an event that may not even be readable. -/
theorem stepRecord_error {r r' : Replay} {event : Except Error Event} {fault : Error}
    (h : r.stepRecord event = (some fault, r')) :
    (r' = r ∧ ∀ e old, event = .ok e → ¬ e.LacksNew old) ∨
      ∃ e old, event = .ok e ∧ e.LacksNew old ∧ r' = r.set old .hidden := by
  cases event with
  | error unreadable =>
    cases h
    refine Or.inl ⟨rfl, ?_⟩
    rintro e old ⟨⟩
  | ok e =>
    rw [stepRecord] at h
    rcases hstep : r.step e with ⟨missing | _, next⟩
    · rw [hstep] at h
      cases h
      rcases step_error hstep with ⟨hsame, hnot⟩ | ⟨old, hlacks, hset⟩
      · refine Or.inl ⟨hsame, ?_⟩
        rintro _ old ⟨⟩
        exact hnot old
      · exact Or.inr ⟨e, old, rfl, hlacks, hset⟩
    · rw [hstep] at h
      cases h

theorem set_eq_self {r : Replay} {oid : Oid} {visibility : Visibility}
    (h : r.visibility? oid = some visibility) : r.set oid visibility = r := by
  refine eq_of_visibility ?_ rfl
  intro other
  rw [visibility?_set]
  split
  · next hother => rw [hother, h]
  · rfl

/-- **A refused event leaves the state as it was, but for replacements that lack only the new id.**
Whatever the state and whatever was wrong with the event, also if its kind is none that replay
knows: the visibility of every id, the active commits and the count are those of before exactly if
the event is no replacement of an id that is not hidden by an id that is missing. Such a replacement
has hidden its old id, and changed nothing else. -/
theorem stepRecord_refused {r r' : Replay} {event : Except Error Event} {fault : Error}
    (h : r.stepRecord event = (some fault, r')) :
    ((∀ oid, r'.visibility? oid = r.visibility? oid) ∧ r'.active = r.active ∧ r'.count = r.count ↔
      ¬ ∃ old, r.HidesHalfway event old) ∧
    ∀ old, r.HidesHalfway event old → r'.count = r.count ∧
      ∀ oid, r'.visibility? oid = if oid = old then some .hidden else r.visibility? oid := by
  rcases stepRecord_error h with ⟨rfl, hnot⟩ | ⟨e, old, rfl, hlacks, rfl⟩
  · constructor
    · constructor
      · rintro - ⟨old, e, hok, hlacks, _⟩
        exact hnot e old hok hlacks
      · exact fun _ => ⟨fun _ => rfl, rfl, rfl⟩
    · rintro old ⟨e, hok, hlacks, _⟩
      exact absurd hlacks (hnot e old hok)
  · -- Only one id can be the old one of the replacement.
    have hunique : ∀ old', r.HidesHalfway (.ok e) old' → old' = old := by
      rintro old' ⟨_, ⟨⟩, hlacks', _⟩
      exact Option.some.inj (hlacks'.2.1.symm.trans hlacks.2.1)
    constructor
    · constructor
      · rintro ⟨hvisibility, _, _⟩ ⟨old', hhides⟩
        obtain rfl := hunique old' hhides
        obtain ⟨_, _, _, hshown⟩ := hhides
        refine hshown ?_
        rw [← hvisibility, visibility?_set, if_pos rfl]
      · intro hnot
        have hhidden : r.visibility? old = some .hidden := by
          by_contra hshown
          exact hnot ⟨old, e, rfl, hlacks, hshown⟩
        rw [set_eq_self hhidden]
        exact ⟨fun _ => rfl, rfl, rfl⟩
    · intro old' hhides
      obtain rfl := hunique old' hhides
      exact ⟨rfl, r.visibility?_set old' .hidden⟩

/-- The theorem at a replacement that lacks the old id: it is refused before the new id is shown. -/
theorem stepRecord_refused_lacksOld :
    let r := (start.step ⟨{ commit := some "a1" }, "1", .commit⟩).2
    let event : Except Error Event := .ok ⟨{ new := some "b2" }, "2", .replace⟩
    ∃ r', r.stepRecord event = (some (.missingId "2" "rewrite"), r') ∧
      r'.visibility? "b2" = none ∧ r'.active = ["a1"] ∧ r'.count = 1 := by
  intro r event
  have hrun : r.stepRecord event = (some (.missingId "2" "rewrite"), r) := rfl
  obtain ⟨huntouched, _⟩ := stepRecord_refused hrun
  have hlacksOld : ¬ ∃ old, r.HidesHalfway event old := by
    rintro ⟨old, e, hok, hlacks, _⟩
    obtain rfl := Except.ok.inj hok
    cases hlacks.2.1
  obtain ⟨hvisibility, hactive, hcount⟩ := huntouched.mpr hlacksOld
  exact ⟨r, hrun, (hvisibility "b2").trans (by decide), hactive.trans (by decide), hcount⟩

/-- A replacement of a visible commit that lacks the new id is refused and not counted, but it has
hidden the commit. -/
theorem stepRecord_hidesHalfway :
    let r := (start.step ⟨{ commit := some "a1" }, "1", .commit⟩).2
    let event : Except Error Event := .ok ⟨{ old := some "a1" }, "2", .replace⟩
    ∃ r', r.stepRecord event = (some (.missingId "2" "rewrite"), r') ∧
      r.visibility? "a1" = some .visible ∧ r'.visibility? "a1" = some .hidden ∧
      r.active = ["a1"] ∧ r'.active = [] ∧ r'.count = r.count :=
  ⟨_, rfl, by decide, by decide, by decide, by decide, rfl⟩

end Replay
end CommitStore
