import CommitStore.Proofs.Calls
set_option autoImplicit false

/-!
# Replaying a longer log

Calls only ever add to the event log, and what they add can always be replayed: the events that a
call records hold the ids that their kinds need. So a log that can be replayed stays one, and an id
is visible after the longer log only if it was visible before or a new event mentions it as visible.
-/

namespace CommitStore

/-! ## 1. One event -/

namespace Replay

theorem visibility?_set (r : Replay) (oid : Oid) (visibility : Visibility) (other : Oid) :
    (r.set oid visibility).visibility? other =
      if other = oid then some visibility else r.visibility? other :=
  r.state.get?_insert oid visibility other

/-- Mentions that all have ids are applied, and make nothing else visible. -/
theorem apply_complete {mentions : List (Option Oid × Visibility)}
    (hids : ∀ mention ∈ mentions, mention.1.isSome = true) (r : Replay) :
    ∃ r', r.apply mentions = (true, r') ∧
      ∀ oid, r'.visibility? oid = some .visible →
        r.visibility? oid = some .visible ∨ (some oid, .visible) ∈ mentions := by
  induction mentions generalizing r with
  | nil =>
    refine ⟨r, rfl, ?_⟩
    intro oid hvisible
    exact Or.inl hvisible
  | cons mention rest ih =>
    obtain ⟨mentioned, visibility⟩ := mention
    have hfirst := hids _ List.mem_cons_self
    cases mentioned with
    | none => cases hfirst
    | some id =>
      obtain ⟨r', happly, hr'⟩ :=
        ih (fun mention hmem => hids mention (List.mem_cons_of_mem _ hmem)) (r.set id visibility)
      refine ⟨r', happly, ?_⟩
      intro oid hvisible
      rcases hr' oid hvisible with hbefore | hmem
      · rw [visibility?_set] at hbefore
        by_cases hoid : oid = id
        · rw [if_pos hoid] at hbefore
          cases hbefore
          rw [hoid]
          exact Or.inr List.mem_cons_self
        · rw [if_neg hoid] at hbefore
          exact Or.inl hbefore
      · exact Or.inr (List.mem_cons_of_mem _ hmem)

/-- What an event of a kind mentions. -/
def mentionsOf (event : EventKind × EventSubject) : List (Option Oid × Visibility) :=
  mentions ⟨event.2, "", event.1⟩

/-- An event holds the ids that its kind needs. -/
def IsComplete (event : EventKind × EventSubject) : Prop :=
  (mentionsOf event).all (fun mention => mention.1.isSome) = true

theorem step_complete {event : EventKind × EventSubject} (hevent : IsComplete event)
    (label : String) (r : Replay) :
    ∃ r', r.step ⟨event.2, label, event.1⟩ = (.ok (), r') ∧
      ∀ oid, r'.visibility? oid = some .visible →
        r.visibility? oid = some .visible ∨ (some oid, .visible) ∈ mentionsOf event := by
  obtain ⟨r', happly, hr'⟩ := apply_complete (List.all_eq_true.mp hevent) r
  refine ⟨r'.counted, ?_, hr'⟩
  have hsame : mentions ⟨event.2, label, event.1⟩ = mentionsOf event := rfl
  rw [step, hsame, happly]

/-- Mentions are applied to the end exactly if all of them have ids. -/
theorem apply_fst (mentions : List (Option Oid × Visibility)) (r : Replay) :
    (r.apply mentions).1 = mentions.all fun mention => mention.1.isSome := by
  induction mentions generalizing r with
  | nil => rfl
  | cons mention rest ih =>
    obtain ⟨mentioned, visibility⟩ := mention
    cases mentioned with
    | none => rfl
    | some oid => exact ih (r.set oid visibility)

/-- Events are replayed to the end exactly if each of them holds the ids that its kind needs. -/
theorem exists_run_eq_ok_iff (events : List Event) (r : Replay) :
    (∃ r', r.run events = .ok r') ↔
      ∀ event ∈ events, IsComplete (event.kind, event.toEventSubject) := by
  induction events generalizing r with
  | nil => simp [run]
  | cons event rest ih =>
    have hfirst : (r.apply (mentions event)).1 = true ↔
        IsComplete (event.kind, event.toEventSubject) := by
      rw [apply_fst]
      exact Iff.rfl
    rw [List.forall_mem_cons, ← hfirst, run, step]
    rcases r.apply (mentions event) with ⟨_ | _, next⟩
    · simp
    · simpa using ih next.counted

theorem run_append {r r' : Replay} {events : List Event} (h : r.run events = .ok r')
    (more : List Event) : r.run (events ++ more) = r'.run more := by
  induction events generalizing r with
  | nil =>
    cases h
    rfl
  | cons event rest ih =>
    rw [List.cons_append, run]
    rw [run] at h
    rcases hstep : r.step event with ⟨_ | _, next⟩
    · rw [hstep] at h
      cases h
    · rw [hstep] at h
      exact ih h

end Replay

/-- The kind of a row is known, and the row holds the ids that its kind needs. -/
def EventRow.Replayable (row : EventRow) : Prop :=
  ∃ event, row.event? = some event ∧ Replay.IsComplete (event.kind, event.toEventSubject)

/-! ## 2. A longer log -/

namespace EventLog

theorem checkKinds_append {rows : List EventRow} {events : List Event}
    (h : checkKinds rows = .ok events) (more : List EventRow) :
    checkKinds (rows ++ more) = (checkKinds more).map (events ++ ·) := by
  induction rows generalizing events with
  | nil =>
    cases h
    cases hmore : checkKinds more <;> simp [hmore, Except.map]
  | cons row rest ih =>
    rw [List.cons_append, checkKinds]
    rw [checkKinds] at h
    cases hevent : row.event? with
    | none =>
      rw [hevent] at h
      cases h
    | some event =>
      rw [hevent] at h
      cases hrest : checkKinds rest with
      | error e =>
        rw [hrest] at h
        cases h
      | ok others =>
        rw [hrest] at h
        cases h
        dsimp only
        rw [ih hrest]
        cases checkKinds more <;> rfl

theorem replayRows_eq_ok_iff {rows : List EventRow} {r : Replay} :
    replayRows rows = .ok r ↔
      ∃ events, checkKinds rows = .ok events ∧ Replay.start.run events = .ok r := by
  unfold replayRows
  cases checkKinds rows with
  | error e =>
    constructor
    · intro h
      cases h
    · rintro ⟨_, hkinds, _⟩
      cases hkinds
  | ok events =>
    show (Replay.start.run events).mapError _ = .ok r ↔ _
    cases hrun : Replay.start.run events with
    | error fault =>
      constructor
      · intro h
        cases h
      · rintro ⟨_, hkinds, h⟩
        cases hkinds
        rw [hrun] at h
        cases h
    | ok found =>
      constructor
      · intro h
        cases h
        exact ⟨events, rfl, hrun⟩
      · rintro ⟨_, hkinds, h⟩
        cases hkinds
        rw [hrun] at h
        cases h
        rfl

theorem checkKinds_eq_ok_iff {rows : List EventRow} {events : List Event} :
    checkKinds rows = .ok events ↔ rows.map EventRow.event? = events.map some := by
  induction rows generalizing events with
  | nil => cases events <;> simp [checkKinds]
  | cons row rest ih =>
    rw [checkKinds, List.map_cons]
    cases row.event? with
    | none => cases events <;> simp
    | some event =>
      cases events with
      | nil => cases checkKinds rest <;> simp [Except.map]
      | cons first others =>
        rw [List.map_cons, List.cons.injEq, ← ih]
        cases checkKinds rest <;> simp [Except.map]

theorem exists_checkKinds_eq_ok {rows : List EventRow}
    (hknown : ∀ row ∈ rows, ∃ event, row.event? = some event) :
    ∃ events, checkKinds rows = .ok events := by
  induction rows with
  | nil => exact ⟨[], rfl⟩
  | cons row rest ih =>
    obtain ⟨event, hevent⟩ := hknown row List.mem_cons_self
    obtain ⟨events, hrest⟩ := ih fun row hrow => hknown row (List.mem_cons_of_mem _ hrow)
    refine ⟨event :: events, ?_⟩
    rw [checkKinds, hevent, hrest]
    rfl

/-- **A log can be replayed exactly if each of its rows can.** -/
theorem exists_replayRows_eq_ok_iff (rows : List EventRow) :
    (∃ r, replayRows rows = .ok r) ↔ ∀ row ∈ rows, row.Replayable := by
  simp only [replayRows_eq_ok_iff]
  constructor
  · rintro ⟨r, events, hkinds, hrun⟩ row hrow
    have hcomplete := (Replay.exists_run_eq_ok_iff events Replay.start).mp ⟨r, hrun⟩
    have hmem : row.event? ∈ events.map some :=
      checkKinds_eq_ok_iff.mp hkinds ▸ List.mem_map_of_mem hrow
    obtain ⟨event, hevent, hsome⟩ := List.mem_map.mp hmem
    exact ⟨event, hsome.symm, hcomplete event hevent⟩
  · intro hrows
    obtain ⟨events, hkinds⟩ := exists_checkKinds_eq_ok fun row hrow =>
      (hrows row hrow).imp fun _ hevent => hevent.1
    have hcomplete : ∀ event ∈ events, Replay.IsComplete (event.kind, event.toEventSubject) := by
      intro event hevent
      have hmem : some event ∈ rows.map EventRow.event? :=
        checkKinds_eq_ok_iff.mp hkinds ▸ List.mem_map_of_mem hevent
      obtain ⟨row, hrow, hsome⟩ := List.mem_map.mp hmem
      obtain ⟨found, hfound, hcomplete⟩ := hrows row hrow
      rw [hsome] at hfound
      exact Option.some.inj hfound ▸ hcomplete
    obtain ⟨r, hrun⟩ := (Replay.exists_run_eq_ok_iff events Replay.start).mpr hcomplete
    exact ⟨r, events, hkinds, hrun⟩

/-- A log that leaves known commits active can be replayed. -/
theorem exists_replayRows_of_active {rows : List EventRow} {active : List Oid}
    (h : (replayRows rows).toOption.map (·.active) = some active) :
    ∃ r, replayRows rows = .ok r ∧ r.active = active := by
  cases hreplay : replayRows rows with
  | error e =>
    rw [hreplay] at h
    cases h
  | ok r =>
    rw [hreplay] at h
    exact ⟨r, rfl, Option.some.inj h⟩

theorem replayRows_concat {rows : List EventRow} {row : EventRow} {event : Event} {r r' : Replay}
    (h : replayRows rows = .ok r) (hevent : row.event? = some event)
    (hstep : r.step event = (.ok (), r')) : replayRows (rows ++ [row]) = .ok r' := by
  obtain ⟨events, hkinds, hrun⟩ := replayRows_eq_ok_iff.mp h
  refine replayRows_eq_ok_iff.mpr ⟨events ++ [event], ?_, ?_⟩
  · rw [checkKinds_append hkinds, checkKinds, hevent]
    rfl
  · rw [Replay.run_append hrun, Replay.run, hstep]
    rfl

end EventLog

/-! ## 3. Recorded events -/

namespace Tables

theorem withEvents_refs (events : List (EventKind × EventSubject)) (transaction : Nat)
    (now : Instant) (t : Tables) :
    (t.withEvents transaction now events).refs = t.refs ∧
      (t.withEvents transaction now events).objects = t.objects := by
  induction events generalizing t with
  | nil => exact ⟨rfl, rfl⟩
  | cons event rest ih =>
    exact ih (t.addEvent event.1.text transaction event.2 now).2

theorem replayRows_withEvents {events : List (EventKind × EventSubject)}
    (hcomplete : ∀ event ∈ events, Replay.IsComplete event) (transaction : Nat) (now : Instant)
    {t : Tables} {r : Replay} (h : EventLog.replayRows t.events = .ok r) :
    ∃ r', EventLog.replayRows (t.withEvents transaction now events).events = .ok r' ∧
      ∀ oid, r'.visibility? oid = some .visible →
        r.visibility? oid = some .visible ∨
          ∃ event ∈ events, (some oid, .visible) ∈ Replay.mentionsOf event := by
  induction events generalizing t r with
  | nil =>
    refine ⟨r, h, ?_⟩
    intro oid hvisible
    exact Or.inl hvisible
  | cons event rest ih =>
    let row := (t.addEvent event.1.text transaction event.2 now).1
    have hevent : row.event? = some ⟨event.2, toString row.id, event.1⟩ := by
      show (EventKind.ofText? event.1.text).map _ = _
      rw [EventKind.ofText?_text]
      rfl
    obtain ⟨r₁, hstep, hr₁⟩ :=
      Replay.step_complete (hcomplete event List.mem_cons_self) (toString row.id) r
    have hone : EventLog.replayRows (t.addEvent event.1.text transaction event.2 now).2.events =
        .ok r₁ := EventLog.replayRows_concat h hevent hstep
    obtain ⟨r', hrest, hr'⟩ :=
      ih (fun event hmem => hcomplete event (List.mem_cons_of_mem _ hmem)) hone
    refine ⟨r', hrest, ?_⟩
    intro oid hvisible
    rcases hr' oid hvisible with hbefore | ⟨later, hlater, hmem⟩
    · rcases hr₁ oid hbefore with hold | hmem
      · exact Or.inl hold
      · exact Or.inr ⟨event, List.mem_cons_self, hmem⟩
    · exact Or.inr ⟨later, List.mem_cons_of_mem _ hlater, hmem⟩

/-- Recording events touches no reference and no object. -/
theorem logged_frame (t : Tables) (message : String) (now : Instant)
    (events : List (EventKind × EventSubject)) :
    (t.logged message now events).refs = t.refs ∧
      (t.logged message now events).objects = t.objects :=
  withEvents_refs events _ now (t.addTransaction (some message) now).2

theorem moved_objects (config : Config) (t : Tables) (oid : Oid) (message : String)
    (now : Instant) : (Repository.moved config t oid message now).objects = t.objects :=
  (logged_frame _ _ _ _).2.trans (RefStore.moveHead_objects _ _ _ _ _)

theorem replayRows_logged {events : List (EventKind × EventSubject)}
    (hcomplete : ∀ event ∈ events, Replay.IsComplete event) (message : String) (now : Instant)
    {t : Tables} {r : Replay} (h : EventLog.replayRows t.events = .ok r) :
    ∃ r', EventLog.replayRows (t.logged message now events).events = .ok r' ∧
      ∀ oid, r'.visibility? oid = some .visible →
        r.visibility? oid = some .visible ∨
          ∃ event ∈ events, (some oid, .visible) ∈ Replay.mentionsOf event := by
  have hopened : EventLog.replayRows (t.addTransaction (some message) now).2.events = .ok r := h
  exact replayRows_withEvents hcomplete _ now hopened

end Tables
end CommitStore
