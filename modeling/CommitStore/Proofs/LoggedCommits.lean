import CommitStore.Proofs.Edits
import CommitStore.Proofs.ObjectGrowth
set_option autoImplicit false

/-!
# The log and the stored commits

Objects and events are written by separate steps of a call, but they agree: a commit is stored by
the call that logs it, and whatever else is logged is about commits that are stored. So the ids that
the log mentions are the ids of the stored commits, in the open transaction as in the store, whether
calls complete, fail half-way or are undone.

That is a property of a whole call (`Tables.Records`), because between its steps a commit is stored
and not logged yet. The order of the event ids and the transactions of events are kept by each
single edit (`Tables.LogOrdered`).
-/

namespace CommitStore

open CommitStore.Action
open CommitStore.Repository

/-! ## 1. What a log mentions -/

namespace Replay

/-- An id gets a visibility exactly if a mention gives it one. -/
theorem isSome_apply_iff {mentions : List (Option Oid × Visibility)} {r r' : Replay}
    (h : r.apply mentions = (true, r')) (oid : Oid) :
    (r'.visibility? oid).isSome = true ↔
      (r.visibility? oid).isSome = true ∨ ∃ visibility, (some oid, visibility) ∈ mentions := by
  induction mentions generalizing r with
  | nil =>
    cases h
    simp
  | cons mention rest ih =>
    obtain ⟨mentioned, visibility⟩ := mention
    cases mentioned with
    | none => cases h
    | some id =>
      rw [ih h, visibility?_set]
      by_cases hoid : oid = id <;> simp [hoid]

/-- An event gives an id a visibility. -/
def Mentions (e : Event) (oid : Oid) : Prop := ∃ visibility, (some oid, visibility) ∈ mentions e

theorem isSome_run_iff {events : List Event} {r r' : Replay} (h : r.run events = .ok r')
    (oid : Oid) :
    (r'.visibility? oid).isSome = true ↔
      (r.visibility? oid).isSome = true ∨ ∃ e ∈ events, Mentions e oid := by
  induction events generalizing r with
  | nil =>
    cases h
    simp
  | cons e rest ih =>
    rw [run, step] at h
    rcases happly : r.apply (mentions e) with ⟨_ | _, next⟩ <;> rw [happly] at h
    · cases h
    · rw [ih h]
      have hfirst := isSome_apply_iff happly oid
      have hcounted : next.counted.visibility? oid = next.visibility? oid := rfl
      rw [hcounted, hfirst, or_assoc, List.exists_mem_cons_iff]
      exact Iff.rfl

end Replay

/-- The event of a row gives an id a visibility. -/
def EventRow.Mentions (row : EventRow) (oid : Oid) : Prop :=
  ∃ e, row.event? = some e ∧ Replay.Mentions e oid

/-- An id has a visibility after a log exactly if a row of the log mentions it. -/
theorem EventLog.isSome_replayRows_iff {rows : List EventRow} {r : Replay}
    (h : replayRows rows = .ok r) (oid : Oid) :
    (r.visibility? oid).isSome = true ↔ ∃ row ∈ rows, row.Mentions oid := by
  obtain ⟨events, hkinds, hrun⟩ := replayRows_eq_ok_iff.mp h
  have hmem : ∀ e, e ∈ events ↔ ∃ row ∈ rows, row.event? = some e := by
    intro e
    have hsome : some e ∈ rows.map EventRow.event? ↔ e ∈ events := by
      rw [checkKinds_eq_ok_iff.mp hkinds]
      simp
    rw [← hsome, List.mem_map]
  rw [Replay.isSome_run_iff hrun oid]
  constructor
  · rintro (hstart | ⟨e, he, hmentions⟩)
    · cases hstart
    · obtain ⟨row, hrow, hevent⟩ := (hmem e).mp he
      exact ⟨row, hrow, e, hevent, hmentions⟩
  · rintro ⟨row, hrow, e, hevent, hmentions⟩
    exact Or.inr ⟨e, (hmem e).mpr ⟨row, hrow, hevent⟩, hmentions⟩

/-! ## 2. What a call records -/

/-- Some events are added to the log. All of them can be replayed, and the commits that they mention
are those that were stored before and those that are stored now. -/
def Tables.Records (t t' : Tables) : Prop :=
  ∃ rows, t'.events = t.events ++ rows ∧ (∀ row ∈ rows, row.Replayable) ∧
    ∀ oid, t'.objects.isCommit oid = true ↔
      t.objects.isCommit oid = true ∨ ∃ row ∈ rows, row.Mentions oid

/-- The rows of recorded events mention what the events mention. -/
theorem Tables.withEvents_events {events : List (EventKind × EventSubject)}
    (hcomplete : ∀ event ∈ events, Replay.IsComplete event) (transaction : Nat) (now : Instant)
    (t : Tables) :
    ∃ rows, (t.withEvents transaction now events).events = t.events ++ rows ∧
      (∀ row ∈ rows, row.Replayable) ∧
      ∀ oid, (∃ row ∈ rows, row.Mentions oid) ↔
        ∃ event ∈ events, ∃ visibility, (some oid, visibility) ∈ Replay.mentionsOf event := by
  induction events generalizing t with
  | nil => exact ⟨[], (List.append_nil _).symm, by simp, by simp⟩
  | cons event rest ih =>
    let row := (t.addEvent event.1.text transaction event.2 now).1
    have hevent : row.event? = some ⟨event.2, toString row.id, event.1⟩ := by
      show (EventKind.ofText? event.1.text).map _ = _
      rw [EventKind.ofText?_text]
      rfl
    have hmentions : ∀ oid, row.Mentions oid ↔
        ∃ visibility, (some oid, visibility) ∈ Replay.mentionsOf event := by
      intro oid
      constructor
      · rintro ⟨e, he, hmention⟩
        cases hevent.symm.trans he
        exact hmention
      · intro hmention
        exact ⟨_, hevent, hmention⟩
    obtain ⟨rows, hrows, hreplayable, hiff⟩ :=
      ih (fun event hmem => hcomplete event (List.mem_cons_of_mem _ hmem))
        (t.addEvent event.1.text transaction event.2 now).2
    refine ⟨row :: rows, ?_, ?_, ?_⟩
    · refine hrows.trans ?_
      exact List.append_assoc _ _ _
    · intro other hother
      rcases List.mem_cons.mp hother with rfl | hlater
      · exact ⟨_, hevent, hcomplete event List.mem_cons_self⟩
      · exact hreplayable other hlater
    · intro oid
      rw [List.exists_mem_cons_iff, List.exists_mem_cons_iff, hmentions, hiff]

namespace Tables.Records

variable {t t' t'' : Tables}

theorem of_same (hevents : t'.events = t.events)
    (hcommits : ∀ oid, t'.objects.isCommit oid = true ↔ t.objects.isCommit oid = true) :
    t.Records t' := by
  refine ⟨[], ?_, by simp, ?_⟩
  · rw [hevents, List.append_nil]
  · intro oid
    simp [hcommits oid]

/-- What is recorded depends on the events and the objects only. -/
theorem congr (h : t.Records t') (hevents : t''.events = t'.events)
    (hobjects : t''.objects = t'.objects) : t.Records t'' := by
  rw [Records, hevents, hobjects]
  exact h

theorem logged {events : List (EventKind × EventSubject)}
    (hcomplete : ∀ event ∈ events, Replay.IsComplete event) (hevents : t'.events = t.events)
    (hcommits : ∀ oid, t'.objects.isCommit oid = true ↔ t.objects.isCommit oid = true ∨
      ∃ event ∈ events, ∃ visibility, (some oid, visibility) ∈ Replay.mentionsOf event)
    (message : String) (now : Instant) : t.Records (t'.logged message now events) := by
  obtain ⟨rows, hrows, hreplayable, hmentions⟩ := Tables.withEvents_events hcomplete
    (t'.addTransaction (some message) now).1 now (t'.addTransaction (some message) now).2
  refine ⟨rows, ?_, hreplayable, ?_⟩
  · rw [← hevents]
    exact hrows
  · intro oid
    rw [(t'.logged_frame message now events).2, hcommits oid, hmentions oid]

theorem pinnedIfPossible {config : Config} (h : t.Records t') (oid : Oid) (now : Instant) :
    t.Records (pinnedIfPossible config t' oid now) := by
  unfold Repository.pinnedIfPossible
  split
  · exact h.congr rfl rfl
  · exact h

end Tables.Records

theorem ObjectStore.isCommit_insert_cases {s : ObjectStore} {o : StoredObject} {oid : Oid}
    (h : (s.insert o).isCommit oid = true) :
    s.isCommit oid = true ∨ o.kind = .commit ∧ oid = o.oid := by
  obtain ⟨row, hget, hkind⟩ := isCommit_iff.mp h
  rcases get?_insert_cases hget with hold | rfl
  · exact Or.inl (isCommit_iff.mpr ⟨row, hold, hkind⟩)
  · exact Or.inr ⟨hkind, (get?_oid hget).symm⟩

/-- A blob or a tag is no commit. -/
theorem ObjectStore.isCommit_insert_iff {s : ObjectStore} {o : StoredObject}
    (hkind : o.kind ≠ .commit) (oid : Oid) :
    (s.insert o).isCommit oid = true ↔ s.isCommit oid = true := by
  constructor
  · intro h
    exact (isCommit_insert_cases h).resolve_right fun hnew => hkind hnew.1
  · exact isCommit_insert

theorem Tables.isCommit_withCommit?_iff {hashed : String → Prop} {t t' : Tables}
    (hstore : t.objects.WellFormed hashed)
    (hdistinct : ∀ a b, hashed a → hashed b → Sha256.hexOfText a = Sha256.hexOfText b → a = b)
    {parents : List Oid} {message : String} {now : Instant}
    (hhashed : hashed (ObjectId.textOf .commit
      (ObjectId.commitPayload parents message now.toIsoUtc)))
    (hsave : t.withCommit? parents message now = some t') (oid : Oid) :
    t'.objects.isCommit oid = true ↔ t.objects.isCommit oid = true ∨
      oid = ObjectId.ofCommit parents message now.toIsoUtc := by
  obtain ⟨_, hcommit, hkept, _⟩ := withCommit?_objects hstore hdistinct hhashed hsave
  constructor
  · intro h
    have hinserted : (t.objects.insert (.ofCommit parents message now)).isCommit oid = true := by
      rcases eq_of_withCommit? hsave with ⟨_, rfl⟩ | ⟨_, rfl⟩ <;> exact h
    exact (ObjectStore.isCommit_insert_cases hinserted).imp_right And.right
  · rintro (hold | rfl)
    · exact hkept oid hold
    · exact hcommit

theorem RefStore.moveHead_events (t : Tables) (defaultBranch : String) (oid : Oid)
    (message : String) (now : Instant) :
    (moveHead t defaultBranch oid message now).events = t.events := by
  unfold moveHead
  cases t.refs.get? RefName.head <;> rfl

/-- **A call logs what it stores, and what it logs is stored.** -/
theorem EffectUnder.records {config : Config} {hashed : String → Prop}
    {allowed : Tables → Call → Prop} {t t' : Tables} (h : EffectUnder config hashed allowed t t')
    (hstore : t.objects.WellFormed hashed)
    (hdistinct : ∀ a b, hashed a → hashed b → Sha256.hexOfText a = Sha256.hexOfText b → a = b) :
    t.Records t' := by
  -- Events about commits that are stored make no difference to the commits that there are.
  have hlogged : ∀ message now events, (∀ event ∈ events, Replay.IsComplete event) →
      (∀ event ∈ events, ∀ oid visibility, (some oid, visibility) ∈ Replay.mentionsOf event →
        t.objects.isCommit oid = true) → t.Records (t.logged message now events) := by
    intro message now events hcomplete hstored
    refine .logged hcomplete rfl (fun oid => ?_) message now
    constructor
    · exact Or.inl
    · rintro (hold | ⟨event, hevent, visibility, hmention⟩)
      · exact hold
      · exact hstored event hevent oid visibility hmention
  cases h with
  | blob data now =>
    exact .of_same rfl (ObjectStore.isCommit_insert_iff (by simp [StoredObject.ofBlob]))
  | tag name target message now =>
    exact .of_same rfl (ObjectStore.isCommit_insert_iff (by simp [StoredObject.ofTag]))
  | tagReference | attach | detach | pin | ask => exact .of_same rfl fun _ => Iff.rfl
  | @commit saved parents message now oid hoid hhashed hparents hsave =>
    have hevents := (Tables.withCommit?_objects hstore hdistinct hhashed hsave).2.2.2.2
    refine Tables.Records.pinnedIfPossible (.logged ?_ ?_ ?_ _ now) oid now
    · simp [Replay.IsComplete, Replay.mentionsOf, Replay.mentions]
    · rw [RefStore.moveHead_events, hevents]
    · intro other
      rw [RefStore.moveHead_objects,
        Tables.isCommit_withCommit?_iff hstore hdistinct hhashed hsave, ← hoid]
      simp [Replay.mentionsOf, Replay.mentions]
  | branch name source oid attaches now =>
    cases attaches <;> exact .of_same rfl fun _ => Iff.rfl
  | unbranch name oid now =>
    obtain ⟨hobjects, hevents, _⟩ := t.removeRef_frame (RefName.ofBranch name)
      (some ("branch: deleted " ++ name)) now
    refine .logged ?_ hevents ?_ _ now
    · simp [Replay.IsComplete, Replay.mentionsOf, Replay.mentions]
    · intro other
      rw [hobjects]
      simp [Replay.mentionsOf, Replay.mentions]
  | hide oid now hcommit =>
    refine hlogged _ now _ ?_ ?_
    · simp [Replay.IsComplete, Replay.mentionsOf, Replay.mentions]
    · simp [Replay.mentionsOf, Replay.mentions, hcommit]
  | unhide oid now hcommit =>
    refine (hlogged _ now _ ?_ ?_).pinnedIfPossible oid now
    · simp [Replay.IsComplete, Replay.mentionsOf, Replay.mentions]
    · simp [Replay.mentionsOf, Replay.mentions, hcommit]
  | replace old new now hold hnew =>
    refine (hlogged _ now _ ?_ ?_).pinnedIfPossible new now
    · intro event hevent
      rw [List.mem_singleton.mp hevent]
      rfl
    · intro event hevent oid visibility hmention
      rw [List.mem_singleton.mp hevent] at hmention
      simp only [Replay.mentionsOf, Replay.mentions, List.mem_cons, List.not_mem_nil, or_false,
        Prod.mk.injEq, Option.some.injEq] at hmention
      rcases hmention with ⟨rfl, _⟩ | ⟨rfl, _⟩
      · exact hold
      · exact hnew
  | sweep r now =>
    obtain ⟨hobjects, hevents, _⟩ := Tables.removeRefs_frame _ now
      (EventLog.computeVisible t (EventLog.rootsOf t config.mainBranch r.active)).2
    refine .of_same hevents fun oid => ?_
    rw [swept, hobjects]
    exact Iff.rfl

/-! ## 3. The order of the log -/

/-- Event ids increase, and every event belongs to a transaction that is there. -/
structure Tables.LogOrdered (t : Tables) : Prop where
  increasing : (t.events.map (·.id)).Pairwise (· < ·)
  transactions : ∀ row ∈ t.events, t.hasTransaction row.transaction = true

theorem Tables.lt_nextId {ids : List Nat} {id : Nat} (h : id ∈ ids) : id < nextId ids := by
  have hfold : ∀ (ids : List Nat) (least : Nat),
      least ≤ ids.foldl max least ∧ ∀ id ∈ ids, id ≤ ids.foldl max least := by
    intro ids
    induction ids with
    | nil => simp
    | cons first rest ih =>
      intro least
      obtain ⟨hleast, hrest⟩ := ih (max least first)
      rw [List.foldl_cons]
      refine ⟨by omega, ?_⟩
      intro id hid
      rcases List.mem_cons.mp hid with rfl | hlater
      · omega
      · exact hrest id hlater
  exact Nat.lt_succ_of_le ((hfold ids 0).2 id h)

/-- **Every edit keeps the log in order.** -/
theorem Tables.LogOrdered.of_edit {config : Config} {hashed : String → Prop} {t t' : Tables}
    (hedit : Edit config hashed t t') (h : t.LogOrdered) : t'.LogOrdered := by
  cases hedit with
  | store | link | write | attach | beginHead | remember => exact ⟨h.increasing, h.transactions⟩
  | removeBranch | release =>
    unfold Tables.removeRef
    split <;> exact ⟨h.increasing, h.transactions⟩
  | openTransaction message now =>
    refine ⟨h.increasing, fun row hrow => ?_⟩
    have hold := h.transactions row hrow
    rw [hasTransaction] at hold
    rw [hasTransaction, addTransaction, List.any_append, hold]
    rfl
  | record kind transaction subject now htransaction =>
    constructor
    · have hevents : (t.addEvent kind transaction subject now).2.events.map (·.id) =
          t.events.map (·.id) ++ [nextId (t.events.map (·.id))] := by
        rw [addEvent, List.map_append]
        rfl
      rw [hevents, List.pairwise_append]
      refine ⟨h.increasing, List.pairwise_singleton _ _, ?_⟩
      intro id hid next hnext
      rw [List.mem_singleton.mp hnext]
      exact lt_nextId hid
    · intro row hrow
      rcases List.mem_append.mp hrow with hold | hnew
      · exact h.transactions row hold
      · rw [List.mem_singleton.mp hnew]
        exact htransaction

/-! ## 4. Histories -/

/-- The log can be replayed, and mentions the stored commits and no other ids. -/
structure Tables.LogAgrees (hashed : String → Prop) (t : Tables) : Prop where
  grown : t.Grown hashed
  replayable : ∀ row ∈ t.events, row.Replayable
  commits : ∀ oid, t.objects.isCommit oid = true ↔ ∃ row ∈ t.events, row.Mentions oid

namespace Tables.LogAgrees

variable {hashed : String → Prop} {t t' : Tables}

theorem empty : Tables.LogAgrees hashed .empty where
  grown := .empty
  replayable row hrow := absurd hrow List.not_mem_nil
  commits oid := by
    constructor
    · intro hcommit
      cases hcommit
    · rintro ⟨_, hrow, _⟩
      cases hrow

theorem of_effect {config : Config} (heffect : Effect config hashed t t')
    (hdistinct : ∀ a b, hashed a → hashed b → Sha256.hexOfText a = Sha256.hexOfText b → a = b)
    (h : t.LogAgrees hashed) : t'.LogAgrees hashed := by
  obtain ⟨_, hgrown⟩ := h.grown.of_effect heffect hdistinct
  obtain ⟨rows, hevents, hreplayable, hcommits⟩ :=
    heffect.records h.grown.objects.rows hdistinct
  refine ⟨hgrown, ?_, ?_⟩
  · intro row hrow
    rw [hevents] at hrow
    rcases List.mem_append.mp hrow with hold | hnew
    · exact h.replayable row hold
    · exact hreplayable row hnew
  · intro oid
    rw [hcommits, h.commits, hevents]
    simp only [List.mem_append, or_and_right, exists_or]

theorem visibility_iff (h : t.LogAgrees hashed) {r : Replay}
    (hreplay : EventLog.replayRows t.events = .ok r) (oid : Oid) :
    (r.visibility? oid).isSome = true ↔ t.objects.isCommit oid = true := by
  rw [EventLog.isSome_replayRows_iff hreplay, h.commits]

end Tables.LogAgrees

namespace Repository

/-- **The log agrees with the stored commits.** After any history of calls on a new repository with
any configuration, in the committed tables and in those of the open transaction: the log can be
replayed; an id has a visibility exactly if it is the id of a stored commit, so every active commit
is stored; every event belongs to a transaction that is there; and event ids increase in the order
in which the events were recorded. The texts hashed on the way are taken to have different
digests. -/
theorem run_logAgrees (config : Config) (history : List (Instant × Call)) (durable : Bool)
    (start : Instant)
    (hdistinct : ∀ a ∈ hashedTexts config history (Session.start .empty durable start),
      ∀ b ∈ hashedTexts config history (Session.start .empty durable start),
        Sha256.hexOfText a = Sha256.hexOfText b → a = b) :
    let s := (run config history (Session.start .empty durable start)).2
    ∀ t, t = s.committed ∨ t = s.working →
      (∃ r, (∀ u : Session, u.IsOpen → u.working = t → EventLog.replay.runOn u = (.ok r, u)) ∧
        (∀ oid, (r.visibility? oid).isSome = true ↔ t.objects.isCommit oid = true) ∧
        ∀ oid ∈ r.active, t.objects.isCommit oid = true) ∧
      (∀ row ∈ t.events, ∃ transaction ∈ t.transactions, (transaction.id : Int) = row.transaction) ∧
      (t.events.map (·.id)).Pairwise (· < ·) := by
  intro s t ht
  have hagrees : t.LogAgrees fun text =>
      text ∈ hashedTexts config history (Session.start .empty durable start) := by
    refine run_keepsEffects config history durable start .empty ?_ ht
    intro t t' heffect h
    exact h.of_effect heffect fun a b ha hb => hdistinct a ha b hb
  have hordered : t.LogOrdered :=
    run_keeps config history durable start ⟨List.Pairwise.nil, by simp [Tables.empty]⟩
      (fun _ _ => Tables.LogOrdered.of_edit) ht
  obtain ⟨r, hreplay⟩ := (EventLog.exists_replayRows_eq_ok_iff t.events).mpr hagrees.replayable
  refine ⟨⟨r, ?_, hagrees.visibility_iff hreplay, ?_⟩, ?_, hordered.increasing⟩
  · rintro u hopen rfl
    rw [EventLog.replay_runOn hopen, hreplay]
  · intro oid hactive
    refine (hagrees.visibility_iff hreplay oid).mp ?_
    rw [(r.mem_active_iff oid).mp hactive]
    rfl
  · intro row hrow
    obtain ⟨transaction, hmem, hid⟩ := List.any_eq_true.mp (hordered.transactions row hrow)
    exact ⟨transaction, hmem, eq_of_beq hid⟩

open CommitLine

/-- The theorem at a line of two commits, of which the first is hidden: the log tells of these two,
and the second one is active. -/
theorem run_logAgrees_hidden :
    let s := (run {} hiddenHistory fresh).2
    (∀ a ∈ hashedTexts {} hiddenHistory fresh, ∀ b ∈ hashedTexts {} hiddenHistory fresh,
      Sha256.hexOfText a = Sha256.hexOfText b → a = b) ∧
      ∃ r, EventLog.replay.runOn s = (.ok r, s) ∧ r.active = [secondId] ∧
        ∀ oid, (r.visibility? oid).isSome = true ↔ oid = firstId ∨ oid = secondId := by
  intro s
  have hs : s = Session.start (hiddenTables {}) false (second 2) := run_hiddenHistory admits_default
  have hopen : s.IsOpen := hs ▸ isOpen_start _ _ _
  have hdistinct := hiddenHistory_distinct admits_default
  obtain ⟨⟨r, hruns, hvisibility, _⟩, _⟩ := run_logAgrees {} hiddenHistory false default hdistinct
    s.working (Or.inr rfl)
  have hreplays := hruns s hopen rfl
  have hreplay : EventLog.replayRows s.working.events = .ok r := by
    have hrun := hreplays
    rw [EventLog.replay_runOn hopen] at hrun
    split at hrun
    · next hreplay =>
      cases hrun
      exact hreplay
    · cases hrun
  rw [hs] at hreplay
  refine ⟨hdistinct, r, hreplays, (replay_hiddenTables hreplay).2.2, fun oid => ?_⟩
  rw [hvisibility oid, hs, start_working, (hiddenTables_frame {}).2]
  exact isCommit_lineTables_iff

end Repository
end CommitStore
