import CommitStore.Proofs.CachedBases
import CommitStore.Proofs.SweptVisibility
set_option autoImplicit false

/-!
# What a commit leaves behind

A commit under a new id can be read back as it was made, whichever way its parents are stored: a
merge has its list of parents in rows of their own, any other commit has its one parent in its own
row. That no row of such a list is there before the commit is what a history of calls keeps true
(`LinksStored`).

Of the references only the pin changes and what the head stands for. There are three cases, because
`HEAD` is not there yet, is attached to a branch, or points directly at an object; under any root of
pins there is no fourth one (`RefTable.OnStored.head_cases`). The log goes on with one transaction,
and after it the commit is active.
-/

namespace CommitStore

open CommitStore.Action
open CommitStore.Repository

/-! ## 1. References that change -/

namespace RefTable

variable {refs refs' : RefTable} {changes : List (RefName × Pointer)} {s : ObjectStore}

/-- The references of the list have become what the list says, and all others are what they were. -/
structure ChangesTo (refs refs' : RefTable) (changes : List (RefName × Pointer)) : Prop where
  changed : ∀ change ∈ changes, refs'.get? change.1 = some change.2
  kept : ∀ name, (∀ change ∈ changes, change.1 ≠ name) → refs'.get? name = refs.get? name

theorem ChangesTo.refl (refs : RefTable) : refs.ChangesTo refs [] where
  changed _ hchange := absurd hchange List.not_mem_nil
  kept _ _ := rfl

/-- One more reference is written. If it is in the list already, it is written as it is there. -/
theorem ChangesTo.insert (h : refs.ChangesTo refs' changes) {name : RefName} {p : Pointer}
    (hsame : ∀ change ∈ changes, change.1 = name → change.2 = p) :
    refs.ChangesTo (refs'.insert name p) ((name, p) :: changes) where
  changed change hchange := by
    rw [NameMap.get?_insert]
    by_cases hname : change.1 = name
    · rw [if_pos hname]
      rcases List.mem_cons.mp hchange with rfl | hold
      · rfl
      · rw [hsame change hold hname]
    · rw [if_neg hname]
      rcases List.mem_cons.mp hchange with rfl | hold
      · exact absurd rfl hname
      · exact h.changed change hold
  kept other hother := by
    have hne : name ≠ other := hother (name, p) List.mem_cons_self
    rw [NameMap.get?_insert, if_neg hne.symm]
    exact h.kept other fun change hold => hother change (List.mem_cons_of_mem _ hold)

/-- There is no head, or it is attached to a branch, or it points directly at an object. -/
theorem OnStored.head_cases (h : refs.OnStored s) :
    refs.get? RefName.head = none ∨
      (∃ branch, refs.get? RefName.head = some (.toName (RefName.ofBranch branch))) ∨
      ∃ oid, refs.get? RefName.head = some (.direct oid) := by
  cases hget : refs.get? RefName.head with
  | none => exact Or.inl rfl
  | some p =>
    rcases h _ p hget with ⟨oid, rfl, _⟩ | ⟨_, branch, rfl⟩
    · exact Or.inr (Or.inr ⟨oid, rfl⟩)
    · exact Or.inr (Or.inl ⟨branch, rfl⟩)

/-- Every edit keeps the references on stored objects, under any root of pins. -/
theorem OnStored.of_edit {config : Config} {hashed : String → Prop} {t t' : Tables}
    (hedit : Edit config hashed t t') (h : t.refs.OnStored t.objects) :
    t'.refs.OnStored t'.objects := by
  cases hedit with
  | store o => exact h.mono fun oid hoid => (t.objects.contains_insert_iff o oid).mpr (Or.inl hoid)
  | link | openTransaction | record | remember => exact h
  | write name oid message now hstored _ => exact h.insert_direct name (hstored.elim id h.headOf)
  | attach branch => exact h.attach branch
  | beginHead branch oid message now hstored => exact (h.attach branch).insert_direct _ hstored
  | removeBranch branch message now =>
    rw [(t.removeRef_frame _ message now).1]
    exact h.of_le fun _ _ => Tables.removeRef_le
  | release name now =>
    rw [(t.removeRef_frame name none now).1]
    exact h.of_le fun _ _ => Tables.removeRef_le

end RefTable

/-! ## 2. The head -/

namespace RefStore

variable {t : Tables} (defaultBranch : String) (oid : Oid) (message : String) (now : Instant)

theorem moveHead_begins (h : t.refs.get? RefName.head = none) :
    t.refs.ChangesTo (moveHead t defaultBranch oid message now).refs
      [(RefName.ofBranch defaultBranch, .direct oid),
        (RefName.head, .toName (RefName.ofBranch defaultBranch))] := by
  rw [moveHead, h]
  have hattached : t.refs.ChangesTo
      (t.refs.insert RefName.head (.toName (RefName.ofBranch defaultBranch))) _ :=
    (RefTable.ChangesTo.refl t.refs).insert fun _ hmem => absurd hmem List.not_mem_nil
  refine hattached.insert fun change hchange hname => ?_
  rw [List.mem_singleton.mp hchange] at hname
  exact absurd hname (RefName.head_ne_ofBranch defaultBranch)

theorem moveHead_attached {branch : String}
    (h : t.refs.get? RefName.head = some (.toName (RefName.ofBranch branch))) :
    t.refs.ChangesTo (moveHead t defaultBranch oid message now).refs
      [(RefName.ofBranch branch, .direct oid)] := by
  rw [moveHead, h]
  dsimp only
  rw [attachedTo?_ofBranch]
  exact (RefTable.ChangesTo.refl t.refs).insert fun _ hmem => absurd hmem List.not_mem_nil

theorem moveHead_detached {old : Oid} (h : t.refs.get? RefName.head = some (.direct old)) :
    t.refs.ChangesTo (moveHead t defaultBranch oid message now).refs
      [(RefName.head, .direct oid)] := by
  rw [moveHead, h]
  exact (RefTable.ChangesTo.refl t.refs).insert fun _ hmem => absurd hmem List.not_mem_nil

end RefStore

/-! ## 3. The commit and the log -/

/-- A commit under a new id can be read back. -/
theorem ObjectStore.LinksStored.commit?_of_withCommit? {t t' : Tables} (h : t.objects.LinksStored)
    {parents : List Oid} {message : String} {now : Instant}
    (hnew : t.objects.contains (ObjectId.ofCommit parents message now.toIsoUtc) = false)
    (hsave : t.withCommit? parents message now = some t') :
    t'.objects.commit? (ObjectId.ofCommit parents message now.toIsoUtc) =
      some ⟨ObjectId.ofCommit parents message now.toIsoUtc, parents, some message, now⟩ := by
  let o := StoredObject.ofCommit parents message now
  have hnone : t.objects.get? o.oid = none := by
    rw [← Option.not_isSome_iff_eq_none]
    exact Bool.eq_false_iff.mp hnew
  have hrow : (t.objects.insert o).get? o.oid = some o := by
    rw [get?_insert, hnone, if_pos rfl]
    rfl
  have hfree : ∀ link ∈ t.objects.links, link.commit ≠ o.oid := by
    intro link hlink hcommit
    have hstored := h link hlink
    rw [hcommit, show t.objects.contains o.oid = false from hnew] at hstored
    cases hstored
  have hread : t'.objects.get? o.oid = some o ∧ t'.objects.parents o.oid = parents := by
    rcases Tables.eq_of_withCommit? hsave with ⟨hsingle, rfl⟩ | ⟨hmerge, rfl⟩
    · refine ⟨hrow, ?_⟩
      show (t.objects.insert o).parents o.oid = parents
      rw [parents_of_noLinks (links_insert t.objects o ▸ hfree), hrow]
      exact toList_head? hsingle
    · refine ⟨hrow, parents_of_linksFor ?_ (List.ne_nil_of_length_pos (Nat.zero_lt_of_lt hmerge))⟩
      have hnone : t.objects.links.filter (·.commit == o.oid) = [] := by
        rw [List.filter_eq_nil_iff]
        exact fun link hlink hsame => hfree link hlink (beq_iff_eq.mp hsame)
      show ((t.objects.insert o).links ++ linksFor o.oid parents).filter (·.commit == o.oid) = _
      rw [links_insert, List.filter_append, hnone, List.nil_append, filter_linksFor]
  obtain ⟨hget, hparents⟩ := hread
  show t'.objects.commit? o.oid = _
  rw [commit?, hget]
  dsimp only
  rw [if_pos (show o.kind = .commit from rfl), hparents]
  rfl

/-- One transaction is recorded, with the event that a commit was made and the event that the head
has moved to it. -/
def Tables.LogsCommit (t t' : Tables) (old : Option Oid) (oid : Oid) (now : Instant) : Prop :=
  ∃ transaction first second : Nat, (∀ row ∈ t.transactions, row.id < transaction) ∧
    (∀ row ∈ t.events, row.id < first) ∧ first < second ∧
    t'.transactions = t.transactions ++ [⟨transaction, some "commit", now⟩] ∧
    t'.events = t.events ++
      [⟨{ commit := some oid }, first, transaction, EventKind.commit.text, now⟩,
        ⟨{ ref := some RefName.head, old, new := some oid }, second, transaction,
          EventKind.refUpdate.text, now⟩]

namespace Repository

variable {config : Config}

theorem moveHead_transactions (t : Tables) (defaultBranch : String) (oid : Oid) (message : String)
    (now : Instant) :
    (RefStore.moveHead t defaultBranch oid message now).transactions = t.transactions := by
  unfold RefStore.moveHead
  cases t.refs.get? RefName.head <;> rfl

theorem moved_logs (config : Config) (t : Tables) (oid : Oid) (message : String) (now : Instant) :
    t.LogsCommit (moved config t oid message now) (RefStore.headOf t.refs) oid now := by
  have hevents := RefStore.moveHead_events t config.mainBranch oid ("commit: " ++ message) now
  have htransactions := moveHead_transactions t config.mainBranch oid ("commit: " ++ message) now
  rw [moved]
  generalize RefStore.moveHead t config.mainBranch oid ("commit: " ++ message) now = t' at *
  let transaction := Tables.nextId (t'.transactions.map (·.id))
  let row : EventRow := ⟨{ commit := some oid }, Tables.nextId (t'.events.map (·.id)), transaction,
    EventKind.commit.text, now⟩
  refine ⟨transaction, row.id, Tables.nextId ((t'.events ++ [row]).map (·.id)), ?_, ?_, ?_, ?_, ?_⟩
  · intro old hold
    exact Tables.lt_nextId (List.mem_map_of_mem (htransactions ▸ hold))
  · intro old hold
    exact Tables.lt_nextId (List.mem_map_of_mem (hevents ▸ hold))
  · exact Tables.lt_nextId (List.mem_map_of_mem (List.mem_append_right _ List.mem_cons_self))
  · rw [← htransactions]
    rfl
  · rw [← hevents]
    exact List.append_assoc _ _ _

/-- After the two events the commit is active. -/
theorem moved_active (config : Config) {t : Tables} (h : t.Replays) (oid : Oid) (message : String)
    (now : Instant) :
    ∃ r, EventLog.replayRows (moved config t oid message now).events = .ok r ∧ oid ∈ r.active := by
  obtain ⟨r, hreplay⟩ := h
  obtain ⟨transaction, first, second, _, _, _, _, hevents⟩ := moved_logs config t oid message now
  let made : EventRow := ⟨{ commit := some oid }, first, transaction, EventKind.commit.text, now⟩
  let shown := (r.set oid .visible).counted
  have hmade : EventLog.replayRows (t.events ++ [made]) = .ok shown :=
    EventLog.replayRows_concat hreplay (congrArg _ (EventKind.ofText?_text .commit)) rfl
  -- That the head has moved changes no visibility.
  have hmoved : EventLog.replayRows ((t.events ++ [made]) ++
      [⟨{ ref := some RefName.head, old := RefStore.headOf t.refs, new := some oid }, second,
        transaction, EventKind.refUpdate.text, now⟩]) = .ok shown.counted :=
    EventLog.replayRows_concat hmade (congrArg _ (EventKind.ofText?_text .refUpdate)) rfl
  refine ⟨shown.counted, ?_, ?_⟩
  · rw [hevents, ← hmoved, List.append_assoc]
    rfl
  · rw [Replay.mem_active_iff]
    exact (r.visibility?_set oid .visible oid).trans (if_pos rfl)

/-! ## 4. A commit that is made -/

/-- What commits rely on. -/
structure ReadyToCommit (t : Tables) : Prop where
  links : t.objects.LinksStored
  refs : t.refs.OnStored t.objects
  log : t.Replays

theorem ReadyToCommit.empty : ReadyToCommit .empty where
  links := ObjectStore.linksStored_empty
  refs := RefTable.OnStored.empty
  log := ⟨.start, rfl⟩

theorem ReadyToCommit.of_effect {hashed : String → Prop} {t t' : Tables}
    (heffect : Effect config hashed t t') (h : ReadyToCommit t) : ReadyToCommit t' where
  links := h.links.of_effect heffect
  refs := heffect.edits.keeps (fun _ _ => RefTable.OnStored.of_edit) h.refs
  log := h.log.of_effect heffect

/-- What a commit is made on: a list of different commits, or else the commit at the head, if there
is a head. -/
inductive MadeOn (t : Tables) : Option (List Oid) → List Oid → Prop
  | listed {given : List Oid} (hdistinct : given.Nodup)
      (hcommits : ∀ oid ∈ given, t.objects.isCommit oid = true) : MadeOn t (some given) given
  | noHead (hhead : t.refs.get? RefName.head = none) : MadeOn t none []
  | head {oid : Oid} (hhead : t.HeadAt oid) (hcommit : t.objects.isCommit oid = true) :
      MadeOn t none [oid]

theorem MadeOn.nodup {t : Tables} {parents : Option (List Oid)} {given : List Oid}
    (h : MadeOn t parents given) : given.Nodup := by
  cases h with
  | listed hdistinct => exact hdistinct
  | noHead => exact List.nodup_nil
  | head => exact List.nodup_singleton _

theorem MadeOn.isCommit {t : Tables} {parents : Option (List Oid)} {given : List Oid}
    (h : MadeOn t parents given) : ∀ oid ∈ given, t.objects.isCommit oid = true := by
  cases h with
  | listed _ hcommits => exact hcommits
  | noHead => exact fun _ hoid => absurd hoid List.not_mem_nil
  | head _ hcommit => exact List.forall_mem_singleton.mpr hcommit

theorem MadeOn.parentsOf_eq {t : Tables} {parents : Option (List Oid)} {given : List Oid}
    (h : MadeOn t parents given) (hrefs : t.refs.OnStored t.objects) :
    parentsOf t parents = given := by
  cases h with
  | listed => rfl
  | noHead hhead =>
    rw [parentsOf, RefStore.headOf, hhead]
    rfl
  | head hhead =>
    rw [parentsOf, hrefs.headOf_eq_some_iff.mpr hhead]
    rfl

/-- Of the references only a pin and what the head stands for have changed, and both are at an
object now. `HEAD` itself comes into being with the main branch. -/
structure MovesHead (config : Config) (refs refs' : RefTable) (oid : Oid) : Prop where
  begins : refs.get? RefName.head = none → refs.ChangesTo refs'
    [(Reserved.pinName config.pinRoot oid, .direct oid),
      (RefName.ofBranch config.mainBranch, .direct oid),
      (RefName.head, .toName (RefName.ofBranch config.mainBranch))]
  attached : ∀ branch, refs.get? RefName.head = some (.toName (RefName.ofBranch branch)) →
    refs.ChangesTo refs'
      [(Reserved.pinName config.pinRoot oid, .direct oid), (RefName.ofBranch branch, .direct oid)]
  detached : ∀ old, refs.get? RefName.head = some (.direct old) → refs.ChangesTo refs'
    [(Reserved.pinName config.pinRoot oid, .direct oid), (RefName.head, .direct oid)]

theorem MovesHead.headOf {refs refs' : RefTable} {oid : Oid}
    (h : MovesHead config refs refs' oid) {objects : ObjectStore} (hrefs : refs.OnStored objects) :
    RefStore.headOf refs' = some oid := by
  have hbranch : ∀ branch, refs'.get? RefName.head = some (.toName (RefName.ofBranch branch)) →
      refs'.get? (RefName.ofBranch branch) = some (.direct oid) →
        RefStore.headOf refs' = some oid := by
    intro branch hhead htip
    exact (RefStore.headOf_attached hhead).trans (EventLog.branchTip?_of_direct htip)
  rcases hrefs.head_cases with hnone | ⟨branch, hget⟩ | ⟨old, hget⟩
  · have hchanged := (h.begins hnone).changed
    exact hbranch _ (hchanged _ (.tail _ (.tail _ (.head _)))) (hchanged _ (.tail _ (.head _)))
  · have hchanges := h.attached branch hget
    refine hbranch branch ?_ (hchanges.changed _ (.tail _ (.head _)))
    rw [hchanges.kept, hget]
    intro change hchange
    rcases List.mem_cons.mp hchange with rfl | hmem
    · exact pinName_ne_head config.pinRoot oid
    · rw [List.mem_singleton.mp hmem]
      exact (RefName.head_ne_ofBranch branch).symm
  · have hget' := (h.detached old hget).changed _ (.tail _ (.head _))
    rw [RefStore.headOf, hget']
    rfl

theorem movesHead_pinned (config : Config) (t : Tables) (oid : Oid) (message : String)
    (now : Instant) :
    MovesHead config t.refs (pinned config (moved config t oid message now) oid now).refs oid := by
  let reached := RefStore.moveHead t config.mainBranch oid ("commit: " ++ message) now
  have hrefs : (pinned config (moved config t oid message now) oid now).refs =
      reached.refs.insert (Reserved.pinName config.pinRoot oid) (.direct oid) := by
    have hlogged : (moved config t oid message now).refs = reached.refs :=
      (Tables.logged_frame _ _ _ _).1
    rw [← hlogged]
    rfl
  have hpin := pinName_ne_head config.pinRoot oid
  rw [hrefs]
  constructor
  · intro hnone
    refine (RefStore.moveHead_begins config.mainBranch oid _ now hnone).insert ?_
    intro change hchange hname
    rcases List.mem_cons.mp hchange with rfl | hmem
    · rfl
    · rw [List.mem_singleton.mp hmem] at hname
      exact absurd hname.symm hpin
  · intro branch hget
    refine (RefStore.moveHead_attached config.mainBranch oid _ now hget).insert ?_
    intro change hchange _
    rw [List.mem_singleton.mp hchange]
  · intro old hget
    refine (RefStore.moveHead_detached config.mainBranch oid _ now hget).insert ?_
    intro change hchange _
    rw [List.mem_singleton.mp hchange]

/-- What is there after a commit has been made on a session: the commit can be read, the head is at
it, it is pinned, the log tells of it, and all is committed. -/
structure CommitMade (config : Config) (s s' : Session) (info : CommitInfo) : Prop where
  readBack : (getCommit info.oid).runOn s' = (.ok (some info), s')
  head : RefStore.head.runOn s' = (.ok (some info.oid), s')
  refs : MovesHead config s.working.refs s'.working.refs info.oid
  logs : ∃ old, RefStore.head.runOn s = (.ok old, s) ∧
    s.working.LogsCommit s'.working old info.oid s.now
  active : ∃ r, EventLog.replay.runOn s' = (.ok r, s') ∧ info.oid ∈ r.active
  committed : s'.committed = s'.working

variable {s : Session}

/-- A commit under a new id is made, with all that belongs to it. -/
theorem commit_made (h : s.IsOpen) (hroot : Config.AcceptedRoot config.pinRoot)
    (hnames : s.refusals.names = false) (hready : ReadyToCommit s.working)
    {message : String} {parents : Option (List Oid)} {given : List Oid}
    (hgiven : MadeOn s.working parents given)
    (hnew : s.working.objects.contains (ObjectId.ofCommit given message s.now.toIsoUtc) = false) :
    let info : CommitInfo :=
      ⟨ObjectId.ofCommit given message s.now.toIsoUtc, given, some message, s.now⟩
    ∃ s', (commit config message parents).runOn s = (.ok info, s') ∧ CommitMade config s s' info := by
  intro info
  have hstored : ∀ oid ∈ given, s.working.objects.contains oid = true := fun oid hoid =>
    ObjectStore.contains_of_isCommit (hgiven.isCommit oid hoid)
  obtain ⟨t, hsave⟩ := Option.isSome_iff_exists.mp
    ((Tables.withCommit?_isSome_iff hstored message s.now).mpr
      (hready.links.mergeFits hgiven.nodup hnew))
  have hframe : t.refs = s.working.refs ∧ t.transactions = s.working.transactions ∧
      t.events = s.working.events := by
    rcases Tables.eq_of_withCommit? hsave with ⟨_, rfl⟩ | ⟨_, rfl⟩ <;> exact ⟨rfl, rfl, rfl⟩
  obtain ⟨hrefs', htransactions, hevents⟩ := hframe
  obtain ⟨hreserved, hvalid⟩ := Reserved.pinName_accepted hroot
    (Sha256.isHex_hexOfText (ObjectId.textOf .commit
      (ObjectId.commitPayload given message s.now.toIsoUtc)))
  have hobjects := Tables.moved_objects config t info.oid message s.now
  have hpin : CanPin config (moved config t info.oid message s.now) info.oid :=
    ⟨hreserved, hvalid, hobjects ▸ Tables.contains_of_withCommit? hsave⟩
  have hmade := commit_runOn h hnames (hgiven.parentsOf_eq hready.refs)
    (firstNoCommit?_eq_none_iff.mpr hgiven.isCommit) rfl hsave hpin
  let t' := pinned config (moved config t info.oid message s.now) info.oid s.now
  let s' := (s.onTables t').committing
  have hopen : s'.IsOpen := h
  have hhead : MovesHead config s.working.refs t'.refs info.oid :=
    hrefs' ▸ movesHead_pinned config t info.oid message s.now
  refine ⟨s', hmade, ?_, ?_, hhead, ?_, ?_, rfl⟩
  · rw [getCommit, runOn_read hopen]
    show (Except.ok (t'.objects.commit? info.oid), s') = _
    rw [show t'.objects = t.objects from hobjects, hready.links.commit?_of_withCommit? hnew hsave]
  · rw [RefStore.head_runOn hopen]
    exact congrArg (fun oid => (Except.ok oid, s')) (hhead.headOf hready.refs)
  · refine ⟨RefStore.headOf s.working.refs, RefStore.head_runOn h, ?_⟩
    have hlogs := moved_logs config t info.oid message s.now
    rw [Tables.LogsCommit, hrefs', htransactions, hevents] at hlogs
    exact hlogs
  · have hreplays : t.Replays := by
      rw [Tables.Replays, hevents]
      exact hready.log
    obtain ⟨r, hreplay, hactive⟩ := moved_active config hreplays info.oid message s.now
    have hreplay' : EventLog.replayRows s'.working.events = .ok r := hreplay
    refine ⟨r, ?_, hactive⟩
    rw [EventLog.replay_runOn hopen, hreplay']

/-! ## 5. Commits in a history -/

/-- **What a commit leaves behind.** After any history of calls on a new repository with an accepted
root, whatever the message, the time and the parents: where the session is open and the commit has a
new id, it is made, and `CommitMade` tells what there is then. The head is in one of three states
before. A session that is not open refuses, and is open unless it was closed or a call broke a
rule. -/
theorem run_commitMade (config : Config) (hroot : Config.AcceptedRoot config.pinRoot)
    (history : List (Instant × Call)) (durable : Bool) (start now : Instant) (message : String)
    (parents : Option (List Oid)) :
    let after := run config history (Session.start .empty durable start)
    let s := at_ after.2 now
    (s.IsOpen → ∀ given, MadeOn s.working parents given →
      let info : CommitInfo :=
        ⟨ObjectId.ofCommit given message now.toIsoUtc, given, some message, now⟩
      s.working.objects.contains info.oid = false →
        ∃ s', (commit config message parents).runOn s = (.ok info, s') ∧
          CommitMade config s s' info) ∧
      (s.working.refs.get? RefName.head = none ∨
        (∃ branch, s.working.refs.get? RefName.head = some (.toName (RefName.ofBranch branch))) ∨
        ∃ oid, s.working.refs.get? RefName.head = some (.direct oid)) ∧
      ((∀ step ∈ history, step.2 ≠ .close) →
        (∀ answer ∈ after.1, answer ≠ .error (.database .integrity)) → s.IsOpen) ∧
      (¬ s.IsOpen → ∃ e s', (commit config message parents).runOn s = (.error e, s') ∧
        s'.committed = s.committed) := by
  intro after s
  have hready : ReadyToCommit s.working := run_keepsEffects config history durable start .empty
    (fun _ _ => ReadyToCommit.of_effect) (Or.inr rfl)
  have hrefusals : s.refusals = {} := (run_movesTo history rfl fun _ _ => trivial).2
  refine ⟨?_, hready.refs.head_cases, fun hclose hkept => run_isOpen history ⟨rfl, rfl⟩ hclose hkept, ?_⟩
  · intro hopen given hgiven info hnew
    exact commit_made hopen hroot (by rw [hrefusals]) hready hgiven hnew
  · intro hclosed
    obtain ⟨e, s', hrun, hcommitted, _⟩ := stalls_commit hclosed message parents
    exact ⟨e, s', hrun, hcommitted⟩

open CommitLine SweptTag

/-- The id of a merge of the two commits of a line. -/
def mergeId : Oid := "da66e0f83a4509e7494c8a7071a36cadca6c96e29ae5b799bbcb5f4782a446fb"

theorem ofCommit_mergeId :
    ObjectId.ofCommit [secondId, firstId] "c" (second 2).toIsoUtc = mergeId := by
  rw [ObjectId.ofCommit, ObjectId.ofPayload_eq, ObjectId.textOf_eq, ObjectId.render_commitPayload]
  decide +kernel

/-- The theorem at a merge on the attached head. -/
theorem run_commitMade_merge :
    let s := at_ (run tagsConfig lineHistory fresh).2 (second 2)
    let info : CommitInfo := ⟨mergeId, [secondId, firstId], some "c", second 2⟩
    (s.IsOpen ∧ MadeOn s.working (some info.parents) info.parents ∧
      s.working.objects.contains mergeId = false) ∧
      ∃ s', (commit tagsConfig "c" (some info.parents)).runOn s = (.ok info, s') ∧
        (getCommit mergeId).runOn s' = (.ok (some info), s') ∧
        s'.working.refs.get? (RefName.ofBranch "main") = some (.direct mergeId) := by
  intro s info
  let t := lineTables tagsConfig
  have hs : s = Session.start t false (second 2) :=
    congrArg (at_ · (second 2)) (run_lineHistory admits_tagsConfig)
  have hrows : (∀ oid ∈ info.parents, t.objects.isCommit oid = true) ∧
      t.objects.contains mergeId = false ∧
      t.refs.get? RefName.head = some (.toName (RefName.ofBranch "main")) := by
    decide
  obtain ⟨hcommits, hnew, hhead⟩ := hrows
  have hopen : s.IsOpen := hs ▸ isOpen_start t false (second 2)
  have hroot := Config.AcceptedRoot.of_ofRecord ofRecord_tagsConfig
  have hgiven : MadeOn s.working (some info.parents) info.parents := by
    rw [hs]
    exact .listed (by decide) hcommits
  have hstored : s.working.objects.contains mergeId = false := by
    rw [hs]
    exact hnew
  have hmade := (run_commitMade tagsConfig hroot lineHistory false default (second 2) "c"
    (some info.parents)).1 hopen info.parents hgiven
  rw [ofCommit_mergeId] at hmade
  obtain ⟨s', hrun, hafter⟩ := hmade hstored
  have hattached : s.working.refs.get? RefName.head = some (.toName (RefName.ofBranch "main")) := by
    rw [hs]
    exact hhead
  refine ⟨⟨hopen, hgiven, hstored⟩, s', hrun, hafter.readBack, ?_⟩
  exact (hafter.refs.attached "main" hattached).changed _ (.tail _ (.head _))

end Repository
end CommitStore
