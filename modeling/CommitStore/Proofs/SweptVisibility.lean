import CommitStore.Proofs.KeepAlive
import CommitStore.Proofs.LoggedCommits
import CommitStore.Proofs.OpenHistories
import CommitStore.Proofs.PinListing
import CommitStore.Proofs.ReferenceIntegrity
set_option autoImplicit false

/-!
# A sweep does not change what is visible

The visible set is computed from references, and a sweep deletes references. Under the default root
of pins nothing comes back of that: the roots of the visible set are read off the head and the
branches, and a reserved name is neither, not even for the listing of branches, which looks names up
by a pattern. The sweep leaves rows in the cache of merge bases, and those change no answer.

`Tables.SameForUser` holds of two tables that agree in all this. It is an equivalence as far as it
is needed, a sweep stays within it, and what is visible, the head and the branches are the same on
either side. So the second of two sweeps finds the visible set that the first one has swept for, and
nothing is left to delete.
-/

namespace CommitStore

open CommitStore.Action
open CommitStore.Repository

/-! ## 1. Reserved names are no branches -/

namespace Text

/-- A text that leaves a pattern before the first wildcard is no instance of it. -/
theorem not_matchesPattern {same : List Char} {p c : Char} (hplain : '%' ∉ same) (hp : p ≠ '%')
    (hdiffers : standsFor p c = false) (pattern text : List Char) :
    matchesPattern (same ++ p :: pattern) (same ++ c :: text) = false := by
  induction same with
  | nil =>
    rw [List.nil_append, List.nil_append, matchesPattern_cons hp, hdiffers]
    rfl
  | cons first rest ih =>
    have hfirst : first ≠ '%' := by
      rintro rfl
      exact hplain List.mem_cons_self
    rw [List.cons_append, List.cons_append, matchesPattern_cons hfirst,
      ih fun hmem => hplain (List.mem_cons_of_mem _ hmem), Bool.and_false]

end Text

/-- Names with a property are listed alike where they are mapped alike. -/
theorem NameMap.filter_names_congr {α : Type} {m m' : NameMap α} {p : String → Bool}
    (h : ∀ name, p name = true → m'.get? name = m.get? name) :
    m'.names.filter p = m.names.filter p := by
  refine Text.eq_of_mem_iff id (m'.names_sorted.filter p) (m.names_sorted.filter p) fun name => ?_
  rw [List.mem_filter, List.mem_filter, mem_names_iff, mem_names_iff]
  refine and_congr_left fun hname => ?_
  rw [h name hname]

namespace Reserved

theorem isReserved_of_isUserName {name : RefName} (h : RefName.IsUserName name) :
    isReserved defaultRoot name = false :=
  Bool.eq_false_iff.mpr fun hreserved => ne_of_isReserved_default h hreserved rfl

/-- The pattern that branches are listed by leaves out the default root of pins. -/
theorem not_startsLike_of_isReserved {name : RefName} (h : isReserved defaultRoot name = true) :
    Text.startsLike RefName.branchRoot name = false := by
  obtain ⟨rest, hname⟩ := rootPath_prefix_of_isReserved h
  have hroot : (rootPath defaultRoot).all (fun c => c.toNat != 0) = true := by decide
  have hpattern : Text.beforeNul (RefName.branchRoot.toList ++ ['%']) =
      "refs/".toList ++ 'h' :: "eads/%".toList := by decide
  have htext : Text.beforeNul name.toList =
      "refs/".toList ++ 'b' :: ("ranchless/".toList ++ Text.beforeNul rest) := by
    rw [← hname, Text.beforeNul, List.takeWhile_append_of_pos (List.all_eq_true.mp hroot)]
    rfl
  rw [Text.startsLike, hpattern, htext]
  exact Text.not_matchesPattern (by decide) (by decide) (by decide) _ _

end Reserved

/-! ## 2. Tables that are the same for a user -/

/-- Two tables have the same objects and the same references apart from reserved ones, and answer
questions on merge bases alike. -/
structure Tables.SameForUser (t t' : Tables) : Prop where
  objects : t'.objects = t.objects
  refs : ∀ name, Reserved.isReserved Reserved.defaultRoot name = false →
    t'.refs.get? name = t.refs.get? name
  answers : t.objects.ancestry.SameAnswers t.mergeBases t'.mergeBases

namespace Tables.SameForUser

variable {t t' t'' : Tables} {config : Config}

theorem refl (t : Tables) : t.SameForUser t where
  objects := rfl
  refs _ _ := rfl
  answers := .refl _ _

theorem trans (h : t.SameForUser t') (h' : t'.SameForUser t'') : t.SameForUser t'' where
  objects := h'.objects.trans h.objects
  refs name hname := (h'.refs name hname).trans (h.refs name hname)
  answers := h.answers.trans (h.objects ▸ h'.answers)

/-- The walk for the visible set leaves rows in the cache, and no more. -/
theorem computeVisible (t : Tables) (roots : VisibleSet.Roots) :
    t.SameForUser (EventLog.computeVisible t roots).2 where
  objects := rfl
  refs _ _ := rfl
  answers := VisibleSet.sameAnswers_compute _ _ _ _

/-- A sweep deletes reserved references. -/
theorem swept (hroot : config.pinRoot = Reserved.defaultRoot) (t : Tables) (r : Replay)
    (now : Instant) : t.SameForUser (swept config t r now) := by
  let answer := EventLog.computeVisible t (EventLog.rootsOf t config.mainBranch r.active)
  let dangling :=
    (Sweep.classify answer.2 config.pinRoot answer.1 answer.2.refs.references).dangling
  obtain ⟨hobjects, _, _, hbases, _⟩ := answer.2.removeRefs_frame dangling now
  refine (computeVisible t _).trans ⟨hobjects, fun name hname => ?_, ?_⟩
  · have hkept : name ∉ dangling := by
      intro hmem
      have hreserved := ((Sweep.mem_dangling_iff _ _ _ name).mp hmem).1
      rw [hroot, hname] at hreserved
      cases hreserved
    exact (Tables.removeRefs_get? dangling now name answer.2).trans (if_neg hkept)
  · rw [show (Repository.swept config t r now).mergeBases = answer.2.mergeBases from hbases]
    exact .refl _ _

theorem get?_user (h : t.SameForUser t') {name : RefName} (hname : RefName.IsUserName name) :
    t'.refs.get? name = t.refs.get? name :=
  h.refs name (Reserved.isReserved_of_isUserName hname)

theorem headOnBranch (h : t.SameForUser t') (hhead : HeadOnBranch t.refs) :
    HeadOnBranch t'.refs := by
  intro p name hget
  rw [h.get?_user (Or.inl rfl)] at hget
  exact hhead p name hget

theorem branchTip? (h : t.SameForUser t') (branch : String) :
    EventLog.branchTip? t'.refs branch = EventLog.branchTip? t.refs branch := by
  rw [EventLog.branchTip?, h.get?_user (Or.inr (Or.inl ⟨branch, rfl⟩))]
  rfl

theorem branchNames (h : t.SameForUser t') :
    RefStore.branchNames t'.refs = RefStore.branchNames t.refs := by
  have hfound : t'.refs.names.filter (Text.startsLike RefName.branchRoot) =
      t.refs.names.filter (Text.startsLike RefName.branchRoot) := by
    refine NameMap.filter_names_congr fun name hname => h.refs name ?_
    refine Bool.eq_false_iff.mpr fun hreserved => ?_
    rw [Reserved.not_startsLike_of_isReserved hreserved] at hname
    cases hname
  rw [RefStore.branchNames, hfound]
  rfl

/-- A head that is attached to a branch stands at the same object. -/
theorem headOf (h : t.SameForUser t') (hhead : HeadOnBranch t.refs) :
    RefStore.headOf t'.refs = RefStore.headOf t.refs := by
  rw [RefStore.headOf, RefStore.headOf, h.get?_user (Or.inl rfl)]
  cases hget : t.refs.get? RefName.head with
  | none => rfl
  | some p =>
    dsimp only
    cases hattached : RefStore.attachedTo? p with
    | none => rfl
    | some name =>
      obtain ⟨branch, rfl⟩ := hhead p name hget hattached
      exact h.branchTip? branch

theorem headState (h : t.SameForUser t') (hhead : HeadOnBranch t.refs) :
    t'.refs.headState = t.refs.headState := by
  have hreference : t'.refs.reference? RefName.head = t.refs.reference? RefName.head := by
    rw [RefTable.reference?, h.get?_user (Or.inl rfl)]
    rfl
  rw [RefTable.headState, h.headOf hhead, hreference]
  rfl

theorem rootsOf (h : t.SameForUser t') (hhead : HeadOnBranch t.refs) (mainBranch : String)
    (active : List Oid) :
    EventLog.rootsOf t' mainBranch active = EventLog.rootsOf t mainBranch active := by
  have htips : EventLog.branchTip? t'.refs = EventLog.branchTip? t.refs := funext h.branchTip?
  rw [EventLog.rootsOf, h.headOf hhead, h.branchNames, htips]
  rfl

/-- **What is visible is the same** for the same roots in the log. -/
theorem visible_eq (h : t.SameForUser t') (hhead : HeadOnBranch t.refs) (mainBranch : String)
    (active : List Oid) :
    (EventLog.computeVisible t' (EventLog.rootsOf t' mainBranch active)).1 =
      (EventLog.computeVisible t (EventLog.rootsOf t mainBranch active)).1 := by
  rw [h.rootsOf hhead]
  show (VisibleSet.compute t'.objects.ancestry t'.mergeBases t'.objects.contains _).1 = _
  rw [h.objects]
  exact (VisibleSet.compute_congr h.answers _ _).symm

end Tables.SameForUser

/-! ## 3. Tables whose visible set can be computed -/

/-- The log can be replayed. -/
def Tables.Replays (t : Tables) : Prop := ∃ r, EventLog.replayRows t.events = .ok r

/-- The log can be replayed, and the head is attached to a branch if it is attached to anything. -/
structure Tables.Readable (t : Tables) : Prop where
  head : HeadOnBranch t.refs
  log : t.Replays

theorem RefTable.OnCommits.headOnBranch {refs : RefTable} {commit : Oid → Prop}
    (h : refs.OnCommits commit) : HeadOnBranch refs := by
  intro p name hget hattached
  rcases h.head p hget with ⟨oid, rfl, _⟩ | ⟨branch, _, rfl, _⟩
  · cases hattached
  · rw [RefStore.attachedTo?_ofBranch] at hattached
    exact ⟨branch, (Option.some.inj hattached).symm⟩

/-- Events that hold the ids that their kinds need can be replayed after the log before them. -/
theorem Tables.Replays.logged {t : Tables} (h : t.Replays)
    {events : List (EventKind × EventSubject)}
    (hcomplete : ∀ event ∈ events, Replay.IsComplete event) (message : String) (now : Instant) :
    (t.logged message now events).Replays := by
  obtain ⟨r, hreplay⟩ := h
  obtain ⟨r', hreplay', _⟩ := Tables.replayRows_logged hcomplete message now hreplay
  exact ⟨r', hreplay'⟩

theorem Tables.Replays.pinnedIfPossible {config : Config} {t : Tables} (h : t.Replays) (oid : Oid)
    (now : Instant) : (pinnedIfPossible config t oid now).Replays := by
  unfold Repository.pinnedIfPossible
  split <;> exact h

/-- **Every call leaves a log that can be replayed.** -/
theorem Tables.Replays.of_effect {config : Config} {hashed : String → Prop} {t t' : Tables}
    (heffect : Effect config hashed t t') (h : t.Replays) : t'.Replays := by
  -- A single event holds the id that its kind needs.
  have hone : ∀ {event}, Replay.IsComplete event → ∀ e ∈ [event], Replay.IsComplete e :=
    fun hevent => List.forall_mem_singleton.mpr hevent
  cases heffect with
  | blob | tag | tagReference | attach | detach | pin | ask => exact h
  | @commit saved parents message now oid hoid hhashed hparents hsave =>
    have hsaved : (RefStore.moveHead saved config.mainBranch oid ("commit: " ++ message)
        now).Replays := by
      rw [Tables.Replays, RefStore.moveHead_events]
      rcases Tables.eq_of_withCommit? hsave with ⟨_, rfl⟩ | ⟨_, rfl⟩ <;> exact h
    exact (hsaved.logged (List.forall_mem_cons.mpr ⟨by rfl, hone (by rfl)⟩) _ now).pinnedIfPossible oid now
  | branch name source oid attaches now => cases attaches <;> exact h
  | unbranch name oid now =>
    have hremoved : (t.removeRef (RefName.ofBranch name) (some ("branch: deleted " ++ name))
        now).Replays := by
      rw [Tables.Replays, (t.removeRef_frame _ _ now).2.1]
      exact h
    exact hremoved.logged (hone (by rfl)) _ now
  | hide oid now => exact h.logged (hone (by rfl)) _ now
  | unhide oid now => exact (h.logged (hone (by rfl)) _ now).pinnedIfPossible oid now
  | replace old new now => exact (h.logged (hone (by rfl)) _ now).pinnedIfPossible new now
  | sweep r now =>
    obtain ⟨_, hevents, _⟩ := Tables.removeRefs_frame _ now
      (EventLog.computeVisible t (EventLog.rootsOf t config.mainBranch r.active)).2
    rw [Tables.Replays, swept, hevents]
    exact h

namespace Repository

theorem run_readable (config : Config) (hroot : config.pinRoot = Reserved.defaultRoot)
    (history : List (Instant × Call)) (durable : Bool) (start : Instant) {t : Tables}
    (ht : t = (run config history (Session.start .empty durable start)).2.committed ∨
      t = (run config history (Session.start .empty durable start)).2.working) : t.Readable where
  head := by
    have hkept := run_keeps config history durable start .empty
      (fun _ _ => Tables.RefsHold.of_edit hroot) ht
    exact hkept.attached.headOnBranch
  log := run_keepsEffects config history durable start ⟨.start, rfl⟩
    (fun _ _ => Tables.Replays.of_effect) ht

end Repository

theorem Tables.SameForUser.readable {t t' : Tables} (h : t.SameForUser t')
    (hevents : t'.events = t.events) (ht : t.Readable) : t'.Readable where
  head := h.headOnBranch ht.head
  log := by
    rw [Tables.Replays, hevents]
    exact ht.log

/-- An open session that refuses nothing, on tables whose visible set can be computed. -/
structure Session.Ready (s : Session) : Prop where
  isOpen : s.IsOpen
  refusals : s.refusals = {}
  readable : s.working.Readable

/-- A session is ready, and what a user finds in it, the log included, is what there was before. -/
structure Session.Unmoved (s s' : Session) : Prop where
  ready : s'.Ready
  same : s.working.SameForUser s'.working
  events : s'.working.events = s.working.events

theorem Session.Unmoved.trans {s s' s'' : Session} (h : s.Unmoved s') (h' : s'.Unmoved s'') :
    s.Unmoved s'' :=
  ⟨h'.ready, h.same.trans h'.same, h'.events.trans h.events⟩

theorem Session.Ready.visible_eq {s s' : Session} (h : s.Ready) (hsame : s.Unmoved s')
    (config : Config) :
    ∃ found, ((visible config).runOn s).1 = .ok found ∧ ((visible config).runOn s').1 = .ok found := by
  obtain ⟨hopen, _, hhead, r, hreplay⟩ := h
  have hreplay' : EventLog.replayRows s'.working.events = .ok r := hsame.events ▸ hreplay
  have hbefore := congrArg Prod.fst (visible_runOn config hopen hreplay)
  have hafter := congrArg Prod.fst (visible_runOn config hsame.ready.isOpen hreplay')
  have hfound := hsame.same.visible_eq hhead config.mainBranch r.active
  exact ⟨_, hbefore, hafter.trans (congrArg Except.ok hfound)⟩

/-! ## 4. One sweep and the next -/

namespace Repository

variable {config : Config} {s : Session} {t : Tables} {r : Replay}

theorem swept_events (config : Config) (t : Tables) (r : Replay) (now : Instant) :
    (swept config t r now).events = t.events ∧
      (swept config t r now).transactions = t.transactions := by
  obtain ⟨_, hevents, htransactions, _⟩ := Tables.removeRefs_frame
    (sweepOutcome config t r).deleted now
    (EventLog.computeVisible t (EventLog.rootsOf t config.mainBranch r.active)).2
  exact ⟨hevents, htransactions⟩

theorem unmoved_swept (hroot : config.pinRoot = Reserved.defaultRoot) (h : s.Ready)
    (line : Option String) (r : Replay) :
    s.Unmoved ((s.announced line).onTables (swept config s.working r s.now)).committing := by
  have hsame : s.working.SameForUser (swept config s.working r s.now) := .swept hroot _ r _
  have hevents := (swept_events config s.working r s.now).1
  exact ⟨⟨(s.isOpen_announced line).mpr h.isOpen, (s.announced_refusals line).trans h.refusals,
    hsame.readable hevents h.readable⟩, hsame, hevents⟩

/-- **After a sweep nothing dangles**, though what is visible is computed again. -/
theorem not_dangles_swept (hroot : config.pinRoot = Reserved.defaultRoot)
    (hhead : HeadOnBranch t.refs) (now : Instant) (name : RefName) :
    let t' := swept config t r now
    ¬ Sweep.Dangles t' config.pinRoot
      (EventLog.computeVisible t' (EventLog.rootsOf t' config.mainBranch r.active)).1 name := by
  intro t'
  rw [(Tables.SameForUser.swept hroot t r now).visible_eq hhead]
  exact Sweep.not_dangles_removeRefs _ _ _ now name

section

variable (hopen : s.IsOpen) (hrefusals : s.refusals = {})
  (hreplay : EventLog.replayRows s.working.events = .ok r)
  (hnone : ∀ name, ¬ Sweep.Dangles s.working config.pinRoot (EventLog.computeVisible s.working
    (EventLog.rootsOf s.working config.mainBranch r.active)).1 name)

include hopen hrefusals hreplay hnone

/-- Where nothing dangles, every pin that is listed is visible. -/
theorem listPins_of_none_dangling :
    ∃ pins s₁, (listPins config).runOn s = (.ok pins, s₁) ∧ ∀ pin ∈ pins, pin.visible = true := by
  have hlisting : s.refusals.listing = false := by rw [hrefusals]
  refine ⟨_, _, listPins_eq_ok_iff.mpr ⟨hopen, hlisting, r, hreplay, rfl, rfl⟩, ?_⟩
  intro pin hpin
  obtain ⟨hreserved, ⟨p, hget, hleads⟩, hvisible⟩ := Pin.mem_listing_iff.mp hpin
  rw [hvisible, List.contains_iff_mem]
  by_contra hnot
  exact hnone pin.ref ⟨hreserved, p, pin.commit, hget, hleads, hnot⟩

/-- Where nothing dangles, a sweep deletes nothing. -/
theorem sweep_of_none_dangling (announces : Bool) :
    ∃ outcome s', (sweep config announces).runOn s = (.ok outcome, s') ∧ outcome.deleted = [] ∧
      s'.working.refs = s.working.refs ∧ s'.committed = s'.working := by
  obtain ⟨outcome, hsweep⟩ := sweep_runOn hopen hrefusals hreplay announces
  obtain ⟨r', hreplay', houtcome, _⟩ := eq_of_sweep hsweep
  obtain rfl : r = r' := Except.ok.inj (hreplay.symm.trans hreplay')
  have hdeleted : (sweepOutcome config s.working r).deleted = [] :=
    List.eq_nil_iff_forall_not_mem.mpr fun name hmem =>
      hnone name ((Sweep.mem_dangling_iff _ _ _ name).mp hmem)
  refine ⟨outcome, _, hsweep, houtcome ▸ hdeleted, ?_, rfl⟩
  show ((EventLog.computeVisible s.working _).2.removeRefs
    (sweepOutcome config s.working r).deleted s.now).refs = _
  rw [hdeleted]
  rfl

end

theorem run_ready (config : Config) (hroot : config.pinRoot = Reserved.defaultRoot)
    (history : List (Instant × Call)) (durable : Bool) (start : Instant)
    (hopen : (run config history (Session.start .empty durable start)).2.IsOpen) :
    (run config history (Session.start .empty durable start)).2.Ready where
  isOpen := hopen
  refusals := (run_movesTo history rfl fun _ htext => htext).2
  readable := run_readable config hroot history durable start (Or.inr rfl)

/-- A sweep of `s` that ends in `s'` changes nothing that a user sees, and leaves nothing for the
next sweep. -/
structure SweepSettles (config : Config) (s s' : Session) : Prop where
  visible : ∃ found, ((Repository.visible config).runOn s).1 = .ok found ∧
    ((Repository.visible config).runOn s').1 = .ok found
  head : (headState.runOn s').1 = (headState.runOn s).1
  branches : (RefStore.branches.runOn s').1 = (RefStore.branches.runOn s).1
  userRefs : ∀ name, RefName.IsUserName name →
    s'.working.refs.get? name = s.working.refs.get? name
  objects : s'.working.objects = s.working.objects
  log : s'.working.events = s.working.events ∧ s'.working.transactions = s.working.transactions
  committed : s'.committed = s'.working
  pins : ∃ pins s₁, (listPins config).runOn s' = (.ok pins, s₁) ∧ ∀ pin ∈ pins, pin.visible = true
  again : ∀ announces now, ∃ outcome s'',
    (sweep config announces).runOn (at_ s' now) = (.ok outcome, s'') ∧ outcome.deleted = [] ∧
      s''.working.refs = s'.working.refs ∧ s''.committed = s''.working

/-- **A sweep settles** where the visible set can be computed. -/
theorem sweep_settles (hroot : config.pinRoot = Reserved.defaultRoot) (h : s.Ready)
    (announces : Bool) :
    ∃ outcome s', (sweep config announces).runOn s = (.ok outcome, s') ∧
      SweepSettles config s s' := by
  obtain ⟨r, hreplay⟩ := h.readable.log
  obtain ⟨outcome, hsweep⟩ := sweep_runOn h.isOpen h.refusals hreplay announces
  let line := announcement config announces
  let s' := ((s.announced line).onTables (swept config s.working r s.now)).committing
  have hunmoved : s.Unmoved s' := unmoved_swept hroot h line r
  have hvisible := h.visible_eq hunmoved config
  have hnone := not_dangles_swept (r := r) hroot h.readable.head s.now
  obtain ⟨⟨hopen', hrefusals', _⟩, hsame, hevents⟩ := hunmoved
  have hreplay' : EventLog.replayRows s'.working.events = .ok r :=
    (congrArg EventLog.replayRows hevents).trans hreplay
  have htransactions := (swept_events config s.working r s.now).2
  refine ⟨outcome, s', hsweep, hvisible, ?_, ?_, fun name => hsame.get?_user,
    hsame.objects, ⟨hevents, htransactions⟩, rfl, ?_, ?_⟩
  · rw [headState_runOn h.isOpen, headState_runOn hopen']
    exact congrArg Except.ok (hsame.headState h.readable.head)
  · rw [RefStore.branches, runOn_accessing_read h.isOpen, runOn_accessing_read hopen']
    exact congrArg Except.ok hsame.branchNames
  · exact listPins_of_none_dangling hopen' hrefusals' hreplay' hnone
  · intro announces' now
    have hopen'' : (at_ s' now).IsOpen := hopen'
    exact sweep_of_none_dangling hopen'' hrefusals' hreplay' hnone announces'

/-- **A sweep does not feed back into what is visible.** After any history of calls on a new
repository with the default root of pins, a sweep of the open session completes. What is visible,
the head, the branches and tags, the objects and the log are the same after it as before it, every
pin that is then listed is visible, and a sweep right after it deletes nothing and leaves all
references as they are. On a session that is not open a sweep fails, and changes nothing that is
committed. -/
theorem run_sweepSettles (config : Config) (hroot : config.pinRoot = Reserved.defaultRoot)
    (history : List (Instant × Call)) (durable : Bool) (start now : Instant) (announces : Bool) :
    let s := at_ (run config history (Session.start .empty durable start)).2 now
    (s.IsOpen → ∃ outcome s', (sweep config announces).runOn s = (.ok outcome, s') ∧
      SweepSettles config s s') ∧
    (¬ s.IsOpen → ∃ e s', (sweep config announces).runOn s = (.error e, s') ∧
      s'.committed = s.committed) := by
  intro s
  constructor
  · intro hopen
    have hready := run_ready config hroot history durable start hopen
    exact sweep_settles hroot ⟨hopen, hready.refusals, hready.readable⟩ announces
  · intro hclosed
    have hstalls : Stalls (sweep config announces) s := stalls_sweep hclosed announces
    obtain ⟨e, s', hsweep, hcommitted, _⟩ := hstalls
    exact ⟨e, s', hsweep, hcommitted⟩

open CommitLine

/-- The first commit of the line is pinned, and every branch is at the second one. -/
theorem lineTables_refs :
    let t := lineTables {}
    t.refs.get? ("refs/branchless/" ++ firstId) = some (.direct firstId) ∧
      t.refs.entries.all (fun entry => !RefName.branchRoot.toList.isPrefixOf entry.1.toList ||
        entry.2.target == some secondId) = true := by
  decide

/-- The pin of the hidden commit dangles. -/
theorem dangles_hiddenTables {r : Replay}
    (hreplay : EventLog.replayRows (hiddenTables {}).events = .ok r) :
    Sweep.Dangles (hiddenTables {}) Reserved.defaultRoot (EventLog.computeVisible (hiddenTables {})
      (EventLog.rootsOf (hiddenTables {}) "main" r.active)).1 ("refs/branchless/" ++ firstId) := by
  obtain ⟨hpin, hentries⟩ := lineTables_refs
  obtain ⟨_, hcommit, _, hhead, hmain⟩ := lineTables_default
  obtain ⟨hrefs, hobjects⟩ := hiddenTables_frame {}
  rw [← hrefs] at hpin hentries hhead hmain
  rw [← hobjects] at hcommit
  refine (Sweep.dangles_direct_iff hpin _ _).mpr
    ⟨?_, firstId, ObjectStore.peelsTo_of_isCommit hcommit, fun hvisible => ?_⟩
  · rw [← pinOf_eq]
    exact Reserved.isReserved_pinName _ isHex_firstId
  · have htip : EventLog.branchTip? (hiddenTables {}).refs "main" = some secondId :=
      EventLog.branchTip?_of_direct hmain
    rw [(replay_hiddenTables hreplay).2.2] at hvisible
    have hsame : firstId = secondId := EventLog.eq_of_mem_computeVisible
      (fun _ _ => EventLog.eq_of_branchTip? hentries) htip
      ((RefStore.headOf_attached hhead).trans htip) hvisible
    exact absurd hsame (by decide)

/-- The theorem at a line of two commits, of which the first is hidden: the sweep deletes its pin, the
main branch stays at the second one, and the next sweep deletes nothing. -/
theorem run_sweepSettles_hidden :
    let s := at_ (run {} hiddenHistory fresh).2 (second 3)
    ({} : Config).pinRoot = Reserved.defaultRoot ∧ s.IsOpen ∧
      ∃ outcome s', (sweep {} true).runOn s = (.ok outcome, s') ∧
        "refs/branchless/" ++ firstId ∈ outcome.deleted ∧
        s'.working.refs.get? (RefName.ofBranch "main") = some (.direct secondId) ∧
        ∃ next s'', (sweep {} false).runOn (at_ s' (second 4)) = (.ok next, s'') ∧
          next.deleted = [] := by
  intro s
  have hs : s = Session.start (hiddenTables {}) false (second 3) :=
    congrArg (at_ · (second 3)) (run_hiddenHistory admits_default)
  have hopen : s.IsOpen := hs ▸ isOpen_start _ _ _
  obtain ⟨hsettles, _⟩ := run_sweepSettles {} rfl hiddenHistory false default (second 3) true
  obtain ⟨outcome, s', hsweep, hsettled⟩ := hsettles hopen
  have hsweep' : (sweep {} true).runOn s = (.ok outcome, s') := hsweep
  obtain ⟨r, hreplay, hdeleted, _⟩ := deleted_of_sweep hsweep'
  rw [hs, start_working] at hreplay hdeleted
  have hmain : s.working.refs.get? (RefName.ofBranch "main") = some (.direct secondId) := by
    rw [hs, start_working, (hiddenTables_frame {}).1]
    exact lineTables_default.2.2.2.2
  have huser : RefName.IsUserName (RefName.ofBranch "main") := Or.inr (Or.inl ⟨"main", rfl⟩)
  obtain ⟨next, s'', hagain, hnone, _⟩ := hsettled.again false (second 4)
  refine ⟨rfl, hopen, outcome, s', hsweep, ?_, ?_, next, s'', hagain, hnone⟩
  · exact (hdeleted _).mpr (dangles_hiddenTables hreplay)
  · rw [hsettled.userRefs _ huser]
    exact hmain

end Repository
end CommitStore
