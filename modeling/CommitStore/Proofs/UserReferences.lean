import CommitStore.Proofs.AcceptedRoots
import CommitStore.Proofs.Patterns
import CommitStore.Proofs.SettledCalls
import CommitStore.Proofs.Visibility
set_option autoImplicit false

/-!
# What a sweep does to the references of the user

The head, the branches and the tags are the user's. A sweep deletes reserved references only, and a
configuration is accepted with any root of pins under `refs/`, `refs/heads` and `refs/tags` among
them. Under such a root a name of a branch or a tag can be reserved, and then the reference is swept
like a pin.

For every accepted root the head is safe, and so is a branch at a commit, because that commit is a
root of the visible set. A tag, and a branch at a tag object, goes when its name is reserved and it
leads to a commit that is not visible. Under a root apart from the branches and the tags nothing of
the user's is deleted.
-/

namespace CommitStore

open CommitStore.Action

/-! ## 1. Branches are roots of the visible set -/

theorem RefStore.startsLike_ofBranch (branch : String) :
    Text.startsLike RefName.branchRoot (RefName.ofBranch branch) = true := by
  refine Text.startsLike_of_prefix ?_
  rw [RefName.ofBranch, String.toList_append]
  exact List.prefix_append _ _

theorem RefStore.mem_branchNames {refs : RefTable} {branch : String} {p : Pointer}
    (h : refs.get? (RefName.ofBranch branch) = some p) : branch ∈ branchNames refs := by
  unfold branchNames
  refine (List.mergeSort_perm _ _).mem_iff.mpr (List.mem_map.mpr ⟨RefName.ofBranch branch, ?_, ?_⟩)
  · exact List.mem_filter.mpr ⟨(refs.mem_names_iff _).mpr ⟨p, h⟩, startsLike_ofBranch branch⟩
  · rw [RefName.ofBranch, String.toList_append, List.drop_left', String.ofList_toList]
    rfl

/-- The direct target of a branch is visible. -/
theorem EventLog.mem_computeVisible_of_branchTip? {t : Tables} {branch : String} {oid : Oid}
    (h : branchTip? t.refs branch = some oid) (mainBranch : String) (active : List Oid) :
    oid ∈ (computeVisible t (rootsOf t mainBranch active)).1 := by
  obtain ⟨p, hget, _⟩ := Option.bind_eq_some_iff.mp h
  refine VisibleSet.mem_compute_of_isRoot (Or.inl ?_)
  exact List.mem_filterMap.mpr ⟨branch, RefStore.mem_branchNames hget, h⟩

/-- The targets of branches can be told from the list of all references. -/
theorem EventLog.eq_of_branchTip? {refs : RefTable} {tip : Oid}
    (h : refs.entries.all (fun entry => !RefName.branchRoot.toList.isPrefixOf entry.1.toList ||
      entry.2.target == some tip) = true) {branch : String} {oid : Oid}
    (htip : branchTip? refs branch = some oid) : oid = tip := by
  obtain ⟨p, hget, htarget⟩ := Option.bind_eq_some_iff.mp htip
  have hentry := List.all_eq_true.mp h _ ((refs.mem_entries_iff _ _).mpr hget)
  have hunder : RefName.branchRoot.toList.isPrefixOf (RefName.ofBranch branch).toList = true := by
    rw [RefName.ofBranch, String.toList_append]
    exact List.isPrefixOf_iff_prefix.mpr (List.prefix_append _ _)
  dsimp only at hentry
  rw [hunder, htarget] at hentry
  simpa using hentry

/-- Where the branches, the head and what is active are one commit, nothing else is visible. -/
theorem EventLog.eq_of_mem_computeVisible {t : Tables} {mainBranch : String} {tip c : Oid}
    (hbranches : ∀ branch oid, branchTip? t.refs branch = some oid → oid = tip)
    (hmain : branchTip? t.refs mainBranch = some tip) (hhead : RefStore.headOf t.refs = some tip)
    (h : c ∈ (computeVisible t (rootsOf t mainBranch [tip])).1) : c = tip := by
  rcases (VisibleSet.mem_compute_iff _ _ _ _ c).mp h with hc | ⟨root, hroot, hpath⟩
  · exact hbranches mainBranch c hc
  · have hsame : root = tip := by
      rcases hroot with hbranch | hhead' | ⟨hactive, _⟩
      · obtain ⟨branch, _, htip⟩ := List.mem_filterMap.mp hbranch
        exact hbranches branch root htip
      · exact Option.some.inj (hhead'.symm.trans hhead)
      · exact List.mem_singleton.mp hactive
    rw [hsame] at hpath
    -- The walk stops at the tip of main.
    exact hpath.eq_of_stops (Or.inr hmain)

/-! ## 2. A completed sweep -/

namespace Repository

variable {config : Config} {announces : Bool} {s s' : Session} {outcome : Sweep.Outcome}

/-- What a sweep answers for the events that a log adds up to. -/
def sweepOutcome (config : Config) (t : Tables) (r : Replay) : Sweep.Outcome :=
  let answer := EventLog.computeVisible t (EventLog.rootsOf t config.mainBranch r.active)
  let findings := Sweep.classify answer.2 config.pinRoot answer.1 answer.2.refs.references
  ⟨findings.scanned, findings.skipped, findings.dangling⟩

/-- A sweep that completes has replayed the log. -/
theorem eq_of_sweep (h : (sweep config announces).runOn s = (.ok outcome, s')) :
    ∃ r, EventLog.replayRows s.working.events = .ok r ∧ outcome = sweepOutcome config s.working r ∧
      s' = ((s.announced (announcement config announces)).onTables
        (swept config s.working r s.now)).committing := by
  obtain ⟨s₁, hrun, rfl⟩ := sweep_eq_ok_iff.mp h
  obtain ⟨visible, s₂, hvisible, _, _, _, rfl, rfl⟩ := Sweep.run_eq_ok_iff.mp hrun
  let line := announcement config announces
  have hworking := s.announced_working line
  by_cases hopen : (s.announced line).IsOpen
  · cases hreplay : EventLog.replayRows s.working.events with
    | error e =>
      rw [visible_refused config hopen (hworking.symm ▸ hreplay)] at hvisible
      cases hvisible
    | ok r =>
      rw [visible_runOn config hopen (hworking.symm ▸ hreplay), hworking] at hvisible
      cases hvisible
      refine ⟨r, rfl, rfl, ?_⟩
      simp only [Session.onTables_onTables, Session.onTables_working, Session.onTables_now,
        Session.announced_now, swept]
      rfl
  · have hstalls : Stalls (Repository.visible config) (s.announced line) := stalls_visible hopen
    obtain ⟨e, s₃, hstall, _⟩ := hstalls
    rw [hstall] at hvisible
    cases hvisible

/-- It deletes what dangles, and nothing else. -/
theorem deleted_of_sweep (h : (sweep config announces).runOn s = (.ok outcome, s')) :
    ∃ r, EventLog.replayRows s.working.events = .ok r ∧
      (∀ name, name ∈ outcome.deleted ↔ Sweep.Dangles s.working config.pinRoot
        (EventLog.computeVisible s.working
          (EventLog.rootsOf s.working config.mainBranch r.active)).1 name) ∧
      ∀ name, s'.committed.refs.get? name =
        if name ∈ outcome.deleted then none else s.working.refs.get? name := by
  obtain ⟨r, hreplay, rfl, rfl⟩ := eq_of_sweep h
  refine ⟨r, hreplay, ?_, ?_⟩
  · intro name
    exact Sweep.mem_dangling_iff _ _ _ name
  · intro name
    exact Tables.removeRefs_get? _ _ name _

/-- **What a sweep does to the references of the user.** For every accepted configuration and in
every state, whatever calls led to it, a sweep that completes spares the head and the branches at
commits. Any other reference that points at an object is deleted if and only if its name is reserved
and the object leads to a commit that is not visible. Branches and tags are spared altogether if the
root of pins is not among them. -/
theorem sweep_userReferences {record : Json.Value} (hconfig : Config.ofRecord record = .ok config)
    (h : (sweep config announces).runOn s = (.ok outcome, s')) :
    let t := s.working
    let t' := s'.committed
    ∃ r, EventLog.replayRows t.events = .ok r ∧
      let visible := (EventLog.computeVisible t
        (EventLog.rootsOf t config.mainBranch r.active)).1
      RefName.head ∉ outcome.deleted ∧
      (∀ branch oid, t.refs.get? (RefName.ofBranch branch) = some (.direct oid) →
        t.objects.isCommit oid = true → RefName.ofBranch branch ∉ outcome.deleted) ∧
      (∀ name oid, t.refs.get? name = some (.direct oid) →
        (name ∈ outcome.deleted ↔ Reserved.isReserved config.pinRoot name = true ∧
          ∃ c, t.objects.PeelsTo oid c ∧ c ∉ visible)) ∧
      (¬ RefName.branchRoot.toList <+: Reserved.rootPath config.pinRoot →
        ∀ branch, RefName.ofBranch branch ∉ outcome.deleted) ∧
      (¬ RefName.tagRoot.toList <+: Reserved.rootPath config.pinRoot →
        ∀ tag, RefName.ofTag tag ∉ outcome.deleted) ∧
      ∀ name, t'.refs.get? name =
        if name ∈ outcome.deleted then none else t.refs.get? name := by
  intro t t'
  obtain ⟨r, hreplay, hdeleted, hafter⟩ := deleted_of_sweep h
  have hroot := Config.AcceptedRoot.of_ofRecord hconfig
  refine ⟨r, hreplay, ?_⟩
  intro visible
  have hdirect : ∀ name oid, t.refs.get? name = some (.direct oid) →
      (name ∈ outcome.deleted ↔ Reserved.isReserved config.pinRoot name = true ∧
        ∃ c, t.objects.PeelsTo oid c ∧ c ∉ visible) := by
    intro name oid hget
    rw [hdeleted name]
    exact Sweep.dangles_direct_iff hget _ _
  refine ⟨?_, ?_, hdirect, ?_, ?_, hafter⟩
  · intro hmem
    have hreserved := ((hdeleted _).mp hmem).1
    rw [Reserved.isReserved_head hroot] at hreserved
    cases hreserved
  · intro branch oid hget hcommit hmem
    obtain ⟨_, c, hpeels, hnot⟩ := (hdirect _ oid hget).mp hmem
    have htip : EventLog.branchTip? t.refs branch = some oid := EventLog.branchTip?_of_direct hget
    rw [hpeels.eq_of_isCommit hcommit] at hnot
    exact hnot (EventLog.mem_computeVisible_of_branchTip? htip config.mainBranch r.active)
  · intro hapart branch hmem
    refine hapart ((Reserved.exists_isReserved_iff hroot "heads".toList (by decide)
      (by decide)).mp ⟨branch, ?_⟩)
    exact ((hdeleted _).mp hmem).1
  · intro hapart tag hmem
    refine hapart ((Reserved.exists_isReserved_iff hroot "tags".toList (by decide)
      (by decide)).mp ⟨tag, ?_⟩)
    exact ((hdeleted _).mp hmem).1

end Repository

/-! ## 3. A tag that is swept -/

namespace SweptTag

open CommitStore.CommitLine CommitStore.Repository

/-- A configuration whose pins lie among the tags. -/
def tagsConfig : Config := { pinRoot := "refs/tags" }

theorem ofRecord_tagsConfig :
    Config.ofRecord (.object [("gc_ref_prefix", .text "refs/tags")]) = .ok tagsConfig := by
  rfl

/-- The id of the tag that the history makes. -/
def tagId : Oid := "211c26c47886c80f3de05463b8687019a4c079e8f3b93fc28a3c62d3cd7e2b4b"

/-- Two commits, of which the first is hidden and tagged. -/
def taggedHistory : List (Instant × Call) :=
  [(second 0, .commit "a" none), (second 1, .commit "b" none), (second 2, .hide firstId),
    (second 3, .createTag "abc" firstId none)]

theorem ofTag_tagId : ObjectId.ofTag "abc" firstId none = tagId := by
  rw [ObjectId.ofTag, ObjectId.ofPayload_eq, ObjectId.textOf_eq, ObjectId.render_tagPayload]
  decide +kernel

/-- The row of the tag. -/
def tagRow : StoredObject :=
  { oid := tagId, kind := .tag, target := some firstId,
    payload := some ((ObjectId.tagPayload "abc" firstId none).print Json.stored),
    createdAt := second 3 }

/-- The tables after the history. -/
def taggedTables : Tables :=
  ((hiddenTables tagsConfig).withObject tagRow).writeDirect (RefName.ofTag "abc") tagId
    (some "tag: abc") (second 3)

theorem admits_tagsConfig : Admits tagsConfig := by
  constructor <;> decide

theorem perform_createTag :
    ((perform tagsConfig (.createTag "abc" firstId none)).runOn
      (Session.start (hiddenTables tagsConfig) false (second 3))).2 =
        Session.start taggedTables false (second 3) := by
  have hopen := isOpen_start (hiddenTables tagsConfig) false (second 3)
  have hstored : (hiddenTables tagsConfig).objects.contains firstId = true := by
    rw [(hiddenTables_frame tagsConfig).2]
    exact ObjectStore.contains_of_isCommit admits_tagsConfig.isCommit
  have hvalid : RefName.fault? (RefName.ofTag "abc") = none := by decide
  have hrow : StoredObject.ofTag "abc" firstId none (second 3) = tagRow := by
    rw [StoredObject.ofTag, ofTag_tagId]
    rfl
  have hrun : (createTag "abc" firstId none).runOn _ = _ := createTag_runOn hopen "abc" firstId none
  rw [start_working, if_pos hstored] at hrun
  dsimp only at hrun
  rw [hvalid, ofTag_tagId] at hrun
  rw [perform, runOn_bind_of_ok hrun, taggedTables, ← hrow]
  rfl

theorem run_taggedHistory :
    (run tagsConfig taggedHistory fresh).2 = Session.start taggedTables false (second 3) := by
  have hhistory : taggedHistory = hiddenHistory ++ [(second 3, .createTag "abc" firstId none)] := rfl
  rw [hhistory, run_append, run_hiddenHistory admits_tagsConfig, run_cons, at_start,
    perform_createTag]
  rfl

/-- What the sweep after the history finds. -/
theorem taggedTables_rows :
    taggedTables.refs.get? "refs/tags/abc" = some (.direct tagId) ∧
      Pin.commitOf? taggedTables ((Pointer.direct tagId).named "refs/tags/abc") = some firstId ∧
      taggedTables.refs.get? (RefName.ofBranch "main") = some (.direct secondId) ∧
      taggedTables.objects.isCommit secondId = true ∧
      RefStore.headOf taggedTables.refs = some secondId ∧
      taggedTables.refs.entries.all (fun entry =>
        !RefName.branchRoot.toList.isPrefixOf entry.1.toList ||
          entry.2.target == some secondId) = true ∧
      (EventLog.replayRows taggedTables.events).toOption.map (·.active) = some [secondId] := by
  decide

theorem replayRows_taggedTables :
    ∃ r, EventLog.replayRows taggedTables.events = .ok r ∧ r.active = [secondId] := by
  obtain ⟨_, _, _, _, _, _, hactive⟩ := taggedTables_rows
  exact EventLog.exists_replayRows_of_active hactive

/-- After the history only the second commit is visible. -/
theorem firstId_not_visible {r : Replay} (hactive : r.active = [secondId]) :
    firstId ∉ (EventLog.computeVisible taggedTables
      (EventLog.rootsOf taggedTables tagsConfig.mainBranch r.active)).1 := by
  rw [hactive]
  intro hvisible
  obtain ⟨_, _, hmain, _, hhead, hentries, _⟩ := taggedTables_rows
  have htip : EventLog.branchTip? taggedTables.refs tagsConfig.mainBranch = some secondId :=
    EventLog.branchTip?_of_direct hmain
  have hsame : firstId = secondId := EventLog.eq_of_mem_computeVisible
    (fun _ _ => EventLog.eq_of_branchTip? hentries) htip hhead hvisible
  exact absurd hsame (by decide)

/-- The theorem at the tagged tables: the head and the main branch are spared. -/
theorem sweep_userReferences_tags :
    ∃ outcome s', (sweep tagsConfig true).runOn (Session.start taggedTables false (second 4)) = (.ok outcome, s') ∧
      RefName.head ∉ outcome.deleted ∧ RefName.ofBranch "main" ∉ outcome.deleted := by
  obtain ⟨_, _, hbranch, hcommit, _⟩ := taggedTables_rows
  obtain ⟨r, hreplay, _⟩ := replayRows_taggedTables
  obtain ⟨outcome, hsweep⟩ := sweep_runOn (isOpen_start taggedTables false (second 4)) rfl hreplay true
  obtain ⟨_, _, hhead, hbranches, _⟩ := sweep_userReferences ofRecord_tagsConfig hsweep
  exact ⟨outcome, _, hsweep, hhead, hbranches "main" secondId hbranch hcommit⟩

/-- A sweep deletes a tag that the call before it has written. -/
theorem sweep_deletes_tag :
    Config.ofRecord (.object [("gc_ref_prefix", .text "refs/tags")]) = .ok tagsConfig ∧
      taggedHistory.getLast? = some (second 3, .createTag "abc" firstId none) ∧
      let s := (run tagsConfig taggedHistory fresh).2
      s.committed.refs.get? "refs/tags/abc" = some (.direct tagId) ∧
      ∃ outcome s', (sweep tagsConfig true).runOn (at_ s (second 4)) = (.ok outcome, s') ∧
        "refs/tags/abc" ∈ outcome.deleted ∧ s'.committed.refs.get? "refs/tags/abc" = none := by
  refine ⟨ofRecord_tagsConfig, rfl, ?_⟩
  intro s
  have hs : s = Session.start taggedTables false (second 3) := run_taggedHistory
  rw [hs, start_committed, at_start]
  obtain ⟨htag, hcommit, _⟩ := taggedTables_rows
  refine ⟨htag, ?_⟩
  obtain ⟨r, hreplay, hactive⟩ := replayRows_taggedTables
  obtain ⟨outcome, hsweep⟩ := sweep_runOn (isOpen_start taggedTables false (second 4)) rfl hreplay true
  obtain ⟨r', hreplay', hdeleted, hafter⟩ := deleted_of_sweep hsweep
  rw [start_working] at hreplay' hdeleted
  obtain rfl : r = r' := Except.ok.inj (hreplay.symm.trans hreplay')
  have hreserved : Reserved.isReserved tagsConfig.pinRoot "refs/tags/abc" = true := by
    decide +kernel
  have hleads := (Pin.commitOf?_eq_some_iff _ _ _).mp hcommit
  have hdangles : Sweep.Dangles taggedTables tagsConfig.pinRoot
      (EventLog.computeVisible taggedTables
        (EventLog.rootsOf taggedTables tagsConfig.mainBranch r.active)).1 "refs/tags/abc" :=
    ⟨hreserved, _, firstId, htag, hleads, firstId_not_visible hactive⟩
  have hmem : "refs/tags/abc" ∈ outcome.deleted := (hdeleted "refs/tags/abc").mpr hdangles
  refine ⟨outcome, _, hsweep, hmem, ?_⟩
  rw [hafter, if_pos hmem]

end SweptTag
end CommitStore
