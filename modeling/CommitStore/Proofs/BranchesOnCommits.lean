import CommitStore.Proofs.CommitTotality
import CommitStore.Proofs.Replaying
import CommitStore.Proofs.UserReferences
set_option autoImplicit false

/-!
# Branches, the head and visible ids are commits

A commit moves branches and the head to what it has just stored, a checkout looks for a commit, and
a sweep does not delete branches at commits. What is left are the calls that take any stored object:
a branch that is created with a given start, and a pin under a root among the branches. If those are
made with commits (`Call.NamesCommits`), then after every history each branch points directly at a
commit, the head leads to one, and every visible id is the id of one.

`RefTable.OnCommits` is the part of the invariant about references. Every write that points at a
commit keeps it, whatever the name; so most of the work is in what else keeps it, which is leaving
the head and the branches alone (`of_same`), and attaching the head to a branch that exists.
-/

namespace CommitStore

open CommitStore.Action
open CommitStore.Repository

/-! ## 1. References -/

/-- Every branch points directly at a commit, and the head does, or it is attached to a branch. -/
structure RefTable.OnCommits (refs : RefTable) (commit : Oid → Prop) : Prop where
  branches : ∀ branch p, refs.get? (RefName.ofBranch branch) = some p →
    ∃ oid, p = .direct oid ∧ commit oid
  head : ∀ p, refs.get? RefName.head = some p → (∃ oid, p = .direct oid ∧ commit oid) ∨
    ∃ branch q, p = .toName (RefName.ofBranch branch) ∧
      refs.get? (RefName.ofBranch branch) = some q

theorem RefName.ne_append {name : RefName} {root : String} (h : ¬ root.toList <+: name.toList)
    (rest : String) : name ≠ root ++ rest := by
  rintro rfl
  refine h ?_
  rw [String.toList_append]
  exact List.prefix_append _ _

theorem RefName.head_ne_ofBranch (branch : String) : head ≠ ofBranch branch :=
  ne_append (by decide) branch

theorem RefName.head_ne_ofTag (tag : String) : head ≠ ofTag tag :=
  ne_append (by decide) tag

theorem RefName.ofTag_ne_ofBranch (tag branch : String) : ofTag tag ≠ ofBranch branch := by
  refine ne_append ?_ branch
  intro hbranch
  have htag : tagRoot.toList <+: (ofTag tag).toList := by
    rw [ofTag, String.toList_append]
    exact List.prefix_append _ _
  rcases List.prefix_or_prefix_of_prefix hbranch htag with h | h
  · exact absurd h (by decide)
  · exact absurd h (by decide)

theorem RefName.ofBranch_inj {a b : String} (h : ofBranch a = ofBranch b) : a = b := by
  rw [ofBranch, ofBranch, ← String.toList_inj, String.toList_append, String.toList_append] at h
  exact String.toList_inj.mp (List.append_cancel_left h)

theorem RefName.ofBranch_ne_empty (branch : String) : ofBranch branch ≠ "" :=
  (ne_append (by decide) branch).symm

theorem RefStore.attachedTo?_toName {name : RefName} (h : name ≠ "") :
    attachedTo? (.toName name) = some name := by
  unfold attachedTo? Pointer.toName
  split
  · next hnone => cases hnone
  · next hempty => exact absurd (Option.some.inj hempty) h
  · next hsome => exact hsome.symm

theorem RefStore.attachedTo?_ofBranch (branch : String) :
    attachedTo? (.toName (RefName.ofBranch branch)) = some (RefName.ofBranch branch) :=
  attachedTo?_toName (RefName.ofBranch_ne_empty branch)

theorem RefStore.branchOf?_ofBranch (branch : String) :
    branchOf? (RefName.ofBranch branch) = some branch := by
  have hname : (RefName.ofBranch branch).toList = RefName.branchRoot.toList ++ branch.toList := by
    rw [RefName.ofBranch, String.toList_append]
  unfold branchOf?
  dsimp only
  rw [hname, if_pos (List.isPrefixOf_iff_prefix.mpr (List.prefix_append _ _)), List.drop_left,
    String.ofList_toList]

theorem RefStore.headOf_toName {refs : RefTable} {name : RefName}
    (hget : refs.get? RefName.head = some (.toName name)) (hname : name ≠ "") :
    headOf refs = (refs.get? name).bind (·.target) := by
  rw [headOf, hget]
  dsimp only
  rw [attachedTo?_toName hname]

theorem RefStore.headOf_attached {refs : RefTable} {branch : String}
    (hget : refs.get? RefName.head = some (.toName (RefName.ofBranch branch))) :
    headOf refs = EventLog.branchTip? refs branch :=
  headOf_toName hget (RefName.ofBranch_ne_empty branch)

namespace RefTable.OnCommits

variable {refs refs' : RefTable} {commit commit' : Oid → Prop}

theorem empty : RefTable.OnCommits NameMap.empty commit where
  branches branch p hget := by cases hget
  head p hget := by cases hget

theorem mono (h : refs.OnCommits commit) (hcommit : ∀ oid, commit oid → commit' oid) :
    refs.OnCommits commit' where
  branches branch p hget := by
    obtain ⟨oid, hp, hoid⟩ := h.branches branch p hget
    exact ⟨oid, hp, hcommit oid hoid⟩
  head p hget := by
    rcases h.head p hget with ⟨oid, hp, hoid⟩ | hattached
    · exact Or.inl ⟨oid, hp, hcommit oid hoid⟩
    · exact Or.inr hattached

theorem of_same (h : refs.OnCommits commit)
    (hhead : refs'.get? RefName.head = refs.get? RefName.head)
    (hbranches : ∀ branch, refs'.get? (RefName.ofBranch branch) =
      refs.get? (RefName.ofBranch branch)) : refs'.OnCommits commit where
  branches branch p hget := h.branches branch p (hbranches branch ▸ hget)
  head p hget := by
    rcases h.head p (hhead ▸ hget) with hdirect | ⟨branch, q, hp, hq⟩
    · exact Or.inl hdirect
    · exact Or.inr ⟨branch, q, hp, (hbranches branch).trans hq⟩

/-- Any reference may be pointed at a commit. -/
theorem insert_direct (h : refs.OnCommits commit) (name : RefName) {oid : Oid} (hoid : commit oid) :
    RefTable.OnCommits (refs.insert name (.direct oid)) commit where
  branches branch p hget := by
    rw [NameMap.get?_insert] at hget
    split at hget
    · cases hget
      exact ⟨oid, rfl, hoid⟩
    · exact h.branches branch p hget
  head p hget := by
    rw [NameMap.get?_insert] at hget
    split at hget
    · cases hget
      exact Or.inl ⟨oid, rfl, hoid⟩
    · rcases h.head p hget with hdirect | ⟨branch, q, hp, hq⟩
      · exact Or.inl hdirect
      · refine Or.inr ⟨branch, ?_⟩
        rw [NameMap.get?_insert]
        split
        · exact ⟨_, hp, rfl⟩
        · exact ⟨q, hp, hq⟩

theorem attach (h : refs.OnCommits commit) {branch : String} {q : Pointer}
    (hq : refs.get? (RefName.ofBranch branch) = some q) :
    RefTable.OnCommits (refs.insert RefName.head (.toName (RefName.ofBranch branch))) commit where
  branches other p hget := by
    rw [NameMap.get?_insert, if_neg (RefName.head_ne_ofBranch other).symm] at hget
    exact h.branches other p hget
  head p hget := by
    rw [NameMap.get?_insert, if_pos rfl] at hget
    cases hget
    refine Or.inr ⟨branch, q, rfl, ?_⟩
    rw [NameMap.get?_insert, if_neg (RefName.head_ne_ofBranch branch).symm]
    exact hq

/-- The head may be attached to a branch that is then pointed at a commit. -/
theorem attachNew (h : refs.OnCommits commit) (branch : String) {oid : Oid} (hoid : commit oid) :
    RefTable.OnCommits ((refs.insert RefName.head (.toName (RefName.ofBranch branch))).insert
      (RefName.ofBranch branch) (.direct oid)) commit := by
  have hwritten := h.insert_direct (RefName.ofBranch branch) hoid
  have htip : NameMap.get? (refs.insert (RefName.ofBranch branch) (.direct oid))
      (RefName.ofBranch branch) = some (.direct oid) := by
    rw [NameMap.get?_insert, if_pos rfl]
  have hne := RefName.head_ne_ofBranch
  -- The two writes are to different names, so their order does not matter.
  refine (hwritten.attach htip).of_same ?_ ?_
  · rw [NameMap.get?_insert, if_neg (hne branch), NameMap.get?_insert, NameMap.get?_insert]
    rfl
  · intro other
    simp only [NameMap.get?_insert, if_neg (hne other).symm]

/-- References may go, but not the branch that the head is attached to. -/
theorem of_le (h : refs.OnCommits commit)
    (hle : ∀ name p, refs'.get? name = some p → refs.get? name = some p)
    (hattached : ∀ branch q, refs.get? RefName.head = some (.toName (RefName.ofBranch branch)) →
      refs.get? (RefName.ofBranch branch) = some q →
      refs'.get? (RefName.ofBranch branch) = some q) : refs'.OnCommits commit where
  branches branch p hget := h.branches branch p (hle _ p hget)
  head p hget := by
    rcases h.head p (hle _ p hget) with hdirect | ⟨branch, q, rfl, hq⟩
    · exact Or.inl hdirect
    · exact Or.inr ⟨branch, q, rfl, hattached branch q (hle _ _ hget) hq⟩

/-- A branch may go that the head is not attached to. -/
theorem removeBranch {t : Tables} (h : t.refs.OnCommits commit) {name : String}
    (hcurrent : ((t.refs.reference? RefName.head).bind fun r =>
      r.symbolic.bind RefStore.branchOf?) ≠ some name) (message : Option String) (now : Instant) :
    (t.removeRef (RefName.ofBranch name) message now).refs.OnCommits commit := by
  refine h.of_le ?_ ?_
  · exact fun _ _ => Tables.removeRef_le
  · intro branch q hhead hq
    have hother : RefName.ofBranch branch ≠ RefName.ofBranch name := by
      intro hsame
      refine hcurrent ?_
      rw [RefTable.reference?, hhead, RefName.ofBranch_inj hsame.symm]
      exact RefStore.branchOf?_ofBranch branch
    rw [Tables.removeRef_get?, if_neg hother]
    exact hq

theorem branchTip (h : refs.OnCommits commit) {branch : String} {oid : Oid}
    (htip : EventLog.branchTip? refs branch = some oid) : commit oid := by
  obtain ⟨p, hget, htarget⟩ := Option.bind_eq_some_iff.mp htip
  obtain ⟨found, rfl, hfound⟩ := h.branches branch p hget
  cases htarget
  exact hfound

theorem headOf (h : refs.OnCommits commit) {oid : Oid}
    (hhead : RefStore.headOf refs = some oid) : commit oid := by
  cases hget : refs.get? RefName.head with
  | none =>
    rw [RefStore.headOf, hget] at hhead
    cases hhead
  | some p =>
    rcases h.head p hget with ⟨found, rfl, hfound⟩ | ⟨branch, q, rfl, _⟩
    · rw [RefStore.headOf, hget] at hhead
      cases hhead
      exact hfound
    · rw [RefStore.headOf_attached hget] at hhead
      exact h.branchTip hhead

theorem exists_headOf (h : refs.OnCommits commit) {p : Pointer}
    (hget : refs.get? RefName.head = some p) :
    ∃ oid, RefStore.headOf refs = some oid ∧ refs.resolve (p.named RefName.head) = .ok oid ∧
      commit oid := by
  rcases h.head p hget with ⟨oid, rfl, hoid⟩ | ⟨branch, q, rfl, hq⟩
  · refine ⟨oid, ?_, rfl, hoid⟩
    rw [RefStore.headOf, hget]
    rfl
  · obtain ⟨oid, rfl, hoid⟩ := h.branches branch q hq
    refine ⟨oid, ?_, ?_, hoid⟩
    · exact (RefStore.headOf_attached hget).trans (EventLog.branchTip?_of_direct hq)
    · have hnot : RefName.ofBranch branch ∉ [RefName.head] := by
        intro hmem
        exact RefName.head_ne_ofBranch branch (List.mem_singleton.mp hmem).symm
      show RefTable.follow refs 5 [RefName.head] (.toName (RefName.ofBranch branch)) = _
      rw [RefTable.follow]
      dsimp only [Pointer.toName]
      rw [hq]
      dsimp only
      rw [if_neg hnot]
      rfl

end RefTable.OnCommits

/-! ## 2. Parents -/

/-- The parents of stored objects are commits, in their rows as in links. -/
structure ObjectStore.ParentsCommits (s : ObjectStore) : Prop where
  rows : ∀ oid o parent, s.get? oid = some o → o.parent = some parent → s.isCommit parent = true
  links : ∀ link ∈ s.links, s.isCommit link.parent = true

theorem ObjectStore.parentsCommits_empty : empty.ParentsCommits where
  rows oid o parent hget := by cases hget
  links link hlink := absurd hlink List.not_mem_nil

namespace ObjectStore.ParentsCommits

variable {s : ObjectStore}

theorem insert (h : s.ParentsCommits) {o : StoredObject}
    (ho : ∀ parent, o.parent = some parent → s.isCommit parent = true) :
    (s.insert o).ParentsCommits where
  rows oid row parent hget hrow := by
    refine isCommit_insert ?_
    rcases get?_insert_cases hget with hold | rfl
    · exact h.rows oid row parent hold hrow
    · exact ho parent hrow
  links link hlink := by
    rw [links_insert] at hlink
    exact isCommit_insert (h.links link hlink)

theorem link (h : s.ParentsCommits) (commit : Oid) {parents : List Oid}
    (hparents : ∀ parent ∈ parents, s.isCommit parent = true) :
    (s.link commit parents).ParentsCommits where
  rows := h.rows
  links link hlink := by
    rcases List.mem_append.mp hlink with hold | hnew
    · exact h.links link hold
    · exact hparents _ (of_mem_linksFor hnew).2

theorem isCommit_of_mem (h : s.ParentsCommits) {oid parent : Oid}
    (hparent : parent ∈ s.parents oid) : s.isCommit parent = true := by
  rcases mem_parents hparent with ⟨o, hget, hrow⟩ | ⟨link, hlink, _, rfl⟩
  · exact h.rows oid o parent hget hrow
  · exact h.links link hlink

end ObjectStore.ParentsCommits

/-! ## 3. The invariant -/

/-- The visible ids of the log are stored commits. -/
def Tables.LogOnCommits (t : Tables) : Prop :=
  ∃ r, EventLog.replayRows t.events = .ok r ∧
    ∀ oid, r.visibility? oid = some .visible → t.objects.isCommit oid = true

/-- What calls keep true of the tables, if they name commits. -/
structure Tables.OnCommits (hashed : String → Prop) (t : Tables) : Prop where
  objects : t.objects.WellFormed hashed
  parents : t.objects.ParentsCommits
  refs : RefTable.OnCommits t.refs fun oid => t.objects.isCommit oid = true
  log : t.LogOnCommits

namespace Tables.OnCommits

variable {hashed : String → Prop} {t t' : Tables}

theorem empty : Tables.OnCommits hashed .empty where
  objects := ObjectStore.wellFormed_empty
  parents := ObjectStore.parentsCommits_empty
  refs := RefTable.OnCommits.empty
  log := by
    refine ⟨Replay.start, rfl, ?_⟩
    intro oid hvisible
    cases hvisible

/-- References may change, as long as they stay on commits. -/
theorem of_refs (h : t.OnCommits hashed) (hobjects : t'.objects = t.objects)
    (hevents : t'.events = t.events)
    (hrefs : RefTable.OnCommits t'.refs fun oid => t.objects.isCommit oid = true) :
    t'.OnCommits hashed where
  objects := hobjects ▸ h.objects
  parents := hobjects ▸ h.parents
  refs := hobjects ▸ hrefs
  log := by
    rw [LogOnCommits, hevents, hobjects]
    exact h.log

/-- Objects may be stored, as long as parents are commits. -/
theorem of_objects (h : t.OnCommits hashed) (hobjects : t'.objects.WellFormed hashed)
    (hparents : t'.objects.ParentsCommits) (hrefs : t'.refs = t.refs)
    (hevents : t'.events = t.events)
    (hkept : ∀ oid, t.objects.isCommit oid = true → t'.objects.isCommit oid = true) :
    t'.OnCommits hashed where
  objects := hobjects
  parents := hparents
  refs := hrefs ▸ h.refs.mono hkept
  log := by
    obtain ⟨r, hreplay, hvisible⟩ := h.log
    exact ⟨r, hevents ▸ hreplay, fun oid hoid => hkept oid (hvisible oid hoid)⟩

theorem withObject (h : t.OnCommits hashed) {o : StoredObject} (ho : ObjectStore.RowHolds hashed o)
    (hparent : o.parent = none) : (t.withObject o).OnCommits hashed := by
  refine h.of_objects (h.objects.insert ho) (h.parents.insert ?_) rfl rfl
    fun _ => ObjectStore.isCommit_insert
  intro parent hrow
  rw [hparent] at hrow
  cases hrow

theorem withCommit? (h : t.OnCommits hashed)
    (hdistinct : ∀ a b, hashed a → hashed b → Sha256.hexOfText a = Sha256.hexOfText b → a = b)
    {parents : List Oid} {message : String} {now : Instant}
    (hparents : ∀ parent ∈ parents, t.objects.isCommit parent = true)
    (hhashed : hashed (ObjectId.textOf .commit
      (ObjectId.commitPayload parents message now.toIsoUtc)))
    (hsave : t.withCommit? parents message now = some t') : t'.OnCommits hashed := by
  obtain ⟨hobjects, _, hkept, hrefs, hevents⟩ :=
    Tables.withCommit?_objects h.objects hdistinct hhashed hsave
  refine h.of_objects hobjects ?_ hrefs hevents hkept
  have hinserted : (t.objects.insert (.ofCommit parents message now)).ParentsCommits := by
    refine h.parents.insert ?_
    intro parent hrow
    exact hparents parent (List.mem_of_mem_head? hrow)
  rcases eq_of_withCommit? hsave with ⟨_, rfl⟩ | ⟨_, rfl⟩
  · exact hinserted
  · exact hinserted.link _ fun parent hparent => ObjectStore.isCommit_insert (hparents parent hparent)

theorem writeDirect (h : t.OnCommits hashed) (name : RefName) {oid : Oid}
    (hoid : t.objects.isCommit oid = true) (message : Option String) (now : Instant) :
    (t.writeDirect name oid message now).OnCommits hashed :=
  h.of_refs rfl rfl (h.refs.insert_direct name hoid)

/-- Any reference other than the head and the branches may be pointed at anything. -/
theorem writeOther (h : t.OnCommits hashed) {name : RefName} (hhead : name ≠ RefName.head)
    (hbranches : ∀ branch, name ≠ RefName.ofBranch branch) (oid : Oid) (message : Option String)
    (now : Instant) : (t.writeDirect name oid message now).OnCommits hashed := by
  refine h.of_refs rfl rfl (h.refs.of_same ?_ ?_)
  · exact (t.refs.get?_insert _ _ _).trans (if_neg hhead.symm)
  · intro branch
    exact (t.refs.get?_insert _ _ _).trans (if_neg (hbranches branch).symm)

theorem attach (h : t.OnCommits hashed) {branch : String} {q : Pointer}
    (hq : t.refs.get? (RefName.ofBranch branch) = some q) :
    (t.writeSymbolic RefName.head (RefName.ofBranch branch)).OnCommits hashed :=
  h.of_refs rfl rfl (h.refs.attach hq)

theorem moveHead (h : t.OnCommits hashed) (defaultBranch : String) {oid : Oid}
    (hoid : t.objects.isCommit oid = true) (message : String) (now : Instant) :
    (RefStore.moveHead t defaultBranch oid message now).OnCommits hashed := by
  unfold RefStore.moveHead
  cases hhead : t.refs.get? RefName.head with
  | some p => exact h.writeDirect _ hoid _ now
  | none => exact h.of_refs rfl rfl (h.refs.attachNew defaultBranch hoid)

theorem logged (h : t.OnCommits hashed) {events : List (EventKind × EventSubject)}
    (hcomplete : ∀ event ∈ events, Replay.IsComplete event)
    (hshown : ∀ event ∈ events, ∀ oid, (some oid, .visible) ∈ Replay.mentionsOf event →
      t.objects.isCommit oid = true) (message : String) (now : Instant) :
    (t.logged message now events).OnCommits hashed := by
  obtain ⟨hrefs, hobjects⟩ := t.logged_frame message now events
  obtain ⟨r, hreplay, hvisible⟩ := h.log
  obtain ⟨r', hreplay', hvisible'⟩ := replayRows_logged hcomplete message now hreplay
  refine ⟨hobjects.symm ▸ h.objects, hobjects.symm ▸ h.parents, ?_, r', hreplay', ?_⟩
  · rw [hrefs, hobjects]
    exact h.refs
  · intro oid hoid
    rw [hobjects]
    rcases hvisible' oid hoid with hbefore | ⟨event, hevent, hmention⟩
    · exact hvisible oid hbefore
    · exact hshown event hevent oid hmention

theorem removeBranch (h : t.OnCommits hashed) {name : String} (message : Option String)
    (now : Instant)
    (hcurrent : ((t.refs.reference? RefName.head).bind fun r =>
      r.symbolic.bind RefStore.branchOf?) ≠ some name) :
    (t.removeRef (RefName.ofBranch name) message now).OnCommits hashed := by
  obtain ⟨hobjects, hevents, _⟩ := t.removeRef_frame (RefName.ofBranch name) message now
  exact h.of_refs hobjects hevents (h.refs.removeBranch hcurrent message now)

variable {config : Config}

theorem pinCommit (h : t.OnCommits hashed) {oid : Oid} (hoid : t.objects.isCommit oid = true)
    (now : Instant) : (pinned config t oid now).OnCommits hashed :=
  h.writeDirect _ hoid _ now

theorem pinnedIfPossible (h : t.OnCommits hashed) {oid : Oid}
    (hoid : t.objects.isCommit oid = true) (now : Instant) :
    (pinnedIfPossible config t oid now).OnCommits hashed := by
  unfold Repository.pinnedIfPossible
  split
  · exact h.pinCommit hoid now
  · exact h

/-- A pin is no branch and not the head, unless the root of pins lies among the branches. -/
theorem pinned (h : t.OnCommits hashed) (hroot : Config.AcceptedRoot config.pinRoot) {oid : Oid}
    (hpin : CanPin config t oid) (now : Instant)
    (hamong : RefName.branchRoot.toList <+: Reserved.rootPath config.pinRoot →
      t.objects.isCommit oid = true) : (pinned config t oid now).OnCommits hashed := by
  by_cases hspace : RefName.branchRoot.toList <+: Reserved.rootPath config.pinRoot
  · exact h.pinCommit (hamong hspace) now
  · refine h.writeOther ?_ ?_ oid _ now
    · intro hhead
      have hreserved := hpin.1
      rw [hhead, Reserved.isReserved_head hroot] at hreserved
      cases hreserved
    · intro branch hbranch
      refine hspace ((Reserved.exists_isReserved_iff hroot "heads".toList (by decide)
        (by decide)).mp ⟨branch, ?_⟩)
      show Reserved.isReserved config.pinRoot (RefName.ofBranch branch) = true
      rw [← hbranch]
      exact hpin.1

theorem computeVisible (h : t.OnCommits hashed) (roots : VisibleSet.Roots) :
    (EventLog.computeVisible t roots).2.OnCommits hashed :=
  h.of_refs rfl rfl h.refs

/-- A sweep deletes no branch, because the tip of a branch is a commit and visible. -/
theorem swept (h : t.OnCommits hashed) (r : Replay) (now : Instant) :
    (swept config t r now).OnCommits hashed := by
  let answer := EventLog.computeVisible t (EventLog.rootsOf t config.mainBranch r.active)
  let dangling :=
    (Sweep.classify answer.2 config.pinRoot answer.1 answer.2.refs.references).dangling
  obtain ⟨hobjects, hevents, _⟩ := answer.2.removeRefs_frame dangling now
  refine h.of_refs hobjects hevents (h.refs.of_le ?_ ?_)
  · intro name p hget
    exact Tables.removeRefs_le (t := answer.2) hget
  · intro branch q _ hq
    obtain ⟨oid, rfl, hcommit⟩ := h.refs.branches branch q hq
    have hkept : RefName.ofBranch branch ∉ dangling := by
      intro hmem
      obtain ⟨_, c, hpeels, hnot⟩ := (Sweep.dangles_direct_iff hq _ _).mp
        ((Sweep.mem_dangling_iff answer.2 _ _ _).mp hmem)
      have htip : EventLog.branchTip? t.refs branch = some oid := EventLog.branchTip?_of_direct hq
      rw [hpeels.eq_of_isCommit hcommit] at hnot
      exact hnot (EventLog.mem_computeVisible_of_branchTip? htip config.mainBranch r.active)
    exact (Tables.removeRefs_get? _ _ _ _).trans ((if_neg hkept).trans hq)

end Tables.OnCommits

/-! ## 4. Calls that name commits -/

/-- A stored object from which a branch starts is a commit, and so is one that is pinned by hand
under a root among the branches. -/
def Call.NamesCommits (config : Config) (t : Tables) : Call → Prop
  | .createBranch _ (some source) _ =>
    t.objects.contains source = true → t.objects.isCommit source = true
  | .pin oid =>
    RefName.branchRoot.toList <+: Reserved.rootPath config.pinRoot →
      t.objects.contains oid = true → t.objects.isCommit oid = true
  | _ => True

namespace Tables.OnCommits

variable {config : Config} {hashed : String → Prop} {t t' : Tables}

theorem isCommit_branchStart (h : t.OnCommits hashed) {name : String} {source : Option Oid}
    {attaches : Bool} (hnamed : Call.NamesCommits config t (.createBranch name source attaches))
    {oid : Oid} (hstart : branchStart t source = .ok oid) : t.objects.isCommit oid = true := by
  rcases branchStart_cases hstart with ⟨rfl, hstored⟩ | ⟨rfl, hhead⟩
  · exact hnamed hstored
  · exact h.refs.headOf hhead

/-- The invariant is kept by everything that a call can do, if the calls name commits. -/
theorem of_effect (hroot : Config.AcceptedRoot config.pinRoot)
    (hdistinct : ∀ a b, hashed a → hashed b → Sha256.hexOfText a = Sha256.hexOfText b → a = b)
    (heffect : EffectUnder config hashed (Call.NamesCommits config) t t')
    (h : t.OnCommits hashed) : t'.OnCommits hashed := by
  cases heffect with
  | blob data now hhashed => exact h.withObject (ObjectStore.rowHolds_ofBlob hhashed) rfl
  | tag name target message now hhashed _ =>
    exact h.withObject (ObjectStore.rowHolds_ofTag hhashed) rfl
  | tagReference name oid message now _ _ =>
    exact h.writeOther (RefName.head_ne_ofTag name).symm
      (fun branch => RefName.ofTag_ne_ofBranch name branch) oid _ now
  | @commit saved parents message now oid hoid hhashed hparents hsave =>
    obtain ⟨_, hcommit, _⟩ := Tables.withCommit?_objects h.objects hdistinct hhashed hsave
    rw [← hoid] at hcommit
    have hsaved := h.withCommit? hdistinct hparents hhashed hsave
    have hmoved := hsaved.moveHead config.mainBranch hcommit ("commit: " ++ message) now
    have hstored : (RefStore.moveHead saved config.mainBranch oid ("commit: " ++ message)
        now).objects.isCommit oid = true := by
      rw [RefStore.moveHead_objects]
      exact hcommit
    have hlogged : (moved config saved oid message now).OnCommits hashed := by
      refine hmoved.logged ?_ ?_ _ now
      · simp [Replay.IsComplete, Replay.mentionsOf, Replay.mentions]
      · simp [Replay.mentionsOf, Replay.mentions, hstored]
    refine hlogged.pinnedIfPossible ?_ now
    rw [Tables.moved_objects]
    exact hcommit
  | branch name source oid attaches now _ _ hstart hnamed =>
    have hwritten := h.writeDirect (RefName.ofBranch name) (h.isCommit_branchStart hnamed hstart)
      (some ("branch: created from " ++ oid)) now
    cases attaches with
    | false => exact hwritten
    | true =>
      have htip : NameMap.get? (t.refs.insert (RefName.ofBranch name) (.direct oid))
          (RefName.ofBranch name) = some (.direct oid) := by
        rw [NameMap.get?_insert, if_pos rfl]
      exact hwritten.attach htip
  | unbranch name oid now _ hcurrent =>
    refine (h.removeBranch _ now hcurrent).logged ?_ ?_ _ now
    · simp [Replay.IsComplete, Replay.mentionsOf, Replay.mentions]
    · simp [Replay.mentionsOf, Replay.mentions]
  | attach branch oid htip =>
    obtain ⟨p, hget, _⟩ := Option.bind_eq_some_iff.mp htip
    exact h.attach hget
  | detach oid message now hcommit => exact h.writeDirect _ hcommit message now
  | hide oid now _ =>
    refine h.logged ?_ ?_ _ now
    · simp [Replay.IsComplete, Replay.mentionsOf, Replay.mentions]
    · simp [Replay.mentionsOf, Replay.mentions]
  | unhide oid now hcommit =>
    have hlogged : (t.logged "unhide" now [(.unhide, { commit := some oid })]).OnCommits hashed := by
      refine h.logged ?_ ?_ _ now
      · simp [Replay.IsComplete, Replay.mentionsOf, Replay.mentions]
      · simp [Replay.mentionsOf, Replay.mentions, hcommit]
    exact hlogged.pinnedIfPossible hcommit now
  | replace old new now _ hnew =>
    have hlogged : (t.logged "rewrite" now
        [(.replace, { old := some old, new := some new })]).OnCommits hashed := by
      refine h.logged ?_ ?_ _ now
      · intro event hevent
        rw [List.mem_singleton.mp hevent]
        rfl
      · simp [Replay.mentionsOf, Replay.mentions, hnew]
    exact hlogged.pinnedIfPossible hnew now
  | pin oid now hpin hnamed =>
    exact h.pinned hroot hpin now fun hamong => hnamed hamong hpin.2.2
  | ask r _ => exact h.computeVisible _
  | sweep r now _ => exact h.swept r now

theorem isCommit_of_visible (h : t.OnCommits hashed) {r : Replay}
    (hreplay : EventLog.replayRows t.events = .ok r) (mainBranch : String) {c : Oid}
    (hc : c ∈ (EventLog.computeVisible t (EventLog.rootsOf t mainBranch r.active)).1) :
    t.objects.isCommit c = true := by
  rcases (VisibleSet.mem_compute_iff _ _ _ _ c).mp hc with hmain | ⟨root, hroot, hpath⟩
  · exact h.refs.branchTip hmain
  · -- Every root is a commit, and so is every parent on the way from it.
    have hstart : t.objects.isCommit root = true := by
      rcases hroot with hbranch | hhead | ⟨hactive, _⟩
      · obtain ⟨branch, _, htip⟩ := List.mem_filterMap.mp hbranch
        exact h.refs.branchTip htip
      · exact h.refs.headOf hhead
      · obtain ⟨r', hreplay', hvisible⟩ := h.log
        obtain rfl : r = r' := Except.ok.inj (hreplay.symm.trans hreplay')
        exact hvisible root ((r.mem_active_iff root).mp hactive)
    induction hpath with
    | refl => exact hstart
    | tail _ hstep _ => exact h.parents.isCommit_of_mem hstep.2

end Tables.OnCommits

/-! ## 5. Histories -/

namespace Repository

/-- **Branches, the head and visible ids are commits**, where calls name commits. After any such
history on a new repository with an accepted root of pins, in the committed tables and in those of
the open transaction: every branch points directly at a stored commit, a head that is there leads to
one, and so it is with every id that a walk finds visible. The texts hashed on the way are taken to
have different digests. -/
theorem run_onCommits (config : Config) (hroot : Config.AcceptedRoot config.pinRoot)
    (history : List (Instant × Call)) (durable : Bool) (start : Instant)
    (hdistinct : ∀ a ∈ hashedTexts config history (Session.start .empty durable start),
      ∀ b ∈ hashedTexts config history (Session.start .empty durable start),
        Sha256.hexOfText a = Sha256.hexOfText b → a = b)
    (hnamed : AllowedAlong config (Call.NamesCommits config) history
      (Session.start .empty durable start)) :
    let s := (run config history (Session.start .empty durable start)).2
    ∀ t, t = s.committed ∨ t = s.working →
      (∀ branch p, t.refs.get? (RefName.ofBranch branch) = some p →
        ∃ oid, p = .direct oid ∧ t.objects.isCommit oid = true) ∧
      (∀ p, t.refs.get? RefName.head = some p → ∃ oid, RefStore.headOf t.refs = some oid ∧
        t.refs.resolve (p.named RefName.head) = .ok oid ∧ t.objects.isCommit oid = true) ∧
      ∃ found s', (visible config).runOn (Session.start t durable start) = (.ok found, s') ∧
        ∀ c ∈ found, t.objects.isCommit c = true := by
  intro s t ht
  let hashed : String → Prop := fun text =>
    text ∈ hashedTexts config history (Session.start .empty durable start)
  have hmoves : MovesUnder config hashed (Call.NamesCommits config) (.empty, .empty) _ :=
    (run_movesUnder history rfl (fun _ htext => htext) hnamed).1
  have hstep : ∀ t t', EffectUnder config hashed (Call.NamesCommits config) t t' →
      t.OnCommits hashed → t'.OnCommits hashed :=
    fun _ _ => Tables.OnCommits.of_effect hroot fun a b ha hb => hdistinct a ha b hb
  obtain ⟨hcommitted, hworking⟩ := hmoves.keeps hstep ⟨.empty, .empty⟩
  have hkept : t.OnCommits hashed := by
    rcases ht with rfl | rfl
    · exact hcommitted
    · exact hworking
  obtain ⟨r, hreplay, _⟩ := hkept.log
  have hopen : (Session.start t durable start).IsOpen := ⟨rfl, rfl⟩
  refine ⟨hkept.refs.branches, fun p => hkept.refs.exists_headOf, _, _,
    visible_runOn config hopen hreplay, ?_⟩
  intro c hc
  exact hkept.isCommit_of_visible hreplay config.mainBranch hc

/-- A branch is made where its name is new and there is an object to start from. -/
theorem createBranch_made {s : Session} (h : s.IsOpen) {name : String} {source : Option Oid}
    {oid : Oid} (attaches : Bool) (hname : RefName.branchFault? name = none)
    (hnew : EventLog.branchTip? s.working.refs name = none)
    (hstart : branchStart s.working source = .ok oid) :
    (createBranch name source attaches).runOn s =
      (.ok oid, (s.onTables (branched s.working name oid attaches s.now)).committing) := by
  have htaken : ¬ (EventLog.branchTip? s.working.refs name).isSome = true := by simp [hnew]
  rw [createBranch_runOn h, hname]
  dsimp only
  rw [if_neg htaken, hstart]

open CommitLine

/-- The theorem at a line of two commits, and a branch at the first one. -/
theorem run_onCommits_branch :
    let history := lineHistory ++ [(second 2, .createBranch "b" (some firstId) false)]
    let t := (run {} history fresh).2.committed
    t.refs.get? (RefName.ofBranch "b") = some (.direct firstId) ∧
      t.objects.isCommit firstId = true := by
  intro history t
  let u := Session.start (lineTables {}) false (second 2)
  have hline := run_lineHistory admits_default
  have hcommit : u.working.objects.isCommit firstId = true := lineTables_default.2.1
  have hnew : EventLog.branchTip? u.working.refs "b" = none := by
    rw [start_working]
    decide
  have hstart : branchStart u.working (some firstId) = .ok firstId := by
    rw [branchStart]
    exact if_pos (ObjectStore.contains_of_isCommit hcommit)
  have hmade := createBranch_made (isOpen_start _ _ _) false (by decide +kernel) hnew hstart
  have hcall : (perform {} (.createBranch "b" (some firstId) false)).runOn u = _ :=
    runOn_bind_of_ok hmade _
  have ht : t = branched u.working "b" firstId false (second 2) := by
    show (run {} history fresh).2.committed = _
    rw [run_append, hline, run_cons, at_start, hcall]
    rfl
  have hget : t.refs.get? (RefName.ofBranch "b") = some (.direct firstId) := by
    rw [ht]
    exact (u.working.refs.get?_insert _ _ _).trans (if_pos rfl)
  have hnamed : AllowedAlong {} (Call.NamesCommits {}) history fresh := by
    refine (allowedAlong_append _ _ _ _ _).mpr ⟨⟨trivial, trivial, trivial⟩, ?_, trivial⟩
    rw [hline]
    exact fun _ => hcommit
  obtain ⟨hbranches, _⟩ := run_onCommits {} Config.acceptedRoot_default history false default
    (lineHistory_append_distinct admits_default (second 2) fun _ => ite_self none) hnamed t
    (Or.inl rfl)
  obtain ⟨oid, hdirect, hcommit⟩ := hbranches "b" _ hget
  cases hdirect
  exact ⟨hget, hcommit⟩

/-- A branch may start at a blob. Then the head that is attached to it leads to the blob, and the
blob is visible. -/
theorem createBranch_onBlob :
    let oid := ObjectId.ofBlob "x"
    let history : List (Instant × Call) :=
      [(default, .createBlob "x"), (default, .createBranch "b" (some oid) true)]
    ∃ s found s', run {} history fresh = ([.ok (.oid oid), .ok (.oid oid)], s) ∧
      s.committed.refs.get? (RefName.ofBranch "b") = some (.direct oid) ∧
      RefStore.headOf s.committed.refs = some oid ∧
      (visible {}).runOn s = (.ok found, s') ∧ oid ∈ found ∧
      s.committed.objects.isCommit oid = false := by
  intro oid history
  have hopen : fresh.IsOpen := ⟨rfl, rfl⟩
  let stored := Tables.empty.withObject (.ofBlob "x" default)
  let withBlob := (fresh.onTables stored).committing
  let t := branched stored "b" oid true default
  have hblob : (perform {} (.createBlob "x")).runOn (at_ fresh default) =
      (.ok (.oid oid), withBlob) := runOn_bind_of_ok (createBlob_runOn hopen "x") _
  have hopen' : withBlob.IsOpen := hopen
  have hstart : branchStart withBlob.working (some oid) = .ok oid :=
    if_pos (ObjectStore.contains_insert .empty (.ofBlob "x" default))
  have hbranch : (perform {} (.createBranch "b" (some oid) true)).runOn (at_ withBlob default) =
      (.ok (.oid oid), (withBlob.onTables t).committing) :=
    runOn_bind_of_ok (createBranch_made hopen' true (by decide +kernel) rfl hstart) _
  have hrun : run {} history fresh =
      ([.ok (.oid oid), .ok (.oid oid)], (withBlob.onTables t).committing) := by
    rw [run, hblob]
    dsimp only
    rw [run, hbranch]
    rfl
  have htip : EventLog.branchTip? t.refs "b" = some oid := rfl
  have hvisible := visible_runOn {} (s := (withBlob.onTables t).committing) hopen'
    (r := Replay.start) rfl
  refine ⟨_, _, _, hrun, rfl, rfl, hvisible, ?_, ?_⟩
  · exact EventLog.mem_computeVisible_of_branchTip? htip _ _
  · rw [Bool.eq_false_iff]
    intro hcommit
    obtain ⟨o, hget, hkind⟩ := ObjectStore.isCommit_iff.mp hcommit
    have hrow : some (StoredObject.ofBlob "x" default) = some o := by
      rw [← hget]
      exact ((ObjectStore.empty.get?_insert _ _).trans (if_pos rfl)).symm
    cases hrow
    cases hkind

end Repository
end CommitStore
