import CommitStore.Proofs.SettledCalls
import CommitStore.Proofs.StoredRows
import CommitStore.Proofs.Visibility
set_option autoImplicit false

/-!
# Visible commits are kept alive

A commit that the log says is visible has a pin, and every visible commit is reached from where some
reference leads. The invariant behind this is `KeptAlive`: the rows of the store are well formed, the
head is attached to a branch if it is attached to anything, and the visible ids of the log are stored
commits with a pin each. Some ids may be exempt from the last part, because a call records the event
that makes a commit visible before it pins the commit.

The invariant is for the default root of pins. Under it lie no names of branches or tags, and not
`HEAD`, so a pin is written by pinning only; and a sweep keeps the pins of visible commits because an
active commit that is stored is a root of the visible set.
-/

namespace CommitStore

open CommitStore.Action
open CommitStore.Repository

/-! ## 1. Pins and other names -/

/-- The name of the pin of an object under the default root. -/
def pinOf (oid : Oid) : RefName := Reserved.pinName Reserved.defaultRoot oid

theorem pinOf_ne {name : RefName} (h : RefName.IsUserName name) (oid : Oid) :
    pinOf oid ≠ name := by
  rintro rfl
  have hroot := Reserved.rootPath_prefix_pinName Reserved.defaultRoot oid
  exact Reserved.not_isUserName_of_default hroot h

/-! ## 2. The invariant -/

/-- The head is attached to a branch, if it is attached to anything. -/
def HeadOnBranch (refs : RefTable) : Prop :=
  ∀ p name, refs.get? RefName.head = some p → RefStore.attachedTo? p = some name →
    ∃ branch, name = RefName.ofBranch branch

/-- The visible ids of the log are stored commits, and pinned unless they are exempt. -/
def PinnedBut (exempt : List Oid) (t : Tables) : Prop :=
  ∃ r, EventLog.replayRows t.events = .ok r ∧
    ∀ oid, r.visibility? oid = some .visible →
      t.objects.isCommit oid = true ∧
        (oid ∉ exempt → t.refs.get? (pinOf oid) = some (.direct oid))

/-- The invariant, up to some ids that are exempt from being pinned. -/
structure KeptAlive (hashed : String → Prop) (exempt : List Oid) (t : Tables) : Prop where
  objects : t.objects.WellFormed hashed
  head : HeadOnBranch t.refs
  pins : PinnedBut exempt t

theorem PinnedBut.of_replay {exempt : List Oid} {t : Tables} (h : PinnedBut exempt t) {r : Replay}
    (hreplay : EventLog.replayRows t.events = .ok r) {oid : Oid}
    (hvisible : r.visibility? oid = some .visible) :
    t.objects.isCommit oid = true ∧
      (oid ∉ exempt → t.refs.get? (pinOf oid) = some (.direct oid)) := by
  obtain ⟨r', hreplay', hpinned⟩ := h
  rw [hreplay] at hreplay'
  cases hreplay'
  exact hpinned oid hvisible

/-- What is pinned stays pinned when the log is the same, commits stay, and pins stay. -/
theorem PinnedBut.of_frame {exempt : List Oid} {t t' : Tables} (h : PinnedBut exempt t)
    (hevents : t'.events = t.events)
    (hcommits : ∀ oid, t.objects.isCommit oid = true → t'.objects.isCommit oid = true)
    (hpins : ∀ oid, t.refs.get? (pinOf oid) = some (.direct oid) →
      t'.refs.get? (pinOf oid) = some (.direct oid)) : PinnedBut exempt t' := by
  obtain ⟨r, hreplay, hvisible⟩ := h
  refine ⟨r, hevents ▸ hreplay, ?_⟩
  intro oid hoid
  obtain ⟨hcommit, hpin⟩ := hvisible oid hoid
  refine ⟨hcommits oid hcommit, ?_⟩
  intro hnot
  exact hpins oid (hpin hnot)

/-- A reference that is no pin can be written. -/
theorem PinnedBut.of_insert {exempt : List Oid} {t t' : Tables} (h : PinnedBut exempt t)
    {name : RefName} (hname : RefName.IsUserName name) {p : Pointer}
    (hrefs : t'.refs = t.refs.insert name p) (hobjects : t'.objects = t.objects)
    (hevents : t'.events = t.events) : PinnedBut exempt t' := by
  refine h.of_frame hevents (fun oid hcommit => hobjects ▸ hcommit) ?_
  intro oid hpin
  rw [hrefs, NameMap.get?_insert, if_neg (pinOf_ne hname oid)]
  exact hpin

theorem HeadOnBranch.insert {refs : RefTable} (h : HeadOnBranch refs) {name : RefName} {p : Pointer}
    (hp : ∀ other, RefStore.attachedTo? p = some other →
      ∃ branch, other = RefName.ofBranch branch) :
    HeadOnBranch (refs.insert name p) := by
  intro q other hget hattached
  rw [NameMap.get?_insert] at hget
  split at hget
  · cases hget
    exact hp other hattached
  · exact h q other hget hattached

namespace KeptAlive

variable {hashed : String → Prop} {exempt : List Oid} {t : Tables}

theorem empty : KeptAlive hashed [] Tables.empty where
  objects := ObjectStore.wellFormed_empty
  head p name hget := by cases hget
  pins := by
    refine ⟨Replay.start, rfl, ?_⟩
    intro oid hvisible
    cases hvisible

theorem weaken (h : KeptAlive hashed [] t) : KeptAlive hashed exempt t where
  objects := h.objects
  head := h.head
  pins := by
    obtain ⟨r, hreplay, hvisible⟩ := h.pins
    refine ⟨r, hreplay, ?_⟩
    intro oid hoid
    obtain ⟨hcommit, hpin⟩ := hvisible oid hoid
    exact ⟨hcommit, fun _ => hpin List.not_mem_nil⟩

/-! ## 3. Steps that keep the invariant -/

theorem withObject (h : KeptAlive hashed exempt t) {o : StoredObject}
    (ho : ObjectStore.RowHolds hashed o) : KeptAlive hashed exempt (t.withObject o) where
  objects := h.objects.insert ho
  head := h.head
  pins := h.pins.of_frame rfl (fun _ => ObjectStore.isCommit_insert) fun _ hpin => hpin

theorem writeDirect (h : KeptAlive hashed exempt t) {name : RefName}
    (hname : RefName.IsUserName name) (oid : Oid) (message : Option String) (now : Instant) :
    KeptAlive hashed exempt (t.writeDirect name oid message now) where
  objects := h.objects
  head := h.head.insert fun _ hattached => by cases hattached
  pins := h.pins.of_insert hname rfl rfl rfl

theorem attach (h : KeptAlive hashed exempt t) (branch : String) :
    KeptAlive hashed exempt (t.writeSymbolic RefName.head (RefName.ofBranch branch)) where
  objects := h.objects
  head := by
    refine h.head.insert ?_
    intro other hattached
    refine ⟨branch, ?_⟩
    unfold RefStore.attachedTo? Pointer.toName at hattached
    split at hattached
    · cases hattached
    · cases hattached
    · next hsome =>
      cases hsome
      exact (Option.some.inj hattached).symm
  pins := h.pins.of_insert (Or.inl rfl) rfl rfl rfl

theorem moveHead (h : KeptAlive hashed exempt t) (defaultBranch : String) (oid : Oid)
    (message : String) (now : Instant) :
    KeptAlive hashed exempt (RefStore.moveHead t defaultBranch oid message now) := by
  unfold RefStore.moveHead
  cases hhead : t.refs.get? RefName.head with
  | none => exact (h.attach defaultBranch).writeDirect (Or.inr (Or.inl ⟨_, rfl⟩)) oid _ now
  | some p =>
    refine h.writeDirect ?_ oid _ now
    cases hattached : RefStore.attachedTo? p with
    | none => exact Or.inl rfl
    | some name => exact Or.inr (Or.inl (h.head p name hhead hattached))

theorem removeBranch (h : KeptAlive hashed exempt t) (branch : String) (message : Option String)
    (now : Instant) :
    KeptAlive hashed exempt (t.removeRef (RefName.ofBranch branch) message now) := by
  obtain ⟨hobjects, hevents, _⟩ := t.removeRef_frame (RefName.ofBranch branch) message now
  refine ⟨hobjects.symm ▸ h.objects, ?_, ?_⟩
  · intro p name hget
    exact h.head p name (Tables.removeRef_le hget)
  · refine h.pins.of_frame hevents (fun oid hcommit => hobjects.symm ▸ hcommit) ?_
    intro oid hpin
    rw [Tables.removeRef_get?, if_neg (pinOf_ne (Or.inr (Or.inl ⟨branch, rfl⟩)) oid)]
    exact hpin

/-- Events may be recorded that make stored commits visible; these are exempt until they are
pinned. -/
theorem logged (h : KeptAlive hashed [] t) {events : List (EventKind × EventSubject)}
    (hcomplete : ∀ event ∈ events, Replay.IsComplete event)
    (hshown : ∀ event ∈ events, ∀ oid, (some oid, .visible) ∈ Replay.mentionsOf event →
      t.objects.isCommit oid = true ∧ oid ∈ exempt) (message : String) (now : Instant) :
    KeptAlive hashed exempt (t.logged message now events) := by
  obtain ⟨hrefs, hobjects⟩ := t.logged_frame message now events
  refine ⟨hobjects.symm ▸ h.objects, hrefs.symm ▸ h.head, ?_⟩
  obtain ⟨r, hreplay, hvisible⟩ := h.pins
  obtain ⟨r', hreplay', hvisible'⟩ := Tables.replayRows_logged hcomplete message now hreplay
  refine ⟨r', hreplay', ?_⟩
  intro oid hoid
  rw [hrefs, hobjects]
  rcases hvisible' oid hoid with hbefore | ⟨event, hevent, hmem⟩
  · obtain ⟨hcommit, hpin⟩ := hvisible oid hbefore
    exact ⟨hcommit, fun _ => hpin List.not_mem_nil⟩
  · obtain ⟨hcommit, hexempt⟩ := hshown event hevent oid hmem
    exact ⟨hcommit, fun hnot => absurd hexempt hnot⟩

variable {config : Config}

/-- An exempt id is no longer exempt once it is pinned. -/
theorem pinned {oid : Oid} (h : KeptAlive hashed [oid] t)
    (hroot : config.pinRoot = Reserved.defaultRoot) (now : Instant) :
    KeptAlive hashed [] (pinned config t oid now) where
  objects := h.objects
  head := h.head.insert fun _ hattached => by cases hattached
  pins := by
    obtain ⟨r, hreplay, hvisible⟩ := h.pins
    refine ⟨r, hreplay, ?_⟩
    intro other hother
    obtain ⟨hcommit, hpin⟩ := hvisible other hother
    refine ⟨hcommit, ?_⟩
    intro _
    show (t.refs.insert (Reserved.pinName config.pinRoot oid) (.direct oid)).get? _ = _
    rw [hroot, NameMap.get?_insert]
    by_cases hsame : other = oid
    · rw [hsame, pinOf, if_pos rfl]
    · have hname : pinOf other ≠ Reserved.pinName Reserved.defaultRoot oid := by
        intro hname
        exact hsame (Reserved.pinName_inj hname)
      rw [if_neg hname]
      refine hpin ?_
      rw [List.mem_singleton]
      exact hsame

/-- A stored commit can be pinned. -/
theorem pinnedIfPossible {oid : Oid} (h : KeptAlive hashed [oid] t)
    (hroot : config.pinRoot = Reserved.defaultRoot) (hcommit : t.objects.isCommit oid = true)
    (now : Instant) : KeptAlive hashed [] (pinnedIfPossible config t oid now) := by
  have hhex := h.objects.isHex hcommit
  have hpath : RefName.pathFault? Reserved.defaultRoot.toList = none := by decide
  have hcan : CanPin config t oid := by
    refine ⟨Reserved.isReserved_pinName _ hhex, ?_, ?_⟩
    · rw [hroot]
      exact Reserved.isValid_pinName hpath hhex
    · exact ObjectStore.contains_of_isCommit hcommit
  rw [Repository.pinnedIfPossible, if_pos hcan]
  exact h.pinned hroot now

/-- Asking what is visible fills the cache only. -/
theorem computeVisible (h : KeptAlive hashed exempt t) (roots : VisibleSet.Roots) :
    KeptAlive hashed exempt (EventLog.computeVisible t roots).2 where
  objects := h.objects
  head := h.head
  pins := h.pins

/-- **A sweep keeps the pins of visible commits**, because each of them is a root of the visible
set. -/
theorem swept (h : KeptAlive hashed [] t) {r : Replay}
    (hreplay : EventLog.replayRows t.events = .ok r) (now : Instant) :
    KeptAlive hashed [] (swept config t r now) := by
  let answer := EventLog.computeVisible t (EventLog.rootsOf t config.mainBranch r.active)
  let dangling :=
    (Sweep.classify answer.2 config.pinRoot answer.1 answer.2.refs.references).dangling
  obtain ⟨hobjects, hevents, _⟩ := answer.2.removeRefs_frame dangling now
  have hswept : Repository.swept config t r now = answer.2.removeRefs dangling now := rfl
  rw [hswept]
  refine ⟨hobjects.symm ▸ h.objects, ?_, ?_⟩
  · intro p name hget
    have hbefore : answer.2.refs.get? RefName.head = some p := Tables.removeRefs_le hget
    exact h.head p name hbefore
  · refine ⟨r, hevents.symm ▸ hreplay, ?_⟩
    intro oid hoid
    obtain ⟨hcommit, hpin⟩ := h.pins.of_replay hreplay hoid
    have hpointer := hpin List.not_mem_nil
    refine ⟨hobjects.symm ▸ hcommit, ?_⟩
    intro _
    have hkept : pinOf oid ∉ dangling := by
      intro hmem
      obtain ⟨_, p, commit, hget, hleads, hnot⟩ := (Sweep.mem_dangling_iff _ _ _ _).mp hmem
      have hsame : some p = some (.direct oid) := hget.symm.trans hpointer
      cases hsame
      have htip : LeadsTo answer.2 ((Pointer.direct oid).named (pinOf oid)) oid :=
        ⟨oid, rfl, ObjectStore.peelsTo_of_isCommit hcommit⟩
      obtain rfl := hleads.unique htip
      refine hnot (VisibleSet.mem_compute_of_isRoot (Or.inr (Or.inr ⟨?_, ?_⟩)))
      · exact (r.mem_active_iff commit).mpr hoid
      · exact ObjectStore.contains_of_isCommit hcommit
    rw [Tables.removeRefs_get?, if_neg hkept]
    exact hpointer

/-! ## 4. Effects -/

/-- The invariant is kept by everything that a call can do. -/
theorem of_effect {t' : Tables} (hroot : config.pinRoot = Reserved.defaultRoot)
    (hdistinct : ∀ a b, hashed a → hashed b → Sha256.hexOfText a = Sha256.hexOfText b → a = b)
    (heffect : Effect config hashed t t') (h : KeptAlive hashed [] t) : KeptAlive hashed [] t' := by
  cases heffect with
  | blob data now hhashed => exact h.withObject (ObjectStore.rowHolds_ofBlob hhashed)
  | tag name target message now hhashed _ => exact h.withObject (ObjectStore.rowHolds_ofTag hhashed)
  | tagReference name oid message now _ _ => exact h.writeDirect (Or.inr (Or.inr ⟨name, rfl⟩)) _ _ _
  | @commit saved parents message now oid hoid hhashed _ hsave =>
    obtain ⟨hobjects, hcommit, hcommits, hrefs, hevents⟩ :=
      Tables.withCommit?_objects h.objects hdistinct hhashed hsave
    rw [← hoid] at hcommit
    have hsaved : KeptAlive hashed [] saved :=
      ⟨hobjects, hrefs.symm ▸ h.head, h.pins.of_frame hevents hcommits fun _ => hrefs.symm ▸ id⟩
    have hmoved := hsaved.moveHead config.mainBranch oid ("commit: " ++ message) now
    have hstored : (RefStore.moveHead saved config.mainBranch oid ("commit: " ++ message)
        now).objects.isCommit oid = true := by
      rw [RefStore.moveHead_objects]
      exact hcommit
    have hlogged : KeptAlive hashed [oid] (moved config saved oid message now) := by
      refine hmoved.logged ?_ ?_ _ now
      · simp [Replay.IsComplete, Replay.mentionsOf, Replay.mentions]
      · simp [Replay.mentionsOf, Replay.mentions, hstored]
    exact hlogged.pinnedIfPossible hroot hstored now
  | branch name source oid attaches now _ _ _ =>
    have hwritten := h.writeDirect (Or.inr (Or.inl ⟨name, rfl⟩)) oid
      (some ("branch: created from " ++ oid)) now
    cases attaches with
    | false => exact hwritten
    | true => exact hwritten.attach name
  | unbranch name oid now _ _ =>
    refine (h.removeBranch name _ now).logged ?_ ?_ _ now
    · simp [Replay.IsComplete, Replay.mentionsOf, Replay.mentions]
    · simp [Replay.mentionsOf, Replay.mentions]
  | attach branch oid _ => exact h.attach branch
  | detach oid message now _ => exact h.writeDirect (Or.inl rfl) oid message now
  | hide oid now _ =>
    refine h.logged ?_ ?_ _ now
    · simp [Replay.IsComplete, Replay.mentionsOf, Replay.mentions]
    · simp [Replay.mentionsOf, Replay.mentions]
  | unhide oid now hcommit =>
    have hlogged : KeptAlive hashed [oid]
        (t.logged "unhide" now [(.unhide, { commit := some oid })]) := by
      refine h.logged ?_ ?_ _ now
      · simp [Replay.IsComplete, Replay.mentionsOf, Replay.mentions]
      · simp [Replay.mentionsOf, Replay.mentions, hcommit]
    exact hlogged.pinnedIfPossible hroot hcommit now
  | replace old new now _ hnew =>
    have hlogged : KeptAlive hashed [new]
        (t.logged "rewrite" now [(.replace, { old := some old, new := some new })]) := by
      refine h.logged ?_ ?_ _ now
      · intro event hevent
        rw [List.mem_singleton.mp hevent]
        rfl
      · simp [Replay.mentionsOf, Replay.mentions, hnew]
    exact hlogged.pinnedIfPossible hroot hnew now
  | pin oid now _ => exact h.weaken.pinned hroot now
  | ask r hreplay => exact h.computeVisible _
  | sweep r now hreplay => exact h.swept hreplay now

end KeptAlive

/-! ## 5. What the roots reach -/

/-- Some reference points directly at an object. -/
def RefTable.Targets (refs : RefTable) (oid : Oid) : Prop :=
  ∃ name p, refs.get? name = some p ∧ p.target = some oid

theorem targets_of_branchTip? {refs : RefTable} {branch : String} {oid : Oid}
    (h : EventLog.branchTip? refs branch = some oid) : refs.Targets oid := by
  obtain ⟨p, hget, htarget⟩ := Option.bind_eq_some_iff.mp h
  exact ⟨_, p, hget, htarget⟩

theorem targets_of_headOf {refs : RefTable} {oid : Oid} (h : RefStore.headOf refs = some oid) :
    refs.Targets oid := by
  unfold RefStore.headOf at h
  cases hhead : refs.get? RefName.head with
  | none =>
    rw [hhead] at h
    cases h
  | some p =>
    rw [hhead] at h
    dsimp only at h
    split at h
    · obtain ⟨q, hget, htarget⟩ := Option.bind_eq_some_iff.mp h
      exact ⟨_, q, hget, htarget⟩
    · exact ⟨_, p, hhead, h⟩

/-- Some reference points directly at each root of the visible set. -/
theorem targets_of_isRoot {t : Tables} {r : Replay} {mainBranch : String} {isStored : Oid → Bool}
    (hpins : ∀ oid, r.visibility? oid = some .visible →
      t.refs.get? (pinOf oid) = some (.direct oid))
    {oid : Oid} (h : (EventLog.rootsOf t mainBranch r.active).IsRoot isStored oid) :
    t.refs.Targets oid := by
  rcases h with hbranch | hhead | ⟨hactive, _⟩
  · obtain ⟨branch, _, htip⟩ := List.mem_filterMap.mp hbranch
    exact targets_of_branchTip? htip
  · exact targets_of_headOf hhead
  · exact ⟨pinOf oid, .direct oid, hpins oid ((r.mem_active_iff oid).mp hactive), rfl⟩

/-- What reaches a commit is a commit. -/
theorem ObjectStore.WellFormed.isCommit_of_reaches {hashed : String → Prop} {s : ObjectStore}
    (h : s.WellFormed hashed) {a b : Oid} (hreach : s.ancestry.Reaches a b)
    (hcommit : s.isCommit b = true) : s.isCommit a = true := by
  rcases Relation.ReflTransGen.cases_head hreach with rfl | ⟨parent, hparent, _⟩
  · exact hcommit
  · exact h.isCommit_of_mem_parents hparent

/-- A commit is reached from where a reference leads, if an object that is pointed at reaches it. -/
theorem ObjectStore.WellFormed.exists_leadsTo {hashed : String → Prop} {t : Tables}
    (h : t.objects.WellFormed hashed) {root commit : Oid} (htargets : t.refs.Targets root)
    (hreach : t.objects.ancestry.Reaches root commit)
    (hcommit : t.objects.isCommit commit = true) :
    ∃ ref ∈ t.refs.references, ∃ tip, LeadsTo t ref tip ∧
      t.objects.ancestry.Reaches tip commit := by
  obtain ⟨name, ⟨target, symbolic⟩, hget, rfl⟩ := htargets
  have hmem := (RefTable.mem_references_iff t.refs ⟨⟨some root, symbolic⟩, name⟩).mpr hget
  refine ⟨_, hmem, root, ?_, hreach⟩
  exact ⟨root, RefTable.resolve_direct _ _ _ _,
    ObjectStore.peelsTo_of_isCommit (h.isCommit_of_reaches hreach hcommit)⟩

/-- In tables with the invariant, visible commits are reached from references. -/
theorem KeptAlive.reached {hashed : String → Prop} {t : Tables} (h : KeptAlive hashed [] t)
    {r : Replay} (hreplay : EventLog.replayRows t.events = .ok r) (mainBranch : String) {c : Oid}
    (hc : c ∈ (EventLog.computeVisible t (EventLog.rootsOf t mainBranch r.active)).1)
    (hcommit : t.objects.isCommit c = true) :
    ∃ ref ∈ t.refs.references, ∃ tip, LeadsTo t ref tip ∧ t.objects.ancestry.Reaches tip c := by
  have hpins : ∀ oid, r.visibility? oid = some .visible →
      t.refs.get? (pinOf oid) = some (.direct oid) := by
    intro oid hoid
    exact (h.pins.of_replay hreplay hoid).2 List.not_mem_nil
  rcases (VisibleSet.mem_compute_iff _ _ _ _ c).mp hc with hmain | ⟨root, hroot, hpath⟩
  · exact h.objects.exists_leadsTo (targets_of_branchTip? hmain) Relation.ReflTransGen.refl hcommit
  · exact h.objects.exists_leadsTo (targets_of_isRoot hpins hroot) hpath.reaches hcommit

/-! ## 6. Histories -/

namespace Repository

theorem pinOf_eq (oid : Oid) : pinOf oid = "refs/branchless/" ++ oid := by
  rw [← String.toList_inj, pinOf, Reserved.pinName, String.toList_ofList, String.toList_append]
  rfl

/-- **Visible commits are kept alive.** After any history of calls on a new repository with the
default root of pins, every commit that the committed log says is visible is pinned, and every
visible commit is reached from where some committed reference leads. The texts hashed on the way are
taken to have different digests. -/
theorem run_keepsAlive (config : Config) (hroot : config.pinRoot = Reserved.defaultRoot)
    (history : List (Instant × Call)) (durable : Bool) (start : Instant)
    (hdistinct : ∀ a ∈ hashedTexts config history (Session.start .empty durable start),
      ∀ b ∈ hashedTexts config history (Session.start .empty durable start),
        Sha256.hexOfText a = Sha256.hexOfText b → a = b) :
    let t := (run config history (Session.start .empty durable start)).2.committed
    ∃ r visible s', EventLog.replayRows t.events = .ok r ∧
      (Repository.visible config).runOn (Session.start t durable start) = (.ok visible, s') ∧
      (∀ oid, r.visibility? oid = some .visible →
        t.refs.get? ("refs/branchless/" ++ oid) = some (.direct oid)) ∧
      ∀ c ∈ visible, t.objects.isCommit c = true →
        ∃ ref ∈ t.refs.references, ∃ tip, LeadsTo t ref tip ∧
          t.objects.ancestry.Reaches tip c := by
  intro t
  let hashed : String → Prop := fun text =>
    text ∈ hashedTexts config history (Session.start .empty durable start)
  have hmoves : Moves config hashed (.empty, .empty) _ :=
    (run_movesTo history rfl fun _ htext => htext).1
  have hstep : ∀ t t', Effect config hashed t t' → KeptAlive hashed [] t → KeptAlive hashed [] t' :=
    fun _ _ => KeptAlive.of_effect hroot fun a b ha hb => hdistinct a ha b hb
  have hkept : KeptAlive hashed [] t := (hmoves.keeps hstep ⟨.empty, .empty⟩).1
  obtain ⟨r, hreplay, hpinned⟩ := hkept.pins
  have hopen : (Session.start t durable start).IsOpen := ⟨rfl, rfl⟩
  refine ⟨r, _, _, hreplay, visible_runOn config hopen hreplay, ?_, ?_⟩
  · intro oid hoid
    rw [← pinOf_eq]
    exact (hpinned oid hoid).2 List.not_mem_nil
  · intro c hc hcommit
    exact hkept.reached hreplay config.mainBranch hc hcommit

open CommitLine

/-- The theorem at a line of two commits, of which the first is hidden: the second one is visible, is
pinned, and is reached from where a reference leads. -/
theorem run_keepsAlive_hidden :
    let t := (run {} hiddenHistory fresh).2.committed
    (∃ r, EventLog.replayRows t.events = .ok r ∧ r.visibility? firstId = some .hidden ∧
      r.visibility? secondId = some .visible) ∧
    t.refs.get? ("refs/branchless/" ++ secondId) = some (.direct secondId) ∧
    ∃ visible s', (Repository.visible {}).runOn (Session.start t false default) =
        (.ok visible, s') ∧ secondId ∈ visible ∧
      ∃ ref ∈ t.refs.references, ∃ tip, LeadsTo t ref tip ∧
        t.objects.ancestry.Reaches tip secondId := by
  intro t
  have ht : t = hiddenTables {} := congrArg Session.committed (run_hiddenHistory admits_default)
  obtain ⟨r, visible, s', hreplay, hrun, hpins, hreached⟩ :=
    run_keepsAlive {} rfl hiddenHistory false default (hiddenHistory_distinct admits_default)
  have hreplay' : EventLog.replayRows t.events = .ok r := hreplay
  obtain ⟨hfirst, hsecond, _⟩ := replay_hiddenTables (ht ▸ hreplay')
  have hcommit : t.objects.isCommit secondId = true := by
    rw [ht, (hiddenTables_frame {}).2]
    exact lineTables_default.2.2.1
  have hcomputed := visible_runOn {} (isOpen_start t false default) hreplay'
  have hvisible : secondId ∈ visible := by
    cases hrun.symm.trans hcomputed
    exact VisibleSet.mem_compute_of_isRoot
      (Or.inr (Or.inr ⟨(r.mem_active_iff _).mpr hsecond, ObjectStore.contains_of_isCommit hcommit⟩))
  exact ⟨⟨r, hreplay, hfirst, hsecond⟩, hpins secondId hsecond, visible, s', hrun, hvisible,
    hreached secondId hvisible hcommit⟩

end Repository
end CommitStore
