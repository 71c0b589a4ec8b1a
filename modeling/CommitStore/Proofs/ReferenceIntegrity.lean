import CommitStore.Proofs.Edits
import CommitStore.Proofs.ObjectGraph
import CommitStore.Proofs.OpenTransactions
set_option autoImplicit false

/-!
# The references of a store

Under the default root of pins a sweep releases no branch, no tag and not the head. Then every
reference but `HEAD` points directly at a stored object, and `HEAD` is one of three: it is not there
yet, it points directly at a commit, or it is attached to a branch that exists. So every reference
can be resolved, and what a repository answers about where it stands can be read off `HEAD`.

Each edit keeps this (`Tables.RefsHold.of_edit`). Branches are the one thing that could be pulled
away from under the head, and the guard of their removal is that the head is not attached to them.
That `HEAD` stays once it is there is a second matter: no edit removes it, and no rollback does,
because no change of a reference is ever left uncommitted (`run_refsSettled`).

A detached head is written at the id of a commit. If that id is taken by an object of another kind,
the head points at that object; then two texts that differ have one digest (`Collides`).
-/

namespace CommitStore

open CommitStore.Action
open CommitStore.Repository

/-! ## 1. The invariant -/

/-- Two texts that were hashed differ, and their digest is the same. -/
def Collides (hashed : String → Prop) (oid : Oid) : Prop :=
  ∃ a b, hashed a ∧ hashed b ∧ a ≠ b ∧ Sha256.hexOfText a = oid ∧ Sha256.hexOfText b = oid

/-- What every edit keeps true of the objects and references. -/
structure Tables.RefsHold (hashed : String → Prop) (t : Tables) : Prop where
  rows : ∀ oid o, t.objects.get? oid = some o → ObjectStore.RowHolds hashed o
  stored : RefTable.OnStored t.refs t.objects
  attached : RefTable.OnCommits t.refs fun oid => t.objects.contains oid = true
  detached : ∀ oid, t.refs.get? RefName.head = some (.direct oid) →
    t.objects.isCommit oid = true ∨ IsHashedCommit hashed oid

/-- What is stored at the id of a commit is a commit, unless digests collide. -/
theorem ObjectStore.RowHolds.isCommit_or_collides {hashed : String → Prop} {s : ObjectStore}
    {oid : Oid} {o : StoredObject} (ho : RowHolds hashed o) (hget : s.get? oid = some o)
    (h : IsHashedCommit hashed oid) : s.isCommit oid = true ∨ Collides hashed oid := by
  obtain ⟨parents, message, time, hhashed, hoid⟩ := h
  obtain ⟨payload, hhashed', hdigest⟩ := ho.hasDigest
  rw [get?_oid hget] at hdigest
  by_cases hkind : o.kind = .commit
  · exact Or.inl (isCommit_iff.mpr ⟨o, hget, hkind⟩)
  · refine Or.inr ⟨_, _, hhashed, hhashed', ?_, hoid.symm, hdigest.symm⟩
    intro htexts
    exact hkind (ObjectId.kind_eq_of_textOf_eq htexts).symm

namespace Tables.RefsHold

variable {config : Config} {hashed : String → Prop} {t t' : Tables}

theorem empty : Tables.RefsHold hashed .empty where
  rows oid o hget := by cases hget
  stored := RefTable.OnStored.empty
  attached := RefTable.OnCommits.empty
  detached oid hget := by cases hget

/-- References may change, as long as these three hold of them. -/
theorem of_refs (h : t.RefsHold hashed) (hobjects : t'.objects = t.objects)
    (hstored : RefTable.OnStored t'.refs t.objects)
    (hattached : RefTable.OnCommits t'.refs fun oid => t.objects.contains oid = true)
    (hdetached : ∀ oid, t'.refs.get? RefName.head = some (.direct oid) →
      t.objects.isCommit oid = true ∨ IsHashedCommit hashed oid) : t'.RefsHold hashed where
  rows := hobjects ▸ h.rows
  stored := hobjects ▸ hstored
  attached := hobjects ▸ hattached
  detached := hobjects ▸ hdetached

theorem withObject (h : t.RefsHold hashed) {o : StoredObject}
    (ho : ObjectStore.RowHolds hashed o) : (t.withObject o).RefsHold hashed where
  rows oid row hget := by
    rcases ObjectStore.get?_insert_cases hget with hold | rfl
    · exact h.rows oid row hold
    · exact ho
  stored := h.stored.mono fun oid hoid => (t.objects.contains_insert_iff o oid).mpr (Or.inl hoid)
  attached := h.attached.mono fun oid hoid =>
    (t.objects.contains_insert_iff o oid).mpr (Or.inl hoid)
  detached oid hget := (h.detached oid hget).imp_left ObjectStore.isCommit_insert

theorem writeDirect (h : t.RefsHold hashed) (name : RefName) {oid : Oid}
    (hoid : t.objects.contains oid = true)
    (hhead : name = RefName.head → t.objects.isCommit oid = true ∨ IsHashedCommit hashed oid)
    (message : Option String) (now : Instant) :
    (t.writeDirect name oid message now).RefsHold hashed := by
  refine h.of_refs rfl (h.stored.insert_direct name hoid) (h.attached.insert_direct name hoid) ?_
  intro found hget
  have hinsert := (t.refs.get?_insert name (.direct oid) RefName.head).symm.trans hget
  split at hinsert
  · next hname =>
    cases hinsert
    exact hhead hname.symm
  · exact h.detached found hinsert

/-- A head that is attached to a branch is not detached. -/
theorem not_detached {refs : RefTable} {branch : String}
    (hget : refs.get? RefName.head = some (.toName (RefName.ofBranch branch))) (oid : Oid) :
    refs.get? RefName.head ≠ some (.direct oid) := by
  rw [hget]
  intro hdirect
  cases hdirect

theorem attach (h : t.RefsHold hashed) {branch : String} {p : Pointer}
    (hbranch : t.refs.get? (RefName.ofBranch branch) = some p) :
    (t.writeSymbolic RefName.head (RefName.ofBranch branch)).RefsHold hashed := by
  refine h.of_refs rfl (h.stored.attach branch) (h.attached.attach hbranch) ?_
  intro oid hget
  exact absurd hget (not_detached ((t.refs.get?_insert _ _ _).trans (if_pos rfl)) oid)

theorem beginHead (h : t.RefsHold hashed) (branch : String) {oid : Oid}
    (hoid : t.objects.contains oid = true) (message : Option String) (now : Instant) :
    ((t.writeSymbolic RefName.head (RefName.ofBranch branch)).writeDirect
      (RefName.ofBranch branch) oid message now).RefsHold hashed := by
  refine h.of_refs rfl ((h.stored.attach branch).insert_direct _ hoid)
    (h.attached.attachNew branch hoid) ?_
  intro found hget
  have hhead : NameMap.get? ((t.refs.insert RefName.head (.toName (RefName.ofBranch branch))).insert
      (RefName.ofBranch branch) (.direct oid)) RefName.head =
        some (.toName (RefName.ofBranch branch)) := by
    rw [NameMap.get?_insert, if_neg (RefName.head_ne_ofBranch branch), NameMap.get?_insert,
      if_pos rfl]
  exact absurd hget (not_detached hhead found)

theorem removeRef (h : t.RefsHold hashed) {name : RefName} {message : Option String}
    {now : Instant}
    (hattached : RefTable.OnCommits (t.removeRef name message now).refs
      fun oid => t.objects.contains oid = true) :
    (t.removeRef name message now).RefsHold hashed := by
  refine h.of_refs (t.removeRef_frame name message now).1 ?_ hattached ?_
  · exact h.stored.of_le fun _ _ => Tables.removeRef_le
  · intro oid hget
    exact h.detached oid (Tables.removeRef_le hget)

end Tables.RefsHold

/-! ## 2. What edits keep -/

theorem Reserved.ne_of_isReserved_default {name other : RefName}
    (hother : RefName.IsUserName other) (h : isReserved defaultRoot name = true) :
    other ≠ name := by
  rintro rfl
  exact not_isUserName_of_default (rootPath_prefix_of_isReserved h) hother

section

variable {config : Config} {hashed : String → Prop} {t t' : Tables}

/-- **Every edit keeps the references on stored objects.** -/
theorem Tables.RefsHold.of_edit (hroot : config.pinRoot = Reserved.defaultRoot)
    (hedit : Edit config hashed t t') (h : t.RefsHold hashed) : t'.RefsHold hashed := by
  cases hedit with
  | store o ho => exact h.withObject ho
  | link | openTransaction | record | remember => exact ⟨h.rows, h.stored, h.attached, h.detached⟩
  | write name oid message now hstored hhead =>
    exact h.writeDirect name (hstored.elim id h.stored.headOf) hhead message now
  | attach branch p hbranch => exact h.attach hbranch
  | beginHead branch oid message now hstored => exact h.beginHead branch hstored message now
  | removeBranch branch message now hcurrent =>
    exact h.removeRef (h.attached.removeBranch hcurrent message now)
  | release name now hreserved =>
    rw [hroot] at hreserved
    refine h.removeRef (h.attached.of_same ?_ ?_)
    · rw [Tables.removeRef_get?,
        if_neg (Reserved.ne_of_isReserved_default (Or.inl rfl) hreserved)]
    · intro branch
      rw [Tables.removeRef_get?,
        if_neg (Reserved.ne_of_isReserved_default (Or.inr (Or.inl ⟨branch, rfl⟩)) hreserved)]

/-- There is a head. -/
def RefTable.HasHead (refs : RefTable) : Prop := refs.get? RefName.head ≠ none

theorem RefTable.HasHead.insert {refs : RefTable} (h : refs.HasHead) (name : RefName)
    (p : Pointer) : RefTable.HasHead (refs.insert name p) := by
  rw [HasHead, NameMap.get?_insert]
  split
  · exact Option.some_ne_none p
  · exact h

/-- No edit removes the head. -/
theorem RefTable.HasHead.of_edit (hroot : config.pinRoot = Reserved.defaultRoot)
    (hedit : Edit config hashed t t') (h : t.refs.HasHead) : t'.refs.HasHead := by
  cases hedit with
  | store | link | openTransaction | record | remember => exact h
  | write name => exact h.insert name _
  | attach branch => exact h.insert RefName.head _
  | beginHead branch => exact (h.insert RefName.head _).insert (RefName.ofBranch branch) _
  | removeBranch branch =>
    rw [HasHead, Tables.removeRef_get?, if_neg (RefName.head_ne_ofBranch branch)]
    exact h
  | release name now hreserved =>
    rw [hroot] at hreserved
    rw [HasHead, Tables.removeRef_get?,
      if_neg (Reserved.ne_of_isReserved_default (Or.inl rfl) hreserved)]
    exact h

end

/-! ## 3. What is answered -/

/-- Where the head of some references stands. -/
def RefTable.headState (refs : RefTable) : HeadState where
  oid := RefStore.headOf refs
  branch := (refs.reference? RefName.head).bind fun r => r.symbolic.bind RefStore.branchOf?
  detached := (refs.reference? RefName.head).any fun r => r.symbolic.isNone

theorem Repository.headState_runOn {s : Session} (h : s.IsOpen) :
    Repository.headState.runOn s = (.ok s.working.refs.headState, s) := by
  rw [Repository.headState, runOn_bind_of_ok (RefStore.head_runOn h),
    runOn_bind_of_ok (RefStore.currentBranch_runOn h),
    runOn_bind_of_ok (RefStore.isDetached_runOn h)]
  rfl

/-- An answer about where a repository stands agrees with its references. -/
structure RefTable.StandsAt (refs : RefTable) (state : HeadState) : Prop where
  oid : ∀ oid, state.oid = some oid ↔
    ∃ p, refs.get? RefName.head = some p ∧ refs.resolve (p.named RefName.head) = .ok oid
  detached : state.detached = true ↔ ∃ oid, refs.get? RefName.head = some (.direct oid)
  branch : ∀ branch, state.branch = some branch ↔
    refs.get? RefName.head = some (.toName (RefName.ofBranch branch))
  tip : ∀ branch, state.branch = some branch →
    ∃ oid, state.oid = some oid ∧ refs.get? (RefName.ofBranch branch) = some (.direct oid)

theorem RefTable.headState_absent {refs : RefTable} (hget : refs.get? RefName.head = none) :
    refs.headState = ⟨none, none, false⟩ := by
  simp [headState, RefStore.headOf, reference?, hget]

theorem RefTable.headState_direct {refs : RefTable} {oid : Oid}
    (hget : refs.get? RefName.head = some (.direct oid)) :
    refs.headState = ⟨some oid, none, true⟩ := by
  rw [headState, RefStore.headOf, reference?, hget]
  rfl

theorem RefTable.headState_attached {refs : RefTable} {branch : String}
    (hget : refs.get? RefName.head = some (.toName (RefName.ofBranch branch))) :
    refs.headState = ⟨EventLog.branchTip? refs branch, some branch, false⟩ := by
  rw [headState, RefStore.headOf_attached hget, reference?, hget,
    ← RefStore.branchOf?_ofBranch branch]
  rfl

/-- Where the head points at something that is there, the answers agree with it. -/
theorem RefTable.OnCommits.standsAt {refs : RefTable} {commit : Oid → Prop}
    (h : refs.OnCommits commit) : refs.StandsAt refs.headState := by
  cases hget : refs.get? RefName.head with
  | none =>
    rw [RefTable.headState_absent hget]
    constructor <;> simp [hget]
  | some p =>
    rcases h.head p hget with ⟨oid, rfl, _⟩ | ⟨branch, q, rfl, hq⟩
    · rw [RefTable.headState_direct hget]
      have hresolve : refs.resolve ((Pointer.direct oid).named RefName.head) = .ok oid := rfl
      constructor
      · simp [hget, hresolve]
      all_goals simp [hget, Pointer.direct, Pointer.toName]
    · rw [RefTable.headState_attached hget]
      obtain ⟨oid, rfl, _⟩ := h.branches branch q hq
      have htip : EventLog.branchTip? refs branch = some oid := EventLog.branchTip?_of_direct hq
      obtain ⟨found, hhead, hresolve, _⟩ := h.exists_headOf hget
      obtain rfl : oid = found := by
        rw [RefStore.headOf_attached hget, htip] at hhead
        exact Option.some.inj hhead
      constructor
      · simp [hget, hresolve, htip]
      · simp [hget, Pointer.direct, Pointer.toName]
      · intro other
        rw [hget]
        constructor
        · intro hsame
          rw [Option.some.inj hsame]
        · intro hsame
          have hnames : RefName.ofBranch branch = RefName.ofBranch other := by
            simpa [Pointer.toName] using hsame
          rw [RefName.ofBranch_inj hnames]
      · intro other hsame
        cases hsame
        exact ⟨oid, htip, hq⟩

/-! ## 4. Histories -/

/-- The references of a store point at what is there. -/
structure Tables.RefsIntact (hashed : String → Prop) (t : Tables) : Prop where
  others : ∀ name p, name ≠ RefName.head → t.refs.get? name = some p →
    ∃ oid, p = .direct oid ∧ t.objects.contains oid = true
  head : ∀ p, t.refs.get? RefName.head = some p →
    (∃ oid, p = .direct oid ∧ t.objects.contains oid = true ∧
      (t.objects.isCommit oid = true ∨ Collides hashed oid)) ∨
    ∃ branch oid, p = .toName (RefName.ofBranch branch) ∧
      t.refs.get? (RefName.ofBranch branch) = some (.direct oid)

/-- What a session answers about references agrees with them. -/
structure Session.AnswersRefs (s : Session) : Prop where
  resolves : ∀ r ∈ s.working.refs.references, ∃ oid, s.working.refs.resolve r = .ok oid ∧
    (RefStore.resolve r).runOn s = (.ok oid, s)
  standsAt : ∃ state, headState.runOn s = (.ok state, s) ∧ s.working.refs.StandsAt state

namespace Tables.RefsHold

variable {hashed : String → Prop} {t : Tables}

theorem intact (h : t.RefsHold hashed) : t.RefsIntact hashed where
  others name p hname hget := by
    rcases h.stored name p hget with hdirect | ⟨hhead, _⟩
    · exact hdirect
    · exact absurd hhead hname
  head p hget := by
    rcases h.attached.head p hget with ⟨oid, rfl, hstored⟩ | ⟨branch, q, rfl, hq⟩
    · refine Or.inl ⟨oid, rfl, hstored, ?_⟩
      rcases h.detached oid hget with hcommit | hhashed
      · exact Or.inl hcommit
      · obtain ⟨o, ho⟩ := Option.isSome_iff_exists.mp hstored
        exact (h.rows oid o ho).isCommit_or_collides ho hhashed
    · obtain ⟨oid, rfl, _⟩ := h.attached.branches branch q hq
      exact Or.inr ⟨branch, oid, rfl, hq⟩

theorem answers {s : Session} (hopen : s.IsOpen) (h : s.working.RefsHold hashed) :
    s.AnswersRefs where
  resolves r hr := by
    obtain ⟨oid, hresolve⟩ : ∃ oid, s.working.refs.resolve r = .ok oid := by
      have hget := (RefTable.mem_references_iff _ r).mp hr
      by_cases hname : r.name = RefName.head
      · rw [hname] at hget
        obtain ⟨oid, _, hresolve, _⟩ := h.attached.exists_headOf hget
        refine ⟨oid, ?_⟩
        rw [← hresolve, ← hname]
        rfl
      · obtain ⟨oid, hdirect, _⟩ := h.intact.others r.name _ hname hget
        exact ⟨oid, by rw [RefTable.resolve, hdirect]; rfl⟩
    refine ⟨oid, hresolve, ?_⟩
    rw [RefStore.resolve_runOn hopen, hresolve]
  standsAt := ⟨_, headState_runOn hopen, h.attached.standsAt⟩

end Tables.RefsHold

namespace Repository

/-- The head stays in the committed tables, and what is open has it as well. -/
theorem run_hasHead (config : Config) (hroot : config.pinRoot = Reserved.defaultRoot)
    (earlier later : List (Instant × Call)) (durable : Bool) (start : Instant) :
    let first := Session.start .empty durable start
    let s := (run config earlier first).2
    let s' := (run config (earlier ++ later) first).2
    ∀ t t', t = s.committed ∨ t = s.working → t' = s'.committed ∨ t' = s'.working →
      t.refs.HasHead → t'.refs.HasHead := by
  intro first s s' t t' ht ht' hhead
  have haccepted : Config.AcceptedRoot config.pinRoot := by
    rw [hroot]
    exact Config.acceptedRoot_default
  have hsettled : s.RefsSettled := run_refsSettled haccepted earlier rfl rfl
  have hbefore : s.committed.refs.HasHead := by
    rcases ht with rfl | rfl
    · exact hhead
    · rw [← hsettled]
      exact hhead
  have heffect : ∀ t t', Effect config (fun text =>
      text ∈ hashedTexts config (earlier ++ later) first) t t' →
        True → True ∧ (t.refs.HasHead → t'.refs.HasHead) := by
    intro t t' heffect _
    exact ⟨trivial, heffect.edits.keeps fun _ _ => RefTable.HasHead.of_edit hroot⟩
  have hfirst : first.committed.refs.HasHead → first.working.refs.HasHead := id
  obtain ⟨_, hcommitted, hopen⟩ := run_carries (fun t t' => t.refs.HasHead → t'.refs.HasHead)
    (fun _ => id) (fun _ _ _ h h' => h' ∘ h) earlier later rfl heffect ⟨trivial, trivial⟩ hfirst
  rcases ht' with rfl | rfl
  · exact hcommitted hbefore
  · exact hopen (hcommitted hbefore)

/-- **References stay intact.** After any history of calls on a new repository with the default root
of pins and any main branch, in the committed tables and in those of the open transaction: every
reference but `HEAD` points directly at a stored object, and `HEAD` is attached to a branch that
exists or points directly at a stored commit, where only a collision of digests could put another
object in the place of the commit; a head that was there at any point before is still there; and in
every open session on these tables each reference is resolved and what is answered about the head
agrees with it. A call that completes leaves an open session, or a closed one. -/
theorem run_refsIntact (config : Config) (hroot : config.pinRoot = Reserved.defaultRoot)
    (history : List (Instant × Call)) (durable : Bool) (start : Instant) :
    let first := Session.start .empty durable start
    let hashed := fun text => text ∈ hashedTexts config history first
    let s := (run config history first).2
    (∀ t, t = s.committed ∨ t = s.working →
      t.RefsIntact hashed ∧
      (∀ earlier later, history = earlier ++ later →
        ∀ t₀, t₀ = (run config earlier first).2.committed ∨
          t₀ = (run config earlier first).2.working →
          t₀.refs.get? RefName.head ≠ none → t.refs.get? RefName.head ≠ none) ∧
      ∀ u : Session, u.IsOpen → u.working = t → u.AnswersRefs) ∧
    ∀ earlier now call reply, history = earlier ++ [(now, call)] →
      (perform config call).runOn (at_ (run config earlier first).2 now) = (.ok reply, s) →
      s.closed = false → s.IsOpen := by
  intro first hashed s
  constructor
  · intro t ht
    have hkept : t.RefsHold hashed :=
      run_keeps config history durable start .empty (fun _ _ => Tables.RefsHold.of_edit hroot) ht
    refine ⟨hkept.intact, ?_, ?_⟩
    · rintro earlier later rfl t₀ ht₀
      exact run_hasHead config hroot earlier later durable start t₀ t ht₀ ht
    · rintro u hopen rfl
      exact hkept.answers hopen
  · intro earlier now call reply _ hrun
    exact isOpen_of_perform_ok hrun

open CommitLine

/-- The theorem at a line of two commits, of which the first is hidden: the session is open, and the
head is on the main branch, at the second one. -/
theorem run_refsIntact_hidden :
    let s := (run {} hiddenHistory fresh).2
    ({} : Config).pinRoot = Reserved.defaultRoot ∧ s.IsOpen ∧
      ∃ state, headState.runOn s = (.ok state, s) ∧ state.branch = some "main" ∧
        state.oid = some secondId := by
  intro s
  have hs : s = Session.start (hiddenTables {}) false (second 2) := run_hiddenHistory admits_default
  obtain ⟨hintact, hopens⟩ := run_refsIntact {} rfl hiddenHistory false default
  have hlast : (perform {} (.hide firstId)).runOn (at_ (run {} lineHistory fresh).2 (second 2)) =
      (.ok .done, s) := by
    rw [run_lineHistory admits_default, at_start, perform_third admits_default, hs]
  have hclosed : s.closed = false := by
    rw [hs]
    rfl
  have hopen : s.IsOpen := hopens lineHistory (second 2) (.hide firstId) _ rfl hlast hclosed
  obtain ⟨_, _, hanswers⟩ := hintact s.working (Or.inr rfl)
  obtain ⟨state, hrun, hstands⟩ := (hanswers s hopen rfl).standsAt
  obtain ⟨_, _, _, hhead, hmain⟩ := lineTables_default
  rw [hs, start_working, (hiddenTables_frame {}).1] at hstands
  have hbranch : state.branch = some "main" := (hstands.branch "main").mpr hhead
  obtain ⟨oid, hoid, htip⟩ := hstands.tip "main" hbranch
  cases hmain.symm.trans htip
  exact ⟨rfl, hopen, state, hrun, hbranch, hoid⟩

end Repository
end CommitStore
