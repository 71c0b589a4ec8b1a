import CommitStore.Proofs.FailedSweeps
import CommitStore.Proofs.ReferenceIntegrity
import CommitStore.Proofs.ReplayedEvents
set_option autoImplicit false

/-!
# Checking out

A checkout moves the head and nothing else. To a branch it attaches the head; anything else it
resolves to a commit first, and puts the head there directly. Either way the head is written over as
a whole, so it never points two ways, and going back to the branch it was attached to writes what
stood there before (`checkout_back`).

That the head then stands at what was answered takes more than the code of the checkout. A branch
could be a symbolic reference, which is attached to but leads on, and looked for in vain by its
direct target. In the references that calls lead to there is none, and the head is never attached to
a branch that is not there (`RefTable.OnCommits`).
-/

namespace CommitStore

open CommitStore.Action

/-! ## 1. Branches that point directly -/

namespace RefTable.OnCommits

variable {refs : RefTable} {commit : Oid → Prop} {branch : String}

/-- The tip of a branch is what the branch points at. -/
theorem branchTip?_eq_some_iff (h : refs.OnCommits commit) {oid : Oid} :
    EventLog.branchTip? refs branch = some oid ↔
      refs.get? (RefName.ofBranch branch) = some (.direct oid) := by
  rw [EventLog.branchTip?]
  constructor
  · intro htip
    obtain ⟨p, hget, htarget⟩ := Option.bind_eq_some_iff.mp htip
    obtain ⟨direct, rfl, _⟩ := h.branches branch p hget
    cases htarget
    exact hget
  · intro hget
    rw [hget]
    rfl

/-- Only a branch that is not there has no tip. -/
theorem branchTip?_eq_none_iff (h : refs.OnCommits commit) :
    EventLog.branchTip? refs branch = none ↔ refs.get? (RefName.ofBranch branch) = none := by
  rw [EventLog.branchTip?]
  cases hget : refs.get? (RefName.ofBranch branch) with
  | none => exact iff_of_true rfl rfl
  | some p =>
    obtain ⟨direct, rfl, _⟩ := h.branches branch p hget
    exact iff_of_false (Option.some_ne_none direct) (Option.some_ne_none _)

/-- The branch that the head is attached to points at an object. -/
theorem exists_attached (h : refs.OnCommits commit)
    (hhead : refs.get? RefName.head = some (.toName (RefName.ofBranch branch))) :
    ∃ tip, refs.get? (RefName.ofBranch branch) = some (.direct tip) := by
  rcases h.head _ hhead with ⟨direct, hdirect, _⟩ | ⟨other, p, hname, hget⟩
  · cases hdirect
  · have hsame : RefName.ofBranch branch = RefName.ofBranch other := by
      simpa [Pointer.toName] using hname
    rw [← hsame] at hget
    obtain ⟨tip, rfl, _⟩ := h.branches branch p hget
    exact ⟨tip, hget⟩

end RefTable.OnCommits

namespace Repository

variable {s s' : Session} {target : String} {oid : Oid}

/-! ## 2. When a checkout returns -/

/-- A checkout that cannot read the references fails right away. -/
theorem checkout_closed (h : ¬ s.IsOpen) (target : String) :
    ∃ e, (checkout target).runOn s = (.error e, s) := by
  obtain ⟨e, hrun⟩ := (stalls_branch? h target).error_of_looks (RefStore.looks_branch? target)
  exact ⟨e, runOn_bind_of_error hrun _⟩

/-- The full name of a reference stands for the commit that the reference leads to. -/
theorem resolveCommit_of_reference (h : s.IsOpen) {name : RefName} {p : Pointer} {commit : Oid}
    (hbranch : EventLog.branchTip? s.working.refs name = none)
    (hget : s.working.refs.get? name = some p)
    (hresolve : s.working.refs.resolve (p.named name) = .ok oid)
    (hpeels : s.working.objects.PeelsTo oid commit) :
    (resolveCommit name).runOn s = (.ok commit, s) := by
  have hreference : s.working.refs.reference? name = some (p.named name) := by
    rw [RefTable.reference?, hget]
    rfl
  have hobject : (resolveObject name).runOn s = (.ok oid, s) := by
    rw [resolveObject, runOn_bind_of_ok (RefStore.branch?_runOn h name), hbranch]
    dsimp only
    rw [runOn_bind_of_ok (RefStore.get?_runOn h name), hreference]
    dsimp only
    rw [RefStore.resolve_runOn h, hresolve]
  have hpeel : (RefStore.peel oid).runOn s = (.ok (some commit), s) := by
    rw [RefStore.peel_runOn h, (ObjectStore.peel_eq_commit_iff _ oid commit).mpr hpeels]
  rw [resolveCommit, runOn_bind_of_ok hobject, runOn_bind_of_ok hpeel]
  rfl

/-- A checkout returns if its target is a branch, or else resolves to a commit. -/
theorem checkout_returns_iff :
    (∃ oid s', (checkout target).runOn s = (.ok oid, s')) ↔
      s.IsOpen ∧ ((∃ oid, EventLog.branchTip? s.working.refs target = some oid) ∨
        ∃ oid, (resolveCommit target).runOn s = (.ok oid, s)) := by
  by_cases hopen : s.IsOpen
  · rw [checkout_runOn hopen, and_iff_right hopen]
    cases EventLog.branchTip? s.working.refs target with
    | some oid => exact iff_of_true ⟨oid, _, rfl⟩ (Or.inl ⟨oid, rfl⟩)
    | none =>
      rcases hrun : (checkoutCommit target).runOn s with ⟨e | oid, s₁⟩
      · refine iff_of_false ?_ ?_
        · rintro ⟨_, _, h⟩
          cases h
        · rintro (⟨oid, h⟩ | ⟨oid, hresolve⟩)
          · cases h
          · cases (checkoutCommit_runOn_eq_ok_iff.mpr hresolve).symm.trans hrun
      · obtain rfl := (looks_checkoutCommit target).eq_of_runOn hrun
        exact iff_of_true ⟨oid, _, rfl⟩ (Or.inr ⟨oid, checkoutCommit_runOn_eq_ok_iff.mp hrun⟩)
  · obtain ⟨e, hrun⟩ := checkout_closed hopen target
    refine iff_of_false ?_ fun h => hopen h.1
    rintro ⟨oid, s', h⟩
    cases hrun.symm.trans h

/-- A checkout that fails changes nothing, whatever the session. -/
theorem checkout_error_same {e : Error} (hrun : (checkout target).runOn s = (.error e, s')) :
    s' = s := by
  by_cases hopen : s.IsOpen
  · exact checkout_error hopen hrun
  · obtain ⟨e', hfails⟩ := checkout_closed hopen target
    cases hfails.symm.trans hrun
    rfl

/-! ## 3. What a checkout changes -/

/-- The head is attached to the branch of a name, which is at an object. -/
structure StandsOn (branch : String) (oid : Oid) (s : Session) : Prop where
  head : s.working.refs.get? RefName.head = some (.toName (RefName.ofBranch branch))
  state : headState.runOn s = (.ok ⟨some oid, some branch, false⟩, s)

/-- The head is at an object, and on no branch. -/
structure StandsOff (oid : Oid) (s : Session) : Prop where
  head : s.working.refs.get? RefName.head = some (.direct oid)
  state : headState.runOn s = (.ok ⟨some oid, none, true⟩, s)

/-- What a checkout of a target leaves that has answered an id. -/
structure ChecksOut (target : String) (oid : Oid) (s s' : Session) : Prop where
  isOpen : s'.IsOpen
  head : RefStore.head.runOn s' = (.ok (some oid), s')
  others : ∀ name, name ≠ RefName.head → s'.working.refs.get? name = s.working.refs.get? name
  objects : s'.working.objects = s.working.objects
  log : s'.working.events = s.working.events ∧ s'.working.transactions = s.working.transactions
  saved : s'.committed = s'.working
  stands :
    s.working.refs.get? (RefName.ofBranch target) = some (.direct oid) ∧ StandsOn target oid s' ∨
    s.working.refs.get? (RefName.ofBranch target) = none ∧ StandsOff oid s' ∧
      s.working.objects.isCommit oid = true

/-- Attached to a branch that is there, the head is where the branch is. -/
theorem checksOut_branch (hopen : s.IsOpen)
    (hbranch : s.working.refs.get? (RefName.ofBranch target) = some (.direct oid)) :
    ChecksOut target oid s ((s.onTables
      (s.working.writeSymbolic RefName.head (RefName.ofBranch target))).committing) := by
  let t := s.working.writeSymbolic RefName.head (RefName.ofBranch target)
  have hopen' : ((s.onTables t).committing).IsOpen := hopen
  have hget (name : RefName) := s.working.refs.get?_insert RefName.head
    (.toName (RefName.ofBranch target)) name
  have hhead : t.refs.get? RefName.head = some (.toName (RefName.ofBranch target)) :=
    (hget _).trans (if_pos rfl)
  have htip : EventLog.branchTip? t.refs target = some oid := by
    have hsame : t.refs.get? (RefName.ofBranch target) = some (.direct oid) :=
      ((hget _).trans (if_neg (RefName.head_ne_ofBranch target).symm)).trans hbranch
    exact EventLog.branchTip?_of_direct hsame
  exact {
    isOpen := hopen'
    head := by
      rw [RefStore.head_runOn hopen']
      exact congrArg (fun found => (Except.ok found, _)) ((RefStore.headOf_attached hhead).trans htip)
    others := fun name hname => (hget name).trans (if_neg hname)
    objects := rfl
    log := ⟨rfl, rfl⟩
    saved := rfl
    stands := by
      refine Or.inl ⟨hbranch, hhead, ?_⟩
      rw [headState_runOn hopen']
      have hstate := RefTable.headState_attached hhead
      rw [htip] at hstate
      exact congrArg (fun state => (Except.ok state, _)) hstate }

/-- Put at a commit, the head is there and on no branch. -/
theorem checksOut_commit (hopen : s.IsOpen)
    (hbranch : s.working.refs.get? (RefName.ofBranch target) = none)
    (hcommit : s.working.objects.isCommit oid = true) (message : Option String) :
    ChecksOut target oid s ((s.onTables
      (s.working.writeDirect RefName.head oid message s.now)).committing) := by
  let t := s.working.writeDirect RefName.head oid message s.now
  have hopen' : ((s.onTables t).committing).IsOpen := hopen
  have hget (name : RefName) := s.working.refs.get?_insert RefName.head (.direct oid) name
  have hhead : t.refs.get? RefName.head = some (.direct oid) := (hget _).trans (if_pos rfl)
  have hstate : t.refs.headState = ⟨some oid, none, true⟩ := RefTable.headState_direct hhead
  exact {
    isOpen := hopen'
    head := by
      rw [RefStore.head_runOn hopen']
      exact congrArg (fun state => (Except.ok state.oid, _)) hstate
    others := fun name hname => (hget name).trans (if_neg hname)
    objects := rfl
    log := ⟨rfl, rfl⟩
    saved := rfl
    stands := by
      refine Or.inr ⟨hbranch, ⟨hhead, ?_⟩, hcommit⟩
      rw [headState_runOn hopen']
      exact congrArg (fun state => (Except.ok state, _)) hstate }

/-- **A checkout moves the head and nothing else**, if branches point directly at something. -/
theorem checksOut_of_ok {commit : Oid → Prop} (hrefs : s.working.refs.OnCommits commit)
    (hrun : (checkout target).runOn s = (.ok oid, s')) : ChecksOut target oid s s' := by
  have hopen : s.IsOpen := (checkout_returns_iff.mp ⟨oid, s', hrun⟩).1
  rcases checkout_cases hopen target with ⟨found, htip, hdone⟩ | ⟨found, htip, hcommit, hdone⟩ |
    ⟨e, hfailed⟩
  · cases hdone.symm.trans hrun
    exact checksOut_branch hopen (hrefs.branchTip?_eq_some_iff.mp htip)
  · cases hdone.symm.trans hrun
    exact checksOut_commit hopen (hrefs.branchTip?_eq_none_iff.mp htip) hcommit _
  · cases hfailed.symm.trans hrun

/-! ## 4. There and back -/

/-- When only the head is elsewhere, a checkout of the branch that it was attached to brings all
references back. -/
theorem checkout_back {commit : Oid → Prop} {refs : RefTable} (hrefs : refs.OnCommits commit)
    (hopen : s.IsOpen)
    (hothers : ∀ name, name ≠ RefName.head → s.working.refs.get? name = refs.get? name)
    {branch : String}
    (hhead : refs.get? RefName.head = some (.toName (RefName.ofBranch branch))) :
    ∃ tip s', (checkout branch).runOn s = (.ok tip, s') ∧ s'.working.refs = refs ∧
      s'.committed.refs = refs := by
  obtain ⟨tip, hget⟩ := hrefs.exists_attached hhead
  have htip : EventLog.branchTip? s.working.refs branch = some tip :=
    EventLog.branchTip?_of_direct ((hothers _ (RefName.head_ne_ofBranch branch).symm).trans hget)
  have hback : s.working.refs.insert RefName.head (.toName (RefName.ofBranch branch)) = refs := by
    refine NameMap.ext_get? fun name => ?_
    rw [NameMap.get?_insert]
    split
    · next hname => rw [hname, hhead]
    · next hname => exact hothers name hname
  refine ⟨tip, (s.onTables
    (s.working.writeSymbolic RefName.head (RefName.ofBranch branch))).committing, ?_, hback, hback⟩
  rw [checkout_runOn hopen, htip]

/-- **What a checkout does.** After any history of calls on a new repository with the default root of
pins and any main branch, at any time and for every target. A checkout returns exactly if the session
can be read and the target is a branch or resolves to a commit. When it returns an id, the head is
that id, nothing but the head has changed among the references, no object, event or transaction has
been added, and what is open is saved. Either a branch of that name was there, and the head is
attached to it, or there was none, and the head is at a stored commit and on no branch. If the head
was attached to a branch before, checking that branch out at any time later returns and brings all
references back. A checkout that fails changes nothing. -/
theorem run_checksOut (config : Config) (hroot : config.pinRoot = Reserved.defaultRoot)
    (history : List (Instant × Call)) (durable : Bool) (start now : Instant) (target : String) :
    let s := at_ (run config history (Session.start .empty durable start)).2 now
    ((∃ oid s', (checkout target).runOn s = (.ok oid, s')) ↔
      s.IsOpen ∧ ((∃ oid, s.working.refs.get? (RefName.ofBranch target) = some (.direct oid)) ∨
        ∃ oid, (resolveCommit target).runOn s = (.ok oid, s))) ∧
    (∀ oid s', (checkout target).runOn s = (.ok oid, s') →
      ChecksOut target oid s s' ∧
      ∀ branch, s.working.refs.get? RefName.head = some (.toName (RefName.ofBranch branch)) →
        ∀ later, ∃ tip s'', (checkout branch).runOn (at_ s' later) = (.ok tip, s'') ∧
          s''.working.refs = s.working.refs ∧ s''.committed.refs = s.working.refs) ∧
    ∀ e s', (checkout target).runOn s = (.error e, s') → s' = s := by
  intro s
  have hkept : s.working.RefsHold fun text =>
      text ∈ hashedTexts config history (Session.start .empty durable start) :=
    run_keeps config history durable start .empty (fun _ _ => Tables.RefsHold.of_edit hroot)
      (Or.inr rfl)
  have hrefs := hkept.attached
  refine ⟨?_, ?_, fun e s' => checkout_error_same⟩
  · rw [checkout_returns_iff]
    simp only [hrefs.branchTip?_eq_some_iff]
  · intro oid s' hrun
    have hdone : ChecksOut target oid s s' := checksOut_of_ok hrefs hrun
    refine ⟨hdone, fun branch hhead later => ?_⟩
    have hopen : (at_ s' later).IsOpen := hdone.isOpen
    exact checkout_back hrefs hopen hdone.others hhead

open CommitLine

/-- The theorem at a line of two commits: a checkout of the head itself takes it off its branch, and
a checkout of the branch brings it back. -/
theorem run_checksOut_line :
    let s := at_ (run {} lineHistory fresh).2 (second 2)
    ({} : Config).pinRoot = Reserved.defaultRoot ∧
      ∃ oid s' tip s'', (checkout "HEAD").runOn s = (.ok oid, s') ∧ StandsOff oid s' ∧
        (checkout "main").runOn (at_ s' (second 3)) = (.ok tip, s'') ∧
        s''.working.refs = s.working.refs := by
  intro s
  have hs : s = Session.start (lineTables {}) false (second 2) :=
    congrArg (at_ · (second 2)) (run_lineHistory admits_default)
  have hopen : s.IsOpen := hs ▸ isOpen_start _ _ _
  obtain ⟨_, _, hcommit, hhead, hmain⟩ := lineTables_default
  have hnone : (lineTables {}).refs.get? (RefName.ofBranch "HEAD") = none := by decide
  rw [← start_working (lineTables {}) false (second 2), ← hs] at hcommit hhead hmain hnone
  have htip : EventLog.branchTip? s.working.refs "HEAD" = none := by
    rw [EventLog.branchTip?, hnone]
    rfl
  have hchain : s.working.refs.resolve
      ((Pointer.toName (RefName.ofBranch "main")).named "HEAD") = .ok secondId := by
    rw [RefTable.resolve, RefTable.maxLinks, RefTable.follow]
    dsimp only [Pointer.named, Pointer.toName]
    rw [hmain]
    rfl
  have hpeels : s.working.objects.PeelsTo secondId secondId :=
    ObjectStore.peelsTo_of_isCommit hcommit
  have hresolves : (resolveCommit "HEAD").runOn s = (.ok secondId, s) :=
    resolveCommit_of_reference hopen htip hhead hchain hpeels
  obtain ⟨hreturns, hdone, _⟩ :=
    run_checksOut {} rfl lineHistory false default (second 2) "HEAD"
  obtain ⟨oid, s', hrun⟩ := hreturns.mpr ⟨hopen, Or.inr ⟨_, hresolves⟩⟩
  obtain ⟨hchecks, hback⟩ := hdone oid s' hrun
  obtain ⟨tip, s'', hmoves, hrefs, _⟩ := hback "main" hhead (second 3)
  refine ⟨rfl, oid, s', tip, s'', hrun, ?_, hmoves, hrefs⟩
  rcases hchecks.stands with ⟨hbranch, _⟩ | ⟨_, hoff, _⟩
  · cases hnone.symm.trans hbranch
  · exact hoff

end Repository
end CommitStore
