import CommitStore.Proofs.FailedSweeps
import CommitStore.Proofs.WrittenReferences
set_option autoImplicit false

/-!
# Creating a branch

Creating a branch within the open transaction changes two references at most: the branch, which then
points directly at where it starts, and the head, if it is to be attached (`RefTable.Gains`). If it
fails it changes nothing at all.

The test for a branch of that name asks for the object that the branch points at. A branch that
points at another reference has none, so it passes for absent, and the write replaces it. On the
tables that writes lead to there is no other way to lose a branch: `create_gains` says exactly when
a branch is made, when it is refused as existing, and when one is overwritten.
-/

namespace CommitStore

open CommitStore.Action
open CommitStore.Repository

/-! ## 1. What a new branch changes -/

/-- The second table of references is the first one with a direct branch, and with the head attached
to it if that is asked for. -/
structure RefTable.Gains (refs refs' : RefTable) (name : String) (oid : Oid) (attaches : Bool) :
    Prop where
  branch : refs'.get? (RefName.ofBranch name) = some (.direct oid)
  head : refs'.get? RefName.head =
    if attaches then some (.toName (RefName.ofBranch name)) else refs.get? RefName.head
  others : ∀ other, other ≠ RefName.ofBranch name → other ≠ RefName.head →
    refs'.get? other = refs.get? other

theorem Repository.gains_branched (t : Tables) (name : String) (oid : Oid) (attaches : Bool)
    (now : Instant) : t.refs.Gains (branched t name oid attaches now).refs name oid attaches := by
  have hne := RefName.head_ne_ofBranch name
  have hwritten (other : RefName) :
      NameMap.get? (t.refs.insert (RefName.ofBranch name) (.direct oid)) other =
        if other = RefName.ofBranch name then some (.direct oid) else t.refs.get? other :=
    NameMap.get?_insert _ _ _ _
  cases attaches with
  | false =>
    refine ⟨(hwritten _).trans (if_pos rfl), (hwritten _).trans (if_neg hne), ?_⟩
    exact fun other hbranch _ => (hwritten other).trans (if_neg hbranch)
  | true =>
    have hattached (other : RefName) :
        (branched t name oid true now).refs.get? other =
          if other = RefName.head then some (.toName (RefName.ofBranch name))
          else NameMap.get? (t.refs.insert (RefName.ofBranch name) (.direct oid)) other :=
      NameMap.get?_insert _ _ _ _
    refine ⟨?_, (hattached _).trans (if_pos rfl), ?_⟩
    · rw [hattached, if_neg hne.symm, hwritten, if_pos rfl]
    · intro other hbranch hhead
      rw [hattached, if_neg hhead, hwritten, if_neg hbranch]

/-! ## 2. What the test for a branch finds -/

namespace RefTable.PointsOneWay

variable {refs : RefTable}

/-- A branch has a tip exactly if it is direct. -/
theorem branchTip?_iff (h : refs.PointsOneWay) (name : String) (oid : Oid) :
    EventLog.branchTip? refs name = some oid ↔
      refs.get? (RefName.ofBranch name) = some (.direct oid) := by
  rw [EventLog.branchTip?]
  cases hget : refs.get? (RefName.ofBranch name) with
  | none => simp
  | some p =>
    rcases h.either _ p hget with ⟨found, rfl⟩ | ⟨target, rfl⟩
    · simp [Pointer.direct]
    · simp [Pointer.direct, Pointer.toName]

theorem toName_of_not_direct (h : refs.PointsOneWay) {name : RefName}
    (hnot : ∀ oid, refs.get? name ≠ some (.direct oid)) (hsome : refs.get? name ≠ none) :
    ∃ target, refs.get? name = some (.toName target) := by
  obtain ⟨p, hget⟩ := Option.ne_none_iff_exists'.mp hsome
  rcases h.either _ p hget with ⟨oid, rfl⟩ | ⟨target, rfl⟩
  · exact absurd hget (hnot oid)
  · exact ⟨target, hget⟩

end RefTable.PointsOneWay

/-! ## 3. How creating a branch ends -/

namespace Branch

variable {s : Session}

/-- Without an open session, or without a name for a branch, nothing is made, and nothing is undone
either. -/
theorem create_refused {name : String} (h : ¬ (s.IsOpen ∧ RefName.branchFault? name = none))
    (source : Option Oid) (attaches : Bool) :
    ∃ e, (create name source attaches).runOn s = (.error e, s) := by
  rw [create]
  cases hname : RefName.branchFault? name with
  | some fault => exact ⟨_, rfl⟩
  | none =>
    have hclosed : ¬ s.IsOpen := fun hopen => h ⟨hopen, hname⟩
    obtain ⟨e, htip⟩ := (stalls_branch? hclosed name).error_of_looks (RefStore.looks_branch? name)
    exact ⟨e, runOn_bind_of_error htip _⟩

theorem branchStart_ne_branchExists (t : Tables) (source : Option Oid) (name : String) :
    branchStart t source ≠ .error (.branchExists name) := by
  cases source with
  | none =>
    rw [branchStart]
    cases RefStore.headOf t.refs <;> simp
  | some oid =>
    rw [branchStart]
    split <;> simp

/-- The ways in which creating a branch ends on an open session with a name for a branch. -/
theorem create_cases (h : s.IsOpen) (hone : s.working.refs.PointsOneWay) {name : String}
    (hname : RefName.branchFault? name = none) (source : Option Oid) (attaches : Bool) :
    (∃ old, s.working.refs.get? (RefName.ofBranch name) = some (.direct old)) ∧
        (create name source attaches).runOn s = (.error (.branchExists name), s) ∨
      (∀ old, s.working.refs.get? (RefName.ofBranch name) ≠ some (.direct old)) ∧
        (create name source attaches).runOn s =
          match branchStart s.working source with
          | .error e => (.error e, s)
          | .ok oid => (.ok oid, s.onTables (branched s.working name oid attaches s.now)) := by
  rw [create_runOn h, hname]
  dsimp only
  cases htip : EventLog.branchTip? s.working.refs name with
  | some old => exact Or.inl ⟨⟨old, (hone.branchTip?_iff name old).mp htip⟩, rfl⟩
  | none =>
    refine Or.inr ⟨fun old hdirect => ?_, rfl⟩
    cases htip.symm.trans ((hone.branchTip?_iff name old).mpr hdirect)

/-- A branch is made exactly if the session is open, the name is one for a branch, no direct branch
has it, and there is an object to start at. -/
theorem create_returns_iff (hone : s.working.refs.PointsOneWay) (name : String)
    (source : Option Oid) (attaches : Bool) (oid : Oid) :
    ((create name source attaches).runOn s).1 = .ok oid ↔
      s.IsOpen ∧ RefName.branchFault? name = none ∧
        (∀ old, s.working.refs.get? (RefName.ofBranch name) ≠ some (.direct old)) ∧
        branchStart s.working source = .ok oid := by
  by_cases h : s.IsOpen ∧ RefName.branchFault? name = none
  · obtain ⟨hopen, hname⟩ := h
    rcases create_cases hopen hone hname source attaches with ⟨⟨old, hold⟩, hrun⟩ | ⟨hnot, hrun⟩
    · rw [hrun]
      exact iff_of_false (fun hok => nomatch hok) fun ⟨_, _, hnot, _⟩ => hnot old hold
    · rw [hrun, and_iff_right hopen, and_iff_right hname, and_iff_right hnot]
      cases branchStart s.working source <;> rfl
  · obtain ⟨e, hrun⟩ := create_refused h source attaches
    rw [hrun]
    exact iff_of_false (fun hok => nomatch hok) fun ⟨hopen, hname, _⟩ => h ⟨hopen, hname⟩

/-- Creating a branch fails and changes nothing, or makes the branch. -/
theorem create_effect (hone : s.working.refs.PointsOneWay) (name : String) (source : Option Oid)
    (attaches : Bool) :
    (∃ e, (create name source attaches).runOn s = (.error e, s)) ∨
      ∃ oid s', (create name source attaches).runOn s = (.ok oid, s') ∧
        s.working.refs.Gains s'.working.refs name oid attaches := by
  by_cases h : s.IsOpen ∧ RefName.branchFault? name = none
  · rcases create_cases h.1 hone h.2 source attaches with ⟨_, hrun⟩ | ⟨_, hrun⟩
    · exact Or.inl ⟨_, hrun⟩
    · cases hstart : branchStart s.working source with
      | error e =>
        rw [hstart] at hrun
        exact Or.inl ⟨e, hrun⟩
      | ok oid =>
        rw [hstart] at hrun
        exact Or.inr ⟨oid, _, hrun, gains_branched s.working name oid attaches s.now⟩
  · exact Or.inl (create_refused h source attaches)

theorem create_branchExists_iff (h : s.IsOpen) (hone : s.working.refs.PointsOneWay) {name : String}
    (hname : RefName.branchFault? name = none) (source : Option Oid) (attaches : Bool) :
    ((create name source attaches).runOn s).1 = .error (.branchExists name) ↔
      ∃ old, s.working.refs.get? (RefName.ofBranch name) = some (.direct old) := by
  rcases create_cases h hone hname source attaches with ⟨hold, hrun⟩ | ⟨hnot, hrun⟩
  · rw [hrun]
    exact iff_of_true rfl hold
  · refine iff_of_false ?_ fun ⟨old, hold⟩ => hnot old hold
    rw [hrun]
    cases hstart : branchStart s.working source with
    | error e =>
      intro hexists
      rw [Except.error.inj hexists] at hstart
      exact branchStart_ne_branchExists _ _ _ hstart
    | ok oid => exact fun hexists => nomatch hexists

/-- **Creating a branch overwrites no branch but a symbolic one.** On every table that writes lead
to: a failure leaves the session as it was. If an id is returned, then the branch is direct at
it, the head is attached to the branch exactly if that was asked for, and every other reference is
what it was; and no reference had the name of the branch, or a symbolic one had, which is
overwritten. With a name for a branch an open session answers that the branch exists exactly if a
direct reference has its name, and a symbolic one is no obstacle: the branch is then made wherever
it can start. -/
theorem create_gains {mainBranch : String} {s : Session}
    (hwritten : RefTable.Written mainBranch s.working.refs) (name : String) (source : Option Oid)
    (attaches : Bool) :
    let before := s.working.refs.get? (RefName.ofBranch name)
    let run := (create name source attaches).runOn s
    (∀ e, run.1 = .error e → run.2 = s) ∧
    (∀ oid, run.1 = .ok oid → s.working.refs.Gains run.2.working.refs name oid attaches ∧
      (before = none ∨ ∃ target, before = some (.toName target))) ∧
    (s.IsOpen → RefName.branchFault? name = none →
      (run.1 = .error (.branchExists name) ↔ ∃ old, before = some (.direct old)) ∧
      ∀ oid, branchStart s.working source = .ok oid →
        (before = none ∨ ∃ target, before = some (.toName target)) → run.1 = .ok oid) := by
  intro before run
  have hone : s.working.refs.PointsOneWay := hwritten.pointsOneWay
  have hreturns := create_returns_iff hone name source attaches
  refine ⟨fun e herror => ?_, fun oid hok => ⟨?_, ?_⟩, fun hopen hname => ⟨?_, ?_⟩⟩
  · rcases create_effect hone name source attaches with ⟨e', hrun⟩ | ⟨oid, s', hrun, _⟩
    · exact congrArg Prod.snd hrun
    · cases herror.symm.trans (congrArg Prod.fst hrun)
  · rcases create_effect hone name source attaches with ⟨e, hrun⟩ | ⟨made, s', hrun, hgains⟩
    · cases hok.symm.trans (congrArg Prod.fst hrun)
    · cases hok.symm.trans (congrArg Prod.fst hrun)
      rw [show run.2 = s' from congrArg Prod.snd hrun]
      exact hgains
  · obtain ⟨_, _, hnot, _⟩ := (hreturns oid).mp hok
    by_cases hnone : before = none
    · exact Or.inl hnone
    · exact Or.inr (hone.toName_of_not_direct hnot hnone)
  · exact create_branchExists_iff hopen hone hname source attaches
  · intro oid hstart hbefore
    refine (hreturns oid).mpr ⟨hopen, hname, fun old hold => ?_, hstart⟩
    rcases hbefore with hnone | ⟨target, htarget⟩
    · cases hnone.symm.trans hold
    · cases htarget.symm.trans hold

/-- The theorem at a branch that is made beside the first one, with the head attached to it. -/
theorem create_gains_beside :
    let s := RefStore.writeAll "main" [.moveHead "a1" "first"] (Session.start .empty false default)
    let run := (create "dev" none true).runOn s
    RefTable.Written "main" s.working.refs ∧ run.1 = .ok "a1" ∧
      run.2.working.refs.get? (RefName.ofBranch "dev") = some (.direct "a1") ∧
      run.2.working.refs.get? RefName.head = some (.toName (RefName.ofBranch "dev")) ∧
      run.2.working.refs.get? (RefName.ofBranch "main") = some (.direct "a1") := by
  intro s run
  have hwritten : RefTable.Written "main" s.working.refs :=
    RefStore.written_writeAll "main" _ .empty .empty
  obtain ⟨_, hmade, hopen⟩ := create_gains hwritten "dev" none true
  have hok : run.1 = .ok "a1" :=
    (hopen (by decide) (by decide +kernel)).2 "a1" rfl (Or.inl rfl)
  obtain ⟨hbranch, hhead, hothers⟩ := (hmade "a1" hok).1
  exact ⟨hwritten, hok, hbranch, hhead, hothers _ (by decide) (by decide)⟩

/-- A branch that points at another one is listed, and overwritten by a new branch of its name. -/
theorem create_overwrites :
    let s := RefStore.writeAll "main" [.moveHead "a1" "first",
      .pointAt (RefName.ofBranch "b") (RefName.ofBranch "main")] (Session.start .empty false default)
    let run := (create "b" none false).runOn s
    RefTable.Written "main" s.working.refs ∧
      s.working.refs.get? (RefName.ofBranch "b") = some (.toName (RefName.ofBranch "main")) ∧
      (∃ names, RefStore.branches.runOn s = (.ok names, s) ∧ "b" ∈ names) ∧
      run.1 = .ok "a1" ∧
      run.2.working.refs.get? (RefName.ofBranch "b") = some (.direct "a1") := by
  intro s run
  have hopen : s.IsOpen := by decide
  have hbefore : s.working.refs.get? (RefName.ofBranch "b") =
      some (.toName (RefName.ofBranch "main")) := rfl
  have hname : RefName.branchFault? "b" = none := by decide +kernel
  have hrun : run = (.ok "a1", s.onTables (branched s.working "b" "a1" false s.now)) := by
    show (create "b" none false).runOn s = _
    rw [create_runOn hopen, hname]
    rfl
  refine ⟨RefStore.written_writeAll "main" _ .empty .empty, hbefore, ?_,
    congrArg Prod.fst hrun, ?_⟩
  · exact ⟨_, runOn_accessing_read hopen _ _ _, RefStore.mem_branchNames hbefore⟩
  · rw [hrun]
    rfl

end Branch
end CommitStore
