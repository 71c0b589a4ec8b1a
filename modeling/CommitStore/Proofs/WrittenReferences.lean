import CommitStore.Proofs.BranchesOnCommits
set_option autoImplicit false

/-!
# Tables that writes lead to

The reference store has eight writes. On an open session each of them is an edit of the tables or is
refused and changes nothing (`Write.perform_admitted`, `Write.perform_refused`); on any other one it
fails. `RefTable.Written` collects the tables of references that writes lead to, in any order and
whatever becomes of the rest of the store between them.

Writes do not look at what stands under the name that they write, and most of them do not look at
the name or the target either. Still not every table is written: each reference points one way,
directly or at another reference, and the empty name, which the head takes for none, is never
written directly (`RefTable.PointsOneWay`).

That is enough to compare the two readers of the head. One follows a single link, the other one a
whole chain. What the first one finds the second one finds as well; the second one finds more
exactly if the head is attached to a reference that is itself symbolic, and the chain ends.
-/

namespace CommitStore

open CommitStore.Action

/-! ## 1. Writes -/

/-- A write of the reference store. -/
inductive RefStore.Write
  | put (name : RefName) (oid : Oid) (message : String)
  | delete (name : RefName)
  | remove (name : RefName) (message : Option String)
  | pointAt (name target : RefName)
  | moveHead (oid : Oid) (message : String)
  | setBranch (branch : String) (oid : Oid) (message : String)
  | attachHead (branch : String)
  | detachHead (oid : Oid)
  deriving DecidableEq, Repr

namespace RefStore.Write

/-- The action of a write. -/
def perform (mainBranch : String) : Write → Action Unit
  | .put name oid message => RefStore.put name oid message
  | .delete name => RefStore.delete name
  | .remove name message => RefStore.remove name message
  | .pointAt name target => RefStore.writeSymbolic name target
  | .moveHead oid message => RefStore.updateHead mainBranch oid message
  | .setBranch branch oid message => RefStore.setBranch branch oid message
  | .attachHead branch => RefStore.attachHead branch
  | .detachHead oid => RefStore.detachHead oid

/-- What a write makes of the tables. -/
def edited (mainBranch : String) (now : Instant) (t : Tables) : Write → Tables
  | .put name oid message => t.writeDirect name oid (some message) now
  | .delete name => t.removeRef name none now
  | .remove name message => t.removeRef name message now
  | .pointAt name target => t.writeSymbolic name target
  | .moveHead oid message => RefStore.moveHead t mainBranch oid message now
  | .setBranch branch oid message => t.writeDirect (RefName.ofBranch branch) oid (some message) now
  | .attachHead branch => t.writeSymbolic RefName.head (RefName.ofBranch branch)
  | .detachHead oid =>
    t.writeDirect RefName.head oid (some ("checkout: moving to " ++ oid)) now

/-- What an open session checks before a write. Only two writes check anything. -/
def Admitted (s : Session) : Write → Prop
  | .put name oid _ => RefName.fault? name = none ∧ s.working.objects.contains oid = true
  | .delete name => name ∉ s.refusals.deletions
  | _ => True

variable {s : Session}

theorem perform_admitted (h : s.IsOpen) (mainBranch : String) {w : Write} (hw : w.Admitted s) :
    (w.perform mainBranch).runOn s = (.ok (), s.onTables (w.edited mainBranch s.now s.working)) := by
  cases w with
  | put name oid message =>
    obtain ⟨hname, hstored⟩ := hw
    rw [perform, RefStore.put_runOn h, hname]
    exact if_pos hstored
  | delete name =>
    rw [perform, RefStore.delete_runOn h]
    exact if_neg hw
  | remove name message => exact RefStore.remove_runOn h name message
  | pointAt name target => exact RefStore.writeSymbolic_runOn h name target
  | moveHead oid message => exact RefStore.updateHead_runOn h mainBranch oid message
  | setBranch branch oid message => exact RefStore.setBranch_runOn h branch oid message
  | attachHead branch => exact RefStore.attachHead_runOn h branch
  | detachHead oid => exact RefStore.detachHead_runOn h oid

theorem perform_refused (h : s.IsOpen) (mainBranch : String) {w : Write} (hw : ¬ w.Admitted s) :
    ∃ e, (w.perform mainBranch).runOn s = (.error e, s) := by
  cases w with
  | put name oid message =>
    rw [perform, RefStore.put_runOn h]
    cases hname : RefName.fault? name with
    | some fault => exact ⟨_, rfl⟩
    | none => exact ⟨_, if_neg fun hstored => hw ⟨hname, hstored⟩⟩
  | delete name =>
    rw [perform, RefStore.delete_runOn h]
    exact ⟨_, if_pos (Decidable.not_not.mp hw)⟩
  | remove | pointAt | moveHead | setBranch | attachHead | detachHead => exact absurd trivial hw

/-- No write gets past its first look at the tables of a session that is not open. -/
theorem stalls_perform (h : ¬ s.IsOpen) (mainBranch : String) (w : Write) :
    Stalls (w.perform mainBranch) s := by
  have hread (look : Tables → RefTable) : Stalls (Action.read look) s := stalls_read h look
  have hwrite (name : RefName) (oid : Oid) (message : Option String) :
      Stalls (RefStore.write name oid message) s :=
    Stalls.bind_of_ok (runOn_now s) ((hread (·.refs)).bind _)
  have hremove (name : RefName) (message : Option String) : Stalls (RefStore.remove name message) s :=
    (Stalls.bind_of_ok (runOn_now s) ((stalls_read h _).bind _)).accessing _ _
  have hpointAt (name target : RefName) : Stalls (RefStore.writeSymbolic name target) s :=
    ((hread (·.refs)).bind _).accessing _ _
  cases w with
  | put name oid message =>
    rw [perform, RefStore.put]
    cases RefName.fault? name with
    | some fault => exact (stalls_throw _ s).bind _
    | none => exact ((stalls_read h _).bind _).accessing _ _
  | delete name =>
    rw [perform, RefStore.delete]
    refine Stalls.bind_of_ok (runOn_refusals s) ?_
    split
    · exact (stalls_throw _ s).bind _
    · exact hremove name none
  | remove name message => exact hremove name message
  | pointAt name target => exact hpointAt name target
  | moveHead oid message =>
    exact (Stalls.bind_of_ok (runOn_now s) ((hread (·.refs)).bind _)).accessing _ _
  | setBranch branch oid message => exact (hwrite _ oid _).accessing _ _
  | attachHead branch => exact hpointAt _ _
  | detachHead oid => exact (hwrite _ oid _).accessing _ _

/-- **A write edits the tables, or it fails** and leaves the open transaction as it was or undone. -/
theorem perform_cases (mainBranch : String) (w : Write) (s : Session) :
    let s' := ((w.perform mainBranch).runOn s).2
    s'.committed = s.committed ∧
      (w.Admitted s ∧ s'.working = w.edited mainBranch s.now s.working ∨
        s'.working = s.working ∨ s'.working = s.committed) := by
  intro s'
  by_cases hopen : s.IsOpen
  · by_cases hw : w.Admitted s
    · rw [show s' = _ from congrArg Prod.snd (perform_admitted hopen mainBranch hw)]
      exact ⟨rfl, Or.inl ⟨hw, rfl⟩⟩
    · obtain ⟨e, hrun⟩ := perform_refused hopen mainBranch hw
      rw [show s' = s from congrArg Prod.snd hrun]
      exact ⟨rfl, Or.inr (Or.inl rfl)⟩
  · obtain ⟨e, s₁, hrun, hcommitted, hworking, _⟩ := stalls_perform hopen mainBranch w
    rw [show s' = s₁ from congrArg Prod.snd hrun]
    exact ⟨hcommitted, Or.inr hworking⟩

end RefStore.Write

/-! ## 2. Written tables -/

/-- Writes lead to a table of references. Each of them starts on any session in which no references
but written ones are open or committed. -/
inductive RefTable.Written (mainBranch : String) : RefTable → Prop
  | empty : Written mainBranch .empty
  | write (w : RefStore.Write) (s : Session) (hworking : Written mainBranch s.working.refs)
      (hcommitted : Written mainBranch s.committed.refs) :
      Written mainBranch ((w.perform mainBranch).runOn s).2.working.refs

/-- The session after some writes, of which any may have failed. -/
def RefStore.writeAll (mainBranch : String) (writes : List Write) (s : Session) : Session :=
  writes.foldl (fun s w => ((w.perform mainBranch).runOn s).2) s

theorem RefStore.written_writeAll (mainBranch : String) (writes : List Write) {s : Session}
    (hworking : RefTable.Written mainBranch s.working.refs)
    (hcommitted : RefTable.Written mainBranch s.committed.refs) :
    RefTable.Written mainBranch (writeAll mainBranch writes s).working.refs := by
  induction writes generalizing s with
  | nil => exact hworking
  | cons w rest ih =>
    refine ih (.write w s hworking hcommitted) ?_
    rw [(w.perform_cases mainBranch s).1]
    exact hcommitted

/-- Each reference points directly at an object or at another reference, and the empty name is not
the name of a direct one. -/
structure RefTable.PointsOneWay (refs : RefTable) : Prop where
  either : ∀ name p, refs.get? name = some p →
    (∃ oid, p = .direct oid) ∨ ∃ target, p = .toName target
  unnamed : ∀ oid, refs.get? "" ≠ some (.direct oid)

namespace RefTable.PointsOneWay

variable {refs : RefTable} {t : Tables}

theorem empty : PointsOneWay .empty where
  either name p hget := by cases hget
  unnamed oid hget := by cases hget

theorem insert_direct (h : refs.PointsOneWay) {name : RefName} (hname : name ≠ "") (oid : Oid) :
    PointsOneWay (refs.insert name (.direct oid)) where
  either other p hget := by
    rw [NameMap.get?_insert] at hget
    split at hget
    · cases hget
      exact Or.inl ⟨oid, rfl⟩
    · exact h.either other p hget
  unnamed other hget := by
    rw [NameMap.get?_insert, if_neg hname.symm] at hget
    exact h.unnamed other hget

theorem insert_toName (h : refs.PointsOneWay) (name target : RefName) :
    PointsOneWay (refs.insert name (.toName target)) where
  either other p hget := by
    rw [NameMap.get?_insert] at hget
    split at hget
    · cases hget
      exact Or.inr ⟨target, rfl⟩
    · exact h.either other p hget
  unnamed oid hget := by
    rw [NameMap.get?_insert] at hget
    split at hget
    · cases hget
    · exact h.unnamed oid hget

theorem removeRef (h : t.refs.PointsOneWay) (name : RefName) (message : Option String)
    (now : Instant) : PointsOneWay (t.removeRef name message now).refs where
  either other p hget := h.either other p (Tables.removeRef_le hget)
  unnamed oid hget := h.unnamed oid (Tables.removeRef_le hget)

theorem moveHead (h : t.refs.PointsOneWay) (mainBranch : String) (oid : Oid) (message : String)
    (now : Instant) : PointsOneWay (RefStore.moveHead t mainBranch oid message now).refs := by
  unfold RefStore.moveHead
  cases t.refs.get? RefName.head with
  | none => exact (h.insert_toName _ _).insert_direct (RefName.ofBranch_ne_empty mainBranch) oid
  | some p =>
    refine h.insert_direct ?_ oid
    -- The head is never attached to the empty name.
    unfold RefStore.attachedTo?
    split
    · decide
    · decide
    · next name hnot _ => exact hnot

theorem edited (h : t.refs.PointsOneWay) (mainBranch : String) (now : Instant) {w : RefStore.Write}
    (hnamed : ∀ oid message, w ≠ .put "" oid message) :
    PointsOneWay (w.edited mainBranch now t).refs := by
  cases w with
  | put name oid message =>
    refine h.insert_direct ?_ oid
    rintro rfl
    exact hnamed oid message rfl
  | delete name => exact h.removeRef name none now
  | remove name message => exact h.removeRef name message now
  | pointAt name target => exact h.insert_toName name target
  | moveHead oid message => exact h.moveHead mainBranch oid message now
  | setBranch branch oid message => exact h.insert_direct (RefName.ofBranch_ne_empty branch) oid
  | attachHead branch => exact h.insert_toName _ _
  | detachHead oid => exact h.insert_direct (by decide) oid

end RefTable.PointsOneWay

/-- **In a written table each reference points one way.** -/
theorem RefTable.Written.pointsOneWay {mainBranch : String} {refs : RefTable}
    (h : Written mainBranch refs) : refs.PointsOneWay := by
  induction h with
  | empty => exact .empty
  | write w s _ _ hworking hcommitted =>
    rcases (w.perform_cases mainBranch s).2 with ⟨hw, hsame⟩ | hsame | hsame
    · rw [hsame]
      refine hworking.edited mainBranch s.now ?_
      rintro oid message rfl
      cases hw.1
    · rw [hsame]
      exact hworking
    · rw [hsame]
      exact hcommitted

/-! ## 3. The two readers of the head -/

namespace RefStore

variable {refs : RefTable}

/-- A head at the empty name stands for nothing. -/
theorem headOf_toEmpty (hget : refs.get? RefName.head = some (.toName "")) : headOf refs = none := by
  rw [headOf, hget]
  rfl

/-- A head at a reference that leads on stands for nothing. -/
theorem headOf_of_chain {name target : RefName}
    (hget : refs.get? RefName.head = some (.toName name))
    (hnext : refs.get? name = some (.toName target)) : headOf refs = none := by
  by_cases hname : name = ""
  · subst hname
    exact headOf_toEmpty hget
  · rw [headOf_toName hget hname, hnext]
    rfl

end RefStore

theorem RefTable.resolve_toName (refs : RefTable) (name other : RefName) :
    refs.resolve ((Pointer.toName name).named other) =
      match refs.get? name with
      | none => .error (.missing name)
      | some next =>
        if name ∈ [other] then .error .cycle else refs.follow 4 [name, other] next := rfl

namespace RefTable.PointsOneWay

variable {refs : RefTable}

/-- What is found by following one link is found by following all. -/
theorem resolve_of_headOf (h : refs.PointsOneWay) {p : Pointer}
    (hhead : refs.get? RefName.head = some p) {oid : Oid} (hfound : RefStore.headOf refs = some oid) :
    refs.resolve (p.named RefName.head) = .ok oid := by
  rcases h.either _ p hhead with ⟨direct, rfl⟩ | ⟨name, rfl⟩
  · rw [RefStore.headOf, hhead] at hfound
    cases hfound
    rfl
  · by_cases hname : name = ""
    · subst hname
      rw [RefStore.headOf_toEmpty hhead] at hfound
      cases hfound
    · rw [RefStore.headOf_toName hhead hname] at hfound
      obtain ⟨next, hnext, htarget⟩ := Option.bind_eq_some_iff.mp hfound
      rw [RefTable.resolve_toName, hnext]
      rcases h.either _ next hnext with ⟨direct, rfl⟩ | ⟨target, rfl⟩
      · cases htarget
        -- The head is not direct, so the direct reference it leads to is another one.
        have hother : name ∉ [RefName.head] := by
          rw [List.mem_singleton]
          rintro rfl
          cases hhead.symm.trans hnext
        dsimp only
        rw [if_neg hother]
        rfl
      · cases htarget

/-- What is found by following all links is found by following one, unless there are more. -/
theorem headOf_of_resolve (h : refs.PointsOneWay) {p : Pointer}
    (hhead : refs.get? RefName.head = some p) {oid : Oid}
    (hresolve : refs.resolve (p.named RefName.head) = .ok oid)
    (hone : ∀ name target, p = .toName name → refs.get? name ≠ some (.toName target)) :
    RefStore.headOf refs = some oid := by
  rcases h.either _ p hhead with ⟨direct, rfl⟩ | ⟨name, rfl⟩
  · cases hresolve
    rw [RefStore.headOf, hhead]
    rfl
  · rw [RefTable.resolve_toName] at hresolve
    cases hnext : refs.get? name with
    | none =>
      rw [hnext] at hresolve
      cases hresolve
    | some next =>
      rcases h.either _ next hnext with ⟨direct, rfl⟩ | ⟨target, rfl⟩
      · have hname : name ≠ "" := by
          rintro rfl
          exact h.unnamed direct hnext
        rw [hnext] at hresolve
        dsimp only at hresolve
        split at hresolve
        · cases hresolve
        · cases hresolve
          rw [RefStore.headOf_toName hhead hname, hnext]
          rfl
      · exact absurd hnext (hone name target rfl)

end RefTable.PointsOneWay

namespace RefStore

/-- The two readers of the head agree in a session in which a reference is the head. -/
def ReadersAgree (s : Session) (r : Reference) : Prop :=
  (∀ oid, head.runOn s = (.ok (some oid), s) ↔ (resolve r).runOn s = (.ok oid, s)) ∧
  (head.runOn s = (.ok none, s) ↔
    ∃ fault, (resolve r).runOn s = (.error (.unresolved r.name (.chain fault)), s))

/-- **The two readers of the head agree but for longer chains.** On every table that writes lead to,
if there is a head: what the reader that follows one link finds, the head resolves to. The two agree
on what is found and on whether anything is found exactly if it is not the case that the head is
attached to a symbolic reference, and resolves. -/
theorem readersAgree_iff {mainBranch : String} {s : Session} (hopen : s.IsOpen)
    (hwritten : RefTable.Written mainBranch s.working.refs) {p : Pointer}
    (hhead : s.working.refs.get? RefName.head = some p) :
    let r := p.named RefName.head
    (get? RefName.head).runOn s = (.ok (some r), s) ∧
    (∀ oid, head.runOn s = (.ok (some oid), s) → (resolve r).runOn s = (.ok oid, s)) ∧
    (ReadersAgree s r ↔ ¬ ∃ name target oid, p = .toName name ∧
      s.working.refs.get? name = some (.toName target) ∧ (resolve r).runOn s = (.ok oid, s)) := by
  intro r
  have hone : s.working.refs.PointsOneWay := hwritten.pointsOneWay
  have hhead_iff (found : Option Oid) :
      head.runOn s = (.ok found, s) ↔ headOf s.working.refs = found := by
    rw [head_runOn hopen]
    simp
  have hresolve_iff (oid : Oid) :
      (resolve r).runOn s = (.ok oid, s) ↔ s.working.refs.resolve r = .ok oid := by
    rw [resolve_runOn hopen]
    cases s.working.refs.resolve r <;> simp
  have hfault_iff (fault : RefTable.Fault) :
      (resolve r).runOn s = (.error (.unresolved r.name (.chain fault)), s) ↔
        s.working.refs.resolve r = .error fault := by
    rw [resolve_runOn hopen]
    cases s.working.refs.resolve r <;> simp
  refine ⟨?_, ?_, ?_⟩
  · rw [get?_runOn hopen, RefTable.reference?, hhead]
    rfl
  · intro oid
    rw [hhead_iff, hresolve_iff]
    exact hone.resolve_of_headOf hhead
  · simp only [ReadersAgree, hhead_iff, hresolve_iff, hfault_iff]
    constructor
    · rintro ⟨hfound, _⟩ ⟨name, target, oid, rfl, hnext, hresolve⟩
      have hnone := headOf_of_chain hhead hnext
      rw [(hfound oid).mpr hresolve] at hnone
      cases hnone
    · intro hnot
      have hfound (oid : Oid) :
          headOf s.working.refs = some oid ↔ s.working.refs.resolve r = .ok oid := by
        refine ⟨hone.resolve_of_headOf hhead, fun hresolve => ?_⟩
        refine hone.headOf_of_resolve hhead hresolve ?_
        intro name target hp hnext
        exact hnot ⟨name, target, oid, hp, hnext, hresolve⟩
      refine ⟨hfound, ?_⟩
      cases hresolve : s.working.refs.resolve r with
      | ok oid => simp [(hfound oid).mpr hresolve]
      | error fault =>
        have hnone : headOf s.working.refs = none := by
          refine Option.eq_none_iff_forall_ne_some.mpr fun oid hoid => ?_
          cases hresolve.symm.trans ((hfound oid).mp hoid)
        simp [hnone]

/-- The theorem at a head that is attached to the branch that its first move has made. -/
theorem readersAgree_iff_attached :
    let s := writeAll "main" [.moveHead "a1" "first"] (Session.start .empty false default)
    let r := (Pointer.toName (RefName.ofBranch "main")).named RefName.head
    s.IsOpen ∧ RefTable.Written "main" s.working.refs ∧
      s.working.refs.get? RefName.head = some r.toPointer ∧ ReadersAgree s r ∧
      (resolve r).runOn s = (.ok "a1", s) := by
  intro s r
  have hopen : s.IsOpen := by decide
  have hwritten : RefTable.Written "main" s.working.refs := written_writeAll "main" _ .empty .empty
  have hhead : s.working.refs.get? RefName.head = some r.toPointer := rfl
  obtain ⟨_, hresolve, hagree⟩ := readersAgree_iff hopen hwritten hhead
  refine ⟨hopen, hwritten, hhead, hagree.mpr ?_, hresolve "a1" rfl⟩
  rintro ⟨name, target, oid, hname, hnext, _⟩
  cases hname
  -- The branch itself is direct.
  cases (show s.working.refs.get? (RefName.ofBranch "main") = some (.direct "a1") from rfl).symm.trans
    hnext

/-- A head at a branch that points at another branch: one reader finds nothing, and the other one
the commit at the end of the chain. -/
theorem readers_disagree :
    let s := writeAll "main" [.moveHead "a1" "first",
      .pointAt (RefName.ofBranch "dev") (RefName.ofBranch "main"), .attachHead "dev"]
      (Session.start .empty false default)
    let r := (Pointer.toName (RefName.ofBranch "dev")).named RefName.head
    RefTable.Written "main" s.working.refs ∧ (get? RefName.head).runOn s = (.ok (some r), s) ∧
      head.runOn s = (.ok none, s) ∧ (resolve r).runOn s = (.ok "a1", s) := by
  intro s r
  exact ⟨written_writeAll "main" _ .empty .empty, rfl, rfl, rfl⟩

end RefStore
end CommitStore
