import CommitStore.Branch
import CommitStore.Pin
import CommitStore.Proofs.OpenSession
set_option autoImplicit false

/-!
# The actions of the store, as functions of its tables

For each action on references, objects and events this module says what it answers on an open
session and which tables it leaves. The calls of a repository are made of these actions, and nothing
after this module opens an action of the store.

Two actions are simpler than they look. Storing an object whose id is taken and removing a reference
that is not there change nothing, which is what `ObjectStore.insert` and `Tables.removeRef` do in
that case; so both have one equation.
-/

namespace CommitStore

open CommitStore.Action

variable {s : Session}

/-! ## 1. References -/

namespace RefStore

theorem list_runOn (h : s.IsOpen) :
    list.runOn s =
      if s.refusals.listing then
        (.error (.storeAccess "list references" none (.stated "injected failure")), s)
      else (.ok s.working.refs.references, s) := by
  unfold list
  rw [runOn_bind, runOn_refusals]
  dsimp only
  split
  · rw [runOn_bind, runOn_throw]
  · exact runOn_accessing_read h _ _ _

theorem stalls_list (h : ¬ s.IsOpen) : Stalls list s := by
  by_cases hlisting : s.refusals.listing = true
  · refine ⟨.storeAccess "list references" none (.stated "injected failure"), s, ?_, rfl,
      Or.inl rfl, rfl⟩
    rw [list, runOn_bind, runOn_refusals]
    dsimp only
    rw [if_pos hlisting, runOn_bind, runOn_throw]
  · refine Stalls.of_runOn ?_ ((stalls_read h (·.refs.references)).accessing "list references" none)
    rw [list, runOn_bind, runOn_refusals]
    dsimp only
    rw [if_neg hlisting]

theorem get?_runOn (h : s.IsOpen) (name : RefName) :
    (get? name).runOn s = (.ok (s.working.refs.reference? name), s) :=
  runOn_accessing_read h _ _ _

theorem branch?_runOn (h : s.IsOpen) (branch : String) :
    (branch? branch).runOn s = (.ok (EventLog.branchTip? s.working.refs branch), s) := by
  unfold branch?
  rw [runOn_bind, get?_runOn h, RefTable.reference?, EventLog.branchTip?]
  cases s.working.refs.get? (RefName.ofBranch branch) <;> rfl

theorem head_runOn (h : s.IsOpen) : head.runOn s = (.ok (headOf s.working.refs), s) :=
  runOn_accessing_read h _ _ _

theorem currentBranch_runOn (h : s.IsOpen) :
    currentBranch.runOn s =
      (.ok ((s.working.refs.reference? RefName.head).bind fun r => r.symbolic.bind branchOf?),
        s) := by
  unfold currentBranch
  rw [runOn_bind, get?_runOn h]
  rfl

theorem isDetached_runOn (h : s.IsOpen) :
    isDetached.runOn s =
      (.ok ((s.working.refs.reference? RefName.head).any fun r => r.symbolic.isNone), s) :=
  runOn_bind_of_ok (get?_runOn h _) _

theorem peel_runOn (h : s.IsOpen) (oid : Oid) :
    (peel oid).runOn s =
      match s.working.objects.peel oid with
      | .commit commit => (.ok (some commit), s)
      | .noCommit | .endless => (.ok none, s)
      | .missing missing => (.error (.objectNotFound missing), s) := by
  unfold peel
  rw [runOn_bind, runOn_accessing_read h]
  dsimp only
  cases s.working.objects.peel oid <;> rfl

theorem resolve_runOn (h : s.IsOpen) (r : Reference) :
    (resolve r).runOn s =
      match s.working.refs.resolve r with
      | .ok oid => (.ok oid, s)
      | .error fault => (.error (.unresolved r.name (.chain fault)), s) := by
  obtain ⟨⟨target, symbolic⟩, name⟩ := r
  -- Only a symbolic reference reads the table; what the others stand for does not depend on it.
  rcases target with _ | oid
  · rcases symbolic with _ | next
    · rfl
    · rw [resolve, runOn_bind_of_ok (runOn_accessing_read h _ _ _)]
      dsimp only
      cases s.working.refs.resolve ⟨⟨none, some next⟩, name⟩ <;> rfl
  · rfl

theorem acceptsName_runOn (name : RefName) (s : Session) :
    (acceptsName name).runOn s = (.ok (!s.refusals.names && RefName.isValid name), s) := rfl

theorem write_runOn (h : s.IsOpen) (name : RefName) (oid : Oid) (message : Option String) :
    (write name oid message).runOn s =
      (.ok (), s.onTables (s.working.writeDirect name oid message s.now)) := by
  unfold write
  rw [runOn_bind, runOn_now]
  dsimp only
  rw [runOn_bind, runOn_read h]
  exact runOn_update h _

theorem setBranch_runOn (h : s.IsOpen) (branch : String) (oid : Oid) (message : String) :
    (setBranch branch oid message).runOn s =
      (.ok (), s.onTables
        (s.working.writeDirect (RefName.ofBranch branch) oid (some message) s.now)) :=
  runOn_accessing_eq_ok_iff.mpr (write_runOn h _ _ _)

theorem detachHead_runOn (h : s.IsOpen) (oid : Oid) :
    (detachHead oid).runOn s =
      (.ok (), s.onTables (s.working.writeDirect RefName.head oid
        (some ("checkout: moving to " ++ oid)) s.now)) :=
  runOn_accessing_eq_ok_iff.mpr (write_runOn h _ _ _)

theorem put_runOn (h : s.IsOpen) (name : RefName) (oid : Oid) (message : String) :
    (put name oid message).runOn s =
      match RefName.fault? name with
      | some fault => (.error (.invalidReferenceName name (.name fault)), s)
      | none =>
        if s.working.objects.contains oid then
          (.ok (), s.onTables (s.working.writeDirect name oid (some message) s.now))
        else (.error (.objectNotFound oid), s) := by
  unfold put
  cases RefName.fault? name with
  | some fault => rfl
  | none =>
    dsimp only
    rw [runOn_accessing, runOn_bind, runOn_read h]
    dsimp only
    by_cases hstored : s.working.objects.contains oid = true
    · rw [if_pos hstored, if_pos hstored, write_runOn h]
    · rw [if_neg hstored, if_neg hstored, runOn_throw]

theorem remove_runOn (h : s.IsOpen) (name : RefName) (message : Option String) :
    (remove name message).runOn s =
      (.ok (), s.onTables (s.working.removeRef name message s.now)) := by
  unfold remove
  rw [runOn_accessing_eq_ok_iff, runOn_bind, runOn_now]
  dsimp only
  rw [runOn_bind, runOn_read h]
  dsimp only
  split
  · exact runOn_update h _
  · next hnot =>
    -- What is not there is removed by leaving the tables as they are.
    have hnone : s.working.refs.get? name = none := by
      simpa [NameMap.contains] using hnot
    rw [Tables.removeRef, hnone]
    rfl

theorem delete_runOn (h : s.IsOpen) (name : RefName) :
    (delete name).runOn s =
      if name ∈ s.refusals.deletions then
        (.error (.storeAccess "delete reference" (some name) (.stated "injected failure")), s)
      else (.ok (), s.onTables (s.working.removeRef name none s.now)) := by
  unfold delete
  rw [runOn_bind, runOn_refusals]
  dsimp only
  split
  · rw [runOn_bind, runOn_throw]
  · exact remove_runOn h name none

theorem writeSymbolic_runOn (h : s.IsOpen) (name symbolic : RefName) :
    (writeSymbolic name symbolic).runOn s =
      (.ok (), s.onTables (s.working.writeSymbolic name symbolic)) := by
  unfold writeSymbolic
  rw [runOn_accessing_eq_ok_iff, runOn_bind, runOn_read h]
  exact runOn_update h _

theorem attachHead_runOn (h : s.IsOpen) (branch : String) :
    (attachHead branch).runOn s =
      (.ok (), s.onTables (s.working.writeSymbolic RefName.head (RefName.ofBranch branch))) :=
  writeSymbolic_runOn h _ _

theorem updateHead_runOn (h : s.IsOpen) (defaultBranch : String) (oid : Oid) (message : String) :
    (updateHead defaultBranch oid message).runOn s =
      (.ok (), s.onTables (moveHead s.working defaultBranch oid message s.now)) := by
  unfold updateHead
  rw [runOn_accessing_eq_ok_iff, runOn_bind, runOn_now]
  dsimp only
  rw [runOn_bind, runOn_read h]
  exact runOn_update h _

theorem moveHead_objects (t : Tables) (defaultBranch : String) (oid : Oid)
    (message : String) (now : Instant) :
    (moveHead t defaultBranch oid message now).objects = t.objects := by
  unfold moveHead
  cases t.refs.get? RefName.head <;> rfl

end RefStore

/-! ## 2. Actions on references that only look -/

namespace RefStore

theorem looks_list : Looks list := by
  intro s
  rw [list, runOn_bind_of_ok (runOn_refusals s)]
  split
  · rfl
  · exact (looks_read _).accessing _ _ s

theorem looks_get? (name : RefName) : Looks (get? name) := (looks_read _).accessing _ _

theorem looks_branch? (branch : String) : Looks (branch? branch) :=
  (looks_get? _).bind fun _ => looks_pure _

theorem looks_head : Looks head := (looks_read _).accessing _ _

theorem looks_branches : Looks branches := (looks_read _).accessing _ _

theorem looks_resolve (r : Reference) : Looks (resolve r) := by
  unfold resolve
  split
  · refine ((looks_read _).accessing _ _).bind fun refs => ?_
    dsimp only
    cases refs.resolve r
    · exact looks_throw _
    · exact looks_pure _
  · refine (looks_pure _).bind fun refs => ?_
    dsimp only
    cases refs.resolve r
    · exact looks_throw _
    · exact looks_pure _

theorem looks_peel (oid : Oid) : Looks (peel oid) := by
  refine ((looks_read _).accessing _ _).bind fun objects => ?_
  cases objects.peel oid with
  | commit | noCommit | endless => exact looks_pure _
  | missing => exact looks_throw _

end RefStore

/-! ## 3. Pins -/

/-- Why a pin is refused before its object is looked up, if it is; `accepted` is what the store says
of the name. -/
def Pin.refusal? (accepted : Bool) (root : String) (oid : Oid) : Option Reason :=
  let name := Reserved.pinName root oid
  if Reserved.isReserved root name then
    match RefName.fault? name with
    | some fault => some (.name fault)
    | none => if accepted then none else some .rejected
  else some .notReserved

/-- Pinning with any check of names: what the check lets through is checked once more before the
reference is written, so a fault of the name is found either way. -/
theorem Pin.markChecked_runOn {accepts : RefName → Action Bool} {root : String} {oid : Oid}
    {accepted : Bool} (hasks : (accepts (Reserved.pinName root oid)).runOn s = (.ok accepted, s))
    (message : String) :
    let name := Reserved.pinName root oid
    (Pin.markChecked accepts root oid message).runOn s =
      match Pin.refusal? accepted root oid with
      | some reason => (.error (.invalidReferenceName name reason), s)
      | none => (RefStore.put name oid message >>= fun _ => pure name).runOn s := by
  intro name
  rw [Pin.markChecked, Pin.refusal?]
  by_cases hreserved : Reserved.isReserved root name = true
  · rw [if_pos hreserved, if_pos hreserved]
    dsimp only
    rw [runOn_bind_of_ok hasks]
    cases hfault : RefName.fault? name with
    | some fault =>
      cases accepted with
      | false => rfl
      | true =>
        dsimp only
        rw [RefStore.put, hfault]
        rfl
    | none => cases accepted <;> rfl
  · rw [if_neg hreserved, if_neg hreserved]
    rfl

/-- Pinning under a root: the name has to be reserved and accepted, and the object stored. -/
theorem Pin.mark_runOn (h : s.IsOpen) (root : String) (oid : Oid) (message : String) :
    let name := Reserved.pinName root oid
    (Pin.mark root oid message).runOn s =
      if Reserved.isReserved root name then
        if !s.refusals.names && RefName.isValid name then
          if s.working.objects.contains oid then
            (.ok name, s.onTables (s.working.writeDirect name oid (some message) s.now))
          else (.error (.objectNotFound oid), s)
        else
          (.error (.invalidReferenceName name
            (((RefName.fault? name).map Reason.name).getD .rejected)), s)
      else (.error (.invalidReferenceName name .notReserved), s) := by
  intro name
  rw [Pin.mark, Pin.markChecked_runOn (RefStore.acceptsName_runOn name s), Pin.refusal?]
  by_cases hreserved : Reserved.isReserved root name = true
  · rw [if_pos hreserved, if_pos hreserved]
    cases hfault : RefName.fault? name with
    | some fault =>
      have hvalid : RefName.isValid name = false := by rw [RefName.isValid, hfault]; rfl
      rw [hvalid, Bool.and_false]
      rfl
    | none =>
      have hvalid : RefName.isValid name = true := by rw [RefName.isValid, hfault]; rfl
      rw [hvalid, Bool.and_true]
      cases s.refusals.names with
      | true => rfl
      | false =>
        have hput := RefStore.put_runOn h name oid message
        rw [hfault] at hput
        show (RefStore.put name oid message >>= fun _ => pure name).runOn s = _
        rw [runOn_bind, hput]
        show _ = if s.working.objects.contains oid then _ else _
        cases s.working.objects.contains oid <;> rfl
  · rw [if_neg hreserved, if_neg hreserved]

/-! ## 4. Objects -/

theorem ObjectStore.get?_insert (s : ObjectStore) (o : StoredObject) (oid : Oid) :
    (s.insert o).get? oid = (s.get? oid).or (if o.oid = oid then some o else none) := by
  unfold insert
  split
  · by_cases hoid : o.oid = oid <;> simp [get?, List.find?_append, hoid]
  · next hstored =>
    by_cases hoid : o.oid = oid
    · rw [hoid] at hstored
      obtain ⟨old, hold⟩ := Option.ne_none_iff_exists'.mp hstored
      rw [hold]
      rfl
    · simp [hoid]

theorem ObjectStore.contains_insert_iff (s : ObjectStore) (o : StoredObject) (oid : Oid) :
    (s.insert o).contains oid = true ↔ s.contains oid = true ∨ o.oid = oid := by
  rw [contains, contains, get?_insert]
  cases s.get? oid <;> simp

theorem ObjectStore.contains_insert (s : ObjectStore) (o : StoredObject) :
    (s.insert o).contains o.oid = true :=
  (s.contains_insert_iff o o.oid).mpr (Or.inr rfl)

/-- The tables with an object; an id that is taken keeps its object. -/
def Tables.withObject (t : Tables) (o : StoredObject) : Tables :=
  { t with objects := t.objects.insert o }

/-- The tables with further parents of a commit. -/
def Tables.withParents (t : Tables) (commit : Oid) (parents : List Oid) : Tables :=
  { t with objects := t.objects.link commit parents }

namespace ObjectRows

theorem contains_runOn (h : s.IsOpen) (oid : Oid) :
    (contains oid).runOn s = (.ok (s.working.objects.contains oid), s) := by
  unfold contains ObjectRows.get?
  rw [runOn_bind, runOn_read h]
  rfl

theorem save_runOn (h : s.IsOpen) (o : StoredObject) :
    (save o).runOn s =
      if s.working.objects.contains o.oid || s.working.objects.admits o then
        (.ok (), s.onTables (s.working.withObject o))
      else (.error (.database .integrity), s.failed) := by
  unfold save
  rw [runOn_bind, contains_runOn h]
  dsimp only
  by_cases hstored : s.working.objects.contains o.oid = true
  · -- An id that is taken keeps its object.
    have hsome : ¬ s.working.objects.get? o.oid = none := by
      intro hnone
      rw [ObjectStore.contains, hnone] at hstored
      cases hstored
    rw [if_pos hstored, if_pos (by rw [hstored]; rfl), Tables.withObject, ObjectStore.insert,
      dif_neg hsome]
    rfl
  · rw [if_neg hstored, runOn_change h]
    simp only [Bool.not_eq_true] at hstored
    rw [hstored, Bool.false_or]
    cases s.working.objects.admits o <;> rfl

theorem addParents_runOn (h : s.IsOpen) (commit : Oid) (parents : List Oid)
    (hparents : parents ≠ []) :
    (addParents commit parents).runOn s =
      if s.working.objects.admitsLinks commit parents then
        (.ok (), s.onTables (s.working.withParents commit parents))
      else (.error (.database .integrity), s.failed) := by
  unfold addParents
  rw [if_neg (by simpa using hparents), runOn_change h]
  cases s.working.objects.admitsLinks commit parents <;> rfl

theorem looks_lookup (start : String) : Looks (lookup start) := by
  unfold lookup
  split
  · exact looks_throw _
  · refine (looks_read _).bind fun found => ?_
    cases found with
    | tooShort | tooLong | ambiguous => exact looks_throw _
    | none | unique => exact looks_pure _

end ObjectRows

/-! ## 5. Events -/

namespace EventLog

/-- A branch that points at an object has it as its tip. -/
theorem branchTip?_of_direct {refs : RefTable} {branch : String} {oid : Oid}
    (h : refs.get? (RefName.ofBranch branch) = some (.direct oid)) :
    branchTip? refs branch = some oid := by
  rw [branchTip?, h]
  rfl

theorem newTransaction_runOn (h : s.IsOpen) (message : Option String) :
    (newTransaction message).runOn s =
      (.ok (s.working.addTransaction message s.now).1,
        s.onTables (s.working.addTransaction message s.now).2) := by
  unfold newTransaction
  rw [runOn_bind, runOn_now]
  exact runOn_change h _

/-- An event of a transaction that exists is recorded. -/
theorem add_runOn (h : s.IsOpen) (kind : EventKind) (transaction : Int) (subject : EventSubject)
    (htransaction : s.working.hasTransaction transaction = true) :
    (add kind transaction subject).runOn s =
      (.ok (s.working.addEvent kind.text transaction subject s.now).1,
        s.onTables (s.working.addEvent kind.text transaction subject s.now).2) := by
  unfold add addRow
  rw [runOn_bind, runOn_now]
  dsimp only
  rw [runOn_changeUnless h, htransaction]
  rfl

theorem replay_runOn (h : s.IsOpen) :
    replay.runOn s =
      match replayRows s.working.events with
      | .ok r => (.ok r, s)
      | .error e => (.error e, s) := by
  unfold replay
  rw [runOn_bind, runOn_read h]
  dsimp only
  cases replayRows s.working.events <;> rfl

theorem visible_runOn (h : s.IsOpen) (mainBranch : String) :
    (visible mainBranch).runOn s =
      match replayRows s.working.events with
      | .ok r =>
        let answer := computeVisible s.working (rootsOf s.working mainBranch r.active)
        (.ok answer.1, s.onTables answer.2)
      | .error e => (.error e, s) := by
  unfold visible
  rw [runOn_bind, replay_runOn h]
  cases replayRows s.working.events with
  | error e => rfl
  | ok r => exact runOn_change h _

end EventLog
end CommitStore
