import CommitStore.Proofs.ReferenceJournal
import CommitStore.Proofs.WrittenReferences
set_option autoImplicit false

/-!
# Which writes the journal tells of

A write that returns has edited the tables (`Write.perform_eq_ok_iff`), and never touches an earlier
row of the journal. A reference that it writes directly or deletes gets one more row, from the
direct target before to the one after.

A reference that is pointed at another one gets none. That is the whole of what the journal leaves
out: the reference that `pointAt` changes, the head when it is attached, and the head that the first
move of a store without one makes (`Write.Untold`).
-/

namespace CommitStore

open CommitStore.Action

/-! ## 1. Writes that return -/

theorem RefStore.Write.perform_eq_ok_iff {mainBranch : String} {w : Write} {s s' : Session} :
    (w.perform mainBranch).runOn s = (.ok (), s') ↔
      s.IsOpen ∧ w.Admitted s ∧ s' = s.onTables (w.edited mainBranch s.now s.working) := by
  constructor
  · intro h
    by_cases hopen : s.IsOpen
    · by_cases hw : w.Admitted s
      · rw [perform_admitted hopen mainBranch hw] at h
        cases h
        exact ⟨hopen, hw, rfl⟩
      · obtain ⟨e, hrun⟩ := perform_refused hopen mainBranch hw
        cases hrun.symm.trans h
    · obtain ⟨e, s₁, hrun, _⟩ := stalls_perform hopen mainBranch w
      cases hrun.symm.trans h
  · rintro ⟨hopen, hw, rfl⟩
    exact perform_admitted hopen mainBranch hw

/-! ## 2. Edits that are told -/

namespace Tables

/-- A step from one state of the tables to another one adds one row for a name, from its direct
target before to the one after. -/
def Tells (t t' : Tables) (name : RefName) : Prop :=
  ∃ row, t'.journalOf name = t.journalOf name ++ [row] ∧
    row.old = (t.refs.get? name).bind (·.target) ∧ row.new = (t'.refs.get? name).bind (·.target)

theorem not_tells {t t' : Tables} {name : RefName} (h : t'.journalOf name = t.journalOf name) :
    ¬ t.Tells t' name := by
  rintro ⟨row, hrows, _⟩
  rw [h, List.self_eq_append_right] at hrows
  cases hrows

/-- A step keeps the journal and tells of each reference that it changes, but for those of a
class: these it does change, without a row. -/
structure TellsBut (untold : RefName → Prop) (t t' : Tables) : Prop where
  earlier : t.journal <+: t'.journal
  told : ∀ name, t'.refs.get? name ≠ t.refs.get? name → ¬ untold name → t.Tells t' name
  passed : ∀ name, untold name →
    t'.refs.get? name ≠ t.refs.get? name ∧ t'.journalOf name = t.journalOf name

variable {t t' : Tables}

/-- A step with a row for one name, which is the only one that it may change. -/
theorem TellsBut.of_row (row : JournalEntry) (hjournal : t'.journal = t.journal ++ [row])
    (hothers : ∀ other, other ≠ row.ref → t'.refs.get? other = t.refs.get? other)
    (hold : row.old = (t.refs.get? row.ref).bind (·.target))
    (hnew : row.new = (t'.refs.get? row.ref).bind (·.target)) :
    TellsBut (fun _ => False) t t' where
  earlier := hjournal ▸ List.prefix_append _ _
  told name hchanged _ := by
    obtain rfl : name = row.ref := Decidable.not_not.mp (mt (hothers name) hchanged)
    refine ⟨row, ?_, hold, hnew⟩
    rw [journalOf, hjournal, List.filter_append, List.filter_cons_of_pos (by simp)]
    rfl
  passed name huntold := huntold.elim

theorem tellsBut_writeDirect (t : Tables) (name : RefName) (oid : Oid) (message : Option String)
    (now : Instant) : TellsBut (fun _ => False) t (t.writeDirect name oid message now) := by
  have hget := t.refs.get?_insert name (.direct oid)
  refine .of_row ⟨name, _, some oid, message, now⟩ rfl ?_ rfl ?_
  · intro other hother
    exact (hget other).trans (if_neg hother)
  · exact congrArg (·.bind (·.target)) ((hget name).trans (if_pos rfl)).symm

theorem tellsBut_removeRef (t : Tables) (name : RefName) (message : Option String)
    (now : Instant) : TellsBut (fun _ => False) t (t.removeRef name message now) := by
  have hget := t.removeRef_get? name message now
  cases hold : t.refs.get? name with
  | none =>
    -- There is nothing to remove, and nothing changes.
    rw [removeRef, hold]
    exact ⟨List.prefix_rfl, fun _ hchanged => absurd rfl hchanged, fun _ => False.elim⟩
  | some old =>
    refine .of_row ⟨name, old.target, none, message, now⟩ ?_ ?_ ?_ ?_
    · rw [removeRef, hold]
    · intro other hother
      exact (hget other).trans (if_neg hother)
    · exact (congrArg (·.bind (·.target)) hold).symm
    · exact (congrArg (·.bind (·.target)) ((hget name).trans (if_pos rfl))).symm

theorem tellsBut_writeSymbolic (t : Tables) (name target : RefName) :
    TellsBut (fun other => other = name ∧ t.refs.get? name ≠ some (.toName target)) t
      (t.writeSymbolic name target) where
  earlier := List.prefix_rfl
  told other hchanged hnot := by
    have hget := t.refs.get?_insert name (.toName target) other
    by_cases hother : other = name
    · subst hother
      rw [if_pos rfl] at hget
      refine absurd ⟨rfl, fun hsame => hchanged ?_⟩ hnot
      exact hget.trans hsame.symm
    · exact absurd (hget.trans (if_neg hother)) hchanged
  passed other huntold := by
    obtain ⟨rfl, hold⟩ := huntold
    refine ⟨fun hsame => hold ?_, rfl⟩
    rw [← hsame]
    exact (t.refs.get?_insert other (.toName target) other).trans (if_pos rfl)

/-- The first move of a store makes two references, and tells of the branch only. -/
theorem tellsBut_moveHead (t : Tables) (mainBranch : String) (oid : Oid) (message : String)
    (now : Instant) :
    TellsBut (fun name => name = RefName.head ∧ t.refs.get? RefName.head = none) t
      (RefStore.moveHead t mainBranch oid message now) := by
  unfold RefStore.moveHead
  cases hhead : t.refs.get? RefName.head with
  | some p =>
    have htold := t.tellsBut_writeDirect ((RefStore.attachedTo? p).getD RefName.head) oid
      (some message) now
    exact ⟨htold.earlier, fun name hchanged _ => htold.told name hchanged id,
      fun name huntold => absurd huntold.2 (Option.some_ne_none p)⟩
  | none =>
    let branch := RefName.ofBranch mainBranch
    let attached := t.writeSymbolic RefName.head branch
    have hne : RefName.head ≠ branch := RefName.head_ne_ofBranch mainBranch
    have hattached (name : RefName) (hname : name ≠ RefName.head) :
        attached.refs.get? name = t.refs.get? name :=
      (t.refs.get?_insert _ _ name).trans (if_neg hname)
    have htold := attached.tellsBut_writeDirect branch oid (some message) now
    refine ⟨htold.earlier, ?_, ?_⟩
    · intro name hchanged hnot
      have hname : name ≠ RefName.head := fun hname => hnot ⟨hname, rfl⟩
      obtain ⟨row, hrows, hold, hnew⟩ := htold.told name ((hattached name hname).symm ▸ hchanged) id
      exact ⟨row, hrows, hattached name hname ▸ hold, hnew⟩
    · rintro name ⟨rfl, _⟩
      constructor
      · have hget : (attached.writeDirect branch oid (some message) now).refs.get? RefName.head =
            some (.toName branch) := by
          refine (attached.refs.get?_insert _ _ _).trans ((if_neg hne).trans ?_)
          exact (t.refs.get?_insert _ _ _).trans (if_pos rfl)
        rw [hhead]
        exact hget ▸ Option.some_ne_none _
      · show (t.journal ++ [_]).filter _ = _
        rw [List.filter_append, List.filter_cons_of_neg (by simpa using hne.symm)]
        exact List.append_nil _

end Tables

/-! ## 3. Writes that are told -/

namespace RefStore.Write

/-- A write on some tables changes a reference that the journal does not tell of: it points it at
another reference than before. -/
def Untold (t : Tables) (name : RefName) : Write → Prop
  | .pointAt pointed target => name = pointed ∧ t.refs.get? pointed ≠ some (.toName target)
  | .attachHead branch =>
    name = RefName.head ∧ t.refs.get? RefName.head ≠ some (.toName (RefName.ofBranch branch))
  | .moveHead _ _ => name = RefName.head ∧ t.refs.get? RefName.head = none
  | _ => False

/-- **An edit tells of what it changes, but for symbolic references.** -/
theorem tellsBut_edited (mainBranch : String) (now : Instant) (t : Tables) (w : Write) :
    Tables.TellsBut (fun name => w.Untold t name) t (w.edited mainBranch now t) := by
  cases w with
  | put name oid message => exact t.tellsBut_writeDirect name oid _ now
  | delete name => exact t.tellsBut_removeRef name none now
  | remove name message => exact t.tellsBut_removeRef name message now
  | pointAt name target => exact t.tellsBut_writeSymbolic name target
  | moveHead oid message => exact t.tellsBut_moveHead mainBranch oid message now
  | setBranch branch oid message => exact t.tellsBut_writeDirect _ oid _ now
  | attachHead branch => exact t.tellsBut_writeSymbolic _ _
  | detachHead oid => exact t.tellsBut_writeDirect _ oid _ now

/-- **Which writes the journal tells of.** For all tables and every write that returns: the earlier
rows of the journal stay, and a reference that the write changes gets exactly one row, from its
direct target before to the one after, if and only if it is not one that the write points at another
reference. Those the write does change, and they get no row. So a write is told in full exactly if
it leaves nothing untold. -/
theorem perform_journals_iff {mainBranch : String} {w : Write} {s s' : Session}
    (h : (w.perform mainBranch).runOn s = (.ok (), s')) :
    let t := s.working
    let t' := s'.working
    t.journal <+: t'.journal ∧
    (∀ name, t'.refs.get? name ≠ t.refs.get? name → (t.Tells t' name ↔ ¬ w.Untold t name)) ∧
    (∀ name, w.Untold t name →
      t'.refs.get? name ≠ t.refs.get? name ∧ t'.journalOf name = t.journalOf name) ∧
    ((∀ name, t'.refs.get? name ≠ t.refs.get? name → t.Tells t' name) ↔
      ∀ name, ¬ w.Untold t name) := by
  intro t t'
  obtain ⟨_, _, rfl⟩ := perform_eq_ok_iff.mp h
  have hedit : Tables.TellsBut (fun name => w.Untold t name) t t' :=
    tellsBut_edited mainBranch s.now t w
  have hsilent (name : RefName) (huntold : w.Untold t name) : ¬ t.Tells t' name :=
    Tables.not_tells (hedit.passed name huntold).2
  have hiff (name : RefName) (hchanged : t'.refs.get? name ≠ t.refs.get? name) :
      t.Tells t' name ↔ ¬ w.Untold t name :=
    ⟨fun htells huntold => hsilent name huntold htells, hedit.told name hchanged⟩
  refine ⟨hedit.earlier, hiff, hedit.passed, ?_, ?_⟩
  · intro htells name huntold
    exact hsilent name huntold (htells name (hedit.passed name huntold).1)
  · intro hnone name hchanged
    exact hedit.told name hchanged (hnone name)

/-- The theorem at a head that is taken off its branch: the journal tells of that. -/
theorem perform_journals_iff_detached :
    let s := writeAll "main" [.moveHead "a1" "first"] (Session.start .empty false default)
    let w := Write.detachHead "a1"
    let s' := ((w.perform "main").runOn s).2
    (w.perform "main").runOn s = (.ok (), s') ∧
      s'.working.refs.get? RefName.head ≠ s.working.refs.get? RefName.head ∧
      s.working.Tells s'.working RefName.head := by
  intro s w s'
  have hrun : (w.perform "main").runOn s = (.ok (), s') := rfl
  have hchanged : s'.working.refs.get? RefName.head ≠ s.working.refs.get? RefName.head := by decide
  obtain ⟨_, hiff, _⟩ := perform_journals_iff hrun
  exact ⟨hrun, hchanged, (hiff RefName.head hchanged).mpr id⟩

/-- A head that is attached again after a look at a commit: it changes, and no row is added. -/
theorem attachHead_untold :
    let s := writeAll "main" [.moveHead "a1" "first", .detachHead "a1"]
      (Session.start .empty false default)
    let w := Write.attachHead "main"
    let s' := ((w.perform "main").runOn s).2
    (w.perform "main").runOn s = (.ok (), s') ∧
      s.working.refs.get? RefName.head = some (.direct "a1") ∧
      s'.working.refs.get? RefName.head = some (.toName (RefName.ofBranch "main")) ∧
      s'.working.journal = s.working.journal ∧ ¬ s.working.Tells s'.working RefName.head := by
  intro s w s'
  exact ⟨rfl, rfl, rfl, rfl, Tables.not_tells rfl⟩

end RefStore.Write
end CommitStore
