import CommitStore.Proofs.Edits
import CommitStore.Proofs.ObjectGraph
set_option autoImplicit false

/-!
# The journal of a reference

Each row of the journal holds what a reference pointed at directly before and after a change. For a
reference that never points at another one, which is every reference but `HEAD`, the rows of its
name are a chain: the first one comes from nothing, each later one from where the one before it
ended, and the last one ends where the reference is now (`JournalEntry.Follow`).

Writing and removing add a row that begins at the current target, so the chain goes on. Nothing else
changes a reference other than `HEAD`, and nothing else adds a row.
-/

namespace CommitStore

open CommitStore.Repository

/-! ## 1. Chains of changes -/

/-- Rows follow each other from nothing to a current target. -/
structure JournalEntry.Follow (rows : List JournalEntry) (current : Option Oid) : Prop where
  first : ∀ row, rows.head? = some row → row.old = none
  linked : rows.IsChain fun a b => b.old = a.new
  last : rows.getLast?.bind (·.new) = current

theorem JournalEntry.follow_nil : Follow [] none where
  first row hrow := by cases hrow
  linked := List.isChain_nil
  last := rfl

/-- A change from the current target goes on with the chain. -/
theorem JournalEntry.Follow.concat {rows : List JournalEntry} {current : Option Oid}
    (h : Follow rows current) {row : JournalEntry} (hold : row.old = current) :
    Follow (rows ++ [row]) row.new where
  first first hfirst := by
    cases rows with
    | nil =>
      cases hfirst
      rw [hold, ← h.last]
      rfl
    | cons other rest => exact h.first first hfirst
  linked := by
    refine List.isChain_append.mpr ⟨h.linked, List.isChain_singleton row, ?_⟩
    intro last hlast next hnext
    cases hnext
    rw [hold, ← h.last, Option.mem_def.mp hlast]
    rfl
  last := by
    rw [List.getLast?_concat]
    rfl

/-! ## 2. The invariant -/

/-- The rows of a name in the journal. -/
def Tables.journalOf (t : Tables) (name : RefName) : List JournalEntry :=
  t.journal.filter (·.ref == name)

/-- A reference other than the head is direct, and the journal tells how it came to its target. -/
structure Tables.Journalled (t : Tables) (name : RefName) : Prop where
  direct : ∀ p, t.refs.get? name = some p → ∃ oid, p = .direct oid
  follow : JournalEntry.Follow (t.journalOf name) ((t.refs.get? name).bind (·.target))

namespace Tables.Journalled

variable {t t' : Tables} {name : RefName}

theorem empty : Tables.empty.Journalled name where
  direct p hget := by cases hget
  follow := JournalEntry.follow_nil

/-- The rows of a name depend on the journal and the reference only. -/
theorem of_same (h : t.Journalled name) (hjournal : t'.journal = t.journal)
    (hget : t'.refs.get? name = t.refs.get? name) : t'.Journalled name where
  direct := hget ▸ h.direct
  follow := by
    rw [Tables.journalOf, hjournal, hget]
    exact h.follow

/-- A change of another name is told in a row of that name. -/
theorem of_other (h : t.Journalled name) {row : JournalEntry} (hrow : row.ref ≠ name)
    (hjournal : t'.journal = t.journal ++ [row])
    (hget : t'.refs.get? name = t.refs.get? name) : t'.Journalled name where
  direct := hget ▸ h.direct
  follow := by
    have hrows : t'.journalOf name = t.journalOf name := by
      rw [journalOf, hjournal, List.filter_append, List.filter_cons_of_neg (by simpa using hrow)]
      exact List.append_nil _
    rw [hrows, hget]
    exact h.follow

/-- A change of this name is told in a row that begins at the current target. -/
theorem of_own (h : t.Journalled name) {row : JournalEntry} (hrow : row.ref = name)
    (hold : row.old = (t.refs.get? name).bind (·.target))
    (hjournal : t'.journal = t.journal ++ [row])
    (hnew : (t'.refs.get? name).bind (·.target) = row.new)
    (hdirect : ∀ p, t'.refs.get? name = some p → ∃ oid, p = .direct oid) : t'.Journalled name where
  direct := hdirect
  follow := by
    have hrows : t'.journalOf name = t.journalOf name ++ [row] := by
      rw [journalOf, hjournal, List.filter_append, List.filter_cons_of_pos (by simpa using hrow)]
      rfl
    rw [hrows, hnew]
    exact h.follow.concat hold

theorem writeDirect (h : t.Journalled name) (other : RefName) (oid : Oid)
    (message : Option String) (now : Instant) :
    (t.writeDirect other oid message now).Journalled name := by
  have hget := t.refs.get?_insert other (.direct oid) name
  by_cases hname : name = other
  · subst hname
    rw [if_pos rfl] at hget
    refine h.of_own rfl rfl rfl ?_ ?_
    · exact congrArg (·.bind (·.target)) hget
    · intro p hp
      exact ⟨oid, Option.some.inj (hp.symm.trans hget)⟩
  · rw [if_neg hname] at hget
    exact h.of_other (Ne.symm hname) rfl hget

/-- The head may be attached to a branch: no other reference changes. -/
theorem attachHead (h : t.Journalled name) (hname : name ≠ RefName.head) (symbolic : RefName) :
    (t.writeSymbolic RefName.head symbolic).Journalled name := by
  refine h.of_same rfl ?_
  exact (t.refs.get?_insert _ _ _).trans (if_neg hname)

theorem removeRef (h : t.Journalled name) (other : RefName) (message : Option String)
    (now : Instant) : (t.removeRef other message now).Journalled name := by
  have hget := t.removeRef_get? other message now name
  cases hold : t.refs.get? other with
  | none =>
    rw [Tables.removeRef, hold]
    exact h
  | some old =>
    have hjournal : (t.removeRef other message now).journal =
        t.journal ++ [⟨other, old.target, none, message, now⟩] := by
      rw [Tables.removeRef, hold]
    by_cases hname : name = other
    · subst hname
      rw [if_pos rfl] at hget
      refine h.of_own rfl ?_ hjournal ?_ ?_
      · rw [hold]
        rfl
      · rw [hget]
        rfl
      · intro p hp
        rw [hget] at hp
        cases hp
    · rw [if_neg hname] at hget
      exact h.of_other (Ne.symm hname) hjournal hget

/-- **The chain goes on with every edit.** -/
theorem of_edit {config : Config} {hashed : String → Prop} (hname : name ≠ RefName.head)
    (hedit : Edit config hashed t t') (h : t.Journalled name) : t'.Journalled name := by
  cases hedit with
  | store | link | openTransaction | record | remember => exact h.of_same rfl rfl
  | write other oid message now _ _ => exact h.writeDirect other oid message now
  | attach branch _ _ => exact h.attachHead hname _
  | beginHead branch oid message now _ => exact (h.attachHead hname _).writeDirect _ oid message now
  | removeBranch branch message now _ => exact h.removeRef _ message now
  | release other now _ => exact h.removeRef other none now

/-- A reference is absent exactly if its chain ends with nothing. -/
theorem absent_iff (h : t.Journalled name) :
    t.refs.get? name = none ↔ (t.journalOf name).getLast?.bind (·.new) = none := by
  rw [h.follow.last]
  cases hget : t.refs.get? name with
  | none => simp
  | some p =>
    obtain ⟨oid, rfl⟩ := h.direct p hget
    simp [Pointer.direct]

end Tables.Journalled

/-! ## 3. Histories -/

theorem RefStore.journal_runOn {s : Session} (h : s.IsOpen) (name : RefName) :
    (journal name).runOn s = (.ok (s.working.journalOf name), s) :=
  Action.runOn_accessing_read h _ _ _

namespace Repository

/-- **The journal of a reference is a chain.** After any history of calls on a new repository with
any configuration, in the committed tables and in those of the open transaction, and for every name
but `HEAD`: the rows that the journal answers begin at no target, each later one begins where the
one before it ended, and the last one ends at the target that the reference has. The reference is
absent exactly if the last row ends at no target, or there is no row. -/
theorem run_journal (config : Config) (history : List (Instant × Call)) (durable : Bool)
    (start : Instant) (name : RefName) (hname : name ≠ RefName.head) :
    let s := (run config history (Session.start .empty durable start)).2
    ∀ t, t = s.committed ∨ t = s.working → ∃ rows,
      (RefStore.journal name).runOn (Session.start t durable start) =
        (.ok rows, Session.start t durable start) ∧
      (∀ row, rows.head? = some row → row.old = none) ∧
      (rows.IsChain fun a b => b.old = a.new) ∧
      rows.getLast?.bind (·.new) = (t.refs.get? name).bind (·.target) ∧
      (t.refs.get? name = none ↔ rows.getLast?.bind (·.new) = none) := by
  intro s t ht
  have hkept : t.Journalled name :=
    run_keeps config history durable start .empty
      (fun _ _ => Tables.Journalled.of_edit hname) ht
  exact ⟨t.journalOf name, RefStore.journal_runOn ⟨rfl, rfl⟩ name, hkept.follow.first,
    hkept.follow.linked, hkept.follow.last, hkept.absent_iff⟩

open CommitLine

/-- The theorem at a line of two commits: the branch has moved from nothing to the first one, and on
to the second one, where it is. -/
theorem run_journal_line :
    let t := (run {} lineHistory fresh).2.committed
    let name := RefName.ofBranch "main"
    name ≠ RefName.head ∧ ∃ rows,
      (RefStore.journal name).runOn (Session.start t false default) =
        (.ok rows, Session.start t false default) ∧
      rows.map (fun row => (row.old, row.new)) =
        [(none, some firstId), (some firstId, some secondId)] ∧
      (t.refs.get? name).bind (·.target) = some secondId := by
  intro t name
  have ht : t = lineTables {} := congrArg Session.committed (run_lineHistory admits_default)
  have hname : name ≠ RefName.head := (RefName.head_ne_ofBranch "main").symm
  obtain ⟨rows, hrun, _, _, hlast, _⟩ :=
    run_journal {} lineHistory false default name hname t (Or.inl rfl)
  have hrows : rows.map (fun row => (row.old, row.new)) =
      [(none, some firstId), (some firstId, some secondId)] := by
    cases hrun.symm.trans (RefStore.journal_runOn (isOpen_start t false default) name)
    rw [ht]
    decide
  refine ⟨hname, rows, hrun, hrows, ?_⟩
  rw [← hlast]
  have hpairs := congrArg (fun pairs => pairs.getLast?.bind (·.2)) hrows
  simpa [List.getLast?_map, Option.bind_map, Function.comp_def] using hpairs

end Repository
end CommitStore
