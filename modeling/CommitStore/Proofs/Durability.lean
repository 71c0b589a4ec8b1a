import CommitStore.Proofs.Edits
import CommitStore.Proofs.ObjectGrowth
import CommitStore.Proofs.OpenTransactions
set_option autoImplicit false

/-!
# What is committed stays

The tables of a store grow and nothing in them is overwritten (`Tables.Extends`): objects,
transactions, events and journal rows are added behind those that are there, and a stored object
keeps its parents. References come and go, but what they went through is in the journal.

For transactions, events and the journal this is seen edit by edit. The parents of an object are in
two tables, so for them it takes that a commit is stored once with all of its links, which is what
`Tables.Grown` knows of a whole call.
-/

namespace CommitStore

open CommitStore.Action
open CommitStore.Repository

/-! ## 1. Tables that extend others -/

/-- Transactions, events and journal rows are still there, and later ones come behind them. -/
structure Tables.LogsExtend (t t' : Tables) : Prop where
  transactions : t.transactions <+: t'.transactions
  events : t.events <+: t'.events
  journal : t.journal <+: t'.journal

/-- All that was stored and recorded is still there. -/
structure Tables.Extends (t t' : Tables) : Prop extends Tables.LogsExtend t t' where
  objects : t.objects.objects <+: t'.objects.objects
  parents : ∀ oid, t.objects.contains oid = true → t'.objects.parents oid = t.objects.parents oid

namespace Tables

variable {t t' t'' : Tables}

theorem LogsExtend.refl (t : Tables) : t.LogsExtend t :=
  ⟨List.prefix_rfl, List.prefix_rfl, List.prefix_rfl⟩

theorem LogsExtend.trans (h : t.LogsExtend t') (h' : t'.LogsExtend t'') : t.LogsExtend t'' :=
  ⟨h.transactions.trans h'.transactions, h.events.trans h'.events, h.journal.trans h'.journal⟩

theorem LogsExtend.removeRef (t : Tables) (name : RefName) (message : Option String)
    (now : Instant) : t.LogsExtend (t.removeRef name message now) := by
  unfold Tables.removeRef
  split
  · exact LogsExtend.refl t
  · exact ⟨List.prefix_rfl, List.prefix_rfl, List.prefix_append _ _⟩

/-- **An edit adds rows to the logs and changes none.** -/
theorem LogsExtend.of_edit {config : Config} {hashed : String → Prop}
    (hedit : Edit config hashed t t') : t.LogsExtend t' := by
  cases hedit with
  | store | link | attach | remember => exact ⟨List.prefix_rfl, List.prefix_rfl, List.prefix_rfl⟩
  | write | beginHead => exact ⟨List.prefix_rfl, List.prefix_rfl, List.prefix_append _ _⟩
  | removeBranch branch message now => exact LogsExtend.removeRef t _ message now
  | release name now => exact LogsExtend.removeRef t name none now
  | openTransaction => exact ⟨List.prefix_append _ _, List.prefix_rfl, List.prefix_rfl⟩
  | record => exact ⟨List.prefix_rfl, List.prefix_append _ _, List.prefix_rfl⟩

theorem Extends.refl (t : Tables) : t.Extends t :=
  ⟨LogsExtend.refl t, List.prefix_rfl, fun _ _ => rfl⟩

theorem Extends.contains (h : t.Extends t') {oid : Oid} (hstored : t.objects.contains oid = true) :
    t'.objects.contains oid = true := by
  rw [ObjectStore.contains_iff_mem] at hstored ⊢
  exact (h.objects.map (·.oid)).subset hstored

theorem Extends.trans (h : t.Extends t') (h' : t'.Extends t'') : t.Extends t'' where
  toLogsExtend := h.toLogsExtend.trans h'.toLogsExtend
  objects := h.objects.trans h'.objects
  parents oid hstored := (h'.parents oid (h.contains hstored)).trans (h.parents oid hstored)

theorem Extends.of_effect {config : Config} {hashed : String → Prop}
    (heffect : Effect config hashed t t')
    (hdistinct : ∀ a b, hashed a → hashed b → Sha256.hexOfText a = Sha256.hexOfText b → a = b)
    (h : t.Grown hashed) : t.Extends t' := by
  obtain ⟨hmore, _⟩ := h.of_effect heffect hdistinct
  have hlogs : t.LogsExtend t' :=
    heffect.edits.keeps (fun _ _ hedit hlogs => hlogs.trans (.of_edit hedit)) (.refl t)
  refine ⟨hlogs, hmore.objects_prefix, ?_⟩
  intro oid hstored
  rcases hmore with hsame | ⟨o, hadds⟩
  · rw [hsame]
  · exact hadds.parents_stored hstored

end Tables

/-! ## 2. Histories -/

namespace Repository

/-- **What is committed at some point of a history stays to its end.** -/
theorem run_extends (config : Config) (earlier later : List (Instant × Call)) (durable : Bool)
    (start : Instant)
    (hdistinct : ∀ a ∈ hashedTexts config (earlier ++ later) (Session.start .empty durable start),
      ∀ b ∈ hashedTexts config (earlier ++ later) (Session.start .empty durable start),
        Sha256.hexOfText a = Sha256.hexOfText b → a = b) :
    (run config earlier (Session.start .empty durable start)).2.committed.Extends
      (run config (earlier ++ later) (Session.start .empty durable start)).2.committed := by
  let first := Session.start .empty durable start
  let hashed : String → Prop := fun text => text ∈ hashedTexts config (earlier ++ later) first
  have hdistinct' : ∀ a b, hashed a → hashed b →
      Sha256.hexOfText a = Sha256.hexOfText b → a = b := fun a b ha hb => hdistinct a ha b hb
  have heffect : ∀ t t', Effect config hashed t t' → t.Grown hashed →
      t'.Grown hashed ∧ t.Extends t' := by
    intro t t' heffect hgrown
    exact ⟨(hgrown.of_effect heffect hdistinct').2, .of_effect heffect hdistinct' hgrown⟩
  have hempty : Tables.empty.Grown hashed := .empty
  obtain ⟨_, hcommitted, _⟩ := run_carries Tables.Extends Tables.Extends.refl
    (fun _ _ _ => Tables.Extends.trans) earlier later rfl heffect ⟨hempty, hempty⟩ (.refl .empty)
  exact hcommitted

/-- **Calls commit what they write, and nothing committed is lost.** After any history of calls on a
new repository with any configuration, whatever call comes next: if it is one that writes and it
completes, nothing is left uncommitted; if it is one that reads, it commits nothing and leaves no
more than rows of the cache of merge bases in the open transaction; and however it ends, the objects
with their parents, the transactions, the events and the journal that were committed before it are
still committed. The texts hashed on the way are taken to have different digests. -/
theorem run_durable (config : Config) (history : List (Instant × Call)) (now : Instant)
    (call : Call) (durable : Bool) (start : Instant)
    (hdistinct : ∀ a ∈ hashedTexts config (history ++ [(now, call)])
        (Session.start .empty durable start),
      ∀ b ∈ hashedTexts config (history ++ [(now, call)]) (Session.start .empty durable start),
        Sha256.hexOfText a = Sha256.hexOfText b → a = b) :
    let s := (run config history (Session.start .empty durable start)).2
    let answer := (perform config call).runOn (at_ s now)
    (call.writes = true → ∀ reply, answer.1 = .ok reply →
      answer.2.working = answer.2.committed) ∧
    (call.writes = false → call ≠ .close → answer.2.committed = s.committed ∧
      ∃ rows, answer.2.working = s.working.withCache (s.working.mergeBases ++ rows)) ∧
    s.committed.Extends answer.2.committed := by
  intro s answer
  refine ⟨?_, ?_, ?_⟩
  · intro hwrites reply hreply
    exact perform_settles config hwrites (at_ s now) reply answer.2 (by rw [← hreply])
  · intro hreads hclose
    obtain ⟨rows, hasked⟩ := perform_asks config hreads hclose (at_ s now)
    have hanswer : answer.2 = _ := hasked
    rw [hanswer]
    exact ⟨rfl, rows, rfl⟩
  · have hextends := run_extends config history [(now, call)] durable start hdistinct
    rw [run_append] at hextends
    exact hextends

open CommitLine

/-- The theorem at a line of two commits: when the first one is hidden, this is committed, and both
stay stored; a question for the visible ones commits nothing. -/
theorem run_durable_hide :
    let s := (run {} lineHistory fresh).2
    let hidden := (perform {} (.hide firstId)).runOn (at_ s (second 2))
    let asked := (perform {} .visible).runOn (at_ s (second 2))
    hidden.2.working = hidden.2.committed ∧ s.committed.Extends hidden.2.committed ∧
      hidden.2.committed.objects.contains firstId = true ∧
      hidden.2.committed.objects.contains secondId = true ∧ asked.2.committed = s.committed := by
  intro s hidden asked
  have hs : s = Session.start (lineTables {}) false (second 1) := run_lineHistory admits_default
  have hhidden : hidden.1 = .ok .done := by
    show ((perform {} (.hide firstId)).runOn (at_ s (second 2))).1 = _
    rw [hs, at_start, perform_third admits_default]
  obtain ⟨hsettles, _, hextends⟩ := run_durable {} lineHistory (second 2) (.hide firstId) false
    default (hiddenHistory_distinct admits_default)
  obtain ⟨_, hreads, _⟩ := run_durable {} lineHistory (second 2) .visible false default
    (lineHistory_append_distinct admits_default (second 2) fun _ => ite_self none)
  obtain ⟨_, hfirst, hsecond, _⟩ := lineTables_default
  rw [← start_committed (lineTables {}) false (second 1), ← hs] at hfirst hsecond
  exact ⟨hsettles rfl _ hhidden, hextends,
    hextends.contains (ObjectStore.contains_of_isCommit hfirst),
    hextends.contains (ObjectStore.contains_of_isCommit hsecond),
    (hreads rfl (fun hsame => by cases hsame)).1⟩

end Repository
end CommitStore
