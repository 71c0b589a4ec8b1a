import CommitStore.Proofs.CacheAnswers
import CommitStore.Proofs.ObjectGrowth
import CommitStore.Proofs.UserReferences
set_option autoImplicit false

/-!
# Cached merge bases stay right

A row of the cache is never taken back, so it has to stay right while the store grows. It does,
because it is about stored ids, and all that a walk from a stored id visits is stored as well: an
object that is stored later has none of them as a child that they did not know (`Adds.others`), and
the walk does not meet it.

The cache and the objects are committed and undone together, so the invariant `RowsFit` is one about
tables, like any other. With it a cached answer is the answer of an empty cache, and the calls that
ask cannot tell the two apart (`run_cacheTransparent`).
-/

namespace CommitStore

open CommitStore.Action
open CommitStore.Repository

/-! ## 1. Walks that meet known ids only -/

namespace Ancestry

variable {g g' : Ancestry} {known : Oid → Prop}

/-- Two graphs that agree on some ids, and on all that is reached from them, are walked alike from
there. -/
theorem visits_congr (hsame : ∀ oid, known oid → g'.parents oid = g.parents oid)
    (hclosed : ∀ oid, known oid → ∀ parent ∈ g.parents oid, known parent) (stops : Oid → Bool)
    (seen queue : List Oid) (hqueue : ∀ oid ∈ queue, known oid) :
    g'.visits stops seen queue = g.visits stops seen queue := by
  induction seen, queue using visits.induct g stops with
  | case1 seen => rw [visits, visits]
  | case2 seen oid rest hseen ih =>
    rw [visits, visits, if_pos hseen, if_pos hseen]
    exact ih fun q hq => hqueue q (List.mem_cons_of_mem _ hq)
  | case3 seen oid rest hnew ih =>
    have hoid := hqueue oid List.mem_cons_self
    simp only [dite_eq_ite] at ih
    rw [visits, visits, if_neg hnew, if_neg hnew, hsame oid hoid, ih]
    intro q hq
    rcases List.mem_append.mp hq with hrest | hparent
    · exact hqueue q (List.mem_cons_of_mem _ hrest)
    · split at hparent
      · cases hparent
      · exact hclosed oid hoid q hparent

theorem ancestors_congr (hsame : ∀ oid, known oid → g'.parents oid = g.parents oid)
    (hclosed : ∀ oid, known oid → ∀ parent ∈ g.parents oid, known parent) {oid : Oid}
    (hoid : known oid) : g'.ancestors oid = g.ancestors oid := by
  refine visits_congr hsame hclosed _ _ _ ?_
  intro q hq
  rw [List.mem_singleton.mp hq]
  exact hoid

theorem mergeBase_nil_congr (hsame : ∀ oid, known oid → g'.parents oid = g.parents oid)
    (hclosed : ∀ oid, known oid → ∀ parent ∈ g.parents oid, known parent) {a b : Oid}
    (ha : known a) (hb : known b) : (g'.mergeBase [] a b).1 = (g.mergeBase [] a b).1 := by
  by_cases hab : a = b
  · rw [mergeBase, if_pos hab, mergeBase, if_pos hab]
  · have hca := ancestors_congr hsame hclosed ha
    have hcb := ancestors_congr hsame hclosed hb
    rw [mergeBase_nil hab, mergeBase_nil hab]
    unfold firstCommon
    rcases ordered_cases a b with ho | ho <;> rw [ho, hca, hcb]

/-- Two different ids come in order. -/
theorem ordered_before {a b : Oid} (hab : a ≠ b) :
    Text.before (ordered a b).1 (ordered a b).2 = true := by
  unfold ordered
  split
  · next h => exact h
  · next h =>
    refine Decidable.byContradiction fun hnot => hab ?_
    exact Text.eq_of_not_before (Bool.eq_false_iff.mpr hnot) (Bool.eq_false_iff.mpr h)

end Ancestry

/-! ## 2. Rows that fit -/

/-- A row is about two stored ids in their order, and holds what an empty cache would answer. -/
structure MergeBaseRow.Fits (s : ObjectStore) (row : MergeBaseRow) : Prop where
  lhs : s.contains row.lhs = true
  rhs : s.contains row.rhs = true
  inOrder : Text.before row.lhs row.rhs = true
  base : row.base = (s.ancestry.mergeBase [] row.lhs row.rhs).1

/-- Every row of a cache fits. -/
def ObjectStore.RowsFit (s : ObjectStore) (cache : MergeBaseCache) : Prop :=
  ∀ row ∈ cache, row.Fits s

namespace ObjectStore

variable {s s' : ObjectStore} {cache : MergeBaseCache}

theorem RowsFit.sound (h : s.RowsFit cache) : s.ancestry.SoundCache cache :=
  fun row hrow => (h row hrow).base

theorem IsOrdered.contains_of_reaches (h : s.IsOrdered) {a b : Oid}
    (hreach : s.ancestry.Reaches a b) (ha : s.contains a = true) : s.contains b = true := by
  induction hreach with
  | refl => exact ha
  | tail _ hstep _ => exact contains_of_isCommit (h.parents _ _ hstep).2.1

/-- An object that is stored later changes no answer about those before it. -/
theorem Adds.rowsFit {o : StoredObject} (hadds : s.Adds o s') (hordered : s.IsOrdered)
    (h : s.RowsFit cache) : s'.RowsFit cache := by
  intro row hrow
  obtain ⟨hlhs, hrhs, hinOrder, hbase⟩ := h row hrow
  have hsame : ∀ oid, s.contains oid = true → s'.ancestry.parents oid = s.ancestry.parents oid :=
    fun oid hoid => hadds.parents_stored hoid
  have hclosed : ∀ oid, s.contains oid = true → ∀ parent ∈ s.ancestry.parents oid,
      s.contains parent = true :=
    fun oid _ parent hparent => contains_of_isCommit (hordered.parents oid parent hparent).2.1
  have hkept := Ancestry.mergeBase_nil_congr hsame hclosed hlhs hrhs
  exact ⟨hadds.contains hlhs, hadds.contains hrhs, hinOrder, hbase.trans hkept.symm⟩

/-- A question about stored ids leaves a row that fits. -/
theorem RowsFit.mergeBase (h : s.RowsFit cache) {a b : Oid} (ha : s.contains a = true)
    (hb : s.contains b = true) : s.RowsFit (s.ancestry.mergeBase cache a b).2 := by
  intro row hrow
  rcases Ancestry.mem_mergeBase hrow with hold | ⟨hab, hpair, hbase⟩
  · exact h row hold
  · have hinOrder := Ancestry.ordered_before hab
    rw [← hpair] at hinOrder
    rcases Ancestry.ordered_cases a b with ho | ho <;>
      obtain ⟨hlhs, hrhs⟩ := Prod.mk.inj (hpair.trans ho)
    · exact ⟨hlhs ▸ ha, hrhs ▸ hb, hinOrder, hbase⟩
    · exact ⟨hlhs ▸ hb, hrhs ▸ ha, hinOrder, hbase⟩

theorem RowsFit.remember (h : s.RowsFit cache) {main : Option Oid}
    (hmain : ∀ tip, main = some tip → s.contains tip = true) {visited : List Oid}
    (hvisited : ∀ oid ∈ visited, s.contains oid = true) :
    s.RowsFit (VisibleSet.remember s.ancestry cache main visited) := by
  cases main with
  | none => exact h
  | some main =>
    rw [VisibleSet.remember]
    induction visited generalizing cache with
    | nil => exact h
    | cons oid rest ih =>
      have hstep := h.mergeBase (hvisited oid List.mem_cons_self) (hmain main rfl)
      exact ih hstep fun x hx => hvisited x (List.mem_cons_of_mem _ hx)

end ObjectStore

/-! ## 3. Calls -/

theorem Tables.withEvents_mergeBases (events : List (EventKind × EventSubject)) (transaction : Nat)
    (now : Instant) (t : Tables) :
    (t.withEvents transaction now events).mergeBases = t.mergeBases := by
  induction events generalizing t with
  | nil => rfl
  | cons event rest ih => exact ih (t.addEvent event.1.text transaction event.2 now).2

theorem Tables.logged_mergeBases (t : Tables) (message : String) (now : Instant)
    (events : List (EventKind × EventSubject)) :
    (t.logged message now events).mergeBases = t.mergeBases :=
  withEvents_mergeBases events _ now (t.addTransaction (some message) now).2

/-- A call leaves the cache as it is, or asks for the visible commits and leaves the objects. -/
theorem EffectUnder.mergeBases_cases {config : Config} {hashed : String → Prop}
    {allowed : Tables → Call → Prop} {t t' : Tables} (h : EffectUnder config hashed allowed t t') :
    t'.mergeBases = t.mergeBases ∨ t'.objects = t.objects ∧ ∃ active, t'.mergeBases =
      (EventLog.computeVisible t (EventLog.rootsOf t config.mainBranch active)).2.mergeBases := by
  have hpinned : ∀ saved oid now,
      (pinnedIfPossible config saved oid now).mergeBases = saved.mergeBases := by
    intro saved oid now
    unfold pinnedIfPossible
    split <;> rfl
  cases h with
  | blob => exact Or.inl rfl
  | tag => exact Or.inl rfl
  | tagReference => exact Or.inl rfl
  | @commit saved parents message now oid _ _ _ hsave =>
    refine Or.inl ?_
    rw [hpinned, moved, Tables.logged_mergeBases]
    have hmoved : ∀ message, (RefStore.moveHead saved config.mainBranch oid message now).mergeBases =
        saved.mergeBases := by
      intro message
      unfold RefStore.moveHead
      cases saved.refs.get? RefName.head <;> rfl
    rw [hmoved]
    rcases Tables.eq_of_withCommit? hsave with ⟨_, rfl⟩ | ⟨_, rfl⟩ <;> rfl
  | branch name source oid attaches now =>
    cases attaches <;> exact Or.inl rfl
  | unbranch name oid now =>
    refine Or.inl ?_
    rw [unbranched, Tables.logged_mergeBases]
    exact (t.removeRef_frame _ _ _).2.2.2.1
  | attach => exact Or.inl rfl
  | detach => exact Or.inl rfl
  | hide oid now => exact Or.inl (Tables.logged_mergeBases _ _ _ _)
  | unhide oid now =>
    refine Or.inl ?_
    rw [hpinned]
    exact Tables.logged_mergeBases _ _ _ _
  | replace old new now =>
    refine Or.inl ?_
    rw [hpinned]
    exact Tables.logged_mergeBases _ _ _ _
  | pin => exact Or.inl rfl
  | ask r _ => exact Or.inr ⟨rfl, r.active, rfl⟩
  | sweep r now _ =>
    obtain ⟨hobjects, _, _, hmergeBases, _⟩ := Tables.removeRefs_frame _ now
      (EventLog.computeVisible t (EventLog.rootsOf t config.mainBranch r.active)).2
    exact Or.inr ⟨hobjects, r.active, hmergeBases⟩

namespace Tables

variable {hashed : String → Prop} {t t' : Tables}

/-- All that a walk from the roots visits is stored. -/
theorem Grown.contains_of_mem_walk (h : t.Grown hashed) (mainBranch : String) (active : List Oid)
    {oid : Oid} (hoid : oid ∈ VisibleSet.walk t.objects.ancestry t.mergeBases t.objects.contains
      (EventLog.rootsOf t mainBranch active)) : t.objects.contains oid = true := by
  obtain ⟨_, root, hroot, hpath⟩ := (Ancestry.mem_visits_iff _ _ _ _ oid).mp hoid
  refine h.objects.order.contains_of_reaches hpath.reaches ?_
  rcases ((VisibleSet.mem_starts_iff _ _ root).mp hroot).1 with hbranch | hhead | ⟨_, hstored⟩
  · obtain ⟨branch, _, htip⟩ := List.mem_filterMap.mp hbranch
    exact h.refs.branchTip htip
  · exact h.refs.headOf hhead
  · exact hstored

/-- What calls keep true of the cache. -/
structure Cached (hashed : String → Prop) (t : Tables) : Prop where
  grown : t.Grown hashed
  rows : t.objects.RowsFit t.mergeBases

theorem Cached.of_effect {config : Config} {allowed : Tables → Call → Prop}
    (heffect : EffectUnder config hashed allowed t t')
    (hdistinct : ∀ a b, hashed a → hashed b → Sha256.hexOfText a = Sha256.hexOfText b → a = b)
    (h : t.Cached hashed) : t'.Cached hashed := by
  obtain ⟨hmore, hgrown⟩ := h.grown.of_effect heffect hdistinct
  refine ⟨hgrown, ?_⟩
  rcases heffect.mergeBases_cases with hcache | ⟨hobjects, active, hcache⟩
  · rw [hcache]
    rcases hmore with hobjects | ⟨o, hadds⟩
    · rw [hobjects]
      exact h.rows
    · exact hadds.rowsFit h.grown.objects.order h.rows
  · rw [hcache, hobjects]
    refine h.rows.remember ?_ fun oid => h.grown.contains_of_mem_walk config.mainBranch active
    exact fun tip htip => h.grown.refs.branchTip htip

end Tables

/-! ## 4. Histories -/

namespace Repository

/-- **Cached merge bases are those of an empty cache.** After any history on a new repository, in the
committed tables and in those of the open transaction, a row of the cache has its ids in order and
holds what the walk would find in the graph as it is now. So no call that asks for visible commits
can tell the cache from an empty one, whatever its configuration. The texts hashed on the way are
taken to have different digests. -/
theorem run_cacheTransparent (config : Config) (history : List (Instant × Call)) (durable : Bool)
    (start : Instant)
    (hdistinct : ∀ a ∈ hashedTexts config history (Session.start .empty durable start),
      ∀ b ∈ hashedTexts config history (Session.start .empty durable start),
        Sha256.hexOfText a = Sha256.hexOfText b → a = b) :
    let s := (run config history (Session.start .empty durable start)).2
    ∀ t, t = s.committed ∨ t = s.working →
      (∀ row ∈ t.mergeBases, Text.before row.lhs row.rhs = true ∧
        row.base = (t.objects.ancestry.mergeBase [] row.lhs row.rhs).1) ∧
      ∀ (asked : Config) (u : Session), u.working = t →
        Agree ((visible asked).runOn u) ((visible asked).runOn (u.withCaches [] [])) ∧
        Agree ((listPins asked).runOn u) ((listPins asked).runOn (u.withCaches [] [])) ∧
        ∀ announces, Agree ((sweep asked announces).runOn u)
          ((sweep asked announces).runOn (u.withCaches [] [])) := by
  intro s t ht
  let hashed : String → Prop := fun text =>
    text ∈ hashedTexts config history (Session.start .empty durable start)
  have hmoves : Moves config hashed (.empty, .empty) _ :=
    (run_movesTo history rfl fun _ htext => htext).1
  have hstep : ∀ t t', Effect config hashed t t' → t.Cached hashed → t'.Cached hashed :=
    fun _ _ heffect => Tables.Cached.of_effect heffect fun a b ha hb => hdistinct a ha b hb
  have hempty : Tables.empty.Cached hashed := ⟨.empty, fun _ hrow => absurd hrow List.not_mem_nil⟩
  obtain ⟨hcommitted, hworking⟩ := hmoves.keeps hstep ⟨hempty, hempty⟩
  have hkept : t.Cached hashed := by
    rcases ht with rfl | rfl
    · exact hcommitted
    · exact hworking
  refine ⟨fun row hrow => ⟨(hkept.rows row hrow).inOrder, (hkept.rows row hrow).base⟩, ?_⟩
  rintro asked u rfl
  have hsame : u.working.objects.ancestry.SameAnswers u.working.mergeBases [] :=
    hkept.rows.sound.sameAnswers (Ancestry.soundCache_nil _)
  exact ⟨visible_agree hsame [], listPins_agree hsame [], sweep_agree hsame []⟩

/-! ## 5. A history with a row in its cache -/

/-- Where the walk starts at a parent of the tip of main only, it asks about that parent, and nothing
else. -/
theorem mergeBases_of_parent {t : Tables} {roots : VisibleSet.Roots} {tip root : Oid}
    (hmain : roots.main = some tip) (hstarts : roots.starts t.objects.contains = [root])
    (hne : root ≠ tip) (hparent : root ∈ t.objects.parents tip) (hcache : t.mergeBases = []) :
    (EventLog.computeVisible t roots).2.mergeBases =
      (t.objects.ancestry.mergeBase [] root tip).2 := by
  have hstop : VisibleSet.onMain t.objects.ancestry [] (some tip) root = true :=
    ((Ancestry.soundCache_nil _).isAncestor_iff root tip).mpr
      (Relation.ReflTransGen.single hparent)
  have hwalk : VisibleSet.walk t.objects.ancestry [] t.objects.contains roots = [root] := by
    have hunseen : root ∉ [tip] := fun hmem => hne (List.mem_singleton.mp hmem)
    rw [VisibleSet.walk, hstarts, hmain, Option.toList_some, Ancestry.visits, if_neg hunseen,
      if_pos hstop, List.append_nil, Ancestry.visits]
  show VisibleSet.remember _ t.mergeBases roots.main (VisibleSet.walk _ t.mergeBases _ _) = _
  rw [hcache, hwalk, hmain]
  rfl

open CommitLine SweptTag

theorem lineTables_rows :
    let t := lineTables tagsConfig
    (EventLog.replayRows t.events).toOption.map (·.active) = some [secondId, firstId] ∧
      EventLog.branchTip? t.refs "main" = some secondId ∧
      (EventLog.rootsOf t "main" [secondId, firstId]).starts t.objects.contains = [firstId] ∧
      t.objects.links = [] ∧ (t.objects.get? secondId).bind (·.parent) = some firstId ∧
      t.mergeBases = [] := by
  decide +kernel

theorem mergeBases_lineTables :
    let t := lineTables tagsConfig
    (EventLog.computeVisible t (EventLog.rootsOf t "main" [secondId, firstId])).2.mergeBases =
      [⟨secondId, firstId, t.objects.ancestry.firstCommon secondId firstId⟩] := by
  obtain ⟨_, hmain, hstarts, hlinks, hrow, hcache⟩ := lineTables_rows
  generalize lineTables tagsConfig = t at *
  have hparent : firstId ∈ t.objects.parents secondId := by
    rw [ObjectStore.parents_of_noLinks fun _ hlink => absurd (hlinks ▸ hlink) List.not_mem_nil,
      hrow]
    exact List.mem_singleton_self firstId
  have hne : firstId ≠ secondId := by decide
  have hordered : Ancestry.ordered firstId secondId = (secondId, firstId) := by decide
  show (EventLog.computeVisible t _).2.mergeBases = _
  rw [mergeBases_of_parent hmain hstarts hne hparent hcache, Ancestry.mergeBase_of_ne _ _ hne,
    hordered]
  rfl

/-- Two commits, and a question for the visible ones. -/
def askedHistory : List (Instant × Call) :=
  [(second 0, .commit "a" none), (second 1, .commit "b" none), (second 2, .visible)]

theorem run_askedHistory :
    (run tagsConfig askedHistory fresh).2 =
      (Session.start (lineTables tagsConfig) false (second 2)).onTables
        (EventLog.computeVisible (lineTables tagsConfig)
          (EventLog.rootsOf (lineTables tagsConfig) "main" [secondId, firstId])).2 := by
  obtain ⟨r, hreplay, hactive⟩ := EventLog.exists_replayRows_of_active lineTables_rows.1
  have hvisible := visible_runOn tagsConfig (isOpen_start (lineTables tagsConfig) false (second 2))
    hreplay
  rw [hactive] at hvisible
  have hhistory : askedHistory = lineHistory ++ [(second 2, .visible)] := rfl
  rw [hhistory, run_append, run_lineHistory admits_tagsConfig, run_cons, at_start, perform,
    runOn_bind_of_ok hvisible]
  rfl

theorem askedHistory_distinct :
    ∀ a ∈ hashedTexts tagsConfig askedHistory fresh,
      ∀ b ∈ hashedTexts tagsConfig askedHistory fresh,
        Sha256.hexOfText a = Sha256.hexOfText b → a = b :=
  lineHistory_append_distinct admits_tagsConfig (second 2) fun _ => ite_self none

/-- The theorem at that history: the row that is left holds the first commit. -/
theorem run_cacheTransparent_asked :
    let s := (run tagsConfig askedHistory fresh).2
    (∃ row ∈ s.working.mergeBases, row.lhs = secondId ∧ row.rhs = firstId ∧
      row.base = (s.working.objects.ancestry.mergeBase [] secondId firstId).1) ∧
      Agree ((visible tagsConfig).runOn s) ((visible tagsConfig).runOn (s.withCaches [] [])) := by
  intro s
  obtain ⟨hrows, hcalls⟩ := run_cacheTransparent tagsConfig askedHistory false default
    askedHistory_distinct s.working (Or.inr rfl)
  let base := (lineTables tagsConfig).objects.ancestry.firstCommon secondId firstId
  have hrow : ⟨secondId, firstId, base⟩ ∈ s.working.mergeBases := by
    show _ ∈ (run tagsConfig askedHistory fresh).2.working.mergeBases
    rw [run_askedHistory, Session.onTables_working, mergeBases_lineTables]
    exact List.mem_singleton_self _
  exact ⟨⟨_, hrow, rfl, rfl, (hrows _ hrow).2⟩, (hcalls tagsConfig s rfl).1⟩

end Repository
end CommitStore
