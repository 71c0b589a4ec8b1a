import CommitStore.Proofs.Calls
import CommitStore.Proofs.Visibility
set_option autoImplicit false

/-!
# What a cache answers

A question on merge bases leaves a row in the cache, and the next question may be answered from it.
Whatever the cache holds, such a row changes no answer: it is recorded only where the cache had no
row, and it holds what the walk would find. So the visible set can be computed again and again, and
a listing and a sweep that follow each other see the same set.

Two sound caches answer alike as well, because both answer what an empty cache would.
-/

namespace CommitStore

namespace MergeBaseCache

theorem row?_cons (row : MergeBaseRow) (rest : MergeBaseCache) (l r : Oid) :
    row? (row :: rest) l r = if row.lhs = l ∧ row.rhs = r then some row else row? rest l r := by
  rw [row?, List.find?_cons]
  by_cases hkey : row.lhs = l ∧ row.rhs = r
  · simp [hkey]
  · have hother : (row.lhs == l && row.rhs == r) = false := by simpa using hkey
    rw [hother, if_neg hkey]
    rfl

theorem row?_record (cache : MergeBaseCache) (lhs rhs : Oid) (base : Option Oid) (l r : Oid) :
    (cache.record lhs rhs base).row? l r =
      if lhs = l ∧ rhs = r then some ⟨lhs, rhs, base⟩ else cache.row? l r := by
  induction cache with
  | nil => rw [record, row?_cons]
  | cons row rest ih =>
    rw [record, row?_cons]
    by_cases hrow : row.lhs = lhs ∧ row.rhs = rhs
    · obtain ⟨rfl, rfl⟩ := hrow
      rw [if_pos ⟨rfl, rfl⟩, row?_cons]
      split <;> rfl
    · rw [if_neg hrow, row?_cons, ih]
      by_cases hkey : row.lhs = l ∧ row.rhs = r
      · have hother : ¬ (lhs = l ∧ rhs = r) := by
          rintro ⟨rfl, rfl⟩
          exact hrow hkey
        rw [if_pos hkey, if_neg hother, if_pos hkey]
      · rw [if_neg hkey, if_neg hkey]

theorem mem_record {cache : MergeBaseCache} {lhs rhs : Oid} {base : Option Oid} {row : MergeBaseRow}
    (h : row ∈ cache.record lhs rhs base) : row ∈ cache ∨ row = ⟨lhs, rhs, base⟩ := by
  induction cache with
  | nil => exact Or.inr (List.mem_singleton.mp h)
  | cons first rest ih =>
    rw [record] at h
    split at h
    · rcases List.mem_cons.mp h with rfl | hrest
      · exact Or.inr rfl
      · exact Or.inl (List.mem_cons_of_mem _ hrest)
    · rcases List.mem_cons.mp h with rfl | hrest
      · exact Or.inl List.mem_cons_self
      · exact (ih hrest).imp_left (List.mem_cons_of_mem _)

end MergeBaseCache

namespace Ancestry

variable {g : Ancestry} {cache cache' cache'' : MergeBaseCache}

/-! ## 1. Merge bases -/

/-- A question finds a row, or the walk answers it and the answer is recorded. -/
theorem mergeBase_of_ne (g : Ancestry) (cache : MergeBaseCache) {a b : Oid} (hab : a ≠ b) :
    g.mergeBase cache a b =
      match cache.row? (ordered a b).1 (ordered a b).2 with
      | some row => (row.base, cache)
      | none => (g.firstCommon (ordered a b).1 (ordered a b).2,
          cache.record (ordered a b).1 (ordered a b).2
            (g.firstCommon (ordered a b).1 (ordered a b).2)) := by
  unfold mergeBase
  exact if_neg hab

/-- A row that is there after a question was there before, or it is about the two ids in order and
holds what the walk finds. -/
theorem mem_mergeBase {a b : Oid} {row : MergeBaseRow} (h : row ∈ (g.mergeBase cache a b).2) :
    row ∈ cache ∨ a ≠ b ∧ (row.lhs, row.rhs) = ordered a b ∧
      row.base = (g.mergeBase [] row.lhs row.rhs).1 := by
  by_cases hab : a = b
  · rw [mergeBase, if_pos hab] at h
    exact Or.inl h
  rw [mergeBase_of_ne g cache hab] at h
  cases hrow : cache.row? (ordered a b).1 (ordered a b).2 with
  | some found =>
    rw [hrow] at h
    exact Or.inl h
  | none =>
    rw [hrow] at h
    rcases MergeBaseCache.mem_record h with hold | rfl
    · exact Or.inl hold
    · have hne : (ordered a b).1 ≠ (ordered a b).2 := by
        rcases ordered_cases a b with ho | ho <;> rw [ho]
        · exact hab
        · exact Ne.symm hab
      have hbase := mergeBase_nil (g := g) hne
      rw [ordered_ordered] at hbase
      exact Or.inr ⟨hab, rfl, hbase.symm⟩

/-- Two caches answer every question on merge bases in the same way. -/
def SameAnswers (g : Ancestry) (cache cache' : MergeBaseCache) : Prop :=
  ∀ a b, (g.mergeBase cache a b).1 = (g.mergeBase cache' a b).1

theorem SameAnswers.refl (g : Ancestry) (cache : MergeBaseCache) : g.SameAnswers cache cache :=
  fun _ _ => rfl

theorem SameAnswers.trans (h : g.SameAnswers cache cache') (h' : g.SameAnswers cache' cache'') :
    g.SameAnswers cache cache'' := fun a b => (h a b).trans (h' a b)

/-- **A question changes no answer.** The row that it leaves holds what the walk finds. -/
theorem sameAnswers_mergeBase (g : Ancestry) (cache : MergeBaseCache) (x y : Oid) :
    g.SameAnswers cache (g.mergeBase cache x y).2 := by
  by_cases hxy : x = y
  · rw [mergeBase, if_pos hxy]
    exact SameAnswers.refl g cache
  rw [mergeBase_of_ne g cache hxy]
  cases hrow : cache.row? (ordered x y).1 (ordered x y).2 with
  | some row => exact SameAnswers.refl g cache
  | none =>
    intro a b
    by_cases hab : a = b
    · rw [mergeBase, if_pos hab, mergeBase, if_pos hab]
    rw [mergeBase_of_ne g cache hab, mergeBase_of_ne g _ hab, MergeBaseCache.row?_record]
    by_cases hsame : (ordered x y).1 = (ordered a b).1 ∧ (ordered x y).2 = (ordered a b).2
    · rw [if_pos hsame, ← hsame.1, ← hsame.2, hrow]
    · rw [if_neg hsame]
      cases cache.row? (ordered a b).1 (ordered a b).2 <;> rfl

theorem SoundCache.sameAnswers (h : g.SoundCache cache) (h' : g.SoundCache cache') :
    g.SameAnswers cache cache' := by
  intro a b
  by_cases hab : a = b
  · rw [mergeBase, if_pos hab, mergeBase, if_pos hab]
  · rw [h.mergeBase_eq hab, h'.mergeBase_eq hab]

theorem SoundCache.mergeBase (h : g.SoundCache cache) (a b : Oid) :
    g.SoundCache (g.mergeBase cache a b).2 := by
  intro row hrow
  rcases mem_mergeBase hrow with hold | ⟨_, _, hbase⟩
  · exact h row hold
  · exact hbase

theorem soundCache_nil (g : Ancestry) : g.SoundCache [] := fun _ hrow => absurd hrow List.not_mem_nil

theorem SameAnswers.isAncestor (h : g.SameAnswers cache cache') (ancestor oid : Oid) :
    (g.isAncestor cache ancestor oid).1 = (g.isAncestor cache' ancestor oid).1 := by
  show g.reachesFrom (g.mergeBase cache ancestor oid).1 ancestor oid = _
  rw [h ancestor oid]
  rfl

end Ancestry

/-! ## 2. The visible set -/

namespace VisibleSet

open Ancestry (SameAnswers)

variable {g : Ancestry} {cache cache' : MergeBaseCache}

/-- Caches that answer alike have one visible set. -/
theorem compute_congr (h : g.SameAnswers cache cache') (isStored : Oid → Bool) (roots : Roots) :
    (compute g cache isStored roots).1 = (compute g cache' isStored roots).1 := by
  have hstops : onMain g cache roots.main = onMain g cache' roots.main := by
    funext oid
    unfold onMain
    simp only [h.isAncestor oid]
  show inOrder (_ ++ g.visits (onMain g cache roots.main) _ _) = _
  rw [hstops]
  rfl

theorem sameAnswers_remember (g : Ancestry) (cache : MergeBaseCache) (main : Option Oid)
    (visited : List Oid) : g.SameAnswers cache (remember g cache main visited) := by
  cases main with
  | none => exact SameAnswers.refl g cache
  | some main =>
    rw [remember]
    induction visited generalizing cache with
    | nil => exact SameAnswers.refl g cache
    | cons oid rest ih => exact (Ancestry.sameAnswers_mergeBase g cache oid main).trans (ih _)

/-- The questions of a walk change no answer. -/
theorem sameAnswers_compute (g : Ancestry) (cache : MergeBaseCache) (isStored : Oid → Bool)
    (roots : Roots) : g.SameAnswers cache (compute g cache isStored roots).2 :=
  sameAnswers_remember g cache roots.main _

end VisibleSet

/-! ## 3. Actions that leave the cache alone -/

/-- The tables with another cache. -/
def Tables.withCache (t : Tables) (cache : MergeBaseCache) : Tables := { t with mergeBases := cache }

/-- The session with other caches in its tables. -/
def Session.withCaches (s : Session) (committed working : MergeBaseCache) : Session :=
  { s with
    committed := s.committed.withCache committed
    working := s.working.withCache working }

namespace Action

variable {α β : Type}

/-- Two outcomes differ in nothing but the caches of the session afterwards. -/
def Agree (x y : Except Error α × Session) : Prop :=
  y.1 = x.1 ∧ ∃ committed working, y.2 = x.2.withCaches committed working

/-- An action has the same outcome whatever is cached. -/
def IgnoresCache (x : Action α) : Prop :=
  ∀ s committed working, Agree (x.runOn s) (x.runOn (s.withCaches committed working))

theorem Agree.bind {x : Action α} {f : α → Action β} {s s' : Session}
    (h : Agree (x.runOn s) (x.runOn s')) (hf : ∀ a, IgnoresCache (f a)) :
    Agree ((x >>= f).runOn s) ((x >>= f).runOn s') := by
  obtain ⟨hanswer, committed, working, hsession⟩ := h
  rw [runOn_bind, runOn_bind]
  rcases hrun : x.runOn s with ⟨e | a, s₁⟩ <;> rcases hrun' : x.runOn s' with ⟨e' | a', s₁'⟩ <;>
    rw [hrun, hrun'] at hanswer hsession <;> cases hanswer <;> cases hsession
  · exact ⟨rfl, committed, working, rfl⟩
  · exact hf a s₁ committed working

theorem Agree.bind_of_error {x : Action α} {f : α → Action β} {s s' s₁ : Session} {e : Error}
    (h : Agree (x.runOn s) (x.runOn s')) (hrun : x.runOn s = (.error e, s₁)) :
    Agree ((x >>= f).runOn s) ((x >>= f).runOn s') := by
  obtain ⟨hanswer, hsession⟩ := h
  rcases hrun' : x.runOn s' with ⟨e' | a, s₁'⟩ <;> rw [hrun, hrun'] at hanswer hsession <;>
    cases hanswer
  rw [runOn_bind_of_error hrun, runOn_bind_of_error hrun']
  exact ⟨rfl, hsession⟩

theorem Agree.tryCatch {x : Action α} {handle : Error → Action α} {s s' : Session}
    (h : Agree (x.runOn s) (x.runOn s')) (hhandle : ∀ e, IgnoresCache (handle e)) :
    Agree ((tryCatch x handle).runOn s) ((tryCatch x handle).runOn s') := by
  obtain ⟨hanswer, committed, working, hsession⟩ := h
  rw [runOn_tryCatch, runOn_tryCatch]
  rcases hrun : x.runOn s with ⟨e | a, s₁⟩ <;> rcases hrun' : x.runOn s' with ⟨e' | a', s₁'⟩ <;>
    rw [hrun, hrun'] at hanswer hsession <;> cases hanswer <;> cases hsession
  · exact hhandle e s₁ committed working
  · exact ⟨rfl, committed, working, rfl⟩

theorem IgnoresCache.bind {x : Action α} {f : α → Action β} (hx : IgnoresCache x)
    (hf : ∀ a, IgnoresCache (f a)) : IgnoresCache (x >>= f) :=
  fun s committed working => (hx s committed working).bind hf

theorem ignoresCache_pure (a : α) : IgnoresCache (pure a : Action α) :=
  fun _ committed working => ⟨rfl, committed, working, rfl⟩

theorem ignoresCache_throw (e : Error) : IgnoresCache (throw e : Action α) :=
  fun _ committed working => ⟨rfl, committed, working, rfl⟩

theorem ignoresCache_read {look : Tables → α} (hlook : ∀ t cache, look (t.withCache cache) = look t) :
    IgnoresCache (read look) := by
  intro s committed working
  show Agree (if s.broken then _ else if s.isGone then _ else _)
    (if s.broken then _ else if s.isGone then _ else _)
  split
  · exact ⟨rfl, committed, working, rfl⟩
  · split
    · exact ⟨rfl, committed, working, rfl⟩
    · exact ⟨congrArg Except.ok (hlook s.working working), committed, working, rfl⟩

theorem ignoresCache_update {edit : Tables → Tables}
    (hedit : ∀ t cache, edit (t.withCache cache) = (edit t).withCache cache) :
    IgnoresCache (update edit) := by
  intro s committed working
  show Agree (if s.broken then _ else if s.isGone then _ else _)
    (if s.broken then _ else if s.isGone then _ else _)
  split
  · exact ⟨rfl, committed, working, rfl⟩
  · split
    · exact ⟨rfl, committed, committed, rfl⟩
    · refine ⟨rfl, committed, working, ?_⟩
      show Session.mk _ (edit (s.working.withCache working)) _ _ _ _ _ _ _ = _
      rw [hedit]
      rfl

theorem IgnoresCache.accessing {x : Action α} (hx : IgnoresCache x) (operation : String)
    (name : Option RefName) : IgnoresCache (accessing operation name x) := by
  intro s committed working
  obtain ⟨hanswer, hsession⟩ := hx s committed working
  rw [runOn_accessing, runOn_accessing]
  rcases hrun : x.runOn s with ⟨e | a, s₁⟩ <;>
    rcases hrun' : x.runOn (s.withCaches committed working) with ⟨e' | a', s₁'⟩ <;>
    rw [hrun, hrun'] at hanswer hsession <;> cases hanswer
  · cases e <;> exact ⟨rfl, hsession⟩
  · exact ⟨rfl, hsession⟩

theorem ignoresCache_commit : IgnoresCache Action.commit := by
  intro s committed working
  show Agree (if s.broken then _ else _) (if s.broken then _ else _)
  split
  · exact ⟨rfl, committed, working, rfl⟩
  · exact ⟨rfl, working, working, rfl⟩

theorem ignoresCache_rollback : IgnoresCache Action.rollback :=
  fun _ committed _ => ⟨rfl, committed, committed, rfl⟩

theorem ignoresCache_list : IgnoresCache RefStore.list := by
  refine IgnoresCache.bind (fun _ committed working => ⟨rfl, committed, working, rfl⟩) ?_
  intro refusals
  have hread : IgnoresCache (accessing "list references" none (read (·.refs.references))) :=
    (ignoresCache_read fun _ _ => rfl).accessing _ _
  cases refusals.listing with
  | true => exact (ignoresCache_throw _).bind fun _ => hread
  | false => exact hread

theorem Tables.removeRef_withCache (t : Tables) (cache : MergeBaseCache) (name : RefName)
    (message : Option String) (now : Instant) :
    (t.withCache cache).removeRef name message now =
      (t.removeRef name message now).withCache cache := by
  have hget : (t.withCache cache).refs.get? name = t.refs.get? name := rfl
  rw [Tables.removeRef, Tables.removeRef, hget]
  cases t.refs.get? name <;> rfl

theorem ignoresCache_remove (name : RefName) (message : Option String) :
    IgnoresCache (RefStore.remove name message) := by
  refine IgnoresCache.accessing ?_ _ _
  refine IgnoresCache.bind (fun _ committed working => ⟨rfl, committed, working, rfl⟩) ?_
  intro now
  refine (ignoresCache_read fun _ _ => rfl).bind ?_
  rintro (_ | _)
  · exact ignoresCache_pure ()
  · exact ignoresCache_update fun t cache => Tables.removeRef_withCache t cache name message now

theorem ignoresCache_delete (name : RefName) : IgnoresCache (RefStore.delete name) := by
  refine IgnoresCache.bind (fun _ committed working => ⟨rfl, committed, working, rfl⟩) ?_
  intro refusals
  dsimp only
  split
  · exact (ignoresCache_throw _).bind fun _ => ignoresCache_remove name none
  · exact ignoresCache_remove name none

theorem ignoresCache_deleteAll (names : List RefName) : IgnoresCache (Sweep.deleteAll names) := by
  induction names with
  | nil => exact ignoresCache_pure ()
  | cons name rest ih => exact (ignoresCache_delete name).bind fun _ => ih

theorem ignoresCache_replay : IgnoresCache EventLog.replay := by
  refine (ignoresCache_read fun _ _ => rfl).bind fun rows => ?_
  cases EventLog.replayRows rows with
  | ok r => exact ignoresCache_pure r
  | error e => exact ignoresCache_throw e

theorem ignoresCache_find (root : String) (visible : List Oid) :
    IgnoresCache (Sweep.find root visible) :=
  ignoresCache_list.bind fun _ => ignoresCache_read fun _ _ => rfl

end Action

/-! ## 4. Calls that ask -/

namespace Repository

open CommitStore.Action

variable {config : Config} {s : Session} {working : MergeBaseCache}

theorem visible_agree (hsame : s.working.objects.ancestry.SameAnswers s.working.mergeBases working)
    (committed : MergeBaseCache) :
    Agree ((visible config).runOn s) ((visible config).runOn (s.withCaches committed working)) := by
  by_cases h : s.IsOpen
  · have h' : (s.withCaches committed working).IsOpen := h
    cases hreplay : EventLog.replayRows s.working.events with
    | error e =>
      rw [visible_refused config h hreplay, visible_refused config h' hreplay]
      exact ⟨rfl, committed, working, rfl⟩
    | ok r =>
      rw [visible_runOn config h hreplay, visible_runOn config h' hreplay]
      refine ⟨congrArg Except.ok ?_, committed, _, rfl⟩
      exact (VisibleSet.compute_congr hsame _ _).symm
  · obtain ⟨e, s₁, hrun, _⟩ : Stalls EventLog.replay s := (stalls_read h _).bind _
    exact (ignoresCache_replay s committed working).bind_of_error hrun

theorem listPins_agree (hsame : s.working.objects.ancestry.SameAnswers s.working.mergeBases working)
    (committed : MergeBaseCache) :
    Agree ((listPins config).runOn s) ((listPins config).runOn (s.withCaches committed working)) := by
  refine (visible_agree hsame committed).bind fun visible => ?_
  exact ignoresCache_list.bind fun _ => ignoresCache_read fun _ _ => rfl

theorem sweep_agree (hsame : s.working.objects.ancestry.SameAnswers s.working.mergeBases working)
    (committed : MergeBaseCache) (announces : Bool) :
    Agree ((sweep config announces).runOn s)
      ((sweep config announces).runOn (s.withCaches committed working)) := by
  let line := announcement config announces
  have hannounced : (s.withCaches committed working).announced line =
      (s.announced line).withCaches committed working := by cases line <;> rfl
  have hsame' : (s.announced line).working.objects.ancestry.SameAnswers
      (s.announced line).working.mergeBases working := by
    rw [s.announced_working line]
    exact hsame
  have hvisible : Agree ((visible config).runOn (s.announced line))
      ((visible config).runOn ((s.announced line).withCaches committed working)) :=
    visible_agree hsame' committed
  have hrun : Agree ((Sweep.run config.pinRoot line (visible config)).runOn s)
      ((Sweep.run config.pinRoot line (visible config)).runOn
        (s.withCaches committed working)) := by
    rw [Sweep.run_announced, Sweep.run_announced, hannounced]
    refine (hvisible.tryCatch fun e => ignoresCache_throw (.visibility e)).bind fun visible => ?_
    refine (ignoresCache_find config.pinRoot visible).bind fun findings => ?_
    exact (ignoresCache_deleteAll _).bind fun _ => ignoresCache_pure _
  refine (hrun.tryCatch fun e => ignoresCache_rollback.bind fun _ => ignoresCache_throw e).bind ?_
  intro outcome
  exact ignoresCache_commit.bind fun _ => ignoresCache_pure outcome

end Repository
end CommitStore
