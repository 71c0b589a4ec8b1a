import CommitStore.MergeBase
import Mathlib.Logic.Relation
set_option autoImplicit false

/-!
# Reachability through parents

`Reaches` is the reachability that the walks of `Ancestry` are about: parents lead from one id to
another. `ReachesUnder` is the same with ids at which a path may end but does not go on.

The main statement is `mem_visits_iff`. It says of *every* state of the breadth-first walk which ids
are still to come, and needs no invariant between the queue and the seen ids: an id comes if it was
not seen and a path leads to it from the queue through unseen ids at which the walk does not stop.
What makes this work is `last_departure`: a path that passes an id can be entered where it leaves
that id for the last time, so marking the id as seen cuts no other id off.

From this follow the answers to the two queries on merge bases: `firstCommon` finds a common
ancestor if there is one, and so `isAncestor` answers reachability, whatever the cache holds, as
long as each of its rows holds the answer that an empty cache would give (`SoundCache`).
-/

namespace CommitStore
namespace Ancestry

/-! ## 1. Paths -/

/-- One id is a parent of another one. -/
def IsParent (g : Ancestry) (child parent : Oid) : Prop := parent ∈ g.parents child

/-- Parents lead from one id to another; every id reaches itself. -/
def Reaches (g : Ancestry) : Oid → Oid → Prop := Relation.ReflTransGen g.IsParent

/-- Parents lead from one id to another, and no id on the way, the last one apart, is one at which
paths stop. -/
def ReachesUnder (g : Ancestry) (stops : Oid → Prop) : Oid → Oid → Prop :=
  Relation.ReflTransGen fun child parent => ¬ stops child ∧ g.IsParent child parent

theorem ReachesUnder.reaches {g : Ancestry} {stops : Oid → Prop} {a b : Oid}
    (h : g.ReachesUnder stops a b) : g.Reaches a b :=
  Relation.ReflTransGen.mono (fun _ _ hstep => hstep.2) _ _ h

theorem ReachesUnder.mono {g : Ancestry} {stops stops' : Oid → Prop}
    (hstops : ∀ oid, stops' oid → stops oid) {a b : Oid} (h : g.ReachesUnder stops a b) :
    g.ReachesUnder stops' a b :=
  Relation.ReflTransGen.mono (fun _ _ hstep => ⟨fun hs => hstep.1 (hstops _ hs), hstep.2⟩) _ _ h

theorem reachesUnder_false_iff {g : Ancestry} {stops : Oid → Prop} (hstops : ∀ oid, ¬ stops oid)
    {a b : Oid} : g.ReachesUnder stops a b ↔ g.Reaches a b :=
  ⟨ReachesUnder.reaches,
    Relation.ReflTransGen.mono (fun child _ hstep => ⟨hstops child, hstep⟩) _ _⟩

/-- A path that starts where it has to stop is at its end. -/
theorem ReachesUnder.eq_of_stops {g : Ancestry} {stops : Oid → Prop} {a b : Oid}
    (h : g.ReachesUnder stops a b) (ha : stops a) : b = a := by
  rcases Relation.ReflTransGen.cases_head h with hab | ⟨c, hstep, _⟩
  · exact hab.symm
  · exact absurd ha hstep.1

/-- A path to another id than `x` either avoids `x` or leaves it for a last time: then a parent of
`x` leads on, and what follows avoids `x`. -/
theorem last_departure {g : Ancestry} {stops : Oid → Prop} {x a b : Oid}
    (h : g.ReachesUnder stops a b) (hb : b ≠ x) :
    g.ReachesUnder (fun oid => stops oid ∨ oid = x) a b ∨
      ∃ p, (¬ stops x ∧ g.IsParent x p) ∧
        g.ReachesUnder (fun oid => stops oid ∨ oid = x) p b := by
  induction h using Relation.ReflTransGen.head_induction_on with
  | refl => exact Or.inl Relation.ReflTransGen.refl
  | @head a c hstep _ ih =>
    rcases ih with havoids | hleaves
    · by_cases hax : a = x
      · subst hax
        exact Or.inr ⟨c, hstep, havoids⟩
      · refine Or.inl (Relation.ReflTransGen.head ⟨?_, hstep.2⟩ havoids)
        rintro (hs | hs)
        · exact hstep.1 hs
        · exact hax hs
    · exact Or.inr hleaves

/-! ## 2. Which ids a walk visits -/

/-- The ids that a walk in any state still visits. -/
theorem mem_visits_iff (g : Ancestry) (stops : Oid → Bool) (seen queue : List Oid) (x : Oid) :
    x ∈ g.visits stops seen queue ↔
      x ∉ seen ∧ ∃ q ∈ queue, g.ReachesUnder (fun oid => stops oid = true ∨ oid ∈ seen) q x := by
  induction seen, queue using visits.induct g stops with
  | case1 seen => simp [visits]
  | case2 seen oid rest hseen ih =>
    rw [visits, if_pos hseen, ih]
    refine and_congr_right fun hx => ⟨?_, ?_⟩
    · rintro ⟨q, hq, hpath⟩
      exact ⟨q, List.mem_cons_of_mem _ hq, hpath⟩
    · rintro ⟨q, hq, hpath⟩
      rcases List.mem_cons.mp hq with rfl | hq
      · -- A path from an id that was seen goes nowhere else, and `x` was not seen.
        exact absurd (hpath.eq_of_stops (Or.inr hseen) ▸ hseen) hx
      · exact ⟨q, hq, hpath⟩
  | case3 seen oid rest hnew ih =>
    simp only [dite_eq_ite] at ih
    rw [visits, if_neg hnew, List.mem_cons, ih]
    -- Marking `oid` as seen is stopping at it.
    have hstops : ∀ y : Oid, (stops y = true ∨ y ∈ oid :: seen) ↔
        ((stops y = true ∨ y ∈ seen) ∨ y = oid) := by
      intro y
      rw [List.mem_cons, or_comm (a := y = oid), or_assoc]
    have hnext : ∀ p, p ∈ (if stops oid then [] else g.parents oid) ↔
        ¬ (stops oid = true ∨ oid ∈ seen) ∧ g.IsParent oid p := by
      intro p
      by_cases hs : stops oid = true <;> simp [hs, hnew, IsParent]
    simp only [hstops]
    constructor
    · rintro (rfl | ⟨hx, q, hq, hpath⟩)
      · exact ⟨hnew, x, List.mem_cons_self, Relation.ReflTransGen.refl⟩
      · have hpath' : g.ReachesUnder (fun y => stops y = true ∨ y ∈ seen) q x :=
          hpath.mono fun y hy => Or.inl hy
        refine ⟨fun hmem => hx (List.mem_cons_of_mem _ hmem), ?_⟩
        rcases List.mem_append.mp hq with hq | hq
        · exact ⟨q, List.mem_cons_of_mem _ hq, hpath'⟩
        · exact ⟨oid, List.mem_cons_self,
            Relation.ReflTransGen.head ((hnext q).mp hq) hpath'⟩
    · rintro ⟨hx, q, hq, hpath⟩
      by_cases hxo : x = oid
      · exact Or.inl hxo
      · refine Or.inr ⟨by simp [hxo, hx], ?_⟩
        rcases last_departure hpath hxo with havoids | ⟨p, hp, havoids⟩
        · rcases List.mem_cons.mp hq with rfl | hq
          · exact absurd (havoids.eq_of_stops (Or.inr rfl)) hxo
          · exact ⟨q, List.mem_append_left _ hq, havoids⟩
        · exact ⟨p, List.mem_append_right _ ((hnext p).mpr hp), havoids⟩

theorem mem_walk_iff (g : Ancestry) (start : Oid) (stops : Oid → Bool) (x : Oid) :
    x ∈ g.walk start stops ↔ g.ReachesUnder (fun oid => stops oid = true) start x := by
  simp [walk, mem_visits_iff]

theorem mem_ancestors_iff (g : Ancestry) (start x : Oid) :
    x ∈ g.ancestors start ↔ g.Reaches start x := by
  rw [ancestors, mem_walk_iff]
  exact reachesUnder_false_iff fun oid h => Bool.noConfusion h

/-! ## 3. Merge bases -/

theorem firstCommon_eq_some {g : Ancestry} {lhs rhs base : Oid}
    (h : g.firstCommon lhs rhs = some base) : g.Reaches lhs base ∧ g.Reaches rhs base := by
  unfold firstCommon at h
  have hlhs : (g.ancestors lhs).contains base = true := by
    simpa using List.find?_some h
  refine ⟨(mem_ancestors_iff g lhs base).mp (List.contains_iff_mem.mp hlhs), ?_⟩
  exact (mem_ancestors_iff g rhs base).mp (List.mem_of_find?_eq_some h)

theorem firstCommon_eq_none {g : Ancestry} {lhs rhs : Oid} (h : g.firstCommon lhs rhs = none)
    (c : Oid) (hlhs : g.Reaches lhs c) : ¬ g.Reaches rhs c := by
  intro hrhs
  unfold firstCommon at h
  have hnot := List.find?_eq_none.mp h c ((mem_ancestors_iff g rhs c).mpr hrhs)
  exact hnot (List.contains_iff_mem.mpr ((mem_ancestors_iff g lhs c).mpr hlhs))

/-- A cache each of whose rows holds what its pair gets from an empty cache. -/
def SoundCache (g : Ancestry) (cache : MergeBaseCache) : Prop :=
  ∀ row ∈ cache, row.base = (g.mergeBase [] row.lhs row.rhs).1

theorem ordered_cases (a b : Oid) : ordered a b = (a, b) ∨ ordered a b = (b, a) := by
  unfold ordered
  split
  · exact Or.inr rfl
  · exact Or.inl rfl

theorem ordered_ordered (a b : Oid) : ordered (ordered a b).1 (ordered a b).2 = ordered a b := by
  by_cases h : Text.before b a = true
  · have hnot : Text.before a b = false := by
      rw [Bool.eq_false_iff]
      intro hab
      exact Bool.noConfusion ((Text.not_before_self a).symm.trans (Text.before_trans hab h))
    simp [ordered, h, hnot]
  · simp [ordered, h]

theorem mergeBase_nil {g : Ancestry} {a b : Oid} (hab : a ≠ b) :
    (g.mergeBase [] a b).1 = g.firstCommon (ordered a b).1 (ordered a b).2 := by
  simp [mergeBase, hab, MergeBaseCache.row?]

/-- With a sound cache the merge base of two ids is the one that an empty cache would give. -/
theorem SoundCache.mergeBase_eq {g : Ancestry} {cache : MergeBaseCache} (h : g.SoundCache cache)
    {a b : Oid} (hab : a ≠ b) :
    (g.mergeBase cache a b).1 = g.firstCommon (ordered a b).1 (ordered a b).2 := by
  unfold mergeBase
  rw [if_neg hab]
  dsimp only
  cases hrow : cache.row? (ordered a b).1 (ordered a b).2 with
  | none => rfl
  | some row =>
    unfold MergeBaseCache.row? at hrow
    have hkey : row.lhs = (ordered a b).1 ∧ row.rhs = (ordered a b).2 := by
      simpa using List.find?_some hrow
    have hne : row.lhs ≠ row.rhs := by
      rw [hkey.1, hkey.2]
      rcases ordered_cases a b with ho | ho <;> rw [ho]
      · exact hab
      · exact Ne.symm hab
    show row.base = _
    rw [h row (List.mem_of_find?_eq_some hrow), mergeBase_nil hne, hkey.1, hkey.2,
      ordered_ordered]

/-- **With a sound cache `isAncestor` answers reachability.** -/
theorem SoundCache.isAncestor_iff {g : Ancestry} {cache : MergeBaseCache} (h : g.SoundCache cache)
    (ancestor oid : Oid) :
    (g.isAncestor cache ancestor oid).1 = true ↔ g.Reaches oid ancestor := by
  unfold isAncestor
  dsimp only
  by_cases hab : ancestor = oid
  · subst hab
    simp only [mergeBase, if_true, reachesFrom, beq_self_eq_true, Bool.true_or, true_iff]
    exact Relation.ReflTransGen.refl
  · rw [h.mergeBase_eq hab]
    cases hbase : g.firstCommon (ordered ancestor oid).1 (ordered ancestor oid).2 with
    | none =>
      -- Without a common ancestor `ancestor`, which is one of its own, is none of `oid`.
      simp only [reachesFrom, Bool.false_eq_true, false_iff]
      intro hreach
      rcases ordered_cases ancestor oid with ho | ho <;> rw [ho] at hbase
      · exact firstCommon_eq_none hbase ancestor Relation.ReflTransGen.refl hreach
      · exact firstCommon_eq_none hbase ancestor hreach Relation.ReflTransGen.refl
    | some base =>
      have hcommon : g.Reaches oid base := by
        rcases ordered_cases ancestor oid with ho | ho <;> rw [ho] at hbase
        · exact (firstCommon_eq_some hbase).2
        · exact (firstCommon_eq_some hbase).1
      simp only [reachesFrom, Bool.or_eq_true, beq_iff_eq, List.contains_iff_mem,
        mem_ancestors_iff]
      constructor
      · rintro (rfl | hreach)
        · exact hcommon
        · exact hreach
      · exact Or.inr

end Ancestry
end CommitStore
