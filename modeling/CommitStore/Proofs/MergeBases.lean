import CommitStore.Proofs.CacheAnswers
import CommitStore.Proofs.WalkOrder
import Mathlib.Data.Nat.Find
set_option autoImplicit false

/-!
# What merge bases mean

The merge base of two ids is found by one walk against all ancestors of the other id, and it is the
best one in the sense of the walk only: of the common ancestors it is one that is the fewest parents
away from the greater of the two ids. With merges it need not come after the other common ancestors.
Where no id has more than one parent it does, because there the common ancestors lie on one line.

Whether one id is an ancestor of another one is decided by way of the merge base, and still the
answer is reachability. Neither question depends on what was asked before: a sound cache stays sound
through any list of questions.
-/

namespace CommitStore
namespace Ancestry

variable {g : Ancestry} {cache : MergeBaseCache}

/-! ## 1. Common ancestors -/

/-- Both ids reach the third one. -/
def IsCommon (g : Ancestry) (a b oid : Oid) : Prop := g.Reaches a oid ∧ g.Reaches b oid

/-- No other id that is wanted is fewer parents away. -/
structure IsNearest (g : Ancestry) (wanted : Oid → Prop) (start oid : Oid) : Prop where
  isWanted : wanted oid
  nearest : ∃ steps, g.ReachesIn (fun _ => False) steps start oid ∧
    ∀ other, wanted other → ∀ more, g.ReachesIn (fun _ => False) more start other → steps ≤ more

/-- What two ids reach has one parent at most, which may be listed more than once. -/
def IsLinearFrom (g : Ancestry) (a b : Oid) : Prop :=
  ∀ oid, g.Reaches a oid ∨ g.Reaches b oid →
    ∀ p q, g.IsParent oid p → g.IsParent oid q → p = q

/-- What an id reaches has one parent at most. -/
def IsLine (g : Ancestry) (start : Oid) : Prop :=
  ∀ oid, g.Reaches start oid → ∀ p q, g.IsParent oid p → g.IsParent oid q → p = q

theorem isCommon_comm (a b : Oid) : g.IsCommon a b = g.IsCommon b a :=
  funext fun _ => propext and_comm

theorem reaches_iff_exists_steps {a b : Oid} :
    g.Reaches a b ↔ ∃ steps, g.ReachesIn (fun _ => False) steps a b := by
  rw [← reachesUnder_iff_exists_steps]
  exact (reachesUnder_false_iff fun _ h => h).symm

theorem pairwise_ancestors (g : Ancestry) (start : Oid) :
    (g.ancestors start).Pairwise (g.NotFarther (fun _ => False) start) := by
  have h := g.pairwise_walk start fun _ => false
  simp only [Bool.false_eq_true] at h
  exact h

/-- An id to which there is a path at all has a shortest one. -/
theorem IsNearest.of_notFarther {wanted : Oid → Prop} {start oid : Oid} (hwanted : wanted oid)
    (hreach : g.Reaches start oid)
    (h : ∀ other, wanted other → g.NotFarther (fun _ => False) start oid other) :
    g.IsNearest wanted start oid := by
  classical
  have hpath := reaches_iff_exists_steps.mp hreach
  refine ⟨hwanted, Nat.find hpath, Nat.find_spec hpath, ?_⟩
  intro other hother more hmore
  obtain ⟨fewer, hle, hfewer⟩ := h other hother more hmore
  exact le_trans (Nat.find_min' hpath hfewer) hle

/-- **The walk finds a nearest common ancestor.** It passes over the ids that are not common, and
what comes behind the first one that is lies no nearer. -/
theorem firstCommon_isNearest {lhs rhs base : Oid} (h : g.firstCommon lhs rhs = some base) :
    g.IsNearest (g.IsCommon lhs rhs) rhs base := by
  have hcommon : g.IsCommon lhs rhs base := firstCommon_eq_some h
  refine IsNearest.of_notFarther hcommon hcommon.2 fun other hother => ?_
  unfold firstCommon at h
  obtain ⟨_, before, after, hsplit, hbefore⟩ := List.find?_eq_some_iff_append.mp h
  have hmem : other ∈ before ++ base :: after :=
    hsplit ▸ (mem_ancestors_iff g rhs other).mpr hother.2
  rcases List.mem_append.mp hmem with hskipped | hlater
  · have hnot := hbefore other hskipped
    have hfound : (g.ancestors lhs).contains other = true :=
      List.contains_iff_mem.mpr ((mem_ancestors_iff g lhs other).mpr hother.1)
    rw [hfound] at hnot
    cases hnot
  · rcases List.mem_cons.mp hlater with rfl | hafter
    · exact fun steps hpath => ⟨steps, le_rfl, hpath⟩
    · have horder := hsplit ▸ pairwise_ancestors g rhs
      exact List.rel_of_pairwise_cons (List.pairwise_append.mp horder).2.1 hafter

/-! ## 2. Lines -/

theorem ReachesIn.reaches {steps : Nat} {a b : Oid} (h : g.ReachesIn (fun _ => False) steps a b) :
    g.Reaches a b := reaches_iff_exists_steps.mpr ⟨steps, h⟩

/-- On a line there is one id at each distance. -/
theorem ReachesIn.eq_of_line {start : Oid} (hline : g.IsLine start) {steps : Nat} {a b : Oid}
    (ha : g.ReachesIn (fun _ => False) steps start a)
    (hb : g.ReachesIn (fun _ => False) steps start b) : a = b := by
  induction steps generalizing a b with
  | zero => exact Eq.trans (show a = start from ha) (show b = start from hb).symm
  | succ steps ih =>
    obtain ⟨c, hc, _, hca⟩ := ha
    obtain ⟨d, hd, _, hdb⟩ := hb
    obtain rfl := ih hc hd
    exact hline c hc.reaches a b hca hdb

/-- A path passes an id at each of the smaller distances. -/
theorem ReachesIn.exists_between {fewer steps : Nat} (hle : fewer ≤ steps) {a b : Oid}
    (h : g.ReachesIn (fun _ => False) steps a b) :
    ∃ c, g.ReachesIn (fun _ => False) fewer a c ∧ g.Reaches c b := by
  induction steps, hle using Nat.le_induction generalizing b with
  | base => exact ⟨b, h, Relation.ReflTransGen.refl⟩
  | succ steps _ ih =>
    obtain ⟨d, hd, _, hparent⟩ := h
    obtain ⟨c, hc, hreach⟩ := ih hd
    exact ⟨c, hc, hreach.tail hparent⟩

/-- On a line the nearest id comes before all others. -/
theorem IsNearest.reaches_of_line {wanted : Oid → Prop} {start oid other : Oid}
    (h : g.IsNearest wanted start oid) (hline : g.IsLine start) (hother : wanted other)
    (hreach : g.Reaches start other) : g.Reaches oid other := by
  obtain ⟨steps, hsteps, hleast⟩ := h.nearest
  obtain ⟨more, hmore⟩ := reaches_iff_exists_steps.mp hreach
  obtain ⟨passed, hpassed, hon⟩ := hmore.exists_between (hleast other hother more hmore)
  obtain rfl := hpassed.eq_of_line hline hsteps
  exact hon

/-! ## 3. Questions -/

/-- A question that looks at the cache. -/
inductive Question where
  | mergeBase (a b : Oid)
  | isAncestor (ancestor oid : Oid)

/-- The cache after a question. -/
def asked (g : Ancestry) (cache : MergeBaseCache) : Question → MergeBaseCache
  | .mergeBase a b => (g.mergeBase cache a b).2
  | .isAncestor ancestor oid => (g.isAncestor cache ancestor oid).2

theorem SoundCache.asked (h : g.SoundCache cache) (question : Question) :
    g.SoundCache (g.asked cache question) := by
  cases question with
  | mergeBase a b => exact h.mergeBase a b
  | isAncestor ancestor oid => exact h.mergeBase ancestor oid

/-- A sound cache stays sound, whatever is asked. -/
theorem SoundCache.foldl_asked (h : g.SoundCache cache) (questions : List Question) :
    g.SoundCache (questions.foldl g.asked cache) := by
  induction questions generalizing cache with
  | nil => exact h
  | cons question rest ih => exact ih (h.asked question)

end Ancestry

namespace ObjectRows

variable {s : Session}

theorem mergeBase_runOn (h : s.IsOpen) (a b : Oid) :
    (mergeBase a b).runOn s =
      let found := s.working.objects.ancestry.mergeBase s.working.mergeBases a b
      (.ok found.1, s.onTables (s.working.withCache found.2)) := by
  by_cases hab : a = b
  · rw [mergeBase, if_pos hab, Ancestry.mergeBase, if_pos hab]
    rfl
  · rw [mergeBase, if_neg hab, Action.runOn_bind_of_ok (Action.runOn_read h _),
      Action.runOn_bind_of_ok (Action.runOn_update h _)]
    rfl

theorem isAncestor_runOn (h : s.IsOpen) (ancestor oid : Oid) :
    (isAncestor ancestor oid).runOn s =
      let found := s.working.objects.ancestry.isAncestor s.working.mergeBases ancestor oid
      (.ok found.1, s.onTables (s.working.withCache found.2)) := by
  rw [isAncestor, Action.runOn_bind_of_ok (mergeBase_runOn h ancestor oid)]
  by_cases hab : ancestor = oid
  · subst hab
    simp [Ancestry.isAncestor, Ancestry.mergeBase, Ancestry.reachesFrom]
  · rw [if_neg hab, Action.runOn_read (h.onTables _)]
    rfl

end ObjectRows

namespace Ancestry

variable {g : Ancestry} {cache : MergeBaseCache}

/-! ## 4. What the questions answer -/

/-- **`isAncestor` answers reachability.** Whatever sound cache it starts from, and whatever has been
asked before: an id is found to be an ancestor if and only if a path of no, one or more parents
leads to it. The cache stays sound, and an open session gets this answer. -/
theorem isAncestor_exact (g : Ancestry) (cache : MergeBaseCache) (hsound : g.SoundCache cache)
    (earlier : List Question) (ancestor oid : Oid) :
    let current := earlier.foldl g.asked cache
    let found := g.isAncestor current ancestor oid
    (found.1 = true ↔ g.Reaches oid ancestor) ∧
      found.1 = (g.isAncestor cache ancestor oid).1 ∧
      g.SoundCache found.2 ∧
      ∀ s : Session, s.IsOpen → s.working.objects.ancestry = g → s.working.mergeBases = current →
        (ObjectRows.isAncestor ancestor oid).runOn s =
          (.ok found.1, s.onTables (s.working.withCache found.2)) := by
  intro current found
  have hcurrent : g.SoundCache current := hsound.foldl_asked earlier
  refine ⟨hcurrent.isAncestor_iff ancestor oid, ?_, hcurrent.asked (.isAncestor ancestor oid), ?_⟩
  · exact (hcurrent.sameAnswers hsound).isAncestor ancestor oid
  · rintro s hopen rfl hcache
    rw [ObjectRows.isAncestor_runOn hopen, hcache]

/-- `z` merges `q`, on which `a` comes before `r`, with `r`; `c` starts at `a`. -/
def mergedAncestry : Ancestry where
  parents oid :=
    if oid = "z" then ["r", "q"] else if oid = "q" then ["a"] else if oid = "c" then ["a"]
    else if oid = "a" then ["r"] else []
  nodes := ["z", "q", "c", "a"]
  parents_of_not_mem := by
    intro oid h
    simp only [List.mem_cons, List.not_mem_nil, or_false, not_or] at h
    simp [h]

theorem mergedAncestry_sound : mergedAncestry.SoundCache [⟨"a", "z", some "r"⟩] := by
  intro row hrow
  rw [List.mem_singleton.mp hrow]
  cbv

/-- The theorem where the cached base is an older id than the ancestor. -/
theorem isAncestor_exact_merged :
    let current := [Question.mergeBase "c" "q"].foldl mergedAncestry.asked [⟨"a", "z", some "r"⟩]
    mergedAncestry.Reaches "z" "a" ∧
      (mergedAncestry.mergeBase current "a" "z").1 = some "r" ∧
      (mergedAncestry.isAncestor current "a" "z").1 = true := by
  intro current
  have hreach : mergedAncestry.Reaches "z" "a" :=
    (Relation.ReflTransGen.single (show "q" ∈ mergedAncestry.parents "z" by decide)).tail
      (show "a" ∈ mergedAncestry.parents "q" by decide)
  refine ⟨hreach, by cbv, ?_⟩
  exact (isAncestor_exact mergedAncestry [⟨"a", "z", some "r"⟩] mergedAncestry_sound
    [.mergeBase "c" "q"] "a" "z").1.mpr hreach

/-! ## 5. What a merge base is -/

/-- The greater of two ids. -/
def greater (a b : Oid) : Oid := if Text.before a b then b else a

theorem ordered_of_before {a b : Oid} (h : Text.before a b = true) : ordered a b = (a, b) := by
  unfold ordered
  refine if_neg fun hback => ?_
  exact Bool.noConfusion ((Text.not_before_self a).symm.trans (Text.before_trans h hback))

theorem ordered_comm (a b : Oid) : ordered a b = ordered b a := by
  by_cases hab : Text.before a b = true
  · rw [ordered_of_before hab, ordered, if_pos hab]
  · by_cases hba : Text.before b a = true
    · rw [ordered_of_before hba, ordered, if_pos hba]
    · obtain rfl := Text.eq_of_not_before (Bool.eq_false_iff.mpr hab) (Bool.eq_false_iff.mpr hba)
      rfl

theorem mergeBase_comm (g : Ancestry) (cache : MergeBaseCache) (a b : Oid) :
    g.mergeBase cache a b = g.mergeBase cache b a := by
  by_cases hab : a = b
  · rw [hab]
  · rw [mergeBase_of_ne g cache hab, mergeBase_of_ne g cache (Ne.symm hab), ordered_comm]

/-- No merge base is found if and only if there is no common ancestor. -/
theorem SoundCache.mergeBase_eq_none_iff (h : g.SoundCache cache) (a b : Oid) :
    (g.mergeBase cache a b).1 = none ↔ ∀ c, ¬ g.IsCommon a b c := by
  by_cases hab : a = b
  · subst hab
    rw [Ancestry.mergeBase, if_pos rfl]
    refine ⟨fun hnone => absurd hnone (Option.some_ne_none a), fun hno => ?_⟩
    exact absurd ⟨Relation.ReflTransGen.refl, Relation.ReflTransGen.refl⟩ (hno a)
  rw [h.mergeBase_eq hab]
  have hpair : g.IsCommon (ordered a b).1 (ordered a b).2 = g.IsCommon a b := by
    rcases ordered_cases a b with ho | ho <;> rw [ho]
    exact isCommon_comm b a
  rw [← hpair]
  constructor
  · exact fun hnone c hcommon => firstCommon_eq_none hnone c hcommon.1 hcommon.2
  · intro hno
    rw [Option.eq_none_iff_forall_ne_some]
    exact fun base hbase => hno base (firstCommon_eq_some hbase)

/-- The merge base of two different ids is a common ancestor that is nearest to the greater one. -/
theorem SoundCache.mergeBase_isNearest (h : g.SoundCache cache) {a b base : Oid} (hab : a ≠ b)
    (hbase : (g.mergeBase cache a b).1 = some base) :
    g.IsNearest (g.IsCommon a b) (greater a b) base := by
  rw [h.mergeBase_eq hab] at hbase
  by_cases hbefore : Text.before a b = true
  · rw [ordered_of_before hbefore] at hbase
    rw [greater, if_pos hbefore]
    exact firstCommon_isNearest hbase
  · have hback : Text.before b a = true := by
      refine Decidable.byContradiction fun hnot => hab ?_
      exact Text.eq_of_not_before (Bool.eq_false_iff.mpr hbefore) (Bool.eq_false_iff.mpr hnot)
    rw [ordered_comm, ordered_of_before hback] at hbase
    rw [greater, if_neg hbefore, isCommon_comm]
    exact firstCommon_isNearest hbase

/-- Where no id has more than one parent, all common ancestors come after the merge base. -/
theorem SoundCache.reaches_of_mergeBase (h : g.SoundCache cache) {a b base : Oid}
    (hbase : (g.mergeBase cache a b).1 = some base) (hlinear : g.IsLinearFrom a b) {c : Oid}
    (hc : g.IsCommon a b c) : g.Reaches base c := by
  by_cases hab : a = b
  · rw [Ancestry.mergeBase, if_pos hab] at hbase
    cases hbase
    exact hc.1
  · have hnearest := h.mergeBase_isNearest hab hbase
    unfold greater at hnearest
    split at hnearest
    · exact hnearest.reaches_of_line (fun x hx => hlinear x (Or.inr hx)) hc hc.2
    · exact hnearest.reaches_of_line (fun x hx => hlinear x (Or.inl hx)) hc hc.1

/-- **What a merge base is.** With any sound cache the order of the two ids makes no difference, and
there is no merge base only where there is no common ancestor. Otherwise the merge base is a common
ancestor, one that is the fewest parents away from the greater of the two ids; and where no id has
more than one parent, it is where the two lines part. The cache stays sound, and an open session gets
this answer. -/
theorem mergeBase_exact (g : Ancestry) (cache : MergeBaseCache) (hsound : g.SoundCache cache)
    (a b : Oid) :
    let found := g.mergeBase cache a b
    g.mergeBase cache b a = found ∧
      (found.1 = none ↔ ∀ c, ¬ g.IsCommon a b c) ∧
      (∀ base, found.1 = some base →
        g.IsCommon a b base ∧
        (a ≠ b → g.IsNearest (g.IsCommon a b) (greater a b) base) ∧
        (g.IsLinearFrom a b → ∀ c, g.IsCommon a b c → g.Reaches base c)) ∧
      g.SoundCache found.2 ∧
      ∀ s : Session, s.IsOpen → s.working.objects.ancestry = g → s.working.mergeBases = cache →
        (ObjectRows.mergeBase a b).runOn s =
          (.ok found.1, s.onTables (s.working.withCache found.2)) := by
  intro found
  refine ⟨mergeBase_comm g cache b a, hsound.mergeBase_eq_none_iff a b, ?_, hsound.mergeBase a b, ?_⟩
  · intro base hbase
    refine ⟨?_, fun hab => hsound.mergeBase_isNearest hab hbase, fun hlinear c hc =>
      hsound.reaches_of_mergeBase hbase hlinear hc⟩
    by_cases hab : a = b
    · subst hab
      have hself : some a = some base := by
        simpa only [found, Ancestry.mergeBase, if_true] using hbase
      cases hself
      exact ⟨Relation.ReflTransGen.refl, Relation.ReflTransGen.refl⟩
    · exact (hsound.mergeBase_isNearest hab hbase).isWanted
  · rintro s hopen rfl rfl
    exact ObjectRows.mergeBase_runOn hopen a b

/-- The heads `x` and `y` both merge `p` with `q`, which part at `r`. -/
def crossedAncestry : Ancestry where
  parents oid :=
    if oid = "x" then ["p", "q"] else if oid = "y" then ["q", "p"] else if oid = "p" then ["r"]
    else if oid = "q" then ["r"] else []
  nodes := ["x", "y", "p", "q"]
  parents_of_not_mem := by
    intro oid h
    simp only [List.mem_cons, List.not_mem_nil, or_false, not_or] at h
    simp [h]

theorem crossedAncestry_sound : crossedAncestry.SoundCache [⟨"p", "q", some "r"⟩] := by
  intro row hrow
  rw [List.mem_singleton.mp hrow]
  cbv

/-- What `p` and `q` reach lies on two lines. -/
theorem crossedAncestry_linear : crossedAncestry.IsLinearFrom "p" "q" := by
  have hends : ∀ oid, crossedAncestry.Reaches "p" oid ∨ crossedAncestry.Reaches "q" oid →
      oid = "p" ∨ oid = "q" ∨ oid = "r" := by
    rintro oid (h | h) <;> induction h with
    | refl => simp
    | tail _ hstep ih =>
      rcases ih with rfl | rfl | rfl <;> simp_all [crossedAncestry, IsParent]
  intro oid hoid p q hp hq
  rcases hends oid hoid with rfl | rfl | rfl <;> simp_all [crossedAncestry, IsParent]

/-- The theorem at two merges, for which the walk decides, and at the two lines that they merge, for
which there is a row. -/
theorem mergeBase_exact_crossed :
    let cache : MergeBaseCache := [⟨"p", "q", some "r"⟩]
    ((crossedAncestry.mergeBase cache "y" "x").1 = some "q" ∧
        crossedAncestry.IsNearest (crossedAncestry.IsCommon "x" "y") "y" "q") ∧
      (crossedAncestry.mergeBase cache "p" "q").1 = some "r" ∧
        ∀ c, crossedAncestry.IsCommon "p" "q" c → crossedAncestry.Reaches "r" c := by
  intro cache
  obtain ⟨hswap, _, hmerges, _⟩ :=
    mergeBase_exact crossedAncestry cache crossedAncestry_sound "x" "y"
  obtain ⟨_, _, hlines, _⟩ := mergeBase_exact crossedAncestry cache crossedAncestry_sound "p" "q"
  have hwalked : (crossedAncestry.mergeBase cache "x" "y").1 = some "q" := by cbv
  have hcached : (crossedAncestry.mergeBase cache "p" "q").1 = some "r" := by cbv
  refine ⟨⟨hswap ▸ hwalked, ?_⟩, hcached, (hlines "r" hcached).2.2 crossedAncestry_linear⟩
  exact (hmerges "q" hwalked).2.1 (by decide)

end Ancestry
end CommitStore
