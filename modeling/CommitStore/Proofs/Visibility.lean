import CommitStore.Proofs.Reachability
import CommitStore.VisibleSet
import Mathlib.Data.List.Sort
set_option autoImplicit false

/-!
# What the visible set is

`VisibleSet.compute` is a walk with a set of ids that count as seen before it starts, and with a
stop condition that is itself answered by a search through a cache. Both are taken away here.

`mem_compute_iff` says what the walk computes whatever the cache answers: the tip of main, and what
the roots reach through ids at which the walk does not stop. Roots are visible in any case, and all
that is visible is reached from a root or is the tip of main. Nothing about the cache is needed for
that, and the facts on pins rest on it.

With a sound cache the stop condition is reachability from main. Then stopping at main hides nothing
that main does not contain: of a visible commit every ancestor is visible or on main.
-/

namespace CommitStore

/-! ## 1. Lists in order, and active commits -/

/-- Lists in the strict order of their keys with the same members are the same. -/
theorem Text.eq_of_mem_iff {α : Type} (key : α → String) {as bs : List α}
    (ha : as.Pairwise fun a b => before (key a) (key b) = true)
    (hb : bs.Pairwise fun a b => before (key a) (key b) = true) (h : ∀ x, x ∈ as ↔ x ∈ bs) :
    as = bs := by
  have : Std.Irrefl fun a b => before (key a) (key b) = true :=
    ⟨fun a hself => Bool.false_ne_true ((not_before_self (key a)).symm.trans hself)⟩
  have : Std.Antisymm fun a b => before (key a) (key b) = true :=
    ⟨fun a b hab hba =>
      absurd (before_trans hab hba) (Bool.eq_false_iff.mp (not_before_self (key a)))⟩
  exact ha.eq_of_mem_iff hb h

theorem Replay.mem_active_iff (r : Replay) (oid : Oid) :
    oid ∈ r.active ↔ r.visibility? oid = some .visible := by
  simp only [active, visibility?, List.mem_map, List.mem_filter, beq_iff_eq]
  constructor
  · rintro ⟨⟨key, visibility⟩, ⟨hmem, rfl⟩, rfl⟩
    exact (r.state.mem_entries_iff key .visible).mp hmem
  · intro h
    exact ⟨(oid, .visible), ⟨(r.state.mem_entries_iff oid .visible).mpr h, rfl⟩, rfl⟩

namespace VisibleSet

/-! ## 2. Roots -/

/-- An id from which the walk starts: the tip of a branch, the head, or a stored active commit. -/
def Roots.IsRoot (roots : Roots) (isStored : Oid → Bool) (oid : Oid) : Prop :=
  oid ∈ roots.branches ∨ roots.head = some oid ∨ (oid ∈ roots.active ∧ isStored oid = true)

/-- Main contains an id: its tip is the id or reaches it. -/
def OnMain (g : Ancestry) (main : Option Oid) (oid : Oid) : Prop :=
  ∃ tip, main = some tip ∧ g.Reaches tip oid

theorem get?_foldl_insert (oids : List Oid) (m : NameMap Unit) (x : Oid) :
    (oids.foldl (fun m oid => m.insert oid ()) m).get? x = some () ↔
      x ∈ oids ∨ m.get? x = some () := by
  induction oids generalizing m with
  | nil => simp
  | cons oid rest ih =>
    rw [List.foldl_cons, ih, NameMap.get?_insert, List.mem_cons]
    by_cases h : x = oid <;> simp [h]

theorem mem_inOrder_iff (oids : List Oid) (x : Oid) : x ∈ inOrder oids ↔ x ∈ oids := by
  rw [inOrder, NameMap.mem_names_iff]
  constructor
  · rintro ⟨⟨⟩, h⟩
    rcases (get?_foldl_insert oids .empty x).mp h with h | h
    · exact h
    · rw [NameMap.get?_empty] at h
      cases h
  · intro h
    exact ⟨(), (get?_foldl_insert oids .empty x).mpr (Or.inl h)⟩

/-- The walk starts from the roots, the tip of main apart. -/
theorem mem_starts_iff (roots : Roots) (isStored : Oid → Bool) (x : Oid) :
    x ∈ roots.starts isStored ↔ roots.IsRoot isStored x ∧ roots.main ≠ some x := by
  rw [Roots.starts, mem_inOrder_iff]
  simp only [List.mem_filter, List.mem_append, Option.mem_toList, bne_iff_ne, ne_eq,
    Roots.IsRoot, or_assoc, eq_comm (a := some x)]

/-! ## 3. The walk with any cache -/

/-- The ids at which the walk stops: those that the cache finds on main, and the tip of main. -/
def StopsAt (g : Ancestry) (cache : MergeBaseCache) (main : Option Oid) (oid : Oid) : Prop :=
  onMain g cache main oid = true ∨ main = some oid

/-- What is visible, whatever the cache answers. -/
theorem mem_compute_iff (g : Ancestry) (cache : MergeBaseCache) (isStored : Oid → Bool)
    (roots : Roots) (x : Oid) :
    x ∈ (compute g cache isStored roots).1 ↔
      roots.main = some x ∨
        ∃ root, roots.IsRoot isStored root ∧
          g.ReachesUnder (StopsAt g cache roots.main) root x := by
  have hstops : (fun oid => onMain g cache roots.main oid = true ∨ oid ∈ roots.main.toList) =
      StopsAt g cache roots.main := by
    funext oid
    simp [StopsAt, Option.mem_toList]
  show x ∈ inOrder (roots.main.toList ++ walk g cache isStored roots) ↔ _
  rw [mem_inOrder_iff, List.mem_append, walk, Ancestry.mem_visits_iff, hstops, Option.mem_toList]
  simp only [mem_starts_iff]
  constructor
  · rintro (hmain | ⟨_, root, ⟨hroot, _⟩, hpath⟩)
    · exact Or.inl hmain
    · exact Or.inr ⟨root, hroot, hpath⟩
  · rintro (hmain | ⟨root, hroot, hpath⟩)
    · exact Or.inl hmain
    · by_cases hx : roots.main = some x
      · exact Or.inl hx
      · refine Or.inr ⟨hx, root, ⟨hroot, fun htip => ?_⟩, hpath⟩
        -- A path from the tip of main ends there, and `x` is not the tip.
        have hend : x = root := hpath.eq_of_stops (Or.inr htip)
        exact hx (hend ▸ htip)

theorem mem_compute_of_isRoot {g : Ancestry} {cache : MergeBaseCache} {isStored : Oid → Bool}
    {roots : Roots} {x : Oid} (h : roots.IsRoot isStored x) :
    x ∈ (compute g cache isStored roots).1 :=
  (mem_compute_iff g cache isStored roots x).mpr (Or.inr ⟨x, h, Relation.ReflTransGen.refl⟩)

/-! ## 4. The walk with a sound cache -/

theorem stopsAt_iff {g : Ancestry} {cache : MergeBaseCache} (h : g.SoundCache cache)
    (main : Option Oid) (oid : Oid) : StopsAt g cache main oid ↔ OnMain g main oid := by
  cases main with
  | none => simp [StopsAt, onMain, OnMain]
  | some tip =>
    simp only [StopsAt, onMain, Option.any_some, h.isAncestor_iff, OnMain, Option.some.injEq,
      exists_eq_left']
    constructor
    · rintro (hreach | rfl)
      · exact hreach
      · exact Relation.ReflTransGen.refl
    · exact Or.inl

theorem OnMain.of_reaches {g : Ancestry} {main : Option Oid} {a b : Oid} (h : OnMain g main a)
    (hab : g.Reaches a b) : OnMain g main b := by
  obtain ⟨tip, hmain, htip⟩ := h
  exact ⟨tip, hmain, htip.trans hab⟩

/-- **The visible set.** With a sound cache the visible ids are the tip of main and those to which
a path leads from a root that stops where it meets main. So every ancestor of a visible id is
visible or on main, and without a main branch all ancestors of the roots are visible. -/
theorem mem_compute_iff_path (g : Ancestry) (cache : MergeBaseCache) (hcache : g.SoundCache cache)
    (isStored : Oid → Bool) (r : Replay) (head main : Option Oid) (branches : List Oid) :
    let roots : Roots := ⟨head, main, branches, r.active⟩
    let visible := (compute g cache isStored roots).1
    let isRoot := fun root => root ∈ branches ∨ head = some root ∨
      (r.visibility? root = some .visible ∧ isStored root = true)
    (∀ c, c ∈ visible ↔ main = some c ∨
        ∃ root, isRoot root ∧ g.ReachesUnder (OnMain g main) root c) ∧
      (∀ d ∈ visible, ∀ c, g.Reaches d c → c ∈ visible ∨ OnMain g main c) ∧
      (main = none → ∀ c, c ∈ visible ↔ ∃ root, isRoot root ∧ g.Reaches root c) := by
  intro roots visible isRoot
  have hroots : ∀ root, roots.IsRoot isStored root ↔ isRoot root := by
    intro root
    show root ∈ branches ∨ head = some root ∨ (root ∈ r.active ∧ isStored root = true) ↔ _
    rw [r.mem_active_iff]
  have hstops : StopsAt g cache main = OnMain g main :=
    funext fun oid => propext (stopsAt_iff hcache main oid)
  have hmem : ∀ c, c ∈ visible ↔ main = some c ∨
      ∃ root, isRoot root ∧ g.ReachesUnder (OnMain g main) root c := by
    intro c
    rw [mem_compute_iff]
    simp only [hroots]
    rw [show roots.main = main from rfl, hstops]
  refine ⟨hmem, ?_, ?_⟩
  · intro d hd c hreach
    induction hreach with
    | refl => exact Or.inl hd
    | @tail b c _ hstep ih =>
      -- Either the walk goes on at `b`, or main contains `b` and with it the parents of `b`.
      have hparent : g.Reaches b c := Relation.ReflTransGen.single hstep
      by_cases hb : OnMain g main b
      · exact Or.inr (hb.of_reaches hparent)
      · have hvisible : b ∈ visible := ih.resolve_right hb
        rcases (hmem b).mp hvisible with htip | ⟨root, hroot, hpath⟩
        · exact absurd ⟨b, htip, Relation.ReflTransGen.refl⟩ hb
        · exact Or.inl ((hmem c).mpr (Or.inr ⟨root, hroot, hpath.tail ⟨hb, hstep⟩⟩))
  · intro hmain c
    have hnever : ∀ oid, ¬ OnMain g main oid := by
      rintro oid ⟨tip, htip, _⟩
      rw [hmain] at htip
      cases htip
    rw [hmem c]
    constructor
    · rintro (htip | ⟨root, hroot, hpath⟩)
      · rw [hmain] at htip
        cases htip
      · exact ⟨root, hroot, hpath.reaches⟩
    · rintro ⟨root, hroot, hreach⟩
      exact Or.inr ⟨root, hroot, (Ancestry.reachesUnder_false_iff hnever).mpr hreach⟩

/-- Main is at `m`, and its history runs in a circle; `x` merges `y`, twice, with a commit of
main. -/
def circleAncestry : Ancestry where
  parents oid :=
    if oid = "m" then ["b"] else if oid = "b" then ["a"] else if oid = "a" then ["b"]
    else if oid = "x" then ["y", "b", "y"] else []
  nodes := ["m", "b", "a", "x"]
  parents_of_not_mem := by
    intro oid h
    simp only [List.mem_cons, List.not_mem_nil, or_false, not_or] at h
    simp [h]

theorem circleAncestry_main {c : Oid} (h : circleAncestry.Reaches "m" c) :
    c = "m" ∨ c = "b" ∨ c = "a" := by
  induction h with
  | refl => exact Or.inl rfl
  | tail _ hstep ih =>
    rcases ih with rfl | rfl | rfl <;> simp_all [circleAncestry, Ancestry.IsParent]

/-- The theorem at a cache with a row for the base of the circle and the tip of main. -/
theorem mem_compute_iff_path_circle :
    let cache : MergeBaseCache := [⟨"b", "m", some "b"⟩]
    circleAncestry.SoundCache cache ∧
      "y" ∈ (compute circleAncestry cache (fun _ => true)
        ⟨some "x", some "m", ["m"], Replay.start.active⟩).1 := by
  intro cache
  have hcache : circleAncestry.SoundCache cache := by
    intro row hrow
    rw [List.mem_singleton.mp hrow]
    cbv
  have hx : ¬ OnMain circleAncestry (some "m") "x" := by
    rintro ⟨tip, htip, hreach⟩
    cases htip
    simpa using circleAncestry_main hreach
  have hpath : circleAncestry.ReachesUnder (OnMain circleAncestry (some "m")) "x" "y" :=
    Relation.ReflTransGen.single ⟨hx, by simp [circleAncestry, Ancestry.IsParent]⟩
  have hiff := (mem_compute_iff_path circleAncestry cache hcache (fun _ => true) Replay.start
    (some "x") (some "m") ["m"]).1 "y"
  exact ⟨hcache, hiff.mpr (Or.inr ⟨"x", Or.inr (Or.inl rfl), hpath⟩)⟩

end VisibleSet
end CommitStore
