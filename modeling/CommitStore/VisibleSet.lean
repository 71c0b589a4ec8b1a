import CommitStore.Event.Replay
import CommitStore.MergeBase
set_option autoImplicit false

/-!
# The visible set

The visible commits are the outstanding work of a user together with the points where it attaches
to the main branch. The roots are the tips of the branches, the head, and each commit that the event
log says is visible and that is still stored. From the roots the walk goes back through parents and
stops at every commit that the main branch contains already. The tip of the main branch is visible
in any case, and is no root.

Whether main contains a commit is asked of the merge-base cache, once for each commit that the walk
visits. No two commits share a row with the tip of main, so every question is answered from the rows
that were there before the walk; the rows that the answers add are collected afterwards.
-/

namespace CommitStore

/-- What the visible set is computed from. -/
structure VisibleSet.Roots where
  head : Option Oid
  main : Option Oid
  branches : List Oid
  active : List Oid

namespace VisibleSet

/-! ## 1. Roots -/

/-- A list of ids in order, each id once. -/
def inOrder (oids : List Oid) : List Oid :=
  (oids.foldl (fun m oid => m.insert oid ()) (NameMap.empty : NameMap Unit)).names

/-- The ids that the walk starts from, in order. -/
def Roots.starts (roots : Roots) (isStored : Oid → Bool) : List Oid :=
  inOrder ((roots.branches ++ roots.head.toList ++ roots.active.filter isStored).filter
    fun oid => some oid != roots.main)

/-! ## 2. The walk -/

/-- Whether the main branch contains a commit. -/
def onMain (g : Ancestry) (cache : MergeBaseCache) (main : Option Oid) (oid : Oid) : Bool :=
  main.any fun main => (g.isAncestor cache oid main).1

/-- The visible commits apart from the tip of main, in the order of the walk. -/
def walk (g : Ancestry) (cache : MergeBaseCache) (isStored : Oid → Bool) (roots : Roots) :
    List Oid :=
  g.visits (onMain g cache roots.main) roots.main.toList (roots.starts isStored)

/-- The cache after the questions about the visited commits. -/
def remember (g : Ancestry) (cache : MergeBaseCache) (main : Option Oid) (visited : List Oid) :
    MergeBaseCache :=
  match main with
  | none => cache
  | some main => visited.foldl (fun cache oid => (g.isAncestor cache oid main).2) cache

/-- The visible commits in the order of their ids, and the cache afterwards. -/
def compute (g : Ancestry) (cache : MergeBaseCache) (isStored : Oid → Bool) (roots : Roots) :
    List Oid × MergeBaseCache :=
  let visited := walk g cache isStored roots
  (inOrder (roots.main.toList ++ visited), remember g cache roots.main visited)

end VisibleSet
end CommitStore
