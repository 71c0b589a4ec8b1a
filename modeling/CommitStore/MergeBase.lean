import CommitStore.Ancestry
import CommitStore.Text.Order
set_option autoImplicit false

/-!
# Merge bases and their cache

The merge base of two ids is the first common ancestor that a walk from the greater of the two
meets. The pair is put in order first, so that both orders of the arguments share one answer and one
row of the cache. The cache also keeps the answer that there is no common ancestor.

A row of the cache wins over the walk: `mergeBase` trusts the cache, and says in its second
component what the cache is afterwards.
-/

namespace CommitStore

/-- A cached merge base; `base` is `none` if the two have no common ancestor. -/
structure MergeBaseRow where
  lhs : Oid
  rhs : Oid
  base : Option Oid
  deriving DecidableEq, Repr, Inhabited

/-- All cached merge bases, each pair at most once. -/
abbrev MergeBaseCache := List MergeBaseRow

namespace MergeBaseCache

/-! ## 1. Rows -/

/-- The row of a pair. -/
def row? (cache : MergeBaseCache) (lhs rhs : Oid) : Option MergeBaseRow :=
  cache.find? fun row => row.lhs == lhs && row.rhs == rhs

/-- The cache with the base of one pair set. -/
def record : MergeBaseCache → Oid → Oid → Option Oid → MergeBaseCache
  | [], lhs, rhs, base => [⟨lhs, rhs, base⟩]
  | row :: rest, lhs, rhs, base =>
    if row.lhs = lhs ∧ row.rhs = rhs then ⟨lhs, rhs, base⟩ :: rest
    else row :: record rest lhs rhs base

/-- The order of a listing: by the first id, then by the second. -/
def MergeBaseRow.before (a b : MergeBaseRow) : Bool :=
  Text.before a.lhs b.lhs || (a.lhs == b.lhs && Text.notAfter a.rhs b.rhs)

/-- The rows in the order of their pairs. -/
def listing (cache : MergeBaseCache) : List MergeBaseRow := cache.mergeSort MergeBaseRow.before

end MergeBaseCache

namespace Ancestry

/-! ## 2. Queries -/

/-- The first id on the walk from `rhs` that is an ancestor of `lhs`. -/
def firstCommon (g : Ancestry) (lhs rhs : Oid) : Option Oid :=
  let others := g.ancestors lhs
  (g.ancestors rhs).find? others.contains

/-- Two ids in order. -/
def ordered (a b : Oid) : Oid × Oid := if Text.before b a then (b, a) else (a, b)

/-- The merge base of two ids, and the cache afterwards. -/
def mergeBase (g : Ancestry) (cache : MergeBaseCache) (a b : Oid) :
    Option Oid × MergeBaseCache :=
  if a = b then (some a, cache)
  else
    let (lhs, rhs) := ordered a b
    match cache.row? lhs rhs with
    | some row => (row.base, cache)
    | none =>
      -- The answer is kept even when there is no common ancestor.
      let base := g.firstCommon lhs rhs
      (base, cache.record lhs rhs base)

/-- Whether `ancestor` is reached from `oid` when their merge base is known. Where two lines were
merged, the base can be an older commit than `ancestor`, so then the walk decides. -/
def reachesFrom (g : Ancestry) (base : Option Oid) (ancestor oid : Oid) : Bool :=
  match base with
  | none => false
  | some base => base == ancestor || (g.ancestors oid).contains ancestor

/-- Whether `ancestor` is `oid` or one of its ancestors, and the cache afterwards. -/
def isAncestor (g : Ancestry) (cache : MergeBaseCache) (ancestor oid : Oid) :
    Bool × MergeBaseCache :=
  let (base, cache) := g.mergeBase cache ancestor oid
  (g.reachesFrom base ancestor oid, cache)

end Ancestry
end CommitStore
