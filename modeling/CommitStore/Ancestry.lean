import CommitStore.Object.Store
set_option autoImplicit false

/-!
# Ancestry

An `Ancestry` is a finite parent relation. Cycles, repeated parents and parents that are no nodes
themselves are allowed; the one promise is that an id outside `nodes` has no parents.

`visits` walks such a relation breadth first. Ids that were seen before are passed over, so every id
is visited at most once, and the walk does not go on to the parents of an id at which it stops. Each
step either visits an id for the first time or shortens the queue, which is why the walk ends: only
nodes put anything into the queue, and there are finitely many of them.
-/

namespace CommitStore

/-- A finite parent relation. -/
structure Ancestry where
  parents : Oid → List Oid
  nodes : List Oid
  parents_of_not_mem : ∀ oid, oid ∉ nodes → parents oid = []

namespace Ancestry

/-! ## 1. Breadth first -/

/-- The nodes that have not been seen. -/
def unseen (g : Ancestry) (seen : List Oid) : List Oid := g.nodes.filter fun oid => oid ∉ seen

theorem unseen_cons (g : Ancestry) (seen : List Oid) (oid : Oid) :
    g.unseen (oid :: seen) = (g.unseen seen).filter fun x => x ≠ oid := by
  simp [unseen, List.filter_filter, List.mem_cons, not_or]

theorem unseen_cons_length_le (g : Ancestry) (seen : List Oid) (oid : Oid) :
    (g.unseen (oid :: seen)).length ≤ (g.unseen seen).length := by
  rw [unseen_cons]
  exact List.length_filter_le _ _

theorem unseen_cons_length_lt (g : Ancestry) (seen : List Oid) (oid : Oid) (hnode : oid ∈ g.nodes)
    (hnew : oid ∉ seen) : (g.unseen (oid :: seen)).length < (g.unseen seen).length := by
  rw [unseen_cons]
  refine List.length_filter_lt_length_iff_exists.2 ⟨oid, ?_, by simp⟩
  simp [unseen, hnode, hnew]

/-- The ids that are visited when `queue` waits and `seen` has been passed, in order. -/
def visits (g : Ancestry) (stops : Oid → Bool) (seen queue : List Oid) : List Oid :=
  match queue with
  | [] => []
  | oid :: rest =>
    if oid ∈ seen then g.visits stops seen rest
    else oid :: g.visits stops (oid :: seen) (rest ++ if stops oid then [] else g.parents oid)
  termination_by ((g.unseen seen).length, queue.length)
  decreasing_by
    -- An id that was seen before leaves the queue, and nothing enters it.
    · exact Prod.Lex.right _ (by simp)
    · next hnew =>
      -- A new node leaves the unseen ones; any other new id has no parents to put into the queue.
      by_cases hnode : oid ∈ g.nodes
      · exact Prod.Lex.left _ _ (g.unseen_cons_length_lt seen oid hnode hnew)
      · have hparents : g.parents oid = [] := g.parents_of_not_mem oid hnode
        rcases Nat.lt_or_eq_of_le (g.unseen_cons_length_le seen oid) with h | h
        · exact Prod.Lex.left _ _ h
        · rw [h]
          exact Prod.Lex.right _ (by simp [hparents])

/-- The ids that are reached from one id through parents, nearest first; the parents of an id at
which the walk stops are not followed. -/
def walk (g : Ancestry) (start : Oid) (stops : Oid → Bool) : List Oid := g.visits stops [] [start]

/-- An id with all its ancestors, nearest first. -/
def ancestors (g : Ancestry) (start : Oid) : List Oid := g.walk start fun _ => false

end Ancestry

/-! ## 2. The ancestry of stored objects -/

/-- The parent relation of the stored objects. -/
def ObjectStore.ancestry (s : ObjectStore) : Ancestry where
  parents := s.parents
  nodes := s.objects.map (·.oid) ++ s.links.map (·.commit)
  parents_of_not_mem := by
    intro oid hnot
    rw [List.mem_append, not_or] at hnot
    have hlinks : s.links.filter (fun link => link.commit == oid) = [] := by
      rw [List.filter_eq_nil_iff]
      intro link hlink hcommit
      exact hnot.2 (List.mem_map.2 ⟨link, hlink, by simpa using hcommit⟩)
    have hrow : s.get? oid = none := (s.get?_eq_none_iff oid).2 hnot.1
    simp [ObjectStore.parents, hlinks, hrow]

end CommitStore
