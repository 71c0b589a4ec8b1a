import CommitStore.Proofs.OpenSession
import CommitStore.Proofs.WalkOrder
import CommitStore.Session.Objects
import Mathlib.Logic.Function.Iterate
import Mathlib.Order.Lattice.Nat
set_option autoImplicit false

/-!
# The rounds of a walk

`visits` says what a walk visits. A walk comes to it round by round: the first id leaves the queue,
and if it is new, it is visited, and those of its parents that were not visited yet are put at the
end. So ids are compared with those that were visited twice, when they enter the queue and when they
leave it. The first comparison only keeps the queue short: `visits` passes over an id that was seen,
wherever in the queue it stands (`visits_leaveOut`).

`turn_round` says once what a round can do. Two facts on whole runs follow from it. What was visited
and what is still ahead make up the same list at any time; and every round lessens the work that is
left, which is the length of the queue and the number of parents of all that is ahead. So the number
of rounds after which the queue is empty can be told in advance, and what was visited by then is the
walk.

Last, the order of a walk is put in numbers. The distance of an id is the length of a shortest path
to it, and along a walk it never falls.
-/

namespace CommitStore
namespace Ancestry

variable {g : Ancestry} {stops : Oid → Bool} {seen : List Oid} {oid : Oid}

/-! ## 1. Seen ids in the queue -/

theorem visits_of_seen (h : oid ∈ seen) (rest : List Oid) :
    g.visits stops seen (oid :: rest) = g.visits stops seen rest := by
  rw [visits, if_pos h]

/-- An id that was seen can be left out of the queue. -/
theorem visits_leaveOut (h : oid ∈ seen) (before after : List Oid) :
    g.visits stops seen (before ++ oid :: after) = g.visits stops seen (before ++ after) := by
  -- The induction is on the walk without the id: it comes to an end, or takes its first id from
  -- `before`, or has used `before` up, and then the id is first in the other queue.
  generalize hqueue : before ++ after = queue
  induction seen, queue using visits.induct g stops generalizing before after with
  | case1 seen =>
    obtain ⟨rfl, rfl⟩ := List.append_eq_nil_iff.mp hqueue
    exact visits_of_seen h []
  | case2 seen first rest hseen ih =>
    cases before with
    | nil => rw [List.nil_append, visits_of_seen h, ← hqueue, List.nil_append]
    | cons _ before =>
      obtain ⟨rfl, hrest⟩ := List.cons.inj hqueue
      rw [List.cons_append, visits_of_seen hseen, visits_of_seen hseen]
      exact ih h before after hrest
  | case3 seen first rest hnew ih =>
    simp only [dite_eq_ite] at ih
    cases before with
    | nil => rw [List.nil_append, visits_of_seen h, ← hqueue, List.nil_append]
    | cons _ before =>
      obtain ⟨rfl, rfl⟩ := List.cons.inj hqueue
      rw [List.cons_append, visits, if_neg hnew, visits, if_neg hnew]
      rw [List.append_assoc, List.cons_append]
      rw [ih (List.mem_cons_of_mem _ h) before _ (List.append_assoc _ _ _).symm]

/-- A walk loses nothing if only ids that were not seen enter the queue. -/
theorem visits_filter (waiting entering : List Oid) :
    g.visits stops seen (waiting ++ entering.filter fun x => x ∉ seen) =
      g.visits stops seen (waiting ++ entering) := by
  induction entering generalizing waiting with
  | nil => rfl
  | cons first rest ih =>
    by_cases hseen : first ∈ seen
    · rw [List.filter_cons_of_neg (by simpa using hseen), visits_leaveOut hseen]
      exact ih waiting
    · rw [List.filter_cons_of_pos (by simpa using hseen), List.append_cons,
        List.append_cons waiting first rest]
      exact ih (waiting ++ [first])

/-! ## 2. Rounds -/

/-- How far a walk has come: what it has visited, in order, and what waits. -/
structure Progress where
  visited : List Oid
  queue : List Oid
  deriving DecidableEq, Repr

/-- A walk that has not begun. -/
def Progress.atStart (start : Oid) : Progress := ⟨[], [start]⟩

/-- One round of a walk. The parents of an id at which the walk stops do not enter the queue, nor do
those that were visited. -/
def round (g : Ancestry) (stops : Oid → Bool) (p : Progress) : Progress :=
  match p.queue with
  | [] => p
  | oid :: rest =>
    if oid ∈ p.visited then ⟨p.visited, rest⟩
    else
      let visited := p.visited ++ [oid]
      if stops oid then ⟨visited, rest⟩
      else ⟨visited, rest ++ (g.parents oid).filter fun parent => parent ∉ visited⟩

/-- How far a walk has come after some rounds. -/
def progress (g : Ancestry) (start : Oid) (stops : Oid → Bool) (rounds : Nat) : Progress :=
  (g.round stops)^[rounds] (.atStart start)

namespace Progress

/-- What a walk visits from now on. -/
def ahead (g : Ancestry) (stops : Oid → Bool) (p : Progress) : List Oid :=
  g.visits stops p.visited.reverse p.queue

/-- A bound on the rounds that are left: what waits, and what may still enter the queue. -/
def work (g : Ancestry) (stops : Oid → Bool) (p : Progress) : Nat :=
  p.queue.length + ((p.ahead g stops).flatMap g.parents).length

/-- What a round can do: nothing where the walk is at its end; pass over an id that was visited; or
visit one, and then no more than its parents enter the queue. -/
inductive Turn (g : Ancestry) (stops : Oid → Bool) (p p' : Progress) : Prop
  | idle (ended : p.queue = []) (same : p' = p)
  | skip {oid : Oid} (first : p.queue = oid :: p'.queue) (visited : p'.visited = p.visited)
      (ahead : p.ahead g stops = p'.ahead g stops)
  | visit {oid : Oid} {rest : List Oid} (first : p.queue = oid :: rest)
      (visited : p'.visited = p.visited ++ [oid])
      (queue : p'.queue.length ≤ rest.length + (g.parents oid).length)
      (ahead : p.ahead g stops = oid :: p'.ahead g stops)

theorem turn_round (g : Ancestry) (stops : Oid → Bool) (p : Progress) :
    Turn g stops p (g.round stops p) := by
  obtain ⟨visited, queue⟩ := p
  cases queue with
  | nil => exact .idle rfl rfl
  | cons oid rest =>
    by_cases hvisited : oid ∈ visited
    · have hround : g.round stops ⟨visited, oid :: rest⟩ = ⟨visited, rest⟩ := if_pos hvisited
      rw [hround]
      exact .skip rfl rfl (visits_of_seen (List.mem_reverse.mpr hvisited) rest)
    · have hnew : oid ∉ visited.reverse := by simpa using hvisited
      have hahead : ahead g stops ⟨visited, oid :: rest⟩ = oid :: g.visits stops
          (visited ++ [oid]).reverse (rest ++ if stops oid then [] else g.parents oid) := by
        rw [ahead, visits, if_neg hnew, List.reverse_append]
        rfl
      cases hstops : stops oid with
      | true =>
        have hround : g.round stops ⟨visited, oid :: rest⟩ = ⟨visited ++ [oid], rest⟩ := by
          simp [round, hvisited, hstops]
        rw [hround]
        refine .visit rfl rfl (Nat.le_add_right _ _) ?_
        rw [hahead, hstops, if_pos rfl, List.append_nil]
        rfl
      | false =>
        have hround : g.round stops ⟨visited, oid :: rest⟩ = ⟨visited ++ [oid],
            rest ++ (g.parents oid).filter fun parent => parent ∉ visited ++ [oid]⟩ := by
          simp [round, hvisited, hstops]
        rw [hround]
        refine .visit rfl rfl ?_ ?_
        · rw [List.length_append]
          exact Nat.add_le_add_left (List.length_filter_le _ _) _
        · -- `visits` puts all parents into the queue, and loses none of them to the filter.
          rw [hahead, hstops, if_neg Bool.false_ne_true, ← visits_filter]
          simp only [ahead, List.mem_reverse]

/-- A round changes nothing about what the walk visits in all. -/
theorem visited_append_ahead_round (g : Ancestry) (stops : Oid → Bool) (p : Progress) :
    (g.round stops p).visited ++ (g.round stops p).ahead g stops =
      p.visited ++ p.ahead g stops := by
  cases turn_round g stops p with
  | idle _ same => rw [same]
  | skip _ visited ahead => rw [visited, ahead]
  | visit _ visited _ ahead => rw [visited, ahead, ← List.append_cons]

/-- A round lessens the work unless the walk is at its end. -/
theorem work_round_lt {p : Progress} (h : p.queue ≠ []) :
    (g.round stops p).work g stops < p.work g stops := by
  unfold work
  cases turn_round g stops p with
  | idle ended _ => exact absurd ended h
  | skip first _ ahead =>
    rw [first, ahead, List.length_cons]
    omega
  | visit first _ queue ahead =>
    rw [first, ahead, List.length_cons, List.flatMap_cons, List.length_append]
    omega

theorem ahead_of_ended {p : Progress} (h : p.queue = []) : p.ahead g stops = [] := by
  rw [ahead, h, visits]

theorem round_of_ended {p : Progress} (h : p.queue = []) : g.round stops p = p := by
  rw [round, h]

/-! ## 3. Runs -/

/-- No number of rounds changes anything about what the walk visits in all. -/
theorem visited_append_ahead_rounds (g : Ancestry) (stops : Oid → Bool) (p : Progress)
    (rounds : Nat) :
    ((g.round stops)^[rounds] p).visited ++ ((g.round stops)^[rounds] p).ahead g stops =
      p.visited ++ p.ahead g stops := by
  induction rounds generalizing p with
  | zero => rfl
  | succ rounds ih =>
    rw [Function.iterate_succ_apply, ih (g.round stops p)]
    exact visited_append_ahead_round g stops p

/-- A run that has as many rounds as there was work is at its end. -/
theorem queue_rounds {p : Progress} {rounds : Nat} (h : p.work g stops ≤ rounds) :
    ((g.round stops)^[rounds] p).queue = [] := by
  induction rounds generalizing p with
  | zero =>
    have hlength : p.queue.length = 0 := by
      unfold work at h
      omega
    exact List.length_eq_zero_iff.mp hlength
  | succ rounds ih =>
    rw [Function.iterate_succ_apply]
    apply ih
    by_cases hended : p.queue = []
    · -- Then there is no work, before the round or after it.
      rw [round_of_ended hended, work, ahead_of_ended hended, hended]
      exact Nat.zero_le rounds
    · have hless : (g.round stops p).work g stops < p.work g stops := work_round_lt hended
      omega

/-- Such a run has visited all that there was to visit. -/
theorem rounds_eq {p : Progress} {rounds : Nat} (h : p.work g stops ≤ rounds) :
    (g.round stops)^[rounds] p = ⟨p.visited ++ p.ahead g stops, []⟩ := by
  have hqueue := queue_rounds h
  have hvisited := visited_append_ahead_rounds g stops p rounds
  rw [ahead_of_ended hqueue, List.append_nil] at hvisited
  rw [← hvisited, ← hqueue]

theorem ahead_atStart (g : Ancestry) (start : Oid) (stops : Oid → Bool) :
    (atStart start).ahead g stops = g.walk start stops := rfl

end Progress

/-- What has been visited after some rounds is how the walk begins. -/
theorem visited_prefix_walk (g : Ancestry) (start : Oid) (stops : Oid → Bool) (rounds : Nat) :
    (g.progress start stops rounds).visited <+: g.walk start stops :=
  ⟨_, Progress.visited_append_ahead_rounds g stops (.atStart start) rounds⟩

/-- A walk is at its end after a round for the id that it starts from and one for each parent of
what it visits. -/
theorem progress_eq_walk (g : Ancestry) (start : Oid) (stops : Oid → Bool) {rounds : Nat}
    (h : ((g.walk start stops).flatMap g.parents).length < rounds) :
    g.progress start stops rounds = ⟨g.walk start stops, []⟩ := by
  apply Progress.rounds_eq
  rw [Progress.work, Progress.ahead_atStart, Progress.atStart, List.length_singleton]
  omega

/-! ## 4. Distances -/

/-- The length of a shortest path, for an id to which there is one. -/
noncomputable def distance (g : Ancestry) (stops : Oid → Prop) (start oid : Oid) : Nat :=
  sInf {steps | g.ReachesIn stops steps start oid}

theorem isLeast_distance {stops : Oid → Prop} {start oid : Oid}
    (h : ∃ steps, g.ReachesIn stops steps start oid) :
    IsLeast {steps | g.ReachesIn stops steps start oid} (g.distance stops start oid) :=
  ⟨Nat.sInf_mem h, fun _ hsteps => Nat.sInf_le hsteps⟩

theorem NotFarther.distance_le {stops : Oid → Prop} {start near far : Oid}
    (h : g.NotFarther stops start near far) (hfar : ∃ steps, g.ReachesIn stops steps start far) :
    g.distance stops start near ≤ g.distance stops start far := by
  obtain ⟨fewer, hle, hfewer⟩ := h _ (isLeast_distance hfar).1
  exact le_trans (Nat.sInf_le hfewer) hle

theorem mem_walk_iff_exists_steps (g : Ancestry) (start : Oid) (stops : Oid → Bool) (x : Oid) :
    x ∈ g.walk start stops ↔ ∃ steps, g.ReachesIn (stops · = true) steps start x := by
  rw [mem_walk_iff, reachesUnder_iff_exists_steps]

/-- Along a walk the distance never falls. -/
theorem pairwise_distances (g : Ancestry) (start : Oid) (stops : Oid → Bool) :
    ((g.walk start stops).map (g.distance (stops · = true) start)).Pairwise (· ≤ ·) := by
  rw [List.pairwise_map]
  refine (pairwise_walk g start stops).imp_of_mem fun _ hfar hnotFarther => ?_
  exact hnotFarther.distance_le ((mem_walk_iff_exists_steps g start stops _).mp hfar)

/-! ## 5. The whole walk -/

theorem nodup_visits (g : Ancestry) (stops : Oid → Bool) (seen queue : List Oid) :
    (g.visits stops seen queue).Nodup := by
  induction seen, queue using visits.induct g stops with
  | case1 seen =>
    rw [visits]
    exact List.nodup_nil
  | case2 seen oid rest hseen ih =>
    rw [visits_of_seen hseen]
    exact ih
  | case3 seen oid rest hnew ih =>
    simp only [dite_eq_ite] at ih
    rw [visits, if_neg hnew]
    refine List.nodup_cons.mpr ⟨fun hlater => ?_, ih⟩
    exact ((mem_visits_iff g stops _ _ oid).mp hlater).1 List.mem_cons_self

theorem walk_eq_cons (g : Ancestry) (start : Oid) (stops : Oid → Bool) :
    g.walk start stops =
      start :: g.visits stops [start] (if stops start then [] else g.parents start) := by
  rw [walk, visits, if_neg List.not_mem_nil, List.nil_append]

theorem walk_of_stops {start : Oid} (h : stops start = true) : g.walk start stops = [start] := by
  rw [walk_eq_cons, if_pos h, visits]

end Ancestry

/-- An open session answers with the walk, also where it need not look at the tables. -/
theorem ObjectRows.walk_runOn {s : Session} (h : s.IsOpen) (start : Oid) (stopAt : List Oid) :
    (ObjectRows.walk start stopAt).runOn s =
      (.ok (s.working.objects.ancestry.walk start stopAt.contains), s) := by
  by_cases hstart : start ∈ stopAt
  · rw [ObjectRows.walk, if_pos hstart,
      Ancestry.walk_of_stops (List.contains_iff_mem.mpr hstart), Action.runOn_pure]
  · rw [ObjectRows.walk, if_neg hstart, Action.runOn_read h]

namespace Ancestry

/-- **What a walk does.** After any number of rounds it has visited the beginning of one list, and
after a round for the start and one for each parent of what it visits it is at its end, with that
list. No id is in the list twice, and the start comes first; the members are the ids to which a path
leads that does not go on from any id at which the walk stops; and they stand in the order of their
distances, the lengths of the shortest such paths. This list is what an open session answers. -/
theorem walk_exact (g : Ancestry) (start : Oid) (stops : Oid → Bool) :
    let visited := g.walk start stops
    let distance := g.distance (stops · = true) start
    (∀ rounds, (g.progress start stops rounds).visited <+: visited) ∧
      (∀ rounds > (visited.flatMap g.parents).length,
        g.progress start stops rounds = ⟨visited, []⟩) ∧
      visited.Nodup ∧
      visited.head? = some start ∧
      (∀ x, x ∈ visited ↔ ∃ steps, g.ReachesIn (stops · = true) steps start x) ∧
      (∀ x ∈ visited, IsLeast {steps | g.ReachesIn (stops · = true) steps start x} (distance x)) ∧
      (visited.map distance).Pairwise (· ≤ ·) ∧
      ∀ s : Session, s.IsOpen → s.working.objects.ancestry = g →
        ∀ stopAt : List Oid, stopAt.contains = stops →
          (ObjectRows.walk start stopAt).runOn s = (.ok visited, s) := by
  intro visited distance
  have hmem : ∀ x, x ∈ visited ↔ ∃ steps, g.ReachesIn (stops · = true) steps start x :=
    mem_walk_iff_exists_steps g start stops
  refine ⟨visited_prefix_walk g start stops, ?_, nodup_visits g stops _ _, ?_, hmem, ?_,
    pairwise_distances g start stops, ?_⟩
  · intro rounds hrounds
    exact progress_eq_walk g start stops hrounds
  · show (g.walk start stops).head? = some start
    rw [walk_eq_cons, List.head?_cons]
  · intro x hx
    exact isLeast_distance ((hmem x).mp hx)
  · rintro s hopen rfl stopAt rfl
    exact ObjectRows.walk_runOn hopen start stopAt

/-- `a` is a parent of its own, merges `b` twice with `c`, and is reached again by way of `d`; the
parent of `c` is `e`. -/
def loopedStore : ObjectStore where
  objects :=
    [⟨"a", .commit, some "b", none, none, none, default⟩,
      ⟨"b", .commit, some "d", none, none, none, default⟩,
      ⟨"c", .commit, some "e", none, none, none, default⟩,
      ⟨"d", .commit, some "a", none, none, none, default⟩,
      ⟨"e", .commit, none, none, none, none, default⟩]
  links := [⟨"a", "b", 0⟩, ⟨"a", "a", 1⟩, ⟨"a", "c", 2⟩, ⟨"a", "b", 3⟩]
  nodup := by decide

theorem loopedStore_parents :
    let parents := loopedStore.ancestry.parents
    parents "a" = ["b", "a", "c", "b"] ∧ parents "b" = ["d"] ∧ parents "c" = ["e"] ∧
      parents "d" = ["a"] := by
  simp [ObjectStore.ancestry, ObjectStore.parents, ObjectStore.get?, loopedStore,
    List.mergeSort_of_pairwise]

/-- The theorem at a store whose graph runs in circles, for a walk that stops at `c`. -/
theorem walk_exact_looped :
    let s := Session.start { Tables.empty with objects := loopedStore } false default
    let g := loopedStore.ancestry
    let stops := (["c"] : List Oid).contains
    s.IsOpen ∧
      (ObjectRows.walk "a" ["c"]).runOn s = (.ok ["a", "b", "c", "d"], s) ∧
      g.progress "a" stops 8 = ⟨["a", "b", "c", "d"], []⟩ ∧
      g.distance (stops · = true) "a" "c" ≤ g.distance (stops · = true) "a" "d" ∧
      ¬ ∃ steps, g.ReachesIn (stops · = true) steps "a" "e" := by
  intro s g stops
  obtain ⟨ha, hb, hc, hd⟩ := loopedStore_parents
  have hopen : s.IsOpen := by decide
  have hwalk : g.walk "a" stops = ["a", "b", "c", "d"] := by
    simp [walk, visits, g, stops, ha, hb, hd]
  have hparents : ((g.walk "a" stops).flatMap g.parents).length < 8 := by
    simp [hwalk, g, ha, hb, hc, hd]
  obtain ⟨_, hrounds, _, _, hmem, _, horder, hanswer⟩ := walk_exact g "a" stops
  refine ⟨hopen, ?_, ?_, ?_, ?_⟩
  · rw [hanswer s hopen rfl ["c"] rfl, hwalk]
  · rw [hrounds 8 hparents, hwalk]
  · rw [hwalk] at horder
    simp only [List.map_cons, List.pairwise_cons] at horder
    exact horder.2.2.1 _ List.mem_cons_self
  · rw [← hmem, hwalk]
    decide

end Ancestry
end CommitStore
