import CommitStore.Proofs.Reachability
set_option autoImplicit false

/-!
# The order of a walk

A breadth-first walk visits nearer ids before farther ones. `ReachesIn` counts the steps of a path,
and `NotFarther` compares two ids by their shortest paths from the start of the walk.

What carries the proof is that the queue holds ids of two neighbouring distances only: first those
that are as far away as the ids that are being visited, then those one step behind (`Layered`). The
ids nearer than that have all been seen. So an id that is visited now is as near as any id that is
visited later, whatever comes into the queue in between.
-/

namespace CommitStore
namespace Ancestry

variable {g : Ancestry}

/-! ## 1. Paths and their lengths -/

/-- A path with the given number of steps leads from one id to another, and no id on the way, the
last one apart, is one at which paths stop. -/
def ReachesIn (g : Ancestry) (stops : Oid → Prop) : (steps : Nat) → Oid → Oid → Prop
  | 0, a, b => b = a
  | steps + 1, a, b => ∃ c, g.ReachesIn stops steps a c ∧ ¬ stops c ∧ g.IsParent c b

theorem reachesUnder_iff_exists_steps {stops : Oid → Prop} {a b : Oid} :
    g.ReachesUnder stops a b ↔ ∃ steps, g.ReachesIn stops steps a b := by
  constructor
  · intro h
    induction h with
    | refl => exact ⟨0, rfl⟩
    | tail _ hstep ih =>
      obtain ⟨steps, hpath⟩ := ih
      exact ⟨steps + 1, _, hpath, hstep⟩
  · rintro ⟨steps, hpath⟩
    induction steps generalizing b with
    | zero =>
      obtain rfl : b = a := hpath
      exact Relation.ReflTransGen.refl
    | succ steps ih =>
      obtain ⟨c, hc, hstep⟩ := hpath
      exact (ih hc).tail hstep

/-- No path to the second id is shorter than every path to the first one. -/
def NotFarther (g : Ancestry) (stops : Oid → Prop) (start near far : Oid) : Prop :=
  ∀ steps, g.ReachesIn stops steps start far → ∃ fewer ≤ steps, g.ReachesIn stops fewer start near

/-! ## 2. Two layers -/

/-- A state of a walk: `near` and `far` are the queue, `steps` is the distance of the ids in `near`,
and those in `far` are one step behind. All that is nearer has been seen, and a path that leaves what
has been seen goes through the queue. -/
structure Layered (g : Ancestry) (stops : Oid → Bool) (start : Oid) (steps : Nat)
    (seen near far : List Oid) : Prop where
  atSteps : ∀ x ∈ near, g.ReachesIn (stops · = true) steps start x
  behind : ∀ x ∈ far, g.ReachesIn (stops · = true) (steps + 1) start x
  nearer : ∀ fewer < steps, ∀ x, g.ReachesIn (stops · = true) fewer start x → x ∈ seen
  layer : ∀ x, g.ReachesIn (stops · = true) steps start x → x ∈ seen ∨ x ∈ near
  closed : ∀ x ∈ seen, ¬ stops x = true → ∀ p, g.IsParent x p → p ∈ seen ∨ p ∈ near ∨ p ∈ far

namespace Layered

variable {stops : Oid → Bool} {start oid : Oid} {steps : Nat} {seen near far : List Oid}

theorem begins (g : Ancestry) (stops : Oid → Bool) (start : Oid) :
    Layered g stops start 0 [] [start] [] where
  atSteps _ hx := List.mem_singleton.mp hx
  behind _ hx := absurd hx List.not_mem_nil
  nearer fewer hfewer := absurd hfewer (Nat.not_lt_zero fewer)
  layer _ hx := Or.inr (List.mem_singleton.mpr hx)
  closed _ hx := absurd hx List.not_mem_nil

/-- When the near ids are done, the far ones are the next layer. -/
theorem advance (h : Layered g stops start steps seen [] far) :
    Layered g stops start (steps + 1) seen far [] where
  atSteps := h.behind
  behind _ hx := absurd hx List.not_mem_nil
  nearer fewer hfewer x hx := by
    rcases Nat.lt_succ_iff_lt_or_eq.mp hfewer with hless | rfl
    · exact h.nearer fewer hless x hx
    · exact (h.layer x hx).resolve_right List.not_mem_nil
  layer x hx := by
    obtain ⟨c, hc, hgoes, hparent⟩ := hx
    have hseen : c ∈ seen := (h.layer c hc).resolve_right List.not_mem_nil
    exact (h.closed c hseen hgoes x hparent).imp_right
      fun hqueue => hqueue.resolve_left List.not_mem_nil
  closed x hx hgoes p hparent := by
    rcases h.closed x hx hgoes p hparent with hseen | hnear | hfar
    · exact Or.inl hseen
    · exact absurd hnear List.not_mem_nil
    · exact Or.inr (Or.inl hfar)

/-- The first id of the queue may be taken for a near one. -/
theorem exists_near {rest : List Oid} (h : Layered g stops start steps seen near far)
    (hqueue : near ++ far = oid :: rest) :
    ∃ steps near far, near ++ far = rest ∧ Layered g stops start steps seen (oid :: near) far := by
  cases near with
  | cons first near =>
    obtain ⟨rfl, hrest⟩ := List.cons.inj hqueue
    exact ⟨steps, near, far, hrest, h⟩
  | nil =>
    obtain rfl : far = oid :: rest := hqueue
    exact ⟨steps + 1, rest, [], List.append_nil rest, h.advance⟩

/-- An id that was seen before leaves the queue. -/
theorem skip (h : Layered g stops start steps seen (oid :: near) far) (hseen : oid ∈ seen) :
    Layered g stops start steps seen near far where
  atSteps x hx := h.atSteps x (List.mem_cons_of_mem _ hx)
  behind := h.behind
  nearer := h.nearer
  layer x hx := by
    rcases h.layer x hx with hold | hmem
    · exact Or.inl hold
    · rcases List.mem_cons.mp hmem with rfl | hnear
      · exact Or.inl hseen
      · exact Or.inr hnear
  closed x hx hgoes p hparent := by
    rcases h.closed x hx hgoes p hparent with hold | hmem | hfar
    · exact Or.inl hold
    · rcases List.mem_cons.mp hmem with rfl | hnear
      · exact Or.inl hseen
      · exact Or.inr (Or.inl hnear)
    · exact Or.inr (Or.inr hfar)

/-- A new id is seen, and its parents are far. -/
theorem visit (h : Layered g stops start steps seen (oid :: near) far) :
    Layered g stops start steps (oid :: seen) near
      (far ++ if stops oid then [] else g.parents oid) where
  atSteps x hx := h.atSteps x (List.mem_cons_of_mem _ hx)
  behind x hx := by
    rcases List.mem_append.mp hx with hfar | hparent
    · exact h.behind x hfar
    · split at hparent
      · exact absurd hparent List.not_mem_nil
      · next hgoes => exact ⟨oid, h.atSteps oid List.mem_cons_self, hgoes, hparent⟩
  nearer fewer hfewer x hx := List.mem_cons_of_mem _ (h.nearer fewer hfewer x hx)
  layer x hx := by
    rcases h.layer x hx with hold | hmem
    · exact Or.inl (List.mem_cons_of_mem _ hold)
    · rcases List.mem_cons.mp hmem with rfl | hnear
      · exact Or.inl List.mem_cons_self
      · exact Or.inr hnear
  closed x hx hgoes p hparent := by
    rcases List.mem_cons.mp hx with rfl | hseen
    · rw [if_neg hgoes]
      exact Or.inr (Or.inr (List.mem_append_right _ hparent))
    · rcases h.closed x hseen hgoes p hparent with hold | hmem | hfar
      · exact Or.inl (List.mem_cons_of_mem _ hold)
      · rcases List.mem_cons.mp hmem with rfl | hnear
        · exact Or.inl List.mem_cons_self
        · exact Or.inr (Or.inl hnear)
      · exact Or.inr (Or.inr (List.mem_append_left _ hfar))

/-- A near id is not farther than any id that has not been seen. -/
theorem notFarther (h : Layered g stops start steps seen (oid :: near) far) {x : Oid}
    (hx : x ∉ seen) : g.NotFarther (stops · = true) start oid x := by
  intro other hpath
  refine ⟨steps, Nat.le_of_not_lt fun hless => ?_, h.atSteps oid List.mem_cons_self⟩
  exact hx (h.nearer other hless x hpath)

/-! ## 3. The order -/

/-- What is visited from a layered state on comes nearest first. -/
theorem pairwise_visits (h : Layered g stops start steps seen near far) :
    (g.visits stops seen (near ++ far)).Pairwise (g.NotFarther (stops · = true) start) := by
  generalize hqueue : near ++ far = queue
  induction seen, queue using visits.induct g stops generalizing steps near far with
  | case1 seen =>
    rw [visits]
    exact List.Pairwise.nil
  | case2 seen oid rest hseen ih =>
    obtain ⟨steps, near, far, hrest, hlayered⟩ := h.exists_near hqueue
    rw [visits, if_pos hseen]
    exact ih (hlayered.skip hseen) hrest
  | case3 seen oid rest hnew ih =>
    obtain ⟨steps, near, far, rfl, hlayered⟩ := h.exists_near hqueue
    simp only [dite_eq_ite] at ih
    rw [visits, if_neg hnew]
    refine List.pairwise_cons.mpr ⟨fun x hx => hlayered.notFarther ?_, ?_⟩
    · -- Only what has not been seen is visited later.
      have hunseen := ((mem_visits_iff g stops _ _ x).mp hx).1
      exact fun hmem => hunseen (List.mem_cons_of_mem _ hmem)
    · exact ih hlayered.visit (List.append_assoc _ _ _).symm

end Layered

/-- **A walk visits nearer ids first.** -/
theorem pairwise_walk (g : Ancestry) (start : Oid) (stops : Oid → Bool) :
    (g.walk start stops).Pairwise (g.NotFarther (stops · = true) start) :=
  (Layered.begins g stops start).pairwise_visits

end Ancestry
end CommitStore
