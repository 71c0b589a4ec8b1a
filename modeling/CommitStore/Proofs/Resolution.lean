import CommitStore.Pin
set_option autoImplicit false

/-!
# Where references lead

A reference leads to a commit if it resolves to an object and the tags around that object can be
taken off one after the other until a commit is left. `LeadsTo` says so without a bound on the
number of tags; `commitOf?_eq_some_iff` shows that the bounded search finds exactly these commits.

The loop that takes off tags has no bound. `PeelsOff` is a run of it that ends, and the bounded search
answers what it answers (`peel_eq_iff`). The bound is enough because tags that end do not come back
to an object: those on the way are pairwise different, and each of them is stored. Tags that do come
back have an answer of their own (`peel_eq_endless_iff`), for which there is no run of the loop;
`TagsEnd` is the condition that no reference leads there.

The other fact is `RefTable.resolve_of_le`: what a smaller table resolves, a larger one resolves in
the same way. Taking references away breaks chains, but creates and redirects none.
-/

namespace CommitStore

/-! ## 1. Fewer references -/

namespace RefTable

theorem follow_of_le {refs refs' : RefTable}
    (hle : ∀ name p, refs'.get? name = some p → refs.get? name = some p) {oid : Oid}
    (links : Nat) (seen : List RefName) (p : Pointer) (h : refs'.follow links seen p = .ok oid) :
    refs.follow links seen p = .ok oid := by
  induction links generalizing seen p with
  | zero => cases h
  | succ links ih =>
    obtain ⟨target, symbolic⟩ := p
    unfold follow at h ⊢
    cases target with
    | some direct => exact h
    | none =>
      cases symbolic with
      | none => exact h
      | some name =>
        dsimp only at h ⊢
        cases hnext : refs'.get? name with
        | none =>
          rw [hnext] at h
          cases h
        | some next =>
          rw [hnext] at h
          rw [hle name next hnext]
          dsimp only at h ⊢
          split at h
          · cases h
          · next hnew =>
            rw [if_neg hnew]
            exact ih _ _ h

/-- A table with fewer references resolves nothing that the larger table does not resolve to the
same object. -/
theorem resolve_of_le {refs refs' : RefTable}
    (hle : ∀ name p, refs'.get? name = some p → refs.get? name = some p) {r : Reference} {oid : Oid}
    (h : refs'.resolve r = .ok oid) : refs.resolve r = .ok oid :=
  follow_of_le hle _ _ _ h

/-- A reference with a direct target resolves to it. -/
theorem resolve_direct (refs : RefTable) (name : RefName) (oid : Oid) (symbolic : Option RefName) :
    refs.resolve ⟨⟨some oid, symbolic⟩, name⟩ = .ok oid := rfl

theorem mem_references_iff (refs : RefTable) (r : Reference) :
    r ∈ refs.references ↔ refs.get? r.name = some r.toPointer := by
  rw [← refs.mem_entries_iff, references, List.mem_map]
  constructor
  · rintro ⟨⟨name, p⟩, hmem, rfl⟩
    exact hmem
  · intro hmem
    exact ⟨(r.name, r.toPointer), hmem, rfl⟩

end RefTable

/-! ## 2. Taking off tags -/

namespace ObjectStore

/-- The tags around an object can be taken off, and leave a commit. -/
inductive PeelsTo (s : ObjectStore) : Oid → Oid → Prop
  | commit {oid : Oid} {o : StoredObject} (hget : s.get? oid = some o) (hkind : o.kind = .commit) :
      PeelsTo s oid oid
  | tag {oid : Oid} {o : StoredObject} {target commit : Oid} (hget : s.get? oid = some o)
      (hkind : o.kind = .tag) (htarget : o.target = some target)
      (hpeels : PeelsTo s target commit) : PeelsTo s oid commit

/-- A run of the loop that takes off tags. -/
inductive PeelsOff (s : ObjectStore) : Oid → Peeled → Prop
  | missing {oid : Oid} (hget : s.get? oid = none) : PeelsOff s oid (.missing oid)
  | commit {oid : Oid} {o : StoredObject} (hget : s.get? oid = some o) (hkind : o.kind = .commit) :
      PeelsOff s oid (.commit oid)
  | noCommit {oid : Oid} {o : StoredObject} (hget : s.get? oid = some o) (hkind : o.kind ≠ .commit)
      (hend : o.kind = .tag → o.target = none) : PeelsOff s oid .noCommit
  | tag {oid target : Oid} {o : StoredObject} {result : Peeled} (hget : s.get? oid = some o)
      (hkind : o.kind = .tag) (htarget : o.target = some target)
      (hrest : PeelsOff s target result) : PeelsOff s oid result

theorem get?_oid {s : ObjectStore} {oid : Oid} {o : StoredObject} (h : s.get? oid = some o) :
    o.oid = oid := by
  have hfound := List.find?_some h
  simpa using hfound

theorem isCommit_iff {s : ObjectStore} {oid : Oid} :
    s.isCommit oid = true ↔ ∃ o, s.get? oid = some o ∧ o.kind = .commit := by
  simp [isCommit, Option.any_eq_true]

theorem contains_iff_mem {s : ObjectStore} {oid : Oid} :
    s.contains oid = true ↔ oid ∈ s.objects.map (·.oid) := by
  rw [contains, Option.isSome_iff_ne_none, ne_eq, get?_eq_none_iff, Classical.not_not]

theorem contains_of_isCommit {s : ObjectStore} {oid : Oid} (h : s.isCommit oid = true) :
    s.contains oid = true := by
  obtain ⟨o, hget, _⟩ := isCommit_iff.mp h
  rw [contains, hget]
  rfl

/-- A commit has no tags around it. -/
theorem peelsTo_of_isCommit {s : ObjectStore} {oid : Oid} (h : s.isCommit oid = true) :
    s.PeelsTo oid oid := by
  obtain ⟨o, hget, hkind⟩ := isCommit_iff.mp h
  exact .commit hget hkind

section

variable {s : ObjectStore} {oid : Oid} {result : Peeled}

theorem PeelsOff.unique {a b : Peeled} (ha : s.PeelsOff oid a) (hb : s.PeelsOff oid b) :
    a = b := by
  induction ha with
  | missing hget => cases hb <;> simp_all
  | commit hget hkind => cases hb <;> simp_all
  | noCommit hget hkind hend => cases hb <;> simp_all
  | tag hget hkind htarget _ ih => cases hb <;> simp_all

/-- A run that ends has an answer. -/
theorem PeelsOff.ne_endless (h : s.PeelsOff oid result) : result ≠ .endless := by
  induction h with
  | missing | commit | noCommit => exact fun hsame => (by cases hsame)
  | tag _ _ _ _ ih => exact ih

theorem peelsTo_iff {c : Oid} : s.PeelsTo oid c ↔ s.PeelsOff oid (.commit c) := by
  constructor
  · intro h
    induction h with
    | commit hget hkind => exact .commit hget hkind
    | tag hget hkind htarget _ ih => exact .tag hget hkind htarget ih
  · intro h
    generalize hcommit : Peeled.commit c = result at h
    induction h with
    | missing => cases hcommit
    | noCommit => cases hcommit
    | commit hget hkind =>
      cases hcommit
      exact .commit hget hkind
    | tag hget hkind htarget _ ih => exact .tag hget hkind htarget (ih hcommit)

/-! ### The bounded search -/

/-- A look at one object: a tag leads on to its target, and anything else ends the search. -/
theorem peel_look (s : ObjectStore) (oid : Oid) :
    (∃ o target, s.get? oid = some o ∧ o.kind = .tag ∧ o.target = some target ∧
      ∀ steps, s.peelWithin (steps + 1) oid = s.peelWithin steps target) ∨
    ∃ result, s.PeelsOff oid result ∧ ∀ steps, s.peelWithin (steps + 1) oid = result := by
  cases hget : s.get? oid with
  | none => exact Or.inr ⟨_, .missing hget, fun steps => by rw [peelWithin, hget]⟩
  | some o =>
    cases hkind : o.kind with
    | commit =>
      refine Or.inr ⟨_, .commit hget hkind, fun steps => ?_⟩
      simp only [peelWithin, hget, hkind, get?_oid hget]
    | blob =>
      refine Or.inr ⟨_, .noCommit hget (by simp [hkind]) (by simp [hkind]), fun steps => ?_⟩
      simp only [peelWithin, hget, hkind]
    | tag =>
      cases htarget : o.target with
      | none =>
        refine Or.inr ⟨_, .noCommit hget (by simp [hkind]) fun _ => htarget, fun steps => ?_⟩
        simp only [peelWithin, hget, hkind, htarget]
      | some target =>
        refine Or.inl ⟨o, target, rfl, hkind, htarget, fun steps => ?_⟩
        simp only [peelWithin, hget, hkind, htarget]

theorem peelsOff_of_peelWithin {steps : Nat} (h : s.peelWithin steps oid = result)
    (hends : result ≠ .endless) : s.PeelsOff oid result := by
  induction steps generalizing oid with
  | zero => exact absurd h.symm hends
  | succ steps ih =>
    rcases s.peel_look oid with ⟨o, target, hget, hkind, htarget, hstep⟩ | ⟨found, hpeels, hstep⟩
    · exact .tag hget hkind htarget (ih ((hstep steps).symm.trans h))
    · exact ((hstep steps).symm.trans h) ▸ hpeels

/-- More steps change no answer. -/
theorem peelWithin_mono {steps more : Nat} (h : s.peelWithin steps oid = result)
    (hends : result ≠ .endless) (hle : steps ≤ more) : s.peelWithin more oid = result := by
  induction steps generalizing oid more with
  | zero => exact absurd h.symm hends
  | succ steps ih =>
    obtain ⟨more, rfl⟩ : ∃ n, more = n + 1 := ⟨more - 1, by omega⟩
    rcases s.peel_look oid with ⟨_, target, _, _, _, hstep⟩ | ⟨found, _, hstep⟩
    · rw [hstep]
      exact ih ((hstep steps).symm.trans h) (Nat.le_of_succ_le_succ hle)
    · rw [hstep, ← hstep steps]
      exact h

theorem PeelsOff.exists_peelWithin (h : s.PeelsOff oid result) :
    ∃ steps, s.peelWithin steps oid = result := by
  induction h with
  | @tag oid target o result hget hkind htarget hrest ih =>
    obtain ⟨steps, hsteps⟩ := ih
    refine ⟨steps + 1, ?_⟩
    rw [peelWithin, hget]
    dsimp only
    rw [hkind, htarget]
    exact hsteps
  | missing hget => exact ⟨1, by rw [peelWithin, hget]⟩
  | commit hget hkind => exact ⟨1, by rw [peelWithin, hget]; simp only [hkind, get?_oid hget]⟩
  | @noCommit oid o hget hkind hend =>
    refine ⟨1, ?_⟩
    rw [peelWithin, hget]
    dsimp only
    cases hk : o.kind with
    | commit => exact absurd hk hkind
    | blob => rfl
    | tag => rw [hend hk]

/-- A search ends with this number of steps, and with no smaller one. -/
structure TakesSteps (s : ObjectStore) (steps : Nat) (oid : Oid) (result : Peeled) : Prop where
  answers : s.peelWithin steps oid = result
  ends : result ≠ .endless
  least : ∀ fewer < steps, s.peelWithin fewer oid = .endless

theorem PeelsOff.exists_takesSteps (h : s.PeelsOff oid result) :
    ∃ steps, s.TakesSteps steps oid result := by
  obtain ⟨steps, hsteps⟩ := h.exists_peelWithin
  induction steps using Nat.strongRecOn with
  | ind steps ih =>
    by_cases hfewer : ∃ fewer < steps, s.peelWithin fewer oid = result
    · obtain ⟨fewer, hlt, hfewer⟩ := hfewer
      exact ih fewer hlt hfewer
    · refine ⟨steps, hsteps, h.ne_endless, fun fewer hlt => ?_⟩
      refine Decidable.byContradiction fun hends => ?_
      have hearlier := peelWithin_mono rfl hends (Nat.le_of_lt hlt)
      exact hfewer ⟨fewer, hlt, hearlier.symm.trans hsteps⟩

/-- The tags that a shortest search takes off are stored and pairwise different, because each of them
takes another number of steps. -/
theorem TakesSteps.exists_path {steps : Nat} (h : s.TakesSteps steps oid result) :
    ∃ path : List Oid, path.length + 1 = steps ∧ path.Nodup ∧
      ∀ x ∈ path, x ∈ s.objects.map (·.oid) ∧ ∃ k ≤ steps, s.TakesSteps k x result := by
  induction steps generalizing oid with
  | zero => exact absurd h.answers.symm h.ends
  | succ steps ih =>
    rcases s.peel_look oid with ⟨o, target, hget, _, _, hstep⟩ | ⟨found, _, hstep⟩
    · have htakes : s.TakesSteps steps target result := by
        refine ⟨(hstep steps).symm.trans h.answers, h.ends, fun fewer hlt => ?_⟩
        rw [← hstep]
        exact h.least (fewer + 1) (by omega)
      obtain ⟨path, hlength, hnodup, hpath⟩ := ih htakes
      refine ⟨oid :: path, by rw [List.length_cons, hlength], ?_, ?_⟩
      · refine List.nodup_cons.mpr ⟨fun hmem => ?_, hnodup⟩
        obtain ⟨_, k, hk, hsame⟩ := hpath oid hmem
        exact h.ends (hsame.answers.symm.trans (h.least k (by omega)))
      · intro x hx
        rcases List.mem_cons.mp hx with rfl | hx
        · refine ⟨Decidable.byContradiction fun hnot => ?_, steps + 1, Nat.le_refl _, h⟩
          rw [(s.get?_eq_none_iff x).mpr hnot] at hget
          cases hget
        · obtain ⟨hstored, k, hk, hsteps⟩ := hpath x hx
          exact ⟨hstored, k, by omega, hsteps⟩
    · -- One look is enough, so it is all that a shortest search takes.
      have hzero : steps = 0 := by
        refine Decidable.byContradiction fun hne => ?_
        have hleast := h.least 1 (by omega)
        rw [hstep 0, ← hstep steps] at hleast
        exact h.ends (h.answers.symm.trans hleast)
      exact ⟨[], by rw [hzero]; rfl, List.nodup_nil, fun x hx => absurd hx List.not_mem_nil⟩

/-- **Where the tags end, the bounded search answers what the loop answers.** -/
theorem peel_eq_iff (hends : result ≠ .endless) : s.peel oid = result ↔ s.PeelsOff oid result := by
  constructor
  · exact fun h => peelsOff_of_peelWithin h hends
  · intro h
    obtain ⟨steps, htakes⟩ := h.exists_takesSteps
    obtain ⟨path, hlength, hnodup, hpath⟩ := htakes.exists_path
    have hbound : path.length ≤ (s.objects.map (·.oid)).length :=
      hnodup.length_le_of_subset fun x hx => (hpath x hx).1
    rw [List.length_map] at hbound
    exact peelWithin_mono htakes.answers hends (by omega)

theorem peelsOff_peel (h : ∃ result, s.PeelsOff oid result) : s.PeelsOff oid (s.peel oid) := by
  obtain ⟨result, hpeels⟩ := h
  rw [(peel_eq_iff hpeels.ne_endless).mpr hpeels]
  exact hpeels

/-- **Where the tags do not end, the bounded search says so.** -/
theorem peel_eq_endless_iff : s.peel oid = .endless ↔ ¬ ∃ result, s.PeelsOff oid result := by
  constructor
  · rintro h ⟨result, hpeels⟩
    exact (peelsOff_peel ⟨result, hpeels⟩).ne_endless h
  · intro h
    exact Decidable.byContradiction fun hends => h ⟨_, (peel_eq_iff hends).mp rfl⟩

theorem peel_eq_commit_iff (s : ObjectStore) (oid c : Oid) :
    s.peel oid = .commit c ↔ s.PeelsTo oid c :=
  (peel_eq_iff (fun h => by cases h)).trans peelsTo_iff.symm

end

/-- What is left when the tags are taken off is a commit. -/
theorem PeelsTo.isCommit {s : ObjectStore} {oid c : Oid} (h : s.PeelsTo oid c) :
    s.isCommit c = true := by
  induction h with
  | commit hget hkind => exact isCommit_iff.mpr ⟨_, hget, hkind⟩
  | tag _ _ _ _ ih => exact ih

/-- Only a tag leads to another object. -/
theorem PeelsTo.eq_of_isCommit {s : ObjectStore} {oid c : Oid} (h : s.PeelsTo oid c)
    (hcommit : s.isCommit oid = true) : c = oid := by
  cases h with
  | commit _ _ => rfl
  | tag hget hkind _ _ =>
    obtain ⟨o, hget', hkind'⟩ := isCommit_iff.mp hcommit
    rw [hget] at hget'
    cases hget'
    rw [hkind] at hkind'
    cases hkind'

end ObjectStore

/-! ## 3. Where a reference leads -/

/-- A reference resolves to an object that is a commit once all tags are taken off. -/
def LeadsTo (t : Tables) (r : Reference) (commit : Oid) : Prop :=
  ∃ oid, t.refs.resolve r = .ok oid ∧ t.objects.PeelsTo oid commit

theorem Pin.commitOf?_eq_some_iff (t : Tables) (r : Reference) (commit : Oid) :
    Pin.commitOf? t r = some commit ↔ LeadsTo t r commit := by
  unfold Pin.commitOf? LeadsTo
  cases hresolve : t.refs.resolve r with
  | error fault => simp
  | ok oid =>
    simp only [Except.ok.injEq, exists_eq_left', ← ObjectStore.peel_eq_commit_iff]
    cases t.objects.peel oid <;> simp

theorem Pin.commitOf?_isSome_iff (t : Tables) (r : Reference) :
    (Pin.commitOf? t r).isSome = true ↔ ∃ commit, LeadsTo t r commit := by
  rw [Option.isSome_iff_exists]
  exact exists_congr fun commit => Pin.commitOf?_eq_some_iff t r commit

instance (t : Tables) (r : Reference) : Decidable (∃ commit, LeadsTo t r commit) :=
  decidable_of_iff _ (Pin.commitOf?_isSome_iff t r)

theorem LeadsTo.unique {t : Tables} {r : Reference} {a b : Oid} (ha : LeadsTo t r a)
    (hb : LeadsTo t r b) : a = b := by
  rw [← Pin.commitOf?_eq_some_iff] at ha hb
  rw [ha] at hb
  exact Option.some.inj hb

/-! ### References whose tags end -/

/-- The tags around what a reference resolves to come to an end, for every reference. -/
def Tables.TagsEnd (t : Tables) : Prop :=
  ∀ r ∈ t.refs.references, ∀ oid, t.refs.resolve r = .ok oid → ∃ result, t.objects.PeelsOff oid result

theorem Tables.tagsEnd_iff {t : Tables} :
    t.TagsEnd ↔ ∀ r ∈ t.refs.references, ∀ oid ∈ (t.refs.resolve r).toOption,
      t.objects.peel oid ≠ .endless := by
  refine forall_congr' fun r => forall_congr' fun _ => forall_congr' fun oid => ?_
  rw [ne_eq, ObjectStore.peel_eq_endless_iff, Classical.not_not]
  cases t.refs.resolve r <;> simp [Except.toOption, eq_comm]

instance (t : Tables) : Decidable t.TagsEnd := decidable_of_iff _ Tables.tagsEnd_iff.symm

/-- What a reference with a direct target peels off to is found where tags end. -/
theorem Tables.TagsEnd.peelsOff_direct {t : Tables} (h : t.TagsEnd) {name : RefName} {oid : Oid}
    (hget : t.refs.get? name = some (.direct oid)) : t.objects.PeelsOff oid (t.objects.peel oid) :=
  ObjectStore.peelsOff_peel
    (h ((Pointer.direct oid).named name) ((t.refs.mem_references_iff _).mpr hget) oid rfl)

/-- With fewer references nothing leads elsewhere. -/
theorem LeadsTo.of_le {t t' : Tables}
    (hle : ∀ name p, t'.refs.get? name = some p → t.refs.get? name = some p)
    (hobjects : t'.objects = t.objects) {r : Reference} {commit : Oid} (h : LeadsTo t' r commit) :
    LeadsTo t r commit := by
  obtain ⟨oid, hresolve, hpeels⟩ := h
  exact ⟨oid, RefTable.resolve_of_le hle hresolve, hobjects ▸ hpeels⟩

end CommitStore
