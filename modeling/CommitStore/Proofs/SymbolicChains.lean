import CommitStore.Proofs.WrittenReferences
set_option autoImplicit false

/-!
# Symbolic chains

A reference leads along symbolic links to other references. `Chain` are the links followed from it
as a relation, without a bound on their number and without a search: each of them leads from a
reference with no direct target to the one that it names, and no name comes up twice.

From a reference there is only one way on, so `follow` goes along every chain that its bound allows
(`follow_of_walk`), and a chain that is not at its end goes on by one link (`Chain.goes_on`). Together
this says what a reference resolves to and with which fault it breaks (`resolve_eq_ok_iff`,
`resolve_eq_error_iff`). The bound counts references, and the first one is not behind a link: a
reference that `maxLinks` links lead to is found, but no longer looked at.
-/

namespace CommitStore

namespace RefTable

variable {refs : RefTable}

/-! ## 1. Chains -/

/-- Links lead from one pointer to another. The names are those of the references on the way, with
the last one included. -/
inductive Walk (refs : RefTable) : List RefName → Pointer → Pointer → Prop
  | stay (p : Pointer) : Walk refs [] p p
  | link {name : RefName} {names : List RefName} {p next q : Pointer} (htarget : p.target = none)
      (hsymbolic : p.symbolic = some name) (hnext : refs.get? name = some next)
      (hrest : Walk refs names next q) : Walk refs (name :: names) p q

theorem Walk.concat {names : List RefName} {p q next : Pointer} {name : RefName}
    (h : refs.Walk names p q) (htarget : q.target = none) (hsymbolic : q.symbolic = some name)
    (hnext : refs.get? name = some next) : refs.Walk (names ++ [name]) p next := by
  induction h with
  | stay p => exact .link htarget hsymbolic hnext (.stay next)
  | link htarget' hsymbolic' hnext' _ ih =>
    exact .link htarget' hsymbolic' hnext' (ih htarget hsymbolic)

/-- Along a walk to new names the search goes on, with one link less for each name. -/
theorem follow_of_walk {names : List RefName} {p q : Pointer} (h : refs.Walk names p q) (rest : Nat)
    {seen : List RefName} (hnodup : (names.reverse ++ seen).Nodup) :
    refs.follow (names.length + rest) seen p = refs.follow rest (names.reverse ++ seen) q := by
  induction h generalizing seen with
  | stay p => rw [List.length_nil, Nat.zero_add, List.reverse_nil, List.nil_append]
  | @link name names p next q htarget hsymbolic hnext hrest ih =>
    rw [List.reverse_cons, List.append_assoc, List.singleton_append] at hnodup ⊢
    have hnew : name ∉ seen := (List.nodup_cons.mp (List.nodup_append.mp hnodup).2.1).1
    rw [List.length_cons, Nat.add_right_comm, follow, htarget, hsymbolic]
    dsimp only
    rw [hnext]
    dsimp only
    rw [if_neg hnew]
    exact ih hnodup

/-- A chain of links from a reference, along which no name is repeated. -/
structure Chain (refs : RefTable) (r : Reference) (names : List RefName) (q : Pointer) : Prop where
  walk : refs.Walk names r.toPointer q
  nodup : (r.name :: names).Nodup

/-- As many links lead from a reference to one with a direct target. -/
def EndsAfter (refs : RefTable) (r : Reference) (links : Nat) (oid : Oid) : Prop :=
  ∃ names q, refs.Chain r names q ∧ names.length = links ∧ q.target = some oid

/-- The chain of a reference breaks. -/
inductive Breaks (refs : RefTable) (r : Reference) : Fault → Prop
  | noTarget {names : List RefName} {q : Pointer} (hchain : refs.Chain r names q)
      (hshort : names.length < maxLinks) (htarget : q.target = none) (hsymbolic : q.symbolic = none) :
      Breaks refs r .noTarget
  | missing {names : List RefName} {q : Pointer} {name : RefName} (hchain : refs.Chain r names q)
      (hshort : names.length < maxLinks) (htarget : q.target = none)
      (hsymbolic : q.symbolic = some name) (hnext : refs.get? name = none) :
      Breaks refs r (.missing name)
  | cycle {names : List RefName} {q next : Pointer} {name : RefName} (hchain : refs.Chain r names q)
      (hshort : names.length < maxLinks) (htarget : q.target = none)
      (hsymbolic : q.symbolic = some name) (hnext : refs.get? name = some next)
      (hagain : name ∈ r.name :: names) : Breaks refs r .cycle
  | tooDeep {names : List RefName} {q : Pointer} (hchain : refs.Chain r names q)
      (hlong : names.length = maxLinks) : Breaks refs r .tooDeep

namespace Chain

variable {r : Reference} {names : List RefName} {q : Pointer}

theorem start (refs : RefTable) (r : Reference) : refs.Chain r [] r.toPointer where
  walk := .stay _
  nodup := List.nodup_singleton r.name

theorem concat (h : refs.Chain r names q) {name : RefName} {next : Pointer}
    (htarget : q.target = none) (hsymbolic : q.symbolic = some name)
    (hnext : refs.get? name = some next) (hnew : name ∉ r.name :: names) :
    refs.Chain r (names ++ [name]) next where
  walk := h.walk.concat htarget hsymbolic hnext
  nodup := by
    rw [← List.cons_append, List.nodup_append]
    refine ⟨h.nodup, List.nodup_singleton name, ?_⟩
    intro other hother last hlast heq
    rw [List.mem_singleton.mp hlast] at heq
    exact hnew (heq ▸ hother)

/-- A chain that is not too long ends, breaks, or goes on by one link. -/
theorem goes_on (h : refs.Chain r names q) (hshort : names.length < maxLinks) :
    (∃ oid, refs.EndsAfter r names.length oid) ∨ (∃ fault, refs.Breaks r fault) ∨
      ∃ name next, refs.Chain r (names ++ [name]) next := by
  cases htarget : q.target with
  | some oid => exact Or.inl ⟨oid, names, q, h, rfl, htarget⟩
  | none =>
    refine Or.inr ?_
    cases hsymbolic : q.symbolic with
    | none => exact Or.inl ⟨_, .noTarget h hshort htarget hsymbolic⟩
    | some name =>
      cases hnext : refs.get? name with
      | none => exact Or.inl ⟨_, .missing h hshort htarget hsymbolic hnext⟩
      | some next =>
        by_cases hagain : name ∈ r.name :: names
        · exact Or.inl ⟨_, .cycle h hshort htarget hsymbolic hnext hagain⟩
        · exact Or.inr ⟨name, next, h.concat htarget hsymbolic hnext hagain⟩

/-- A search that starts at a reference goes along its chain. -/
theorem resolve_eq (h : refs.Chain r names q) {rest : Nat} (hrest : names.length + rest = maxLinks) :
    refs.resolve r = refs.follow rest (names.reverse ++ [r.name]) q := by
  have hnodup : (names.reverse ++ [r.name]).Nodup := by
    rw [← List.reverse_cons]
    exact List.nodup_reverse.mpr h.nodup
  rw [resolve, ← hrest]
  exact follow_of_walk h.walk rest hnodup

/-- The end of a chain that is not too long is still looked at. -/
theorem exists_resolve_eq (h : refs.Chain r names q) (hshort : names.length < maxLinks) :
    ∃ rest, refs.resolve r = refs.follow (rest + 1) (names.reverse ++ [r.name]) q := by
  obtain ⟨rest, hrest⟩ := Nat.exists_eq_add_of_lt hshort
  exact ⟨rest, h.resolve_eq hrest.symm⟩

end Chain

/-! ## 2. What a reference resolves to -/

variable {r : Reference}

theorem EndsAfter.resolve_eq {links : Nat} {oid : Oid} (h : refs.EndsAfter r links oid)
    (hlinks : links < maxLinks) : refs.resolve r = .ok oid := by
  obtain ⟨names, q, hchain, rfl, htarget⟩ := h
  obtain ⟨rest, hlook⟩ := hchain.exists_resolve_eq hlinks
  rw [hlook, follow, htarget]

theorem Breaks.resolve_eq {fault : Fault} (h : refs.Breaks r fault) :
    refs.resolve r = .error fault := by
  cases h with
  | noTarget hchain hshort htarget hsymbolic =>
    obtain ⟨rest, hlook⟩ := hchain.exists_resolve_eq hshort
    rw [hlook, follow, htarget, hsymbolic]
  | missing hchain hshort htarget hsymbolic hnext =>
    obtain ⟨rest, hlook⟩ := hchain.exists_resolve_eq hshort
    rw [hlook, follow, htarget, hsymbolic]
    dsimp only
    rw [hnext]
  | @cycle names _ _ name hchain hshort htarget hsymbolic hnext hagain =>
    obtain ⟨rest, hlook⟩ := hchain.exists_resolve_eq hshort
    have hseen : name ∈ names.reverse ++ [r.name] := by
      rwa [← List.reverse_cons, List.mem_reverse]
    rw [hlook, follow, htarget, hsymbolic]
    dsimp only
    rw [hnext]
    exact if_pos hseen
  | tooDeep hchain hlong =>
    -- No look is left for the reference that the last link leads to.
    rw [hchain.resolve_eq ((Nat.add_zero _).trans hlong), follow]

/-- A chain ends or breaks before it has the given number of links, or it has so many. -/
theorem exists_chain (refs : RefTable) (r : Reference) {links : Nat} (hlinks : links ≤ maxLinks) :
    (∃ shorter < maxLinks, ∃ oid, refs.EndsAfter r shorter oid) ∨ (∃ fault, refs.Breaks r fault) ∨
      ∃ names q, refs.Chain r names q ∧ names.length = links := by
  induction links with
  | zero => exact Or.inr (Or.inr ⟨[], _, Chain.start refs r, rfl⟩)
  | succ links ih =>
    rcases ih (Nat.le_of_lt hlinks) with hends | hbreaks | ⟨names, q, hchain, rfl⟩
    · exact Or.inl hends
    · exact Or.inr (Or.inl hbreaks)
    · rcases hchain.goes_on hlinks with hends | hbreaks | ⟨name, next, hlonger⟩
      · exact Or.inl ⟨names.length, hlinks, hends⟩
      · exact Or.inr (Or.inl hbreaks)
      · exact Or.inr (Or.inr ⟨_, next, hlonger, List.length_append⟩)

theorem ends_or_breaks (refs : RefTable) (r : Reference) :
    (∃ links < maxLinks, ∃ oid, refs.EndsAfter r links oid) ∨ ∃ fault, refs.Breaks r fault := by
  rcases exists_chain refs r (Nat.le_refl maxLinks) with hends | hbreaks | ⟨names, q, hchain, hlong⟩
  · exact Or.inl hends
  · exact Or.inr hbreaks
  · exact Or.inr ⟨_, .tooDeep hchain hlong⟩

/-- A reference resolves to what fewer than `maxLinks` links lead to, and to nothing else. -/
theorem resolve_eq_ok_iff (refs : RefTable) (r : Reference) (oid : Oid) :
    refs.resolve r = .ok oid ↔ ∃ links < maxLinks, refs.EndsAfter r links oid := by
  constructor
  · intro hresolve
    rcases ends_or_breaks refs r with ⟨links, hlinks, found, hends⟩ | ⟨fault, hbreaks⟩
    · cases hresolve.symm.trans (hends.resolve_eq hlinks)
      exact ⟨links, hlinks, hends⟩
    · cases hresolve.symm.trans hbreaks.resolve_eq
  · rintro ⟨links, hlinks, hends⟩
    exact hends.resolve_eq hlinks

/-- A reference has the fault with which its chain breaks. -/
theorem resolve_eq_error_iff (refs : RefTable) (r : Reference) (fault : Fault) :
    refs.resolve r = .error fault ↔ refs.Breaks r fault := by
  refine ⟨fun hresolve => ?_, Breaks.resolve_eq⟩
  rcases ends_or_breaks refs r with ⟨links, hlinks, found, hends⟩ | ⟨other, hbreaks⟩
  · cases hresolve.symm.trans (hends.resolve_eq hlinks)
  · cases hresolve.symm.trans hbreaks.resolve_eq
    exact hbreaks

end RefTable

/-! ## 3. The depth of a search -/

namespace RefStore

open CommitStore.Action RefTable

/-- References are resolved to what at most so many links lead to, and all others are refused. -/
def ResolvesUpTo (limit : Nat) (s : Session) (r : Reference) : Prop :=
  (∀ oid, (resolve r).runOn s = (.ok oid, s) ↔
    ∃ links ≤ limit, s.working.refs.EndsAfter r links oid) ∧
  ((¬ ∃ links ≤ limit, ∃ oid, s.working.refs.EndsAfter r links oid) →
    ∃ fault, (resolve r).runOn s = (.error (.unresolved r.name (.chain fault)), s))

theorem resolve_runOn_ok_iff {s : Session} (h : s.IsOpen) (r : Reference) (oid : Oid) :
    (resolve r).runOn s = (.ok oid, s) ↔
      ∃ links < maxLinks, s.working.refs.EndsAfter r links oid := by
  rw [← resolve_eq_ok_iff, resolve_runOn h]
  cases s.working.refs.resolve r <;> simp

theorem resolve_runOn_error_iff {s : Session} (h : s.IsOpen) (r : Reference) (fault : Fault) :
    (resolve r).runOn s = (.error (.unresolved r.name (.chain fault)), s) ↔
      s.working.refs.Breaks r fault := by
  rw [← resolve_eq_error_iff, resolve_runOn h]
  cases s.working.refs.resolve r <;> simp

/-- **Symbolic resolution is exact, one link below its depth.** In an open session every reference
resolves to what fewer than `maxLinks` links lead to, and every other one is refused by its name and
with the fault of its chain. Up to `maxLinks` links are followed like this exactly if the chain of the
reference does not end after as many. -/
theorem resolve_exact {s : Session} (h : s.IsOpen) (r : Reference) :
    ResolvesUpTo (maxLinks - 1) s r ∧
      (∀ fault, (resolve r).runOn s = (.error (.unresolved r.name (.chain fault)), s) ↔
        s.working.refs.Breaks r fault) ∧
      (ResolvesUpTo maxLinks s r ↔ ¬ ∃ oid, s.working.refs.EndsAfter r maxLinks oid) := by
  have hok := resolve_runOn_ok_iff h r
  have herror := resolve_runOn_error_iff h r
  have hother (hnot : ¬ ∃ links < maxLinks, ∃ oid, s.working.refs.EndsAfter r links oid) :
      ∃ fault, (resolve r).runOn s = (.error (.unresolved r.name (.chain fault)), s) := by
    obtain ⟨fault, hbreaks⟩ := (ends_or_breaks s.working.refs r).resolve_left hnot
    exact ⟨fault, (herror fault).mpr hbreaks⟩
  refine ⟨?_, herror, ?_, ?_⟩
  · have hbelow (links : Nat) : links ≤ maxLinks - 1 ↔ links < maxLinks :=
      Nat.le_sub_one_iff_lt (by decide)
    simp only [ResolvesUpTo, hbelow]
    exact ⟨hok, hother⟩
  · rintro ⟨hup, _⟩ ⟨oid, names, q, hchain, hlong, htarget⟩
    have hfound := (hup oid).mpr ⟨maxLinks, Nat.le_refl _, names, q, hchain, hlong, htarget⟩
    cases hfound.symm.trans ((herror _).mpr (.tooDeep hchain hlong))
  · intro hnot
    have hup (oid : Oid) : (∃ links ≤ maxLinks, s.working.refs.EndsAfter r links oid) ↔
        ∃ links < maxLinks, s.working.refs.EndsAfter r links oid := by
      constructor
      · rintro ⟨links, hle, hends⟩
        refine ⟨links, Nat.lt_of_le_of_ne hle ?_, hends⟩
        rintro rfl
        exact hnot ⟨oid, hends⟩
      · rintro ⟨links, hlt, hends⟩
        exact ⟨links, Nat.le_of_lt hlt, hends⟩
    refine ⟨fun oid => (hok oid).trans (hup oid).symm, fun hnone => hother ?_⟩
    rintro ⟨links, hlt, hends⟩
    exact hnone ⟨links, Nat.le_of_lt hlt, hends⟩

/-- Writes of a first commit and of a chain of branches that leads to it. -/
def chainOfBranches : List Write :=
  [.moveHead "a1" "first",
    .pointAt (RefName.ofBranch "r1") (RefName.ofBranch "main"),
    .pointAt (RefName.ofBranch "r2") (RefName.ofBranch "r1"),
    .pointAt (RefName.ofBranch "r3") (RefName.ofBranch "r2"),
    .pointAt (RefName.ofBranch "r4") (RefName.ofBranch "r3"),
    .pointAt (RefName.ofBranch "r5") (RefName.ofBranch "r4")]

/-- The theorem at a chain of four links. -/
theorem resolve_four_links :
    let s := writeAll "main" chainOfBranches (Session.start .empty false default)
    let r := (Pointer.toName (RefName.ofBranch "r3")).named (RefName.ofBranch "r4")
    s.IsOpen ∧ s.working.refs.reference? r.name = some r ∧ (resolve r).runOn s = (.ok "a1", s) := by
  intro s r
  have hopen : s.IsOpen := by decide
  have hends : s.working.refs.EndsAfter r 4 "a1" :=
    ⟨_, .direct "a1", ⟨.link rfl rfl rfl (.link rfl rfl rfl (.link rfl rfl rfl (.link rfl rfl rfl
      (.stay _)))), by decide⟩, rfl, rfl⟩
  exact ⟨hopen, rfl, ((resolve_exact hopen r).1.1 "a1").mpr ⟨4, by decide, hends⟩⟩

/-- A chain of five links ends at a direct target and is refused. -/
theorem resolve_five_links :
    let s := writeAll "main" chainOfBranches (Session.start .empty false default)
    let r := (Pointer.toName (RefName.ofBranch "r4")).named (RefName.ofBranch "r5")
    s.working.refs.reference? r.name = some r ∧ maxLinks = 5 ∧
      s.working.refs.EndsAfter r maxLinks "a1" ∧
      (resolve r).runOn s = (.error (.unresolved r.name (.chain .tooDeep)), s) := by
  intro s r
  have hopen : s.IsOpen := by decide
  have hchain : s.working.refs.Chain r _ (.direct "a1") :=
    ⟨.link rfl rfl rfl (.link rfl rfl rfl (.link rfl rfl rfl (.link rfl rfl rfl (.link rfl rfl rfl
      (.stay _))))), by decide⟩
  exact ⟨rfl, rfl, ⟨_, _, hchain, rfl, rfl⟩,
    (resolve_runOn_error_iff hopen r _).mpr (.tooDeep hchain rfl)⟩

end RefStore
end CommitStore
