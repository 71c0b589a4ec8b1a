import CommitStore.Proofs.ObjectGrowth
import CommitStore.Proofs.Patterns
import CommitStore.Proofs.UserReferences
set_option autoImplicit false

/-!
# What the start of an id finds

The start of an id is looked up as a pattern, so an answer is about the objects whose ids are
instances of that pattern: it is the object if there is one of them, nothing if there is none, and a
refusal with candidates if there are more. That not more than `maxMatches` rows are looked at makes
no difference to this. A store with objects does not match a pattern of more than `Text.maxPattern`
bytes, and then there is no answer but the error of the database (`ObjectStore.refuses`).

These are the objects whose ids begin with the text as long as its characters are plain for the ids.
Otherwise they may be more, and an object is found whose id begins in another way.
-/

namespace CommitStore

open CommitStore.Action

/-! ## 1. Answers -/

namespace ObjectStore

/-- An answer to a lookup that is right if the start names the ids with a given property. -/
structure Finds (s : ObjectStore) (start : String) (named : Oid → Prop)
    (answer : Except Error (Option StoredObject)) : Prop where
  found : ∀ o, answer = .ok (some o) ↔
    o ∈ s.objects ∧ named o.oid ∧ ∀ other ∈ s.objects, named other.oid → other = o
  missing : answer = .ok none ↔ ∀ o ∈ s.objects, ¬ named o.oid
  ambiguous : (∃ candidates, answer = .error (.ambiguousStart start candidates)) ↔
    ∃ a ∈ s.objects, ∃ b ∈ s.objects, a ≠ b ∧ named a.oid ∧ named b.oid
  candidates : ∀ candidates, answer = .error (.ambiguousStart start candidates) →
    candidates.Nodup ∧ ∀ oid ∈ candidates, s.contains oid = true ∧ named oid

variable {s : ObjectStore} {start : String} {named : Oid → Prop}

theorem Finds.none (h : ∀ o ∈ s.objects, ¬ named o.oid) : s.Finds start named (.ok none) where
  found o := by
    refine ⟨fun hsome => (by cases hsome), ?_⟩
    rintro ⟨ho, hnamed, _⟩
    exact absurd hnamed (h o ho)
  missing := ⟨fun _ => h, fun _ => rfl⟩
  ambiguous := by
    refine ⟨fun ⟨_, herror⟩ => (by cases herror), ?_⟩
    rintro ⟨a, ha, _, _, _, hnamed, _⟩
    exact absurd hnamed (h a ha)
  candidates _ herror := by cases herror

theorem Finds.unique {o : StoredObject} (ho : o ∈ s.objects) (hnamed : named o.oid)
    (honly : ∀ other ∈ s.objects, named other.oid → other = o) :
    s.Finds start named (.ok (some o)) where
  found other := by
    constructor
    · intro hsame
      cases hsame
      exact ⟨ho, hnamed, honly⟩
    · rintro ⟨hother, hother', _⟩
      rw [honly other hother hother']
  missing := ⟨fun hnone => (by cases hnone), fun hno => absurd hnamed (hno o ho)⟩
  ambiguous := by
    refine ⟨fun ⟨_, herror⟩ => (by cases herror), ?_⟩
    rintro ⟨a, ha, b, hb, hab, hnameda, hnamedb⟩
    exact absurd ((honly a ha hnameda).trans (honly b hb hnamedb).symm) hab
  candidates _ herror := by cases herror

theorem Finds.several {a b : StoredObject} (ha : a ∈ s.objects) (hb : b ∈ s.objects) (hab : a ≠ b)
    (hnameda : named a.oid) (hnamedb : named b.oid) {candidates : List Oid}
    (hnodup : candidates.Nodup)
    (hcandidates : ∀ oid ∈ candidates, s.contains oid = true ∧ named oid) :
    s.Finds start named (.error (.ambiguousStart start candidates)) where
  found o := by
    refine ⟨fun hsome => (by cases hsome), ?_⟩
    rintro ⟨_, _, honly⟩
    exact absurd ((honly a ha hnameda).trans (honly b hb hnamedb).symm) hab
  missing := ⟨fun hnone => (by cases hnone), fun hno => absurd hnameda (hno a ha)⟩
  ambiguous := ⟨fun _ => ⟨a, ha, b, hb, hab, hnameda, hnamedb⟩, fun _ => ⟨candidates, rfl⟩⟩
  candidates _ herror := by
    cases herror
    exact ⟨hnodup, hcandidates⟩

/-- The first rows of all that the start names say what the answer is. -/
theorem finds_startingWith
    (hnamed : ∀ o ∈ s.objects, named o.oid ↔ Text.startsLike start o.oid = true) :
    s.Finds start named
      (match s.startingWith start with
        | [] => .ok none
        | [o] => .ok (some o)
        | rows => .error (.ambiguousStart start (rows.map (·.oid)))) := by
  have hmem : ∀ o, o ∈ s.objects.filter (fun o => Text.startsLike start o.oid) ↔
      o ∈ s.objects ∧ named o.oid := by
    intro o
    rw [List.mem_filter]
    exact and_congr_right fun ho => (hnamed o ho).symm
  have hids : ((s.objects.filter fun o => Text.startsLike start o.oid).map (·.oid)).Nodup :=
    s.nodup.sublist (List.filter_sublist.map _)
  rw [startingWith]
  generalize s.objects.filter (fun o => Text.startsLike start o.oid) = rows at hmem hids
  match rows with
  | [] => exact Finds.none fun o ho hno => absurd ((hmem o).mpr ⟨ho, hno⟩) List.not_mem_nil
  | [o] =>
    obtain ⟨ho, hnamedo⟩ := (hmem o).mp List.mem_cons_self
    refine Finds.unique ho hnamedo fun other hother hnamedother => ?_
    exact List.mem_singleton.mp ((hmem other).mpr ⟨hother, hnamedother⟩)
  | a :: b :: rest =>
    obtain ⟨ha, hnameda⟩ := (hmem a).mp List.mem_cons_self
    obtain ⟨hb, hnamedb⟩ := (hmem b).mp (List.mem_cons_of_mem _ List.mem_cons_self)
    have hne : a ≠ b := by
      rintro rfl
      exact absurd List.mem_cons_self (List.nodup_cons.mp hids).1
    have htaken : (a :: b :: rest.take 4).Sublist (a :: b :: rest) :=
      ((List.take_sublist 4 rest).cons_cons b).cons_cons a
    refine Finds.several ha hb hne hnameda hnamedb (hids.sublist (htaken.map _)) ?_
    intro oid hoid
    obtain ⟨o, ho, rfl⟩ := List.mem_map.mp hoid
    obtain ⟨hstored, hnamedo⟩ := (hmem o).mp (htaken.subset ho)
    exact ⟨contains_iff_mem.mpr (List.mem_map_of_mem hstored), hnamedo⟩

end ObjectStore

namespace ObjectRows

variable {s : Session} {start : String}

theorem lookup_runOn (h : s.IsOpen) (hlength : ObjectStore.minLength ≤ start.length) :
    (lookup start).runOn s =
      (if s.working.objects.refuses start then .error (.database .longPattern)
        else match s.working.objects.startingWith start with
          | [] => .ok none
          | [o] => .ok (some o)
          | rows => .error (.ambiguousStart start (rows.map (·.oid))), s) := by
  rw [lookup, if_neg (Nat.not_lt.mpr hlength), runOn_bind_of_ok (runOn_read h _),
    ObjectStore.lookup, if_neg (Nat.not_lt.mpr hlength)]
  cases s.working.objects.refuses start with
  | true => rfl
  | false =>
    simp only [Bool.false_eq_true, if_false]
    rcases s.working.objects.startingWith start with _ | ⟨a, _ | ⟨b, rest⟩⟩ <;> rfl

end ObjectRows

namespace Repository

variable {s : Session} {start : String}

/-! ## 2. Names that are looked up -/

/-- What names no branch and no reference stands for the object that is found. -/
theorem resolveObject_eq_ok_iff_of_unnamed (h : s.IsOpen)
    (hlength : ObjectStore.minLength ≤ start.length)
    (hbranch : EventLog.branchTip? s.working.refs start = none)
    (href : s.working.refs.get? start = none) {oid : Oid} {s' : Session} :
    (resolveObject start).runOn s = (.ok oid, s') ↔
      s' = s ∧ ∃ o, (ObjectRows.lookup start).runOn s = (.ok (some o), s) ∧ oid = o.oid := by
  have hnone : s.working.refs.reference? start = none := by
    rw [RefTable.reference?, href]
    rfl
  rw [resolveObject, runOn_bind_of_ok (RefStore.branch?_runOn h start), hbranch]
  dsimp only
  rw [runOn_bind_of_ok (RefStore.get?_runOn h start), hnone]
  dsimp only
  rw [if_neg (Nat.not_lt.mpr hlength), runOn_bind_eq_ok_iff]
  constructor
  · rintro ⟨found, s₁, hfound, hrest⟩
    obtain rfl := (ObjectRows.looks_lookup start).eq_of_runOn hfound
    cases found with
    | none => cases hrest
    | some o =>
      cases hrest
      exact ⟨rfl, o, hfound, rfl⟩
  · rintro ⟨rfl, o, hfound, rfl⟩
    exact ⟨some o, _, hfound, rfl⟩

theorem peel_eq_ok_some_iff (h : s.IsOpen) {oid c : Oid} {s' : Session} :
    (RefStore.peel oid).runOn s = (.ok (some c), s') ↔
      s' = s ∧ s.working.objects.PeelsTo oid c := by
  rw [RefStore.peel_runOn h, ← ObjectStore.peel_eq_commit_iff]
  cases s.working.objects.peel oid <;> simp [eq_comm, and_comm]

theorem resolveCommit_eq_ok_iff_of_unnamed (h : s.IsOpen)
    (hlength : ObjectStore.minLength ≤ start.length)
    (hbranch : EventLog.branchTip? s.working.refs start = none)
    (href : s.working.refs.get? start = none) {c : Oid} {s' : Session} :
    (resolveCommit start).runOn s = (.ok c, s') ↔
      s' = s ∧ ∃ o, (ObjectRows.lookup start).runOn s = (.ok (some o), s) ∧
        s.working.objects.PeelsTo o.oid c := by
  rw [resolveCommit, runOn_bind_eq_ok_iff]
  constructor
  · rintro ⟨oid, s₁, hresolve, hrest⟩
    obtain ⟨rfl, o, hfound, rfl⟩ :=
      (resolveObject_eq_ok_iff_of_unnamed h hlength hbranch href).mp hresolve
    obtain ⟨commit, s₂, hpeel, hanswer⟩ := runOn_bind_eq_ok_iff.mp hrest
    cases commit with
    | none => cases hanswer
    | some commit =>
      cases hanswer
      obtain ⟨rfl, hpeels⟩ := (peel_eq_ok_some_iff h).mp hpeel
      exact ⟨rfl, o, hfound, hpeels⟩
  · rintro ⟨rfl, o, hfound, hpeels⟩
    refine ⟨o.oid, s', ?_, runOn_bind_eq_ok_iff.mpr ⟨some c, s', ?_, rfl⟩⟩
    · exact (resolveObject_eq_ok_iff_of_unnamed h hlength hbranch href).mpr ⟨rfl, o, hfound, rfl⟩
    · exact (peel_eq_ok_some_iff h).mpr ⟨rfl, hpeels⟩

/-- **What the start of an id finds.** Where the store does not refuse the start as too long a
pattern, the answer to a start of at least `minLength` characters is right for the ids that start
like it, on every store. These are all ids that begin with the text, and they are no others if the
characters of the text are plain for the stored ids. What is no branch and no reference is resolved
to a commit only by way of such an answer. A start that is refused finds nothing. -/
theorem lookup_exact (s : Session) (h : s.IsOpen) (start : String)
    (hlength : ObjectStore.minLength ≤ start.length) :
    let objects := s.working.objects
    let answer := ((ObjectRows.lookup start).runOn s).1
    (objects.refuses start = false →
      objects.Finds start (fun oid => Text.startsLike start oid = true) answer ∧
      ((∀ o ∈ objects.objects, ∀ p ∈ start.toList, Text.IsPlainFor o.oid p) →
        objects.Finds start (fun oid => start.toList <+: oid.toList) answer)) ∧
      (∀ oid : Oid, start.toList <+: oid.toList → Text.startsLike start oid = true) ∧
      (EventLog.branchTip? s.working.refs start = none → s.working.refs.get? start = none →
        ∀ c s', (resolveCommit start).runOn s = (.ok c, s') ↔
          s' = s ∧ ∃ o, answer = .ok (some o) ∧ objects.PeelsTo o.oid c) ∧
      (objects.refuses start = true → answer = .error (.database .longPattern)) := by
  intro objects answer
  have hanswer : answer = _ := congrArg Prod.fst (ObjectRows.lookup_runOn h hlength)
  have hrun : (ObjectRows.lookup start).runOn s = (answer, s) :=
    Prod.ext rfl (ObjectRows.looks_lookup start s)
  refine ⟨fun hmatched => ?_, fun oid => Text.startsLike_of_prefix, ?_, fun hrefused => ?_⟩
  · have hfinds : ∀ named : Oid → Prop,
        (∀ o ∈ objects.objects, named o.oid ↔ Text.startsLike start o.oid = true) →
          objects.Finds start named answer := by
      intro named hnamed
      rw [hanswer]
      dsimp only
      rw [hmatched]
      exact ObjectStore.finds_startingWith hnamed
    refine ⟨hfinds _ fun o _ => Iff.rfl, fun hplain => ?_⟩
    refine hfinds _ fun o ho => ⟨Text.startsLike_of_prefix, ?_⟩
    exact Text.prefix_of_startsLike (hplain o ho)
  · intro hbranch href c s'
    rw [resolveCommit_eq_ok_iff_of_unnamed h hlength hbranch href, hrun]
    simp only [Prod.mk.injEq, and_true]
    exact Iff.rfl
  · rw [hanswer]
    exact if_pos hrefused

/-! ## 3. A start that is a pattern -/

open CommitLine

/-- The row of a first commit. -/
def singleRow : StoredObject :=
  { oid := firstId, kind := .commit, message := some "a", createdAt := second 0 }

theorem pointTables_rows :
    let t := pointTables {}
    t.objects.objects = [singleRow] ∧ t.objects.isCommit firstId = true ∧
      ∀ start ∈ ["e278", "____"], EventLog.branchTip? t.refs start = none ∧
        t.refs.get? start = none := by
  decide

theorem run_single :
    (run {} [(second 0, .commit "a" none)] fresh).2 =
      Session.start (pointTables {}) false (second 0) :=
  congrArg Prod.snd (perform_first admits_default)

/-- The theorem at the beginning of the id of the one commit. -/
theorem lookup_exact_single :
    let s := (run {} [(second 0, .commit "a" none)] fresh).2
    (ObjectStore.minLength ≤ "e278".length ∧ s.IsOpen) ∧
      ((ObjectRows.lookup "e278").runOn s).1 = .ok (some singleRow) ∧
      (resolveCommit "e278").runOn s = (.ok firstId, s) := by
  intro s
  obtain ⟨hobjects, hcommit, hnames⟩ := pointTables_rows
  have hs : s = Session.start (pointTables {}) false (second 0) := run_single
  have hopen : s.IsOpen := hs ▸ isOpen_start _ _ _
  have hlength : ObjectStore.minLength ≤ "e278".length := by decide
  have hchars : ∀ p ∈ "e278".toList, (p ≠ '%' ∧ p ≠ '_') ∧ p.toNat ≠ 0 ∧
      ¬ (65 ≤ p.toNat ∧ p.toNat ≤ 70) := by simp
  have hall : ∀ o ∈ s.working.objects.objects, o = singleRow := by
    rw [hs]
    exact fun o ho => List.mem_singleton.mp (hobjects ▸ ho)
  have hstored : singleRow ∈ s.working.objects.objects := by
    rw [hs, start_working, hobjects]
    exact List.mem_singleton_self _
  obtain ⟨hmatched, _, hresolve, _⟩ := lookup_exact s hopen "e278" hlength
  have hshort : s.working.objects.refuses "e278" = false := rfl
  have hliteral := (hmatched hshort).2 fun o ho p hp => by
    obtain ⟨hwildcard, hend, hcapital⟩ := hchars p hp
    rw [hall o ho]
    exact Text.isPlainFor_of_isHex isHex_firstId hwildcard hend hcapital
  have hfound : ((ObjectRows.lookup "e278").runOn s).1 = .ok (some singleRow) :=
    (hliteral.found singleRow).mpr ⟨hstored, by decide, fun other hother _ => hall other hother⟩
  obtain ⟨hbranch, href⟩ := hnames "e278" List.mem_cons_self
  rw [hs] at hresolve hfound ⊢
  refine ⟨⟨hlength, isOpen_start _ _ _⟩, hfound, ?_⟩
  exact (hresolve hbranch href firstId _).mpr
    ⟨rfl, singleRow, hfound, ObjectStore.peelsTo_of_isCommit hcommit⟩

/-- **Four wildcards find a commit whose id begins in another way.** No id begins with the text, and
it is resolved to the commit all the same. -/
theorem resolveCommit_wildcards :
    let s := (run {} [(second 0, .commit "a" none)] fresh).2
    (∀ o ∈ s.working.objects.objects, ¬ "____".toList <+: o.oid.toList) ∧
      EventLog.branchTip? s.working.refs "____" = none ∧ s.working.refs.get? "____" = none ∧
      (ObjectRows.lookup "____").runOn s = (.ok (some singleRow), s) ∧
      (resolveCommit "____").runOn s = (.ok firstId, s) := by
  intro s
  obtain ⟨hobjects, hcommit, hnames⟩ := pointTables_rows
  let u := Session.start (pointTables {}) false (second 0)
  have hs : s = u := run_single
  obtain ⟨hbranch, href⟩ := hnames "____" (by decide)
  have hopen : u.IsOpen := isOpen_start _ _ _
  have hrows : (pointTables {}).objects.startingWith "____" = [singleRow] := by
    rw [ObjectStore.startingWith, hobjects]
    decide
  have hfound : (ObjectRows.lookup "____").runOn u = (.ok (some singleRow), u) := by
    have hshort : (pointTables {}).objects.refuses "____" = false := rfl
    rw [ObjectRows.lookup_runOn hopen (by decide), start_working, hshort, hrows]
    rfl
  rw [hs]
  refine ⟨?_, hbranch, href, hfound, ?_⟩
  · intro o ho
    obtain rfl := List.mem_singleton.mp (hobjects ▸ ho)
    decide
  · exact (resolveCommit_eq_ok_iff_of_unnamed hopen (by decide) hbranch href).mpr
      ⟨rfl, singleRow, hfound, ObjectStore.peelsTo_of_isCommit hcommit⟩

end Repository
end CommitStore
