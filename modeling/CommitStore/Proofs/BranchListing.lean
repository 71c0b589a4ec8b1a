import CommitStore.Proofs.UserReferences
import CommitStore.Proofs.WrittenReferences
set_option autoImplicit false

/-!
# What the listing of branches holds

Branches are listed by a pattern and looked up by name. The pattern takes a letter for its other
case as well, so a reference whose name begins with the root of the branches in another case is
listed too, by the rest of its name (`RefStore.mem_branchNames_iff`). Such a name is a valid one.

The listing is always in order, and no branch is missing. It is exact, with every branch once and
nothing but branches, if and only if no stored name is spelled in that way
(`RefStore.branches_exact_iff`). The visible set does not suffer: it looks up what is listed, so the
roots that it takes from the branches are their targets in any case.
-/

namespace CommitStore

open CommitStore.Action

/-! ## 1. Orders, and starts in any case -/

namespace Text

/-- An instance of a start is compared with it character by character. -/
theorem matchesPattern_start_iff {front : List Char} (hplain : ∀ p ∈ front, p ≠ '%' ∧ p ≠ '_')
    (text : List Char) :
    matchesPattern (front ++ ['%']) text = true ↔
      (text.take front.length).map compared = front.map compared := by
  induction front generalizing text with
  | nil => simp [matchesPattern_any]
  | cons p front ih =>
    obtain ⟨hrun, hany⟩ := hplain p List.mem_cons_self
    have hstands (c : Char) : standsFor p c = true ↔ compared c = compared p := by
      rw [standsFor, beq_false_of_ne hany, Bool.false_or, beq_iff_eq, eq_comm]
    rw [List.cons_append]
    cases text with
    | nil =>
      rw [matchesPattern_cons_nil hrun]
      simp
    | cons c text =>
      rw [matchesPattern_cons hrun, Bool.and_eq_true, hstands,
        ih (fun q hq => hplain q (List.mem_cons_of_mem _ hq))]
      simp

/-- Names in strict order are each there once. -/
theorem nodup_of_sorted {names : List String}
    (h : names.Pairwise fun a b => before a b = true) : names.Nodup := by
  refine h.imp fun {a b} hbefore hsame => ?_
  rw [hsame, not_before_self] at hbefore
  cases hbefore

/-- Names that are in order are in strict order if none of them is there twice. -/
theorem sorted_iff_nodup {names : List String}
    (h : names.Pairwise fun a b => notAfter a b = true) :
    (names.Pairwise fun a b => before a b = true) ↔ names.Nodup := by
  refine ⟨nodup_of_sorted, fun hnodup => ?_⟩
  refine (h.and hnodup).imp fun {a b} hab => ?_
  by_contra hnot
  refine hab.2 (eq_of_not_before (Bool.eq_false_iff.mpr hnot) ?_)
  simpa [notAfter] using hab.1

/-- Among plain characters only the case of letters is passed over. -/
theorem compared_of_lt {c : Char} (h : c.toNat < 0xFFFE) : compared c = c.toLower :=
  if_neg (by omega)

end Text

namespace RefName

/-- A name begins with the root of all branches, in whatever case the letters are. -/
def IsLikeBranch (name : RefName) : Prop :=
  (name.toList.take branchRoot.length).map Char.toLower = branchRoot.toList

instance (name : RefName) : Decidable (IsLikeBranch name) :=
  inferInstanceAs (Decidable (_ = _))

/-- A name begins like the name of a branch, but with letters in the other case. -/
def IsMiscased (name : RefName) : Prop :=
  IsLikeBranch name ∧ ¬ branchRoot.toList <+: name.toList

/-- What a name has behind as many characters as the root of all branches. -/
def branchPart (name : RefName) : String := String.ofList (name.toList.drop branchRoot.length)

theorem length_branchRoot : branchRoot.toList.length = branchRoot.length := String.length_toList

theorem branchPart_ofBranch (branch : String) : branchPart (ofBranch branch) = branch := by
  rw [branchPart, ofBranch, String.toList_append, List.drop_left' length_branchRoot,
    String.ofList_toList]

theorem ofBranch_branchPart {name : RefName} (h : branchRoot.toList <+: name.toList) :
    ofBranch (branchPart name) = name := by
  obtain ⟨rest, hrest⟩ := h
  rw [← String.toList_inj, ofBranch, branchPart, String.toList_append, String.toList_ofList, ← hrest,
    List.drop_left' length_branchRoot]

/-- **The pattern of the branches finds the names that begin like a branch.** -/
theorem startsLike_branchRoot_iff (name : RefName) :
    Text.startsLike branchRoot name = true ↔ IsLikeBranch name := by
  have hchars : branchRoot.toList.all (fun p => decide ((p ≠ '%' ∧ p ≠ '_') ∧
      47 ≤ p.toNat ∧ p.toNat ≤ 122)) = true := by decide
  have hroot (p : Char) (hp : p ∈ branchRoot.toList) :
      (p ≠ '%' ∧ p ≠ '_') ∧ 47 ≤ p.toNat ∧ p.toNat ≤ 122 :=
    of_decide_eq_true (List.all_eq_true.mp hchars p hp)
  have hself : branchRoot.toList.map Text.compared = branchRoot.toList := by decide
  rw [Text.startsLike, Text.beforeNul_append fun p hp => by have := (hroot p hp).2; omega,
    show Text.beforeNul ['%'] = ['%'] from rfl,
    Text.matchesPattern_start_iff fun p hp => (hroot p hp).1, hself]
  show ((Text.beforeNul name.toList).take branchRoot.length).map Text.compared = _ ↔ _
  constructor
  · intro h
    obtain ⟨rest, hrest⟩ : Text.beforeNul name.toList <+: name.toList := List.takeWhile_prefix _
    have hlength : branchRoot.length ≤ (Text.beforeNul name.toList).length := by
      have := congrArg List.length h
      rw [List.length_map, List.length_take, length_branchRoot] at this
      omega
    rw [IsLikeBranch, ← hrest, List.take_append_of_le_length hlength, ← h]
    refine List.map_congr_left fun c hc => ?_
    have hmem : Text.compared c ∈ branchRoot.toList := h ▸ List.mem_map_of_mem hc
    unfold Text.compared at hmem ⊢
    split
    · next hnone =>
      rw [if_pos hnone] at hmem
      exact absurd hmem (by decide)
    · rfl
  · intro h
    have hsmall : ∀ c ∈ name.toList.take branchRoot.length, c.toNat ≠ 0 ∧ c.toNat < 0xFFFE := by
      intro c hc
      obtain ⟨_, hleast, hmost⟩ := hroot c.toLower (h ▸ List.mem_map_of_mem hc)
      rcases Text.toLower_cases c with hlower | ⟨_, _, _⟩
      · rw [hlower] at hleast hmost
        omega
      · omega
    have hlength : (name.toList.take branchRoot.length).length = branchRoot.length := by
      have := congrArg List.length h
      rwa [List.length_map, length_branchRoot] at this
    rw [← List.take_append_drop branchRoot.length name.toList,
      Text.beforeNul_append fun c hc => (hsmall c hc).1, List.take_left' hlength, ← h]
    exact List.map_congr_left fun c hc => Text.compared_of_lt (hsmall c hc).2

theorem isLikeBranch_ofBranch (branch : String) : IsLikeBranch (ofBranch branch) :=
  (startsLike_branchRoot_iff _).mp (RefStore.startsLike_ofBranch branch)

end RefName

/-! ## 2. The listing -/

namespace RefStore

variable (refs : RefTable)

theorem branchNames_perm :
    (branchNames refs).Perm
      ((refs.names.filter (Text.startsLike RefName.branchRoot)).map RefName.branchPart) :=
  List.mergeSort_perm _ _

theorem branchNames_inOrder :
    (branchNames refs).Pairwise fun a b => Text.notAfter a b = true :=
  List.pairwise_mergeSort Text.notAfter_trans Text.notAfter_total _

theorem mem_listed_iff (name : RefName) :
    name ∈ refs.names.filter (Text.startsLike RefName.branchRoot) ↔
      (∃ p, refs.get? name = some p) ∧ RefName.IsLikeBranch name := by
  rw [List.mem_filter, NameMap.mem_names_iff, RefName.startsLike_branchRoot_iff]

/-- **What is listed** are the rests of the names that begin like a branch. -/
theorem mem_branchNames_iff (branch : String) :
    branch ∈ branchNames refs ↔ ∃ name p, refs.get? name = some p ∧ RefName.IsLikeBranch name ∧
      branch = RefName.branchPart name := by
  rw [(branchNames_perm refs).mem_iff, List.mem_map]
  constructor
  · rintro ⟨name, hname, rfl⟩
    obtain ⟨⟨p, hget⟩, hlike⟩ := (mem_listed_iff refs name).mp hname
    exact ⟨name, p, hget, hlike, rfl⟩
  · rintro ⟨name, p, hget, hlike, rfl⟩
    exact ⟨name, (mem_listed_iff refs name).mpr ⟨⟨p, hget⟩, hlike⟩, rfl⟩

/-- A name is listed twice if two stored names that begin like a branch go on with it. -/
theorem branchNames_nodup_iff :
    (branchNames refs).Nodup ↔ ∀ a ∈ refs.names.filter (Text.startsLike RefName.branchRoot),
      ∀ b ∈ refs.names.filter (Text.startsLike RefName.branchRoot),
        RefName.branchPart a = RefName.branchPart b → a = b := by
  have hnames := Text.nodup_of_sorted refs.names_sorted
  rw [(branchNames_perm refs).nodup_iff, List.nodup_map_iff_inj_on (hnames.filter _)]

variable {refs}

/-- **Exact listings.** The names in the listing are in strict order, and are those of the branches,
exactly if nothing that begins like a branch is spelled in another case. -/
theorem branchNames_exact_iff :
    ((branchNames refs).Pairwise fun a b => Text.before a b = true) ∧
      (∀ branch, branch ∈ branchNames refs ↔ ∃ p, refs.get? (RefName.ofBranch branch) = some p) ↔
    ∀ name p, refs.get? name = some p → ¬ RefName.IsMiscased name := by
  rw [Text.sorted_iff_nodup (branchNames_inOrder refs), branchNames_nodup_iff]
  constructor
  · rintro ⟨honce, hexact⟩ name p hget ⟨hlike, hcase⟩
    -- The branch that the name is listed as is there, so it is listed a second time.
    obtain ⟨q, hq⟩ := (hexact (RefName.branchPart name)).mp
      ((mem_branchNames_iff refs _).mpr ⟨name, p, hget, hlike, rfl⟩)
    have hsame : name = RefName.ofBranch (RefName.branchPart name) := by
      refine honce _ ((mem_listed_iff refs _).mpr ⟨⟨p, hget⟩, hlike⟩) _
        ((mem_listed_iff refs _).mpr ⟨⟨q, hq⟩, RefName.isLikeBranch_ofBranch _⟩) ?_
      rw [RefName.branchPart_ofBranch]
    rw [hsame, RefName.ofBranch, String.toList_append] at hcase
    exact hcase (List.prefix_append _ _)
  · intro hnone
    have hname {name : RefName} {p : Pointer} (hget : refs.get? name = some p)
        (hlike : RefName.IsLikeBranch name) : RefName.ofBranch (RefName.branchPart name) = name :=
      RefName.ofBranch_branchPart (Decidable.not_not.mp fun hcase => hnone name p hget ⟨hlike, hcase⟩)
    constructor
    · intro a ha b hb hsame
      obtain ⟨⟨p, hp⟩, hlike⟩ := (mem_listed_iff refs a).mp ha
      obtain ⟨⟨q, hq⟩, hlike'⟩ := (mem_listed_iff refs b).mp hb
      rw [← hname hp hlike, ← hname hq hlike', hsame]
    · intro branch
      constructor
      · intro hmem
        obtain ⟨name, p, hget, hlike, rfl⟩ := (mem_branchNames_iff refs branch).mp hmem
        exact ⟨p, (hname hget hlike).symm ▸ hget⟩
      · rintro ⟨p, hget⟩
        exact mem_branchNames hget

/-- The visible set takes from the branches what they point at directly. -/
theorem mem_branchRoots_iff (t : Tables) (mainBranch : String) (active : List Oid) (oid : Oid) :
    oid ∈ (EventLog.rootsOf t mainBranch active).branches ↔
      ∃ branch p, t.refs.get? (RefName.ofBranch branch) = some p ∧ p.target = some oid := by
  show oid ∈ (branchNames t.refs).filterMap (EventLog.branchTip? t.refs) ↔ _
  rw [List.mem_filterMap]
  constructor
  · rintro ⟨branch, _, htip⟩
    obtain ⟨p, hget, htarget⟩ := Option.bind_eq_some_iff.mp htip
    exact ⟨branch, p, hget, htarget⟩
  · rintro ⟨branch, p, hget, htarget⟩
    exact ⟨branch, mem_branchNames hget, Option.bind_eq_some_iff.mpr ⟨p, hget, htarget⟩⟩

/-! ## 3. What a session answers -/

theorem branches_runOn {s : Session} (h : s.IsOpen) :
    branches.runOn s = (.ok (branchNames s.working.refs), s) :=
  runOn_accessing_read h _ _ _

/-- A list of names is that of the branches in a session: in strict order, and with the names under
which a look at the branch finds a reference. -/
structure ListsBranches (s : Session) (names : List String) : Prop where
  sorted : names.Pairwise fun a b => Text.before a b = true
  exact : ∀ branch, branch ∈ names ↔
    ∃ r, (get? (RefName.ofBranch branch)).runOn s = (.ok (some r), s)

/-- **When the listing of branches is exact.** On every open session, whatever references it has,
branches are listed. The list is in order and holds the rest of each name that begins with the root
of the branches in any case of the letters. It lists the branches exactly if there is no name that
begins with the root in another case only. And in every case the visible set looks at the direct
target of every branch, and takes nothing else from the listing. -/
theorem branches_exact_iff {s : Session} (hopen : s.IsOpen) :
    let refs := s.working.refs
    ∃ names, branches.runOn s = (.ok names, s) ∧
      (names.Pairwise fun a b => Text.notAfter a b = true) ∧
      (∀ branch, branch ∈ names ↔ ∃ name p, refs.get? name = some p ∧
        RefName.IsLikeBranch name ∧ branch = RefName.branchPart name) ∧
      (ListsBranches s names ↔ ∀ name p, refs.get? name = some p → ¬ RefName.IsMiscased name) ∧
      ∀ mainBranch active oid, oid ∈ (EventLog.rootsOf s.working mainBranch active).branches ↔
        ∃ branch p, refs.get? (RefName.ofBranch branch) = some p ∧ p.target = some oid := by
  intro refs
  have hfound (branch : String) :
      (∃ r, (get? (RefName.ofBranch branch)).runOn s = (.ok (some r), s)) ↔
        ∃ p, refs.get? (RefName.ofBranch branch) = some p := by
    simp only [get?_runOn hopen, RefTable.reference?, Prod.mk.injEq, Except.ok.injEq, and_true,
      Option.map_eq_some_iff]
    constructor
    · rintro ⟨_, p, hget, _⟩
      exact ⟨p, hget⟩
    · rintro ⟨p, hget⟩
      exact ⟨_, p, hget, rfl⟩
  refine ⟨branchNames refs, branches_runOn hopen, branchNames_inOrder refs, mem_branchNames_iff refs,
    ?_, mem_branchRoots_iff s.working⟩
  rw [← branchNames_exact_iff]
  constructor
  · rintro ⟨hsorted, hexact⟩
    exact ⟨hsorted, fun branch => (hexact branch).trans (hfound branch)⟩
  · rintro ⟨hsorted, hexact⟩
    exact ⟨hsorted, fun branch => (hexact branch).trans (hfound branch).symm⟩

/-- The theorem at two branches, whose names are all there is: the listing has both. -/
theorem branches_exact_iff_two :
    let s := writeAll "main" [.moveHead "a1" "first", .setBranch "dev" "a1" "second"]
      (Session.start .empty false default)
    s.IsOpen ∧ ∃ names, branches.runOn s = (.ok names, s) ∧ ListsBranches s names ∧
      "dev" ∈ names ∧ "main" ∈ names := by
  intro s
  have hopen : s.IsOpen := by decide
  have hnames : s.working.refs.names = ["HEAD", "refs/heads/dev", "refs/heads/main"] := rfl
  obtain ⟨names, hrun, _, hmem, hexact, _⟩ := branches_exact_iff hopen
  refine ⟨hopen, names, hrun, hexact.mpr ?_, ?_, ?_⟩
  · intro name p hget hcase
    have hname := (s.working.refs.mem_names_iff name).mpr ⟨p, hget⟩
    rw [hnames] at hname
    -- The head does not begin like a branch, and the others are branches.
    have hchecked : ∀ name ∈ ["HEAD", "refs/heads/dev", "refs/heads/main"],
        ¬ RefName.IsLikeBranch name ∨ RefName.branchRoot.toList <+: name.toList := by decide
    exact (hchecked name hname).elim (· hcase.1) hcase.2
  · exact (hmem "dev").mpr ⟨RefName.ofBranch "dev", .direct "a1", rfl,
      RefName.isLikeBranch_ofBranch "dev", (RefName.branchPart_ofBranch "dev").symm⟩
  · exact (hmem "main").mpr ⟨RefName.ofBranch "main", .direct "a1", rfl,
      RefName.isLikeBranch_ofBranch "main", (RefName.branchPart_ofBranch "main").symm⟩

/-- A reference with a valid name in another case: it is listed as a branch that is not there. -/
theorem branches_miscased :
    let t := Tables.empty.withObject { oid := "a1", kind := .commit, createdAt := default }
    let s := writeAll "main" [.put "refs/HEADS/b" "a1" "first"] (Session.start t false default)
    RefName.fault? "refs/HEADS/b" = none ∧ RefTable.Written "main" s.working.refs ∧
      (get? (RefName.ofBranch "b")).runOn s = (.ok none, s) ∧
      ∃ names, branches.runOn s = (.ok names, s) ∧ "b" ∈ names ∧ ¬ ListsBranches s names := by
  intro t s
  have hnone : (get? (RefName.ofBranch "b")).runOn s = (.ok none, s) := rfl
  have hlisted : "b" ∈ branchNames s.working.refs :=
    (mem_branchNames_iff _ "b").mpr ⟨"refs/HEADS/b", .direct "a1", rfl, by decide, rfl⟩
  refine ⟨by decide, written_writeAll "main" _ .empty .empty, hnone, _,
    branches_runOn (by decide), hlisted, ?_⟩
  rintro ⟨_, hexact⟩
  obtain ⟨r, hr⟩ := (hexact "b").mp hlisted
  rw [hnone] at hr
  cases hr

end RefStore
end CommitStore
