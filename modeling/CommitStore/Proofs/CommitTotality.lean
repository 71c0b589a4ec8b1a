import CommitStore.Proofs.AcceptedRoots
import CommitStore.Proofs.OpenHistories
import CommitStore.Proofs.StoredRows
set_option autoImplicit false

/-!
# When a commit is made

On an open session a commit whose parents are commits is made, unless the list of its parents cannot
be stored. Only a merge has such a list, and `MergeFits` says when it can be stored: no parent is
repeated, and none is linked to the id of the commit already. So a commit that is no merge can be
made again and again with one id. A merge cannot: making it has stored the links of its id, and they
are stored even where the row of the commit is not stored a second time (`commit_again`).

No link belongs to an id that is not stored, which is what a history of calls keeps true. So a merge
of different commits whose id is new can always be made.
-/

namespace CommitStore

open CommitStore.Action
open CommitStore.Repository

/-! ## 1. Parents of a merge -/

/-- The parents of a merge can be linked to it. -/
def Tables.MergeFits (t : Tables) (oid : Oid) (parents : List Oid) : Prop :=
  1 < parents.length →
    parents.Nodup ∧ ∀ link ∈ t.objects.links, link.commit = oid → link.parent ∉ parents

theorem ObjectStore.admitsLinks_insert_iff {s : ObjectStore} {o : StoredObject}
    {parents : List Oid} (hparents : ∀ oid ∈ parents, s.contains oid = true) :
    (s.insert o).admitsLinks o.oid parents = true ↔
      parents.Nodup ∧ ∀ link ∈ s.links, link.commit = o.oid → link.parent ∉ parents := by
  have hstored : (s.insert o).contains o.oid = true := s.contains_insert o
  have hall : parents.all (s.insert o).contains = true := by
    rw [List.all_eq_true]
    intro oid hoid
    exact (s.contains_insert_iff o oid).mpr (Or.inl (hparents oid hoid))
  rw [admitsLinks, hstored, hall, links_insert]
  simp only [Bool.true_and, Bool.and_eq_true, decide_eq_true_eq, List.all_eq_true,
    Bool.not_eq_true', List.any_eq_false, beq_iff_eq, not_and]
  refine and_congr_right fun _ => ?_
  constructor
  · intro h link hlink hcommit hmem
    exact h link.parent hmem link hlink hcommit rfl
  · intro h parent hparent link hlink hcommit hsame
    exact h link hlink hcommit (hsame ▸ hparent)

theorem ObjectStore.exists_mem_linksFor (commit : Oid) {parents : List Oid} {parent : Oid}
    (h : parent ∈ parents) :
    ∃ link ∈ linksFor commit parents, link.commit = commit ∧ link.parent = parent := by
  obtain ⟨i, hi⟩ := List.mem_iff_getElem?.mp h
  have hmem : (parent, i) ∈ parents.zipIdx := List.mem_zipIdx_iff_getElem?.mpr hi
  exact ⟨⟨commit, parent, i⟩, List.mem_map.mpr ⟨_, hmem, rfl⟩, rfl, rfl⟩

theorem Tables.withCommit?_isSome_iff {t : Tables} {parents : List Oid}
    (hparents : ∀ oid ∈ parents, t.objects.contains oid = true) (message : String)
    (now : Instant) :
    (t.withCommit? parents message now).isSome = true ↔
      t.MergeFits (ObjectId.ofCommit parents message now.toIsoUtc) parents := by
  have hlinks := ObjectStore.admitsLinks_insert_iff (o := .ofCommit parents message now) hparents
  rw [MergeFits, withCommit?]
  by_cases hmerge : 1 < parents.length
  · rw [if_pos hmerge]
    simp only [hmerge, true_imp_iff]
    refine Iff.trans ?_ hlinks
    show (if (t.objects.insert _).admitsLinks _ parents then _ else none : Option Tables).isSome = _
      ↔ _
    split <;> simp_all
  · rw [if_neg hmerge]
    simp [hmerge]

/-! ## 2. Links belong to stored objects -/

/-- Every link belongs to an object that is stored. -/
def ObjectStore.LinksStored (s : ObjectStore) : Prop :=
  ∀ link ∈ s.links, s.contains link.commit = true

theorem ObjectStore.linksStored_empty : empty.LinksStored :=
  fun _ hlink => absurd hlink List.not_mem_nil

theorem ObjectStore.LinksStored.insert {s : ObjectStore} (h : s.LinksStored) (o : StoredObject) :
    (s.insert o).LinksStored := by
  intro link hlink
  rw [links_insert] at hlink
  exact (s.contains_insert_iff o _).mpr (Or.inl (h link hlink))

theorem ObjectStore.LinksStored.link {s : ObjectStore} (h : s.LinksStored) {commit : Oid}
    (hcommit : s.contains commit = true) (parents : List Oid) :
    (s.link commit parents).LinksStored := by
  intro link hlink
  rcases List.mem_append.mp hlink with hold | hnew
  · exact h link hold
  · rw [(of_mem_linksFor hnew).1]
    exact hcommit

theorem ObjectStore.LinksStored.withCommit? {t t' : Tables} (h : t.objects.LinksStored)
    {parents : List Oid} {message : String} {now : Instant}
    (hsave : t.withCommit? parents message now = some t') : t'.objects.LinksStored := by
  have hsaved := h.insert (.ofCommit parents message now)
  rcases Tables.eq_of_withCommit? hsave with ⟨_, rfl⟩ | ⟨_, rfl⟩
  · exact hsaved
  · exact hsaved.link (ObjectStore.contains_insert _ (.ofCommit parents message now)) parents

/-- A merge with different parents fits, if its id is new. -/
theorem ObjectStore.LinksStored.mergeFits {t : Tables} (h : t.objects.LinksStored) {oid : Oid}
    {parents : List Oid} (hnodup : parents.Nodup) (hnew : t.objects.contains oid = false) :
    t.MergeFits oid parents := by
  intro _
  refine ⟨hnodup, ?_⟩
  intro link hlink hcommit
  have hstored := h link hlink
  rw [hcommit, hnew] at hstored
  cases hstored

/-- A row that is stored on its own: a blob, or a tag of a stored object. -/
structure ObjectStore.Accepts (hashed : String → Prop) (s : ObjectStore) (o : StoredObject) :
    Prop where
  row : RowHolds hashed o
  parent : o.parent = none
  kind : o.kind ≠ .commit
  target : ∀ target, o.target = some target → o.kind = .tag ∧ s.contains target = true

/-- What an effect does to the objects: nothing, or it stores a blob or a tag, or it stores a
commit. -/
theorem EffectUnder.objects_cases {config : Config} {hashed : String → Prop}
    {allowed : Tables → Call → Prop} {t t' : Tables} (h : EffectUnder config hashed allowed t t') :
    t'.objects = t.objects ∨
      (∃ o, t.objects.Accepts hashed o ∧ t'.objects = t.objects.insert o) ∨
      ∃ parents message now saved,
        hashed (ObjectId.textOf .commit (ObjectId.commitPayload parents message now.toIsoUtc)) ∧
          (∀ parent ∈ parents, t.objects.isCommit parent = true) ∧
          t.withCommit? parents message now = some saved ∧ t'.objects = saved.objects := by
  have hpinned : ∀ saved oid now,
      (pinnedIfPossible config saved oid now).objects = saved.objects := by
    intro saved oid now
    unfold pinnedIfPossible
    split <;> rfl
  cases h with
  | blob data now hhashed =>
    refine Or.inr (Or.inl ⟨_, ⟨ObjectStore.rowHolds_ofBlob hhashed, rfl, ?_, ?_⟩, rfl⟩)
    · intro hkind
      cases hkind
    · intro target htarget
      cases htarget
  | tag name target message now hhashed hstored =>
    refine Or.inr (Or.inl ⟨_, ⟨ObjectStore.rowHolds_ofTag hhashed, rfl, ?_, ?_⟩, rfl⟩)
    · intro hkind
      cases hkind
    · intro target htarget
      cases htarget
      exact ⟨rfl, hstored⟩
  | tagReference => exact Or.inl rfl
  | @commit saved parents message now oid _ hhashed hparents hsave =>
    refine Or.inr (Or.inr ⟨parents, message, now, saved, hhashed, hparents, hsave, ?_⟩)
    rw [hpinned, Tables.moved_objects]
  | branch name source oid attaches now =>
    cases attaches <;> exact Or.inl rfl
  | unbranch name oid now =>
    refine Or.inl ?_
    rw [unbranched, (Tables.logged_frame _ _ _ _).2]
    exact (t.removeRef_frame _ _ _).1
  | attach => exact Or.inl rfl
  | detach => exact Or.inl rfl
  | hide oid now => exact Or.inl (Tables.logged_frame _ _ _ _).2
  | unhide oid now =>
    refine Or.inl ?_
    rw [hpinned]
    exact (Tables.logged_frame _ _ _ _).2
  | replace old new now =>
    refine Or.inl ?_
    rw [hpinned]
    exact (Tables.logged_frame _ _ _ _).2
  | pin => exact Or.inl rfl
  | ask => exact Or.inl rfl
  | sweep r now => exact Or.inl (Tables.removeRefs_frame _ now _).1

theorem ObjectStore.LinksStored.of_effect {config : Config} {hashed : String → Prop}
    {t t' : Tables} (heffect : Effect config hashed t t') (h : t.objects.LinksStored) :
    t'.objects.LinksStored := by
  rcases heffect.objects_cases with hsame | ⟨o, _, hinsert⟩ | ⟨_, _, _, _, _, _, hsave, hsaved⟩
  · rw [hsame]
    exact h
  · rw [hinsert]
    exact h.insert o
  · rw [hsaved]
    exact h.withCommit? hsave

/-! ## 3. Making a commit -/

namespace Repository

variable {config : Config} {s s' : Session}

/-- What there is to know about a commit that has been made. -/
theorem of_commit_ok (h : s.IsOpen) {message : String} {parents : List Oid} {info : CommitInfo}
    (hrun : (commit config message (some parents)).runOn s = (.ok info, s')) :
    ∃ t, s.working.withCommit? parents message s.now = some t ∧
      firstNoCommit? s.working parents = none ∧ s'.working.objects = t.objects ∧ s'.IsOpen ∧
      s'.now = s.now := by
  rw [commit_some_runOn h] at hrun
  dsimp only at hrun
  cases hfirst : firstNoCommit? s.working parents with
  | some missing =>
    rw [hfirst] at hrun
    cases hrun
  | none =>
    rw [hfirst] at hrun
    dsimp only at hrun
    cases hsave : s.working.withCommit? parents message s.now with
    | none =>
      rw [hsave] at hrun
      cases hrun
    | some t =>
      rw [hsave] at hrun
      obtain ⟨name, s₁, hpin, hrest⟩ := runOn_bind_eq_ok_iff.mp hrun
      obtain rfl := pinOpen_ok (h.onTables _) hpin
      rw [runOn_bind_of_ok (runOn_commit ((h.onTables _).onTables _))] at hrest
      cases hrest
      exact ⟨t, rfl, rfl, Tables.moved_objects _ _ _ _ _, h, rfl⟩

/-- **A merge is not made twice.** Its links are stored, so they cannot be stored again. -/
theorem commit_again (h : s.IsOpen) {message : String} {parents : List Oid} {info : CommitInfo}
    (hmerge : 1 < parents.length)
    (hrun : (commit config message (some parents)).runOn s = (.ok info, s')) :
    (commit config message (some parents)).runOn s' =
      (.error (.database .integrity), s'.failed) := by
  obtain ⟨t, hsave, hfirst, hobjects, hopen, hnow⟩ := of_commit_ok h hrun
  obtain ⟨parent, hparent⟩ := List.exists_mem_of_length_pos (Nat.zero_lt_of_lt hmerge)
  obtain ⟨link, hlink, hcommit, hmem⟩ := ObjectStore.exists_mem_linksFor
    (ObjectId.ofCommit parents message s.now.toIsoUtc) hparent
  rcases Tables.eq_of_withCommit? hsave with ⟨hsingle, _⟩ | ⟨_, rfl⟩
  · exact absurd hmerge hsingle
  have hcommits : ∀ oid ∈ parents, s'.working.objects.isCommit oid = true := by
    intro oid hoid
    rw [hobjects]
    exact ObjectStore.isCommit_insert (isCommit_of_firstNoCommit? hfirst oid hoid)
  have hlinked : link ∈ s'.working.objects.links := by
    rw [hobjects]
    exact List.mem_append_right _ hlink
  have hrefused : s'.working.withCommit? parents message s'.now = none := by
    rw [hnow, ← Option.not_isSome_iff_eq_none, Tables.withCommit?_isSome_iff
      fun oid hoid => ObjectStore.contains_of_isCommit (hcommits oid hoid)]
    intro hfits
    exact (hfits hmerge).2 link hlinked hcommit (hmem ▸ hparent)
  rw [commit_some_runOn hopen, firstNoCommit?_eq_none_iff.mpr hcommits, hrefused]

/-- What a call of `commit` answers on an open session, where `given` are its parents: those that it
is called with, or else the head. -/
structure CommitOutcome (config : Config) (s : Session) (message : String) (given : List Oid)
    (answer : Except Error CommitInfo × Session) : Prop where
  missing : (∃ parent ∈ given, s.working.objects.isCommit parent = false) →
    ∃ first ∈ given, s.working.objects.isCommit first = false ∧
      answer = (.error (.objectNotFound first), s)
  made : (∀ parent ∈ given, s.working.objects.isCommit parent = true) →
    s.working.MergeFits (ObjectId.ofCommit given message s.now.toIsoUtc) given →
    ∃ s', s'.IsOpen ∧ answer =
      (.ok ⟨ObjectId.ofCommit given message s.now.toIsoUtc, given, some message, s.now⟩, s')
  refused : (∀ parent ∈ given, s.working.objects.isCommit parent = true) →
    ¬ s.working.MergeFits (ObjectId.ofCommit given message s.now.toIsoUtc) given →
    answer = (.error (.database .integrity), s.failed)
  again : 1 < given.length → ∀ info s', answer = (.ok info, s') →
    (commit config message (some given)).runOn s' = (.error (.database .integrity), s'.failed)

theorem commit_outcome (h : s.IsOpen) (hroot : Config.AcceptedRoot config.pinRoot)
    (hnames : s.refusals.names = false) (message : String) (given : List Oid) :
    CommitOutcome config s message given ((commit config message (some given)).runOn s) where
  missing := by
    rintro ⟨parent, hparent, hcommit⟩
    rw [commit_some_runOn h]
    cases hfirst : firstNoCommit? s.working given with
    | none =>
      rw [firstNoCommit?_eq_none_iff.mp hfirst parent hparent] at hcommit
      cases hcommit
    | some first =>
      have hnot := List.find?_some hfirst
      exact ⟨first, List.mem_of_find?_eq_some hfirst, by simpa using hnot, rfl⟩
  made := by
    intro hcommits hfits
    have hstored : ∀ oid ∈ given, s.working.objects.contains oid = true := fun oid hoid =>
      ObjectStore.contains_of_isCommit (hcommits oid hoid)
    obtain ⟨t, hsave⟩ := Option.isSome_iff_exists.mp
      ((Tables.withCommit?_isSome_iff hstored message s.now).mpr hfits)
    obtain ⟨hreserved, hvalid⟩ := Reserved.pinName_accepted hroot
      (Sha256.isHex_hexOfText (ObjectId.textOf .commit
        (ObjectId.commitPayload given message s.now.toIsoUtc)))
    have hpin : CanPin config (moved config t (ObjectId.ofCommit given message s.now.toIsoUtc)
        message s.now) (ObjectId.ofCommit given message s.now.toIsoUtc) := by
      refine ⟨hreserved, hvalid, ?_⟩
      rw [Tables.moved_objects]
      exact Tables.contains_of_withCommit? hsave
    have hgiven : parentsOf s.working (some given) = given := rfl
    have hfirst : firstNoCommit? s.working given = none := firstNoCommit?_eq_none_iff.mpr hcommits
    have hmade := commit_runOn h hnames hgiven hfirst rfl hsave hpin
    refine ⟨_, ?_, hmade⟩
    exact h
  refused := by
    intro hcommits hfits
    have hstored : ∀ oid ∈ given, s.working.objects.contains oid = true := fun oid hoid =>
      ObjectStore.contains_of_isCommit (hcommits oid hoid)
    have hsave : s.working.withCommit? given message s.now = none := by
      rw [← Option.not_isSome_iff_eq_none, Tables.withCommit?_isSome_iff hstored]
      exact hfits
    rw [commit_some_runOn h, firstNoCommit?_eq_none_iff.mpr hcommits, hsave]
  again := by
    intro hmerge info s' hrun
    exact commit_again h hmerge hrun

/-! ## 4. Commits in a history -/

/-- **Commits are total, but for links that are there twice.** After any history of calls on a new
repository with an accepted root, whatever the message, the time and the parents: where the session
is open, a commit fails with the first parent that is no commit, or it is made and the session stays
open, or the list of parents of a merge cannot be stored. A merge of different commits under a new
id can be stored. Only a history that closes the session or breaks a rule leaves it not open. -/
theorem commit_total (config : Config) (hroot : Config.AcceptedRoot config.pinRoot)
    (history : List (Instant × Call)) (durable : Bool) (start now : Instant) (message : String)
    (parents : Option (List Oid)) :
    let after := run config history (Session.start .empty durable start)
    let s := at_ after.2 now
    let given := parentsOf s.working parents
    ((∀ step ∈ history, step.2 ≠ .close) →
      (∀ answer ∈ after.1, answer ≠ .error (.database .integrity)) → s.IsOpen) ∧
    (s.IsOpen → CommitOutcome config s message given ((commit config message parents).runOn s)) ∧
    (given.Nodup →
      s.working.objects.contains (ObjectId.ofCommit given message now.toIsoUtc) = false →
      s.working.MergeFits (ObjectId.ofCommit given message now.toIsoUtc) given) := by
  intro after s given
  have hmoves : MovesTo config (fun _ => True) (fun _ _ => True)
      (Session.start .empty durable start) after.2 := run_movesTo history rfl fun _ _ => trivial
  have hstep : ∀ t t', Effect config (fun _ => True) t t' →
      t.objects.LinksStored → t'.objects.LinksStored :=
    fun _ _ => ObjectStore.LinksStored.of_effect
  have hlinks : after.2.working.objects.LinksStored :=
    (hmoves.1.keeps hstep ⟨ObjectStore.linksStored_empty, ObjectStore.linksStored_empty⟩).2
  refine ⟨?_, ?_, ?_⟩
  · intro hclose hkept
    exact run_isOpen history ⟨rfl, rfl⟩ hclose hkept
  · intro hopen
    have hnames : s.refusals.names = false := by
      have hrefusals : s.refusals = {} := hmoves.2
      rw [hrefusals]
    rw [commit_parentsOf hopen]
    exact commit_outcome hopen hroot hnames message given
  · intro hnodup hnew
    exact hlinks.mergeFits hnodup hnew

theorem mergeFits_nil (t : Tables) (oid : Oid) : t.MergeFits oid [] := by
  intro hmerge
  exact absurd hmerge (by decide)

/-- The theorem at a new repository. A commit is made, and the same commit is made again. -/
theorem commit_total_again :
    let s := at_ (run {} [(default, .commit "a" (some []))] fresh).2 default
    s.IsOpen ∧ ∃ s', s'.IsOpen ∧ (commit {} "a" (some [])).runOn s =
      (.ok ⟨ObjectId.ofCommit [] "a" s.now.toIsoUtc, [], some "a", s.now⟩, s') := by
  intro s
  have hnone : ∀ t : Tables, ∀ parent ∈ ([] : List Oid), t.objects.isCommit parent = true :=
    fun _ _ hmem => absurd hmem List.not_mem_nil
  have hfirst : CommitOutcome {} fresh "a" [] ((commit {} "a" (some [])).runOn fresh) :=
    (commit_total {} Config.acceptedRoot_default [] false default default "a" (some [])).2.1
      ⟨rfl, rfl⟩
  obtain ⟨s₁, hopen, hmade⟩ := hfirst.made (hnone _) (mergeFits_nil _ _)
  have hs : s = at_ s₁ default := by
    have hperform : (perform {} (.commit "a" (some []))).runOn fresh = (.ok (.commit _), s₁) :=
      runOn_bind_of_ok hmade _
    exact congrArg (fun answer => at_ answer.2 default) hperform
  have hopen' : s.IsOpen := by
    rw [hs]
    exact hopen
  have hsecond : CommitOutcome {} s "a" [] ((commit {} "a" (some [])).runOn s) :=
    (commit_total {} Config.acceptedRoot_default [(default, .commit "a" (some []))] false default
      default "a" (some [])).2.1 hopen'
  exact ⟨hopen', hsecond.made (hnone _) (mergeFits_nil _ _)⟩

/-- The id of a first commit. -/
def firstCommitId : Oid := ObjectId.ofCommit [] "a" (default : Instant).toIsoUtc

/-- The tables of a new repository after its first commit. -/
def firstTables : Tables :=
  pinned {} (moved {} (Tables.empty.withObject (.ofCommit [] "a" default)) firstCommitId "a" default)
    firstCommitId default

theorem isCommit_firstTables : firstTables.objects.isCommit firstCommitId = true :=
  ObjectStore.isCommit_insert_new (s := .empty) (o := .ofCommit [] "a" default) rfl rfl

theorem commit_first :
    (commit {} "a" none).runOn fresh =
      (.ok ⟨firstCommitId, [], some "a", default⟩, (fresh.onTables firstTables).committing) := by
  obtain ⟨hreserved, hvalid⟩ := Reserved.pinName_accepted Config.acceptedRoot_default
    (Sha256.isHex_hexOfText (ObjectId.textOf .commit
      (ObjectId.commitPayload [] "a" (default : Instant).toIsoUtc)))
  have hopen : fresh.IsOpen := ⟨rfl, rfl⟩
  exact commit_runOn hopen rfl rfl rfl rfl rfl
    ⟨hreserved, hvalid, ObjectStore.contains_insert .empty (.ofCommit [] "a" default)⟩

/-- A commit with its parent given twice breaks the session, and where the head is cannot be told
any more. -/
theorem commit_repeatedParent :
    ∃ info s, run {} [(default, .commit "a" none)] fresh = ([.ok (.commit info)], s) ∧
      s.working.objects.isCommit info.oid = true ∧
      (perform {} (.commit "b" (some [info.oid, info.oid]))).runOn s =
        (.error (.database .integrity), s.failed) ∧
      RefStore.head.runOn s.failed =
        (.error (.storeAccess "read reference" (some RefName.head) .database), s.failed) := by
  let s := (fresh.onTables firstTables).committing
  refine ⟨⟨firstCommitId, [], some "a", default⟩, s, ?_, isCommit_firstTables, ?_, ?_⟩
  · have hcall : (perform {} (.commit "a" none)).runOn fresh =
        (.ok (.commit ⟨firstCommitId, [], some "a", default⟩), s) := runOn_bind_of_ok commit_first _
    rw [run]
    exact congrArg (fun answer => ([answer.1], answer.2)) hcall
  · have hbroken : CommitOutcome {} s "b" [firstCommitId, firstCommitId]
        ((commit {} "b" (some [firstCommitId, firstCommitId])).runOn s) :=
      commit_outcome ⟨rfl, rfl⟩ Config.acceptedRoot_default rfl "b" [firstCommitId, firstCommitId]
    refine runOn_map_eq_error_iff.mpr (hbroken.refused ?_ ?_)
    · intro parent hparent
      have hsame : parent = firstCommitId := by simpa using hparent
      rw [hsame]
      exact isCommit_firstTables
    · intro hfits
      have hnodup := (hfits (by simp)).1
      simp at hnodup
  · rw [RefStore.head, runOn_accessing]
    rfl

end Repository

end CommitStore
