import CommitStore.Proofs.BranchesOnCommits
set_option autoImplicit false

/-!
# Edits of the tables

What a call does to the tables (`Effect`) is made of edits: one row stored, one reference written or
removed, one event recorded. There are many effects and few edits, and an edit carries what was true
right before it. So a property that can be checked edit by edit is checked here, with one case for
each kind of row (`run_keeps`); only what holds across the edits of one call, such as that a commit
that is stored is logged as well, has to look at effects.

Two guards do most of the work. A reference is written at a stored object, or at the object at the
head; and `HEAD` itself is written at a stored commit, or at what has just been stored as one.
-/

namespace CommitStore

open CommitStore.Repository

/-! ## 1. Edits -/

/-- An id is the digest of the text of a commit that was hashed. -/
def IsHashedCommit (hashed : String → Prop) (oid : Oid) : Prop :=
  ∃ parents message time,
    hashed (ObjectId.textOf .commit (ObjectId.commitPayload parents message time)) ∧
      oid = ObjectId.ofCommit parents message time

/-- One edit of the tables, with what a call has checked before it. -/
inductive Edit (config : Config) (hashed : String → Prop) : Tables → Tables → Prop
  | store {t : Tables} (o : StoredObject) (ho : ObjectStore.RowHolds hashed o) :
      Edit config hashed t (t.withObject o)
  | link {t : Tables} (commit : Oid) (parents : List Oid) :
      Edit config hashed t (t.withParents commit parents)
  | write {t : Tables} (name : RefName) (oid : Oid) (message : Option String) (now : Instant)
      (hstored : t.objects.contains oid = true ∨ RefStore.headOf t.refs = some oid)
      (hhead : name = RefName.head → t.objects.isCommit oid = true ∨ IsHashedCommit hashed oid) :
      Edit config hashed t (t.writeDirect name oid message now)
  | attach {t : Tables} (branch : String) (p : Pointer)
      (hbranch : t.refs.get? (RefName.ofBranch branch) = some p) :
      Edit config hashed t (t.writeSymbolic RefName.head (RefName.ofBranch branch))
  | beginHead {t : Tables} (branch : String) (oid : Oid) (message : Option String) (now : Instant)
      (hstored : t.objects.contains oid = true) :
      Edit config hashed t ((t.writeSymbolic RefName.head (RefName.ofBranch branch)).writeDirect
        (RefName.ofBranch branch) oid message now)
  | removeBranch {t : Tables} (branch : String) (message : Option String) (now : Instant)
      (hcurrent : ((t.refs.reference? RefName.head).bind fun r =>
        r.symbolic.bind RefStore.branchOf?) ≠ some branch) :
      Edit config hashed t (t.removeRef (RefName.ofBranch branch) message now)
  | release {t : Tables} (name : RefName) (now : Instant)
      (hreserved : Reserved.isReserved config.pinRoot name = true) :
      Edit config hashed t (t.removeRef name none now)
  | openTransaction {t : Tables} (message : Option String) (now : Instant) :
      Edit config hashed t (t.addTransaction message now).2
  | record {t : Tables} (kind : String) (transaction : Int) (subject : EventSubject) (now : Instant)
      (htransaction : t.hasTransaction transaction = true) :
      Edit config hashed t (t.addEvent kind transaction subject now).2
  | remember {t : Tables} (cache : MergeBaseCache) :
      Edit config hashed t { t with mergeBases := cache }

/-- Any number of edits. -/
abbrev Edits (config : Config) (hashed : String → Prop) : Tables → Tables → Prop :=
  Relation.ReflTransGen (Edit config hashed)

/-! ## 2. What calls are made of -/

section

variable {config : Config} {hashed : String → Prop} {t t' : Tables}

theorem edits_withEvents (events : List (EventKind × EventSubject)) {transaction : Nat}
    (now : Instant) (htransaction : t.hasTransaction transaction = true) :
    Edits config hashed t (t.withEvents transaction now events) := by
  induction events generalizing t with
  | nil => exact Relation.ReflTransGen.refl
  | cons event rest ih =>
    have hone : Edit config hashed t (t.addEvent event.1.text transaction event.2 now).2 :=
      .record _ _ _ now htransaction
    exact Relation.ReflTransGen.head hone (ih htransaction)

theorem edits_logged (t : Tables) (message : String) (now : Instant)
    (events : List (EventKind × EventSubject)) :
    Edits config hashed t (t.logged message now events) := by
  have hopened := t.hasTransaction_addTransaction (some message) now
  exact Relation.ReflTransGen.head (.openTransaction (some message) now)
    (edits_withEvents events now hopened)

theorem pinName_ne_head (root : String) (oid : Oid) : Reserved.pinName root oid ≠ RefName.head := by
  -- A name of a pin has a slash in it.
  have hslash : '/' ∈ (Reserved.pinName root oid).toList := by
    rw [Reserved.pinName, String.toList_ofList, Reserved.rootPath]
    simp
  intro hhead
  rw [hhead] at hslash
  exact absurd hslash (by decide)

theorem edit_pinned (t : Tables) {oid : Oid} (hstored : t.objects.contains oid = true)
    (now : Instant) : Edit config hashed t (pinned config t oid now) :=
  .write _ oid _ now (Or.inl hstored) fun hhead => absurd hhead (pinName_ne_head _ oid)

theorem edits_pinnedIfPossible (t : Tables) (oid : Oid) (now : Instant) :
    Edits config hashed t (pinnedIfPossible config t oid now) := by
  unfold pinnedIfPossible
  split
  · next hpin => exact Relation.ReflTransGen.single (edit_pinned t hpin.2.2 now)
  · exact Relation.ReflTransGen.refl

theorem edit_moveHead (t : Tables) (defaultBranch : String) {oid : Oid}
    (hstored : t.objects.contains oid = true) (hcommit : IsHashedCommit hashed oid)
    (message : String) (now : Instant) :
    Edit config hashed t (RefStore.moveHead t defaultBranch oid message now) := by
  unfold RefStore.moveHead
  cases t.refs.get? RefName.head with
  | none => exact .beginHead defaultBranch oid _ now hstored
  | some p => exact .write _ oid _ now (Or.inl hstored) fun _ => Or.inr hcommit

theorem edits_moved (t : Tables) {oid : Oid} (hstored : t.objects.contains oid = true)
    (hcommit : IsHashedCommit hashed oid) (message : String) (now : Instant) :
    Edits config hashed t (moved config t oid message now) :=
  Relation.ReflTransGen.head (edit_moveHead t config.mainBranch hstored hcommit _ now)
    (edits_logged _ _ now _)

theorem edits_withCommit? {parents : List Oid} {message : String} {now : Instant}
    (hhashed : hashed (ObjectId.textOf .commit
      (ObjectId.commitPayload parents message now.toIsoUtc)))
    (hsave : t.withCommit? parents message now = some t') : Edits config hashed t t' := by
  have hrow : Edit config hashed t (t.withObject (.ofCommit parents message now)) :=
    .store _ (ObjectStore.rowHolds_ofCommit hhashed)
  rcases Tables.eq_of_withCommit? hsave with ⟨_, rfl⟩ | ⟨_, rfl⟩
  · exact Relation.ReflTransGen.single hrow
  · exact Relation.ReflTransGen.tail (Relation.ReflTransGen.single hrow) (.link _ parents)

theorem edits_removeRefs (names : List RefName)
    (hreserved : ∀ name ∈ names, Reserved.isReserved config.pinRoot name = true) (now : Instant)
    (t : Tables) : Edits config hashed t (t.removeRefs names now) := by
  induction names generalizing t with
  | nil => exact Relation.ReflTransGen.refl
  | cons name rest ih =>
    exact Relation.ReflTransGen.head (.release name now (hreserved name List.mem_cons_self))
      (ih (fun other hother => hreserved other (List.mem_cons_of_mem _ hother)) _)

theorem edits_swept (t : Tables) (r : Replay) (now : Instant) :
    Edits config hashed t (swept config t r now) := by
  let answer := EventLog.computeVisible t (EventLog.rootsOf t config.mainBranch r.active)
  have hasked : Edit config hashed t answer.2 := .remember _
  refine Relation.ReflTransGen.head hasked (edits_removeRefs _ ?_ now answer.2)
  intro name hname
  exact ((Sweep.mem_dangling_iff answer.2 config.pinRoot answer.1 name).mp hname).1

/-- **What a call does is made of edits.** -/
theorem EffectUnder.edits {allowed : Tables → Call → Prop}
    (h : EffectUnder config hashed allowed t t') : Edits config hashed t t' := by
  cases h with
  | blob data now hhashed =>
    exact Relation.ReflTransGen.single (.store _ (ObjectStore.rowHolds_ofBlob hhashed))
  | tag name target message now hhashed _ =>
    exact Relation.ReflTransGen.single (.store _ (ObjectStore.rowHolds_ofTag hhashed))
  | tagReference name oid message now _ hstored =>
    exact Relation.ReflTransGen.single (.write _ oid _ now (Or.inl hstored) fun hhead =>
      absurd hhead.symm (RefName.head_ne_ofTag name))
  | commit parents message now oid hoid hhashed _ hsave =>
    have hstored := Tables.contains_of_withCommit? hsave
    rw [← hoid] at hstored
    have hcommit : IsHashedCommit hashed oid := ⟨parents, message, _, hhashed, hoid⟩
    exact ((edits_withCommit? hhashed hsave).trans (edits_moved _ hstored hcommit message now)).trans
      (edits_pinnedIfPossible _ oid now)
  | branch name source oid attaches now _ _ hstart _ =>
    have hstored := (branchStart_cases hstart).imp And.right And.right
    have hwritten : Edit config hashed t (t.writeDirect (RefName.ofBranch name) oid
        (some ("branch: created from " ++ oid)) now) :=
      .write _ oid _ now hstored fun hhead => absurd hhead.symm (RefName.head_ne_ofBranch name)
    cases attaches with
    | false => exact Relation.ReflTransGen.single hwritten
    | true =>
      refine Relation.ReflTransGen.tail (Relation.ReflTransGen.single hwritten)
        (.attach name (.direct oid) ?_)
      exact (t.refs.get?_insert _ _ _).trans (if_pos rfl)
  | unbranch name oid now _ hcurrent =>
    exact Relation.ReflTransGen.head (.removeBranch name _ now hcurrent) (edits_logged _ _ now _)
  | attach branch oid htip =>
    obtain ⟨p, hget, _⟩ := Option.bind_eq_some_iff.mp htip
    exact Relation.ReflTransGen.single (.attach branch p hget)
  | detach oid message now hcommit =>
    exact Relation.ReflTransGen.single (.write _ oid message now
      (Or.inl (ObjectStore.contains_of_isCommit hcommit)) fun _ => Or.inl hcommit)
  | hide oid now _ => exact edits_logged t _ now _
  | unhide oid now _ => exact (edits_logged t _ now _).trans (edits_pinnedIfPossible _ oid now)
  | replace _ new now _ _ =>
    exact (edits_logged t _ now _).trans (edits_pinnedIfPossible _ new now)
  | pin oid now hpin _ => exact Relation.ReflTransGen.single (edit_pinned t hpin.2.2 now)
  | ask r _ => exact Relation.ReflTransGen.single (.remember _)
  | sweep r now _ => exact edits_swept t r now

/-- Every row of an object goes on holding what it held when it was stored. -/
theorem Edit.rows (hedit : Edit config hashed t t')
    (h : ∀ oid o, t.objects.get? oid = some o → ObjectStore.RowHolds hashed o) (oid : Oid)
    (o : StoredObject) (hget : t'.objects.get? oid = some o) : ObjectStore.RowHolds hashed o := by
  cases hedit with
  | store row hrow =>
    rcases ObjectStore.get?_insert_cases hget with hold | rfl
    · exact h oid o hold
    · exact hrow
  | link | write | attach | beginHead | openTransaction | record | remember => exact h oid o hget
  | removeBranch branch message now _ =>
    rw [(t.removeRef_frame _ message now).1] at hget
    exact h oid o hget
  | release name now _ =>
    rw [(t.removeRef_frame name none now).1] at hget
    exact h oid o hget

/-! ## 3. Histories -/

/-- What every edit keeps, any number of edits keep. -/
theorem Edits.keeps {holds : Tables → Prop}
    (hedit : ∀ t t', Edit config hashed t t' → holds t → holds t') (h : Edits config hashed t t')
    (ht : holds t) : holds t' := by
  induction h with
  | refl => exact ht
  | tail _ hone ih => exact hedit _ _ hone ih

end

namespace Repository

/-- **What every edit keeps holds after every history** on a new repository. -/
theorem run_keeps (config : Config) (history : List (Instant × Call)) (durable : Bool)
    (start : Instant) {holds : Tables → Prop} (hempty : holds .empty)
    (hedit : ∀ t t', Edit config (fun text =>
      text ∈ hashedTexts config history (Session.start .empty durable start)) t t' →
        holds t → holds t') {t : Tables}
    (ht : t = (run config history (Session.start .empty durable start)).2.committed ∨
      t = (run config history (Session.start .empty durable start)).2.working) : holds t :=
  run_keepsEffects config history durable start hempty
    (fun _ _ heffect => heffect.edits.keeps hedit) ht

end Repository
end CommitStore
