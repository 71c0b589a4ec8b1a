import CommitStore.Proofs.ObjectIds
import CommitStore.Proofs.StoreActions
import CommitStore.Proofs.Sweeping
import CommitStore.Repository.Call
set_option autoImplicit false

/-!
# The calls of a repository, as functions of its tables

One equation for each call that changes something: what it answers on an open session, which tables
it leaves in the open transaction, and whether it commits them. Where a call can be refused half-way
the equation says with which tables it stops.

The functions on tables named here (`withCommit?`, `logged` and so on) are what the calls are made
of; the equations show that a call is no more than these.
-/

namespace CommitStore

open CommitStore.Action

/-! ## 1. Rows that calls store -/

namespace StoredObject

/-- The row of a blob. -/
def ofBlob (data : String) (now : Instant) : StoredObject :=
  { oid := ObjectId.ofBlob data, kind := .blob,
    payload := some ((ObjectId.blobPayload data).print Json.stored), createdAt := now }

/-- The row of an annotated tag. -/
def ofTag (name : String) (target : Oid) (message : Option String) (now : Instant) : StoredObject :=
  { oid := ObjectId.ofTag name target message, kind := .tag, target := some target,
    payload := some ((ObjectId.tagPayload name target message).print Json.stored), message,
    createdAt := now }

/-- The row of a commit. -/
def ofCommit (parents : List Oid) (message : String) (now : Instant) : StoredObject :=
  { oid := ObjectId.ofCommit parents message now.toIsoUtc, kind := .commit,
    parent := parents.head?, message := some message, createdAt := now }

end StoredObject

namespace Tables

/-- The tables with a commit and, if it is a merge, the list of its parents; `none` if the list
cannot be added. -/
def withCommit? (t : Tables) (parents : List Oid) (message : String) (now : Instant) :
    Option Tables :=
  let o := StoredObject.ofCommit parents message now
  let t' := t.withObject o
  if 1 < parents.length then
    if t'.objects.admitsLinks o.oid parents then
      some (t'.withParents o.oid parents)
    else none
  else some t'

theorem eq_of_withCommit? {t t' : Tables} {parents : List Oid} {message : String} {now : Instant}
    (h : t.withCommit? parents message now = some t') :
    ¬ 1 < parents.length ∧ t' = t.withObject (.ofCommit parents message now) ∨
      1 < parents.length ∧ t' = (t.withObject (.ofCommit parents message now)).withParents
        (ObjectId.ofCommit parents message now.toIsoUtc) parents := by
  rw [withCommit?] at h
  split at h
  · next hmerge =>
    split at h
    · cases h
      exact Or.inr ⟨hmerge, rfl⟩
    · cases h
  · next hsingle =>
    cases h
    exact Or.inl ⟨hsingle, rfl⟩

theorem contains_of_withCommit? {t t' : Tables} {parents : List Oid} {message : String}
    {now : Instant} (h : t.withCommit? parents message now = some t') :
    t'.objects.contains (ObjectId.ofCommit parents message now.toIsoUtc) = true := by
  have hsaved := ObjectStore.contains_insert t.objects (.ofCommit parents message now)
  rcases eq_of_withCommit? h with ⟨_, rfl⟩ | ⟨_, rfl⟩ <;> exact hsaved

/-- The tables with events recorded in a transaction. -/
def withEvents (t : Tables) (transaction : Nat) (now : Instant)
    (events : List (EventKind × EventSubject)) : Tables :=
  events.foldl (fun t event => (t.addEvent event.1.text transaction event.2 now).2) t

/-- The tables with events recorded in a transaction of their own. -/
def logged (t : Tables) (message : String) (now : Instant)
    (events : List (EventKind × EventSubject)) : Tables :=
  let (id, t') := t.addTransaction (some message) now
  t'.withEvents id now events

theorem hasTransaction_addTransaction (t : Tables) (message : Option String) (now : Instant) :
    (t.addTransaction message now).2.hasTransaction (t.addTransaction message now).1 = true := by
  simp [hasTransaction, addTransaction]

end Tables

namespace Repository

variable {s : Session}

/-! ## 2. Checks -/

theorem requireCommit_runOn (h : s.IsOpen) (oid : Oid) :
    (requireCommit oid).runOn s =
      if s.working.objects.isCommit oid then (.ok (), s)
      else (.error (.objectNotFound oid), s) := by
  have hcommit : (s.working.objects.commit? oid).isNone = !s.working.objects.isCommit oid := by
    unfold ObjectStore.commit? ObjectStore.isCommit
    cases s.working.objects.get? oid with
    | none => rfl
    | some o => cases hkind : o.kind <;> simp [hkind]
  unfold requireCommit getCommit
  rw [runOn_bind, runOn_read h]
  dsimp only
  rw [hcommit]
  cases s.working.objects.isCommit oid <;> rfl

/-- The first of some ids that is not the id of a stored commit. -/
def firstNoCommit? (t : Tables) (oids : List Oid) : Option Oid :=
  oids.find? fun oid => !t.objects.isCommit oid

theorem requireCommits_runOn (h : s.IsOpen) (oids : List Oid) :
    (requireCommits oids).runOn s =
      match firstNoCommit? s.working oids with
      | none => (.ok (), s)
      | some oid => (.error (.objectNotFound oid), s) := by
  induction oids with
  | nil => rfl
  | cons oid rest ih =>
    rw [requireCommits, runOn_bind, runOn_read h, firstNoCommit?, List.find?_cons]
    dsimp only
    cases hcommit : s.working.objects.isCommit oid with
    | false => rfl
    | true => simpa [firstNoCommit?] using ih

theorem firstNoCommit?_eq_none_iff {t : Tables} {oids : List Oid} :
    firstNoCommit? t oids = none ↔ ∀ oid ∈ oids, t.objects.isCommit oid = true := by
  simp [firstNoCommit?, List.find?_eq_none]

theorem isCommit_of_firstNoCommit? {t : Tables} {oids : List Oid}
    (h : firstNoCommit? t oids = none) : ∀ oid ∈ oids, t.objects.isCommit oid = true :=
  firstNoCommit?_eq_none_iff.mp h

/-! ## 3. Objects -/

theorem createBlob_runOn (h : s.IsOpen) (data : String) :
    (createBlob data).runOn s =
      (.ok (ObjectId.ofBlob data),
        (s.onTables (s.working.withObject (.ofBlob data s.now))).committing) := by
  have hadmits : s.working.objects.admits (.ofBlob data s.now) = true := rfl
  have hsave := ObjectRows.save_runOn h (.ofBlob data s.now)
  rw [hadmits, Bool.or_true, if_pos rfl] at hsave
  rw [createBlob, runOn_bind_of_ok (runOn_now s)]
  dsimp only
  rw [← StoredObject.ofBlob, runOn_bind_of_ok hsave, runOn_bind_of_ok (runOn_commit (h.onTables _))]
  rfl

/-- An annotated tag of a stored object is stored even if its reference is refused. -/
theorem createTag_runOn (h : s.IsOpen) (name : String) (target : Oid) (message : Option String) :
    (createTag name target message).runOn s =
      if s.working.objects.contains target then
        let t := s.working.withObject (.ofTag name target message s.now)
        let oid := ObjectId.ofTag name target message
        match RefName.fault? (RefName.ofTag name) with
        | some fault =>
          (.error (.invalidReferenceName (RefName.ofTag name) (.name fault)), s.onTables t)
        | none =>
          (.ok oid, (s.onTables (t.writeDirect (RefName.ofTag name) oid (some ("tag: " ++ name))
            s.now)).committing)
      else (.error (.objectNotFound target), s) := by
  rw [createTag, runOn_bind_of_ok (ObjectRows.contains_runOn h target)]
  by_cases hstored : s.working.objects.contains target = true
  · rw [if_pos hstored, if_pos hstored]
    have hsave := ObjectRows.save_runOn h (.ofTag name target message s.now)
    rw [if_pos (by simp [ObjectStore.admits, StoredObject.ofTag, hstored])] at hsave
    have hput := RefStore.put_runOn (h.onTables
      (s.working.withObject (.ofTag name target message s.now))) (RefName.ofTag name)
      (ObjectId.ofTag name target message) ("tag: " ++ name)
    rw [runOn_bind_of_ok (runOn_now s)]
    dsimp only
    rw [← StoredObject.ofTag, runOn_bind_of_ok hsave]
    cases hfault : RefName.fault? (RefName.ofTag name) with
    | some fault =>
      rw [hfault] at hput
      rw [runOn_bind_of_error hput]
    | none =>
      have hsaved : (s.working.withObject (.ofTag name target message s.now)).objects.contains
          (ObjectId.ofTag name target message) = true :=
        ObjectStore.contains_insert _ (.ofTag name target message s.now)
      rw [hfault, Session.onTables_working, if_pos hsaved] at hput
      rw [runOn_bind_of_ok hput, Session.onTables_onTables,
        runOn_bind_of_ok (runOn_commit (h.onTables _))]
      rfl
  · rw [if_neg hstored, if_neg hstored]
    rfl

/-! ## 4. Pins and events -/

/-- What it takes to pin an object: the name is reserved and valid, and the object stored. -/
def CanPin (config : Config) (t : Tables) (oid : Oid) : Prop :=
  Reserved.isReserved config.pinRoot (Reserved.pinName config.pinRoot oid) = true ∧
    RefName.isValid (Reserved.pinName config.pinRoot oid) = true ∧ t.objects.contains oid = true

instance (config : Config) (t : Tables) (oid : Oid) : Decidable (CanPin config t oid) :=
  inferInstanceAs (Decidable (_ ∧ _ ∧ _))

/-- The tables with a pin. -/
def pinned (config : Config) (t : Tables) (oid : Oid) (now : Instant) : Tables :=
  t.writeDirect (Reserved.pinName config.pinRoot oid) oid (some config.pinMessage) now

theorem pinOpen_runOn {config : Config} {oid : Oid} (h : s.IsOpen)
    (hnames : s.refusals.names = false) (hpin : CanPin config s.working oid) :
    (pinOpen config oid).runOn s =
      (.ok (Reserved.pinName config.pinRoot oid),
        s.onTables (pinned config s.working oid s.now)) := by
  obtain ⟨hreserved, hvalid, hstored⟩ := hpin
  rw [pinOpen, Pin.mark_runOn h, if_pos hreserved, if_pos (by rw [hnames, hvalid]; rfl),
    if_pos hstored]
  rfl

/-- A pin that is refused changes nothing. -/
theorem pinOpen_refused {config : Config} {oid : Oid} (h : s.IsOpen)
    (hpin : ¬ CanPin config s.working oid) : ∃ e, (pinOpen config oid).runOn s = (.error e, s) := by
  rw [pinOpen, Pin.mark_runOn h]
  by_cases hreserved :
    Reserved.isReserved config.pinRoot (Reserved.pinName config.pinRoot oid) = true
  · rw [if_pos hreserved]
    split
    · next haccepted =>
      have hvalid := (Bool.and_eq_true_iff.mp haccepted).2
      rw [if_neg fun hstored => hpin ⟨hreserved, hvalid, hstored⟩]
      exact ⟨_, rfl⟩
    · exact ⟨_, rfl⟩
  · rw [if_neg hreserved]
    exact ⟨_, rfl⟩

/-- The tables with a pin, if the object can be pinned. -/
def pinnedIfPossible (config : Config) (t : Tables) (oid : Oid) (now : Instant) : Tables :=
  if CanPin config t oid then pinned config t oid now else t

theorem log_runOn {α : Type} (h : s.IsOpen) (message : String) (kind : EventKind)
    (subject : EventSubject) (next : Action α) :
    (do
      let transaction ← EventLog.newTransaction (some message)
      let _ ← EventLog.add kind transaction subject
      next).runOn s =
      next.runOn (s.onTables (s.working.logged message s.now [(kind, subject)])) := by
  have hopened := h.onTables (s.working.addTransaction (some message) s.now).2
  have hadd := EventLog.add_runOn hopened kind
    (s.working.addTransaction (some message) s.now).1 subject
    (s.working.hasTransaction_addTransaction (some message) s.now)
  rw [runOn_bind_of_ok (EventLog.newTransaction_runOn h (some message)), runOn_bind_of_ok hadd]
  rfl

theorem pin_runOn {config : Config} {oid : Oid} (h : s.IsOpen) (hnames : s.refusals.names = false)
    (hpin : CanPin config s.working oid) :
    (pin config oid).runOn s =
      (.ok (Reserved.pinName config.pinRoot oid),
        (s.onTables (pinned config s.working oid s.now)).committing) := by
  rw [pin, runOn_bind_of_ok (pinOpen_runOn h hnames hpin),
    runOn_bind_of_ok (runOn_commit (h.onTables _))]
  rfl

theorem pin_refused {config : Config} {oid : Oid} (h : s.IsOpen)
    (hpin : ¬ CanPin config s.working oid) : ∃ e, (pin config oid).runOn s = (.error e, s) := by
  obtain ⟨e, hrun⟩ := pinOpen_refused h hpin
  exact ⟨e, by rw [pin, runOn_bind_of_error hrun]⟩

/-! ## 5. Commits -/

theorem saveCommit_runOn (h : s.IsOpen) (parents : List Oid) (message : String)
    (hparents : ∀ oid ∈ parents, s.working.objects.isCommit oid = true) :
    (saveCommit (ObjectId.ofCommit parents message s.now.toIsoUtc) parents (some message)).runOn s =
      match s.working.withCommit? parents message s.now with
      | some t => (.ok (), s.onTables t)
      | none => (.error (.database .integrity), s.failed) := by
  have hadmits : s.working.objects.admits (.ofCommit parents message s.now) = true := by
    cases parents with
    | nil => rfl
    | cons first rest =>
      have hfirst := ObjectStore.contains_of_isCommit (hparents first List.mem_cons_self)
      simp [ObjectStore.admits, StoredObject.ofCommit, hfirst]
  have hsave := ObjectRows.save_runOn h (.ofCommit parents message s.now)
  rw [hadmits, Bool.or_true, if_pos rfl] at hsave
  rw [saveCommit, runOn_bind_of_ok (runOn_now s), ← StoredObject.ofCommit, runOn_bind_of_ok hsave,
    Tables.withCommit?]
  by_cases hmerge : 1 < parents.length
  · have hne : parents ≠ [] := by
      rintro rfl
      cases hmerge
    rw [if_pos hmerge, if_pos hmerge, ObjectRows.addParents_runOn (h.onTables _) _ _ hne]
    show (if (s.working.withObject (.ofCommit parents message s.now)).objects.admitsLinks
      (StoredObject.ofCommit parents message s.now).oid parents then _ else _) = _
    cases (s.working.withObject (.ofCommit parents message s.now)).objects.admitsLinks
      (StoredObject.ofCommit parents message s.now).oid parents <;> rfl
  · rw [if_neg hmerge, if_neg hmerge]
    rfl

/-- The parents of a commit that is made: those that are given, or else the head. -/
def parentsOf (t : Tables) (parents : Option (List Oid)) : List Oid :=
  parents.getD (RefStore.headOf t.refs).toList

/-- The tables in which the head has moved to a commit, with the events that tell of it. -/
def moved (config : Config) (t : Tables) (oid : Oid) (message : String) (now : Instant) : Tables :=
  (RefStore.moveHead t config.mainBranch oid ("commit: " ++ message) now).logged "commit" now
    [(.commit, { commit := some oid }),
      (.refUpdate, { ref := some RefName.head, old := RefStore.headOf t.refs, new := some oid })]

/-- A commit on the head is a commit with the head as its parent. -/
theorem commit_parentsOf {config : Config} (h : s.IsOpen) (message : String)
    (parents : Option (List Oid)) :
    (commit config message parents).runOn s =
      (commit config message (some (parentsOf s.working parents))).runOn s := by
  cases parents with
  | none =>
    unfold commit
    dsimp only
    rw [runOn_bind_of_ok (RefStore.head_runOn h)]
    rfl
  | some given => rfl

theorem moved_runOn {α : Type} {config : Config} (h : s.IsOpen) (oid : Oid) (message : String)
    (next : Action α) :
    (do
      let oldHead ← RefStore.head
      RefStore.updateHead config.mainBranch oid ("commit: " ++ message)
      let transaction ← EventLog.newTransaction (some "commit")
      let _ ← EventLog.add .commit transaction { commit := some oid }
      let _ ← EventLog.add .refUpdate transaction
        { ref := some RefName.head, old := oldHead, new := some oid }
      next).runOn s = next.runOn (s.onTables (moved config s.working oid message s.now)) := by
  let t := RefStore.moveHead s.working config.mainBranch oid ("commit: " ++ message) s.now
  -- The two events share a transaction, so each of them is recorded in one that exists.
  have hopened := t.hasTransaction_addTransaction (some "commit") s.now
  have hcommit := EventLog.add_runOn (h.onTables (t.addTransaction (some "commit") s.now).2) .commit
    (t.addTransaction (some "commit") s.now).1 { commit := some oid } hopened
  have hmove := EventLog.add_runOn (h.onTables ((t.addTransaction (some "commit") s.now).2.addEvent
    "commit" (t.addTransaction (some "commit") s.now).1 { commit := some oid } s.now).2) .refUpdate
    (t.addTransaction (some "commit") s.now).1
    { ref := some RefName.head, old := RefStore.headOf s.working.refs, new := some oid } hopened
  rw [runOn_bind_of_ok (RefStore.head_runOn h),
    runOn_bind_of_ok (RefStore.updateHead_runOn h _ _ _),
    runOn_bind_of_ok (EventLog.newTransaction_runOn (h.onTables _) _)]
  simp only [Session.onTables_working, Session.onTables_now, Session.onTables_onTables]
  rw [runOn_bind_of_ok hcommit, Session.onTables_onTables]
  exact runOn_bind_of_ok hmove _

/-- A commit is refused if a parent is no commit, or if the list of its parents cannot be stored.
Otherwise the head has moved by the time the commit is pinned. -/
theorem commit_some_runOn {config : Config} (h : s.IsOpen) (message : String)
    (parents : List Oid) :
    (commit config message (some parents)).runOn s =
      let oid := ObjectId.ofCommit parents message s.now.toIsoUtc
      match firstNoCommit? s.working parents with
      | some missing => (.error (.objectNotFound missing), s)
      | none =>
        match s.working.withCommit? parents message s.now with
        | none => (.error (.database .integrity), s.failed)
        | some t =>
          (do
            let _ ← pinOpen config oid
            Action.commit
            pure (⟨oid, parents, some message, s.now⟩ : CommitInfo)).runOn
            (s.onTables (moved config t oid message s.now)) := by
  have hcheck := requireCommits_runOn h parents
  rw [commit]
  dsimp only
  rw [runOn_bind_of_ok (runOn_pure parents s)]
  cases hfirst : firstNoCommit? s.working parents with
  | some missing =>
    rw [hfirst] at hcheck
    rw [runOn_bind_of_error hcheck]
  | none =>
    rw [hfirst] at hcheck
    have hsave := saveCommit_runOn h parents message (isCommit_of_firstNoCommit? hfirst)
    rw [runOn_bind_of_ok hcheck, runOn_bind_of_ok (runOn_now s)]
    cases hcommit : s.working.withCommit? parents message s.now with
    | none =>
      rw [hcommit] at hsave
      rw [runOn_bind_of_error hsave]
    | some t =>
      rw [hcommit] at hsave
      dsimp only
      rw [runOn_bind_of_ok hsave]
      exact moved_runOn (h.onTables t) _ _ _

/-- A commit whose parents are stored, whose row can be saved and which can be pinned is made. -/
theorem commit_runOn {config : Config} (h : s.IsOpen) (hnames : s.refusals.names = false)
    {message : String} {parents : Option (List Oid)} {given : List Oid} {oid : Oid} {t : Tables}
    (hgiven : parentsOf s.working parents = given)
    (hcommits : firstNoCommit? s.working given = none)
    (hoid : ObjectId.ofCommit given message s.now.toIsoUtc = oid)
    (hsave : s.working.withCommit? given message s.now = some t)
    (hpin : CanPin config (moved config t oid message s.now) oid) :
    (commit config message parents).runOn s = (.ok ⟨oid, given, some message, s.now⟩,
      (s.onTables (pinned config (moved config t oid message s.now) oid s.now)).committing) := by
  have hopen := h.onTables (moved config t oid message s.now)
  rw [commit_parentsOf h, hgiven, commit_some_runOn h]
  dsimp only
  rw [hcommits, hsave, hoid]
  dsimp only
  rw [runOn_bind_of_ok (pinOpen_runOn hopen hnames hpin),
    runOn_bind_of_ok (runOn_commit (hopen.onTables _))]
  rfl

/-! ## 6. Branches -/

/-- Where a branch with the given source starts. -/
def branchStart (t : Tables) : Option Oid → Except Error Oid
  | none =>
    match RefStore.headOf t.refs with
    | none => .error .noCommits
    | some oid => .ok oid
  | some oid => if t.objects.contains oid then .ok oid else .error (.objectNotFound oid)

/-- A branch starts at a given object that is stored, or where the head is. -/
theorem branchStart_cases {t : Tables} {source : Option Oid} {oid : Oid}
    (h : branchStart t source = .ok oid) :
    source = some oid ∧ t.objects.contains oid = true ∨
      source = none ∧ RefStore.headOf t.refs = some oid := by
  cases source with
  | none =>
    rw [branchStart] at h
    cases hhead : RefStore.headOf t.refs with
    | none =>
      rw [hhead] at h
      cases h
    | some tip =>
      rw [hhead] at h
      cases h
      exact Or.inr ⟨rfl, rfl⟩
  | some given =>
    rw [branchStart] at h
    split at h
    · next hstored =>
      cases h
      exact Or.inl ⟨rfl, hstored⟩
    · cases h

theorem branchStart_runOn (h : s.IsOpen) (source : Option Oid) :
    (Branch.create.start source).runOn s = (branchStart s.working source, s) := by
  cases source with
  | none =>
    rw [Branch.create.start, runOn_bind_of_ok (RefStore.head_runOn h), branchStart]
    cases RefStore.headOf s.working.refs <;> rfl
  | some oid =>
    rw [Branch.create.start, runOn_bind_of_ok (ObjectRows.contains_runOn h oid), branchStart]
    cases s.working.objects.contains oid <;> rfl

/-- The tables with a branch, to which the head may be attached. -/
def branched (t : Tables) (name : String) (oid : Oid) (attaches : Bool) (now : Instant) : Tables :=
  let t := t.writeDirect (RefName.ofBranch name) oid (some ("branch: created from " ++ oid)) now
  if attaches then t.writeSymbolic RefName.head (RefName.ofBranch name) else t

/-- Making a branch within the open transaction. -/
theorem create_runOn (h : s.IsOpen) (name : String) (source : Option Oid) (attaches : Bool) :
    (Branch.create name source attaches).runOn s =
      match RefName.branchFault? name with
      | some fault => (.error (.invalidBranchName name (.branch fault)), s)
      | none =>
        if (EventLog.branchTip? s.working.refs name).isSome then (.error (.branchExists name), s)
        else
          match branchStart s.working source with
          | .error e => (.error e, s)
          | .ok oid => (.ok oid, s.onTables (branched s.working name oid attaches s.now)) := by
  rw [Branch.create]
  cases RefName.branchFault? name with
  | some fault => rfl
  | none =>
    dsimp only
    rw [runOn_bind_of_ok (RefStore.branch?_runOn h name)]
    by_cases htaken : (EventLog.branchTip? s.working.refs name).isSome = true
    · rw [if_pos htaken, if_pos htaken]
      rfl
    · rw [if_neg htaken, if_neg htaken]
      have hstart := branchStart_runOn h source
      cases hoid : branchStart s.working source with
      | error e =>
        rw [hoid] at hstart
        rw [runOn_bind_of_error hstart]
      | ok oid =>
        rw [hoid] at hstart
        rw [runOn_bind_of_ok hstart, runOn_bind_of_ok (RefStore.setBranch_runOn h _ _ _)]
        cases attaches with
        | false => rfl
        | true =>
          dsimp only
          rw [if_pos rfl, runOn_bind_of_ok (RefStore.attachHead_runOn (h.onTables _) name)]
          rfl

theorem createBranch_runOn (h : s.IsOpen) (name : String) (source : Option Oid) (attaches : Bool) :
    (createBranch name source attaches).runOn s =
      match RefName.branchFault? name with
      | some fault => (.error (.invalidBranchName name (.branch fault)), s)
      | none =>
        if (EventLog.branchTip? s.working.refs name).isSome then (.error (.branchExists name), s)
        else
          match branchStart s.working source with
          | .error e => (.error e, s)
          | .ok oid =>
            (.ok oid, (s.onTables (branched s.working name oid attaches s.now)).committing) := by
  rw [createBranch, runOn_bind, create_runOn h]
  cases RefName.branchFault? name with
  | some fault => rfl
  | none =>
    dsimp only
    by_cases htaken : (EventLog.branchTip? s.working.refs name).isSome = true
    · rw [if_pos htaken, if_pos htaken]
    · rw [if_neg htaken, if_neg htaken]
      cases branchStart s.working source with
      | error e => rfl
      | ok oid => exact runOn_bind_of_ok (runOn_commit (h.onTables _)) _

/-- The tables without a branch, with the event that tells of it. -/
def unbranched (t : Tables) (name : String) (oid : Oid) (now : Instant) : Tables :=
  (t.removeRef (RefName.ofBranch name) (some ("branch: deleted " ++ name)) now).logged
    "branch delete" now [(.refUpdate, { ref := some (RefName.ofBranch name), old := some oid })]

theorem deleteBranch_runOn (h : s.IsOpen) (name : String) :
    (deleteBranch name).runOn s =
      match EventLog.branchTip? s.working.refs name with
      | none => (.error (.branchNotFound name), s)
      | some oid =>
        if ((s.working.refs.reference? RefName.head).bind fun r =>
            r.symbolic.bind RefStore.branchOf?) = some name then
          (.error (.currentBranch name), s)
        else (.ok oid, (s.onTables (unbranched s.working name oid s.now)).committing) := by
  rw [deleteBranch, runOn_bind, Branch.delete, runOn_bind_of_ok (RefStore.branch?_runOn h name)]
  cases EventLog.branchTip? s.working.refs name with
  | none => rfl
  | some oid =>
    dsimp only
    rw [runOn_bind_of_ok (RefStore.currentBranch_runOn h)]
    by_cases hcurrent : ((s.working.refs.reference? RefName.head).bind fun r =>
        r.symbolic.bind RefStore.branchOf?) = some name
    · rw [if_pos hcurrent, if_pos hcurrent]
      rfl
    · rw [if_neg hcurrent, if_neg hcurrent, runOn_bind_of_ok (RefStore.remove_runOn h _ _)]
      rw [runOn_pure]
      dsimp only
      rw [log_runOn (h.onTables _)]
      exact runOn_bind_of_ok (runOn_commit (h.onTables _)) _

theorem looks_resolveObject (name : String) : Looks (resolveObject name) := by
  refine (RefStore.looks_branch? name).bind fun tip => ?_
  cases tip with
  | some oid => exact looks_pure _
  | none =>
    refine (RefStore.looks_get? name).bind fun found => ?_
    cases found with
    | some r => exact RefStore.looks_resolve r
    | none =>
      dsimp only
      split
      · refine (looks_throw _).bind fun _ => (ObjectRows.looks_lookup name).bind fun found => ?_
        cases found
        · exact looks_throw _
        · exact looks_pure _
      · refine (ObjectRows.looks_lookup name).bind fun found => ?_
        cases found
        · exact looks_throw _
        · exact looks_pure _

theorem looks_resolveCommit (name : String) : Looks (resolveCommit name) := by
  refine (looks_resolveObject name).bind fun oid => (RefStore.looks_peel oid).bind fun commit => ?_
  cases commit
  · exact looks_throw _
  · exact looks_pure _

/-- What a name is resolved to is a stored commit. -/
theorem isCommit_of_resolveCommit (h : s.IsOpen) {name : String} {c : Oid} {s' : Session}
    (hrun : (resolveCommit name).runOn s = (.ok c, s')) : s.working.objects.isCommit c = true := by
  obtain ⟨oid, s₁, hresolve, hrest⟩ := runOn_bind_eq_ok_iff.mp hrun
  obtain rfl := (looks_resolveObject name).eq_of_runOn hresolve
  obtain ⟨commit, s₂, hpeel, hanswer⟩ := runOn_bind_eq_ok_iff.mp hrest
  rw [RefStore.peel_runOn h] at hpeel
  cases hpeels : s₁.working.objects.peel oid with
  | commit found =>
    rw [hpeels] at hpeel
    cases hpeel
    cases hanswer
    exact ((ObjectStore.peel_eq_commit_iff _ oid c).mp hpeels).isCommit
  | noCommit | endless =>
    rw [hpeels] at hpeel
    cases hpeel
    cases hanswer
  | missing _ =>
    rw [hpeels] at hpeel
    cases hpeel

theorem checkoutCommit_runOn_eq_ok_iff {target : String} {c : Oid} {s' : Session} :
    (checkoutCommit target).runOn s = (.ok c, s') ↔
      (resolveCommit target).runOn s = (.ok c, s') := by
  rw [checkoutCommit, runOn_tryCatch]
  rcases (resolveCommit target).runOn s with ⟨e | oid, s₁⟩
  · cases e <;> simp
  · exact Iff.rfl

theorem looks_checkoutCommit (target : String) : Looks (checkoutCommit target) := by
  intro s
  have hlooks := looks_resolveCommit target s
  rw [checkoutCommit, runOn_tryCatch]
  rcases hrun : (resolveCommit target).runOn s with ⟨e | oid, s₁⟩
  · rw [hrun] at hlooks
    cases e <;> exact hlooks
  · rw [hrun] at hlooks
    exact hlooks

/-- A checkout looks for a branch first. -/
theorem checkout_runOn (h : s.IsOpen) (target : String) :
    (checkout target).runOn s =
      match EventLog.branchTip? s.working.refs target with
      | some oid => (.ok oid, (s.onTables
          (s.working.writeSymbolic RefName.head (RefName.ofBranch target))).committing)
      | none =>
        match (checkoutCommit target).runOn s with
        | (.ok oid, _) => (.ok oid, (s.onTables (s.working.writeDirect RefName.head oid
            (some ("checkout: moving to " ++ oid)) s.now)).committing)
        | (.error e, _) => (.error e, s) := by
  rw [checkout, runOn_bind_of_ok (RefStore.branch?_runOn h target)]
  cases EventLog.branchTip? s.working.refs target with
  | some oid =>
    dsimp only
    rw [runOn_bind_of_ok (RefStore.attachHead_runOn h target)]
    exact runOn_bind_of_ok (runOn_commit (h.onTables _)) _
  | none =>
    dsimp only
    rcases hresolve : (checkoutCommit target).runOn s with ⟨e | oid, s₁⟩
    · obtain rfl := (looks_checkoutCommit target).eq_of_runOn hresolve
      rw [runOn_bind_of_error hresolve]
    · obtain rfl := (looks_checkoutCommit target).eq_of_runOn hresolve
      rw [runOn_bind_of_ok hresolve, runOn_bind_of_ok (RefStore.detachHead_runOn h oid)]
      exact runOn_bind_of_ok (runOn_commit (h.onTables _)) _

/-- A checkout attaches the head to the branch of that name, or else puts it at a commit. -/
theorem checkout_cases (h : s.IsOpen) (target : String) :
    (∃ oid, EventLog.branchTip? s.working.refs target = some oid ∧
      (checkout target).runOn s = (.ok oid, (s.onTables
        (s.working.writeSymbolic RefName.head (RefName.ofBranch target))).committing)) ∨
    (∃ oid, EventLog.branchTip? s.working.refs target = none ∧
      s.working.objects.isCommit oid = true ∧
      (checkout target).runOn s = (.ok oid, (s.onTables (s.working.writeDirect RefName.head oid
        (some ("checkout: moving to " ++ oid)) s.now)).committing)) ∨
    ∃ e, (checkout target).runOn s = (.error e, s) := by
  rw [checkout_runOn h]
  cases EventLog.branchTip? s.working.refs target with
  | some oid => exact Or.inl ⟨oid, rfl, rfl⟩
  | none =>
    refine Or.inr ?_
    dsimp only
    rcases hresolve : (checkoutCommit target).runOn s with ⟨e | oid, s₁⟩
    · exact Or.inr ⟨e, rfl⟩
    · obtain rfl := (looks_checkoutCommit target).eq_of_runOn hresolve
      have hcommit := isCommit_of_resolveCommit h (checkoutCommit_runOn_eq_ok_iff.mp hresolve)
      exact Or.inl ⟨oid, rfl, hcommit, rfl⟩

/-! ## 7. Sweeps -/

theorem visible_runOn (config : Config) (h : s.IsOpen) {r : Replay}
    (hreplay : EventLog.replayRows s.working.events = .ok r) :
    let roots := EventLog.rootsOf s.working config.mainBranch r.active
    (visible config).runOn s =
      (.ok (EventLog.computeVisible s.working roots).1,
        s.onTables (EventLog.computeVisible s.working roots).2) := by
  rw [visible, EventLog.visible_runOn h, hreplay]

theorem visible_refused (config : Config) (h : s.IsOpen) {e : Error}
    (hreplay : EventLog.replayRows s.working.events = .error e) :
    (visible config).runOn s = (.error e, s) := by
  rw [visible, EventLog.visible_runOn h, hreplay]

/-- The line that a sweep writes first. -/
def announcement (config : Config) (announces : Bool) : Option String :=
  if announces then some config.sweepMessage else none

/-- A sweep that completes is committed. -/
theorem sweep_eq_ok_iff {config : Config} {announces : Bool} {outcome : Sweep.Outcome}
    {s' : Session} :
    (sweep config announces).runOn s = (.ok outcome, s') ↔
      ∃ s₁, (Sweep.run config.pinRoot (announcement config announces) (visible config)).runOn s =
        (.ok outcome, s₁) ∧ s' = s₁.committing := by
  have hrun : ∀ outcome s₁, (tryCatch
      (Sweep.run config.pinRoot (announcement config announces) (visible config)) fun e => do
        Action.rollback
        throw e).runOn s = (.ok outcome, s₁) ↔
      (Sweep.run config.pinRoot (announcement config announces) (visible config)).runOn s =
        (.ok outcome, s₁) := by
    intro outcome s₁
    rw [runOn_tryCatch]
    rcases (Sweep.run config.pinRoot (announcement config announces) (visible config)).runOn s with
      ⟨e | found, s₂⟩
    · constructor <;> rintro ⟨⟩
    · exact Iff.rfl
  show (tryCatch (Sweep.run config.pinRoot (announcement config announces) (visible config)) _ >>=
    fun outcome => Action.commit >>= fun _ => pure outcome).runOn s = _ ↔ _
  rw [runOn_bind_eq_ok_iff]
  constructor
  · rintro ⟨found, s₁, hswept, hrest⟩
    have hswept' := (hrun found s₁).mp hswept
    obtain ⟨_, s₂, _, hopen, _, _, _, rfl⟩ := Sweep.run_eq_ok_iff.mp hswept'
    rw [runOn_bind_of_ok (runOn_commit (hopen.onTables _))] at hrest
    cases hrest
    exact ⟨_, hswept', rfl⟩
  · rintro ⟨s₁, hswept, rfl⟩
    refine ⟨outcome, s₁, (hrun outcome s₁).mpr hswept, ?_⟩
    obtain ⟨_, s₂, _, hopen, _, _, _, rfl⟩ := Sweep.run_eq_ok_iff.mp hswept
    exact runOn_bind_of_ok (runOn_commit (hopen.onTables _)) _

/-- A sweep that fails is undone. -/
theorem sweep_of_run_error {config : Config} {announces : Bool} {e : Error} {s₁ : Session}
    (hrun : (Sweep.run config.pinRoot (announcement config announces) (visible config)).runOn s =
      (.error e, s₁)) :
    (sweep config announces).runOn s = (.error e, s₁.rolledBack) := by
  show (tryCatch (Sweep.run config.pinRoot (announcement config announces) (visible config)) _ >>=
    _).runOn s = _
  refine runOn_bind_of_error ?_ _
  rw [runOn_tryCatch, hrun]
  rfl

/-- The tables after a sweep for the events that a log adds up to. -/
def swept (config : Config) (t : Tables) (r : Replay) (now : Instant) : Tables :=
  let answer := EventLog.computeVisible t (EventLog.rootsOf t config.mainBranch r.active)
  answer.2.removeRefs
    (Sweep.classify answer.2 config.pinRoot answer.1 answer.2.refs.references).dangling now

/-- On an open session that refuses nothing a sweep completes if the log can be replayed. -/
theorem sweep_runOn {config : Config} (h : s.IsOpen) (hrefusals : s.refusals = {}) {r : Replay}
    (hreplay : EventLog.replayRows s.working.events = .ok r) (announces : Bool) :
    ∃ outcome, (sweep config announces).runOn s =
      (.ok outcome, ((s.announced (announcement config announces)).onTables
        (swept config s.working r s.now)).committing) := by
  let line := announcement config announces
  have hopen : (s.announced line).IsOpen := (s.isOpen_announced line).mpr h
  have hworking := s.announced_working line
  have hvisible := visible_runOn config hopen (hworking ▸ hreplay)
  have hallowed : (s.announced line).refusals = {} := (s.announced_refusals line).trans hrefusals
  refine ⟨_, sweep_eq_ok_iff.mpr ⟨_, Sweep.run_eq_ok_iff.mpr
    ⟨_, _, hvisible, hopen.onTables _, ?_, ?_, rfl, rfl⟩, ?_⟩⟩
  · rw [Session.onTables_refusals, hallowed]
  · intro name _
    rw [Session.onTables_refusals, hallowed]
    exact List.not_mem_nil
  · simp only [Session.onTables_onTables, Session.onTables_working, Session.onTables_now,
      Session.announced_working, Session.announced_now, swept]
    rfl

/-- If the log cannot be replayed, the open transaction is undone. -/
theorem sweep_refused {config : Config} (h : s.IsOpen) {e : Error}
    (hreplay : EventLog.replayRows s.working.events = .error e) (announces : Bool) :
    (sweep config announces).runOn s =
      (.error (.visibility e), (s.announced (announcement config announces)).rolledBack) := by
  let line := announcement config announces
  have hopen : (s.announced line).IsOpen := (s.isOpen_announced line).mpr h
  have hworking := s.announced_working line
  have hvisible := visible_refused config hopen (hworking ▸ hreplay)
  exact sweep_of_run_error (Sweep.run_of_visibility_error hvisible)

/-! ## 8. Hiding and showing -/

theorem hide_runOn {config : Config} (h : s.IsOpen) (oid : Oid) :
    (hide config oid).runOn s =
      if s.working.objects.isCommit oid then
        (if config.sweepsOnHide then sweep config false >>= fun _ => pure ()
          else pure () : Action Unit).runOn
          (s.onTables (s.working.logged "hide" s.now [(.hide, { commit := some oid })])).committing
      else (.error (.objectNotFound oid), s) := by
  rw [hide, runOn_bind, requireCommit_runOn h]
  by_cases hcommit : s.working.objects.isCommit oid = true
  · rw [if_pos hcommit, if_pos hcommit]
    dsimp only
    rw [log_runOn h, runOn_bind_of_ok (runOn_commit (h.onTables _))]
  · rw [if_neg hcommit, if_neg hcommit]

theorem unhide_runOn {config : Config} (h : s.IsOpen) (oid : Oid) :
    (unhide config oid).runOn s =
      if s.working.objects.isCommit oid then
        (pin config oid >>= fun _ => pure ()).runOn
          (s.onTables (s.working.logged "unhide" s.now [(.unhide, { commit := some oid })]))
      else (.error (.objectNotFound oid), s) := by
  rw [unhide, runOn_bind, requireCommit_runOn h]
  by_cases hcommit : s.working.objects.isCommit oid = true
  · rw [if_pos hcommit, if_pos hcommit]
    dsimp only
    rw [log_runOn h]
  · rw [if_neg hcommit, if_neg hcommit]

theorem replace_runOn {config : Config} (h : s.IsOpen) (old new : Oid) :
    (replace config old new).runOn s =
      match firstNoCommit? s.working [old, new] with
      | some missing => (.error (.objectNotFound missing), s)
      | none =>
        (pin config new >>= fun _ => pure ()).runOn (s.onTables (s.working.logged "rewrite" s.now
          [(.replace, { old := some old, new := some new })])) := by
  rw [replace, runOn_bind, requireCommit_runOn h, firstNoCommit?, List.find?_cons]
  cases hold : s.working.objects.isCommit old with
  | false => rfl
  | true =>
    rw [if_pos rfl]
    dsimp only
    rw [runOn_bind, requireCommit_runOn h, Bool.not_true, List.find?_singleton]
    cases hnew : s.working.objects.isCommit new with
    | false => rfl
    | true =>
      rw [if_pos rfl]
      dsimp only
      rw [log_runOn h]
      rfl

end Repository
end CommitStore
