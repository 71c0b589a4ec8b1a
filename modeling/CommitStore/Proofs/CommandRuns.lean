import CommitStore.CommandLine.Run
import CommitStore.Proofs.Edits
import CommitStore.Proofs.FailedCalls
import CommitStore.Proofs.FailedSweeps
import CommitStore.Proofs.OpenTransactions
import CommitStore.Proofs.PlainReports
import CommitStore.Proofs.UserReferences
set_option autoImplicit false

/-!
# What a run of the command line leaves

A command commits as the last thing it does to the store, and what it has not committed is lost with
its session. So a run whose command fails leaves the rows of the store as they were, and so does one
that only looks.

One step is left after the commit: the report. A sweep reports numbers and names of pins, which are
reserved, and a pin is named after the id that is reported with it; all of these are plain texts, and
their reports have no fault. Only `hide` reports an id that nothing has looked at. Where the start of
that id is markup with a fault, the commit is hidden and the run fails all the same
(`HidesUnshown`). The ids that a history of calls gives to commits are digests, so no history gets
there.
-/

namespace CommitStore

open CommitStore.Action
open CommitStore.Repository

/-! ## 1. Plain names and ids -/

namespace Reserved

theorem isPlain_of_isHexDigit {c : Char} (h : isHexDigit c = true) : c ≠ '[' ∧ c ≠ '\\' :=
  ⟨isHexDigit_ne h (by decide), isHexDigit_ne h (by decide)⟩

theorem isPlain_of_isHexLine {cs : List Char} (h : isHexLine cs = true) : Markup.IsPlain cs := by
  obtain ⟨_, hdigits⟩ := Bool.and_eq_true_iff.mp h
  have hline : Markup.IsPlain (dropNewline cs) := fun c hc =>
    isPlain_of_isHexDigit (List.all_eq_true.mp hdigits c hc)
  unfold dropNewline at hline
  split at hline
  · next hlast =>
    obtain ⟨start, rfl⟩ := List.getLast?_eq_some_iff.mp hlast
    rw [List.dropLast_concat] at hline
    exact hline.append (by decide)
  · exact hline

/-- Under the default root reserved names are plain. -/
theorem isPlain_of_isReserved {name : RefName} (h : isReserved defaultRoot name = true) :
    Markup.IsPlain name.toList := by
  obtain ⟨line, hname, hline⟩ := exists_hexLine_of_isReserved h
  rw [← hname]
  exact Markup.IsPlain.append (by decide) (isPlain_of_isHexLine hline)

/-- An id that can be pinned is plain, because the pin is named after it. -/
theorem isPlain_of_pinName {oid : Oid}
    (h : isReserved defaultRoot (pinName defaultRoot oid) = true) : Markup.IsPlain oid.toList := by
  refine (isPlain_of_isReserved h).of_subset ?_
  rw [pinName, String.toList_ofList]
  exact List.subset_append_right _ _

theorem IsHex.isPlain {oid : Oid} (h : IsHex oid) : Markup.IsPlain oid.toList :=
  fun c hc => isPlain_of_isHexDigit (h.2 c hc)

end Reserved

namespace Tables

/-- Every commit has an id that reports can show. -/
def ShowsCommits (t : Tables) : Prop :=
  ∀ oid, t.objects.isCommit oid = true → Markup.IsPlain oid.toList

/-- The committed tables of a new repository after some history of calls. -/
def MadeByCalls (t : Tables) : Prop :=
  ∃ config history durable start,
    t = (run config history (Session.start .empty durable start)).2.committed

/-- Commits that were made by calls have digests for ids. -/
theorem MadeByCalls.showsCommits {t : Tables} (h : t.MadeByCalls) : t.ShowsCommits := by
  obtain ⟨config, history, durable, start, ht⟩ := h
  have hrows : ∀ oid o, t.objects.get? oid = some o → ObjectStore.RowHolds _ o :=
    run_keeps config history durable start (fun _ _ hget => nomatch hget)
      (fun _ _ hedit hrows => hedit.rows hrows) (Or.inl ht)
  exact fun oid hcommit => (ObjectStore.isHex_of_rows hrows hcommit).isPlain

/-- Tables with the same rows. Only the version of the schema may differ. -/
structure SameRows (t t' : Tables) : Prop where
  objects : t.objects = t'.objects
  refs : t.refs = t'.refs
  journal : t.journal = t'.journal
  transactions : t.transactions = t'.transactions
  events : t.events = t'.events
  mergeBases : t.mergeBases = t'.mergeBases

theorem SameRows.refl (t : Tables) : t.SameRows t := ⟨rfl, rfl, rfl, rfl, rfl, rfl⟩

theorem SameRows.symm {t t' : Tables} (h : t.SameRows t') : t'.SameRows t :=
  ⟨h.objects.symm, h.refs.symm, h.journal.symm, h.transactions.symm, h.events.symm,
    h.mergeBases.symm⟩

theorem SameRows.trans {t t' t'' : Tables} (h : t.SameRows t') (h' : t'.SameRows t'') :
    t.SameRows t'' :=
  ⟨h.objects.trans h'.objects, h.refs.trans h'.refs, h.journal.trans h'.journal,
    h.transactions.trans h'.transactions, h.events.trans h'.events,
    h.mergeBases.trans h'.mergeBases⟩

/-- Opening a store stamps its version at most. -/
theorem sameRows_of_openTables {t opened : Tables} (h : Schema.openTables t = .ok opened) :
    opened.SameRows t := by
  unfold Schema.openTables at h
  split at h
  · cases h
    exact ⟨rfl, rfl, rfl, rfl, rfl, rfl⟩
  · next version _ =>
    cases hcheck : Schema.check version with
    | error e =>
      rw [hcheck] at h
      cases h
    | ok _ =>
      rw [hcheck] at h
      cases h
      exact .refl t

end Tables

namespace CommandLine

open Markup (IsPlain Stretch markupOf ReportStyle)

/-! ## 2. Reports on a commit -/

/-- What `hide` reports. -/
def hidReport (width : Nat) (oid : Oid) : Report.Result :=
  Report.paragraph width ("Hid ".toList ++ markedOid oid)

/-- A report on a commit between plain texts has no fault if the id is plain. -/
theorem paragraph_markedOid (width : Nat) {before behind : List Char} {oid : Oid}
    (hbefore : IsPlain before) (hoid : IsPlain oid.toList) (hbehind : IsPlain behind) :
    ∃ text, Report.paragraph width (before ++ (markedOid oid ++ behind)) = .ok text := by
  have hshown : IsPlain (Oid.abbreviate shownOid oid).toList := by
    rw [Oid.abbreviate, String.toList_ofList]
    exact hoid.of_subset (List.take_subset _ _)
  have hopening : "[yellow]".toList = ReportStyle.yellow.opening := by decide
  have hclosing : "[/yellow]".toList = ReportStyle.yellow.closing := by decide
  have hmarkup : before ++ (markedOid oid ++ behind) =
      markupOf [.bare before hbefore, .styled .yellow _ hshown, .bare behind hbehind] := by
    unfold markedOid
    simp only [hopening, hclosing, markupOf, List.flatMap_cons, List.flatMap_nil, Stretch.markup,
      List.append_assoc, List.append_nil]
  rw [hmarkup]
  exact Report.paragraph_markupOf width _

/-! ## 3. Commands on a session -/

/-- A command that only looks at the store. -/
def Command.looks : Command → Bool
  | .refs | .log _ => true
  | .gc _ | .hide _ | .unhide _ | .pin _ => false

section

variable {config : Config} {width : Nat} {command : Command} {s s' : Session}

/-- What a command that looks adds to the open transaction is not committed. -/
theorem perform_looks (hlooks : command.looks = true) :
    ((perform config width command).runOn s).2.committed = s.committed := by
  have hasks : Asks (perform config width command) := by
    cases command with
    | refs => exact (asks_listPins config).bind fun _ => .of_looks (looks_pure _)
    | log limit =>
      exact .of_looks ((RefStore.looks_head.bind fun _ => looks_read _).bind fun _ => looks_pure _)
    | gc | hide | unhide | pin => cases hlooks
  obtain ⟨rows, hsession⟩ := hasks s
  rw [hsession]
  rfl

/-- A call on the commit that a target names fails before it commits, if it fails at all. -/
theorem onCommit_error {target : String} {call : Oid → Action Report.Result} {e : Error}
    (hcall : ∀ oid, (call oid).runOn s = (.error e, s') → s'.committed = s.committed)
    (hrun : (resolveCommit target >>= call).runOn s = (.error e, s')) :
    s'.committed = s.committed := by
  rcases runOn_bind_eq_error_iff.mp hrun with hresolve | ⟨oid, s₁, hresolve, hrest⟩
  · rw [(looks_resolveCommit target).eq_of_runOn hresolve]
  · rw [(looks_resolveCommit target).eq_of_runOn hresolve] at hrest
    exact hcall oid hrest

/-- **A command that fails has committed nothing.** -/
theorem perform_error (hopen : s.IsOpen) (hsweeps : config.sweepsOnHide = false) {e : Error}
    (hrun : (perform config width command).runOn s = (.error e, s')) :
    s'.committed = s.committed := by
  cases command with
  | gc listsNames =>
    exact ((sweepFailsClosed config true s).undone e s' (runOn_map_eq_error_iff.mp hrun)).2.1
  | hide target =>
    refine onCommit_error (fun oid hhide => ?_) hrun
    rw [hide_error hopen hsweeps (runOn_map_eq_error_iff.mp hhide)]
  | unhide target =>
    refine onCommit_error (fun oid hunhide => ?_) hrun
    have hafter : AfterFailure config s (.unhide oid) s' :=
      unhide_error hopen (runOn_map_eq_error_iff.mp hunhide)
    rcases hafter with ⟨_, hcommitted⟩ | ⟨t, _, rfl⟩
    · exact hcommitted
    · rfl
  | pin target =>
    refine onCommit_error (fun oid hpin => ?_) hrun
    rw [(pin_error hopen (runOn_map_eq_error_iff.mp hpin)).1]
  | refs | log => exact congrArg (fun answer => answer.2.committed) hrun ▸ perform_looks rfl

/-- The tables in which a commit is hidden. -/
def hidden (t : Tables) (oid : Oid) (now : Instant) : Tables :=
  t.logged "hide" now [(.hide, { commit := some oid })]

/-- `hide` commits what it records, and then reports. -/
theorem perform_hide (hopen : s.IsOpen) (hsweeps : config.sweepsOnHide = false) {target : String}
    {oid : Oid} (hresolve : (resolveCommit target).runOn s = (.ok oid, s)) :
    (perform config width (.hide target)).runOn s =
      (.ok (hidReport width oid), (s.onTables (hidden s.working oid s.now)).committing) := by
  have hhide : (hide config oid).runOn s = _ := hide_runOn hopen oid
  rw [if_pos (isCommit_of_resolveCommit hopen hresolve), hsweeps] at hhide
  rw [perform, runOn_bind_of_ok hresolve, runOn_bind_of_ok hhide]
  rfl

/-- The id and the name of a pin that was made can be reported. -/
theorem isPlain_of_pin (hopen : s.IsOpen) (hroot : config.pinRoot = Reserved.defaultRoot) {oid : Oid}
    {name : RefName} (hrun : (pin config oid).runOn s = (.ok name, s')) :
    IsPlain oid.toList ∧ IsPlain name.toList := by
  obtain ⟨pinName, s₁, hmark, hrest⟩ := runOn_bind_eq_ok_iff.mp hrun
  obtain ⟨_, s₂, _, hanswer⟩ := runOn_bind_eq_ok_iff.mp hrest
  cases hanswer
  rw [pinOpen, Pin.mark_runOn hopen, hroot] at hmark
  split at hmark
  · next hreserved =>
    split at hmark
    · split at hmark
      · cases hmark
        exact ⟨Reserved.isPlain_of_pinName hreserved, Reserved.isPlain_of_isReserved hreserved⟩
      · cases hmark
    · cases hmark
  · cases hmark

/-- **A report with a fault is the report of `hide`, or of a command that looks.** -/
theorem perform_fault (hopen : s.IsOpen) (hroot : config.pinRoot = Reserved.defaultRoot)
    (hsweeps : config.sweepsOnHide = false) {fault : Markup.Fault}
    (hrun : (perform config width command).runOn s = (.ok (.error fault), s')) :
    command.looks = true ∨
      ∃ target oid, command = .hide target ∧ (resolveCommit target).runOn s = (.ok oid, s) ∧
        hidReport width oid = .error fault := by
  cases command with
  | refs | log => exact Or.inl rfl
  | gc listsNames =>
    obtain ⟨outcome, s₁, hsweep, hreport⟩ := runOn_bind_eq_ok_iff.mp hrun
    obtain ⟨r, _, hdeleted, _⟩ := deleted_of_sweep hsweep
    obtain ⟨text, htext⟩ := Report.sweep_isOk width outcome.scanned outcome.skipped
      (fun name hname => Reserved.isPlain_of_isReserved (hroot ▸ ((hdeleted name).mp hname).1))
      listsNames
    rw [htext] at hreport
    cases hreport
  | hide target =>
    obtain ⟨oid, s₁, hresolve, _⟩ := runOn_bind_eq_ok_iff.mp hrun
    obtain rfl := (looks_resolveCommit target).eq_of_runOn hresolve
    rw [perform_hide hopen hsweeps hresolve] at hrun
    exact Or.inr ⟨target, oid, rfl, hresolve, Except.ok.inj (Prod.mk.inj hrun).1⟩
  | unhide target =>
    obtain ⟨oid, s₁, hresolve, hrest⟩ := runOn_bind_eq_ok_iff.mp hrun
    obtain rfl := (looks_resolveCommit target).eq_of_runOn hresolve
    obtain ⟨_, s₂, hunhide, hreport⟩ := runOn_bind_eq_ok_iff.mp hrest
    rw [unhide_runOn hopen, if_pos (isCommit_of_resolveCommit hopen hresolve)] at hunhide
    -- What is shown again is pinned, so its id is part of a reserved name.
    obtain ⟨name, s₃, hpin, _⟩ := runOn_bind_eq_ok_iff.mp hunhide
    obtain ⟨hoid, _⟩ := isPlain_of_pin (hopen.onTables _) hroot hpin
    obtain ⟨text, htext⟩ := paragraph_markedOid width
      (show IsPlain "Unhid ".toList by decide) hoid (show IsPlain [] by decide)
    rw [List.append_nil] at htext
    rw [htext] at hreport
    cases hreport
  | pin target =>
    obtain ⟨oid, s₁, hresolve, hrest⟩ := runOn_bind_eq_ok_iff.mp hrun
    obtain rfl := (looks_resolveCommit target).eq_of_runOn hresolve
    obtain ⟨name, s₂, hpin, hreport⟩ := runOn_bind_eq_ok_iff.mp hrest
    obtain ⟨hoid, hname⟩ := isPlain_of_pin hopen hroot hpin
    have hbehind : IsPlain (" as ".toList ++ name.toList) :=
      IsPlain.append (by decide) hname
    obtain ⟨text, htext⟩ := paragraph_markedOid width
      (show IsPlain "Pinned ".toList by decide) hoid hbehind
    rw [Markup.escape_of_isPlain hname, List.append_assoc, List.append_assoc, htext] at hreport
    cases hreport

end

/-! ## 4. Runs -/

/-- The configuration that the settings of a command line stand for. -/
def Settings.config (settings : Settings) : Config :=
  { path := settings.path, mainBranch := settings.mainBranch }

/-- The store that a run leaves has the rows that it had before. -/
def Outcome.KeepsRows (o : Outcome) (locate : String → Located) : Prop :=
  ∀ path left, o.left = some (path, left) →
    ∃ tables, locate path = .store tables ∧ left.SameRows tables

/-- A command line performs a command on the tables of an opened store. -/
structure Performs (getVariable : String → Option String) (locate : String → Located)
    (args : List String) (settings : Settings) (width : Nat) (command : Command)
    (opened : Tables) : Prop where
  request : readRequest getVariable args = .ok (.perform settings command)
  console : reportWidth getVariable = .ok width
  store : ∃ tables, locate settings.path = .store tables ∧ Schema.openTables tables = .ok opened

/-- A command line hides a commit, and the report on it has a fault. -/
def HidesUnshown (getVariable : String → Option String) (now : Instant)
    (locate : String → Located) (args : List String) : Prop :=
  ∃ settings width target opened oid fault,
    Performs getVariable locate args settings width (.hide target) opened ∧
      ((resolveCommit target).runOn (Session.start opened true now)).1 = .ok oid ∧
      hidReport width oid = .error fault

section

variable {getVariable : String → Option String} {now : Instant} {locate : String → Located}
  {args : List String} {settings : Settings} {width : Nat} {command : Command} {opened : Tables}

/-- A command that is performed decides the answer. -/
theorem Performs.answer_eq (h : Performs getVariable locate args settings width command opened)
    (now : Instant) :
    answer getVariable now locate args =
      let performed :=
        (perform settings.config width command).runOn (Session.start opened true now)
      conclude width settings.path performed.1 performed.2 := by
  obtain ⟨tables, hlocate, hopens⟩ := h.store
  rw [answer, h.request]
  dsimp only
  rw [h.console]
  dsimp only
  rw [hlocate]
  dsimp only
  rw [performOn, hopens]
  rfl

/-- A run that leaves a store has performed a command on it. -/
theorem exists_performs {left : String × Tables}
    (hleft : (answer getVariable now locate args).left = some left) :
    ∃ settings width command opened,
      Performs getVariable locate args settings width command opened := by
  unfold answer at hleft
  split at hleft
  · cases hleft
  · cases hleft
  · next settings command hrequest =>
    split at hleft
    · cases hleft
    · next width hwidth =>
      split at hleft
      · cases hleft
      · cases hleft
      · next tables hlocate =>
        unfold performOn at hleft
        dsimp only at hleft
        split at hleft
        · cases hleft
        · next opened hopens =>
          exact ⟨settings, width, command, opened, hrequest, hwidth, tables, hlocate, hopens⟩

theorem left_conclude (width : Nat) (path : String) (result : Except Error Report.Result)
    (s : Session) : (conclude width path result s).left = some (path, s.committed) := by
  unfold conclude
  split <;> rfl

/-- A run fails when its command does, or when the report has a fault. -/
theorem exitCode_conclude_ne_zero {path : String} {result : Except Error Report.Result}
    {s : Session} (h : (conclude width path result s).exitCode ≠ 0) :
    (∃ e, result = .error e) ∨ ∃ fault, result = .ok (.error fault) := by
  unfold conclude at h
  split at h
  · exact absurd rfl h
  · next fault => exact Or.inr ⟨fault, rfl⟩
  · next e => exact Or.inl ⟨e, rfl⟩

/-- A run keeps the rows of its store if its command commits none. -/
theorem Performs.keepsRows_iff (h : Performs getVariable locate args settings width command opened)
    (now : Instant) :
    (run getVariable now locate args).KeepsRows locate ↔
      ((perform settings.config width command).runOn
        (Session.start opened true now)).2.committed.SameRows opened := by
  have hleft : (run getVariable now locate args).left = some (settings.path,
      ((perform settings.config width command).runOn
        (Session.start opened true now)).2.committed) := by
    show (answer getVariable now locate args).left = _
    rw [h.answer_eq now]
    exact left_conclude ..
  obtain ⟨tables, hlocate, hopens⟩ := h.store
  have hsame := Tables.sameRows_of_openTables hopens
  constructor
  · intro hkeeps
    obtain ⟨found, hfound, hrows⟩ := hkeeps _ _ hleft
    cases hlocate.symm.trans hfound
    exact hrows.trans hsame.symm
  · intro hrows path left hsome
    cases hleft.symm.trans hsome
    exact ⟨tables, hlocate, hrows.trans hsame⟩

/-- Hiding adds an event. -/
theorem not_sameRows_hidden (t : Tables) (oid : Oid) (now : Instant) :
    ¬ (hidden t oid now).SameRows t := by
  intro hsame
  have hlength := congrArg List.length hsame.events
  simp [hidden, Tables.logged, Tables.withEvents, Tables.addEvent, Tables.addTransaction]
    at hlength

/-- A commit whose report has a fault is hidden all the same. -/
theorem HidesUnshown.fails (h : HidesUnshown getVariable now locate args) :
    (run getVariable now locate args).exitCode = 1 ∧
      ¬ (run getVariable now locate args).KeepsRows locate := by
  obtain ⟨settings, width, target, opened, oid, fault, hperforms, hresolve, hfault⟩ := h
  have hrun : (perform settings.config width (.hide target)).runOn _ = _ :=
    perform_hide (isOpen_start opened true now) rfl
      (Prod.ext hresolve (looks_resolveCommit target (Session.start opened true now)))
  constructor
  · show (answer getVariable now locate args).exitCode = 1
    rw [hperforms.answer_eq now, hrun, hfault]
    rfl
  · rw [hperforms.keepsRows_iff now, hrun]
    exact not_sameRows_hidden opened oid now

/-- A run that fails otherwise commits nothing. -/
theorem keepsRows_of_fails (hfails : (run getVariable now locate args).exitCode ≠ 0)
    (hshown : ¬ HidesUnshown getVariable now locate args) :
    (run getVariable now locate args).KeepsRows locate := by
  intro path left hleft
  obtain ⟨settings, width, command, opened, hperforms⟩ := exists_performs hleft
  refine (hperforms.keepsRows_iff now).mpr ?_ path left hleft
  have hopen := isOpen_start opened true now
  cases hrun : (perform settings.config width command).runOn (Session.start opened true now) with
  | mk result s' =>
  have hcode : (conclude width settings.path result s').exitCode ≠ 0 := by
    have hanswer : (answer getVariable now locate args).exitCode ≠ 0 := hfails
    rwa [hperforms.answer_eq now, hrun] at hanswer
  suffices hcommitted : s'.committed = opened by
    rw [hcommitted]
    exact .refl opened
  -- Either the command failed before it committed, or the report did after it.
  rcases exitCode_conclude_ne_zero hcode with ⟨e, rfl⟩ | ⟨fault, rfl⟩
  · exact perform_error hopen rfl hrun
  · rcases perform_fault hopen rfl rfl hrun with hlooks | ⟨target, oid, rfl, hresolve, hfault⟩
    · have hcommitted : ((perform settings.config width command).runOn
          (Session.start opened true now)).2.committed = opened := perform_looks hlooks
      rw [hrun] at hcommitted
      exact hcommitted
    · exact absurd ⟨settings, width, target, opened, oid, fault, hperforms,
        congrArg Prod.fst hresolve, hfault⟩ hshown

end

/-- **A failing run changes nothing, unless it hides a commit that it cannot report.** For whatever
lies at the paths, every command line and every environment: a run that fails leaves the rows of its
store as they were, except where it hides a commit and the report on that has a fault; there the run
fails, and the commit is hidden. That never happens in a store that only calls have written to, or
where the ids of commits are plain. A run that lists pins or shows a history leaves the rows as they
were whether it fails or not. -/
theorem run_failing_keepsRows (getVariable : String → Option String) (now : Instant)
    (locate : String → Located) (args : List String) :
    let o := run getVariable now locate args
    (o.exitCode ≠ 0 → (o.KeepsRows locate ↔ ¬ HidesUnshown getVariable now locate args)) ∧
    (HidesUnshown getVariable now locate args → o.exitCode = 1) ∧
    ((∀ path tables, locate path = .store tables → tables.MadeByCalls ∨ tables.ShowsCommits) →
      ¬ HidesUnshown getVariable now locate args) ∧
    ∀ settings command, readRequest getVariable args = .ok (.perform settings command) →
      command.looks = true → o.KeepsRows locate := by
  intro o
  refine ⟨fun hfails => ⟨fun hkeeps hunshown => hunshown.fails.2 hkeeps, keepsRows_of_fails hfails⟩,
    fun hunshown => hunshown.fails.1, ?_, ?_⟩
  · rintro hstores ⟨settings, width, target, opened, oid, fault, hperforms, hresolve, hfault⟩
    obtain ⟨tables, hlocate, hopens⟩ := hperforms.store
    have hshows : tables.ShowsCommits := (hstores _ _ hlocate).elim (·.showsCommits) id
    have hcommit : tables.objects.isCommit oid = true := by
      rw [← (Tables.sameRows_of_openTables hopens).objects]
      exact isCommit_of_resolveCommit (isOpen_start opened true now)
        (Prod.ext hresolve (looks_resolveCommit target (Session.start opened true now)))
    obtain ⟨text, htext⟩ := paragraph_markedOid width
      (show IsPlain "Hid ".toList by decide) (hshows oid hcommit) (show IsPlain [] by decide)
    rw [List.append_nil] at htext
    cases htext.symm.trans hfault
  · intro settings command hrequest hlooks path left hleft
    obtain ⟨settings', width, command', opened, hperforms⟩ := exists_performs hleft
    cases hrequest.symm.trans hperforms.request
    refine (hperforms.keepsRows_iff now).mpr ?_ path left hleft
    rw [perform_looks hlooks]
    exact .refl opened

/-- The theorem at a store that calls have made: what is to be hidden there is not found. -/
theorem run_failing_keepsRows_notFound :
    let locate : String → Located := fun _ => .store SweptTag.taggedTables
    let o := run (fun _ => none) default locate ["hide", "none"]
    o.exitCode = 1 ∧ o.left.isSome = true ∧ o.KeepsRows locate := by
  intro locate o
  have hrun : o.exitCode = 1 ∧ o.left.isSome = true := by decide +kernel
  have hcalls : SweptTag.taggedTables.MadeByCalls :=
    ⟨SweptTag.tagsConfig, SweptTag.taggedHistory, false, default,
      (congrArg Session.committed SweptTag.run_taggedHistory).symm⟩
  obtain ⟨hfailing, _, hshown, _⟩ := run_failing_keepsRows (fun _ => none) default locate
    ["hide", "none"]
  refine ⟨hrun.1, hrun.2, (hfailing ?_).mpr (hshown ?_)⟩
  · exact hrun.1.symm ▸ Nat.one_ne_zero
  · intro path found hfound
    cases hfound
    exact Or.inl hcalls

/-! ## 5. A commit that is hidden by a run that fails -/

/-- A store with a commit whose id closes a style. -/
def unshownTables : Tables :=
  ((do
    saveCommit "[/a]" [] none
    Action.commit : Action Unit).runOn fresh).2.committed

/-- Hiding that commit fails, and hides it. -/
theorem hide_fails_and_hides :
    let o := run (fun _ => none) default (fun _ => .store unshownTables) ["hide", "[/a]"]
    o.exitCode = 1 ∧
      (o.left.map fun left => left.2.events.map fun row => (row.kind, row.commit)) =
        some [("hide", some "[/a]")] ∧
      ¬ o.KeepsRows fun _ => .store unshownTables := by
  intro o
  have hevents : unshownTables.events = [] := by rfl
  have hrun : o.exitCode = 1 ∧
      (o.left.map fun left => left.2.events.map fun row => (row.kind, row.commit)) =
        some [("hide", some "[/a]")] := by
    decide +kernel
  refine ⟨hrun.1, hrun.2, fun hkeeps => ?_⟩
  obtain ⟨⟨path, left⟩, hleft, hrows⟩ := Option.map_eq_some_iff.mp hrun.2
  obtain ⟨tables, hlocate, hsame⟩ := hkeeps path left hleft
  cases hlocate
  rw [hsame.events, hevents] at hrows
  cases hrows

end CommandLine
end CommitStore
