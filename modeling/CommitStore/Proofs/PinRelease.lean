import CommitStore.Proofs.FailedCalls
import CommitStore.Proofs.Sweeping
set_option autoImplicit false

/-!
# Which pins a sweep can release

Pinning looks at the name and at whether the object is stored. A sweep looks at the name and at
where the reference leads. The name is no obstacle: what is pinned is reserved under the same root
(`Pin.mark_eq_ok_iff`), so a sweep recognises it. The object is one: it need not be a commit, nor a
tag of one, and a reference that leads to no commit is skipped whatever is visible. So a pin is
released by a sweep for which nothing is visible exactly if its object peels to a commit.

A sweep comes back only where the tags that it takes off end (`Tables.TagsEnd`); so it is asked that
they do, and then there are three reasons for which a pin can stay.
-/

namespace CommitStore

open CommitStore.Action

variable {s s' : Session} {root message : String} {oid : Oid} {name : RefName}

/-! ## 1. A completed pin -/

/-- Pinning completes when the name is reserved and accepted and the object is stored; then the
reference points at the object. -/
theorem Pin.mark_eq_ok_iff :
    (Pin.mark root oid message).runOn s = (.ok name, s') ↔
      s.IsOpen ∧ name = Reserved.pinName root oid ∧ Reserved.isReserved root name = true ∧
        (s.refusals.names = false ∧ RefName.isValid name = true) ∧
        s.working.objects.contains oid = true ∧
        s' = s.onTables (s.working.writeDirect name oid (some message) s.now) := by
  by_cases hopen : s.IsOpen
  · rw [Pin.mark_runOn hopen]
    by_cases hreserved : Reserved.isReserved root (Reserved.pinName root oid) = true
    · rw [if_pos hreserved]
      by_cases haccepted :
        (!s.refusals.names && RefName.isValid (Reserved.pinName root oid)) = true
      · rw [if_pos haccepted]
        by_cases hstored : s.working.objects.contains oid = true
        · rw [if_pos hstored]
          constructor
          · rintro ⟨⟩
            exact ⟨hopen, rfl, hreserved, by simpa using haccepted, hstored, rfl⟩
          · rintro ⟨_, rfl, _, _, _, rfl⟩
            rfl
        · simp [hstored]
      · rw [if_neg haccepted]
        constructor
        · rintro ⟨⟩
        · rintro ⟨_, rfl, _, ⟨hnames, hvalid⟩, _⟩
          simp [hnames, hvalid] at haccepted
    · rw [if_neg hreserved]
      constructor
      · rintro ⟨⟩
      · rintro ⟨_, rfl, hreserved', _⟩
        exact absurd hreserved' hreserved
  · let config : Config := { pinRoot := root, pinMessage := message }
    have hstalls : Stalls (Repository.pinOpen config oid) s := stalls_pinOpen hopen oid
    obtain ⟨e, s₁, hstall, _⟩ : Stalls (Pin.mark root oid message) s := hstalls
    rw [hstall]
    simp [hopen]

theorem Pin.get?_of_mark (hmark : (Pin.mark root oid message).runOn s = (.ok name, s')) :
    s'.working.refs.get? name = some (.direct oid) := by
  obtain ⟨_, _, _, _, _, rfl⟩ := Pin.mark_eq_ok_iff.mp hmark
  rw [Session.onTables_working, Tables.writeDirect, NameMap.get?_insert, if_pos rfl]

theorem objects_of_mark (hmark : (Pin.mark root oid message).runOn s = (.ok name, s')) :
    s'.working.objects = s.working.objects := by
  obtain ⟨_, _, _, _, _, rfl⟩ := Pin.mark_eq_ok_iff.mp hmark
  rfl

namespace Sweep

/-- A pin dangles exactly if its object peels to a commit that is not visible. -/
theorem dangles_marked_iff (hmark : (Pin.mark root oid message).runOn s = (.ok name, s'))
    (visible : List Oid) :
    Dangles s'.working root visible name ↔
      ∃ commit, s.working.objects.PeelsTo oid commit ∧ commit ∉ visible := by
  obtain ⟨_, _, hreserved, _⟩ := Pin.mark_eq_ok_iff.mp hmark
  rw [dangles_direct_iff (Pin.get?_of_mark hmark), objects_of_mark hmark]
  exact and_iff_right hreserved

/-! ## 2. The sweep after a pin -/

theorem Dangles.of_subset {t : Tables} {visible visible' : List Oid}
    (hsubset : ∀ oid ∈ visible', oid ∈ visible) (h : Dangles t root visible name) :
    Dangles t root visible' name := by
  obtain ⟨hreserved, p, commit, hget, hleads, hnot⟩ := h
  exact ⟨hreserved, p, commit, hget, hleads, fun hmem => hnot (hsubset commit hmem)⟩

/-- Where the tags around an object end, they lead to no commit that is left out exactly if they lead
to a visible one, to an object that is neither a commit nor a tag of something, or to one that is
missing. -/
theorem spares_iff {objects : ObjectStore} {visible : List Oid} {result : ObjectStore.Peeled}
    (hpeels : objects.PeelsOff oid result) :
    (¬ ∃ commit, objects.PeelsTo oid commit ∧ commit ∉ visible) ↔
      (∃ commit ∈ visible, objects.PeelsTo oid commit) ∨ objects.PeelsOff oid .noCommit ∨
        ∃ missing, objects.PeelsOff oid (.missing missing) := by
  simp only [ObjectStore.peelsTo_iff]
  constructor
  · intro hspared
    cases result with
    | commit c =>
      exact Or.inl ⟨c, Decidable.byContradiction fun hnot => hspared ⟨c, hpeels, hnot⟩, hpeels⟩
    | noCommit => exact Or.inr (Or.inl hpeels)
    | missing oid' => exact Or.inr (Or.inr ⟨oid', hpeels⟩)
    | endless => exact absurd rfl hpeels.ne_endless
  · rintro hreason ⟨c, hc, hnot⟩
    rcases hreason with ⟨c', hvisible, hc'⟩ | hnone | ⟨oid', hmissing⟩
    · cases hc.unique hc'
      exact hnot hvisible
    · cases hc.unique hnone
    · cases hc.unique hmissing

/-- **Which pins a sweep releases.** When an object of any kind has been pinned under any root, in
any state in which the tags of what is referred to end, a sweep under this root completes, for any
visible commits, if the references can be listed and deleted. It deletes the pin if and only if the
object peels to a commit that is not visible; when nothing is visible that is every pin of a commit,
or of a tag that leads to one. Any other pin stays as it is: that of a visible commit, or of a tag of
one, and that of an object whose tags lead to no commit, or to an object that is missing. -/
theorem mark_released (hmark : (Pin.mark root oid message).runOn s = (.ok name, s'))
    (htags : s'.working.TagsEnd) (hlists : s.refusals.listing = false)
    (hdeletes : ∀ other, Dangles s'.working root [] other → other ∉ s.refusals.deletions)
    (visible : List Oid) (line : Option String) :
    ∃ outcome s'', (run root line (pure visible)).runOn s' = (.ok outcome, s'') ∧
      (name ∈ outcome.deleted ↔
        ∃ commit, s.working.objects.PeelsTo oid commit ∧ commit ∉ visible) ∧
      (name ∉ outcome.deleted ↔
        (∃ commit ∈ visible, s.working.objects.PeelsTo oid commit) ∨
          s.working.objects.PeelsOff oid .noCommit ∨
            ∃ missing, s.working.objects.PeelsOff oid (.missing missing)) ∧
      s''.working.refs.get? name =
        if name ∈ outcome.deleted then none else some (.direct oid) := by
  obtain ⟨hopen, _, _, _, _, hs'⟩ := Pin.mark_eq_ok_iff.mp hmark
  have hopen' : s'.IsOpen := hs' ▸ hopen.onTables _
  have hrefusals : s'.refusals = s.refusals := by rw [hs', Session.onTables_refusals]
  have hdeletes' : ∀ other, Dangles s'.working root visible other →
      other ∉ s'.refusals.deletions := by
    rw [hrefusals]
    intro other hdangles
    exact hdeletes other (hdangles.of_subset fun _ hnone => absurd hnone List.not_mem_nil)
  obtain ⟨outcome, hrun, hdeleted⟩ :=
    run_completes hopen' (hrefusals ▸ hlists) hdeletes' line
  have hpeels := htags.peelsOff_direct (Pin.get?_of_mark hmark)
  rw [objects_of_mark hmark] at hpeels
  have hname := (hdeleted name).trans (dangles_marked_iff hmark visible)
  refine ⟨outcome, _, hrun, hname, (not_congr hname).trans (spares_iff hpeels), ?_⟩
  rw [Session.onTables_working, Tables.removeRefs_get?, Pin.get?_of_mark hmark]

/-- The theorem at the pin of a commit, which the sweep releases. -/
theorem mark_released_commit :
    ∃ name s' outcome s'',
      (Pin.mark "refs/branchless" "a" "keep").runOn (Session.start crowdedTables false default) =
        (.ok name, s') ∧
      (run "refs/branchless" none (pure [])).runOn s' = (.ok outcome, s'') ∧
      name ∈ outcome.deleted ∧ s''.working.refs.get? name = none := by
  let s := Session.start crowdedTables false default
  let name := Reserved.pinName "refs/branchless" "a"
  have hmark : (Pin.mark "refs/branchless" "a" "keep").runOn s = (.ok name,
      s.onTables (crowdedTables.writeDirect name "a" (some "keep") default)) :=
    Pin.mark_eq_ok_iff.mpr
      ⟨⟨rfl, rfl⟩, rfl, by decide +kernel, ⟨rfl, by decide +kernel⟩, by decide +kernel, rfl⟩
  have hcommit : crowdedTables.objects.isCommit "a" = true := by decide +kernel
  obtain ⟨outcome, s'', hrun, hdeleted, _, hafter⟩ :=
    mark_released hmark (by decide +kernel) rfl (fun _ _ => List.not_mem_nil) [] none
  have hmem := hdeleted.mpr ⟨"a", ObjectStore.peelsTo_of_isCommit hcommit, List.not_mem_nil⟩
  rw [if_pos hmem] at hafter
  exact ⟨name, _, outcome, s'', hmark, hrun, hmem, hafter⟩

end Sweep

/-! ## 3. A pin that stays -/

theorem ObjectStore.not_peelsTo_of_blob {objects : ObjectStore} {o : StoredObject}
    (hget : objects.get? oid = some o) (hkind : o.kind = .blob) (commit : Oid) :
    ¬ objects.PeelsTo oid commit := by
  intro h
  cases h with
  | commit hget' hkind' =>
    cases hget.symm.trans hget'
    cases hkind.symm.trans hkind'
  | tag hget' hkind' =>
    cases hget.symm.trans hget'
    cases hkind.symm.trans hkind'

namespace PinnedBlob

open CommitStore.Repository CommitStore.BadTag

/-- A blob that has just been stored is pinned under the default root, and a sweep for which nothing
is visible leaves the pin. -/
theorem sweep_leaves_blob :
    ∃ s name s' outcome s'',
      run {} [(default, .createBlob "x")] fresh = ([.ok (.oid blobId)], s) ∧
      (Pin.mark Reserved.defaultRoot blobId "keep").runOn s = (.ok name, s') ∧
      (Sweep.run Reserved.defaultRoot none (pure [])).runOn s' = (.ok outcome, s'') ∧
      name ∉ outcome.deleted ∧ s''.working.refs.get? name = some (.direct blobId) := by
  have hget : withBlob.working.objects.get? blobId = some (.ofBlob "x" default) := by
    have hid : (StoredObject.ofBlob "x" default).oid = blobId := ofBlob_blobId
    show (ObjectStore.empty.insert _).get? blobId = _
    rw [ObjectStore.get?_insert, if_pos hid]
    rfl
  have hstored : withBlob.working.objects.contains blobId = true := by
    rw [ObjectStore.contains, hget]
    rfl
  have hopen : withBlob.IsOpen := ⟨rfl, rfl⟩
  let name := Reserved.pinName Reserved.defaultRoot blobId
  let s' := withBlob.onTables
    (withBlob.working.writeDirect name blobId (some "keep") withBlob.now)
  have hmark : (Pin.mark Reserved.defaultRoot blobId "keep").runOn withBlob = (.ok name, s') :=
    Pin.mark_eq_ok_iff.mpr
      ⟨hopen, rfl, by decide +kernel, ⟨rfl, by decide +kernel⟩, hstored, rfl⟩
  have hopen' : s'.IsOpen := hopen
  obtain ⟨outcome, hrun, hdeleted⟩ :=
    Sweep.run_completes hopen' rfl (fun _ _ => List.not_mem_nil) none
  have hkept : name ∉ outcome.deleted := by
    rw [hdeleted name, Sweep.dangles_marked_iff hmark]
    rintro ⟨commit, hpeels, _⟩
    exact ObjectStore.not_peelsTo_of_blob hget rfl commit hpeels
  refine ⟨withBlob, name, s', outcome, _, run_withBlob, hmark, hrun, hkept, ?_⟩
  rw [Session.onTables_working, Tables.removeRefs_get?, if_neg hkept, Pin.get?_of_mark hmark]

end PinnedBlob
end CommitStore
