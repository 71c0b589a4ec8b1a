import CommitStore.Proofs.BranchesOnCommits
import CommitStore.Proofs.CanonicalText
import Mathlib.Data.List.Basic
set_option autoImplicit false

/-!
# How the object store grows

A call that stores an object puts it behind all others, and what the new object names is stored
before it. `Adds` is this one step. It also says what the step leaves alone: no object that was
stored gets other parents.

The second part is what could fail. A commit whose id is taken is not stored again, but if it is a
merge its links would be. That they are not is because a commit keeps the parents from which its id
was made (`parentsHashed`): a merge with a taken id has links already, and those cannot be stored
twice.
-/

namespace CommitStore

open CommitStore.Repository

namespace ObjectStore

/-! ## 1. One object more -/

/-- The place of an object in the order in which objects were stored. -/
def rank (s : ObjectStore) (oid : Oid) : Nat := (s.objects.map (·.oid)).idxOf oid

/-- A store with one object more. Only a commit has parents, and they are commits; only a tag names
another object, and that is stored. -/
structure Adds (s : ObjectStore) (o : StoredObject) (s' : ObjectStore) : Prop where
  isNew : s.get? o.oid = none
  objects : s'.objects = s.objects ++ [o]
  others : ∀ oid, oid ≠ o.oid → s'.parents oid = s.parents oid
  parents : ∀ parent ∈ s'.parents o.oid, o.kind = .commit ∧ s.isCommit parent = true
  target : ∀ target, o.target = some target → o.kind = .tag ∧ s.contains target = true

/-- What is named comes before what names it. -/
structure IsOrdered (s : ObjectStore) : Prop where
  parents : ∀ oid, ∀ parent ∈ s.parents oid,
    s.isCommit oid = true ∧ s.isCommit parent = true ∧ s.rank parent < s.rank oid
  targets : ∀ oid o target, s.get? oid = some o → o.target = some target →
    o.kind = .tag ∧ s.contains target = true ∧ s.rank target < s.rank oid

namespace Adds

variable {s s' : ObjectStore} {o : StoredObject}

theorem get? (h : s.Adds o s') (oid : Oid) :
    s'.get? oid = (s.get? oid).or (if o.oid = oid then some o else none) := by
  rw [ObjectStore.get?, h.objects, List.find?_append, List.find?_singleton, ObjectStore.get?]
  simp

theorem get?_stored (h : s.Adds o s') {oid : Oid} {row : StoredObject}
    (hget : s.get? oid = some row) : s'.get? oid = some row := by
  rw [h.get?, hget]
  rfl

theorem get?_new (h : s.Adds o s') : s'.get? o.oid = some o := by
  rw [h.get?, h.isNew, if_pos rfl]
  rfl

/-- An object of the larger store is the new one, or it was there before. -/
theorem cases_get? (h : s.Adds o s') {oid : Oid} {row : StoredObject}
    (hget : s'.get? oid = some row) : oid = o.oid ∧ row = o ∨ s.get? oid = some row := by
  rw [h.get?] at hget
  cases hold : s.get? oid with
  | some old =>
    rw [hold] at hget
    exact Or.inr hget
  | none =>
    rw [hold, Option.none_or] at hget
    split at hget
    · next heq =>
      cases hget
      exact Or.inl ⟨heq.symm, rfl⟩
    · cases hget

theorem isCommit (h : s.Adds o s') {oid : Oid} (hcommit : s.isCommit oid = true) :
    s'.isCommit oid = true := by
  obtain ⟨row, hget, hkind⟩ := isCommit_iff.mp hcommit
  exact isCommit_iff.mpr ⟨row, h.get?_stored hget, hkind⟩

theorem contains (h : s.Adds o s') {oid : Oid} (hstored : s.contains oid = true) :
    s'.contains oid = true := by
  rw [contains_iff_mem] at hstored ⊢
  rw [h.objects, List.map_append]
  exact List.mem_append_left _ hstored

theorem ne_of_contains (h : s.Adds o s') {oid : Oid} (hstored : s.contains oid = true) :
    oid ≠ o.oid := by
  rintro rfl
  rw [ObjectStore.contains, h.isNew] at hstored
  cases hstored

theorem parents_stored (h : s.Adds o s') {oid : Oid} (hstored : s.contains oid = true) :
    s'.parents oid = s.parents oid :=
  h.others oid (h.ne_of_contains hstored)

theorem rank_stored (h : s.Adds o s') {oid : Oid} (hstored : s.contains oid = true) :
    s'.rank oid = s.rank oid := by
  rw [rank, h.objects, List.map_append]
  exact List.idxOf_append_of_mem (contains_iff_mem.mp hstored)

/-- The new object comes last. -/
theorem rank_lt (h : s.Adds o s') {oid : Oid} (hstored : s.contains oid = true) :
    s'.rank oid < s'.rank o.oid := by
  have hnot : o.oid ∉ s.objects.map (·.oid) := (get?_eq_none_iff s o.oid).mp h.isNew
  have hlast : s'.rank o.oid = (s.objects.map (·.oid)).length := by
    rw [rank, h.objects, List.map_append, List.idxOf_append_of_notMem hnot]
    simp
  rw [h.rank_stored hstored, hlast]
  exact List.idxOf_lt_length_iff.mpr (contains_iff_mem.mp hstored)

/-- **One object more keeps the order.** -/
theorem isOrdered (h : s.Adds o s') (hordered : s.IsOrdered) : s'.IsOrdered where
  parents oid parent hparent := by
    by_cases hoid : oid = o.oid
    · subst hoid
      obtain ⟨hkind, hcommit⟩ := h.parents parent hparent
      exact ⟨isCommit_iff.mpr ⟨o, h.get?_new, hkind⟩, h.isCommit hcommit,
        h.rank_lt (contains_of_isCommit hcommit)⟩
    · rw [h.others oid hoid] at hparent
      obtain ⟨hchild, hcommit, hlt⟩ := hordered.parents oid parent hparent
      rw [h.rank_stored (contains_of_isCommit hchild),
        h.rank_stored (contains_of_isCommit hcommit)]
      exact ⟨h.isCommit hchild, h.isCommit hcommit, hlt⟩
  targets oid row target hget htarget := by
    rcases h.cases_get? hget with ⟨rfl, rfl⟩ | hold
    · obtain ⟨hkind, hstored⟩ := h.target target htarget
      exact ⟨hkind, h.contains hstored, h.rank_lt hstored⟩
    · obtain ⟨hkind, hstored, hlt⟩ := hordered.targets oid row target hold htarget
      have hoid : s.contains oid = true := by rw [ObjectStore.contains, hold]; rfl
      rw [h.rank_stored hstored, h.rank_stored hoid]
      exact ⟨hkind, h.contains hstored, hlt⟩

end Adds

/-! ## 2. Parents -/

theorem parents_of_noLinks {s : ObjectStore} {oid : Oid} (h : ∀ link ∈ s.links, link.commit ≠ oid) :
    s.parents oid = ((s.get? oid).bind (·.parent)).toList := by
  have hnone : s.links.filter (·.commit == oid) = [] := by
    rw [List.filter_eq_nil_iff]
    intro link hlink hcommit
    exact h link hlink (by simpa using hcommit)
  simp [parents, hnone]

/-- A list with one parent at most is its head. -/
theorem toList_head? {given : List Oid} (h : ¬ 1 < given.length) : given.head?.toList = given := by
  rw [← List.take_one]
  exact List.take_of_length_le (Nat.not_lt.mp h)

theorem parents_congr {s s' : ObjectStore} {oid : Oid}
    (hlinks : s'.links.filter (·.commit == oid) = s.links.filter (·.commit == oid))
    (hrow : s'.get? oid = s.get? oid) : s'.parents oid = s.parents oid := by
  unfold parents
  rw [hlinks, hrow]

/-- The links of a commit are in the order of its parents already. -/
theorem parents_of_linksFor {s : ObjectStore} {commit : Oid} {given : List Oid}
    (hlinks : s.links.filter (·.commit == commit) = linksFor commit given) (hne : given ≠ []) :
    s.parents commit = given := by
  have hsorted : (linksFor commit given).Pairwise fun a b => decide (a.position ≤ b.position) := by
    rw [linksFor, List.pairwise_map, List.pairwise_iff_getElem]
    intro i j hi hj hlt
    simp only [List.getElem_zipIdx, decide_eq_true_eq]
    omega
  have hparents : (linksFor commit given).map (·.parent) = given := by
    rw [linksFor, List.map_map]
    exact List.zipIdx_map_fst 0 given
  unfold parents
  dsimp only
  rw [hlinks, List.mergeSort_of_pairwise hsorted]
  cases hnil : linksFor commit given with
  | nil =>
    rw [hnil] at hparents
    exact absurd hparents.symm hne
  | cons link rest =>
    rw [hnil] at hparents
    exact hparents

theorem filter_linksFor (commit : Oid) (given : List Oid) :
    (linksFor commit given).filter (·.commit == commit) = linksFor commit given := by
  rw [List.filter_eq_self]
  intro link hlink
  simpa using (of_mem_linksFor hlink).1

theorem filter_linksFor_ne {commit oid : Oid} (h : oid ≠ commit) (given : List Oid) :
    (linksFor commit given).filter (·.commit == oid) = [] := by
  rw [List.filter_eq_nil_iff]
  intro link hlink hsame
  rw [(of_mem_linksFor hlink).1, beq_iff_eq] at hsame
  exact h hsame.symm

theorem mem_parents_of_link {s : ObjectStore} {link : ParentLink} (hlink : link ∈ s.links) :
    link.parent ∈ s.parents link.commit := by
  have hsorted : link ∈ (s.links.filter (·.commit == link.commit)).mergeSort
      fun a b => decide (a.position ≤ b.position) := by
    rw [List.mem_mergeSort, List.mem_filter]
    exact ⟨hlink, by simp⟩
  unfold parents
  dsimp only
  split
  · next hnil =>
    rw [hnil] at hsorted
    cases hsorted
  · next first rest hcons =>
    rw [hcons] at hsorted
    exact List.mem_map_of_mem hsorted

/-- More than one parent comes from links. -/
theorem exists_link {s : ObjectStore} {oid : Oid} (h : 1 < (s.parents oid).length) :
    ∃ link ∈ s.links, link.commit = oid ∧ link.parent ∈ s.parents oid := by
  by_cases hlinks : ∃ link ∈ s.links, link.commit = oid
  · obtain ⟨link, hlink, rfl⟩ := hlinks
    exact ⟨link, hlink, rfl, mem_parents_of_link hlink⟩
  · rw [parents_of_noLinks fun link hlink hcommit => hlinks ⟨link, hlink, hcommit⟩] at h
    cases hrow : (s.get? oid).bind (·.parent) <;> rw [hrow] at h <;> simp at h

/-! ## 3. Storing an object -/

variable {hashed : String → Prop} {s s' : ObjectStore}

/-- Commits have the parents that they were hashed with. -/
def ParentsHashed (hashed : String → Prop) (s : ObjectStore) : Prop :=
  ∀ oid, s.isCommit oid = true → ∃ message time,
    hashed (ObjectId.textOf .commit (ObjectId.commitPayload (s.parents oid) message time)) ∧
      oid = ObjectId.ofCommit (s.parents oid) message time

/-- What growing keeps true of a store. -/
structure Grown (hashed : String → Prop) (s : ObjectStore) : Prop where
  rows : s.WellFormed hashed
  parents : s.ParentsHashed hashed
  order : s.IsOrdered

theorem isOrdered_empty : empty.IsOrdered where
  parents oid parent hparent := by
    rw [parents_of_noLinks fun _ hlink => absurd hlink List.not_mem_nil] at hparent
    cases hparent
  targets oid o target hget := by cases hget

theorem grown_empty : Grown hashed empty where
  rows := wellFormed_empty
  parents oid hcommit := by cases hcommit
  order := isOrdered_empty

theorem ParentsHashed.adds {o : StoredObject} (h : s.ParentsHashed hashed) (hadds : s.Adds o s')
    (ho : o.kind = .commit → ∃ message time,
      hashed (ObjectId.textOf .commit
        (ObjectId.commitPayload (s'.parents o.oid) message time)) ∧
        o.oid = ObjectId.ofCommit (s'.parents o.oid) message time) : s'.ParentsHashed hashed := by
  intro oid hcommit
  obtain ⟨row, hget, hkind⟩ := isCommit_iff.mp hcommit
  rcases hadds.cases_get? hget with ⟨rfl, rfl⟩ | hold
  · exact ho hkind
  · have hstored : s.isCommit oid = true := isCommit_iff.mpr ⟨row, hold, hkind⟩
    rw [hadds.parents_stored (contains_of_isCommit hstored)]
    exact h oid hstored

/-- An id that is not stored has no links. -/
theorem WellFormed.link_ne (h : s.WellFormed hashed) {oid : Oid} (hnew : s.get? oid = none) :
    ∀ link ∈ s.links, link.commit ≠ oid := by
  rintro link hlink rfl
  have hstored := contains_of_isCommit (h.links link hlink)
  rw [ObjectStore.contains, hnew] at hstored
  cases hstored

/-- A row with a new id is one object more, if what it names is there. -/
theorem WellFormed.insert_adds (h : s.WellFormed hashed) {o : StoredObject}
    (hnew : s.get? o.oid = none)
    (hparent : ∀ parent, o.parent = some parent → o.kind = .commit ∧ s.isCommit parent = true)
    (htarget : ∀ target, o.target = some target → o.kind = .tag ∧ s.contains target = true) :
    s.Adds o (s.insert o) ∧ (s.insert o).parents o.oid = o.parent.toList := by
  have hown : (s.insert o).parents o.oid = o.parent.toList := by
    rw [parents_of_noLinks (links_insert s o ▸ h.link_ne hnew), get?_insert, hnew, if_pos rfl]
    rfl
  refine ⟨⟨hnew, ?_, ?_, ?_, htarget⟩, hown⟩
  · rw [ObjectStore.insert, dif_pos hnew]
  · intro oid hoid
    refine parents_congr (by rw [links_insert]) ?_
    rw [get?_insert, if_neg (Ne.symm hoid), Option.or_none]
  · intro parent hmem
    rw [hown, Option.mem_toList] at hmem
    exact hparent parent hmem

/-- The same with the list of the parents of a merge. -/
theorem WellFormed.link_adds (h : s.WellFormed hashed) {o : StoredObject}
    (hnew : s.get? o.oid = none) (hkind : o.kind = .commit) (htarget : o.target = none)
    {given : List Oid} (hne : given ≠ [])
    (hgiven : ∀ parent ∈ given, s.isCommit parent = true) :
    s.Adds o ((s.insert o).link o.oid given) ∧
      ((s.insert o).link o.oid given).parents o.oid = given := by
  have hlinks : ∀ oid, ((s.insert o).link o.oid given).links.filter (·.commit == oid) =
      s.links.filter (·.commit == oid) ++
        (linksFor o.oid given).filter (·.commit == oid) := by
    intro oid
    rw [ObjectStore.link, links_insert, List.filter_append]
  have hown : ((s.insert o).link o.oid given).parents o.oid = given := by
    refine parents_of_linksFor ?_ hne
    have hnone : s.links.filter (·.commit == o.oid) = [] := by
      rw [List.filter_eq_nil_iff]
      intro link hlink hsame
      exact h.link_ne hnew link hlink (by simpa using hsame)
    rw [hlinks, hnone, List.nil_append, filter_linksFor]
  refine ⟨⟨hnew, ?_, ?_, ?_, ?_⟩, hown⟩
  · show (s.insert o).objects = _
    rw [ObjectStore.insert, dif_pos hnew]
  · intro oid hoid
    refine parents_congr ?_ ?_
    · rw [hlinks, filter_linksFor_ne hoid, List.append_nil]
    · show (s.insert o).get? oid = _
      rw [get?_insert, if_neg (Ne.symm hoid), Option.or_none]
  · intro parent hmem
    rw [hown] at hmem
    exact ⟨hkind, hgiven parent hmem⟩
  · intro target hsome
    rw [htarget] at hsome
    cases hsome

/-- **A merge is stored under a new id only.** Under a taken one its links are there already. -/
theorem Grown.isNew_of_admitsLinks (h : s.Grown hashed)
    (hdistinct : ∀ a b, hashed a → hashed b → Sha256.hexOfText a = Sha256.hexOfText b → a = b)
    {parents : List Oid} {message : String} {now : Instant} (hmerge : 1 < parents.length)
    (hparents : ∀ parent ∈ parents, s.contains parent = true)
    (hhashed : hashed (ObjectId.textOf .commit
      (ObjectId.commitPayload parents message now.toIsoUtc)))
    (hadmits : (s.insert (.ofCommit parents message now)).admitsLinks
      (ObjectId.ofCommit parents message now.toIsoUtc) parents = true) :
    s.get? (ObjectId.ofCommit parents message now.toIsoUtc) = none := by
  cases hold : s.get? (ObjectId.ofCommit parents message now.toIsoUtc) with
  | none => rfl
  | some old =>
    have hrow := rowHolds_ofCommit hhashed
    have hsame : s.insert (.ofCommit parents message now) = s := by
      rw [ObjectStore.insert, dif_neg]
      intro hnone
      rw [StoredObject.ofCommit, hold] at hnone
      cases hnone
    have hcommit : s.isCommit (ObjectId.ofCommit parents message now.toIsoUtc) = true :=
      hsame ▸ h.rows.isCommit_insert_self hdistinct hrow rfl
    -- The stored commit has the parents that this one has.
    obtain ⟨message', time, hhashed', hoid⟩ := h.parents _ hcommit
    have htexts := hdistinct _ _ hhashed hhashed' hoid
    obtain ⟨hown, _, _⟩ := ObjectId.commitPayload_eq_of_textOf_eq htexts
    rw [hown] at hmerge
    obtain ⟨link, hlink, hlinked, hparent⟩ := exists_link hmerge
    rw [← hown] at hparent
    have hunlinked := ((admitsLinks_insert_iff (o := .ofCommit parents message now)
      hparents).mp hadmits).2
    exact absurd hparent (hunlinked link hlink hlinked)

/-- A store is another one, or has one object more. -/
def SameOrAdds (s s' : ObjectStore) : Prop := s' = s ∨ ∃ o, s.Adds o s'

/-- A blob or a tag is stored, or its id is taken. -/
theorem Grown.insert (h : s.Grown hashed) {o : StoredObject} (ho : s.Accepts hashed o) :
    s.SameOrAdds (s.insert o) ∧ (s.insert o).Grown hashed := by
  by_cases hnew : s.get? o.oid = none
  · have hnone : ∀ parent, o.parent = some parent → o.kind = .commit ∧ s.isCommit parent = true := by
      intro parent hsome
      rw [ho.parent] at hsome
      cases hsome
    obtain ⟨hadds, _⟩ := h.rows.insert_adds hnew hnone ho.target
    refine ⟨Or.inr ⟨o, hadds⟩, h.rows.insert ho.row, ?_, hadds.isOrdered h.order⟩
    exact h.parents.adds hadds fun hcommit => absurd hcommit ho.kind
  · have hsame : s.insert o = s := by rw [ObjectStore.insert, dif_neg hnew]
    rw [hsame]
    exact ⟨Or.inl rfl, h⟩

/-- A commit that is made is stored with its parents, or its id is taken. -/
theorem Grown.withCommit? {t t' : Tables} (h : t.objects.Grown hashed)
    (hdistinct : ∀ a b, hashed a → hashed b → Sha256.hexOfText a = Sha256.hexOfText b → a = b)
    {parents : List Oid} {message : String} {now : Instant}
    (hhashed : hashed (ObjectId.textOf .commit
      (ObjectId.commitPayload parents message now.toIsoUtc)))
    (hparents : ∀ parent ∈ parents, t.objects.isCommit parent = true)
    (hsave : t.withCommit? parents message now = some t') :
    t.objects.SameOrAdds t'.objects ∧ t'.objects.Grown hashed := by
  let o := StoredObject.ofCommit parents message now
  have hrows := (Tables.withCommit?_objects h.rows hdistinct hhashed hsave).1
  have hgrown : t.objects.Adds o t'.objects → t'.objects.parents o.oid = parents →
      t.objects.SameOrAdds t'.objects ∧ t'.objects.Grown hashed := by
    intro hadds hown
    refine ⟨Or.inr ⟨o, hadds⟩, hrows, ?_, hadds.isOrdered h.order⟩
    refine h.parents.adds hadds fun _ => ⟨message, now.toIsoUtc, ?_⟩
    rw [hown]
    exact ⟨hhashed, rfl⟩
  have htarget : ∀ target, o.target = some target →
      o.kind = .tag ∧ t.objects.contains target = true := by
    intro target hsome
    cases hsome
  rcases Tables.eq_of_withCommit? hsave with ⟨hsingle, rfl⟩ | ⟨hmerge, rfl⟩
  · by_cases hnew : t.objects.get? o.oid = none
    · obtain ⟨hadds, hown⟩ := h.rows.insert_adds (o := o) hnew
        (fun parent hsome => ⟨rfl, hparents parent (List.mem_of_head? hsome)⟩) htarget
      exact hgrown hadds (hown.trans (toList_head? hsingle))
    · have hsame : t.objects.insert o = t.objects := by rw [ObjectStore.insert, dif_neg hnew]
      show t.objects.SameOrAdds (t.objects.insert o) ∧ (t.objects.insert o).Grown hashed
      rw [hsame]
      exact ⟨Or.inl rfl, h⟩
  · have hadmits : (t.objects.insert o).admitsLinks o.oid parents = true := by
      rw [Tables.withCommit?, if_pos hmerge] at hsave
      split at hsave
      · next hadmits => exact hadmits
      · cases hsave
    have hnew := h.isNew_of_admitsLinks hdistinct hmerge
      (fun parent hmem => contains_of_isCommit (hparents parent hmem)) hhashed hadmits
    have hne : parents ≠ [] := by
      rintro rfl
      cases hmerge
    obtain ⟨hadds, hown⟩ := h.rows.link_adds (o := o) hnew rfl rfl hne hparents
    exact hgrown hadds hown

end ObjectStore

theorem ObjectStore.SameOrAdds.contains {s s' : ObjectStore} (h : s.SameOrAdds s') {oid : Oid}
    (hstored : s.contains oid = true) : s'.contains oid = true := by
  rcases h with rfl | ⟨o, hadds⟩
  · exact hstored
  · exact hadds.contains hstored

theorem ObjectStore.SameOrAdds.objects_prefix {s s' : ObjectStore} (h : s.SameOrAdds s') :
    s.objects <+: s'.objects := by
  rcases h with rfl | ⟨o, hadds⟩
  · exact List.prefix_rfl
  · rw [hadds.objects]
    exact List.prefix_append _ _

/-! ## 4. References to stored objects -/

/-- Every reference points directly at a stored object, but the head may be attached to a branch,
whether the branch exists or not. -/
def RefTable.OnStored (refs : RefTable) (s : ObjectStore) : Prop :=
  ∀ name p, refs.get? name = some p → (∃ oid, p = .direct oid ∧ s.contains oid = true) ∨
    name = RefName.head ∧ ∃ branch, p = .toName (RefName.ofBranch branch)

namespace RefTable.OnStored

variable {refs refs' : RefTable} {s s' : ObjectStore}

theorem empty : RefTable.OnStored NameMap.empty s := by
  intro name p hget
  cases hget

theorem mono (h : refs.OnStored s) (hstored : ∀ oid, s.contains oid = true → s'.contains oid = true) :
    refs.OnStored s' := by
  intro name p hget
  rcases h name p hget with ⟨oid, hp, hoid⟩ | hattached
  · exact Or.inl ⟨oid, hp, hstored oid hoid⟩
  · exact Or.inr hattached

theorem of_le (h : refs.OnStored s)
    (hle : ∀ name p, refs'.get? name = some p → refs.get? name = some p) : refs'.OnStored s :=
  fun name p hget => h name p (hle name p hget)

theorem insert_direct (h : refs.OnStored s) (name : RefName) {oid : Oid}
    (hoid : s.contains oid = true) : RefTable.OnStored (refs.insert name (.direct oid)) s := by
  intro other p hget
  rw [NameMap.get?_insert] at hget
  split at hget
  · cases hget
    exact Or.inl ⟨oid, rfl, hoid⟩
  · exact h other p hget

theorem attach (h : refs.OnStored s) (branch : String) :
    RefTable.OnStored (refs.insert RefName.head (.toName (RefName.ofBranch branch))) s := by
  intro name p hget
  rw [NameMap.get?_insert] at hget
  split at hget
  · next hname =>
    cases hget
    exact Or.inr ⟨hname, branch, rfl⟩
  · exact h name p hget

theorem branchTip (h : refs.OnStored s) {branch : String} {oid : Oid}
    (htip : EventLog.branchTip? refs branch = some oid) : s.contains oid = true := by
  obtain ⟨p, hget, htarget⟩ := Option.bind_eq_some_iff.mp htip
  rcases h _ p hget with ⟨found, rfl, hfound⟩ | ⟨_, _, rfl⟩
  · cases htarget
    exact hfound
  · cases htarget

/-- What a head stands for is the object at its end, and that object is stored. -/
theorem headOf_eq_some_iff (h : refs.OnStored s) {oid : Oid} :
    RefStore.headOf refs = some oid ↔
      ∃ p, refs.get? RefName.head = some p ∧ refs.resolve (p.named RefName.head) = .ok oid := by
  cases hget : refs.get? RefName.head with
  | none => simp [RefStore.headOf, hget]
  | some p =>
    simp only [Option.some.injEq, exists_eq_left']
    rcases h _ p hget with ⟨found, rfl, _⟩ | ⟨_, branch, rfl⟩
    · rw [RefStore.headOf, hget]
      show some found = some oid ↔ Except.ok found = Except.ok oid
      simp
    · rw [RefStore.headOf_attached hget, EventLog.branchTip?]
      have hnot : RefName.ofBranch branch ∉ [RefName.head] := by
        intro hmem
        exact RefName.head_ne_ofBranch branch (List.mem_singleton.mp hmem).symm
      show _ ↔ RefTable.follow refs 5 [RefName.head] (.toName (RefName.ofBranch branch)) = _
      rw [RefTable.follow]
      dsimp only [Pointer.toName]
      cases hbranch : refs.get? (RefName.ofBranch branch) with
      | none => simp
      | some q =>
        dsimp only
        rw [if_neg hnot]
        rcases h _ q hbranch with ⟨found, rfl, _⟩ | ⟨hhead, _⟩
        · show some found = some oid ↔ Except.ok found = Except.ok oid
          simp
        · exact absurd hhead.symm (RefName.head_ne_ofBranch branch)

theorem headOf (h : refs.OnStored s) {oid : Oid} (hhead : RefStore.headOf refs = some oid) :
    s.contains oid = true := by
  cases hget : refs.get? RefName.head with
  | none =>
    rw [RefStore.headOf, hget] at hhead
    cases hhead
  | some p =>
    rcases h _ p hget with ⟨found, rfl, hfound⟩ | ⟨_, branch, rfl⟩
    · rw [RefStore.headOf, hget] at hhead
      cases hhead
      exact hfound
    · rw [RefStore.headOf_attached hget] at hhead
      exact h.branchTip hhead

end RefTable.OnStored

/-! ## 5. Calls -/

/-- What calls keep true of the objects and references. -/
structure Tables.Grown (hashed : String → Prop) (t : Tables) : Prop where
  objects : t.objects.Grown hashed
  refs : RefTable.OnStored t.refs t.objects

namespace Tables.Grown

variable {hashed : String → Prop} {t t' : Tables}

theorem empty : Tables.Grown hashed .empty where
  objects := ObjectStore.grown_empty
  refs := RefTable.OnStored.empty

/-- References may change, as long as they stay on stored objects. -/
theorem of_refs (h : t.Grown hashed) (hobjects : t'.objects = t.objects)
    (hrefs : RefTable.OnStored t'.refs t.objects) : t'.Grown hashed where
  objects := hobjects ▸ h.objects
  refs := hobjects ▸ hrefs

theorem writeDirect (h : t.Grown hashed) (name : RefName) {oid : Oid}
    (hoid : t.objects.contains oid = true) (message : Option String) (now : Instant) :
    (t.writeDirect name oid message now).Grown hashed :=
  h.of_refs rfl (h.refs.insert_direct name hoid)

theorem attach (h : t.Grown hashed) (branch : String) :
    (t.writeSymbolic RefName.head (RefName.ofBranch branch)).Grown hashed :=
  h.of_refs rfl (h.refs.attach branch)

theorem moveHead (h : t.Grown hashed) (defaultBranch : String) {oid : Oid}
    (hoid : t.objects.contains oid = true) (message : String) (now : Instant) :
    (RefStore.moveHead t defaultBranch oid message now).Grown hashed := by
  unfold RefStore.moveHead
  cases t.refs.get? RefName.head with
  | some p => exact h.writeDirect _ hoid _ now
  | none => exact (h.attach defaultBranch).writeDirect _ hoid _ now

theorem logged (h : t.Grown hashed) (message : String) (now : Instant)
    (events : List (EventKind × EventSubject)) : (t.logged message now events).Grown hashed := by
  obtain ⟨hrefs, hobjects⟩ := t.logged_frame message now events
  exact h.of_refs hobjects (hrefs.symm ▸ h.refs)

theorem removeRef (h : t.Grown hashed) (name : RefName) (message : Option String) (now : Instant) :
    (t.removeRef name message now).Grown hashed := by
  exact h.of_refs (t.removeRef_frame name message now).1
    (h.refs.of_le fun _ _ => Tables.removeRef_le)

theorem removeRefs (h : t.Grown hashed) (names : List RefName) (now : Instant) :
    (t.removeRefs names now).Grown hashed :=
  h.of_refs (t.removeRefs_frame names now).1 (h.refs.of_le fun _ _ => Tables.removeRefs_le)

variable {config : Config} {allowed : Tables → Call → Prop}

theorem pinnedIfPossible (h : t.Grown hashed) (oid : Oid) (now : Instant) :
    (pinnedIfPossible config t oid now).Grown hashed := by
  unfold Repository.pinnedIfPossible
  split
  · next hpin => exact h.writeDirect _ hpin.2.2 _ now
  · exact h

theorem contains_branchStart (h : t.Grown hashed) {source : Option Oid} {oid : Oid}
    (hstart : branchStart t source = .ok oid) : t.objects.contains oid = true := by
  rcases branchStart_cases hstart with ⟨_, hstored⟩ | ⟨_, hhead⟩
  · exact hstored
  · exact h.refs.headOf hhead

/-- **What a call does to objects and references.** It stores at most one object, behind all others,
and references stay on stored objects. -/
theorem of_effect (heffect : EffectUnder config hashed allowed t t')
    (hdistinct : ∀ a b, hashed a → hashed b → Sha256.hexOfText a = Sha256.hexOfText b → a = b)
    (h : t.Grown hashed) : t.objects.SameOrAdds t'.objects ∧ t'.Grown hashed := by
  have hgrows : t.objects.SameOrAdds t'.objects ∧ t'.objects.Grown hashed := by
    rcases heffect.objects_cases with hsame | ⟨o, ho, hinsert⟩ |
      ⟨parents, message, now, saved, hhashed, hparents, hsave, hsaved⟩
    · rw [hsame]
      exact ⟨Or.inl rfl, h.objects⟩
    · rw [hinsert]
      exact h.objects.insert ho
    · rw [hsaved]
      exact h.objects.withCommit? hdistinct hhashed hparents hsave
  refine ⟨hgrows.1, hgrows.2, ?_⟩
  cases heffect with
  | blob => exact h.refs.mono fun _ => hgrows.1.contains
  | tag => exact h.refs.mono fun _ => hgrows.1.contains
  | tagReference name oid message now _ hstored => exact (h.writeDirect _ hstored _ now).refs
  | @commit saved parents message now oid hoid hhashed hparents hsave =>
    have hsaved : saved.Grown hashed := by
      obtain ⟨hmore, hobjects⟩ := h.objects.withCommit? hdistinct hhashed hparents hsave
      refine ⟨hobjects, ?_⟩
      rw [(Tables.withCommit?_objects h.objects.rows hdistinct hhashed hsave).2.2.2.1]
      exact h.refs.mono fun _ => hmore.contains
    have hstored : saved.objects.contains oid = true :=
      hoid ▸ Tables.contains_of_withCommit? hsave
    have hmoved : (moved config saved oid message now).Grown hashed :=
      (hsaved.moveHead config.mainBranch hstored _ now).logged _ now _
    exact (hmoved.pinnedIfPossible oid now).refs
  | branch name source oid attaches now _ _ hstart _ =>
    have hwritten := h.writeDirect (RefName.ofBranch name) (h.contains_branchStart hstart)
      (some ("branch: created from " ++ oid)) now
    cases attaches with
    | false => exact hwritten.refs
    | true => exact (hwritten.attach name).refs
  | unbranch name oid now _ _ =>
    exact ((h.removeRef (RefName.ofBranch name) _ now).logged _ now _).refs
  | attach branch oid _ => exact (h.attach branch).refs
  | detach oid message now hcommit =>
    exact (h.writeDirect _ (ObjectStore.contains_of_isCommit hcommit) message now).refs
  | hide => exact (h.logged _ _ _).refs
  | unhide oid now _ => exact ((h.logged _ now _).pinnedIfPossible oid now).refs
  | replace _ new now _ _ => exact ((h.logged _ now _).pinnedIfPossible new now).refs
  | pin oid now hpin _ => exact (h.writeDirect _ hpin.2.2 _ now).refs
  | ask r _ => exact h.refs
  | sweep r now _ =>
    let answer := EventLog.computeVisible t (EventLog.rootsOf t config.mainBranch r.active)
    have hasked : answer.2.Grown hashed := h.of_refs rfl h.refs
    exact (hasked.removeRefs _ now).refs

end Tables.Grown

/-! ## 6. Histories -/

namespace Repository

/-- **The store of a history is grown**, in the committed tables and in those of the open
transaction, and what was committed earlier is a beginning of it. -/
theorem run_grown (config : Config) (history : List (Instant × Call)) (durable : Bool)
    (start : Instant)
    (hdistinct : ∀ a ∈ hashedTexts config history (Session.start .empty durable start),
      ∀ b ∈ hashedTexts config history (Session.start .empty durable start),
        Sha256.hexOfText a = Sha256.hexOfText b → a = b) :
    let first := Session.start .empty durable start
    let s := (run config history first).2
    let hashed := fun text => text ∈ hashedTexts config history first
    ∀ t, t = s.committed ∨ t = s.working → t.Grown hashed ∧
      ∀ earlier later, history = earlier ++ later →
        (run config earlier first).2.committed.objects.objects <+: t.objects.objects := by
  intro first s hashed t ht
  have hdistinct' : ∀ a b, hashed a → hashed b →
      Sha256.hexOfText a = Sha256.hexOfText b → a = b := fun a b ha hb => hdistinct a ha b hb
  have hempty : Tables.empty.Grown hashed := .empty
  have heffect : ∀ t t', Effect config hashed t t' → t.Grown hashed →
      t'.Grown hashed ∧ t.objects.objects <+: t'.objects.objects := by
    intro t t' heffect hgrown
    obtain ⟨hmore, hgrown'⟩ := hgrown.of_effect heffect hdistinct'
    exact ⟨hgrown', hmore.objects_prefix⟩
  have hparts : ∀ earlier later, history = earlier ++ later →
      (s.committed.Grown hashed ∧ s.working.Grown hashed) ∧
        (run config earlier first).2.committed.objects.objects <+: s.committed.objects.objects ∧
        s.committed.objects.objects <+: s.working.objects.objects := by
    rintro earlier later rfl
    exact run_carries (fun t t' => t.objects.objects <+: t'.objects.objects)
      (fun _ => List.prefix_rfl) (fun _ _ _ => List.IsPrefix.trans) earlier later rfl heffect
      ⟨hempty, hempty⟩ List.prefix_rfl
  obtain ⟨⟨hcommitted, hworking⟩, _, hopen⟩ := hparts [] history rfl
  rcases ht with rfl | rfl
  · exact ⟨hcommitted, fun earlier later h => (hparts earlier later h).2.1⟩
  · exact ⟨hworking, fun earlier later h => (hparts earlier later h).2.1.trans hopen⟩

end Repository
end CommitStore
