import CommitStore.Proofs.Calls
set_option autoImplicit false

/-!
# Rows that calls leave in the store

Every object that a call stores has the digest of a hashed text as its id, and the text names the
kind of the object. Where hashed texts that differ have different digests, storing a commit under an
id that is taken therefore finds a commit there, the one that was stored before. Only commits have
parents, in their own rows or in links.
-/

namespace CommitStore
namespace ObjectStore

/-- What is true of the row of an object. -/
structure RowHolds (hashed : String → Prop) (o : StoredObject) : Prop where
  hasDigest : ∃ payload, hashed (ObjectId.textOf o.kind payload) ∧
    o.oid = Sha256.hexOfText (ObjectId.textOf o.kind payload)
  ofCommit : o.parent ≠ none → o.kind = .commit

/-- What calls keep true of the stored objects and links. -/
structure WellFormed (hashed : String → Prop) (s : ObjectStore) : Prop where
  rows : ∀ oid o, s.get? oid = some o → RowHolds hashed o
  links : ∀ link ∈ s.links, s.isCommit link.commit = true

variable {hashed : String → Prop} {s : ObjectStore}

theorem wellFormed_empty : WellFormed hashed empty where
  rows oid o hget := by cases hget
  links link hmem := absurd hmem List.not_mem_nil

theorem isCommit_insert {o : StoredObject} {oid : Oid} (h : s.isCommit oid = true) :
    (s.insert o).isCommit oid = true := by
  obtain ⟨old, hget, hkind⟩ := isCommit_iff.mp h
  refine isCommit_iff.mpr ⟨old, ?_, hkind⟩
  rw [get?_insert, hget]
  rfl

theorem isCommit_insert_new {o : StoredObject} (hnew : s.get? o.oid = none)
    (hkind : o.kind = .commit) : (s.insert o).isCommit o.oid = true := by
  refine isCommit_iff.mpr ⟨o, ?_, hkind⟩
  rw [get?_insert, hnew, if_pos rfl]
  rfl

theorem links_insert (s : ObjectStore) (o : StoredObject) : (s.insert o).links = s.links := by
  unfold insert
  split <;> rfl

theorem of_mem_linksFor {commit : Oid} {parents : List Oid} {link : ParentLink}
    (h : link ∈ linksFor commit parents) : link.commit = commit ∧ link.parent ∈ parents := by
  obtain ⟨⟨parent, position⟩, hmem, rfl⟩ := List.mem_map.mp h
  exact ⟨rfl, List.mem_of_getElem? (List.mem_zipIdx_iff_getElem?.mp hmem)⟩

/-- A parent comes from the row of the object, or from a link. -/
theorem mem_parents {oid parent : Oid} (h : parent ∈ s.parents oid) :
    (∃ o, s.get? oid = some o ∧ o.parent = some parent) ∨
      ∃ link ∈ s.links, link.commit = oid ∧ link.parent = parent := by
  unfold parents at h
  dsimp only at h
  split at h
  · exact Or.inl (Option.bind_eq_some_iff.mp (Option.mem_toList.mp h))
  · next first rest hsorted =>
    have hperm := List.mergeSort_perm (s.links.filter (·.commit == oid))
      fun a b => decide (a.position ≤ b.position)
    rw [hsorted] at hperm
    obtain ⟨link, hlink, hparent⟩ := List.mem_map.mp h
    obtain ⟨hmem, hcommit⟩ := List.mem_filter.mp (hperm.mem_iff.mp hlink)
    exact Or.inr ⟨link, hmem, eq_of_beq hcommit, hparent⟩

/-- A row of the larger store was there before, or it is the new one. -/
theorem get?_insert_cases {o row : StoredObject} {oid : Oid}
    (h : (s.insert o).get? oid = some row) : s.get? oid = some row ∨ row = o := by
  rw [get?_insert] at h
  cases hold : s.get? oid with
  | some old =>
    rw [hold] at h
    exact Or.inl h
  | none =>
    rw [hold, Option.none_or] at h
    split at h
    · cases h
      exact Or.inr rfl
    · cases h

theorem WellFormed.insert (h : s.WellFormed hashed) {o : StoredObject} (ho : RowHolds hashed o) :
    (s.insert o).WellFormed hashed where
  rows oid row hget := by
    rcases get?_insert_cases hget with hold | rfl
    · exact h.rows oid row hold
    · exact ho
  links link hmem := by
    rw [links_insert] at hmem
    exact isCommit_insert (h.links link hmem)

theorem WellFormed.link (h : s.WellFormed hashed) {commit : Oid}
    (hcommit : s.isCommit commit = true) (parents : List Oid) :
    (s.link commit parents).WellFormed hashed where
  rows := h.rows
  links link hmem := by
    rcases List.mem_append.mp hmem with hold | hnew
    · exact h.links link hold
    · rw [(of_mem_linksFor hnew).1]
      exact hcommit

/-- The id of a commit that is stored under its digest can be part of a name. -/
theorem isHex_of_rows (h : ∀ oid o, s.get? oid = some o → RowHolds hashed o) {oid : Oid}
    (hcommit : s.isCommit oid = true) : Reserved.IsHex oid := by
  obtain ⟨o, hget, _⟩ := isCommit_iff.mp hcommit
  obtain ⟨payload, _, hdigest⟩ := (h oid o hget).hasDigest
  rw [get?_oid hget] at hdigest
  rw [hdigest]
  exact Sha256.isHex_hexOfText _

theorem WellFormed.isHex (h : s.WellFormed hashed) {oid : Oid} (hcommit : s.isCommit oid = true) :
    Reserved.IsHex oid := isHex_of_rows h.rows hcommit

/-- **Where a commit is stored, a commit is found.** The id may be taken, but then by a row whose
hashed text is the same, and so is its kind. -/
theorem WellFormed.isCommit_insert_self (h : s.WellFormed hashed)
    (hdistinct : ∀ a b, hashed a → hashed b → Sha256.hexOfText a = Sha256.hexOfText b → a = b)
    {o : StoredObject} (ho : RowHolds hashed o) (hkind : o.kind = .commit) :
    (s.insert o).isCommit o.oid = true := by
  cases hold : s.get? o.oid with
  | none => exact isCommit_insert_new hold hkind
  | some old =>
    refine isCommit_insert (isCommit_iff.mpr ⟨old, hold, ?_⟩)
    obtain ⟨payload, hhashed, hdigest⟩ := ho.hasDigest
    obtain ⟨payload', hhashed', hdigest'⟩ := (h.rows o.oid old hold).hasDigest
    rw [get?_oid hold, hdigest] at hdigest'
    have htexts := hdistinct _ _ hhashed hhashed' hdigest'
    rw [← ObjectId.kind_eq_of_textOf_eq htexts, hkind]

/-- Only commits have parents. -/
theorem WellFormed.isCommit_of_mem_parents (h : s.WellFormed hashed) {oid parent : Oid}
    (hparent : parent ∈ s.parents oid) : s.isCommit oid = true := by
  rcases mem_parents hparent with ⟨o, hget, hrow⟩ | ⟨link, hlink, hcommit, _⟩
  · refine isCommit_iff.mpr ⟨o, hget, (h.rows oid o hget).ofCommit ?_⟩
    rw [hrow]
    exact Option.some_ne_none parent
  · rw [← hcommit]
    exact h.links link hlink

end ObjectStore

/-! ## 2. The rows of each kind -/

section

variable {hashed : String → Prop}

theorem ObjectStore.rowHolds_ofBlob {data : String} {now : Instant}
    (h : hashed (ObjectId.textOf .blob (ObjectId.blobPayload data))) :
    ObjectStore.RowHolds hashed (.ofBlob data now) where
  hasDigest := ⟨_, h, rfl⟩
  ofCommit hparent := absurd rfl hparent

theorem ObjectStore.rowHolds_ofTag {name : String} {target : Oid} {message : Option String}
    {now : Instant} (h : hashed (ObjectId.textOf .tag (ObjectId.tagPayload name target message))) :
    ObjectStore.RowHolds hashed (.ofTag name target message now) where
  hasDigest := ⟨_, h, rfl⟩
  ofCommit hparent := absurd rfl hparent

theorem ObjectStore.rowHolds_ofCommit {parents : List Oid} {message : String} {now : Instant}
    (h : hashed (ObjectId.textOf .commit
      (ObjectId.commitPayload parents message now.toIsoUtc))) :
    ObjectStore.RowHolds hashed (.ofCommit parents message now) where
  hasDigest := ⟨_, h, rfl⟩
  ofCommit _ := rfl

/-- A commit that is made is stored as one, with its parents. -/
theorem Tables.withCommit?_objects {t t' : Tables}
    (hstore : t.objects.WellFormed hashed)
    (hdistinct : ∀ a b, hashed a → hashed b → Sha256.hexOfText a = Sha256.hexOfText b → a = b)
    {parents : List Oid} {message : String} {now : Instant}
    (hhashed : hashed (ObjectId.textOf .commit
      (ObjectId.commitPayload parents message now.toIsoUtc)))
    (h : t.withCommit? parents message now = some t') :
    t'.objects.WellFormed hashed ∧
      t'.objects.isCommit (ObjectId.ofCommit parents message now.toIsoUtc) = true ∧
      (∀ oid, t.objects.isCommit oid = true → t'.objects.isCommit oid = true) ∧
      t'.refs = t.refs ∧ t'.events = t.events := by
  have hrow := ObjectStore.rowHolds_ofCommit hhashed
  have hinserted := hstore.insert hrow
  have hcommit := hstore.isCommit_insert_self hdistinct hrow rfl
  rcases eq_of_withCommit? h with ⟨_, rfl⟩ | ⟨_, rfl⟩
  · exact ⟨hinserted, hcommit, fun _ => ObjectStore.isCommit_insert, rfl, rfl⟩
  · exact ⟨hinserted.link hcommit parents, hcommit, fun _ => ObjectStore.isCommit_insert, rfl, rfl⟩

end

end CommitStore
