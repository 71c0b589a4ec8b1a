import CommitStore.Text.Order
set_option autoImplicit false

/-!
# Maps from names to values

A `NameMap` keeps its entries in the order of their names, by code point, and each name once. Both
facts are part of the type, so a listing is in order without being sorted, and an entry is in the
listing exactly when its name is mapped to its value (`mem_entries_iff`).
-/

namespace CommitStore

/-- A finite map from names to values. -/
structure NameMap (α : Type) where
  /-- The entries, in strictly increasing order of their names. -/
  entries : List (String × α)
  sorted : entries.Pairwise fun a b => Text.before a.1 b.1 = true

namespace NameMap

variable {α : Type}

/-! ## 1. Operations -/

/-- The map without entries. -/
def empty : NameMap α := ⟨[], List.Pairwise.nil⟩

instance : Inhabited (NameMap α) := ⟨empty⟩

/-- The value of a name among some entries. -/
def lookupEntry (name : String) : List (String × α) → Option α
  | [] => none
  | (other, value) :: rest => if other = name then some value else lookupEntry name rest

/-- The value of a name. -/
def get? (m : NameMap α) (name : String) : Option α := lookupEntry name m.entries

/-- Whether a name has a value. -/
def contains (m : NameMap α) (name : String) : Bool := (m.get? name).isSome

/-- The names, in order. -/
def names (m : NameMap α) : List String := m.entries.map (·.1)

/-- The entries with one of them set, its place found by comparing names. -/
def insertEntry (name : String) (value : α) : List (String × α) → List (String × α)
  | [] => [(name, value)]
  | (other, old) :: rest =>
    if Text.before name other then (name, value) :: (other, old) :: rest
    else if name = other then (name, value) :: rest
    else (other, old) :: insertEntry name value rest

/-! ## 2. The order is kept -/

theorem mem_insertEntry {name : String} {value : α} {entries : List (String × α)}
    {entry : String × α} (h : entry ∈ insertEntry name value entries) :
    entry = (name, value) ∨ entry ∈ entries := by
  induction entries with
  | nil => simpa [insertEntry] using h
  | cons first rest ih =>
    obtain ⟨other, old⟩ := first
    unfold insertEntry at h
    split at h
    · simpa using h
    · split at h
      · rcases List.mem_cons.1 h with h | h
        · exact Or.inl h
        · exact Or.inr (List.mem_cons_of_mem _ h)
      · rcases List.mem_cons.1 h with h | h
        · exact Or.inr (h ▸ List.mem_cons_self)
        · exact (ih h).imp_right (List.mem_cons_of_mem _)

theorem sorted_insertEntry {name : String} {value : α} {entries : List (String × α)}
    (h : entries.Pairwise fun a b => Text.before a.1 b.1 = true) :
    (insertEntry name value entries).Pairwise fun a b => Text.before a.1 b.1 = true := by
  induction entries with
  | nil => simp [insertEntry]
  | cons first rest ih =>
    obtain ⟨other, old⟩ := first
    obtain ⟨hfirst, hrest⟩ := List.pairwise_cons.1 h
    unfold insertEntry
    split
    · next hlt =>
      refine List.pairwise_cons.2 ⟨fun entry hentry => ?_, h⟩
      rcases List.mem_cons.1 hentry with rfl | hentry
      · exact hlt
      · exact Text.before_trans hlt (hfirst entry hentry)
    · next hlt =>
      split
      · next heq =>
        exact List.pairwise_cons.2 ⟨fun entry hentry => heq ▸ hfirst entry hentry, hrest⟩
      · next hne =>
        refine List.pairwise_cons.2 ⟨fun entry hentry => ?_, ih hrest⟩
        rcases mem_insertEntry hentry with rfl | hentry
        · cases hother : Text.before other name with
          | true => rfl
          | false => exact absurd (Text.eq_of_not_before (Bool.eq_false_iff.2 hlt) hother) hne
        · exact hfirst entry hentry

/-- The map with the value of one name set. -/
def insert (m : NameMap α) (name : String) (value : α) : NameMap α :=
  ⟨insertEntry name value m.entries, sorted_insertEntry m.sorted⟩

/-- The map without a name. -/
def erase (m : NameMap α) (name : String) : NameMap α :=
  ⟨m.entries.filter fun entry => entry.1 != name, m.sorted.filter _⟩

/-! ## 3. What a name is mapped to -/

theorem get?_empty (name : String) : (empty : NameMap α).get? name = none := rfl

theorem lookupEntry_insertEntry (name : String) (value : α) (entries : List (String × α))
    (other : String) :
    lookupEntry other (insertEntry name value entries) =
      if other = name then some value else lookupEntry other entries := by
  induction entries with
  | nil => simp [insertEntry, lookupEntry, eq_comm]
  | cons first rest ih =>
    obtain ⟨key, old⟩ := first
    unfold insertEntry
    split
    · simp [lookupEntry, eq_comm (a := name)]
    · split
      · next heq =>
        subst heq
        by_cases h : other = name
        · simp [lookupEntry, h]
        · simp [lookupEntry, h, eq_comm (a := name)]
      · next hne =>
        by_cases h : key = other
        · subst h
          simp [lookupEntry, Ne.symm hne]
        · simp [lookupEntry, h, ih]

theorem get?_insert (m : NameMap α) (name : String) (value : α) (other : String) :
    (m.insert name value).get? other = if other = name then some value else m.get? other :=
  lookupEntry_insertEntry name value m.entries other

theorem lookupEntry_filter (name : String) (entries : List (String × α)) (other : String) :
    lookupEntry other (entries.filter fun entry => entry.1 != name) =
      if other = name then none else lookupEntry other entries := by
  induction entries with
  | nil => simp [lookupEntry]
  | cons first rest ih =>
    obtain ⟨key, old⟩ := first
    by_cases hkey : key = name
    · rw [List.filter_cons_of_neg (by simp [hkey]), ih]
      by_cases h : other = name
      · simp [h]
      · simp [h, lookupEntry, show ¬ key = other from fun e => h (e.symm.trans hkey)]
    · rw [List.filter_cons_of_pos (by simp [hkey])]
      by_cases h : key = other
      · simp [lookupEntry, h, show ¬ other = name from fun e => hkey (h.trans e)]
      · simp [lookupEntry, h, ih]

theorem get?_erase (m : NameMap α) (name other : String) :
    (m.erase name).get? other = if other = name then none else m.get? other :=
  lookupEntry_filter name m.entries other

theorem mem_entries_iff (m : NameMap α) (name : String) (value : α) :
    (name, value) ∈ m.entries ↔ m.get? name = some value := by
  obtain ⟨entries, sorted⟩ := m
  show (name, value) ∈ entries ↔ lookupEntry name entries = some value
  induction entries with
  | nil => simp [lookupEntry]
  | cons first rest ih =>
    obtain ⟨key, old⟩ := first
    obtain ⟨hfirst, hrest⟩ := List.pairwise_cons.1 sorted
    by_cases h : key = name
    · subst h
      have hnot : (key, value) ∉ rest := fun hmem =>
        Bool.noConfusion ((Text.not_before_self key).symm.trans (hfirst _ hmem))
      simp [lookupEntry, hnot, eq_comm]
    · simp [lookupEntry, h, show ¬ name = key from fun e => h e.symm, ih hrest]

theorem mem_names_iff (m : NameMap α) (name : String) :
    name ∈ m.names ↔ ∃ value, m.get? name = some value := by
  simp only [names, List.mem_map]
  constructor
  · rintro ⟨⟨key, value⟩, hmem, rfl⟩
    exact ⟨value, (m.mem_entries_iff key value).1 hmem⟩
  · rintro ⟨value, h⟩
    exact ⟨(name, value), (m.mem_entries_iff name value).2 h, rfl⟩

/-- The names are in order, and each of them is there once. -/
theorem names_sorted (m : NameMap α) : m.names.Pairwise fun a b => Text.before a b = true :=
  List.pairwise_map.mpr m.sorted

end NameMap
end CommitStore
