import CommitStore.Config
import CommitStore.Proofs.PinNames
set_option autoImplicit false

/-!
# Roots of pins that a configuration may have

A configuration is checked when it is read: its root of pins is a path under `refs/` without a
fault. Two things follow for the names under it. Every digest has a pin, so a commit whose id is a
digest can always be pinned; and `HEAD` is never a reserved name. Names of branches or tags can be,
exactly if the root lies in their space.
-/

namespace CommitStore

/-! ## 1. What the check guarantees -/

namespace Config

/-- What is known of the root of pins of an accepted configuration. -/
structure AcceptedRoot (root : String) : Prop where
  noFault : RefName.pathFault? root.toList = none
  underSpace : pinSpace.toList <+: root.toList

theorem acceptedRoot_default : AcceptedRoot Reserved.defaultRoot where
  noFault := by decide
  underSpace := by decide

theorem AcceptedRoot.of_pinRoot? {given root : String} (h : pinRoot? given = .ok root) :
    AcceptedRoot root := by
  unfold pinRoot? at h
  dsimp only at h
  split at h
  · cases h
  · next hfault =>
    split at h
    · next hspace =>
      cases h
      have hunder := List.isPrefixOf_iff_prefix.mp hspace
      refine ⟨?_, hunder⟩
      -- A text under `refs/` is not empty, and not `HEAD`.
      unfold RefName.fault? at hfault
      split at hfault
      · cases hfault
      · split at hfault
        · next hhead =>
          rw [hhead] at hunder
          exact absurd hunder (by decide)
        · exact hfault
    · cases h

/-- The root that is read from a record, or the default, is accepted. -/
theorem AcceptedRoot.of_field {record : Json.Value} {name root : String}
    (h : Record.field record name readPinRoot Reserved.defaultRoot = .ok root) :
    AcceptedRoot root := by
  unfold Record.field at h
  split at h
  · cases h
    exact acceptedRoot_default
  · next v _ =>
    cases hread : readPinRoot v with
    | error mismatch =>
      rw [hread] at h
      cases h
    | ok found =>
      rw [hread] at h
      cases h
      unfold readPinRoot at hread
      cases htext : Record.text v with
      | error mismatch =>
        rw [htext] at hread
        cases hread
      | ok given =>
        rw [htext] at hread
        exact AcceptedRoot.of_pinRoot? hread

/-- **An accepted configuration has an accepted root.** -/
theorem AcceptedRoot.of_ofRecord {record : Json.Value} {config : Config}
    (h : ofRecord record = .ok config) : AcceptedRoot config.pinRoot := by
  unfold ofRecord at h
  dsimp only at h
  split at h
  · next hroot _ _ _ =>
    cases h
    exact AcceptedRoot.of_field hroot
  · cases h

end Config

/-! ## 2. Reserved names under an accepted root -/

namespace Reserved

variable {root : String}

/-- A reserved name begins with the root and a slash. -/
theorem prefix_of_isReserved (hroot : Config.AcceptedRoot root) {name : RefName}
    (h : isReserved root name = true) : root.toList ++ ['/'] <+: name.toList := by
  rw [← rootPath_eq hroot.noFault]
  exact rootPath_prefix_of_isReserved h

theorem isReserved_head (hroot : Config.AcceptedRoot root) :
    isReserved root RefName.head = false := by
  rw [Bool.eq_false_iff]
  intro h
  have hhead := (hroot.underSpace.trans (List.prefix_append _ ['/'])).trans
    (prefix_of_isReserved hroot h)
  exact absurd hhead (by decide)

/-- **There are reserved names in a space of the user exactly if the root of pins lies in it.** -/
theorem exists_isReserved_iff (hroot : Config.AcceptedRoot root) (word : List Char) {space : String}
    (hspace : space.toList = Config.pinSpace.toList ++ word ++ ['/']) (hword : '/' ∉ word) :
    (∃ rest, isReserved root (space ++ rest) = true) ↔ space.toList <+: rootPath root := by
  constructor
  · rintro ⟨rest, hreserved⟩
    rw [rootPath_eq hroot.noFault]
    have hname := prefix_of_isReserved hroot hreserved
    rw [String.toList_append] at hname
    have hspace' := List.prefix_append space.toList rest.toList
    rcases List.prefix_or_prefix_of_prefix hname hspace' with hshort | hlong
    · rw [hspace] at hshort ⊢
      rcases List.prefix_concat_iff.mp hshort with heq | hpre
      · exact ⟨[], by rw [List.append_nil, heq]⟩
      · -- Then the slash after the root is one of the word.
        obtain ⟨tail, htail⟩ := hroot.underSpace
        rw [← htail, List.append_assoc, List.prefix_append_right_inj] at hpre
        have hslash : '/' ∈ word := hpre.subset (by simp)
        exact absurd hslash hword
    · exact hlong
  · rintro ⟨tail, htail⟩
    refine ⟨String.ofList tail ++ "a", ?_⟩
    have hname : space ++ (String.ofList tail ++ "a") = pinName root "a" := by
      rw [← String.toList_inj, pinName, String.toList_ofList, ← htail, String.toList_append,
        String.toList_append, String.toList_ofList, List.append_assoc]
    have hdigits : "a".toList.all isHexDigit = true := by decide
    have hhex : IsHex "a" := ⟨by decide, List.all_eq_true.mp hdigits⟩
    rw [hname]
    exact isReserved_pinName root hhex

/-- The pin of a digest has a reserved and valid name. -/
theorem pinName_accepted (hroot : Config.AcceptedRoot root) {oid : Oid} (hoid : IsHex oid) :
    isReserved root (pinName root oid) = true ∧ RefName.isValid (pinName root oid) = true :=
  ⟨isReserved_pinName root hoid, isValid_pinName hroot.noFault hoid⟩

end Reserved
end CommitStore
