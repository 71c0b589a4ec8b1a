import CommitStore.Proofs.PinNames
import CommitStore.Text.Wildcard
set_option autoImplicit false

/-!
# Starts as patterns

The store looks for texts with a given start by way of a pattern. Every text that begins with the
start is an instance of the pattern (`startsLike_of_prefix`), whatever wildcards the start has. The
other direction needs a start whose characters are plain for the text: `%` and `_` stand for other
characters, an ASCII letter for its other case too, and a character with code zero cuts the pattern
off before the run at its end.

The ids of stored objects are hexadecimal digits, so among them only few characters are not plain.
-/

namespace CommitStore
namespace Text

/-! ## 1. What begins with the start -/

/-- A run may be empty. -/
theorem matchesPattern_run_of {pattern text : List Char} (h : matchesPattern pattern text = true) :
    matchesPattern ('%' :: pattern) text = true := by
  cases text with
  | nil => rw [matchesPattern_run_nil, h]
  | cons c rest => rw [matchesPattern_run, h, Bool.true_or]

theorem matchesPattern_any (text : List Char) : matchesPattern ['%'] text = true := by
  induction text with
  | nil => rw [matchesPattern_run_nil, matchesPattern_nil, List.isEmpty_nil]
  | cons c rest ih => rw [matchesPattern_run, ih, Bool.or_true]

/-- Every text is an instance of itself, and stays one when both go on. -/
theorem matchesPattern_append (front : List Char) {pattern text : List Char}
    (h : matchesPattern pattern text = true) :
    matchesPattern (front ++ pattern) (front ++ text) = true := by
  induction front with
  | nil => exact h
  | cons p front ih =>
    rw [List.cons_append, List.cons_append]
    by_cases hrun : p = '%'
    · -- The run takes this one character, and is empty from there on.
      rw [hrun, matchesPattern_run, matchesPattern_run_of ih, Bool.or_true]
    · have hself : standsFor p p = true := by simp [standsFor]
      rw [matchesPattern_cons hrun, hself, ih, Bool.and_true]

theorem beforeNul_append {front : List Char} (h : ∀ c ∈ front, c.toNat ≠ 0) (rest : List Char) :
    beforeNul (front ++ rest) = front ++ beforeNul rest :=
  List.takeWhile_append_of_pos fun c hc => bne_iff_ne.mpr (h c hc)

theorem beforeNul_append_of_nul {front : List Char} {c : Char} (hc : c ∈ front)
    (hnul : c.toNat = 0) (rest : List Char) : beforeNul (front ++ rest) = beforeNul front := by
  induction front with
  | nil => exact absurd hc List.not_mem_nil
  | cons d front ih =>
    rw [List.cons_append, beforeNul, beforeNul, List.takeWhile_cons, List.takeWhile_cons]
    by_cases hd : d.toNat = 0
    · simp [hd]
    · have hne : d ≠ c := fun hsame => hd (hsame ▸ hnul)
      have hmem : c ∈ front := (List.mem_cons.mp hc).resolve_left hne.symm
      rw [if_pos (bne_iff_ne.mpr hd), if_pos (bne_iff_ne.mpr hd)]
      exact congrArg (d :: ·) (ih hmem)

/-- **What begins with a text starts like it.** -/
theorem startsLike_of_prefix {start text : String} (h : start.toList <+: text.toList) :
    startsLike start text = true := by
  obtain ⟨rest, hrest⟩ := h
  rw [startsLike, ← hrest]
  by_cases hnul : ∃ c ∈ start.toList, c.toNat = 0
  · obtain ⟨c, hc, hzero⟩ := hnul
    rw [beforeNul_append_of_nul hc hzero, beforeNul_append_of_nul hc hzero]
    simpa using matchesPattern_append (beforeNul start.toList) (matchesPattern_nil [])
  · have hnone : ∀ c ∈ start.toList, c.toNat ≠ 0 := fun c hc hzero => hnul ⟨c, hc, hzero⟩
    rw [beforeNul_append hnone, beforeNul_append hnone]
    exact matchesPattern_append start.toList (matchesPattern_any _)

/-! ## 2. Plain starts -/

/-- A character of a start that stands for nothing in a text but itself. -/
structure IsPlainFor (text : String) (p : Char) : Prop where
  noWildcard : p ≠ '%' ∧ p ≠ '_'
  noEnd : p.toNat ≠ 0
  noOther : ∀ c ∈ text.toList, compared p = compared c → p = c

theorem prefix_of_matchesPattern {front text : List Char} (hrun : '%' ∉ front)
    (hself : ∀ p ∈ front, ∀ c ∈ text, standsFor p c = true → p = c)
    (h : matchesPattern (front ++ ['%']) text = true) : front <+: text := by
  induction front generalizing text with
  | nil => exact List.nil_prefix
  | cons p front ih =>
    have hp : p ≠ '%' := fun hsame => hrun (hsame ▸ List.mem_cons_self)
    rw [List.cons_append] at h
    cases text with
    | nil =>
      rw [matchesPattern_cons_nil hp] at h
      cases h
    | cons c text =>
      rw [matchesPattern_cons hp, Bool.and_eq_true] at h
      obtain rfl := hself p List.mem_cons_self c List.mem_cons_self h.1
      have hrun' : '%' ∉ front := fun hmem => hrun (List.mem_cons_of_mem _ hmem)
      refine (List.prefix_cons_inj p).mpr (ih hrun' ?_ h.2)
      exact fun q hq d hd => hself q (List.mem_cons_of_mem _ hq) d (List.mem_cons_of_mem _ hd)

/-- **What starts like a plain text begins with it.** -/
theorem prefix_of_startsLike {start text : String} (hplain : ∀ p ∈ start.toList, IsPlainFor text p)
    (h : startsLike start text = true) : start.toList <+: text.toList := by
  rw [startsLike, beforeNul_append fun p hp => (hplain p hp).noEnd] at h
  have hseen : beforeNul text.toList <+: text.toList := List.takeWhile_prefix _
  refine List.IsPrefix.trans ?_ hseen
  refine prefix_of_matchesPattern (fun hmem => (hplain _ hmem).noWildcard.1 rfl) ?_ h
  intro p hp c hc hstands
  rcases Bool.or_eq_true_iff.mp hstands with hany | hsame
  · exact absurd (beq_iff_eq.mp hany) (hplain p hp).noWildcard.2
  · exact (hplain p hp).noOther c (hseen.subset hc) (beq_iff_eq.mp hsame)

theorem toLower_cases (p : Char) :
    p.toLower = p ∨ 65 ≤ p.toNat ∧ p.toNat ≤ 90 ∧ p.toLower.toNat = p.toNat + 32 := by
  unfold Char.toLower
  split
  · next hcapital =>
    refine Or.inr ?_
    simp only [Char.toNat, ge_iff_le, UInt32.le_iff_toNat_le] at hcapital ⊢
    simp at hcapital ⊢
    omega
  · exact Or.inl rfl

/-- Among hexadecimal digits all that is no wildcard, does not end the pattern and is not one of the
digits in capitals is plain. -/
theorem isPlainFor_of_isHex {text : String} (hhex : Reserved.IsHex text) {p : Char}
    (hwildcard : p ≠ '%' ∧ p ≠ '_') (hend : p.toNat ≠ 0)
    (hcapital : ¬ (65 ≤ p.toNat ∧ p.toNat ≤ 70)) : IsPlainFor text p where
  noWildcard := hwildcard
  noEnd := hend
  noOther := by
    intro c hc hsame
    have hdigit := (Reserved.isHexDigit_iff c).mp (hhex.2 c hc)
    have hcompared : compared c = c := by
      have hnoncharacter : ¬ (c.toNat = 0xFFFE ∨ c.toNat = 0xFFFF) := by omega
      rw [compared, if_neg hnoncharacter]
      rcases toLower_cases c with hlower | ⟨hleast, hmost, _⟩
      · exact hlower
      · omega
    rw [hcompared, compared] at hsame
    split at hsame
    · have hreplacement : replacement.toNat = 0xFFFD := by decide
      rw [hsame] at hreplacement
      omega
    · rcases toLower_cases p with hlower | ⟨hleast, hmost, hlower⟩
      · rw [← hsame, hlower]
      · rw [hsame] at hlower
        omega

end Text
end CommitStore
