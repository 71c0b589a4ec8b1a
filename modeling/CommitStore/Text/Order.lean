set_option autoImplicit false

/-!
# The order of texts

Names, ids and the keys of documents are listed by code point: of two texts the one comes first
whose character is the smaller at the first place where they differ, and a text comes before every
longer text that it begins. `before` is a strict linear order (`not_before_self`, `before_trans`,
`eq_of_not_before`); `notAfter` is the order that goes with it, for sorting.
-/

namespace CommitStore
namespace Text

/-! ## 1. Runs of characters -/

/-- Whether a run of characters comes strictly before another one. -/
def precedes : List Char → List Char → Bool
  | _, [] => false
  | [], _ :: _ => true
  | a :: as, b :: bs => Nat.blt a.toNat b.toNat || (a.toNat == b.toNat && precedes as bs)

theorem precedes_cons {a b : Char} {as bs : List Char} :
    precedes (a :: as) (b :: bs) = true ↔
      a.toNat < b.toNat ∨ a.toNat = b.toNat ∧ precedes as bs = true := by
  simp [precedes, Nat.blt_eq]

theorem not_precedes_self (cs : List Char) : precedes cs cs = false := by
  induction cs with
  | nil => rfl
  | cons c rest ih =>
    rw [Bool.eq_false_iff]
    intro h
    rcases precedes_cons.1 h with h | ⟨_, h⟩
    · exact Nat.lt_irrefl _ h
    · exact Bool.noConfusion (ih.symm.trans h)

theorem precedes_trans {as bs cs : List Char} (hab : precedes as bs = true)
    (hbc : precedes bs cs = true) : precedes as cs = true := by
  induction as generalizing bs cs with
  | nil =>
    cases cs with
    | nil => cases bs <;> exact Bool.noConfusion hbc
    | cons c cs => rfl
  | cons a as ih =>
    cases bs with
    | nil => exact Bool.noConfusion hab
    | cons b bs =>
      cases cs with
      | nil => exact Bool.noConfusion hbc
      | cons c cs =>
        rcases precedes_cons.1 hab with hab | ⟨eab, hab⟩ <;>
          rcases precedes_cons.1 hbc with hbc | ⟨ebc, hbc⟩
        · exact precedes_cons.2 (Or.inl (Nat.lt_trans hab hbc))
        · exact precedes_cons.2 (Or.inl (ebc ▸ hab))
        · exact precedes_cons.2 (Or.inl (eab.symm ▸ hbc))
        · exact precedes_cons.2 (Or.inr ⟨eab.trans ebc, ih hab hbc⟩)

theorem eq_of_not_precedes {as bs : List Char} (hab : precedes as bs = false)
    (hba : precedes bs as = false) : as = bs := by
  induction as generalizing bs with
  | nil =>
    cases bs with
    | nil => rfl
    | cons b bs => exact Bool.noConfusion hab
  | cons a as ih =>
    cases bs with
    | nil => exact Bool.noConfusion hba
    | cons b bs =>
      rw [Bool.eq_false_iff, ne_eq, precedes_cons] at hab hba
      have heq : a.toNat = b.toNat :=
        Nat.le_antisymm (Nat.le_of_not_lt fun h => hba (Or.inl h))
          (Nat.le_of_not_lt fun h => hab (Or.inl h))
      have hrest : as = bs :=
        ih (Bool.eq_false_iff.2 fun h => hab (Or.inr ⟨heq, h⟩))
          (Bool.eq_false_iff.2 fun h => hba (Or.inr ⟨heq.symm, h⟩))
      rw [Char.toNat_inj.1 heq, hrest]

/-! ## 2. Texts -/

/-- Whether a text comes strictly before another one. -/
def before (a b : String) : Bool := precedes a.toList b.toList

/-- Whether a text comes before another one or is equal to it. -/
def notAfter (a b : String) : Bool := !before b a

theorem not_before_self (a : String) : before a a = false := not_precedes_self a.toList

theorem before_trans {a b c : String} (hab : before a b = true) (hbc : before b c = true) :
    before a c = true := precedes_trans hab hbc

theorem eq_of_not_before {a b : String} (hab : before a b = false) (hba : before b a = false) :
    a = b := String.toList_inj.1 (eq_of_not_precedes hab hba)

theorem notAfter_total (a b : String) : (notAfter a b || notAfter b a) = true := by
  unfold notAfter
  cases hab : before a b with
  | false => simp
  | true =>
    cases hba : before b a with
    | false => simp
    | true => exact Bool.noConfusion ((not_before_self a).symm.trans (before_trans hab hba))

theorem notAfter_trans (a b c : String) (hab : notAfter a b = true) (hbc : notAfter b c = true) :
    notAfter a c = true := by
  unfold notAfter at *
  rw [Bool.not_eq_true'] at *
  rw [Bool.eq_false_iff]
  intro hca
  cases h : before a b with
  | true => exact Bool.noConfusion (hbc.symm.trans (before_trans hca h))
  | false =>
    have heq : a = b := eq_of_not_before h hab
    exact Bool.noConfusion (hbc.symm.trans (heq ▸ hca))

end Text
end CommitStore
