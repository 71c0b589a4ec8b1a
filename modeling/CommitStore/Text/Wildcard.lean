set_option autoImplicit false

/-!
# Wildcard patterns

The store looks texts up by patterns. In a pattern `%` stands for any run of characters and `_` for
any single one; every other character stands for itself, and ASCII letters for either case. The two
code points U+FFFE and U+FFFF, which are no characters, are taken for the replacement character. A
character with code zero ends both the pattern and the text, so nothing after it is looked at. A
pattern of more than `maxPattern` bytes is not matched against anything: the store refuses it.

A pattern is matched against all ends of the text at once (`fits`), character by character from its
own end, so that the work grows with the product of the two lengths. `matchesPattern` is the entry
for the whole text, and its equations are those of matching the pattern from its beginning.
-/

namespace CommitStore
namespace Text

/-- What a code point that is no character is replaced by. -/
def replacement : Char := Char.ofNat 0xFFFD

/-- A character as it is compared: an ASCII capital as its small letter, and a code point that is no
character as its replacement. -/
def compared (c : Char) : Char :=
  if c.toNat = 0xFFFE ∨ c.toNat = 0xFFFF then replacement else c.toLower

/-- The part of a text before its first character with code zero. -/
def beforeNul (cs : List Char) : List Char := cs.takeWhile fun c => c.toNat != 0

/-- Whether a character of a pattern other than `%` stands for a character. -/
def standsFor (p c : Char) : Bool := p == '_' || compared p == compared c

/-- Whether each flag or one behind it is set. -/
def anyFrom : List Bool → List Bool
  | [] => []
  | b :: rest =>
    let later := anyFrom rest
    (b || later.headD false) :: later

/-- For each end of a text, the longest one first, whether it is an instance of a pattern. -/
def fits : (pattern text : List Char) → List Bool
  | [], text => text.map (fun _ => false) ++ [true]
  | p :: pattern, text =>
    let behind := fits pattern text
    if p = '%' then anyFrom behind
    else List.zipWith (fun c b => standsFor p c && b) text (behind.drop 1) ++ [false]

/-- Whether a text is an instance of a pattern. -/
def matchesPattern (pattern text : List Char) : Bool := (fits pattern text).headD false

/-- Whether a text starts with an instance of the pattern. -/
def startsLike (pattern text : String) : Bool :=
  matchesPattern (beforeNul (pattern.toList ++ ['%'])) (beforeNul text.toList)

/-- The longest pattern that is matched, in bytes of its UTF-8 form. -/
def maxPattern : Nat := 50000

/-- Whether the pattern of the texts that start with an instance of `pattern` is too long. -/
def isTooLong (pattern : String) : Bool := decide (maxPattern < (pattern ++ "%").utf8ByteSize)

/-! ## Matching from the beginning -/

theorem length_anyFrom (flags : List Bool) : (anyFrom flags).length = flags.length := by
  induction flags with
  | nil => rfl
  | cons b rest ih => simp [anyFrom, ih]

theorem length_fits (pattern text : List Char) :
    (fits pattern text).length = text.length + 1 := by
  induction pattern with
  | nil => simp [fits]
  | cons p pattern ih =>
    by_cases h : p = '%' <;> simp [fits, h, length_anyFrom, ih]

theorem drop_anyFrom (flags : List Bool) : (anyFrom flags).drop 1 = anyFrom (flags.drop 1) := by
  cases flags <;> simp [anyFrom]

/-- The ends of a text without its first character. -/
theorem drop_fits (pattern : List Char) (c : Char) (text : List Char) :
    (fits pattern (c :: text)).drop 1 = fits pattern text := by
  induction pattern with
  | nil => simp [fits]
  | cons p pattern ih =>
    by_cases h : p = '%'
    · simp only [fits, h, if_true, drop_anyFrom, ih]
    · have hlength := length_fits pattern text
      simp only [fits, if_neg h, ih]
      cases hfits : fits pattern text with
      | nil => simp [hfits] at hlength
      | cons b rest => simp

theorem matchesPattern_nil (text : List Char) : matchesPattern [] text = text.isEmpty := by
  cases text <;> simp [matchesPattern, fits]

/-- The flags of a text begin with the one of the whole text. -/
theorem fits_cons (pattern : List Char) (c : Char) (text : List Char) :
    fits pattern (c :: text) = matchesPattern pattern (c :: text) :: fits pattern text := by
  have hlength := length_fits pattern (c :: text)
  have hdrop := drop_fits pattern c text
  unfold matchesPattern
  cases hfits : fits pattern (c :: text) with
  | nil => simp [hfits] at hlength
  | cons b rest => simpa [hfits] using hdrop

/-- A run is empty, or takes one more character. -/
theorem matchesPattern_run (pattern : List Char) (c : Char) (text : List Char) :
    matchesPattern ('%' :: pattern) (c :: text) =
      (matchesPattern pattern (c :: text) || matchesPattern ('%' :: pattern) text) := by
  have hrun : fits ('%' :: pattern) (c :: text) = anyFrom (fits pattern (c :: text)) := by
    simp [fits]
  have hrest : fits ('%' :: pattern) text = anyFrom (fits pattern text) := by simp [fits]
  rw [matchesPattern, hrun, fits_cons, anyFrom, ← hrest]
  rfl

theorem matchesPattern_run_nil (pattern : List Char) :
    matchesPattern ('%' :: pattern) [] = matchesPattern pattern [] := by
  have hlength := length_fits pattern []
  unfold matchesPattern
  cases hfits : fits pattern [] with
  | nil => simp [hfits] at hlength
  | cons b rest =>
    cases rest with
    | nil => simp [fits, hfits, anyFrom]
    | cons => simp [hfits] at hlength

theorem matchesPattern_cons {p : Char} (h : p ≠ '%') (pattern : List Char) (c : Char)
    (text : List Char) :
    matchesPattern (p :: pattern) (c :: text) =
      (standsFor p c && matchesPattern pattern text) := by
  have hlength := length_fits pattern text
  simp only [matchesPattern, fits, if_neg h, drop_fits]
  cases hfits : fits pattern text with
  | nil => simp [hfits] at hlength
  | cons b rest => simp

theorem matchesPattern_cons_nil {p : Char} (h : p ≠ '%') (pattern : List Char) :
    matchesPattern (p :: pattern) [] = false := by
  simp [matchesPattern, fits, h]

end Text
end CommitStore
