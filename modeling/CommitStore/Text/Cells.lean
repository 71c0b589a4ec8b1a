import CommitStore.Text.Cells.Width
set_option autoImplicit false

/-!
# Widths in terminal cells

A line is measured, cut and padded in cells. A joiner draws the character behind it together with
the one before it, so that character takes no cells of its own; a selector makes the character
before it a pictograph, which may be wider. What is drawn together is a `Cluster`, and a text is
only cut between clusters: `fit` makes up with blanks for a cluster that would cross the cut.
-/

namespace CommitStore
namespace Text

/-! ## 1. Measuring -/

/-- The character that joins the next character to the one before it. -/
def joiner : Char := Char.ofNat 0x200D

/-- The character that asks for the pictograph of the character before it. -/
def pictureSelector : Char := Char.ofNat 0xFE0F

/-- The cells that a selector adds to the character `drawn` before it. -/
def cellsAdded (drawn : Option Char) : Nat := if drawn.any widens then 1 else 0

/-- The number of cells of a text behind the character `drawn`, which a selector may still turn into
a pictograph. -/
def cellsAfter : (drawn : Option Char) → List Char → Nat
  | _, [] => 0
  | drawn, c :: rest =>
    if c = joiner then
      match rest with
      | [] => 0
      | _ :: rest => cellsAfter drawn rest
    else if c = pictureSelector then cellsAdded drawn + cellsAfter none rest
    else if cellsOf c = 0 then cellsAfter drawn rest
    else cellsOf c + cellsAfter (some c) rest

/-- The number of cells of a text. -/
def cells (cs : List Char) : Nat := cellsAfter none cs

/-! ## 2. Clusters -/

/-- Characters that are drawn together, and the cells they take. -/
structure Cluster where
  chars : List Char
  cells : Nat
  deriving DecidableEq, Repr

/-- The cluster with more characters at its end. -/
def Cluster.append (k : Cluster) (cs : List Char) (cells : Nat) : Cluster :=
  ⟨k.chars ++ cs, k.cells + cells⟩

/-- The clusters of a text behind the cluster `k`, that one first, whose last drawn character is
`drawn`. A character without cells belongs to the cluster before it. -/
def clustersAfter : (k : Cluster) → (drawn : Option Char) → List Char → List Cluster
  | k, _, [] => [k]
  | k, drawn, c :: rest =>
    if c = joiner then
      match rest with
      | [] => [k.append [c] 0]
      | d :: rest => clustersAfter (k.append [c, d] 0) drawn rest
    else if c = pictureSelector then clustersAfter (k.append [c] (cellsAdded drawn)) none rest
    else if cellsOf c = 0 then clustersAfter (k.append [c] 0) drawn rest
    else k :: clustersAfter ⟨[c], cellsOf c⟩ (some c) rest

/-- The clusters of a text. -/
def clusters : List Char → List Cluster
  | [] => []
  | c :: rest => clustersAfter ⟨[c], cellsOf c⟩ (if cellsOf c = 0 then none else some c) rest

/-- The characters of clusters. -/
def charsOf (ks : List Cluster) : List Char := ks.flatMap (·.chars)

/-- The number of cells of clusters. -/
def sumCells : List Cluster → Nat
  | [] => 0
  | k :: rest => k.cells + sumCells rest

theorem charsOf_clustersAfter (k : Cluster) (drawn : Option Char) (cs : List Char) :
    charsOf (clustersAfter k drawn cs) = k.chars ++ cs := by
  fun_induction clustersAfter k drawn cs <;> simp_all [charsOf, Cluster.append]

theorem charsOf_clusters (cs : List Char) : charsOf (clusters cs) = cs := by
  cases cs with
  | nil => rfl
  | cons c rest => simp [clusters, charsOf_clustersAfter]

/-! ## 3. Cutting and padding -/

/-- The first clusters, as many as fit into `total` cells. -/
def fitting : (total : Nat) → List Cluster → List Cluster
  | _, [] => []
  | total, k :: rest => if k.cells ≤ total then k :: fitting (total - k.cells) rest else []

theorem sumCells_fitting_le (total : Nat) (ks : List Cluster) :
    sumCells (fitting total ks) ≤ total := by
  induction ks generalizing total with
  | nil => simp [fitting, sumCells]
  | cons k rest ih =>
    unfold fitting
    split
    · have h := ih (total - k.cells)
      rw [sumCells]
      omega
    · simp [sumCells]

/-- A run of blanks. -/
def blanks (count : Nat) : List Char := List.replicate count ' '

/-- The text padded to at least `total` cells. -/
def padCells (total : Nat) (cs : List Char) : List Char :=
  cs ++ blanks (total - cells cs)

/-- The text cut or padded to `total` cells. -/
def fit (total : Nat) (cs : List Char) : List Char :=
  if total = 0 then []
  else if cells cs ≤ total then padCells total cs
  else
    let kept := fitting total (clusters cs)
    charsOf kept ++ blanks (total - sumCells kept)

end Text
end CommitStore
