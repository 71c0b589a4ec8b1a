import CommitStore.Literal.Grammar
set_option autoImplicit false

/-!
# Literals

A literal is a number, a quoted text, one of a few constants, or a group of literals: a sequence, a
set, or a record. `fault?` says what is wrong with a text that should be one. It reads the text as
an expression, of which literals are a part, so that a text that is no literal is told from a text
that is no expression.

A text that is no expression is read twice, the second time with suspicion, so that a common mistake
is named. If there is none, the text is blamed on the last token that was looked at. A fault of the
characters behind it comes first, and so does a bracket of an earlier line that is still open.
-/

namespace CommitStore
namespace Literal

/-- The first fault of a text with a fault in its tokens; `reach` of them were looked at. -/
def foremost (ts : Tokens) (reach : Nat) (fault : Fault) : Fault :=
  match ts.ending with
  | none => fault
  | some ending =>
    if ending.isPlain then ending.fault
    else
      match ending.bracket, ts.list[reach - 1]? with
      | some bracket, some last =>
        if bracket.line < last.line then .neverClosed bracket.opening else fault
      | _, _ => fault

/-- Why a text is no expression if no mistake in it is a common one; `first` tokens were looked at
without suspicion, and `reach` in all. -/
def malformed (ts : Tokens) (first reach : Nat) : Fault :=
  match ts.list[first - 1]? with
  | some ⟨.indent, _, _, _⟩ => .unexpectedIndent
  | some ⟨.unindent, _, _, _⟩ => .unexpectedUnindent
  | _ => foremost ts reach .malformed

/-- The fault that reading ended with. -/
def Stop.cause (ts : Tokens) : Stop → Fault
  | .ended => (ts.ending.map (·.fault)).getD .malformed
  | .fault f reach =>
    -- Who knows that the text has ended does not look for other faults.
    if ts.list[reach - 1]?.any (·.endsText) then f else foremost ts reach f

/-- The text with every line end written as a newline. -/
def unifyLineEnds : List Char → List Char
  | '\r' :: '\n' :: rest => '\n' :: unifyLineEnds rest
  | '\r' :: rest => '\n' :: unifyLineEnds rest
  | c :: rest => c :: unifyLineEnds rest
  | [] => []

/-- A bound on the forms that are inside each other and after each other while some tokens are
read. -/
def readingFuel (tokens : Nat) : Nat := 600 * (tokens + 2)

/-- What is wrong with tokens that should make a literal. -/
def Tokens.fault? (ts : Tokens) : Option Fault :=
  let placed := ts.list.toArray
  let fuel := readingFuel placed.size
  let readWhole (suspicious : Bool) (reach : Nat) :=
    read Rule.form Rule.isRemembered placed fuel suspicious (.rule .whole) ⟨0, reach, []⟩
  match readWhole false 0 with
  | .error stop => some (stop.cause ts)
  | .ok (.found trees, _) => trees.head?.bind Tree.fault?
  | .ok (_, first) =>
    match readWhole true first.reach with
    | .error stop => some (stop.cause ts)
    | .ok (_, second) => some (malformed ts first.reach second.reach)

/-- What is wrong with a text that should be a literal. -/
def fault? (cs : List Char) : Option Fault :=
  if cs.contains '\x00' then some .nullCharacter
  else (tokens (unifyLineEnds cs)).fault?

end Literal
end CommitStore
