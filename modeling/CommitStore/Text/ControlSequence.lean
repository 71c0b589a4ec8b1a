set_option autoImplicit false

/-!
# Control sequences

A terminal takes colours and cursor movements from sequences in the text: an escape character, a
`[`, any number of parameters, and a letter that says what to do. Text that does not go to a
terminal is shown without them.
-/

namespace CommitStore
namespace Text

/-- The character that begins a control sequence. -/
def escapeMark : Char := Char.ofNat 0x1B

/-- A parameter of a control sequence. -/
def isParameter (c : Char) : Bool := c.isDigit || c == ';' || c == '?'

/-- Whether a character goes on with the sequence held so far, whose last character comes first. -/
def continuesSequence (held : List Char) (c : Char) : Bool :=
  if held = [escapeMark] then c == '[' else isParameter c

/-- Whether a character completes the sequence held so far. -/
def completesSequence (held : List Char) (c : Char) : Bool := held != [escapeMark] && c.isAlpha

/-- The text without control sequences. `held` is the beginning of a sequence that may turn out to
be none, last character first; then it is text like any other. -/
def dropSequences : (held : List Char) → List Char → List Char
  | held, [] => held.reverse
  | held, c :: rest =>
    if c = escapeMark then held.reverse ++ dropSequences [c] rest
    else if held.isEmpty then c :: dropSequences [] rest
    else if continuesSequence held c then dropSequences (c :: held) rest
    else if completesSequence held c then dropSequences [] rest
    else held.reverse ++ c :: dropSequences [] rest

/-- The text as it is shown where there is no terminal. -/
def withoutSequences (s : String) : String := String.ofList (dropSequences [] s.toList)

/-- A text without escape characters has no control sequences. -/
theorem dropSequences_eq_self {cs : List Char} (h : escapeMark ∉ cs) :
    dropSequences [] cs = cs := by
  induction cs with
  | nil => rfl
  | cons c rest ih =>
    have hc : c ≠ escapeMark := fun e => h (by simp [e])
    simp [dropSequences, hc, ih (fun m => h (List.mem_cons_of_mem c m))]

end Text
end CommitStore
