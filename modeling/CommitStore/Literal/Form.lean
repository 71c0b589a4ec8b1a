import CommitStore.Literal.Token
import CommitStore.Literal.Tree
set_option autoImplicit false

/-!
# Forms of expressions

A form says which tokens an expression is written with. Reading tries the choices of a form in
order and keeps to the first that fits, so a later one is never looked at again; what a rule
answered at a place is remembered if the rule says so, and is then the answer for good.

Some forms do not stand for an expression, but for a mistake that is often made. They are only tried
by a reader who is suspicious, because a first reading failed, and they end reading with a fault.

How far tokens have been looked at (`State.reach`) matters beside the answer: who looks behind the
last token meets what is wrong with the end of the text.
-/

namespace CommitStore
namespace Literal

/-! ## 1. Forms -/

/-- The kinds of tokens that a form can ask for. -/
inductive Kind
  | name
  /-- A name with which a word of some statements may begin. -/
  | softWord
  | number
  | text
  | lineEnd
  | finish
  deriving DecidableEq, Repr

/-- The form of an expression, with rules named by `ρ`. -/
inductive Form (ρ : Type) : Type
  | word (letters : String)
  | mark (signs : String)
  | kind (k : Kind)
  | rule (r : ρ)
  /-- One form after the other. -/
  | seq (parts : List (Form ρ))
  /-- The first of some forms that fits. -/
  | alt (choices : List (Form ρ))
  | opt (form : Form ρ)
  /-- As many of a form as there are. -/
  | many (form : Form ρ)
  /-- Nothing, where a form would fit, or where it would not. -/
  | ahead (fits : Bool) (form : Form ρ)
  /-- A form whose expressions are put together. -/
  | built (make : List Tree → List Tree) (form : Form ρ)
  /-- A form whose expressions may turn out to be faulty once they are put together. -/
  | checked (make : List Tree → Except Fault (List Tree)) (form : Form ρ)
  /-- A mistake: where the form fits, reading ends with a fault. If there is none after all, what
  the form is a choice of does not fit. -/
  | fault (why : (depth : Nat) → List Tree → Option Fault) (form : Form ρ)
  /-- A form that only a suspicious reader tries. -/
  | suspected (form : Form ρ)
  /-- A form that is read without suspicion. -/
  | trusted (form : Form ρ)

namespace Form

variable {ρ : Type}

/-- One or more of a form. -/
def some (form : Form ρ) : Form ρ := .seq [form, .many form]

/-- One or more of a form with commas between them. -/
def listed (form : Form ρ) : Form ρ := .seq [form, .many (.seq [.mark ",", form])]

/-- A form that stands for one expression, whatever it is made of. -/
def as (tree : Tree) (form : Form ρ) : Form ρ := .built (fun _ => [tree]) form

/-- A form that is always the same mistake. -/
def mistake (fault : Fault) (form : Form ρ) : Form ρ := .fault (fun _ _ => Option.some fault) form

end Form

/-! ## 2. Tokens -/

/-- The words that cannot be names. -/
def reservedWords : List String :=
  ["False", "None", "True", "and", "as", "assert", "async", "await", "break", "class", "continue",
   "def", "del", "elif", "else", "except", "finally", "for", "from", "global", "if", "import", "in",
   "is", "lambda", "nonlocal", "not", "or", "pass", "raise", "return", "try", "while", "with",
   "yield"]

/-- The names that are words of their own at the start of some statements. -/
def softWords : List String := ["_", "case", "match"]

/-- Whether a name is the beginning of such a word. -/
def beginsSoftWord (letters : String) : Bool :=
  softWords.any fun word => letters.toList.isPrefixOf word.toList

/-- The expressions that a token of a kind stands for; `none` if it is of another kind. -/
def Kind.accept? : Kind → Token → Option (List Tree)
  | .name, .word letters => if reservedWords.contains letters then none else some [.name]
  | .softWord, .word letters => if beginsSoftWord letters then some [] else none
  | .number, .number imaginary => some [.number imaginary]
  | .text, .text letters body => some [.part letters body]
  | .lineEnd, .lineEnd => some []
  | .finish, .finish => some []
  | _, _ => none

/-! ## 3. Reading -/

/-- What a rule answered at a place: its expressions and the place behind them, or nothing. -/
structure Memory (ρ : Type) where
  rule : ρ
  position : Nat
  answer : Option (List Tree × Nat)

/-- Where reading is: the number of tokens that have been passed, and of those that have been looked
at, and what is remembered. -/
structure State (ρ : Type) where
  position : Nat
  reach : Nat
  memory : List (Memory ρ)

/-- How a form fits. -/
inductive Outcome
  | found (trees : List Tree)
  | missed
  /-- The form does not fit, and nor does any form that it is a choice of. -/
  | declined

/-- Why reading ends. -/
inductive Stop
  /-- It went behind the last token. -/
  | ended
  /-- It met a fault, having looked at some tokens. -/
  | fault (f : Fault) (reach : Nat)

section Reading

variable {ρ : Type} [DecidableEq ρ] (grammar : ρ → Form ρ) (remembers : ρ → Bool)
  (ts : Array Placed)

/-- Reads one token. -/
def readToken (accept? : Token → Option (List Tree)) (s : State ρ) :
    Except Stop (Outcome × State ρ) :=
  let looked := { s with reach := max s.reach (s.position + 1) }
  match ts[s.position]? with
  | none => .error .ended
  | some placed =>
    match accept? placed.token with
    | some trees => .ok (.found trees, { looked with position := s.position + 1 })
    | none => .ok (.missed, looked)

/-- The expressions of a form that fits, changed; a form that does not fit leaves no trace but its
reach and what is remembered. -/
def settle (start : State ρ) (change : List Tree → List Tree)
    (read : Except Stop (Outcome × State ρ)) : Except Stop (Outcome × State ρ) :=
  read.map fun (outcome, s) =>
    match outcome with
    | .found trees => (.found (change trees), s)
    | other => (other, { s with position := start.position })

/-- Reads a form. `fuel` bounds the number of forms inside each other and after each other. -/
def read : (fuel : Nat) → (suspicious : Bool) → Form ρ → State ρ →
    Except Stop (Outcome × State ρ)
  | 0, _, _, s => .ok (.missed, s)
  | fuel + 1, suspicious, form, s =>
    match form with
    | .word letters => readToken ts (fun t => if t = .word letters then some [] else none) s
    | .mark signs => readToken ts (fun t => if t = .mark signs then some [] else none) s
    | .kind k => readToken ts k.accept? s
    | .rule r => do
      if remembers r then
        match s.memory.find? fun m => m.rule == r && m.position == s.position with
        | some ⟨_, _, some (trees, position)⟩ => return (.found trees, { s with position })
        | some ⟨_, _, none⟩ => return (.missed, s)
        | none => pure ()
      let (outcome, after) ← read fuel suspicious (grammar r) s
      let answer := match outcome with
        | .found trees => some (trees, after.position)
        | _ => none
      let memory := if remembers r then ⟨r, s.position, answer⟩ :: after.memory else after.memory
      match answer with
      | some (trees, _) => return (.found trees, { after with memory })
      | none => return (.missed, { after with memory, position := s.position })
    | .seq [] => .ok (.found [], s)
    | .seq (first :: rest) => do
      match ← read fuel suspicious first s with
      | (.found trees, next) => settle s (trees ++ ·) (read fuel suspicious (.seq rest) next)
      | (outcome, next) => return (outcome, { next with position := s.position })
    | .alt [] => .ok (.missed, s)
    | .alt (first :: rest) => do
      match ← read fuel suspicious first s with
      | (.missed, next) =>
        read fuel suspicious (.alt rest) { next with position := s.position }
      | (outcome, next) => return (outcome, next)
    | .opt form => do
      match ← read fuel suspicious form s with
      | (.found trees, next) => return (.found trees, next)
      | (_, next) => return (.found [], { next with position := s.position })
    | .many form => do
      match ← read fuel suspicious form s with
      | (.found trees, next) => settle s (trees ++ ·) (read fuel suspicious (.many form) next)
      | (_, next) => return (.found [], { next with position := s.position })
    | .ahead fits form => do
      let (outcome, next) ← read fuel suspicious form s
      let found := match outcome with
        | .found _ => true
        | _ => false
      return (if found = fits then .found [] else .missed, { next with position := s.position })
    | .built make form => settle s make (read fuel suspicious form s)
    | .checked make form => do
      match ← read fuel suspicious form s with
      | (.found trees, next) =>
        match make trees with
        | .ok trees => return (.found trees, next)
        | .error fault => throw (.fault fault next.reach)
      | (outcome, next) => return (outcome, { next with position := s.position })
    | .fault why form => do
      match ← read fuel suspicious form s with
      | (.found trees, next) =>
        let depth := (ts[next.position - 1]?.map (·.depth)).getD 0
        match why depth trees with
        | some fault => throw (.fault fault next.reach)
        | none => return (.declined, { next with position := s.position })
      | (outcome, next) => return (outcome, { next with position := s.position })
    | .suspected form => if suspicious then read fuel suspicious form s else .ok (.missed, s)
    | .trusted form => read fuel false form s

end Reading

end Literal
end CommitStore
