import CommitStore.CommandLine.Command
import CommitStore.Text.Blank
import CommitStore.Text.Cells
import CommitStore.Text.ControlSequence
set_option autoImplicit false

/-!
# Help

The help of the program and of its commands: the usage, the paragraphs, the options, and for the
program the commands with the beginning of their help. It is laid out for lines of `helpWidth`
characters, whatever the terminal. Pages may quote arguments; the control sequences in them are not
shown.
-/

namespace CommitStore
namespace CommandLine

open Text (blanks)

/-- The width that the help is laid out for. -/
def helpWidth : Nat := 80

/-! ## 1. Paragraphs and lists -/

/-- Fills lines of at most `width` characters with words; `line` is the line so far. -/
def fillLines (width : Nat) : (line : List Char) → List (List Char) → List (List Char)
  | line, [] => if line.isEmpty then [] else [line]
  | line, word :: rest =>
    if line.isEmpty then fillLines width word rest
    else if line.length + 1 + word.length ≤ width then
      fillLines width (line ++ ' ' :: word) rest
    else line :: fillLines width word rest

/-- The lines of a text. -/
def fill (width : Nat) (text : String) : List (List Char) :=
  fillLines width [] (Text.words text.toList)

/-- Lines with blanks in front of them. -/
def indent (count : Nat) (lines : List (List Char)) : List (List Char) :=
  lines.map fun line => blanks count ++ line

/-- The blanks in front of everything under a heading, and those between the columns of a list. -/
def indentation : Nat := 2

/-- Paragraphs under a heading, an empty line between them. -/
def paragraphs (width : Nat) (texts : List String) : List (List Char) :=
  [[]].intercalate (texts.map fun text => indent indentation (fill (width - indentation) text))

/-- A list of terms with their explanations in a second column. -/
def definitions (width : Nat) (rows : List (String × String)) : List (List Char) :=
  let first := (rows.map fun (term, _) => term.length).foldl max 0 + indentation
  rows.flatMap fun (term, text) =>
    let lines := fill (max 10 (width - first - indentation)) text
    let margin := blanks (indentation + first)
    match lines with
    | [] => [blanks indentation ++ term.toList]
    | line :: rest =>
      (blanks indentation ++ Text.padCells first term.toList ++ line) ::
        rest.map fun line => margin ++ line

/-! ## 2. Short help -/

/-- The words of a text up to the end of its first sentence, or as many as fit with three dots
behind them; `length` is the length of the words so far, which are in `taken`, last one first. -/
def shortWords (limit : Nat) : (length : Nat) → (taken : List (List Char)) → List (List Char) →
    Option (List (List Char))
  | _, taken, [] => some taken.reverse
  | length, taken, word :: rest =>
    let length := length + word.length + if taken.isEmpty then 0 else 1
    if limit < length then none
    else if word.getLast? = some '.' then some (word :: taken).reverse
    else if length = limit ∧ !rest.isEmpty then none
    else shortWords limit length (word :: taken) rest

/-- Words with blanks between them. -/
def joinWords (words : List (List Char)) : List Char := [' '].intercalate words

/-- The most words that fit with three dots behind them. -/
def cutWords (limit : Nat) (words : List (List Char)) : List (List Char) :=
  let counts := (List.range words.length).filter fun count =>
    (joinWords (words.take count)).length + 3 ≤ limit
  words.take (counts.getLastD 0)

/-- The beginning of a text, at most `limit` characters of it. -/
def shortHelp (limit : Nat) (text : String) : String :=
  let words := Text.words text.toList
  match shortWords limit 0 [] words with
  | some words => String.ofList (joinWords words)
  | none => String.ofList (joinWords (cutWords limit words) ++ ['.', '.', '.'])

/-! ## 3. Pages -/

/-- The words under which a command is called. -/
def commandPath : Option CommandName → String
  | none => programName
  | some command => programName ++ " " ++ command.text

/-- What follows the command in its usage. -/
def usageArguments : Option CommandName → String
  | none => "[OPTIONS] COMMAND [ARGS]..."
  | some command => if command.takesTarget then "[OPTIONS] " ++ targetName else "[OPTIONS]"

/-- The usage of a command. -/
def usageLine (command : Option CommandName) : String :=
  "Usage: " ++ commandPath command ++ " " ++ usageArguments command

/-- An option as the help lists it. -/
def OptionSpec.term (option : OptionSpec) : String :=
  ((option.short.map fun c => shortName c ++ ", ").getD "") ++ option.long ++
    ((option.value.map fun value => " " ++ value).getD "")

/-- The options as a list. -/
def optionLines (width : Nat) (options : List OptionSpec) : List (List Char) :=
  "Options:".toList :: definitions width (options.map fun option => (option.term, option.help))

/-- The commands as a list. -/
def commandLines (width : Nat) : List (List Char) :=
  let longest := (CommandName.all.map fun command => command.text.length).foldl max 0
  "Commands:".toList :: definitions width (CommandName.all.map fun command =>
    (command.text, shortHelp (width - 6 - longest) (command.help.headD "")))

/-- The help of a command. -/
def helpPage (command : Option CommandName) : String :=
  let parts : List (List (List Char)) :=
    match command with
    | none =>
      [[(usageLine none).toList], paragraphs helpWidth programHelp,
        optionLines helpWidth programOptions, commandLines helpWidth]
    | some command =>
      [[(usageLine (some command)).toList], paragraphs helpWidth command.help,
        optionLines helpWidth command.options]
  String.ofList (([[]].intercalate parts).flatMap fun line => line ++ ['\n'])

/-- What is shown when a command line is refused. -/
def refusalPage (refusal : Refusal) : String :=
  let usage :=
    if refusal.fault.showsUsage then
      usageLine refusal.command ++ "\nTry '" ++ commandPath refusal.command ++
        " --help' for help.\n\n"
    else ""
  Text.withoutSequences (usage ++ "Error: " ++ refusal.fault.describe ++ "\n")

end CommandLine
end CommitStore
