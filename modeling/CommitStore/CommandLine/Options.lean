import CommitStore.Text.Similar
set_option autoImplicit false

/-!
# Reading options

An argument that begins with a hyphen and goes on is an option, up to an argument of two hyphens. A
long option may have its value behind an equals sign, short ones may share an argument, and the
value of a short option may follow it directly. Where options may not be mixed with other arguments,
the first argument that is none ends them.
-/

namespace CommitStore
namespace CommandLine

/-- An option that a command takes. -/
structure OptionSpec where
  short : Option Char
  /-- The long name, with its two hyphens. -/
  long : String
  /-- What the help calls the value of the option; `none` if it takes no value. -/
  value : Option String
  help : String

/-- An option that was given. -/
structure Given where
  option : OptionSpec
  value : Option String

/-- What was read from arguments. -/
structure Reading where
  given : List Given
  others : List String

/-- What can be wrong with options. -/
inductive OptionFault
  | unknown (name : String) (similar : List String)
  | valueMissing (name : String)
  | valueUnwanted (name : String)
  deriving DecidableEq, Repr

/-- The texts before and after the first equals sign. -/
def splitAtEquals (arg : String) : String × Option String :=
  let cs := arg.toList
  let name := String.ofList (cs.takeWhile (· != '='))
  match cs.dropWhile (· != '=') with
  | [] => (name, none)
  | _ :: value => (name, some (String.ofList value))

/-- A short option as it is written. -/
def shortName (c : Char) : String := String.ofList ['-', c]

/-- Reads the short options that share an argument. The last one may wait for its value; then its
name is answered with it. -/
def readShort (options : List OptionSpec) :
    List Char → Except OptionFault (List Given × Option (OptionSpec × String))
  | [] => .ok ([], none)
  | c :: rest =>
    match options.find? (·.short == some c) with
    | none => .error (.unknown (shortName c) [])
    | some option =>
      if option.value.isNone then
        (readShort options rest).map fun (given, waiting) => (⟨option, none⟩ :: given, waiting)
      else if rest.isEmpty then .ok ([], some (option, shortName c))
      else .ok ([⟨option, some (String.ofList rest)⟩], none)

/-- Reads one argument that is an option. -/
def readOption (options : List OptionSpec) (arg : String) :
    Except OptionFault (List Given × Option (OptionSpec × String)) :=
  let (name, value) := splitAtEquals arg
  match options.find? (·.long == name) with
  | some option =>
    match option.value, value with
    | none, none => .ok ([⟨option, none⟩], none)
    | none, some _ => .error (.valueUnwanted name)
    | some _, some value => .ok ([⟨option, some value⟩], none)
    | some _, none => .ok ([], some (option, name))
  | none =>
    if ['-', '-'].isPrefixOf arg.toList then
      .error (.unknown name (Text.similarNames (options.map (·.long)) name))
    else readShort options (arg.toList.drop 1)

/-- Whether an argument is written like an option. -/
def looksLikeOption (arg : String) : Bool := ['-'].isPrefixOf arg.toList && decide (1 < arg.length)

/-- Reads arguments; `mixed` says whether options may come after other arguments. -/
def readArguments (options : List OptionSpec) (mixed : Bool) :
    List String → Except OptionFault Reading
  | [] => .ok ⟨[], []⟩
  | arg :: rest =>
    if arg = "--" then .ok ⟨[], rest⟩
    else if looksLikeOption arg then
      match readOption options arg with
      | .error fault => .error fault
      | .ok (given, none) =>
        (readArguments options mixed rest).map fun r => { r with given := given ++ r.given }
      | .ok (given, some (option, name)) =>
        match rest with
        | [] => .error (.valueMissing name)
        | value :: rest =>
          (readArguments options mixed rest).map fun r =>
            { r with given := given ++ ⟨option, some value⟩ :: r.given }
    else if mixed then
      (readArguments options mixed rest).map fun r => { r with others := arg :: r.others }
    else .ok ⟨[], arg :: rest⟩

/-- Whether an option was given. -/
def Reading.has (r : Reading) (long : String) : Bool := r.given.any (·.option.long == long)

/-- The last value that was given for an option. -/
def Reading.value? (r : Reading) (long : String) : Option String :=
  (r.given.reverse.find? (·.option.long == long)).bind (·.value)

end CommandLine
end CommitStore
