import CodeConventions.Text.Lines
import CodeConventions.Text.Words

/-!
# Arguments of a command

The words behind a command are options and operands.  An option has a long name, behind two
hyphens, and possibly a short one, behind one hyphen.  Its value is the next word, whatever that is;
or it is joined to a long name by an equals sign, or directly to a short name.  Two hyphens alone
end the options, and one hyphen alone is an operand.
-/

namespace CodeConventions.CommandLine

/-- An option: its names, and whether a value belongs to it. -/
structure OptionSpec where
  long : String
  short : Option String := none
  takesValue : Bool := true
  deriving DecidableEq, Repr

/-- The options and operands that some words are.  An option is recorded under its long name. -/
structure Arguments where
  options : List (String × String)
  operands : List String
  deriving DecidableEq, Repr

/-- What a single word is. -/
inductive Word where
  | operand
  | endOfOptions
  /-- An option without its value. -/
  | opened (option : OptionSpec)
  /-- An option that is complete. -/
  | complete (option : OptionSpec) (value : String)
  | unknown
  deriving DecidableEq, Repr

/-- A word up to its first equals sign, and what follows the sign. -/
def splitAtEquals (word : List Char) : List Char × Option (List Char) :=
  match word.dropWhile (· != '=') with
  | '=' :: value => (word.takeWhile (· != '='), some value)
  | _ => (word, none)

/-- A long option and the value that is joined to it. -/
def longWord (option : OptionSpec) (value : Option (List Char)) : Word :=
  match option.takesValue, value with
  | true, some v => .complete option (String.ofList v)
  | true, none => .opened option
  | false, none => .complete option ""
  | false, some _ => .unknown

/-- What a word with one hyphen is. -/
def shortWord (specs : List OptionSpec) (word : List Char) : Word :=
  match specs.find? fun o => o.short == some (String.ofList (word.take 2)) with
  | none => .unknown
  | some option =>
    if word.length = 2 then .opened option else .complete option (String.ofList (word.drop 2))

/-- What a word is. -/
def Word.ofText (specs : List OptionSpec) (s : String) : Word :=
  if s = "--" then .endOfOptions
  else if Text.beginsWith "-" s && s ≠ "-" then
    let (name, value) := splitAtEquals s.toList
    match specs.find? fun o => o.long == String.ofList name with
    | some option => longWord option value
    | none => if Text.beginsWith "--" s then .unknown else shortWord specs s.toList
  else .operand

namespace Arguments

/-- The arguments with one more option before the others. -/
def withOption (a : Arguments) (option : OptionSpec) (value : String) : Arguments :=
  { a with options := (option.long, value) :: a.options }

/-- The arguments with one more operand before the others. -/
def withOperand (a : Arguments) (operand : String) : Arguments :=
  { a with operands := operand :: a.operands }

/-- The arguments that some words are, unless an option is unknown or lacks its value.  If options
may not follow operands, everything behind the first operand is an operand. -/
def ofWords (specs : List OptionSpec) (mixed : Bool) : List String → Option Arguments
  | [] => some ⟨[], []⟩
  | [word] =>
    match Word.ofText specs word with
    | .operand => some ⟨[], [word]⟩
    | .endOfOptions => some ⟨[], []⟩
    | .complete option value => some ⟨[(option.long, value)], []⟩
    | _ => none
  | word :: next :: rest =>
    match Word.ofText specs word with
    | .operand =>
      if mixed then (ofWords specs mixed (next :: rest)).map (·.withOperand word)
      else some ⟨[], word :: next :: rest⟩
    | .endOfOptions => some ⟨[], next :: rest⟩
    | .complete option value =>
      (ofWords specs mixed (next :: rest)).map (·.withOption option value)
    -- the next word is the value, even if it looks like an option
    | .opened option => (ofWords specs mixed rest).map (·.withOption option next)
    | .unknown => none

/-- The values of an option, in the order in which they are given. -/
def values (a : Arguments) (long : String) : List String :=
  (a.options.filter fun o => o.1 == long).map Prod.snd

/-- The value of an option that counts once: the last one. -/
def value? (a : Arguments) (long : String) : Option String := (a.values long).getLast?

/-- The option is given. -/
def has (a : Arguments) (long : String) : Bool := a.options.any fun o => o.1 == long

end Arguments

end CodeConventions.CommandLine
