import ServerSetup.Text.Cut

/-!
# The grammar of a command line

A word that starts with a hyphen names options, any other word is an operand; a lone hyphen is an
operand, too. A long option follows two hyphens, and its value stands behind an equals sign or in
the next word. Short options are letters behind one hyphen. The word `--` makes all later words
operands.
-/

namespace ServerSetup.Console

/-- Why a command line gives no command. -/
inductive Refusal
  /-- It is not well formed. -/
  | usage
  /-- It asks for help. -/
  | help
  /-- It asks for the version. -/
  | version
deriving DecidableEq

/-- What an option does. -/
inductive OptionForm
  /-- It takes no value. -/
  | flag
  /-- It takes a value that fits. A value in the next word may start with a hyphen only if that is
  allowed. -/
  | value (fits : String → Bool) (hyphens : Bool)
  /-- It ends the reading. -/
  | stop (why : Refusal)

/-- An option. -/
structure OptionRule where
  name : String
  letter : Option Char := none
  form : OptionForm

/-- What a command line gives. -/
structure Given where
  /-- The options with their values; the value of a flag is empty. -/
  options : List (String × String) := []
  operands : List String := []

/-- A word of a command line. -/
inductive Word
  | operand (text : String)
  | long (name : String) (attached : Option String)
  | letters (cs : List Char)
  | separator

/-- Reads one word by itself. -/
def Word.ofChars : List Char → Word
  | ['-', '-'] => .separator
  | '-' :: '-' :: text =>
    match Text.cutAtFirst '=' text with
    | some (name, value) => .long (String.ofList name) (some (String.ofList value))
    | none => .long (String.ofList text) none
  | '-' :: c :: cs => .letters (c :: cs)
  | cs => .operand (String.ofList cs)

/-- Whether a word is an operand by itself. -/
def isOperand (word : String) : Bool :=
  match Word.ofChars word.toList with
  | .operand _ => true
  | _ => false

namespace Given

/-- The value of an option, if it is given. -/
def value? (g : Given) (option : String) : Option String := g.options.lookup option

/-- Whether an option is given. -/
def has (g : Given) (option : String) : Bool := (g.value? option).isSome

/-- Adds an option. None may be given twice. -/
def add (g : Given) (option value : String) : Except Refusal Given :=
  if g.has option then .error .usage
  else .ok { g with options := g.options ++ [(option, value)] }

/-- Adds an option without a value. -/
def addBare (g : Given) (rule : OptionRule) : Except Refusal Given :=
  match rule.form with
  | .flag => g.add rule.name ""
  | .value .. => .error .usage
  | .stop why => .error why

/-- Adds an option with a value. -/
def addValue (g : Given) (rule : OptionRule) (value : String) : Except Refusal Given :=
  match rule.form with
  | .value fits _ => if fits value then g.add rule.name value else .error .usage
  | _ => .error .usage

/-- Adds options by their letters. -/
def addLetters (rules : List OptionRule) (g : Given) : List Char → Except Refusal Given
  | [] => .ok g
  | c :: cs =>
    match rules.find? (·.letter == some c) with
    | none => .error .usage
    | some rule => (g.addBare rule).bind fun g => addLetters rules g cs

end Given

/-- The options of a command and the number of its operands. Without such a number the first operand
ends the reading. -/
structure Grammar where
  rules : List OptionRule
  room : Option Nat

namespace Grammar

/-- Reads words, after what was given so far; what is given then, and the words left over. -/
def readFrom (g : Grammar) (given : Given) : List String → Except Refusal (Given × List String)
  | [] => .ok (given, [])
  | word :: rest =>
    match Word.ofChars word.toList with
    | .operand text =>
      match g.room with
      | none => .ok (given, word :: rest)
      | some room =>
        if given.operands.length < room then
          g.readFrom { given with operands := given.operands ++ [text] } rest
        else .error .usage
    | .separator =>
      match g.room with
      | none => .error .usage
      | some room =>
        if given.operands.length + rest.length ≤ room then
          .ok ({ given with operands := given.operands ++ rest }, [])
        else .error .usage
    | .letters cs => (given.addLetters g.rules cs).bind fun given => g.readFrom given rest
    | .long name attached =>
      match g.rules.find? (·.name == name) with
      | none => .error .usage
      | some rule =>
        match attached with
        | some value => (given.addValue rule value).bind fun given => g.readFrom given rest
        | none =>
          match rule.form with
          | .value _ hyphens =>
            match rest with
            | [] => .error .usage
            | value :: rest =>
              if hyphens || isOperand value then
                (given.addValue rule value).bind fun given => g.readFrom given rest
              else .error .usage
          | _ => (given.addBare rule).bind fun given => g.readFrom given rest

/-- Reads a whole line. -/
def read (g : Grammar) (words : List String) : Except Refusal (Given × List String) :=
  g.readFrom {} words

end Grammar

end ServerSetup.Console
