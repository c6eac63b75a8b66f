/-
  FormPress.Command.Arguments

  Arguments of a command: options by their names, which may be cut short as long
  as they stay unique, options with a value in the next argument or after an
  equals sign, and arguments without a name. After two dashes all arguments are
  without a name; the dashes themselves belong to an argument without a name that
  stands beside them, and have no meaning anywhere else.
-/
import FormPress.Text.Numeral

namespace FormPress.Command

/-! ## Options -/

/-- What an option takes. -/
inductive OptionShape where
  | value
  | switch
  | help
  deriving Repr, DecidableEq, Inhabited

/-- An option. -/
structure OptionSpec where
  name : String
  shape : OptionShape
  deriving Repr, DecidableEq, Inhabited

/-- The option that asks for help. -/
def helpOption : OptionSpec := ⟨"--help", .help⟩

/-- Why a command ends before its work begins. -/
inductive Refusal where
  /-- help was asked for -/
  | help
  /-- the arguments are wrong -/
  | wrong
  deriving Repr, DecidableEq, Inhabited

/-- The code with which a refused command ends. -/
def Refusal.code : Refusal → Nat
  | help => 0
  | wrong => 2

/-! ## Kinds of arguments -/

/-- An argument by its kind. -/
inductive Token where
  | plain (s : String)
  | option (spec : OptionSpec) (value : Option String)
  | unknown
  | dashes
  deriving Repr, DecidableEq, Inhabited

/-- Whether a text is a negative number, with digits of any script; a line end may follow it. -/
def isNegativeNumber (s : List Char) : Bool :=
  match s with
  | '-' :: t =>
    let t := if t.getLast? == some '\n' then t.dropLast else t
    let whole := t.takeWhile Text.isDecimal
    match t.drop whole.length with
    | [] => !whole.isEmpty
    | '.' :: fraction => !fraction.isEmpty && fraction.all Text.isDecimal
    | _ => false
  | _ => false

/-- A text up to its first equals sign, and what comes after that. -/
def splitEquals (s : String) : String × Option String :=
  let before := s.toList.takeWhile (· != '=')
  match s.toList.drop before.length with
  | _ :: after => (String.ofList before, some (String.ofList after))
  | [] => (s, none)

/-- The options whose names begin with a text; one dash is too little to tell an option. -/
def startingWith (specs : List OptionSpec) (s : String) : List OptionSpec :=
  if "--".toList.isPrefixOf s.toList then
    specs.filter fun spec => s.toList.isPrefixOf spec.name.toList
  else []

/-- The meaning of the letter for help with more letters after it: only letters for help, of which
    the first may follow an equals sign, ask for help again. -/
def helpLetters (more : List Char) : Token :=
  let letters := match more with
    | '=' :: letters => letters
    | letters => letters
  .option helpOption
    (if more.isEmpty || (!letters.isEmpty && letters.all (· == 'h')) then none
      else some (String.ofList more))

/-- The kind of an argument that begins with a dash and is not a dash alone. -/
def dashedToken (specs : List OptionSpec) (s : String) : Except Refusal Token :=
  let (name, value) := splitEquals s
  match specs.find? (·.name == name) with
  | some spec => .ok (.option spec value)
  | none =>
    match startingWith specs name with
    | [spec] => .ok (.option spec value)
    | _ :: _ :: _ => .error .wrong
    | [] =>
      match s.toList with
      | '-' :: 'h' :: more => .ok (helpLetters more)
      | letters =>
        if isNegativeNumber letters || letters.contains ' ' then .ok (.plain s) else .ok .unknown

/-- The kind of an argument. -/
def tokenOf (specs : List OptionSpec) (s : String) : Except Refusal Token :=
  if s.toList.head? != some '-' || s == "-" then .ok (.plain s) else dashedToken specs s

/-- The kinds of all arguments. -/
def tokens (specs : List OptionSpec) : List String → Except Refusal (List Token)
  | [] => .ok []
  | s :: rest =>
    if s == "--" then .ok (.dashes :: rest.map .plain)
    else do
      let t ← tokenOf specs s
      let others ← tokens specs rest
      return t :: others

/-! ## What is given -/

/-- Something given by the arguments. -/
inductive Given where
  | plain (s : String)
  /-- an option with its value, or with two dashes in the place of one -/
  | option (name : String) (value : Option String)
  | switch (name : String)
  | help
  /-- what has no meaning -/
  | stray
  /-- an option without its value, or a switch with one -/
  | broken
  deriving Repr, DecidableEq, Inhabited

/-- The value after an equals sign. -/
def explicitValue (v : String) : Option String := if v == "--" then none else some v

/-- What is given, in order, where so many arguments without a name are still expected. -/
def givenBy (expected : Nat) : List Token → List Given
  | [] => []
  | .unknown :: rest => .stray :: givenBy expected rest
  | .option ⟨_, .help⟩ none :: rest => .help :: givenBy expected rest
  | .option ⟨name, .switch⟩ none :: rest => .switch name :: givenBy expected rest
  | .option ⟨name, .value⟩ (some v) :: rest =>
    .option name (explicitValue v) :: givenBy expected rest
  | .option ⟨name, .value⟩ none :: .plain v :: rest =>
    .option name (some v) :: givenBy expected rest
  | .option _ _ :: rest => .broken :: givenBy expected rest
  | .plain s :: rest =>
    match expected, rest with
    | 0, rest => .stray :: givenBy 0 rest
    | expected + 1, .dashes :: rest => .plain s :: givenBy expected rest
    | expected + 1, rest => .plain s :: givenBy expected rest
  | .dashes :: rest =>
    match expected, rest with
    | expected + 1, .plain s :: rest => .plain s :: givenBy expected rest
    | expected, rest => .stray :: givenBy expected rest

/-- What the arguments of a command give. -/
def given (specs : List OptionSpec) (expected : Nat) (args : List String) :
    Except Refusal (List Given) :=
  (tokens (helpOption :: specs) args).map (givenBy expected)

/-- The whole number that an argument stands for. -/
def wholeArgument? (s : String) : Option Int := Numeral.whole? s.toList

end FormPress.Command
