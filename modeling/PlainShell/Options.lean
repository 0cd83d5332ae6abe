import PlainShell.Note
import PlainShell.Settings
import PlainShell.Text.Digit

/-!
The options of the program. All arguments are first told apart, then the options act in order: help
and version stop at once, the others set what the environment had given. A long option may be
shortened as long as it is clear which one is meant; a value is attached with `=` or is the next
argument. After `--` nothing is an option. There is nothing but options, so whatever is left over is
an error.
-/

namespace PlainShell

/-- What an option with a value sets. -/
inductive Setting where
  | prompt
  | logLevel
  deriving DecidableEq, Repr

inductive Flag where
  | help
  | version
  | setting (which : Setting)
  deriving DecidableEq, Repr

namespace Flag

def spellings : List (Text × Flag) :=
  [("-h", .help), ("--help", .help), ("--prompt", .setting .prompt),
   ("--log-level", .setting .logLevel), ("--version", .version)]

/-- All its spellings, as messages name it. -/
def title (flag : Flag) : Text :=
  Text.joined "/" ((spellings.filter (·.2 = flag)).map Prod.fst)

end Flag

inductive UsageError where
  | ambiguous (argument : Text) (readings : List Text)
  | valueMissing (flag : Flag)
  | valueIgnored (flag : Flag) (value : Text)
  | levelUnknown (level : Text)
  | unrecognized (arguments : List Text)
  deriving DecidableEq, Repr

def UsageError.message : UsageError → Text
  | .ambiguous argument readings =>
    "ambiguous option: " ++ argument ++ " could match " ++ Text.joined ", " readings
  | .valueMissing flag => "argument " ++ flag.title ++ ": expected one argument"
  | .valueIgnored flag value =>
    "argument " ++ flag.title ++ ": ignored explicit argument " ++ Quoted.quote value
  | .levelUnknown level =>
    "argument " ++ (Flag.setting .logLevel).title ++ ": invalid choice: " ++ Quoted.quote level ++
      " (choose from " ++ Text.joined ", " (Level.all.map (Quoted.quote ·.name)) ++ ")"
  | .unrecognized arguments => "unrecognized arguments: " ++ Text.joined " " arguments

namespace Options

/-- What an argument is, by its looks. -/
inductive Kind where
  | word
  | separator
  | unknown
  | flag (flag : Flag) (attached : Option Text)
  deriving DecidableEq, Repr

def dash : Symbol := '-'

def separator : Text := "--"

/-- A minus sign and a decimal number, with digits of any script; one line feed may follow. -/
def isNegativeNumber (argument : Text) : Bool :=
  let body := argument.drop 1
  let number := if body.getLast? = some (.char '\n') then body.dropLast else body
  let afterDigits := number.dropWhile Symbol.isDigit
  argument.head? = some dash &&
    (number != [] && afterDigits = [] ||
      match afterDigits with
      | .char '.' :: decimals => decimals != [] && decimals.all Symbol.isDigit
      | _ => false)

/-- The readings of an argument that spells no option in full: a long one shortened, or a short one
with its value right behind it. -/
def readings (argument : Text) : List (Text × Flag × Option Text) :=
  if separator.isPrefixOf argument then
    let stem := Text.before '=' argument
    let attached := (Text.cut '=' argument).map Prod.snd
    (Flag.spellings.filter (stem.isPrefixOf ·.1)).map fun (spelling, flag) =>
      (spelling, flag, attached)
  else
    (Flag.spellings.filter (·.1 = argument.take 2)).map fun (spelling, flag) =>
      (spelling, flag, some (argument.drop 2))

/-- An option spelled in full, alone or with a value behind `=`. -/
def inFull (argument : Text) : Option Kind :=
  match Flag.spellings.lookup argument with
  | some flag => some (.flag flag none)
  | none => do
    let (spelling, value) ← Text.cut '=' argument
    let flag ← Flag.spellings.lookup spelling
    return .flag flag (some value)

def kindOf (argument : Text) : Except UsageError Kind :=
  if argument.head? ≠ some dash ∨ argument = [dash] then .ok .word
  else
    match inFull argument with
    | some kind => .ok kind
    | none =>
      match readings argument with
      | [(_, flag, attached)] => .ok (.flag flag attached)
      | [] =>
        if isNegativeNumber argument ∨ .char ' ' ∈ argument then .ok .word else .ok .unknown
      | several => .error (.ambiguous argument (several.map Prod.fst))

def tellApart : List Text → Except UsageError (List (Text × Kind))
  | [] => .ok []
  | argument :: rest =>
    if argument = separator then
      .ok ((argument, .separator) :: rest.map fun later => (later, .word))
    else do
      let kind ← kindOf argument
      let others ← tellApart rest
      return (argument, kind) :: others

/-- What the options and the environment settle. A setting is missing when its value was `--`, which
is taken away as the end of the options. -/
structure Choice where
  prompt : Option Text
  logLevel : Option Text
  leftOver : List Text
  deriving DecidableEq, Repr

/-- Why the shell is not entered. -/
inductive Stop where
  | help
  | version
  | misuse (error : UsageError)
  deriving DecidableEq, Repr

/-- Help takes no value. More of the letter behind the short spelling asks for help again; anything
else that is attached is refused. -/
def helpStop (argument : Text) (attached : Option Text) : Stop :=
  match attached with
  | none => .help
  | some value =>
    if separator.isPrefixOf argument then .misuse (.valueIgnored .help value)
    else
      let rest := value.dropWhile (· = .char 'h')
      if value ≠ [] ∧ rest = [] then .help else .misuse (.valueIgnored .help rest)

def versionStop (attached : Option Text) : Stop :=
  match attached with
  | none => .version
  | some value => .misuse (.valueIgnored .version value)

/-- The choice with a setting taken from the command line. Only a level has to be one of the known.
-/
def Choice.set (choice : Choice) (which : Setting) (value : Text) : Except Stop Choice :=
  let kept := if value = separator then none else some value
  match which with
  | .prompt => .ok { choice with prompt := kept }
  | .logLevel =>
    match kept.map Text.upper with
    | none => .ok { choice with logLevel := none }
    | some level =>
      if level ∈ Level.all.map Level.name then .ok { choice with logLevel := some level }
      else .error (.misuse (.levelUnknown level))

/-- Lets the options act, from the first to the last. -/
def act (choice : Choice) : List (Text × Kind) → Except Stop Choice
  | [] => .ok choice
  | (argument, kind) :: rest =>
    match kind with
    | .flag .help attached => .error (helpStop argument attached)
    | .flag .version attached => .error (versionStop attached)
    | .flag (.setting which) (some value) => do act (← choice.set which value) rest
    | .flag (.setting which) none =>
      match rest with
      | (value, .word) :: later => do act (← choice.set which value) later
      | _ => .error (.misuse (.valueMissing (.setting which)))
    | .word | .separator | .unknown =>
      act { choice with leftOver := choice.leftOver ++ [argument] } rest

def parse (settings : Settings) (arguments : List Text) : Except Stop Choice :=
  match tellApart arguments with
  | .error error => .error (.misuse error)
  | .ok kinds =>
    match act ⟨some settings.prompt, some settings.logLevel.upper, []⟩ kinds with
    | .error stop => .error stop
    | .ok choice =>
      if choice.leftOver = [] then .ok choice
      else .error (.misuse (.unrecognized choice.leftOver))

end Options

end PlainShell
