import LevelForge.Text.Numeral

/-!
# Command line options

The command line of the preview: one level id, and options that may stand anywhere. An option may
be cut short as long as it stays unambiguous, its value may follow an equals sign, a word that
looks like a negative number is a value, and behind `--` everything is. An option with `--` behind
its equals sign is left without a value, which the program notices only when it needs the value.

Words are classified first and acted on from left to right afterwards. An ambiguous option stops
the program at once; a bad option or value stops it when its turn comes, and words nobody asked
for only when all others have been acted on.
-/

namespace LevelForge.Preview

/-- What an option that takes a value was given. -/
inductive Argument (α : Type) where
  | value (value : α)
  -- nothing in the place of a value
  | missing
  deriving DecidableEq, Repr

/-- What the command line asks for. -/
structure Options where
  level : Option String := none
  levelsDirectory : Option (Argument String) := none
  -- the column up to which the level is built
  width : Argument Int := .value 80
  seed : Option (Argument Int) := none
  -- whether the level is played as the level of the day
  daily : Bool := false
  structures : Bool := false
  deriving DecidableEq, Repr

/-- Why the command line stops the program. -/
inductive Stop where
  | help
  | usage
  deriving DecidableEq, Repr

/-- The exit code of a program stopped by its command line. -/
def Stop.exitCode : Stop → Nat
  | .help => 0
  | .usage => 2

namespace Options

/-- The options by name. -/
inductive Name where
  | help
  | levelsDirectory
  | width
  | seed
  -- play the level of the day
  | daily
  | structures
  deriving DecidableEq, Repr

/-- The long spellings of the options. -/
def spellings : List (String × Name) :=
  [("--help", .help), ("--levels-dir", .levelsDirectory), ("--width", .width), ("--seed", .seed),
   ("--daily", .daily), ("--structures", .structures)]

/-- Whether an option takes a value. -/
def Name.takesValue : Name → Bool
  | .levelsDirectory | .width | .seed => true
  | .help | .daily | .structures => false

/-- A word of the command line. -/
inductive Word where
  | value (text : String)
  | separator
  -- an option, with the value that is attached to it
  | option (name : Name) (attached : Option String)
  -- an option that stops the program as bad
  | bad
  | unknown
  deriving DecidableEq, Repr

/-- Whether characters are one or more decimal digits, a line feed at the end being passed
over. -/
def areDigits (text : List Char) : Bool :=
  match text.reverse with
  | [] => false
  | '\n' :: rest => !rest.isEmpty && rest.all Text.isDecimalDigit
  | rest => rest.all Text.isDecimalDigit

/-- Whether a word looks like a negative number: a hyphen and digits, or digits with a decimal
point before the last ones. -/
def looksNegative (word : List Char) : Bool :=
  match word with
  | '-' :: rest =>
    areDigits rest ||
      (match rest.dropWhile Text.isDecimalDigit with
       | '.' :: decimals => areDigits decimals
       | _ => false)
  | _ => false

/-- A word that starts with the short option `-h`, by what follows: a run of further short options,
of which only `h` is known, with an equals sign allowed in front of it. A run that holds anything
else is bad as a whole. -/
def shortRun (rest : List Char) : Word :=
  let run :=
    match rest with
    | '=' :: 'h' :: run => run
    | run => run
  if run.all (· == 'h') then .option .help none else .bad

/-- An option spelled out, with the value attached to it. -/
def spelled (name : Name) (attached : Option String) : Word :=
  if attached.isSome && !name.takesValue then .bad else .option name attached

/-- Split a word at its first equals sign. -/
def splitValue (word : List Char) : List Char × Option String :=
  match word.dropWhile (· != '=') with
  | [] => (word, none)
  | _ :: value => (word.takeWhile (· != '='), some (String.ofList value))

/-- A word that is no option: a value if it looks like a negative number or holds a space. -/
def unrecognised (word : List Char) : Word :=
  if looksNegative word || word.contains ' ' then .value (String.ofList word) else .unknown

/-- Classify a word, or stop because it is ambiguous. -/
def classifyWord (word : List Char) : Except Stop Word :=
  match word with
  | [] | ['-'] => .ok (.value (String.ofList word))
  | '-' :: '-' :: _ =>
    let (name, attached) := splitValue word
    match spellings.find? fun s => s.1.toList == name with
    | some (_, exact) => .ok (spelled exact attached)
    | none =>
      match spellings.filter fun s => name.isPrefixOf s.1.toList with
      | [] => .ok (unrecognised word)
      | [(_, only)] => .ok (spelled only attached)
      | _ => .error .usage
  | '-' :: 'h' :: rest => .ok (shortRun rest)
  | '-' :: _ => .ok (unrecognised word)
  | _ => .ok (.value (String.ofList word))

/-- Classify the words of a command line. -/
def classify : List String → Except Stop (List Word)
  | [] => .ok []
  | word :: rest =>
    if word = "--" then .ok (.separator :: rest.map .value)
    else do
      let first ← classifyWord word.toList
      return first :: (← classify rest)

/-- What is given to an option in words: nothing if they are two hyphens, and otherwise what they
are read as, if they can be read. -/
def readArgument (read : String → Option α) (text : String) : Except Stop (Argument α) :=
  if text = "--" then .ok .missing
  else
    match read text with
    | none => .error .usage
    | some value => .ok (.value value)

/-- The options with something given to one of them. -/
def give (o : Options) (name : Name) (text : String) : Except Stop Options :=
  match name with
  | .levelsDirectory => return { o with levelsDirectory := some (← readArgument some text) }
  | .width => return { o with width := ← readArgument Text.readInt text }
  | .seed => return { o with seed := some (← readArgument Text.readInt text) }
  | .help | .daily | .structures => .error .usage

/-- Act on an option that takes no value. -/
def switch (o : Options) (name : Name) : Except Stop Options :=
  match name with
  | .daily => .ok { o with daily := true }
  | .structures => .ok { o with structures := true }
  | .help => .error .help
  | .levelsDirectory | .width | .seed => .error .usage

/-- Act on words from left to right. The first value is the level id, and a separator next to it
belongs to it; any other separator or value is left over, and so is an unknown option. -/
def act (o : Options) (leftOver : Bool) : List Word → Except Stop Options
  | [] => if leftOver then .error .usage else .ok o
  | .value text :: .separator :: rest =>
    if o.level.isNone then act { o with level := some text } leftOver rest
    else act o true rest
  | .value text :: rest =>
    if o.level.isNone then act { o with level := some text } leftOver rest
    else act o true rest
  | .separator :: rest => act o (leftOver || o.level.isSome) rest
  | .option name (some value) :: rest => do act (← o.give name value) leftOver rest
  | .option name none :: rest =>
    if name.takesValue then
      match rest with
      | .value text :: rest => do act (← o.give name text) leftOver rest
      | _ => .error .usage
    else do act (← o.switch name) leftOver rest
  | .bad :: _ => .error .usage
  | .unknown :: rest => act o true rest

/-- The options of a command line. -/
def parse (words : List String) : Except Stop Options := do
  act {} false (← classify words)

end Options

end LevelForge.Preview
