import TraceOverhead.Number.Digits
/-!
Command lines. A word names options, is the value of the option before it, or is an operand; two
dashes alone make all later words operands. Words are read from left to right, and the first one
that cannot be accepted, or that asks for help, ends the reading.
-/

namespace TraceOverhead.CommandLine

inductive Effect (Settings : Type) where
  | help
  | switch (set : Settings → Settings)
  /-- Takes a value, which may be unfit. -/
  | valued (set? : Settings → String → Option Settings)

structure Flag (Settings : Type) where
  name : String
  letter : Option Char
  effect : Effect Settings

structure Grammar (Settings : Type) where
  flags : List (Flag Settings)
  /-- The operands in order. All of them have to be there. -/
  operands : List (Settings → String → Option Settings)

inductive Misuse where
  | unknown (word : String)
  | repeated (name : String)
  | missingValue (name : String)
  | unwantedValue (name : String)
  | badValue (value : String)
  | missingOperand
  deriving DecidableEq, Repr

def Misuse.message : Misuse → String
  | .unknown word => "unexpected argument '" ++ word ++ "' found"
  | .repeated name => "the argument '--" ++ name ++ "' cannot be used multiple times"
  | .missingValue name => "a value is required for '--" ++ name ++ "'"
  | .unwantedValue name => "no value is expected for '--" ++ name ++ "'"
  | .badValue value => "invalid value '" ++ value ++ "'"
  | .missingOperand => "a required argument was not provided"

inductive Stop where
  | help
  | misuse (misuse : Misuse)
  deriving DecidableEq, Repr

structure Progress (Settings : Type) where
  settings : Settings
  used : List String
  /-- An option whose value is the next word. -/
  awaiting : Option (Flag Settings)
  operands : List (Settings → String → Option Settings)
  operandsOnly : Bool

/-- What a word looks like. A lone dash is an operand or a value. -/
inductive Word where
  | separator
  | long (name : List Char) (value : Option (List Char))
  | short (letters : List Char)
  | plain
  deriving DecidableEq, Repr

def Word.ofChars : List Char → Word
  | ['-', '-'] => .separator
  | '-' :: '-' :: rest => match rest.dropWhile (· ≠ '=') with
    | [] => .long rest none
    | _ :: value => .long (rest.takeWhile (· ≠ '=')) (some value)
  | ['-'] => .plain
  | '-' :: letters => .short letters
  | _ => .plain

variable {Settings : Type}

namespace Progress

def misused (misuse : Misuse) : Except Stop α := .error (.misuse misuse)

/-- An option that waits for a value has to get it before anything else comes. -/
def settled (progress : Progress Settings) : Except Stop Unit :=
  match progress.awaiting with
  | some flag => misused (.missingValue flag.name)
  | none => .ok ()

def setValue (progress : Progress Settings) (flag : Flag Settings) (value : String) :
    Except Stop (Progress Settings) :=
  match flag.effect with
  | .valued set? => match set? progress.settings value with
    | some settings => .ok { progress with settings, awaiting := none }
    | none => misused (.badValue value)
  | .switch _ | .help => misused (.unwantedValue flag.name)

/-- Comes upon an option, with its value if that is attached to it. -/
def meet (progress : Progress Settings) (flag : Flag Settings) (value : Option (List Char)) :
    Except Stop (Progress Settings) := do
  progress.settled
  let again := progress.used.contains flag.name
  let progress := { progress with used := flag.name :: progress.used }
  match flag.effect, value with
  | .help, none => .error .help
  | .help, some _ | .switch _, some _ => misused (.unwantedValue flag.name)
  | .switch set, none =>
    if again then misused (.repeated flag.name)
    else .ok { progress with settings := set progress.settings }
  | .valued _, none =>
    if again then misused (.repeated flag.name)
    else .ok { progress with awaiting := some flag }
  | .valued _, some value =>
    if again then misused (.repeated flag.name)
    else progress.setValue flag (String.ofList value)

def operand (progress : Progress Settings) (word : String) : Except Stop (Progress Settings) := do
  progress.settled
  match progress.operands with
  | [] => misused (.unknown word)
  | set? :: operands => match set? progress.settings word with
    | some settings => .ok { progress with settings, operands }
    | none => misused (.badValue word)

end Progress

namespace Grammar

/-- The value that follows a letter in the same word, less an equals sign before it. -/
def attached : List Char → Option (List Char)
  | [] => none
  | '=' :: value => some value
  | value => some value

/-- Comes upon options by their letters, of which the first that takes a value ends the word. -/
def meetLetters (grammar : Grammar Settings) (progress : Progress Settings) :
    List Char → Except Stop (Progress Settings)
  | [] => .ok progress
  | letter :: letters => do
    match grammar.flags.find? fun flag => flag.letter = some letter with
    | none => Progress.misused (.unknown (String.ofList ['-', letter]))
    | some flag => match flag.effect with
      | .valued _ => progress.meet flag (attached letters)
      | .help | .switch _ => grammar.meetLetters (← progress.meet flag none) letters

def meetWord (grammar : Grammar Settings) (progress : Progress Settings) (word : String) :
    Except Stop (Progress Settings) :=
  if progress.operandsOnly then progress.operand word
  else match Word.ofChars word.toList, progress.awaiting with
    | .separator, _ => do
      progress.settled
      return { progress with operandsOnly := true }
    | .long name value, _ =>
      match grammar.flags.find? fun flag => flag.name.toList = name with
      | some flag => progress.meet flag value
      | none => Progress.misused (.unknown word)
    | .short letters, _ => grammar.meetLetters progress letters
    | .plain, some flag => progress.setValue flag word
    | .plain, none => progress.operand word

/-- The settings that a command line makes of the initial ones. -/
def read (grammar : Grammar Settings) (initial : Settings) (words : List String) :
    Except Stop Settings := do
  let progress ← words.foldlM grammar.meetWord ⟨initial, [], none, grammar.operands, false⟩
  progress.settled
  if progress.operands.isEmpty then .ok progress.settings
  else Progress.misused .missingOperand

/-- The options by name, a line each. -/
def usage (grammar : Grammar Settings) (program : String) : String :=
  "Usage: " ++ program ++ String.join (grammar.flags.map fun flag => "\n  --" ++ flag.name) ++ "\n"

end Grammar

def Flag.help : Flag Settings := ⟨"help", some 'h', .help⟩

/-- A value that is any text but the empty one. -/
def path? (value : String) : Option String := if value.isEmpty then none else some value

def natural? (value : String) : Option Nat :=
  (Number.readNatural (UInt64.size - 1) value.toList).toOption

def word? (value : String) : Option UInt64 := (natural? value).map UInt64.ofNat

/-- How a program ends: its exit status, and what it says to whoever called it. -/
structure Ending where
  status : Nat
  notice : String
  deriving DecidableEq, Repr

end TraceOverhead.CommandLine
