/-
# Words of a command line

Each word of a command line is a value, an option, or the word `--`, after which everything is a
value.  An option may be written in full, with its value attached after `=`, or shortened to a
start that no other option has.  A word that begins with `-` is a value all the same if it is a
negative number or holds a space; any other one is an option that does not exist.
-/
import Jenkinsfile.Text.Digits

namespace Jenkinsfile.Command

/-! ## 1. Options -/

/-- What a word of the command line can ask for. -/
inductive Opt
  | help
  | outline
  | render
  | insertStage
  | step
  | index
  | beforeStep
  | strict
  | indent
  | emitJson
  | printHash
  | out
  | logLevel
  deriving DecidableEq, Repr

namespace Opt

/-- The long spelling of an option. -/
def name : Opt → Text
  | .help => "--help".toList
  | .outline => "--outline".toList
  | .render => "--render".toList
  | .insertStage => "--insert-stage".toList
  | .step => "--step".toList
  | .index => "--index".toList
  | .beforeStep => "--before-step".toList
  | .strict => "--strict".toList
  | .indent => "--indent".toList
  | .emitJson => "--emit-json".toList
  | .printHash => "--print-hash".toList
  | .out => "--out".toList
  | .logLevel => "--log-level".toList

/-- The only short spelling, that of `help`. -/
def shortHelp : Text := "-h".toList

/-- Every spelling with its option. -/
def spellings : List (Text × Opt) :=
  (shortHelp, .help) :: [.help, .outline, .render, .insertStage, .step, .index, .beforeStep,
    .strict, .indent, .emitJson, .printHash, .out, .logLevel].map fun opt => (opt.name, opt)

/-- An option as messages name it. -/
def shown : Opt → Text
  | .help => "-h/--help".toList
  | opt => opt.name

/-- The option is followed by a value. -/
def takesValue : Opt → Bool
  | .help | .outline | .render | .strict | .printHash => false
  | .insertStage | .step | .index | .beforeStep | .indent | .emitJson | .out | .logLevel => true

end Opt

/-! ## 2. Words -/

/-- What a word is. -/
inductive Word
  | value (text : Text)
  /-- The word `--`, the first time. -/
  | terminator
  /-- An option, with the value that is attached to it. -/
  | option (opt : Opt) (attached : Option Text)
  /-- An option that does not exist. -/
  | unknown (text : Text)
  deriving DecidableEq, Repr

/-- A word that is short for several options. -/
structure Ambiguous where
  word : Text
  candidates : List Text
  deriving DecidableEq, Repr

/-- A text at its first `=`: what stands before it, and what stands after it. -/
def splitAttached (word : Text) : Text × Option Text :=
  match word.dropWhile (· ≠ '=') with
  | [] => (word, none)
  | _ :: attached => (word.takeWhile (· ≠ '='), some attached)

/-- A minus sign and decimal digits of any script, with at most one decimal point that digits
follow.  A line feed may stand at the end. -/
def isNegativeNumber (word : Text) : Bool :=
  let isDigit (c : Char) : Bool := (digitValue? c).isSome
  match word with
  | '-' :: t =>
    let number := if t.getLast? = some '\n' then t.dropLast else t
    match number.dropWhile isDigit with
    | [] => !number.isEmpty
    | '.' :: places => !places.isEmpty && places.all isDigit
    | _ => false
  | _ => false

/-- The options that a word could be short for, with what is attached to it.  A word with one dash
can only be the short option with something attached. -/
def candidates (word : Text) : List (Text × Opt × Option Text) :=
  match word with
  | '-' :: '-' :: _ =>
    let (start, attached) := splitAttached word
    (Opt.spellings.filter fun s => start.isPrefixOf s.1).map fun s => (s.1, s.2, attached)
  | _ =>
    (Opt.spellings.filter fun s => s.1 = word.take 2).map fun s => (s.1, s.2, some (word.drop 2))

/-- An option with what is attached to it.  The short option may be repeated within its word, so
its letter, attached to it, is no value. -/
def optionWord (spelling : Text) (opt : Opt) (attached : Option Text) : Word :=
  match attached with
  | none => .option opt none
  | some value =>
    if spelling = Opt.shortHelp ∧ value ≠ [] then
      match value.dropWhile (· = 'h') with
      | [] => .option opt none
      | rest => .option opt (some rest)
    else .option opt (some value)

/-- The option that a word spells out, with what is attached to it. -/
def spelledOut? (word : Text) : Option Word :=
  match Opt.spellings.lookup word with
  | some opt => some (.option opt none)
  | none =>
    match splitAttached word with
    | (start, some attached) =>
      (Opt.spellings.lookup start).map fun opt => optionWord start opt (some attached)
    | (_, none) => none

/-- What a word is that begins with a dash and something after it. -/
def dashedWord (word : Text) : Except Ambiguous Word :=
  match spelledOut? word with
  | some w => .ok w
  | none =>
    match candidates word with
    | [(spelling, opt, attached)] => .ok (optionWord spelling opt attached)
    | [] =>
      if isNegativeNumber word || word.contains ' ' then .ok (.value word)
      else .ok (.unknown word)
    | several => .error ⟨word, several.map (·.1)⟩

/-- What each word of a command line is. -/
def readWords : List Text → Except Ambiguous (List Word)
  | [] => .ok []
  | word :: words =>
    if word = ['-', '-'] then .ok (.terminator :: words.map .value)
    else do
      let first ←
        match word with
        | '-' :: _ :: _ => dashedWord word
        | _ => .ok (.value word)
      return first :: (← readWords words)

end Jenkinsfile.Command
