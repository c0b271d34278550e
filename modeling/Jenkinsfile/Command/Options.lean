/-
# Options of a run

`Request.ofArguments` reads a command line: which file to read, what to do with it and where to
put the result.  The first thing that is wrong is reported (`UsageError`); words that mean nothing
are reported only when nothing else is wrong with the words, and what the options require of each
other only after that.
-/
import Jenkinsfile.Command.Words
import Jenkinsfile.Notice
import Jenkinsfile.Text.Quoted
import Jenkinsfile.Text.Uppercase

namespace Jenkinsfile.Command

/-! ## 1. Usage errors -/

/-- Why a command line is refused. -/
inductive UsageError
  /-- A word is short for several options. -/
  | ambiguous (word : Ambiguous)
  /-- An option is not followed by its value. -/
  | missingValue (opt : Opt)
  /-- An option that takes no value has one attached. -/
  | extraValue (opt : Opt) (value : Text)
  /-- The value of an option is not an integer. -/
  | notInteger (opt : Opt) (value : Text)
  /-- This is no level of the log. -/
  | notLevel (value : Text)
  /-- Two options exclude each other, of which the second came first. -/
  | conflict (opt other : Opt)
  /-- There are words that mean nothing. -/
  | unrecognized (words : List Text)
  /-- Something is said about a new stage, and none is asked for. -/
  | needsStage
  /-- It is not said where the new stage goes. -/
  | needsPosition
  /-- A run that inserts a stage writes the whole file. -/
  | outlineOfEdit
  /-- Indentation cannot be negative. -/
  | negativeIndent
  deriving DecidableEq, Repr

namespace UsageError

/-- A message about one option. -/
def about (opt : Opt) (text : Text) : Text :=
  "argument ".toList ++ opt.shown ++ ": ".toList ++ text

def message : UsageError → Text
  | .ambiguous word =>
    "ambiguous option: ".toList ++ word.word ++ " could match ".toList
      ++ ", ".toList.intercalate word.candidates
  | .missingValue opt => about opt "expected one argument".toList
  | .extraValue opt value =>
    about opt ("ignored explicit argument ".toList ++ Text.quoted value)
  | .notInteger opt value => about opt ("invalid int value: ".toList ++ Text.quoted value)
  | .notLevel value =>
    about .logLevel ("invalid choice: ".toList ++ Text.quoted value ++ " (choose from ".toList
      ++ ", ".toList.intercalate (LogLevel.all.map fun level => Text.quoted level.label) ++ [')'])
  | .conflict opt other => about opt ("not allowed with argument ".toList ++ other.shown)
  | .unrecognized words => "unrecognized arguments: ".toList ++ [' '].intercalate words
  | .needsStage => "--step/--index/--before-step require --insert-stage".toList
  | .needsPosition => "--insert-stage needs --index or --before-step".toList
  | .outlineOfEdit => "--outline cannot be combined with --insert-stage".toList
  | .negativeIndent => "--indent must be >= 0".toList

end UsageError

/-! ## 2. Options -/

/-- What a run is asked to do. -/
structure Options where
  /-- The file to read; an empty path and `-` mean the standard input. -/
  path : Option Text := none
  outline : Bool := false
  render : Bool := false
  insertStage : Option Text := none
  steps : List Text := []
  /-- Where the stage goes: an integer, or nothing that could be a position. -/
  index : Option Json := none
  /-- What a step has to hold for the stage to go before it: a text, or nothing that a step could
  hold. -/
  beforeStep : Option Json := none
  strict : Bool := false
  indent : Int := 4
  emitJson : Option Text := none
  printHash : Bool := false
  out : Option Text := none
  logLevel : LogLevel := .warning

namespace Options

/-- Sets an option that takes no value. -/
def setFlag (o : Options) : Opt → Except UsageError Options
  | .outline =>
    if o.render then .error (.conflict .outline .render) else .ok { o with outline := true }
  | .render =>
    if o.outline then .error (.conflict .render .outline) else .ok { o with render := true }
  | .strict => .ok { o with strict := true }
  | .printHash => .ok { o with printHash := true }
  | opt => .error (.missingValue opt)

/-- The integer that the value of an option denotes. -/
def integer (opt : Opt) (value : Text) : Except UsageError Int :=
  match Text.toInt? value with
  | some n => .ok n
  | none => .error (.notInteger opt value)

/-- Sets the position of the new stage, unless it is given by a step already. -/
def setIndex (o : Options) (index : Json) : Except UsageError Options :=
  if o.beforeStep.isSome then .error (.conflict .index .beforeStep)
  else .ok { o with index := some index }

/-- Sets the step that the new stage goes before, unless its position is given already. -/
def setBeforeStep (o : Options) (needle : Json) : Except UsageError Options :=
  if o.index.isSome then .error (.conflict .beforeStep .index)
  else .ok { o with beforeStep := some needle }

/-- Sets an option to a value.  A later value replaces an earlier one, but steps add up. -/
def setValue (o : Options) (opt : Opt) (value : Text) : Except UsageError Options :=
  match opt with
  | .insertStage => .ok { o with insertStage := some value }
  | .step => .ok { o with steps := o.steps ++ [value] }
  | .index => do o.setIndex (.int (← integer opt value))
  | .beforeStep => o.setBeforeStep (.text value)
  | .indent => do return { o with indent := ← integer opt value }
  | .emitJson => .ok { o with emitJson := some value }
  | .out => .ok { o with out := some value }
  | .logLevel =>
    match LogLevel.ofLabel? (Text.upper value) with
    | some level => .ok { o with logLevel := level }
    | none => .error (.notLevel (Text.upper value))
  | opt => .error (.extraValue opt value)

/-- Sets an option to no value, an empty list of values.  This takes a file name or a level back;
a step is left empty and an indentation below zero, which is refused when they are used; elsewhere
the empty list stands for itself where it can be shown. -/
def setNoValue (o : Options) (opt : Opt) : Except UsageError Options :=
  match opt with
  | .insertStage => .ok { o with insertStage := some (Json.array []).shown }
  | .step => .ok { o with steps := o.steps ++ [[]] }
  | .index => o.setIndex (.array [])
  | .beforeStep => o.setBeforeStep (.array [])
  | .indent => .ok { o with indent := -1 }
  | .emitJson => .ok { o with emitJson := none }
  | .out => .ok { o with out := none }
  | .logLevel => .ok { o with logLevel := .warning }
  | opt => .error (.extraValue opt ['-', '-'])

/-- Sets an option to the value attached to it, where `--` is no value. -/
def setAttached (o : Options) (opt : Opt) (value : Text) : Except UsageError Options :=
  if !opt.takesValue then .error (.extraValue opt value)
  else if value = ['-', '-'] then o.setNoValue opt
  else o.setValue opt value

/-- The step that the new stage goes before is said, and not left empty. -/
def namesStep (o : Options) : Bool :=
  match o.beforeStep with
  | some (.text (_ :: _)) => true
  | _ => false

/-- What the options require of each other. -/
def check (o : Options) : Except UsageError Unit :=
  let aboutStage := !o.steps.isEmpty || o.index.isSome || o.namesStep
  if o.insertStage.isNone && aboutStage then .error .needsStage
  else if o.insertStage.isSome && o.index.isNone && o.beforeStep.isNone then
    .error .needsPosition
  else if o.outline && o.insertStage.isSome then .error .outlineOfEdit
  else if o.indent < 0 then .error .negativeIndent
  else .ok ()

end Options

/-! ## 3. Command lines -/

/-- A command line that has been read in part: the options so far, whether a file may still be
named, and the words that mean nothing. -/
structure Reading where
  options : Options
  pathOpen : Bool
  extra : List Text

namespace Reading

/-- Nothing read yet. -/
def empty : Reading := ⟨{}, true, []⟩

/-- Names the file. -/
def setPath (r : Reading) (path : Text) : Reading :=
  { r with options := { r.options with path := some path }, pathOpen := false }

/-- Adds a word that means nothing. -/
def addExtra (r : Reading) (word : Text) : Reading := { r with extra := r.extra ++ [word] }

/-- Reads the words of a command line; there is no result when help is asked for.  The first value
that no option takes names the file, and a terminator next to it belongs to it; a terminator
anywhere else means nothing. -/
def read (r : Reading) : List Word → Except UsageError (Option Reading)
  | [] => .ok (some r)
  | .value path :: .terminator :: words =>
    if r.pathOpen then read (r.setPath path) words
    else read (r.addExtra path |>.addExtra ['-', '-']) words
  | .value path :: words =>
    if r.pathOpen then read (r.setPath path) words else read (r.addExtra path) words
  | .terminator :: .value path :: words =>
    if r.pathOpen then read (r.setPath path) words
    else read (r.addExtra ['-', '-'] |>.addExtra path) words
  | .terminator :: words =>
    if r.pathOpen then read { r with pathOpen := false } words
    else read (r.addExtra ['-', '-']) words
  | .unknown word :: words => read (r.addExtra word) words
  | .option opt (some value) :: words => do
    read { r with options := ← r.options.setAttached opt value } words
  | .option .help none :: _ => .ok none
  | .option opt none :: .value value :: words =>
    if opt.takesValue then do
      read { r with options := ← r.options.setValue opt value } words
    else do
      read { r with options := ← r.options.setFlag opt } (.value value :: words)
  | .option opt none :: words =>
    if opt.takesValue then .error (.missingValue opt)
    else do
      read { r with options := ← r.options.setFlag opt } words

end Reading

/-- What a command line asks for. -/
inductive Request
  | help
  | run (options : Options)

/-- Reads the arguments of a command line. -/
def Request.ofArguments (arguments : List Text) : Except UsageError Request := do
  let words ← (readWords arguments).mapError .ambiguous
  match ← Reading.empty.read words with
  | none => return .help
  | some r =>
    if r.extra.isEmpty then
      r.options.check
      return .run r.options
    else .error (.unrecognized r.extra)

end Jenkinsfile.Command
