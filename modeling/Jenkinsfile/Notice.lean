/-
# The log

Two things are worth a line in the log: that a lenient reading recovered from something, which is
a warning, and that a stage was inserted, which is information.
-/
import Jenkinsfile.Parse
import Jenkinsfile.Stages.Insert

namespace Jenkinsfile

/-! ## 1. Levels -/

/-- How important a line of the log is, or has to be in order to be shown. -/
inductive LogLevel
  | debug
  | info
  | warning
  | error
  | critical
  deriving DecidableEq, Repr

namespace LogLevel

/-- Every level, the least important first. -/
def all : List LogLevel := [.debug, .info, .warning, .error, .critical]

def label : LogLevel → Text
  | .debug => "DEBUG".toList
  | .info => "INFO".toList
  | .warning => "WARNING".toList
  | .error => "ERROR".toList
  | .critical => "CRITICAL".toList

/-- The rank of a level among all levels. -/
def severity : LogLevel → Nat
  | .debug => 0
  | .info => 1
  | .warning => 2
  | .error => 3
  | .critical => 4

/-- The level with a label. -/
def ofLabel? (label : Text) : Option LogLevel := all.find? fun level => level.label = label

end LogLevel

/-! ## 2. Notices -/

/-- A line of the log. -/
inductive Notice
  /-- A lenient reading recovered from something. -/
  | recovered (recovery : Recovery)
  /-- A stage with so many steps was inserted at a position. -/
  | inserted (header : Text) (index steps : Nat)
  deriving DecidableEq, Repr

namespace Notice

def level : Notice → LogLevel
  | .recovered _ => .warning
  | .inserted .. => .info

/-- The part of the program a notice comes from. -/
def source : Notice → Text
  | .recovered _ => "jenkinsweave.parser".toList
  | .inserted .. => "jenkinsweave.stages".toList

def message : Notice → Text
  | .recovered recovery => recovery.message
  | .inserted header index steps =>
    "inserted ".toList ++ header ++ " at index ".toList ++ Text.ofNat index ++ " (".toList
      ++ Text.ofNat steps ++ " steps)".toList

/-- A notice as a line. -/
def line (n : Notice) : Text :=
  n.level.label ++ [' '] ++ n.source ++ ": ".toList ++ n.message

/-- The lines of a log that shows notices from a level on. -/
def log (threshold : LogLevel) (notices : List Notice) : Text :=
  let shown := notices.filter fun n => threshold.severity ≤ n.level.severity
  shown.flatMap fun n => n.line ++ ['\n']

end Notice

/-- What a reading leaves in the log. -/
def Parsed.notices (r : Parsed) : List Notice := r.recoveries.map .recovered

/-- What an insertion leaves in the log. -/
def Insertion.notice (i : Insertion) : Notice := .inserted i.stage.name i.index i.steps

end Jenkinsfile
