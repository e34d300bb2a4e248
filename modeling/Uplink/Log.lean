/-
Module: Uplink.Log
Purpose: Log lines as values: a level, a target, a message and named fields.
Main exports: LogLevel, LogLine, LogLine.text
-/

namespace Uplink

/-- How serious a log line is. -/
inductive LogLevel where
  | trace
  | debug
  | info
  | warn
  | error
deriving DecidableEq, Repr, Inhabited

/-- The name of a level. -/
def LogLevel.text : LogLevel → String
  | trace => "TRACE"
  | debug => "DEBUG"
  | info => "INFO"
  | warn => "WARN"
  | error => "ERROR"

/-- A log line.  Fields keep the order in which they were given. -/
structure LogLine where
  level : LogLevel
  target : String
  message : String
  fields : List (String × String)
deriving DecidableEq, Repr, Inhabited

/-- Level, target and message, then each field as `name=value`. -/
def LogLine.text (line : LogLine) : String :=
  " ".intercalate
    ([line.level.text, line.target, line.message]
      ++ line.fields.map fun (name, value) => name ++ "=" ++ value)

/-- The text of a truth value. -/
def flagText (flag : Bool) : String :=
  if flag then "true" else "false"

end Uplink
