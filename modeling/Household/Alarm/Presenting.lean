import Household.Alarm.Notice

/-!
# Presenting Messages

A message is always logged. A command notifier also runs a program with the title and the body as
its two arguments, and logs a warning where that does not work out.

## Main results

* `info_mem_log`: every message is logged, whatever becomes of the program.
-/

namespace Household

/-- What becomes of a program that is to be run. -/
inductive ProgramRun
  /-- It ran and ended with this status. -/
  | exited (status : Int)
  /-- There is no such program. -/
  | notFound
deriving DecidableEq, Repr

/-- How messages are shown. -/
inductive Notifier
  /-- In the log only. -/
  | log
  /-- In the log and by a program. -/
  | command (program : String)
deriving DecidableEq, Repr

namespace Notifier

/-- The log line of a message. -/
def infoLine (m : Message) : String :=
  "INFO Notification: " ++ m.title ++ ": " ++ m.body

/-- An argument of a program cannot hold the character zero. -/
def isArgument (s : String) : Bool :=
  !s.toList.contains '\x00'

/-- The arguments that a program is given, if it is run at all. -/
def arguments? (m : Message) (run : ProgramRun) : Option (List String) :=
  match run with
  | .exited _ => if isArgument m.title && isArgument m.body then some [m.title, m.body] else none
  | .notFound => none

/-- The warning about a program that did not end well. -/
def warning? (program : String) (m : Message) (run : ProgramRun) : Option String :=
  if isArgument m.title && isArgument m.body then
    match run with
    | .exited status =>
      if status = 0 then none
      else some ("WARN " ++ program ++ " exited with exit status: "
        ++ String.ofList (Text.signed status))
    | .notFound =>
      some ("WARN Could not run " ++ program ++ ": No such file or directory (os error 2)")
  else some ("WARN Could not run " ++ program ++ ": nul byte found in provided data")

/-- The log lines of presenting a message. -/
def logLines (n : Notifier) (m : Message) (run : ProgramRun) : List String :=
  match n with
  | .log => [infoLine m]
  | .command program => infoLine m :: (warning? program m run).toList

/-- Every message is logged, whatever becomes of the program. -/
theorem info_mem_log (n : Notifier) (m : Message) (run : ProgramRun) :
    infoLine m ∈ n.logLines m run := by
  cases n <;> simp [logLines]

end Notifier

end Household
