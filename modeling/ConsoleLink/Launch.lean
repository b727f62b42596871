import ConsoleLink.Config
import ConsoleLink.Path

/-!
# How a child is started

A child is told on its command line that it is one, and by which instance name
it finds its channel.

* `Launch.of` makes the command line and the working directory, and `Launch.fault?`
  tells why it can never be started.
* `instanceOf` is what the child does to find the instance name again.
-/

namespace ConsoleLink

/-- An executable, its arguments, the directory that it starts in, and the variables that
are set for it. -/
structure Launch where
  executable : String
  arguments : List String
  workingDirectory : String
  environment : List (String × String) := []
  deriving DecidableEq, Repr

/-- The argument that carries an instance name. -/
def instanceArgument (switch name : String) : String := switch ++ "=" ++ name

/-- The caller's arguments, then the console switch, then the instance name.  A child
starts in the configured directory, or else in that of its executable. -/
def Launch.of (executable : String) (arguments : List String) (config : Config)
    (name : String) : Launch where
  executable := executable
  arguments := arguments ++ [config.consoleSwitch, instanceArgument config.instanceSwitch name]
  workingDirectory := config.workingDirectory.getD (Path.directory executable)

/-- Why nothing can be started this way, if so: the system's texts end at a NUL. -/
def Launch.fault? (l : Launch) : Option SystemFault :=
  let values := l.environment.map fun assignment => assignment.2
  if (l.executable :: l.workingDirectory :: (l.arguments ++ values)).any fun text =>
      text.toList.contains '\x00'
  then some .nulInArgument
  else none

/-- The part of a text behind a beginning, if it has that beginning. -/
def afterPrefix? : List Char → List Char → Option (List Char)
  | [], cs => some cs
  | _ :: _, [] => none
  | p :: ps, c :: cs => if p = c then afterPrefix? ps cs else none

/-- What the first argument that starts with the switch and an equals sign carries. -/
def instanceOf (switch : String) (arguments : List String) : Option String :=
  arguments.findSome? fun a =>
    (afterPrefix? (switch ++ "=").toList a.toList).map String.ofList

end ConsoleLink
