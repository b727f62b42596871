import ConsoleLink.Files
import ConsoleLink.Process.Child
import ConsoleLink.Process.Script
import ConsoleLink.Text.Hex

/-!
# Programs that can be started

A small file system and the programs in it: a shell that knows a few commands, the
sample console, a program that posts its arguments as messages, and programs that only
return a code.

* `Programs.files` is the file system.
* `Programs.start` starts a program as some child, and `Programs.find` as the child of
  its command line.
* `Programs.scripted` is the child of a shell script, and `Programs.report` what a
  program writes about its own start.
* `Message.parse` reads a message from its text.
-/

namespace ConsoleLink

/-- Reads a message: its parts stand between commas, each an offset, a colon and bytes in
hexadecimal. -/
def Message.parse (text : String) : Message :=
  (text.splitOn ",").map fun part =>
    match part.splitOn ":" with
    | [offset, hex] => (offset.toNat?.getD 0, Hex.decode hex.toList)
    | _ => (0, [])

namespace Programs

/-- The programs. -/
inductive Executable
  | shell
  | console
  | messenger
  /-- It only returns a code, whatever its arguments are. -/
  | constant (code : Nat)
  deriving DecidableEq, Repr

/-! ## Files -/

/-- The shell. -/
def shellPath : String := "/bin/sh"

/-- The sample console. -/
def samplePath : String := "/opt/console/sample-console"

/-- The program that posts its arguments. -/
def messengerPath : String := "/opt/console/messenger"

/-- The directories. -/
def directories : List (List String) :=
  [["boot"], ["dev"], ["dev", "shm"], ["etc"], ["home"], ["media"], ["mnt"], ["opt"],
   ["opt", "console"], ["opt", "console", "work"], ["proc"], ["root"], ["run"], ["srv"], ["sys"],
   ["tmp"], ["usr"], ["usr", "bin"], ["usr", "include"], ["usr", "lib"], ["usr", "lib64"],
   ["usr", "local"], ["usr", "local", "bin"], ["usr", "local", "sbin"], ["usr", "sbin"],
   ["usr", "share"], ["usr", "src"], ["var"], ["var", "cache"], ["var", "lib"], ["var", "log"],
   ["var", "tmp"]]

/-- The directories that have another name at the root. -/
def linked : List String := ["bin", "sbin", "lib", "lib64"]

/-- The programs and where they are. -/
def executables : List (List String × Executable) :=
  [(["opt", "console", "sample-console"], .console), (["opt", "console", "messenger"], .messenger),
   (["usr", "bin", "sh"], .shell), (["usr", "bin", "dash"], .shell),
   (["usr", "bin", "bash"], .shell),
   (["usr", "bin", "true"], .constant 0), (["usr", "bin", "false"], .constant 1),
   (["usr", "bin", "cat"], .constant 1), (["usr", "bin", "sleep"], .constant 1),
   (["usr", "bin", "ls"], .constant 2)]

/-- The files that are no programs. -/
def texts : List (List String × String) :=
  [(["etc", "passwd"], "root:x:0:0:root:/root:/bin/bash\n"), (["etc", "group"], "root:x:0:\n"),
   (["etc", "hosts"], "127.0.0.1\tlocalhost\n"), (["dev", "null"], "")]

/-- The file system. -/
def files : Files Executable where
  nodes :=
    directories.map (·, .directory) ++
      linked.map (fun name => ([name], .link ["usr", name])) ++
      executables.map (fun e => (e.1, .program e.2)) ++
      texts.map fun t => (t.1, .text t.2)
  workingDirectory := ["opt", "console", "work"]
  searchPath :=
    ["/usr/local/sbin", "/usr/local/bin", "/usr/sbin", "/usr/bin", "/sbin", "/bin"]

/-! ## Children -/

/-- The child of a script. -/
def scripted (script : String) : Child :=
  match Script.run script with
  | .going seconds code | .ended seconds code => .sleeping (seconds * Span.perSecond) code
  | .stopped => .hanging

/-- A shell that ends with a code. -/
def exiting (code : Nat) : Child := scripted ("exit " ++ Nat.repr code)

/-- A shell that sends itself a signal. -/
def dying (signal : Nat) : Child := scripted ("kill -" ++ Nat.repr signal ++ " $$")

/-- The child of the shell's arguments: a script to run.  It fails on any other arguments,
and without any it reads its input, which is empty. -/
def shell : List String → Child
  | "-c" :: script :: _ => scripted script
  | _ :: _ => .sleeping 0 Script.misuse
  | [] => .sleeping 0 0

/-- The child of a program.  The last two arguments are what the controller adds. -/
def Executable.child (arguments : List String) : Executable → Child
  | shell => Programs.shell arguments
  | console => .console arguments
  | messenger => .messenger arguments (arguments.dropLast.dropLast.map Message.parse)
  | constant code => .sleeping 0 code

/-! ## Starting -/

/-- The least number of bytes that is too many for one argument. -/
def argumentLimit : Nat := 131072

/-- Starts a program in a directory: the directory is entered, then the program is found,
then its arguments are passed on. -/
def start (l : Launch) (child : Executable → Child) : Except SystemFault Child := do
  let here ← files.enter l.workingDirectory
  let program ← here.program l.executable
  if l.arguments.any fun a => argumentLimit ≤ a.utf8ByteSize then .error .argumentsTooLong
  else .ok (child program)

/-- What a program writes that reports how it was started: the variables set for it, its
directory and its arguments, each on a line. -/
def report (l : Launch) : String :=
  let settings := l.environment.map fun assignment => assignment.1 ++ "=" ++ assignment.2
  let directory := (files.enter l.workingDirectory).toOption.map Files.currentPath
  String.join ((settings ++ directory.toList ++ l.arguments).map (· ++ "\n"))

/-- Starts the child of a command line. -/
def find (l : Launch) : Except SystemFault Child := start l (Executable.child l.arguments)

end Programs

end ConsoleLink
