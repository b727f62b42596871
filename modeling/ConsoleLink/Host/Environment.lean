/-!
# The environment of the command line

* `Environment.assignments` reads a file of assignments; a variable that is set
  already keeps its value.
* `Environment.configDirectory` and `Environment.dataDirectory` are the user's
  directories.
-/

namespace ConsoleLink

/-- The variables that the program looks at. -/
structure Environment where
  value? : String → Option String

namespace Environment

/-- A value without blanks around it and without quotes. -/
def bare (text : String) : String :=
  let text := text.trimAscii.toString
  match text.toList with
  | '"' :: rest => String.ofList (rest.takeWhile (· != '"'))
  | '\'' :: rest => String.ofList (rest.takeWhile (· != '\''))
  | _ => text

/-- The assignments in a file: a name, an equals sign and a value in each line. -/
def assignments (file : String) : List (String × String) :=
  (file.splitOn "\n").filterMap fun line =>
    match line.splitOn "=" with
    | name :: value :: rest =>
      let name := name.trimAscii.toString
      if name = "" || name.startsWith "#" then none
      else some (name, bare ("=".intercalate (value :: rest)))
    | _ => none

/-- The environment with the assignments of a file. -/
def withFile (e : Environment) (file : String) : Environment where
  value? name := (e.value? name).or ((assignments file).lookup name)

/-- A directory of the user: what a variable names, if that is an absolute path, or
else one in the home directory. -/
def userDirectory (e : Environment) (name inHome : String) : Option String :=
  match (e.value? name).filter (·.startsWith "/"), e.value? "HOME" with
  | some directory, _ => some directory
  | none, some home => some (home ++ "/" ++ inHome)
  | none, none => none

/-- Where the user's settings are kept. -/
def configDirectory (e : Environment) : Option String :=
  e.userDirectory "XDG_CONFIG_HOME" ".config"

/-- Where the user's data are kept. -/
def dataDirectory (e : Environment) : Option String :=
  e.userDirectory "XDG_DATA_HOME" ".local/share"

end Environment

end ConsoleLink
