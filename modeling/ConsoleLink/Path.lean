/-!
# Paths

* `Path.parent?` is the path without its last component.  Repeated and trailing
  slashes do not count, nor do inner and trailing dots; the root and the empty
  path have no parent.
* `Path.directory` is the directory of a file: its parent, or the current
  directory where there is none.
-/

namespace ConsoleLink.Path

/-- The length of the part of a path that is no component of its own: the slash of
the root, or a leading dot. -/
def headLength : List Char → Nat
  | '/' :: _ => 1
  | ['.'] => 1
  | '.' :: '/' :: _ => 1
  | _ => 0

/-- What stands behind the last slash. -/
def lastPart (body : List Char) : List Char := (body.reverse.takeWhile (· != '/')).reverse

/-- What stands before the last slash. -/
def beforeLast (body : List Char) : List Char :=
  ((body.reverse.dropWhile (· != '/')).drop 1).reverse

/-- What stands before the last part of something is shorter. -/
theorem length_beforeLast_lt {body : List Char} (h : body ≠ []) :
    (beforeLast body).length < body.length := by
  simp only [beforeLast, List.length_reverse, List.length_drop]
  have hle : (body.reverse.dropWhile (· != '/')).length ≤ body.reverse.length :=
    (List.dropWhile_sublist _).length_le
  have hpos : 0 < body.length := List.length_pos_iff.2 h
  simp only [List.length_reverse] at hle
  omega

/-- A body without empty parts and dots at its end. -/
def trimmed (body : List Char) : List Char :=
  if _h : body = [] then []
  else if lastPart body = [] ∨ lastPart body = ['.'] then trimmed (beforeLast body)
  else body
termination_by body.length
decreasing_by exact length_beforeLast_lt _h

/-- The path without its last component. -/
def parent? (path : String) : Option String :=
  let cs := path.toList
  let head := cs.take (headLength cs)
  let body := trimmed (cs.drop (headLength cs))
  if body = [] then if head = ['.'] then some "" else none
  else some (String.ofList (head ++ trimmed (beforeLast body)))

/-- The directory of a file. -/
def directory (path : String) : String :=
  match parent? path with
  | none => "."
  | some parent => if parent.isEmpty then "." else parent

end ConsoleLink.Path
