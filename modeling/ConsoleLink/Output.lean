/-!
# Putting output together

A child prints fragments.  They become lines here, and a line is given out as
soon as its line feed has arrived.

A fragment may start over at the beginning of the line, to redraw it.  It is held
back until the next one, which may replace it.  A redraw that starts with a line
feed lets the held one stand, ends its line and is held in its place.

* `Output` is what has not been given out: the unfinished line and the held redraw.
* `splitLines` cuts a text into its lines and what follows the last line feed.
* `Output.feed` takes a fragment and gives the lines that it completed.
* `Output.finish` gives out the rest.
-/

namespace ConsoleLink

/-- Output that has not been given out yet. -/
structure Output where
  /-- The characters of the unfinished line. -/
  tail : List Char := []
  /-- The redraw that is held back. -/
  held : Option (List Char) := none
  deriving DecidableEq, Repr

/-- The lines of a text, without their line feeds, and what follows the last one. -/
def splitLines : List Char → List (List Char) × List Char
  | [] => ([], [])
  | c :: rest =>
    match splitLines rest with
    | (lines, tail) =>
      if c = '\n' then ([] :: lines, tail)
      else
        match lines with
        | [] => ([], c :: tail)
        | line :: more => ((c :: line) :: more, tail)

namespace Output

/-- Adds characters to the unfinished line and gives the lines that they complete. -/
def append (o : Output) (cs : List Char) : List (List Char) × Output :=
  match splitLines (o.tail ++ cs) with
  | (lines, tail) => (lines, { o with tail := tail })

/-- Lets the held redraw stand. -/
def commit (o : Output) : List (List Char) × Output :=
  match o.held with
  | none => ([], o)
  | some cs => { o with held := none }.append cs

/-- Takes a fragment and gives the lines that it completed. -/
def feed (o : Output) (message : List Char) (fromBeginning : Bool) :
    List (List Char) × Output :=
  match fromBeginning, message with
  | false, cs =>
    let (before, o) := o.commit
    let (after, o) := o.append cs
    (before ++ after, o)
  | true, '\n' :: rest =>
    let (before, o) := o.commit
    let (after, o) := o.append ['\n']
    (before ++ after, { o with held := some rest })
  | true, cs => ([], { o with held := some cs })

/-- Gives out everything: the lines of the held redraw and the unfinished line. -/
def finish (o : Output) : List (List Char) × Output :=
  let (lines, o) := o.commit
  (if o.tail.isEmpty then lines else lines ++ [o.tail], { o with tail := [] })

/-- Nothing is left when output is finished. -/
theorem finish_snd (o : Output) : o.finish.2 = {} := by
  rcases o with ⟨tail, _ | cs⟩ <;> rfl

end Output

end ConsoleLink
