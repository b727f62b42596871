import ConsoleLink.Output

/-!
# Output is what a terminal shows

A terminal is told fragments one after the other.  What stands on it for good is a text,
and the last redraw may still be replaced.

* `Terminal.put` is what a fragment does, `Terminal.ofStream` what is seen after a stream
  of them.
* `Terminal.lines` cuts a text at its line feeds, `Terminal.complete` drops the line that
  has not ended.
* `Output.Renders` ties output in the making to a terminal: the lines given out, each with
  its line feed, and the unfinished line are the text that stands for good.
* `Renders.feed` keeps this over every fragment; `Renders.complete` and `Renders.finish`
  say which lines have been given out.
* `stream_refines_terminal` is what this comes to for every stream of fragments, at every
  moment and in the end.
-/

namespace ConsoleLink

/-! ## Terminals -/

/-- What a terminal shows. -/
structure Terminal where
  /-- What stands for good. -/
  text : List Char := []
  /-- The redraw that may still be replaced. -/
  redraw : Option (List Char) := none
  deriving DecidableEq, Repr

namespace Terminal

/-- Everything that is seen. -/
def shown (t : Terminal) : List Char := t.text ++ t.redraw.getD []

/-- The terminal after a fragment.  One that starts over replaces the redraw, unless it
starts with a line feed: then the redraw stands, its line ends, and the rest is the next
redraw. -/
def put (t : Terminal) (message : List Char) (fromBeginning : Bool) : Terminal :=
  if fromBeginning then
    if message.head? = some '\n' then
      { text := t.shown ++ ['\n'], redraw := some message.tail }
    else { t with redraw := some message }
  else { text := t.shown ++ message }

/-- What is seen after a stream of fragments. -/
def ofStream (stream : List (String × Bool)) : Terminal :=
  stream.foldl (fun t fragment => t.put fragment.1.toList fragment.2) {}

theorem ofStream_append (stream : List (String × Bool)) (message : String)
    (fromBeginning : Bool) :
    ofStream (stream ++ [(message, fromBeginning)]) =
      (ofStream stream).put message.toList fromBeginning := by
  rw [ofStream, List.foldl_append]
  rfl

/-- The lines of a text, the last one dropped if it is empty. -/
def lines (text : List Char) : List (List Char) :=
  let parts := text.splitOn '\n'
  if parts.getLast? = some [] then parts.dropLast else parts

/-- The lines of a text that have ended. -/
def complete (text : List Char) : List (List Char) := (text.splitOn '\n').dropLast

/-- Lines with their line feeds, and a rest, are cut where they were put together. -/
theorem splitOn_flatMap {ended : List (List Char)} {rest : List Char}
    (hended : ∀ line ∈ ended, '\n' ∉ line) (hrest : '\n' ∉ rest) :
    (ended.flatMap (· ++ ['\n']) ++ rest).splitOn '\n' = ended ++ [rest] := by
  induction ended with
  | nil => exact List.splitOn_eq_singleton hrest
  | cons line ended ih =>
    have hline : '\n' ∉ line := hended line List.mem_cons_self
    have htail := ih fun line' hline' => hended line' (List.mem_cons_of_mem _ hline')
    simp only [List.flatMap_cons, List.append_assoc, List.cons_append, List.nil_append]
    rw [List.splitOn_append_cons_self_of_not_mem hline, htail]

end Terminal

/-! ## Cutting at line feeds -/

/-- Cutting a text loses nothing, and no line feed is left in the pieces. -/
theorem splitLines_spec (cs : List Char) :
    (splitLines cs).1.flatMap (· ++ ['\n']) ++ (splitLines cs).2 = cs ∧
      (∀ line ∈ (splitLines cs).1, '\n' ∉ line) ∧ '\n' ∉ (splitLines cs).2 := by
  induction cs with
  | nil => simp [splitLines]
  | cons c cs ih =>
    cases hsplit : splitLines cs with
    | mk ended rest =>
      rw [hsplit] at ih
      obtain ⟨htext, hended, hrest⟩ := ih
      by_cases hc : c = '\n'
      · subst hc
        simp_all [splitLines]
      · have hc' : '\n' ≠ c := Ne.symm hc
        cases ended with
        | nil => simp_all [splitLines]
        | cons line ended => simp_all [splitLines]

namespace Output

/-! ## Rendering -/

/-- The lines given out so far and the output still held make up what a terminal shows. -/
structure Renders (o : Output) (given : List (List Char)) (t : Terminal) : Prop where
  text : given.flatMap (· ++ ['\n']) ++ o.tail = t.text
  held : o.held = t.redraw
  given : ∀ line ∈ given, '\n' ∉ line
  tail : '\n' ∉ o.tail

variable {o : Output} {given : List (List Char)} {t : Terminal}

/-- New output and a new terminal show the same. -/
theorem renders_nil : Renders {} [] {} := ⟨rfl, rfl, nofun, nofun⟩

/-- Characters are added behind what stands for good. -/
theorem Renders.append (h : Renders o given t) (cs : List Char) :
    Renders (o.append cs).2 (given ++ (o.append cs).1) { t with text := t.text ++ cs } := by
  obtain ⟨htext, hlines, htail⟩ := splitLines_spec (o.tail ++ cs)
  rw [Output.append]
  cases hsplit : splitLines (o.tail ++ cs) with
  | mk ended rest =>
    rw [hsplit] at htext hlines htail
    refine ⟨?_, h.held, ?_, htail⟩
    · rw [List.flatMap_append, List.append_assoc, htext, ← List.append_assoc, h.text]
    · intro line hline
      rcases List.mem_append.mp hline with hold | hnew
      · exact h.given line hold
      · exact hlines line hnew

/-- The held redraw stands for good. -/
theorem Renders.commit (h : Renders o given t) :
    Renders o.commit.2 (given ++ o.commit.1) { text := t.shown } := by
  have hheld := h.held
  rw [Output.commit]
  cases hredraw : o.held with
  | none =>
    rw [hredraw] at hheld
    refine ⟨?_, hredraw, ?_, h.tail⟩
    · simpa [Terminal.shown, ← hheld] using h.text
    · simpa using h.given
  | some cs =>
    rw [hredraw] at hheld
    have hbare : Renders { o with held := none } given { text := t.text } :=
      ⟨h.text, rfl, h.given, h.tail⟩
    simpa [Terminal.shown, ← hheld] using hbare.append cs

/-- A redraw that does not start with a line feed is only held back. -/
theorem feed_redraw (o : Output) {message : List Char} (hhead : message.head? ≠ some '\n') :
    o.feed message true = ([], { o with held := some message }) := by
  rw [feed.eq_def]
  split
  · rename_i hflag
    cases hflag
  · exact absurd rfl hhead
  · rfl

/-- A fragment does to the output what it does to the terminal. -/
theorem Renders.feed (h : Renders o given t) (message : List Char) (fromBeginning : Bool) :
    Renders (o.feed message fromBeginning).2 (given ++ (o.feed message fromBeginning).1)
      (t.put message fromBeginning) := by
  cases fromBeginning with
  | false =>
    have hcommit := h.commit.append message
    rw [List.append_assoc] at hcommit
    exact hcommit
  | true =>
    by_cases hhead : message.head? = some '\n'
    · obtain ⟨rest, rfl⟩ : ∃ rest, message = '\n' :: rest := by
        cases message with
        | nil => cases hhead
        | cons c rest => exact ⟨rest, congrArg (· :: rest) (Option.some.inj hhead)⟩
      have hcommit := h.commit.append ['\n']
      rw [List.append_assoc] at hcommit
      exact ⟨hcommit.text, rfl, hcommit.given, hcommit.tail⟩
    · rw [feed_redraw o hhead, Terminal.put, if_pos rfl, if_neg hhead, List.append_nil]
      exact ⟨h.text, rfl, h.given, h.tail⟩

/-- The lines given out are those that have ended. -/
theorem Renders.complete (h : Renders o given t) : given = Terminal.complete t.text := by
  rw [Terminal.complete, ← h.text, Terminal.splitOn_flatMap h.given h.tail,
    List.dropLast_concat]

/-- In the end all lines that are seen have been given out. -/
theorem Renders.finish (h : Renders o given t) :
    given ++ o.finish.1 = Terminal.lines t.shown := by
  have hcommit := h.commit
  have hsplit := Terminal.splitOn_flatMap hcommit.given hcommit.tail
  rw [hcommit.text] at hsplit
  rw [Terminal.lines, hsplit, Output.finish]
  by_cases hempty : o.commit.2.tail = []
  · simp [hempty]
  · simp [hempty]

/-! ## Streams -/

/-- What finishing gives out: the lines of the unfinished line and the redraw behind it. -/
theorem finish_fst (htail : '\n' ∉ o.tail) :
    o.finish.1 = Terminal.lines (o.tail ++ o.held.getD []) := by
  have hrenders : Renders o [] { text := o.tail, redraw := o.held } := ⟨rfl, rfl, nofun, htail⟩
  exact hrenders.finish

/-- The lines given out so far and the output still held, after another fragment. -/
def feedNext (so : List (List Char) × Output) (fragment : String × Bool) :
    List (List Char) × Output :=
  let (lines, o) := so.2.feed fragment.1.toList fragment.2
  (so.1 ++ lines, o)

/-- What a stream of fragments makes of new output. -/
def ofStream (stream : List (String × Bool)) : List (List Char) × Output :=
  stream.foldl feedNext ([], {})

/-- Fragments do to the output what they do to the terminal. -/
theorem Renders.foldl (h : Renders o given t) (stream : List (String × Bool)) :
    (stream.foldl feedNext (given, o)).2.Renders (stream.foldl feedNext (given, o)).1
      (stream.foldl (fun t fragment => t.put fragment.1.toList fragment.2) t) := by
  induction stream generalizing o given t with
  | nil => exact h
  | cons fragment stream ih => exact ih (h.feed fragment.1.toList fragment.2)

/-- Whatever fragments new output is fed:

* the lines given out so far, each with its line feed, and the unfinished line are what stands
  on a terminal for good, the redraw held back is the one the terminal may still replace, and
  no line feed is left in any of these lines;
* finishing gives out the lines of the unfinished line and of the redraw behind it, so that
  all lines that the terminal shows have been given out;
* finished output is new output, and to finish it once more gives nothing. -/
theorem stream_refines_terminal (stream : List (String × Bool)) :
    ((ofStream stream).1.flatMap (· ++ ['\n']) ++ (ofStream stream).2.tail =
          (Terminal.ofStream stream).text ∧
        (ofStream stream).2.held = (Terminal.ofStream stream).redraw ∧
        '\n' ∉ (ofStream stream).2.tail ∧ ∀ line ∈ (ofStream stream).1, '\n' ∉ line) ∧
      (ofStream stream).2.finish.1 =
        Terminal.lines ((ofStream stream).2.tail ++ (ofStream stream).2.held.getD []) ∧
      (ofStream stream).1 ++ (ofStream stream).2.finish.1 =
        Terminal.lines (Terminal.ofStream stream).shown ∧
      (ofStream stream).2.finish.2 = {} ∧
      (ofStream stream).2.finish.2.finish = ([], {}) := by
  have hrenders : (ofStream stream).2.Renders (ofStream stream).1 (.ofStream stream) :=
    renders_nil.foldl stream
  have hfinished := finish_snd (ofStream stream).2
  refine ⟨⟨hrenders.text, hrenders.held, hrenders.tail, hrenders.given⟩, finish_fst hrenders.tail,
    hrenders.finish, hfinished, ?_⟩
  rw [hfinished]
  rfl

end Output

end ConsoleLink
