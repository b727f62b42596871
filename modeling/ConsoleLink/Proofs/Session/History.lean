import ConsoleLink.Session.Calls
import ConsoleLink.Session.Start

/-!
# What happens to a session

A session is called upon, one call after the other, while its child, its serving loop and its
watcher act at any time.

* `Label` is one thing that happens, and `Step` what it makes of the scene.  A shutdown and a
  disposal take several steps, `Current` says where they are.
* `Run` is every history of a session, with its log.
* `spawnedIn` are the children that were started, `negotiatedIn` the channels that were made.
* `Run.dispose` and `Run.close` say that a disposal and a shutdown in one go are histories.
-/

namespace ConsoleLink

theorem Turns.run_goal {ω : Type} {goal : ω → Bool} {w : ω} (hgoal : goal w = true)
    (parties : List (Party ω)) (turns now : Nat) :
    Turns.run parties goal turns now w = (now, w) := by
  cases turns with
  | zero => rfl
  | succ turns => rw [Turns.run, if_pos hgoal]

/-- The first party goes before the others. -/
theorem Turns.run_first {ω : Type} {goal : ω → Bool} {p : Party ω} {now : Nat} {w : ω}
    (hgoal : goal w = false) (hact : p.canAct now w = true) (parties : List (Party ω))
    (turns : Nat) :
    Turns.run (p :: parties) goal (turns + 1) now w =
      Turns.run (p :: parties) goal turns now (p.act now w) := by
  have hturn : Turns.turn? (p :: parties) now w = some (now, p.act now w) := by
    unfold Turns.turn?
    rw [List.find?_cons_of_pos hact]
  rw [Turns.run, if_neg (Bool.eq_false_iff.mp hgoal), hturn]

/-- What every party keeps is kept however often they take turns. -/
theorem Turns.run_keeps {ω : Type} {P : ω → Prop} {parties : List (Party ω)}
    (hact : ∀ p ∈ parties, ∀ now w, P w → P (p.act now w)) (goal : ω → Bool) (turns now : Nat)
    {w : ω} (hw : P w) : P (Turns.run parties goal turns now w).2 := by
  induction turns generalizing now w with
  | zero => exact hw
  | succ turns ih =>
    unfold Turns.run
    split
    · exact hw
    · split
      · exact hw
      · rename_i now' w' hturn
        refine ih now' ?_
        unfold Turns.turn? at hturn
        split at hturn
        · rename_i p hfind
          cases hturn
          exact hact p (List.mem_of_find?_eq_some hfind) now w hw
        · obtain ⟨wake, -, heq⟩ := Option.map_eq_some_iff.mp hturn
          cases heq
          exact hw

namespace Scene

variable {γ : Type}

/-! ## What can happen -/

/-- One thing that happens, at a time where it depends on the time. -/
inductive Label (γ : Type)
  | child (now : Nat)
  | serve (now : Nat)
  | watch (now : Nat)
  /-- The clock is read. -/
  | clock (now : Nat)
  | start (w : Surroundings γ) (executable : String) (arguments : List String)
  | enqueue (text : String)
  | abort (account : Account)
  /-- A shutdown begins. -/
  | close
  | closing (now : Nat)
  /-- The shutdown is over. -/
  | closed
  /-- A disposal begins. -/
  | dispose
  /-- Everything is let go of, and the disposal is over. -/
  | release

/-- The call that is under way. -/
inductive Current
  | idle
  | closing (c : ProcessHandle.Closing)
  | disposing

/-- The scene once the session was told to stop for good. -/
def stopping (c : Scene γ) : Scene γ :=
  { c with session := { c.session with disposed := true, stopped := true } }

/-- The scene with a command more, unless it is refused. -/
def offer (text : String) (c : Scene γ) : Scene γ :=
  { c with session := (c.session.enqueue text).1 }

/-! ## Logs -/

/-- What happened, and the scene before it. -/
structure Entry (γ : Type) where
  before : Scene γ
  label : Label γ

/-- Whether something has happened. -/
def Happened (label : Label γ) (log : List (Entry γ)) : Prop := ∃ c, ⟨c, label⟩ ∈ log

/-- The channel that a start makes: none, if it was tried before, or the session is disposed of. -/
def negotiated? (w : Surroundings γ) (c : Scene γ) : Option Channel :=
  if c.session.disposed || c.session.started then none
  else
    match w.identity? c.session.config with
    | .error _ => none
    | .ok identity =>
      ((w.negotiator c.session.config identity.isSome).negotiate c.system w.caller).1.toOption

/-- The channel that was made. -/
def Entry.negotiated? (entry : Entry γ) : Option Channel :=
  match entry.label with
  | .start w _ _ => entry.before.negotiated? w
  | _ => none

/-- The child that was started. -/
def Entry.spawned? (entry : Entry γ) : Option γ :=
  match entry.label with
  | .start w executable arguments => (entry.before.spawn w executable arguments).2.toOption
  | _ => none

/-- The channels that were made, the latest first. -/
def negotiatedIn (log : List (Entry γ)) : List Channel := log.filterMap Entry.negotiated?

/-- The children that were started, the latest first. -/
def spawnedIn (log : List (Entry γ)) : List γ := log.filterMap Entry.spawned?

theorem negotiatedIn_cons (entry : Entry γ) (log : List (Entry γ)) :
    negotiatedIn (entry :: log) = entry.negotiated?.toList ++ negotiatedIn log := by
  unfold negotiatedIn
  rw [List.filterMap_cons]
  cases entry.negotiated? <;> rfl

theorem spawnedIn_cons (entry : Entry γ) (log : List (Entry γ)) :
    spawnedIn (entry :: log) = entry.spawned?.toList ++ spawnedIn log := by
  unfold spawnedIn
  rw [List.filterMap_cons]
  cases entry.spawned? <;> rfl

theorem happened_cons {label label' : Label γ} {c : Scene γ} {log : List (Entry γ)} :
    Happened label (⟨c, label'⟩ :: log) ↔ label = label' ∨ Happened label log := by
  constructor
  · rintro ⟨c', hmem⟩
    rcases List.mem_cons.mp hmem with heq | hmem
    · cases heq
      exact Or.inl rfl
    · exact Or.inr ⟨c', hmem⟩
  · rintro (rfl | ⟨c', hmem⟩)
    · exact ⟨c, List.mem_cons_self⟩
    · exact ⟨c', List.mem_cons_of_mem _ hmem⟩

variable [Program γ]

/-! ## Histories -/

/-- What can happen. -/
inductive Step : Label γ → Scene γ × Current → Scene γ × Current → Prop
  | child (now : Nat) (c : Scene γ) (k : Current) : Step (.child now) (c, k) (c.runChild now, k)
  | serve (now : Nat) (c : Scene γ) (k : Current) : Step (.serve now) (c, k) (c.serve now, k)
  | watch (now : Nat) (c : Scene γ) (k : Current) : Step (.watch now) (c, k) (c.watch now, k)
  | clock (now : Nat) (c : Scene γ) (k : Current) :
      Step (.clock now) (c, k) ({ c with now := now }, k)
  | start (w : Surroundings γ) (executable : String) (arguments : List String) (c : Scene γ) :
      Step (.start w executable arguments) (c, .idle) ((c.start w executable arguments).1, .idle)
  | enqueue (text : String) (c : Scene γ) : Step (.enqueue text) (c, .idle) (c.offer text, .idle)
  | abort (account : Account) (c : Scene γ) :
      Step (.abort account) (c, .idle) (c.abort account, .idle)
  /-- There is no child to shut down. -/
  | closeNone {c : Scene γ} (hprocess : c.session.process = none) :
      Step .close (c, .idle) (c, .idle)
  | close {c : Scene γ} (hprocess : c.session.process ≠ none) :
      Step .close (c, .idle)
        (c, .closing (ProcessHandle.closeBy (c.now + c.session.config.shutdownTimeout)))
  | closing (now : Nat) (c : Scene γ) (k : ProcessHandle.Closing) :
      Step (.closing now) (c, .closing k)
        ((closingParty.act now (c, k)).1, .closing (closingParty.act now (c, k)).2)
  | closed (outcome : Shutdown) (c : Scene γ) :
      Step .closed (c, .closing (.done outcome)) (c, .idle)
  /-- The session was disposed of before. -/
  | disposeAgain {c : Scene γ} (hdisposed : c.session.disposed = true) :
      Step .dispose (c, .idle) (c, .idle)
  | dispose {c : Scene γ} (hdisposed : c.session.disposed = false) :
      Step .dispose (c, .idle) (c.stopping, .disposing)
  | release (c : Scene γ) : Step .release (c, .disposing) (c.releaseAll, .idle)

/-- The histories of a session with their logs, the newest entry first. -/
inductive Run (config : Config) (receivers : Receivers Unit) (initial : System) :
    List (Entry γ) → Scene γ × Current → Prop
  | start (now : Nat) :
      Run config receivers initial []
        ({ session := Session.of config receivers, system := initial, now := now }, .idle)
  | step {log : List (Entry γ)} {s s' : Scene γ × Current} {label : Label γ}
      (run : Run config receivers initial log s) (step : Step label s s') :
      Run config receivers initial (⟨s.1, label⟩ :: log) s'

/-! ## Calls in one go -/

namespace Run

variable {config : Config} {receivers : Receivers Unit} {initial : System} {log : List (Entry γ)}
  {c c' : Scene γ}

/-- A history that goes on from here, and ends in a given state. -/
theorem tail {s s' : Scene γ × Current} {log log' : List (Entry γ)} {label : Label γ}
    (hlater : log <:+ log') (run : Run config receivers initial log' s) (step : Step label s s') :
    ∃ log', log <:+ log' ∧ Run config receivers initial log' s' :=
  ⟨_, hlater.trans (List.suffix_cons _ _), run.step step⟩

/-- The others may act for any time. -/
theorem run {k : Current} (run : Run config receivers initial log (c, k)) (goal : Scene γ → Bool) :
    ∃ log', log <:+ log' ∧ Run config receivers initial log' (c.run goal, k) := by
  have hgrows : ∃ log', log <:+ log' ∧ Run config receivers initial log'
      ((Turns.run parties goal Turns.plenty c.now c).2, k) := by
    refine Turns.run_keeps
      (P := fun c' => ∃ log', log <:+ log' ∧ Run config receivers initial log' (c', k))
      ?_ goal Turns.plenty c.now ⟨log, List.suffix_refl log, run⟩
    rintro p hp now c' ⟨log', hlater, run'⟩
    simp only [parties, List.mem_cons, List.not_mem_nil, or_false] at hp
    rcases hp with rfl | rfl | rfl
    · exact tail hlater run' (.child now c' k)
    · exact tail hlater run' (.serve now c' k)
    · exact tail hlater run' (.watch now c' k)
  obtain ⟨log', hlater, run'⟩ := hgrows
  exact tail hlater run' (.clock _ _ k)

/-- A disposal in one go. -/
theorem dispose (run : Run config receivers initial log (c, .idle)) :
    ∃ log', log <:+ log' ∧ Run config receivers initial log' (c.dispose, .idle) ∧
      Happened .dispose log' := by
  unfold Scene.dispose
  split
  · rename_i hdisposed
    exact ⟨_, List.suffix_cons _ _, run.step (.disposeAgain hdisposed), c, List.mem_cons_self⟩
  · rename_i hdisposed
    have hbegun := run.step (.dispose (Bool.eq_false_iff.mpr hdisposed))
    obtain ⟨log', hlater, hquiet⟩ := hbegun.run fun c => c.session.isQuiet
    refine ⟨_, ?_, hquiet.step (.release _), c, ?_⟩
    · exact ((List.suffix_cons _ _).trans hlater).trans (List.suffix_cons _ _)
    · exact List.mem_cons_of_mem _ (hlater.subset List.mem_cons_self)

/-- A shutdown goes on beside the others. -/
theorem runClosing {k : ProcessHandle.Closing}
    (run : Run config receivers initial log (c, .closing k)) :
    ∃ log', log <:+ log' ∧ Run config receivers initial log'
      ((c.runWith closingParty k).1, .closing (c.runWith closingParty k).2) := by
  have hact : ∀ p ∈ closingParty :: parties.map
      (Party.within (fun w : Scene γ × ProcessHandle.Closing => w.1) fun c w => (c, w.2)),
      ∀ now w, (∃ log', log <:+ log' ∧ Run config receivers initial log' (w.1, .closing w.2)) →
        ∃ log', log <:+ log' ∧
          Run config receivers initial log' ((p.act now w).1, .closing (p.act now w).2) := by
    rintro p hp now w ⟨log', hlater, run'⟩
    simp only [parties, List.map_cons, List.map_nil, List.mem_cons, List.not_mem_nil,
      or_false] at hp
    rcases hp with rfl | rfl | rfl | rfl
    · exact tail hlater run' (.closing now w.1 w.2)
    · exact tail hlater run' (.child now w.1 _)
    · exact tail hlater run' (.serve now w.1 _)
    · exact tail hlater run' (.watch now w.1 _)
  obtain ⟨log', hlater, run'⟩ := Turns.run_keeps hact closingParty.isDone Turns.plenty c.now
    (w := (c, k)) ⟨log, List.suffix_refl log, run⟩
  exact tail hlater run' (.clock _ _ _)

/-- A shutdown in one go, if it comes to an end. -/
theorem close {outcome : Shutdown} (run : Run config receivers initial log (c, .idle))
    (hclose : c.close = (c', some outcome)) :
    ∃ log', log <:+ log' ∧ Run config receivers initial log' (c', .idle) := by
  unfold Scene.close at hclose
  split at hclose
  · cases hclose
  · rename_i handle hprocess
    have hbegun := run.step (.close (by rw [hprocess]; nofun))
    obtain ⟨log', hlater, run'⟩ := hbegun.runClosing
    split at hclose
    · rename_i hwith
      rw [hwith] at run'
      cases hclose
      exact tail ((List.suffix_cons _ _).trans hlater) run' (.closed _ _)
    · cases hclose

end Run

end Scene

end ConsoleLink
