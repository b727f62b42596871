import ConsoleLink.Proofs.Objects.Signals

/-!
# A signal counts

A wait for a signal succeeds as often as the signal was set.  An event that resets itself knows only
whether it is set, so that several settings let one wait through.

* `Signal.History` are the histories of one signal and its handles, the maker's and those of
  others, with what came of every setting and every wait.
* `Signal.Follows` says what comes of a setting and of a wait by the number of those before;
  `History.follows` proves it.
* `Signal.signalled` tells whether an event that resets itself would be set.
* `counts_settings` compares the two, `set_twice` is where they differ.
-/

namespace ConsoleLink

namespace Signal

/-! ## Histories -/

/-- What was done with a signal, and what came of it. -/
inductive Event
  | set (outcome : Except LinkFault Unit)
  /-- `mayWait` tells whether waiting is possible at all. -/
  | wait (mayWait : Bool) (outcome : Except LinkFault Bool)

/-- The histories of a signal that somebody made under a name: the system, the handles on the
signal, and what was done with it, the latest first. -/
inductive History (name : String) : System → List Handle → List Event → Prop
  | create {s s' : System} {caller : Caller} {grant : Bool} {h : Handle}
      (hmade : s.create caller .event name 0 grant = (s', .ok (some h))) : History name s' [h] []
  | attach {s : System} {handles : List Handle} {log : List Event} {caller : Caller} {h : Handle}
      (history : History name s handles log) (hopened : s.openSignal caller name = .ok h) :
      History name s (h :: handles) log
  | set {s : System} {handles : List Handle} {log : List Event} {h : Handle}
      (history : History name s handles log) (hmem : h ∈ handles) :
      History name (s.setSignal h).1 handles (.set (s.setSignal h).2 :: log)
  | wait {s : System} {handles : List Handle} {log : List Event} {h : Handle} (caller : Caller)
      (history : History name s handles log) (hmem : h ∈ handles) :
      History name (s.takeSignal caller h).1 handles
        (.wait caller.mayWait (s.takeSignal caller h).2 :: log)

/-- A setting that succeeded. -/
def Event.isSet : Event → Bool
  | set (.ok ()) => true
  | _ => false

/-- A wait that came back true. -/
def Event.isTaken : Event → Bool
  | wait _ (.ok true) => true
  | _ => false

/-- How often a signal was set. -/
def settings (log : List Event) : Nat := log.countP Event.isSet

/-- How many waits came back true. -/
def takings (log : List Event) : Nat := log.countP Event.isTaken

/-! ## Counting -/

/-- What comes of something that is done with a signal, by what was done before. -/
def Follows (before : List Event) : Event → Prop
  | .set outcome =>
    outcome = if settings before < takings before + largest then .ok ()
      else .error (.system .overflow)
  | .wait mayWait outcome =>
    outcome = if takings before < settings before then .ok true
      else if mayWait then .ok false else .error (.system .overflow)

/-- A signal at a number and under a name, with its handles. -/
structure IsAt (name : String) (s : System) (handles : List Handle) (id : Nat) : Prop where
  handles : ∀ h ∈ handles, h.id = id
  key : ∃ key, System.key .event name = .ok key ∧ s.find? .event key = some id
  exist : (s.owner? .event id).isSome = true

theorem IsAt.same {name : String} {s s' : System} {handles : List Handle} {id : Nat}
    (h : IsAt name s handles id) (hsame : s.SameTables s') : IsAt name s' handles id := by
  obtain ⟨key, hkey, hfind⟩ := h.key
  refine ⟨h.handles, ⟨key, hkey, ?_⟩, by rw [hsame.owner?]; exact h.exist⟩
  rw [System.find?_eq, hsame.names, ← System.find?_eq]
  exact hfind

/-- A signal that was just made is not set. -/
theorem isAt_create {name : String} {s s' : System} {caller : Caller} {grant : Bool} {h : Handle}
    (hmade : s.create caller .event name 0 grant = (s', .ok (some h))) :
    ∃ id, IsAt name s' [h] id ∧ s'.count id = 0 := by
  have hmake : s.make caller .event name 0 = (s', .ok (some h)) := by
    unfold System.create at hmade
    split at hmade
    · split at hmade
      · cases hmade
      · cases hmade
        assumption
    · cases hmade
    · cases hmade
  rcases s.make_cases caller .event name 0 with ⟨outcome, hnone, hnot⟩ | ⟨key, hkey, -, hnew⟩
  · rw [hnone] at hmake
    cases hmake
    exact absurd rfl (hnot h)
  · rw [hnew] at hmake
    cases hmake
    refine ⟨(s.add .event key caller.account 0).2, ⟨?_, ⟨key, hkey, ?_⟩, ?_⟩, ?_⟩
    · intro h hmem
      rw [List.mem_singleton.mp hmem]
      rfl
    · rw [System.find?_eq, System.names_add, if_pos rfl]
      exact List.lookup_cons_self
    · rw [System.owner?_add_self]
      rfl
    · simp [System.count, System.add, Registry.add, Registry.object?]

/-- Whoever opens the name finds the signal. -/
theorem IsAt.attach {name : String} {s : System} {handles : List Handle} {id : Nat}
    (hat : IsAt name s handles id) {caller : Caller} {h : Handle}
    (hopened : s.openSignal caller name = .ok h) : IsAt name s (h :: handles) id := by
  obtain ⟨key, hkey, hfind⟩ := hat.key
  have hid : h.id = id := by
    unfold System.openSignal System.openNamed at hopened
    split at hopened
    · cases hopened
    · rename_i found hfound
      cases hopened
      unfold System.idForOpen at hfound
      simp only [hkey, hfind] at hfound
      split at hfound
      · cases hfound
      · split at hfound <;> cases hfound
        rfl
  refine ⟨?_, hat.key, hat.exist⟩
  rintro h' (_ | ⟨_, hmem⟩)
  · exact hid
  · exact hat.handles h' hmem

theorem settings_cons (event : Event) (log : List Event) :
    settings (event :: log) = settings log + if event.isSet then 1 else 0 :=
  List.countP_cons

theorem takings_cons (event : Event) (log : List Event) :
    takings (event :: log) = takings log + if event.isTaken then 1 else 0 :=
  List.countP_cons

/-- A setting counts, unless the count is at its largest. -/
theorem follows_set {name : String} {s : System} {handles : List Handle} {id : Nat}
    {log : List Event} {h : Handle} (hat : IsAt name s handles id)
    (hcount : settings log = takings log + s.count id) (hmem : h ∈ handles) :
    Follows log (.set (s.setSignal h).2) ∧
      settings (.set (s.setSignal h).2 :: log) =
        takings (.set (s.setSignal h).2 :: log) + (s.setSignal h).1.count id := by
  rw [settings_cons, takings_cons, hcount]
  unfold System.setSignal set
  rw [hat.handles h hmem]
  by_cases hsmall : s.count id < largest
  · have hnew : (s.setCount id (s.count id + 1)).count id = s.count id + 1 := by
      rw [System.count_setCount, if_pos ⟨rfl, hat.exist⟩]
    have hbelow : settings log < takings log + largest := by omega
    simp only [if_pos hsmall, hnew, Event.isSet, Event.isTaken, Follows, if_pos hbelow]
    exact ⟨trivial, by simp; omega⟩
  · have hfull : ¬ settings log < takings log + largest := by omega
    simp only [if_neg hsmall, Event.isSet, Event.isTaken, Follows, if_neg hfull]
    exact ⟨trivial, by simp⟩

/-- A wait takes one, if there is one. -/
theorem follows_wait {name : String} {s : System} {handles : List Handle} {id : Nat}
    {log : List Event} {h : Handle} (hat : IsAt name s handles id)
    (hcount : settings log = takings log + s.count id) (hmem : h ∈ handles) (caller : Caller) :
    Follows log (.wait caller.mayWait (s.takeSignal caller h).2) ∧
      settings (.wait caller.mayWait (s.takeSignal caller h).2 :: log) =
        takings (.wait caller.mayWait (s.takeSignal caller h).2 :: log) +
          (s.takeSignal caller h).1.count id := by
  rw [settings_cons, takings_cons, hcount]
  unfold System.takeSignal take
  rw [hat.handles h hmem]
  cases hleft : s.count id with
  | zero =>
    have hnone : ¬ takings log < settings log := by omega
    cases caller.mayWait with
    | true => simp [Follows, hnone, Event.isSet, Event.isTaken, hleft]
    | false => simp [Follows, hnone, Event.isSet, Event.isTaken, hleft]
  | succ left =>
    have hsome : takings log < settings log := by omega
    have hnew : (s.setCount id left).count id = left := by
      rw [System.count_setCount, if_pos ⟨rfl, hat.exist⟩]
    simp only [hnew, Event.isSet, Event.isTaken, Follows, if_pos hsome]
    exact ⟨trivial, by simp; omega⟩

/-- The signal counts the settings that no wait has taken. -/
theorem History.counts {name : String} {s : System} {handles : List Handle} {log : List Event}
    (history : History name s handles log) :
    ∃ id, IsAt name s handles id ∧ settings log = takings log + s.count id := by
  induction history with
  | create hmade =>
    obtain ⟨id, hat, hzero⟩ := isAt_create hmade
    exact ⟨id, hat, by rw [hzero]; rfl⟩
  | attach _ hopened ih =>
    obtain ⟨id, hat, hcount⟩ := ih
    exact ⟨id, hat.attach hopened, hcount⟩
  | set _ hmem ih =>
    obtain ⟨id, hat, hcount⟩ := ih
    exact ⟨id, hat.same (.setSignal _ _), (follows_set hat hcount hmem).2⟩
  | wait caller _ hmem ih =>
    obtain ⟨id, hat, hcount⟩ := ih
    exact ⟨id, hat.same (.takeSignal _ caller _), (follows_wait hat hcount hmem caller).2⟩

/-- Whatever was done comes of what was done before. -/
theorem History.follows {name : String} {s : System} {handles : List Handle} {log : List Event}
    (history : History name s handles log) {event : Event} {before : List Event}
    (hlog : event :: before <:+ log) : Follows before event := by
  induction history with
  | create _ => exact absurd (List.suffix_nil.mp hlog) (List.cons_ne_nil _ _)
  | attach _ _ ih => exact ih hlog
  | set history hmem ih =>
    rcases List.suffix_cons_iff.mp hlog with heq | hlog
    · obtain ⟨id, hat, hcount⟩ := history.counts
      obtain ⟨rfl, rfl⟩ := List.cons.inj heq
      exact (follows_set hat hcount hmem).1
    · exact ih hlog
  | wait caller history hmem ih =>
    rcases List.suffix_cons_iff.mp hlog with heq | hlog
    · obtain ⟨id, hat, hcount⟩ := history.counts
      obtain ⟨rfl, rfl⟩ := List.cons.inj heq
      exact (follows_wait hat hcount hmem caller).1
    · exact ih hlog

/-! ## Events that reset themselves -/

/-- Whether there was a setting since the last wait that came back true, or since the beginning. -/
def signalled (log : List Event) : Bool :=
  (log.takeWhile fun event => !event.isTaken).any Event.isSet

/-- Nobody has set the signal while it was set. -/
def IsSpaced (log : List Event) : Prop :=
  ∀ event before, event :: before <:+ log → event.isSet = true → signalled before = false

theorem signalled_cons (event : Event) (log : List Event) :
    signalled (event :: log) = (!event.isTaken && (event.isSet || signalled log)) := by
  unfold signalled
  rw [List.takeWhile_cons]
  cases event.isTaken <;> rfl

/-- A setting is no wait. -/
theorem Event.not_isTaken {event : Event} (hset : event.isSet = true) : event.isTaken = false := by
  cases event with
  | set outcome => rfl
  | wait mayWait outcome => cases hset

/-- Where there was a setting since, the settings outnumber the waits; where nobody has set the
signal while it was set, they do so by one at most. -/
theorem History.settings_of_signalled {name : String} {s : System} {handles : List Handle}
    {log before : List Event} (history : History name s handles log) (hlog : before <:+ log) :
    takings before + (if signalled before then 1 else 0) ≤ settings before ∧
      (IsSpaced before →
        settings before = takings before + if signalled before then 1 else 0) := by
  induction before with
  | nil => exact ⟨Nat.le_refl _, fun _ => rfl⟩
  | cons event before ih =>
    have hfollows := history.follows hlog
    obtain ⟨hle, heq⟩ := ih ((List.suffix_cons event before).trans hlog)
    have hspaced (h : IsSpaced (event :: before)) : IsSpaced before := fun event' before' hbefore =>
      h event' before' (hbefore.trans (List.suffix_cons event before))
    rw [settings_cons, takings_cons, signalled_cons]
    cases htaken : event.isTaken with
    | true =>
      -- a wait that came back true has found more settings than waits
      have hset : event.isSet = false := by
        by_contra hset
        rw [Event.not_isTaken (Bool.not_eq_false _ ▸ hset)] at htaken
        cases htaken
      have hless : takings before < settings before := by
        cases event with
        | set outcome => cases htaken
        | wait mayWait outcome =>
          by_contra hnone
          rw [Follows, if_neg hnone] at hfollows
          subst hfollows
          cases mayWait <;> cases htaken
      simp only [hset, Bool.not_true, Bool.false_and, Bool.false_eq_true, ↓reduceIte]
      refine ⟨by omega, fun h => ?_⟩
      have hsettings := heq (hspaced h)
      split at hsettings <;> omega
    | false =>
      cases hset : event.isSet with
      | true =>
        simp only [Bool.not_false, Bool.true_or, Bool.and_self, Bool.false_eq_true, ↓reduceIte]
        refine ⟨by split at hle <;> omega, fun h => ?_⟩
        have hsettings := heq (hspaced h)
        rw [h event before (List.suffix_refl _) hset] at hsettings
        simpa using hsettings
      | false =>
        simp only [Bool.not_false, Bool.false_or, Bool.true_and, Bool.false_eq_true, ↓reduceIte,
          Nat.add_zero]
        exact ⟨hle, fun h => heq (hspaced h)⟩

/-- The handle of somebody who makes a signal where there is none. -/
def maker : Handle := System.handle .event 0 "/e" true 0

/-- The handle of somebody who opens it. -/
def opener : Handle := System.handle .event 0 "/e" false 0

/-- A signal that was just made is there for both of them. -/
theorem history_opened :
    History "/e" (({} : System).add .event "e" .root 0).1 [opener, maker] [] := by
  have hkey : System.key .event "/e" = .ok "e" := by decide
  have hmade : ({} : System).create {} .event "/e" 0 false =
      ((({} : System).add .event "e" .root 0).1, .ok (some maker)) := by
    simp only [System.create, System.make, System.keyForNew, hkey]
    rfl
  have hopened : (({} : System).add .event "e" .root 0).1.openSignal {} "/e" = .ok opener := by
    simp only [System.openSignal, System.openNamed, System.idForOpen, hkey]
    rfl
  exact .attach (.create hmade) hopened

/-- Over any handles on a signal, a setting succeeds unless the count is at its largest, and a wait
comes back true exactly if the signal was set more often than waits came back true.

So a wait comes back true wherever there was a setting since the last such wait; and it does so
only there, as long as nobody has set the signal while it was set. -/
theorem counts_settings {name : String} {s : System} {handles : List Handle} {log : List Event}
    (history : History name s handles log) :
    (∀ event before, event :: before <:+ log → Follows before event) ∧
      ∀ mayWait outcome before, .wait mayWait outcome :: before <:+ log →
        (outcome = .ok true ↔ takings before < settings before) ∧
          (signalled before = true → outcome = .ok true) ∧
            (IsSpaced before → (outcome = .ok true ↔ signalled before = true)) := by
  refine ⟨fun event before hlog => history.follows hlog, fun mayWait outcome before hlog => ?_⟩
  have htrue : outcome = .ok true ↔ takings before < settings before := by
    have hfollows : outcome = _ := history.follows hlog
    rw [hfollows]
    by_cases hless : takings before < settings before
    · simp [hless]
    · cases mayWait <;> simp [hless]
  obtain ⟨hle, heq⟩ := history.settings_of_signalled ((List.suffix_cons _ before).trans hlog)
  refine ⟨htrue, fun hsignalled => ?_, fun hspaced => ?_⟩
  · rw [if_pos hsignalled] at hle
    exact htrue.mpr (by omega)
  · rw [htrue, heq hspaced]
    cases signalled before <;> simp

/-- One setting lets one wait through and no second. -/
theorem counts_settings_once :
    ∃ (s : System) (handles : List Handle),
      History "/e" s handles [.wait true (.ok false), .wait true (.ok true), .set (.ok ())] ∧
        signalled [.set (.ok ())] = true ∧
          signalled [.wait true (.ok true), .set (.ok ())] = false ∧
          Follows [.wait true (.ok true), .set (.ok ())] (.wait true (.ok false)) := by
  have hmaker : maker ∈ [opener, maker] := List.mem_cons_of_mem _ (List.mem_singleton_self _)
  have hopener : opener ∈ [opener, maker] := List.mem_cons_self
  have history := ((history_opened.set hmaker).wait {} hopener).wait {} hmaker
  exact ⟨_, _, history, rfl, rfl, (counts_settings history).1 _ _ (List.suffix_refl _)⟩

/-- The maker sets a signal and the other one sets it too.  Then a wait of either comes back true,
although an event that resets itself is no longer set after the first. -/
theorem set_twice :
    ∃ (s : System) (handles : List Handle),
      History "/e" s handles
        [.wait true (.ok true), .wait true (.ok true), .set (.ok ()), .set (.ok ())] ∧
      signalled [.wait true (.ok true), .set (.ok ()), .set (.ok ())] = false := by
  have hmaker : maker ∈ [opener, maker] := List.mem_cons_of_mem _ (List.mem_singleton_self _)
  have hopener : opener ∈ [opener, maker] := List.mem_cons_self
  exact ⟨_, _, (((history_opened.set hmaker).set hopener).wait {} hmaker).wait {} hopener, rfl⟩

end Signal

end ConsoleLink
