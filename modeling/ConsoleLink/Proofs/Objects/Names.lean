import ConsoleLink.Proofs.Objects.Negotiated
import Mathlib.Data.List.Nodup

/-!
# Names are not used twice

A controller keeps the names under which it ever made a request signal that it could grant, and
passes over them for good.  A name whose signal was made but not granted may be drawn again.
Whoever finds the objects of an instance finds the objects of no other.

* `Note` is what there is to tell about the names that a controller draws, and `History` a
  sequence of its negotiations.  Between two steps of them, others may do anything to the
  system's objects.
* `IsRecord` says what such notes look like, and `Keeping` where the controller stands then;
  `Keeping.step` keeps it and `History.keeping` proves it.
* `fromUnderscore` finds the instance in the name of an object.
* `names_never_reused` puts this together.
-/

namespace ConsoleLink

open Negotiation (Phase)

/-! ## Instances in the names of objects -/

/-- The beginnings of all names. -/
def Prefixes.all (p : Prefixes) : List String := [p.mapping, p.request, p.response, p.cancel, p.job]

/-- No prefix has an underscore, as it is with the defaults. -/
def Prefixes.IsPlain (p : Prefixes) : Prop := ∀ start ∈ p.all, '_' ∉ start.toList

instance (p : Prefixes) : Decidable p.IsPlain :=
  inferInstanceAs (Decidable (∀ start ∈ p.all, '_' ∉ start.toList))

example : Prefixes.IsPlain {} := by decide

/-- The names of all objects of an instance. -/
def ChannelNames.all (names : ChannelNames) : List String :=
  [names.mapping, names.request, names.response, names.cancel, names.job]

/-- A name from its first underscore on. -/
def fromUnderscore (name : String) : List Char := name.toList.dropWhile (· != '_')

theorem fromUnderscore_objectName {start name : String} (hplain : '_' ∉ start.toList)
    (hname : name.toList.head? = some '_') :
    fromUnderscore (objectName start name) = name.toList := by
  have hbefore : ∀ c ∈ '/' :: start.toList, (c != '_') = true := by
    intro c hc
    rw [bne_iff_ne]
    rintro rfl
    rcases List.mem_cons.mp hc with hslash | hstart
    · exact absurd hslash (by decide)
    · exact hplain hstart
  have hsplit : (objectName start name).toList = ('/' :: start.toList) ++ name.toList := by
    simp [objectName]
  rw [fromUnderscore, hsplit, List.dropWhile_append_of_pos hbefore]
  cases hlist : name.toList with
  | nil => rfl
  | cons first rest =>
    rw [hlist] at hname
    cases hname
    exact List.dropWhile_cons_of_neg (by decide)

theorem fromUnderscore_of_keyOf? {name key : String} (hkey : keyOf? name = some key) :
    fromUnderscore key = fromUnderscore name := by
  have hskip (cs : List Char) :
      (cs.dropWhile (· == '/')).dropWhile (· != '_') = cs.dropWhile (· != '_') := by
    induction cs with
    | nil => rfl
    | cons c rest ih =>
      by_cases hslash : c = '/'
      · subst hslash
        exact ih
      · rw [List.dropWhile_cons_of_neg (by simpa using hslash)]
  simp only [keyOf?] at hkey
  split at hkey
  · cases hkey
  · cases hkey
    rw [fromUnderscore, String.toList_ofList, hskip, fromUnderscore]

theorem fromUnderscore_of_mem {p : Prefixes} (hplain : p.IsPlain) {name : String}
    (hname : name.toList.head? = some '_') {object : String}
    (hobject : object ∈ (ChannelNames.of p name).all) : fromUnderscore object = name.toList := by
  have hfound : ∃ start ∈ p.all, object = objectName start name := by
    simpa [ChannelNames.all, ChannelNames.of, Prefixes.all] using hobject
  obtain ⟨start, hstart, rfl⟩ := hfound
  exact fromUnderscore_objectName (hplain start hstart) hname

theorem head?_instanceStem (pid id rest : String) :
    (instanceStem pid id ++ rest).toList.head? = some '_' := by
  simp [instanceStem]

/-- The objects of two instances have different names, and lead to different places in a
table. -/
theorem ChannelNames.separate {p p' : Prefixes} (hplain : p.IsPlain) (hplain' : p'.IsPlain)
    {name name' : String} (hname : name.toList.head? = some '_')
    (hname' : name'.toList.head? = some '_') (hne : name ≠ name') {object object' : String}
    (hobject : object ∈ (ChannelNames.of p name).all)
    (hobject' : object' ∈ (ChannelNames.of p' name').all) :
    object ≠ object' ∧ ∀ key, keyOf? object = some key → keyOf? object' ≠ some key := by
  have hfrom := fromUnderscore_of_mem hplain hname hobject
  have hfrom' := fromUnderscore_of_mem hplain' hname' hobject'
  have hapart : fromUnderscore object ≠ fromUnderscore object' := by
    rw [hfrom, hfrom']
    intro hsame
    exact hne (String.toList_inj.mp hsame)
  refine ⟨fun hsame => hapart (congrArg fromUnderscore hsame), fun key hkey hkey' => ?_⟩
  exact hapart ((fromUnderscore_of_keyOf? hkey).symm.trans (fromUnderscore_of_keyOf? hkey'))

namespace Negotiator

/-! ## Histories -/

/-- What there is to tell about the names that a controller draws. -/
inductive Note
  /-- It attempts to make the request signal of an instance. -/
  | tried (name : String)
  /-- It has made that signal, and granted it if that was asked for. -/
  | began (name : String)
  /-- A negotiation is over. -/
  | ended (outcome : Except LinkFault Channel)

/-- The instance of a channel that a negotiation has come to. -/
def Note.returned? : Note → Option String
  | ended (.ok channel) => some channel.names.instanceName
  | _ => none

/-- What there is to tell about a step. -/
def notes (n : Negotiator) : Phase → List Note
  | .drawing (_ + 1) => if n.used.contains n.candidate then [] else [.tried n.candidate]
  | .response names _ => [.began names.instanceName]
  | _ => []

/-- Negotiations of a controller one after the other, with what there is to tell, the latest
first.  Every step finds the system's objects in whatever state they are. -/
inductive History (start : Negotiator) : List Note → Option Phase → Negotiator → Prop
  | start : History start [] none start
  | call {log : List Note} {n : Negotiator} (history : History start log none n) :
      History start log (some (.drawing n.maxAttempts)) n
  | step {log : List Note} {phase : Phase} {n : Negotiator}
      (history : History start log (some phase) n) (caller : Caller) (s : System) :
      History start (n.notes phase ++ log) (some (n.step caller phase s).1)
        (n.step caller phase s).2.1
  | ended {log : List Note} {outcome : Except LinkFault Channel} {n : Negotiator}
      (history : History start log (some (.done outcome)) n) :
      History start (.ended outcome :: log) none n

/-- The names are made with a salt of the controller. -/
def Draws (start : Negotiator) (names : ChannelNames) : Prop :=
  ∃ draw, names = ChannelNames.of start.prefixes (start.stem ++ Nat.repr (start.salt draw))

/-- A name with which a negotiation has begun is neither tried nor begun again, and a channel is
only returned under the name with which its negotiation has begun. -/
structure IsRecord (start : Negotiator) (log : List Note) : Prop where
  fresh : log.Pairwise fun new old =>
    ∀ name, old = .began name → new ≠ .tried name ∧ new ≠ .began name
  made : ∀ later channel earlier, log = later ++ .ended (.ok channel) :: earlier →
    start.Draws channel.names ∧ earlier.head? = some (.began channel.names.instanceName)

/-- Where a negotiation stands, against the notes and the names that were found free. -/
def Follows (start : Negotiator) (log : List Note) (used : List String) : Phase → Prop
  | .granting next => start.Follows log used next
  | .response names _ => start.Draws names ∧ names.instanceName ∉ used
  | .cancel names _ _ | .memory names _ _ _ =>
    start.Draws names ∧ log.head? = some (.began names.instanceName)
  | .header c | .done (.ok c) =>
    start.Draws c.names ∧ log.head? = some (.began c.names.instanceName)
  | .drawing _ | .dropping _ _ | .done (.error _) => True

/-! ## Records -/

section Records

variable {start : Negotiator} {log : List Note}

theorem IsRecord.nil : start.IsRecord [] where
  fresh := .nil
  made later channel earlier hlog := by
    have hlength := congrArg List.length hlog
    simp at hlength

theorem IsRecord.cons {note : Note} (record : start.IsRecord log)
    (hfresh : ∀ name, .began name ∈ log → note ≠ .tried name ∧ note ≠ .began name)
    (hmade : ∀ channel, note = .ended (.ok channel) →
      start.Draws channel.names ∧ log.head? = some (.began channel.names.instanceName)) :
    start.IsRecord (note :: log) where
  fresh := by
    refine List.pairwise_cons.mpr ⟨fun old hold name hbegan => ?_, record.fresh⟩
    subst hbegan
    exact hfresh name hold
  made later channel earlier hlog := by
    rcases List.cons_eq_append_iff.mp hlog with ⟨-, hcons⟩ | ⟨rest, -, hrest⟩
    · cases hcons
      exact hmade channel rfl
    · exact record.made rest channel earlier hrest

theorem IsRecord.tail {note : Note} (record : start.IsRecord (note :: log)) :
    start.IsRecord log where
  fresh := (List.pairwise_cons.mp record.fresh).2
  made later channel earlier hlog :=
    record.made (note :: later) channel earlier (by rw [hlog, List.cons_append])

/-- After a negotiation has begun, its name is neither tried nor begun. -/
theorem IsRecord.not_again {later earlier : List Note} {name : String}
    (record : start.IsRecord (later ++ earlier)) (hbegan : .began name ∈ earlier) {note : Note}
    (hnote : note ∈ later) : note ≠ .tried name ∧ note ≠ .began name :=
  (List.pairwise_append.mp record.fresh).2.2 note hnote _ hbegan name rfl

/-- A negotiation has begun with the name of every channel. -/
theorem IsRecord.began_of_returned (record : start.IsRecord log) {channel : Channel}
    (hover : .ended (.ok channel) ∈ log) : .began channel.names.instanceName ∈ log := by
  obtain ⟨later, earlier, hlog⟩ := List.append_of_mem hover
  obtain ⟨-, hbegan⟩ := record.made later channel earlier hlog
  rw [hlog]
  exact List.mem_append_right _ (List.mem_cons_of_mem _ (List.mem_of_head? hbegan))

/-- No two channels are returned under one name. -/
theorem IsRecord.nodup_returned (record : start.IsRecord log) :
    (log.filterMap Note.returned?).Nodup := by
  induction log with
  | nil => exact List.nodup_nil
  | cons note rest ih =>
    have hrest := ih record.tail
    match note with
    | .tried _ | .began _ | .ended (.error _) => exact hrest
    | .ended (.ok channel) =>
      refine List.nodup_cons.mpr ⟨fun hmem => ?_, hrest⟩
      obtain ⟨old, hold, hname⟩ := List.mem_filterMap.mp hmem
      obtain ⟨-, hhead⟩ := record.made [] channel rest rfl
      -- The negotiation of the older channel has begun before that of the newer one.
      obtain ⟨before, rfl⟩ : ∃ before, rest = .began channel.names.instanceName :: before :=
        List.head?_eq_some_iff.mp hhead
      match old, hname with
      | .ended (.ok older), hname =>
        have hsame : older.names.instanceName = channel.names.instanceName :=
          Option.some.inj hname
        have hbefore : .ended (.ok older) ∈ before := by simpa using hold
        have hbegan := record.tail.tail.began_of_returned hbefore
        have hnot := (List.pairwise_cons.mp record.tail.fresh).1 _ hbegan _ rfl
        rw [hsame] at hnot
        exact hnot.2 rfl

/-- Once a negotiation is over, no channel is returned under a name that was begun with. -/
theorem IsRecord.not_returned {later earlier : List Note} {outcome : Except LinkFault Channel}
    {name : String} (record : start.IsRecord (later ++ .ended outcome :: earlier))
    (hbegan : .began name ∈ earlier) {note : Note} (hnote : note ∈ later) :
    note.returned? ≠ some name := by
  intro hreturned
  match note, hreturned with
  | .ended (.ok channel), hreturned =>
    obtain rfl : channel.names.instanceName = name := Option.some.inj hreturned
    obtain ⟨newer, older, rfl⟩ := List.append_of_mem hnote
    obtain ⟨-, hhead⟩ := record.made newer channel (older ++ .ended outcome :: earlier) (by simp)
    -- What the channel's negotiation began with comes after the one that is over.
    have hagain : .began channel.names.instanceName ∈ older := by
      cases older with
      | nil => cases hhead
      | cons first rest =>
        cases hhead
        exact List.mem_cons_self
    have hlater : .began channel.names.instanceName ∈ newer ++ .ended (.ok channel) :: older :=
      List.mem_append_right _ (List.mem_cons_of_mem _ hagain)
    exact (record.not_again (List.mem_cons_of_mem _ hbegan) hlater).2 rfl

end Records

/-! ## Every history leaves a record -/

/-- What a controller keeps, against the notes. -/
structure Keeping (start : Negotiator) (log : List Note) (n : Negotiator) : Prop where
  stem : n.stem = start.stem
  salt : n.salt = start.salt
  prefixes : n.prefixes = start.prefixes
  used : ∀ name, .began name ∈ log → name ∈ n.used
  record : start.IsRecord log

section Steps

variable {start n : Negotiator} {log : List Note}

theorem Keeping.draws (keeping : Keeping start log n) :
    start.Draws (ChannelNames.of n.prefixes n.candidate) :=
  ⟨n.drawn, by rw [candidate, keeping.stem, keeping.salt, keeping.prefixes]⟩

theorem makeUnique_follows {caller : Caller} {phase : Phase} {kind : ObjectKind} {name : String}
    {next : Handle → Phase} {used : List String} (hnext : ∀ h, start.Follows log used (next h))
    (s : System) : start.Follows log used (makeUnique caller phase kind name next s).1 := by
  unfold makeUnique
  split
  · exact hnext _
  · exact trivial
  · exact trivial

/-- What is kept when a salt has been drawn. -/
theorem Keeping.drawing (keeping : Keeping start log n) (caller : Caller) (left : Nat)
    (s : System) :
    Keeping start (n.notes (.drawing (left + 1)) ++ log)
        (n.step caller (.drawing (left + 1)) s).2.1 ∧
      start.Follows (n.notes (.drawing (left + 1)) ++ log)
        (n.step caller (.drawing (left + 1)) s).2.1.used
        (n.step caller (.drawing (left + 1)) s).1 := by
  by_cases hused : n.used.contains n.candidate = true
  · simp only [notes, step, if_pos hused, List.nil_append]
    exact ⟨{ keeping with }, trivial⟩
  · have hfresh : n.candidate ∉ n.used := by simpa using hused
    have hrecord : start.IsRecord (.tried n.candidate :: log) := by
      refine keeping.record.cons (fun name hbegan => ⟨?_, ?_⟩) ?_
      · intro hsame
        cases hsame
        exact hfresh (keeping.used _ hbegan)
      · intro hsame
        cases hsame
      · intro channel hsame
        cases hsame
    have hkept : Keeping start (.tried n.candidate :: log) { n with drawn := n.drawn + 1 } :=
      { keeping with
        used := by
          intro name hbegan
          exact keeping.used name (by simpa using hbegan)
        record := hrecord }
    simp only [notes, step, if_neg hused, List.cons_append, List.nil_append]
    split
    · exact ⟨hkept, keeping.draws, hfresh⟩
    · exact ⟨hkept, trivial⟩
    · exact ⟨hkept, trivial⟩

/-- What is kept when a request signal has been made and granted. -/
theorem Keeping.began (keeping : Keeping start log n) {names : ChannelNames}
    (hfresh : names.instanceName ∉ n.used) :
    Keeping start (.began names.instanceName :: log)
      { n with used := names.instanceName :: n.used } :=
  { keeping with
    used := by
      intro name hbegan
      rcases List.mem_cons.mp hbegan with hsame | hbefore
      · cases hsame
        exact List.mem_cons_self
      · exact List.mem_cons_of_mem _ (keeping.used name hbefore)
    record := by
      refine keeping.record.cons (fun name hbegan => ⟨?_, ?_⟩) ?_
      · intro hsame
        cases hsame
      · intro hsame
        cases hsame
        exact hfresh (keeping.used _ hbegan)
      · intro channel hsame
        cases hsame }

theorem Keeping.step {phase : Phase} (keeping : Keeping start log n)
    (hfollows : start.Follows log n.used phase) (caller : Caller) (s : System) :
    Keeping start (n.notes phase ++ log) (n.step caller phase s).2.1 ∧
      start.Follows (n.notes phase ++ log) (n.step caller phase s).2.1.used
        (n.step caller phase s).1 := by
  match phase with
  | .drawing 0 => exact ⟨keeping, trivial⟩
  | .drawing (left + 1) => exact keeping.drawing caller left s
  | .granting next =>
    simp only [Negotiator.step, notes, List.nil_append]
    split
    · exact ⟨keeping, trivial⟩
    · exact ⟨keeping, hfollows⟩
  | .response names request =>
    obtain ⟨hdraws, hfresh⟩ := hfollows
    have hnext (h : Handle) : start.Follows (.began names.instanceName :: log)
        (names.instanceName :: n.used) (.cancel names request h) := And.intro hdraws rfl
    exact ⟨keeping.began hfresh, makeUnique_follows hnext s⟩
  | .cancel names request response =>
    have hnext (h : Handle) :
        start.Follows log n.used (.memory names request response h) := hfollows
    exact ⟨keeping, makeUnique_follows hnext s⟩
  | .memory names request response cancel =>
    have hnext (h : Handle) : start.Follows log n.used
        (.header { names, request, response, cancel, memory := h }) := hfollows
    exact ⟨keeping, makeUnique_follows hnext s⟩
  | .header channel => exact ⟨keeping, hfollows⟩
  | .dropping [] fault => exact ⟨keeping, trivial⟩
  | .dropping (h :: rest) fault => exact ⟨keeping, trivial⟩
  | .done outcome => exact ⟨keeping, hfollows⟩

theorem History.keeping {phase? : Option Phase} (history : History start log phase? n) :
    Keeping start log n ∧ ∀ phase ∈ phase?, start.Follows log n.used phase := by
  induction history with
  | start => exact ⟨⟨rfl, rfl, rfl, nofun, .nil⟩, nofun⟩
  | call history ih =>
    refine ⟨ih.1, fun phase hphase => ?_⟩
    cases hphase
    exact trivial
  | step history caller s ih =>
    obtain ⟨keeping, hfollows⟩ := ih.1.step (ih.2 _ rfl) caller s
    refine ⟨keeping, fun phase hphase => ?_⟩
    cases hphase
    exact hfollows
  | @ended log outcome n history ih =>
    obtain ⟨keeping, hfollows⟩ := ih
    refine ⟨{ keeping with
      used := fun name hbegan => keeping.used name (by simpa using hbegan)
      record := keeping.record.cons (fun _ _ => ⟨nofun, nofun⟩) ?_ }, nofun⟩
    intro channel hover
    cases hover
    exact hfollows _ rfl

/-- A negotiation without a break belongs to a history. -/
theorem History.run {phase : Phase} (history : History start log (some phase) n) (caller : Caller)
    (s : System) :
    ∃ more, History start (.ended (n.run caller phase s).1 :: more ++ log) none
      (n.run caller phase s).2.1 := by
  revert log
  fun_induction Negotiator.run caller phase n s with
  | case1 phase n s outcome hover =>
    intro log history
    cases phase <;> cases hover
    exact ⟨[], history.ended⟩
  | case2 phase n s hgoing next =>
    rename_i ih
    intro log history
    obtain ⟨more, hmore⟩ := ih (history.step caller s)
    exact ⟨more ++ n.notes phase, by simpa using hmore⟩

theorem History.negotiate (history : History start log none n) (caller : Caller) (s : System) :
    ∃ more, History start (.ended (n.negotiate s caller).1 :: more ++ log) none
      (n.negotiate s caller).2.1 :=
  history.call.run caller s

end Steps

/-- Whatever salts a controller draws, however often it tries and whatever others do to the
system's objects in between:

* no two channels that it returns have the same instance name, whether or not the first of them
  was closed in the meantime;
* a name whose request signal was made and granted is not tried again, nor is such a signal made
  again; once that negotiation is over, and be it that it has failed, no channel is returned under
  the name (where the grant is refused the signal is gone, and the name may be drawn again);
* every channel is named after a salt that the controller drew;
* if the prefixes have no underscore, then different instances have no object in common, whatever
  kinds the objects have. -/
theorem names_never_reused {start n : Negotiator} {log : List Note} {phase? : Option Phase}
    (history : History start log phase? n) :
    (log.filterMap Note.returned?).Nodup ∧
      (∀ later name earlier, log = later ++ .began name :: earlier →
        .tried name ∉ later ∧ .began name ∉ later) ∧
      (∀ later outcome earlier, log = later ++ .ended outcome :: earlier →
        ∀ name, .began name ∈ earlier → name ∉ later.filterMap Note.returned?) ∧
      (∀ channel, .ended (.ok channel) ∈ log → start.Draws channel.names ∧
        .began channel.names.instanceName ∈ log) ∧
      ∀ (p p' : Prefixes) (pid pid' id id' : String) (salt salt' : Nat), p.IsPlain → p'.IsPlain →
        instanceStem pid id ++ Nat.repr salt ≠ instanceStem pid' id' ++ Nat.repr salt' →
          ∀ object ∈ (ChannelNames.of p (instanceStem pid id ++ Nat.repr salt)).all,
            ∀ object' ∈ (ChannelNames.of p' (instanceStem pid' id' ++ Nat.repr salt')).all,
              object ≠ object' ∧ ∀ key, keyOf? object = some key → keyOf? object' ≠ some key := by
  have record := history.keeping.1.record
  refine ⟨record.nodup_returned, ?_, ?_, ?_, ?_⟩
  · rintro later name earlier rfl
    have hbegan : Note.began name ∈ Note.began name :: earlier := List.mem_cons_self
    exact ⟨fun htried => (record.not_again hbegan htried).1 rfl,
      fun hagain => (record.not_again hbegan hagain).2 rfl⟩
  · rintro later outcome earlier rfl name hbegan hreturned
    obtain ⟨note, hnote, hname⟩ := List.mem_filterMap.mp hreturned
    exact record.not_returned hbegan hnote hname
  · intro channel hover
    obtain ⟨later, earlier, hlog⟩ := List.append_of_mem hover
    exact ⟨(record.made later channel earlier hlog).1, record.began_of_returned hover⟩
  · intro p p' pid pid' id id' salt salt' hplain hplain' hne object hobject object' hobject'
    exact ChannelNames.separate hplain hplain' (head?_instanceStem ..) (head?_instanceStem ..) hne
      hobject hobject'

/-- A controller whose salts are all the same makes a channel and closes it.  It does not try the
name again, and an instance with another salt has other objects. -/
theorem names_never_reused_closed :
    ∃ (log : List Note) (n : Negotiator) (channel : Channel) (later earlier : List Note),
      History { stem := "_1_x_", salt := fun _ => 7 } log none n ∧
        .ended (.ok channel) ∈ log ∧ channel.names.instanceName = "_1_x_7" ∧
        log = later ++ .began "_1_x_7" :: earlier ∧ .tried "_1_x_7" ∉ later ∧
        ∀ object ∈ (ChannelNames.of {} (instanceStem "1" "x" ++ Nat.repr 7)).all,
          ∀ object' ∈ (ChannelNames.of {} (instanceStem "1" "x" ++ Nat.repr 8)).all,
            object ≠ object' := by
  obtain ⟨channel, n, system, hmade, hname, -, -⟩ := negotiate_fresh
  obtain ⟨log, n', history, hover⟩ : ∃ log n',
      History { stem := "_1_x_", salt := fun _ => 7 } log none n' ∧
        Note.ended (.ok channel) ∈ log := by
    obtain ⟨before, hfirst⟩ := (History.start).negotiate {} {}
    rw [hmade] at hfirst
    obtain ⟨more, hsecond⟩ := hfirst.negotiate {} (channel.close system {} true)
    exact ⟨_, _, hsecond, List.mem_append_right _ List.mem_cons_self⟩
  obtain ⟨-, hagain, -, hchannel, hseparate⟩ := names_never_reused history
  obtain ⟨-, hbegan⟩ := hchannel channel hover
  rw [hname] at hbegan
  obtain ⟨later, earlier, hlog⟩ := List.append_of_mem hbegan
  obtain ⟨htried, -⟩ := hagain later _ earlier hlog
  refine ⟨log, n', channel, later, earlier, history, hover, hname, hlog, htried, ?_⟩
  intro object hobject object' hobject'
  have hplain : Prefixes.IsPlain {} := by decide
  exact (hseparate {} {} "1" "1" "x" "x" 7 8 hplain hplain (by decide) object hobject object'
    hobject').1

end Negotiator

end ConsoleLink
