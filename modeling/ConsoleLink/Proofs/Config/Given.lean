import ConsoleLink.Config.Reader
import ConsoleLink.Proofs.Json.Layouts

/-!
# Configurations are read from what is given of them

* `Prefixes.Setting`, `RunAs.Setting` and `Config.Setting` are what can be given of the three
  records, and their `isRead` say that the readers find it.
* `Config.Gives` are the texts of objects that give settings, in any order and any layout, and
  among members of any other names.
* `Config.Repeats` is a name that is given twice.
* `Config.parse_given` is the result: the settings replace the defaults, unless a name is given
  twice.
-/

namespace ConsoleLink

open Json (Comes Finds Givens IsBlank Member OrNull Quotes Unlike boolText)

/-! ## Prefixes -/

/-- A prefix that is given. -/
inductive Prefixes.Setting
  | mapping (s : String)
  | request (s : String)
  | response (s : String)
  | cancel (s : String)
  | job (s : String)
  deriving DecidableEq, Repr

namespace Prefixes

namespace Setting

/-- The member that gives a prefix. -/
def name : Setting → String
  | mapping _ => "mapping"
  | request _ => "request"
  | response _ => "response"
  | cancel _ => "cancel"
  | job _ => "job"

def text : Setting → String
  | mapping s | request s | response s | cancel s | job s => s

/-- The prefixes with the given one in its place. -/
def set (p : Prefixes) : Setting → Prefixes
  | mapping s => { p with mapping := s }
  | request s => { p with request := s }
  | response s => { p with response := s }
  | cancel s => { p with cancel := s }
  | job s => { p with job := s }

end Setting

/-- What can be given of prefixes. -/
def givens : Givens Prefixes Setting where
  shape := shape
  name := Setting.name
  IsText t cs := Quotes t.text cs
  set := Setting.set
  repeated? _ := none

theorem isRead : givens.IsRead where
  known t := by
    cases t
    all_goals
      refine ⟨_, rfl, fun p space v rest quotes hspace hends => ?_⟩
      exact ((quotes.finds "a string").comes hspace hends).member rfl
  covers := by
    simp only [givens, shape, List.forall_mem_cons]
    exact ⟨⟨.mapping "", rfl⟩, ⟨.request "", rfl⟩, ⟨.response "", rfl⟩, ⟨.cancel "", rfl⟩,
      ⟨.job "", rfl⟩, nofun⟩

theorem isListable : givens.IsListable where
  nodup := by decide
  unlike _ _ quotes := quotes.unlike (by decide)
  plain _ := rfl

/-- Prefixes are read from an object or a list; those not given keep their defaults. -/
theorem comes {given : List Setting} {v : List Char} (record : givens.Record given v)
    {space : List Char} (hspace : IsBlank space) (rest : List Char) :
    Comes (Json.readRecord shape (space ++ (v ++ rest))) (givens.repeatedIn [] given)
      (given.foldl Setting.set {}, rest) :=
  record.comes isRead isListable (fun _ => rfl) hspace rest

end Prefixes

/-! ## Accounts -/

/-- What is given of an account. -/
inductive RunAs.Setting
  | user (s : String)
  | password (s : Option String)
  deriving DecidableEq, Repr

namespace RunAs

namespace Setting

/-- The member that gives it. -/
def name : Setting → String
  | user _ => "user"
  | password _ => "password"

/-- The texts that give it. -/
def IsText : Setting → List Char → Prop
  | user s, cs => Quotes s cs
  | password s, cs => OrNull Quotes s cs

/-- The account with what is given in its place. -/
def set (r : RunAs) : Setting → RunAs
  | user s => { r with user := s }
  | password s => { r with password := s }

end Setting

/-- What can be given of an account. -/
def givens : Givens RunAs Setting where
  shape := shape
  name := Setting.name
  IsText := Setting.IsText
  set := Setting.set
  repeated? _ := none

/-- The texts of an account, which name its user. -/
def IsText (given : List Setting) (cs : List Char) : Prop :=
  givens.Record given cs ∧ (givens.IsDistinct given → ∃ s, .user s ∈ given)

theorem isRead : givens.IsRead where
  known t := by
    cases t with
    | user s =>
      refine ⟨_, rfl, fun r space v rest quotes hspace hends => ?_⟩
      exact ((Quotes.finds quotes "a string").comes hspace hends).member rfl
    | password s =>
      refine ⟨_, rfl, fun r space v rest text hspace hends => ?_⟩
      exact ((OrNull.finds_quotes text "a string").comes hspace hends).member rfl
  covers := by
    simp only [givens, shape, List.forall_mem_cons]
    exact ⟨⟨.user "", rfl⟩, ⟨.password none, rfl⟩, nofun⟩

theorem isListable : givens.IsListable where
  nodup := by decide
  unlike t v text := by
    match t, text with
    | .user s, quotes => exact Quotes.unlike quotes (by decide)
    | .password (some s), quotes => exact Quotes.unlike quotes (by decide)
    | .password none, hnull => exact ⟨'n', _, hnull, rfl, by decide⟩
  plain _ := rfl

/-- An account is read from an object or a list that names its user. -/
theorem comes {given : List Setting} {v : List Char} (text : IsText given v)
    {space : List Char} (hspace : IsBlank space) (rest : List Char) :
    Comes (Json.readRecord shape (space ++ (v ++ rest))) (givens.repeatedIn [] given)
      (given.foldl Setting.set shape.blank, rest) := by
  obtain ⟨record, huser⟩ := text
  refine record.comes isRead isListable (fun hnone => ?_) hspace rest
  -- only the user has to be given
  obtain ⟨s, hs⟩ := huser ((Givens.repeatedIn_eq_none_iff [] given).mp hnone).1
  have hname : ∃ t ∈ given, t.name = "user" := ⟨.user s, hs, rfl⟩
  simpa [Json.missing?, givens, shape, Member.string, Member.of] using hname

end RunAs

/-! ## Configurations -/

/-- A setting that is given. -/
inductive Config.Setting
  | prefixes (given : List Prefixes.Setting)
  | maxNameAttempts (n : UInt32)
  | wantsProgress (b : Bool)
  | guardWithJob (b : Bool)
  | verifyHandlesClosed (b : Bool)
  | runAs (given : Option (List RunAs.Setting))
  | shutdownTimeoutMs (n : Option UInt64)
  | pollIntervalMs (n : UInt64)
  | consoleSwitch (s : String)
  | instanceSwitch (s : String)
  | workingDirectory (s : Option String)
  deriving DecidableEq, Repr

namespace Config

namespace Setting

/-- The member that gives a setting. -/
def name : Setting → String
  | prefixes _ => "prefixes"
  | maxNameAttempts _ => "max_name_attempts"
  | wantsProgress _ => "wants_progress"
  | guardWithJob _ => "guard_with_job"
  | verifyHandlesClosed _ => "verify_handles_closed"
  | runAs _ => "run_as"
  | shutdownTimeoutMs _ => "shutdown_timeout_ms"
  | pollIntervalMs _ => "poll_interval_ms"
  | consoleSwitch _ => "console_switch"
  | instanceSwitch _ => "instance_switch"
  | workingDirectory _ => "working_directory"

/-- The texts that give a setting. -/
def IsText : Setting → List Char → Prop
  | prefixes given, cs => Prefixes.givens.Record given cs
  | maxNameAttempts n, cs => cs = Nat.toDigits 10 n.toNat
  | wantsProgress b, cs | guardWithJob b, cs | verifyHandlesClosed b, cs => cs = boolText b
  | runAs given, cs => OrNull RunAs.IsText given cs
  | shutdownTimeoutMs n, cs => OrNull (fun ms cs => cs = Nat.toDigits 10 ms.toNat) n cs
  | pollIntervalMs n, cs => cs = Nat.toDigits 10 n.toNat
  | consoleSwitch s, cs | instanceSwitch s, cs => Quotes s cs
  | workingDirectory s, cs => OrNull Quotes s cs

/-- The configuration with a setting in its place. -/
def set (c : Config) : Setting → Config
  | prefixes given => { c with prefixes := given.foldl Prefixes.Setting.set {} }
  | maxNameAttempts n => { c with maxNameAttempts := n }
  | wantsProgress b => { c with wantsProgress := b }
  | guardWithJob b => { c with guardWithJob := b }
  | verifyHandlesClosed b => { c with verifyHandlesClosed := b }
  | runAs given => { c with runAs := given.map (List.foldl RunAs.Setting.set RunAs.shape.blank) }
  | shutdownTimeoutMs n => { c with shutdownTimeoutMs := n }
  | pollIntervalMs n => { c with pollIntervalMs := n }
  | consoleSwitch s => { c with consoleSwitch := s }
  | instanceSwitch s => { c with instanceSwitch := s }
  | workingDirectory s => { c with workingDirectory := s }

/-- A name that is given twice inside a setting. -/
def repeated? : Setting → Option String
  | prefixes given => Prefixes.givens.repeatedIn [] given
  | runAs given => given.bind (RunAs.givens.repeatedIn [])
  | _ => none

end Setting

/-- What can be given of a configuration. -/
def givens : Givens Config Setting where
  shape := shape
  name := Setting.name
  IsText := Setting.IsText
  set := Setting.set
  repeated? := Setting.repeated?

theorem isRead : givens.IsRead where
  known t := by
    cases t with
    | prefixes given =>
      refine ⟨_, rfl, fun c space v rest text hspace hends => ?_⟩
      exact (Prefixes.comes text hspace rest).member rfl
    | maxNameAttempts n =>
      refine ⟨_, rfl, fun c space v rest text hspace hends => ?_⟩
      obtain rfl : v = Nat.toDigits 10 n.toNat := text
      exact ((Json.finds_word32 n).comes hspace hends).member (by simp [givens, Setting.set])
    | wantsProgress b | guardWithJob b | verifyHandlesClosed b =>
      refine ⟨_, rfl, fun c space v rest text hspace hends => ?_⟩
      obtain rfl : v = boolText b := text
      exact ((Json.finds_bool b).comes hspace hends).member rfl
    | runAs given =>
      refine ⟨_, rfl, fun c space v rest text hspace hends => ?_⟩
      refine (OrNull.comes (fun given v rest text _ => ?_) text hspace hends).member rfl
      exact ⟨text.1.unlike (by decide) (by decide), RunAs.comes text Json.isBlank_nil rest⟩
    | shutdownTimeoutMs n =>
      refine ⟨_, rfl, fun c space v rest text hspace hends => ?_⟩
      have finds : Finds (Json.optional Json.readWord64) v (n.map UInt64.toNat) := by
        refine OrNull.finds (fun ms v hv => ?_) text
        obtain rfl : v = Nat.toDigits 10 ms.toNat := hv
        exact ⟨Json.unlike_toDigits _, Json.finds_word64 ms⟩
      exact (finds.comes hspace hends).member (by simp [givens, Setting.set, Function.comp_def])
    | pollIntervalMs n =>
      refine ⟨_, rfl, fun c space v rest text hspace hends => ?_⟩
      obtain rfl : v = Nat.toDigits 10 n.toNat := text
      exact ((Json.finds_word64 n).comes hspace hends).member (by simp [givens, Setting.set])
    | consoleSwitch s | instanceSwitch s =>
      refine ⟨_, rfl, fun c space v rest quotes hspace hends => ?_⟩
      exact ((Quotes.finds quotes "a string").comes hspace hends).member rfl
    | workingDirectory s =>
      refine ⟨_, rfl, fun c space v rest text hspace hends => ?_⟩
      exact ((OrNull.finds_quotes text "path string").comes hspace hends).member rfl
  covers := by
    simp only [givens, shape, List.forall_mem_cons]
    exact ⟨⟨.prefixes [], rfl⟩, ⟨.maxNameAttempts 0, rfl⟩, ⟨.wantsProgress true, rfl⟩,
      ⟨.guardWithJob true, rfl⟩, ⟨.verifyHandlesClosed true, rfl⟩, ⟨.runAs none, rfl⟩,
      ⟨.shutdownTimeoutMs none, rfl⟩, ⟨.pollIntervalMs 0, rfl⟩, ⟨.consoleSwitch "", rfl⟩,
      ⟨.instanceSwitch "", rfl⟩, ⟨.workingDirectory none, rfl⟩, nofun⟩

/-- No member has to be given. -/
theorem missing?_eq_none (seen : List String) : Json.missing? shape.members seen = none := rfl

/-- A setting leaves the others alone. -/
theorem set_comm (t t' : Setting) (c : Config) (hname : t.name ≠ t'.name) :
    Setting.set (Setting.set c t) t' = Setting.set (Setting.set c t') t := by
  -- two settings of one member are excluded by their name
  cases t <;> cases t' <;> first | rfl | exact absurd rfl hname

/-! ## Names given twice -/

/-- A name is given twice, or twice inside the prefixes or the account. -/
def Repeats (given : List Setting) (name : String) : Prop :=
  2 ≤ (given.map Setting.name).count name ∨
    (∃ ps, .prefixes ps ∈ given ∧ 2 ≤ (ps.map Prefixes.Setting.name).count name) ∨
    ∃ rs, .runAs (some rs) ∈ given ∧ 2 ≤ (rs.map RunAs.Setting.name).count name

theorem repeats_of_repeatedIn {given : List Setting} {name : String}
    (hrepeated : givens.repeatedIn [] given = some name) : Repeats given name := by
  rcases Givens.repeatedIn_eq_some hrepeated with ⟨hseen, -⟩ | htwice | ⟨t, ht, hinside⟩
  · cases hseen
  · exact Or.inl htwice
  · match t, hinside with
    | .prefixes ps, hinside =>
      exact Or.inr (Or.inl ⟨ps, ht, Givens.two_le_count Prefixes.isListable.plain hinside⟩)
    | .runAs (some rs), hinside =>
      exact Or.inr (Or.inr ⟨rs, ht, Givens.two_le_count RunAs.isListable.plain hinside⟩)

theorem not_repeats {given : List Setting} (hnone : givens.repeatedIn [] given = none)
    (name : String) : ¬Repeats given name := by
  have hinside := ((Givens.repeatedIn_eq_none_iff [] given).mp hnone).1.2
  rintro (htwice | ⟨ps, hps, htwice⟩ | ⟨rs, hrs, htwice⟩)
  · exact Nat.not_lt.mpr (Givens.count_le_one hnone name) htwice
  · exact Nat.not_lt.mpr (Givens.count_le_one (hinside _ hps) name) htwice
  · exact Nat.not_lt.mpr (Givens.count_le_one (hinside _ hrs) name) htwice

/-! ## Texts -/

/-- A text is an object, with any space around it, that gives settings. -/
def Gives (text : String) (given : List Setting) : Prop :=
  ∃ before cs after, IsBlank before ∧ givens.Object given cs ∧ IsBlank after ∧
    text.toList = before ++ (cs ++ after)

/-- The settings that a text gives replace the defaults, in whichever order they are given; a name
that is given twice is refused. -/
theorem parse_given {text : String} {given : List Setting} (gives : Gives text given) :
    ((∀ name, ¬Repeats given name) →
      ∀ order : List Setting, order.Perm given →
        parse text = .ok (order.foldl Setting.set {})) ∧
    ((∃ name, Repeats given name) →
      ∃ name position, Repeats given name ∧
        parse text = .error (.json ⟨.duplicateField name, position⟩)) := by
  obtain ⟨before, cs, after, hbefore, object, hafter, htext⟩ := gives
  have comes := object.comes isRead (fun _ => missing?_eq_none _) hbefore after
  rw [← htext] at comes
  cases hrepeated : givens.repeatedIn [] given with
  | none =>
    rw [hrepeated] at comes
    refine ⟨fun _ order hperm => ?_, fun ⟨name, repeats⟩ =>
      absurd repeats (not_repeats hrepeated name)⟩
    have hnodup := ((Givens.repeatedIn_eq_none_iff [] given).mp hrepeated).1.1
    have hsame : order.foldl Setting.set {} = given.foldl Setting.set {} :=
      Givens.foldl_perm (g := givens) set_comm hperm hnodup {}
    have hdecode : Json.decode (Json.readRecord shape) text = .ok (given.foldl Setting.set {}) :=
      Json.decode_of_ok comes hafter
    rw [hsame, parse, hdecode]
    rfl
  | some name =>
    rw [hrepeated] at comes
    obtain ⟨t, hread, hcause⟩ := comes
    have repeats := repeats_of_repeatedIn hrepeated
    refine ⟨fun hnone => absurd repeats (hnone name), fun _ =>
      ⟨name, (t.locate text.toList).position, repeats, ?_⟩⟩
    have hdecode : Json.decode (Json.readRecord shape) text = .error (t.locate text.toList) :=
      Json.decode_of_error hread
    rw [parse, hdecode, ← hcause]
    rfl

/-- A nested list is run over on the way to a prefix, and a name that is given twice is refused. -/
theorem parse_given_prefix :
    Gives "\x7b\"a\":[\x7b\x7d],\"prefixes\":\x7b\"job\":\"J\"\x7d\x7d" [.prefixes [.job "J"]] ∧
    parse "\x7b\"a\":[\x7b\x7d],\"prefixes\":\x7b\"job\":\"J\"\x7d\x7d" =
      .ok { prefixes := { job := "J" } } ∧
    Gives "\x7b\"run_as\":null,\"run_as\":null\x7d" [.runAs none, .runAs none] ∧
    ∃ name position, Repeats [.runAs none, .runAs none] name ∧
      parse "\x7b\"run_as\":null,\"run_as\":null\x7d" =
        .error (.json ⟨.duplicateField name, position⟩) := by
  have quotes : Quotes "J" "\"J\"".toList := ⟨"J".toList, Json.spells_self (by decide), rfl⟩
  have hjob := Givens.Item.dense (g := Prefixes.givens) (.job "J") (by decide) quotes
  have prefixes := Givens.Record.object (.of (.item .first hjob (.close Json.isBlank_nil)))
  have hprefixes := Givens.Item.dense (g := givens) (.prefixes [.job "J"]) (by decide) prefixes
  have hnull := Givens.Item.dense (g := givens) (.runAs none) (by decide) rfl
  have hlist := Json.Grammatical.list
    (.element Json.isBlank_nil (.emptyObject Json.isBlank_nil)) Json.isBlank_nil
  have hname : ∀ t, givens.name t ≠ "a" := by
    intro t
    cases t <;> simp [givens, Setting.name]
  have hkey : Json.Spells "a".toList "a".toList := Json.spells_self (by decide)
  have hother := Givens.Item.other (g := givens) Json.isBlank_nil hkey Json.isBlank_nil
    Json.isBlank_nil hname hlist
  have gives : Gives "\x7b\"a\":[\x7b\x7d],\"prefixes\":\x7b\"job\":\"J\"\x7d\x7d"
      [.prefixes [.job "J"]] :=
    ⟨[], _, [], Json.isBlank_nil, .of (.item .first hother
      (.item (.later Json.isBlank_nil) hprefixes (.close Json.isBlank_nil))), Json.isBlank_nil, rfl⟩
  have twice : Gives "\x7b\"run_as\":null,\"run_as\":null\x7d" [.runAs none, .runAs none] :=
    ⟨[], _, [], Json.isBlank_nil, .of (.item .first hnull
      (.item (.later Json.isBlank_nil) hnull (.close Json.isBlank_nil))), Json.isBlank_nil, rfl⟩
  refine ⟨gives, (parse_given gives).1 ?_ _ (.refl _), twice, (parse_given twice).2 ⟨"run_as", ?_⟩⟩
  · exact not_repeats (by decide)
  · exact Or.inl (by decide)

end Config

end ConsoleLink
