import ConsoleLink.Launch

/-!
# How a child finds its channel

A child is told its instance name by the last of its arguments, and looks for it from the first one
on.  So an argument of the caller, or the console switch, can stand in front of the name.

* `Launch.IsMarked` are the arguments that a child may take for the one with its instance name.
* `Launch.Finds` says what the first of them carries, `Launch.Unmarked` that there is none;
  `instanceOf_eq_some_iff` and `instanceOf_eq_none_iff` say that a child looks for just that.
* `launched_finds` is what a child finds that was launched, whatever stands in front of its name.
-/

namespace ConsoleLink

/-- A text that has a beginning is that beginning and the part behind it. -/
theorem afterPrefix?_eq_some_iff (beginning text rest : List Char) :
    afterPrefix? beginning text = some rest ↔ text = beginning ++ rest := by
  induction beginning generalizing text with
  | nil => simp [afterPrefix?]
  | cons p ps ih =>
    cases text with
    | nil => simp [afterPrefix?]
    | cons c cs =>
      by_cases hsame : p = c
      · simp [afterPrefix?, hsame, ih]
      · have hother : c ≠ p := Ne.symm hsame
        simp [afterPrefix?, hsame, hother]

namespace Launch

variable {switch value a : String} {arguments more : List String}

/-- An argument starts with a switch and an equals sign. -/
def IsMarked (switch a : String) : Prop := (switch ++ "=").toList <+: a.toList

/-- No argument starts with the switch and an equals sign. -/
def Unmarked (switch : String) (arguments : List String) : Prop :=
  ∀ a ∈ arguments, ¬ IsMarked switch a

/-- The first argument that starts with the switch and an equals sign carries a value. -/
def Finds (switch : String) (arguments : List String) (value : String) : Prop :=
  ∃ before after, arguments = before ++ instanceArgument switch value :: after ∧
    Unmarked switch before

/-- What an argument carries for a switch, if it is marked with it. -/
def carried? (switch a : String) : Option String :=
  (afterPrefix? (switch ++ "=").toList a.toList).map String.ofList

theorem toList_instanceArgument (switch value : String) :
    (instanceArgument switch value).toList = (switch ++ "=").toList ++ value.toList :=
  String.toList_append

theorem carried?_eq_some_iff :
    carried? switch a = some value ↔ a = instanceArgument switch value := by
  rw [carried?, Option.map_eq_some_iff]
  constructor
  · rintro ⟨rest, hrest, rfl⟩
    rw [afterPrefix?_eq_some_iff] at hrest
    apply String.toList_inj.mp
    rw [hrest, toList_instanceArgument, String.toList_ofList]
  · rintro rfl
    refine ⟨value.toList, ?_, String.ofList_toList⟩
    rw [afterPrefix?_eq_some_iff, toList_instanceArgument]

/-- A marked argument carries something. -/
theorem marked_iff : IsMarked switch a ↔ ∃ value, a = instanceArgument switch value := by
  constructor
  · rintro ⟨rest, hrest⟩
    refine ⟨String.ofList rest, String.toList_inj.mp ?_⟩
    rw [← hrest, toList_instanceArgument, String.toList_ofList]
  · rintro ⟨value, rfl⟩
    exact ⟨value.toList, (toList_instanceArgument switch value).symm⟩

theorem carried?_eq_none_iff : carried? switch a = none ↔ ¬ IsMarked switch a := by
  rw [Option.eq_none_iff_forall_ne_some, marked_iff, not_exists]
  exact forall_congr' fun value => not_congr carried?_eq_some_iff

/-- A child takes the first argument that is marked. -/
theorem instanceOf_eq_some_iff :
    instanceOf switch arguments = some value ↔ Finds switch arguments value := by
  show arguments.findSome? (carried? switch) = some value ↔ _
  rw [List.findSome?_eq_some_iff]
  constructor
  · rintro ⟨before, a, after, harguments, hcarried, hbefore⟩
    rw [carried?_eq_some_iff] at hcarried
    refine ⟨before, after, hcarried ▸ harguments, ?_⟩
    exact fun b hb => carried?_eq_none_iff.mp (hbefore b hb)
  · rintro ⟨before, after, harguments, hbefore⟩
    refine ⟨before, instanceArgument switch value, after, harguments,
      carried?_eq_some_iff.mpr rfl, ?_⟩
    exact fun b hb => carried?_eq_none_iff.mpr (hbefore b hb)

/-- A child finds nothing if no argument is marked. -/
theorem instanceOf_eq_none_iff :
    instanceOf switch arguments = none ↔ Unmarked switch arguments := by
  show arguments.findSome? (carried? switch) = none ↔ _
  rw [List.findSome?_eq_none_iff]
  exact forall₂_congr fun a _ => carried?_eq_none_iff

/-- What stands further behind counts only if there is nothing in front of it. -/
theorem instanceOf_append :
    instanceOf switch (arguments ++ more) =
      (instanceOf switch arguments).or (instanceOf switch more) :=
  List.findSome?_append

section Launched

variable {config : Config} {name : String} {executable : String}

/-- What a child that was launched looks at: the arguments of the caller and the console switch,
and then its own name. -/
theorem instanceOf_launched :
    instanceOf config.instanceSwitch (Launch.of executable arguments config name).arguments =
      (instanceOf config.instanceSwitch (arguments ++ [config.consoleSwitch])).or (some name) := by
  have hwhole : (Launch.of executable arguments config name).arguments =
      (arguments ++ [config.consoleSwitch]) ++ [instanceArgument config.instanceSwitch name] :=
    List.append_cons arguments config.consoleSwitch _
  have hown : instanceOf config.instanceSwitch [instanceArgument config.instanceSwitch name] =
      some name :=
    instanceOf_eq_some_iff.mpr ⟨[], [], rfl, nofun⟩
  rw [hwhole, instanceOf_append, hown]

theorem instanceOf_of_unmarked
    (h : Unmarked config.instanceSwitch (arguments ++ [config.consoleSwitch])) :
    instanceOf config.instanceSwitch (Launch.of executable arguments config name).arguments =
      some name := by
  rw [instanceOf_launched, instanceOf_eq_none_iff.mpr h, Option.none_or]

theorem instanceOf_of_finds
    (h : Finds config.instanceSwitch (arguments ++ [config.consoleSwitch]) value) :
    instanceOf config.instanceSwitch (Launch.of executable arguments config name).arguments =
      some value := by
  rw [instanceOf_launched, instanceOf_eq_some_iff.mpr h, Option.some_or]

end Launched

theorem unmarked_or_finds (switch : String) (arguments : List String) :
    Unmarked switch arguments ∨ ∃ value, Finds switch arguments value := by
  cases hfound : instanceOf switch arguments with
  | none => exact Or.inl (instanceOf_eq_none_iff.mp hfound)
  | some value => exact Or.inr ⟨value, instanceOf_eq_some_iff.mp hfound⟩

/-- A child that was launched finds its own instance name exactly if nothing in front of it starts
with the instance switch and an equals sign, or if the first argument that does carries the same
name.  In every other case it finds what that argument carries; so it always finds something. -/
theorem launched_finds (executable : String) (arguments : List String) (config : Config)
    (name : String) :
    (instanceOf config.instanceSwitch (Launch.of executable arguments config name).arguments =
        some name ↔
      Unmarked config.instanceSwitch (arguments ++ [config.consoleSwitch]) ∨
        Finds config.instanceSwitch (arguments ++ [config.consoleSwitch]) name) ∧
      (¬ Unmarked config.instanceSwitch (arguments ++ [config.consoleSwitch]) →
        ∃ value, Finds config.instanceSwitch (arguments ++ [config.consoleSwitch]) value ∧
          instanceOf config.instanceSwitch (Launch.of executable arguments config name).arguments =
            some value) ∧
      instanceOf config.instanceSwitch (Launch.of executable arguments config name).arguments ≠
        none := by
  rcases unmarked_or_finds config.instanceSwitch (arguments ++ [config.consoleSwitch]) with
    hunmarked | ⟨value, hfinds⟩
  · have hown : instanceOf config.instanceSwitch
        (Launch.of executable arguments config name).arguments = some name :=
      instanceOf_of_unmarked hunmarked
    refine ⟨⟨fun _ => Or.inl hunmarked, fun _ => hown⟩, fun h => absurd hunmarked h, ?_⟩
    rw [hown]
    nofun
  · have hother : instanceOf config.instanceSwitch
        (Launch.of executable arguments config name).arguments = some value :=
      instanceOf_of_finds hfinds
    refine ⟨⟨?_, ?_⟩, fun _ => ⟨value, hfinds, hother⟩, ?_⟩
    · intro hname
      rw [hother] at hname
      exact Or.inr (Option.some.inj hname ▸ hfinds)
    · rintro (hunmarked | hfinds')
      · exact instanceOf_of_unmarked hunmarked
      · exact instanceOf_of_finds hfinds'
    · rw [hother]
      nofun

/-- An argument of the caller hides the name. -/
example : instanceOf "-i" (Launch.of "tool" ["-i", "-i=a", "-i=b"]
    { consoleSwitch := "-i=c", instanceSwitch := "-i" } "d").arguments = some "a" := by decide

end Launch

end ConsoleLink
