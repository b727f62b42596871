import ConsoleLink.Proofs.Json.Scalars

/-!
# Records are read back from their text

* `Fills` says what a record is once the members of an object have been read into it.
* `readMembers_member` and `readMembers_end` are one round of reading an object, however it is laid
  out; `Fills.readMembers` runs them over an object with every member on a line of its own.
* `reads_record` reads a record back, and `decode_pretty` a whole text.
-/

namespace ConsoleLink.Json

/-! ## Keys -/

section Keys

variable {space : List Char} (hspace : IsBlank space) (rest : List Char)

include hspace

theorem nextKey_first : nextKey true (space ++ '"' :: rest) = .ok (some rest) := by
  rw [nextKey, skipSpace_before hspace rfl]
  rfl

theorem nextKey_later : nextKey false (',' :: (space ++ '"' :: rest)) = .ok (some rest) := by
  have hcomma : skipSpace (',' :: (space ++ '"' :: rest)) = ',' :: (space ++ '"' :: rest) :=
    skipSpace_cons rfl _
  have hquote : skipSpace (space ++ '"' :: rest) = '"' :: rest :=
    skipSpace_before hspace rfl rest
  simp [nextKey, hcomma, hquote]

theorem nextKey_end (first : Bool) : nextKey first (space ++ '}' :: rest) = .ok none := by
  rw [nextKey, skipSpace_before hspace rfl]
  rfl

theorem pastEnd_end : pastEnd '}' (space ++ '}' :: rest) = rest := by
  rw [pastEnd, skipSpace_before hspace rfl]
  rfl

end Keys

/-! ## Members -/

section Members

variable {σ : Type} {shape : Shape σ} {seen : List String} {s s' : σ}

/-- What a record is once the members of an object have been read into it, `seen` being the names
of those that were read before. -/
inductive Fills (shape : Shape σ) : List String → σ → List (String × Value) → σ → Prop
  | nil {seen : List String} {s : σ} (hmissing : missing? shape.members seen = none) :
      Fills shape seen s [] s
  | cons {seen : List String} {s s' s'' : σ} {name : String} {v : Value} {m : Member σ}
      {rest : List (String × Value)} (hfind : shape.find? name = some m) (hnew : name ∉ seen)
      (hreads : Reads (m.read s) v s') (fills : Fills shape (name :: seen) s' rest s'') :
      Fills shape seen s ((name, v) :: rest) s''

section Rounds

variable {first : Bool} {cs text after behind rest : List Char} {name : String} {m : Member σ}
  (hkey : nextKey first cs = .ok (some text)) (hname : readString text = .ok (name, after))

include hkey hname

/-- A round that reads a member, however its name is written. -/
theorem readMembers_member (hcolon : readColon after = .ok behind)
    (hfind : shape.find? name = some m) (hnew : name ∉ seen)
    (hread : m.read s behind = .ok (s', rest)) (fuel : Nat) :
    readMembers shape (fuel + 1) first seen s cs =
      readMembers shape fuel false (name :: seen) s' rest := by
  have hseen : ¬seen.contains name = true := by simpa using hnew
  rw [readMembers, hkey]
  simp only [bind, Except.bind, hname, hfind, if_neg hseen, hcolon, hread]

/-- A round that finds a member of another type. -/
theorem readMembers_fails (hcolon : readColon after = .ok behind)
    (hfind : shape.find? name = some m) (hnew : name ∉ seen) {t : Trouble}
    (hread : m.read s behind = .error t) (fuel : Nat) :
    readMembers shape (fuel + 1) first seen s cs = .error t := by
  have hseen : ¬seen.contains name = true := by simpa using hnew
  rw [readMembers, hkey]
  simp only [bind, Except.bind, hname, hfind, if_neg hseen, hcolon, hread]

/-- A round that finds a member a second time. -/
theorem readMembers_repeated (hfind : shape.find? name = some m) (hseen : name ∈ seen)
    (fuel : Nat) :
    readMembers shape (fuel + 1) first seen s cs =
      .error (.before (.duplicateField name) (pastEnd '}' after)) := by
  have hseen : seen.contains name = true := by simpa using hseen
  rw [readMembers, hkey]
  simp only [bind, Except.bind, hname, hfind, if_pos hseen]

/-- A round that runs over a member that nobody asks for. -/
theorem readMembers_other (hcolon : readColon after = .ok behind) (hfind : shape.find? name = none)
    (hskip : skip behind = .ok rest) (fuel : Nat) :
    readMembers shape (fuel + 1) first seen s cs = readMembers shape fuel false seen s rest := by
  rw [readMembers, hkey]
  simp only [bind, Except.bind, hname, hfind, hcolon, hskip]

end Rounds

theorem readColon_before {space : List Char} (hspace : IsBlank space) (rest : List Char) :
    readColon (space ++ ':' :: rest) = .ok rest := by
  rw [readColon, skipSpace_before hspace rfl]
  rfl

/-- The round that finds the end of the object. -/
theorem readMembers_end (hmissing : missing? shape.members seen = none) {space : List Char}
    (hspace : IsBlank space) (first : Bool) (rest : List Char) (fuel : Nat) :
    readMembers shape (fuel + 1) first seen s (space ++ '}' :: rest) = .ok (s, rest) := by
  rw [readMembers, nextKey_end hspace]
  simp only [bind, Except.bind, hmissing, pastEnd_end hspace]
  rfl

theorem ends_prettyMembers (level : Nat) (members : List (String × Value)) (rest : List Char) :
    Ends (Value.prettyMembers level members ++ rest) := by
  intro c hc
  match members with
  | [] =>
    cases hc
    exact Or.inl rfl
  | (name, v) :: more =>
    rw [Value.prettyMembers] at hc
    cases hc
    exact Or.inr (Or.inl rfl)

theorem length_le_prettyMembers (level : Nat) (members : List (String × Value)) :
    members.length ≤ (Value.prettyMembers level members).length := by
  induction members with
  | nil => exact Nat.zero_le _
  | cons member more ih =>
    obtain ⟨name, v⟩ := member
    rw [Value.prettyMembers]
    simp only [List.length_cons, List.length_append]
    omega

/-- The round of a member on a line of its own. -/
theorem Fills.member {first : Bool} {name : String} {v : Value} {m : Member σ}
    (hfind : shape.find? name = some m) (hnew : name ∉ seen) (hreads : Reads (m.read s) v s')
    (level : Nat) {opening rest : List Char}
    (hopening : ∀ behind, nextKey first (opening ++ '"' :: behind) = .ok (some behind))
    (hends : Ends rest) (fuel : Nat) :
    readMembers shape (fuel + 1) first seen s
        (opening ++ quoted name ++ ':' :: ' ' :: v.prettyChars (level + 1) ++ rest) =
      readMembers shape fuel false (name :: seen) s' rest := by
  have hread := hreads [' '] (level + 1) rest isBlank_space hends
  rw [List.append_assoc, List.singleton_append] at hread
  have hkey : nextKey first
      (opening ++ quoted name ++ ':' :: ' ' :: v.prettyChars (level + 1) ++ rest) =
        .ok (some (name.toList.flatMap escaped ++
          '"' :: ':' :: ' ' :: (v.prettyChars (level + 1) ++ rest))) := by
    rw [← hopening]
    simp [quoted]
  exact readMembers_member hkey (readString_escaped name _) (readColon_before isBlank_nil _) hfind
    hnew hread fuel

theorem prettyMembers_cons (level : Nat) (name : String) (v : Value) (more : List (String × Value))
    (rest : List Char) :
    Value.prettyMembers level ((name, v) :: more) ++ rest =
      ',' :: Value.newline (level + 1) ++ quoted name ++ ':' :: ' ' :: v.prettyChars (level + 1) ++
        (Value.prettyMembers level more ++ rest) := by
  simp [Value.prettyMembers]

/-- The members of an object are read back. -/
theorem Fills.readMembers {members : List (String × Value)} (fills : Fills shape seen s members s')
    (level : Nat) (rest : List Char) {fuel : Nat} (hfuel : members.length < fuel) :
    Json.readMembers shape fuel false seen s (Value.prettyMembers level members ++ rest) =
      .ok (s', rest) := by
  induction fills generalizing fuel with
  | nil hmissing =>
    obtain ⟨fuel, rfl⟩ : ∃ n, fuel = n + 1 := ⟨fuel - 1, by omega⟩
    rw [Value.prettyMembers, List.append_assoc]
    exact readMembers_end hmissing (isBlank_newline level) false rest fuel
  | @cons seen s s' s'' name v m more hfind hnew hreads fills ih =>
    rw [List.length_cons] at hfuel
    obtain ⟨fuel, rfl⟩ : ∃ n, fuel = n + 1 := ⟨fuel - 1, by omega⟩
    rw [prettyMembers_cons, Fills.member hfind hnew hreads level
      (nextKey_later (isBlank_newline (level + 1))) (ends_prettyMembers level more rest)]
    exact ih (by omega)

theorem readRecord_object {space : List Char} (hspace : IsBlank space) (rest : List Char) :
    readRecord shape (space ++ '{' :: rest) =
      Json.readMembers shape (rest.length + 1) true [] shape.blank rest := by
  rw [readRecord, skipSpace_before hspace rfl]
  rfl

/-- A record is read back from an object. -/
theorem reads_record {members : List (String × Value)}
    (fills : Fills shape [] shape.blank members s) :
    Reads (readRecord shape) (.object members) s := by
  intro space level rest hspace hends
  cases fills with
  | nil hmissing =>
    have htext : space ++ (Value.object []).prettyChars level ++ rest =
        space ++ '{' :: ([] ++ '}' :: rest) := by
      simp [Value.prettyChars]
    rw [htext, readRecord_object hspace]
    exact readMembers_end hmissing isBlank_nil true rest _
  | @cons _ _ s' _ name v m more hfind hnew hreads fills =>
    have htext : space ++ (Value.object ((name, v) :: more)).prettyChars level ++ rest =
        space ++ '{' :: (Value.newline (level + 1) ++ quoted name ++
          ':' :: ' ' :: v.prettyChars (level + 1) ++
            (Value.prettyMembers level more ++ rest)) := by
      simp [Value.prettyChars]
    have hlength := length_le_prettyMembers level more
    rw [htext, readRecord_object hspace, Fills.member hfind hnew hreads level
      (nextKey_first (isBlank_newline (level + 1))) (ends_prettyMembers level more rest)]
    refine fills.readMembers level rest ?_
    simp only [List.length_append, List.length_cons]
    omega

theorem shows_object (members : List (String × Value)) : Shows (.object members) := by
  intro level
  cases members with
  | nil => exact ⟨'{', _, by rw [Value.prettyChars], rfl, by decide⟩
  | cons member more => exact ⟨'{', _, by rw [Value.prettyChars], rfl, by decide⟩

/-- A member of a record takes what its reader reads back. -/
theorem Fills.member_of {α : Type} {name : String} {isRequired : Bool}
    {read : List Char → Except Trouble (α × List Char)} {set : σ → α → σ} {v : Value} {a : α}
    {rest : List (String × Value)}
    (hfind : shape.find? name = some (.of name isRequired read set)) (hnew : name ∉ seen)
    (hreads : Reads read v a) (fills : Fills shape (name :: seen) (set s a) rest s') :
    Fills shape seen s ((name, v) :: rest) s' := by
  refine .cons hfind hnew ?_ fills
  intro space level behind hspace hends
  show (read _).map _ = _
  rw [hreads space level behind hspace hends]
  rfl

theorem Fills.over (hmissing : missing? shape.members seen = none) (hsame : s = s') :
    Fills shape seen s [] s' := by
  rw [← hsame]
  exact .nil hmissing

end Members

/-- A value that is read back is what a whole text of it comes to. -/
theorem decode_pretty {α : Type} {read : List Char → Except Trouble (α × List Char)} {v : Value}
    {a : α} (hreads : Reads read v a) : decode read v.pretty = .ok a := by
  have hread := hreads [] 0 [] isBlank_nil nofun
  rw [List.nil_append, List.append_nil] at hread
  rw [decode, Value.pretty, String.toList_ofList, hread]
  rfl

end ConsoleLink.Json
