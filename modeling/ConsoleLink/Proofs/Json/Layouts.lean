import ConsoleLink.Proofs.Json.Grammar
import ConsoleLink.Proofs.Json.Records
import Mathlib.Data.List.Nodup

/-!
# Records are read from texts of any layout

The members of a record may be given in any order, among others that nobody asks for, and with any
space between.  None of them may be given twice.  A list gives members by their order instead.

* `Givens` says what can be given of a record, in which texts, and what it makes of the record.
  `Givens.Object` are the texts of objects that give something, in their order; `Givens.Record` are
  those of objects and of lists.
* `Givens.repeatedIn` is the first name that is given a second time; `repeatedIn_eq_none_iff` and
  `repeatedIn_eq_some` say when there is one.
* `Comes` says what a reader comes to that may find a name a second time.
* `Members.comes` runs over the members of an object, with `comes_given` for the round of a member
  that gives something, and `Elements.reads` over the elements of a list.  `Object.comes` and
  `Record.comes` are the results for a record.
-/

namespace ConsoleLink.Json

/-! ## What is given -/

/-- What can be given of a record. -/
structure Givens (σ τ : Type) where
  shape : Shape σ
  /-- The member that is given. -/
  name : τ → String
  /-- The texts that give it. -/
  IsText : τ → List Char → Prop
  /-- The record once it is given. -/
  set : σ → τ → σ
  /-- A name that is given twice inside. -/
  repeated? : τ → Option String

variable {σ τ : Type} (g : Givens σ τ)

namespace Givens

/-- A member of an object: it gives something, or its name is none of the record's and its value may
be any. -/
inductive Item : Option τ → List Char → Prop
  | given {t : τ} {before key after space v : List Char} (hbefore : IsBlank before)
      (spells : Spells key (g.name t).toList) (hafter : IsBlank after) (hspace : IsBlank space)
      (text : g.IsText t v) :
      Item (some t) (before ++ '"' :: (key ++ '"' :: (after ++ ':' :: (space ++ v))))
  | other {name : String} {before key after space v : List Char} (hbefore : IsBlank before)
      (spells : Spells key name.toList) (hafter : IsBlank after) (hspace : IsBlank space)
      (hother : ∀ t, g.name t ≠ name) (value : Grammatical .value v) :
      Item none (before ++ '"' :: (key ++ '"' :: (after ++ ':' :: (space ++ v))))

/-- What stands before a member: a comma, unless it is the first one. -/
inductive Opening : (first : Bool) → List Char → Prop
  | first : Opening true []
  | later {gap : List Char} (hgap : IsBlank gap) : Opening false (gap ++ [','])

/-- The members of an object behind its brace, or behind another member, and what they give. -/
inductive Members : (first : Bool) → List τ → List Char → Prop
  | close {first : Bool} {space : List Char} (hspace : IsBlank space) :
      Members first [] (space ++ ['}'])
  | item {first : Bool} {opening cs tail : List Char} {t : Option τ} {ts : List τ}
      (hopening : Opening first opening) (item : g.Item t cs) (members : Members false ts tail) :
      Members first (t.toList ++ ts) (opening ++ (cs ++ tail))

/-- An object, and what it gives. -/
inductive Object : List τ → List Char → Prop
  | of {ts : List τ} {cs : List Char} (members : g.Members true ts cs) : Object ts ('{' :: cs)

/-- The elements of a list behind its bracket, or behind another element.  They give `members` in
their order, and leave out none at the end that must be there. -/
inductive Elements : List (Member σ) → (first : Bool) → List τ → List Char → Prop
  | close {members : List (Member σ)} {first : Bool} {space : List Char} (hspace : IsBlank space)
      (hoptional : ∀ m ∈ members, m.required = false) : Elements members first [] (space ++ [']'])
  | item {m : Member σ} {members : List (Member σ)} {first : Bool}
      {opening space v tail : List Char} {t : τ} {ts : List τ} (hname : m.name = g.name t)
      (hopening : Opening first opening) (hspace : IsBlank space) (text : g.IsText t v)
      (elements : Elements members false ts tail) :
      Elements (m :: members) first (t :: ts) (opening ++ (space ++ (v ++ tail)))

/-- An object or a list, and what it gives. -/
inductive Record : List τ → List Char → Prop
  | object {ts : List τ} {cs : List Char} (object : g.Object ts cs) : Record ts cs
  | list {ts : List τ} {cs : List Char} (elements : g.Elements g.shape.members true ts cs) :
      Record ts ('[' :: cs)

/-! ## Names given twice -/

/-- The first name that is given although it was seen before, or is given twice inside. -/
def repeatedIn (seen : List String) : List τ → Option String
  | [] => none
  | t :: ts =>
    if g.name t ∈ seen then some (g.name t)
    else (g.repeated? t).or (repeatedIn (g.name t :: seen) ts)

/-- No name is given twice. -/
def IsDistinct (ts : List τ) : Prop := (ts.map g.name).Nodup ∧ ∀ t ∈ ts, g.repeated? t = none

variable {g}

theorem repeatedIn_eq_none_iff (seen : List String) (ts : List τ) :
    g.repeatedIn seen ts = none ↔ g.IsDistinct ts ∧ ∀ t ∈ ts, g.name t ∉ seen := by
  induction ts generalizing seen with
  | nil => simp [repeatedIn, IsDistinct]
  | cons t ts ih =>
    unfold repeatedIn
    split
    · rename_i hseen
      simp [hseen]
    · rename_i hnew
      rw [Option.or_eq_none_iff, ih]
      constructor
      · rintro ⟨hinside, ⟨hnodup, hall⟩, hfresh⟩
        refine ⟨⟨List.nodup_cons.mpr ⟨?_, hnodup⟩, ?_⟩, ?_⟩
        · intro hmem
          obtain ⟨t', ht', hname⟩ := List.mem_map.mp hmem
          exact hfresh t' ht' (hname ▸ List.mem_cons_self)
        · exact List.forall_mem_cons.mpr ⟨hinside, hall⟩
        · exact List.forall_mem_cons.mpr
            ⟨hnew, fun t' ht' hmem => hfresh t' ht' (List.mem_cons_of_mem _ hmem)⟩
      · rintro ⟨⟨hnodup, hall⟩, hfresh⟩
        obtain ⟨hname, hnodup⟩ := List.nodup_cons.mp hnodup
        obtain ⟨hinside, hall⟩ := List.forall_mem_cons.mp hall
        refine ⟨hinside, ⟨hnodup, hall⟩, fun t' ht' hmem => ?_⟩
        rcases List.mem_cons.mp hmem with hsame | hmem
        · exact hname (hsame ▸ List.mem_map_of_mem ht')
        · exact hfresh t' (List.mem_cons_of_mem _ ht') hmem

/-- A name that is found a second time was given twice, unless it was seen before. -/
theorem repeatedIn_eq_some {seen : List String} {ts : List τ} {name : String}
    (hrepeated : g.repeatedIn seen ts = some name) :
    (name ∈ seen ∧ name ∈ ts.map g.name) ∨ 2 ≤ (ts.map g.name).count name ∨
      ∃ t ∈ ts, g.repeated? t = some name := by
  induction ts generalizing seen with
  | nil => cases hrepeated
  | cons t ts ih =>
    unfold repeatedIn at hrepeated
    split at hrepeated
    · rename_i hseen
      cases hrepeated
      exact Or.inl ⟨hseen, List.mem_cons_self⟩
    · cases hinside : g.repeated? t with
      | some inside =>
        rw [hinside] at hrepeated
        cases hrepeated
        exact Or.inr (Or.inr ⟨t, List.mem_cons_self, hinside⟩)
      | none =>
        rw [hinside, Option.none_or] at hrepeated
        rw [List.map_cons, List.count_cons]
        rcases ih hrepeated with ⟨hseen, hmem⟩ | htwice | ⟨t', ht', hinside'⟩
        · rcases List.mem_cons.mp hseen with rfl | hseen
          · have honce := List.count_pos_iff.mpr hmem
            refine Or.inr (Or.inl ?_)
            simp only [BEq.rfl, ↓reduceIte]
            omega
          · exact Or.inl ⟨hseen, List.mem_cons_of_mem _ hmem⟩
        · exact Or.inr (Or.inl (Nat.le_add_right_of_le htwice))
        · exact Or.inr (Or.inr ⟨t', List.mem_cons_of_mem _ ht', hinside'⟩)

/-- Where nothing has names inside, a name that is found a second time was given twice. -/
theorem two_le_count (hplain : ∀ t, g.repeated? t = none) {ts : List τ} {name : String}
    (hrepeated : g.repeatedIn [] ts = some name) : 2 ≤ (ts.map g.name).count name := by
  rcases repeatedIn_eq_some hrepeated with ⟨hseen, -⟩ | htwice | ⟨t, -, hinside⟩
  · cases hseen
  · exact htwice
  · rw [hplain t] at hinside
    cases hinside

theorem count_le_one {ts : List τ} (hnone : g.repeatedIn [] ts = none) (name : String) :
    (ts.map g.name).count name ≤ 1 :=
  List.nodup_iff_count_le_one.mp ((repeatedIn_eq_none_iff [] ts).mp hnone).1.1 name

/-- What is given in another order makes the same of a record. -/
theorem foldl_perm
    (hcommutes : ∀ t t' s, g.name t ≠ g.name t' → g.set (g.set s t) t' = g.set (g.set s t') t)
    {ts order : List τ} (hperm : order.Perm ts) (hnodup : (ts.map g.name).Nodup) (s : σ) :
    order.foldl g.set s = ts.foldl g.set s := by
  refine (hperm.symm.foldl_eq' (fun t ht t' ht' s => ?_) s).symm
  by_cases hsame : t = t'
  · rw [hsame]
  · exact hcommutes t t' s fun hname => hsame (List.inj_on_of_nodup_map hnodup ht ht' hname)

end Givens

/-! ## Readers that may find a name twice -/

/-- What a reader comes to: a value, unless a name is given twice. -/
def Comes {α : Type} (result : Except Trouble α) (repeated : Option String) (a : α) : Prop :=
  match repeated with
  | none => result = .ok a
  | some name => ∃ t, result = .error t ∧ t.cause = .duplicateField name

theorem Comes.map {α β : Type} {result : Except Trouble α} {repeated : Option String} {a : α}
    (comes : Comes result repeated a) (f : α → β) : Comes (result.map f) repeated (f a) := by
  cases repeated with
  | none =>
    have hresult : result = .ok a := comes
    rw [hresult]
    rfl
  | some name =>
    obtain ⟨t, rfl, hcause⟩ := comes
    exact ⟨t, rfl, hcause⟩

theorem Finds.comes {α : Type} {read : List Char → Except Trouble (α × List Char)} {v : List Char}
    {a : α} (finds : Finds read v a) {space rest : List Char} (hspace : IsBlank space)
    (hends : Ends rest) : Comes (read (space ++ (v ++ rest))) none (a, rest) :=
  finds space rest hspace hends

theorem Comes.member {α σ : Type} {read : List Char → Except Trouble (α × List Char)}
    {text rest : List Char} {repeated : Option String} {a : α}
    (comes : Comes (read text) repeated (a, rest)) {name : String} {isRequired : Bool}
    {set : σ → α → σ} {s s' : σ} (hset : set s a = s') :
    Comes ((Member.of name isRequired read set).read s text) repeated (s', rest) := by
  rw [← hset]
  exact comes.map fun found => (set s found.1, found.2)

/-- Null, or the text of a value. -/
def OrNull {α : Type} (IsText : α → List Char → Prop) : Option α → List Char → Prop
  | none, cs => cs = ['n', 'u', 'l', 'l']
  | some a, cs => IsText a cs

/-- The first character of a text is neither space nor `mark`. -/
def Unlike (mark : Char) (cs : List Char) : Prop :=
  ∃ c more, cs = c :: more ∧ isSpace c = false ∧ c ≠ mark

/-- A value that may be null is read as the value if it is there. -/
theorem OrNull.comes {α β : Type} {IsText : α → List Char → Prop}
    {read : List Char → Except Trouble (β × List Char)} {repeated? : α → Option String}
    {value : α → β}
    (hall : ∀ a v rest, IsText a v → Ends rest →
      Unlike 'n' v ∧ Comes (read (v ++ rest)) (repeated? a) (value a, rest))
    {o : Option α} {space v rest : List Char} (text : OrNull IsText o v) (hspace : IsBlank space)
    (hends : Ends rest) :
    Comes (optional read (space ++ (v ++ rest))) (o.bind repeated?) (o.map value, rest) := by
  cases o with
  | none =>
    obtain rfl : v = ['n', 'u', 'l', 'l'] := text
    exact finds_null read space rest hspace hends
  | some a =>
    obtain ⟨⟨c, more, rfl, hsolid, hn⟩, comes⟩ := hall a v rest text hends
    rw [List.cons_append] at comes ⊢
    rw [optional_value read hspace hsolid hn]
    exact comes.map fun found => (some found.1, found.2)

theorem Quotes.unlike {s : String} {cs : List Char} (quotes : Quotes s cs) {mark : Char}
    (hmark : '"' ≠ mark) : Unlike mark cs := by
  obtain ⟨key, -, rfl⟩ := quotes
  exact ⟨'"', _, rfl, rfl, hmark⟩

theorem unlike_toDigits (n : Nat) : Unlike 'n' (Nat.toDigits 10 n) := by
  obtain ⟨d, ds, hlist, hdigit⟩ := toDigits_head n
  obtain ⟨hsolid, -, hn⟩ := isSpace_of_isDigit hdigit
  exact ⟨d, ds, hlist, hsolid, hn⟩

theorem OrNull.finds {α β : Type} {IsText : α → List Char → Prop}
    {read : List Char → Except Trouble (β × List Char)} {value : α → β}
    (hall : ∀ a v, IsText a v → Unlike 'n' v ∧ Finds read v (value a)) {o : Option α}
    {v : List Char} (text : OrNull IsText o v) : Finds (optional read) v (o.map value) := by
  intro space rest hspace hends
  have comes : Comes (optional read (space ++ (v ++ rest))) (o.bind fun _ => none)
      (o.map value, rest) :=
    text.comes (fun a v rest text hends =>
      ⟨(hall a v text).1, (hall a v text).2.comes isBlank_nil hends⟩) hspace hends
  rw [Option.bind_fun_none] at comes
  exact comes

theorem OrNull.finds_quotes {o : Option String} {v : List Char} (text : OrNull Quotes o v)
    (expected : String) : Finds (optional (readText expected)) v o := by
  have finds : Finds (optional (readText expected)) v (o.map id) :=
    text.finds fun _ _ quotes => ⟨quotes.unlike (by decide), quotes.finds expected⟩
  rwa [Option.map_id_fun] at finds

/-- A whole text is what its value comes to, and space may follow it. -/
theorem decode_of_ok {α : Type} {read : List Char → Except Trouble (α × List Char)} {text : String}
    {space : List Char} {a : α} (hread : read text.toList = .ok (a, space))
    (hspace : IsBlank space) : decode read text = .ok a := by
  have hover : skipSpace space = [] := by
    rw [← List.append_nil space, skipSpace_append hspace]
    rfl
  simp only [decode, hread, hover]

theorem decode_of_error {α : Type} {read : List Char → Except Trouble (α × List Char)}
    {text : String} {t : Trouble} (hread : read text.toList = .error t) :
    decode read text = .error (t.locate text.toList) := by
  simp only [decode, hread]

namespace Givens

/-- The readers of a record's members find what the texts give, and each member can be given. -/
structure IsRead (g : Givens σ τ) : Prop where
  known : ∀ t, ∃ m, g.shape.find? (g.name t) = some m ∧
    ∀ s space v rest, g.IsText t v → IsBlank space → Ends rest →
      Comes (m.read s (space ++ (v ++ rest))) (g.repeated? t) (g.set s t, rest)
  covers : ∀ m ∈ g.shape.members, ∃ t, g.name t = m.name

variable {g}

theorem IsRead.find?_eq_none (read : g.IsRead) {name : String} (hother : ∀ t, g.name t ≠ name) :
    g.shape.find? name = none := by
  refine List.find?_eq_none.mpr fun m hm => ?_
  obtain ⟨t, ht⟩ := read.covers m hm
  have hname := hother t
  rw [ht] at hname
  simpa using hname

theorem Opening.nextKey {first : Bool} {opening before : List Char}
    (hopening : Opening first opening) (hbefore : IsBlank before) (rest : List Char) :
    Json.nextKey first (opening ++ (before ++ '"' :: rest)) = .ok (some rest) := by
  cases hopening with
  | first => exact nextKey_first hbefore rest
  | @later gap hgap =>
    have hsame : Json.nextKey false (gap ++ [','] ++ (before ++ '"' :: rest)) =
        Json.nextKey false (',' :: (before ++ '"' :: rest)) := by
      rw [List.append_assoc, Json.nextKey, Json.nextKey, skipSpace_append hgap]
      rfl
    rw [hsame]
    exact nextKey_later hbefore rest

/-- A member is followed by a comma or by the end of the object. -/
theorem Members.ends {ts : List τ} {cs : List Char} (members : g.Members false ts cs)
    (rest : List Char) : Ends (cs ++ rest) := by
  cases members with
  | close hspace =>
    rw [List.append_assoc]
    exact ends_blank hspace (Or.inr (Or.inl rfl)) rest
  | item hopening item members =>
    cases hopening with
    | later hgap =>
      simp only [List.append_assoc]
      exact ends_blank hgap (Or.inl rfl) _

/-- A member with no space in it, its name written as it is. -/
theorem Item.dense (t : τ) (hplain : (g.name t).toList.all isPlain = true) {v : List Char}
    (text : g.IsText t v) : g.Item (some t) ('"' :: ((g.name t).toList ++ '"' :: ':' :: v)) :=
  .given isBlank_nil (spells_self hplain) isBlank_nil isBlank_nil text

theorem Item.length_pos {t : Option τ} {cs : List Char} (item : g.Item t cs) : 0 < cs.length := by
  cases item <;> simp only [List.length_append, List.length_cons] <;> omega

/-- The round of a member that gives something: its name was seen before, or is given twice inside,
or the members behind it decide. -/
theorem comes_given (read : g.IsRead) {t : τ} {ts : List τ} {first : Bool} {seen : List String}
    {s : σ} {cs name after space v rest : List Char} {fuel : Nat} {found : σ × List Char}
    (hkey : Json.nextKey first cs = .ok (some name))
    (hname : readString name = .ok (g.name t, after))
    (hcolon : readColon after = .ok (space ++ (v ++ rest))) (text : g.IsText t v)
    (hspace : IsBlank space) (hends : Ends rest)
    (hrest : g.repeatedIn seen (t :: ts) = g.repeatedIn (g.name t :: seen) ts →
      Comes (readMembers g.shape fuel false (g.name t :: seen) (g.set s t) rest)
        (g.repeatedIn (g.name t :: seen) ts) found) :
    Comes (readMembers g.shape (fuel + 1) first seen s cs) (g.repeatedIn seen (t :: ts)) found := by
  obtain ⟨m, hfind, hvalue⟩ := read.known t
  have hcomes := hvalue s space v rest text hspace hends
  rw [repeatedIn] at hrest ⊢
  by_cases hseen : g.name t ∈ seen
  · rw [if_pos hseen, readMembers_repeated hkey hname hfind hseen]
    exact ⟨_, rfl, rfl⟩
  · rw [if_neg hseen] at hrest ⊢
    cases hinside : g.repeated? t with
    | some twice =>
      rw [hinside] at hcomes
      obtain ⟨trouble, hread, hcause⟩ := hcomes
      rw [readMembers_fails hkey hname hcolon hfind hseen hread]
      exact ⟨trouble, rfl, hcause⟩
    | none =>
      rw [hinside] at hcomes hrest
      have hread : m.read s (space ++ (v ++ rest)) = .ok (g.set s t, rest) := hcomes
      rw [readMembers_member hkey hname hcolon hfind hseen hread]
      exact hrest rfl

/-- One round for each member. -/
theorem Members.comes (read : g.IsRead) {first : Bool} {ts : List τ} {cs : List Char}
    (members : g.Members first ts cs) {seen : List String}
    (hrequired : g.repeatedIn seen ts = none →
      missing? g.shape.members ((ts.map g.name).reverse ++ seen) = none)
    (s : σ) (rest : List Char) {fuel : Nat} (hfuel : cs.length ≤ fuel) :
    Comes (readMembers g.shape fuel first seen s (cs ++ rest)) (g.repeatedIn seen ts)
      (ts.foldl g.set s, rest) := by
  induction members generalizing seen s fuel with
  | @close first space hspace =>
    obtain ⟨fuel, rfl⟩ : ∃ n, fuel = n + 1 := by
      refine ⟨fuel - 1, ?_⟩
      simp only [List.length_append, List.length_singleton] at hfuel
      omega
    rw [List.append_assoc]
    exact readMembers_end (hrequired rfl) hspace first rest fuel
  | @item first opening cs tail t ts hopening item members ih =>
    -- a round reads at least one character, so that what is left has rounds enough
    have hpos := item.length_pos
    simp only [List.length_append] at hfuel
    obtain ⟨fuel, rfl⟩ : ∃ n, fuel = n + 1 := ⟨fuel - 1, by omega⟩
    have hbehind : tail.length ≤ fuel := by omega
    have hends := members.ends rest
    cases item with
    | other hbefore spells hafter hspace hother value =>
      simp only [List.append_assoc, List.cons_append]
      rw [readMembers_other (hopening.nextKey hbefore _) (readString_of_spells spells _)
        (readColon_before hafter _) (read.find?_eq_none hother)
        (skip_of_grammatical hspace value hends)]
      exact ih hrequired s hbehind
    | given hbefore spells hafter hspace text =>
      simp only [List.append_assoc, List.cons_append]
      refine comes_given read (hopening.nextKey hbefore _) (readString_of_spells spells _)
        (readColon_before hafter _) text hspace hends fun hsame => ?_
      refine ih (fun hnone => ?_) (g.set s _) hbehind
      have hnames := hrequired (hsame.trans hnone)
      simp only [Option.toList_some, List.singleton_append, List.map_cons, List.reverse_cons,
        List.append_assoc] at hnames
      exact hnames

/-- A record is what is given of it, or a name is given twice. -/
theorem Object.comes (read : g.IsRead) {ts : List τ} {cs : List Char} (object : g.Object ts cs)
    (hrequired : g.repeatedIn [] ts = none →
      missing? g.shape.members (ts.map g.name).reverse = none)
    {space : List Char} (hspace : IsBlank space) (rest : List Char) :
    Comes (readRecord g.shape (space ++ (cs ++ rest))) (g.repeatedIn [] ts)
      (ts.foldl g.set g.shape.blank, rest) := by
  cases object with
  | @of cs members =>
    rw [List.cons_append, readRecord_object hspace]
    refine members.comes read ?_ _ rest ?_
    · rw [List.append_nil]
      exact hrequired
    · rw [List.length_append]
      omega

/-! ## Lists -/

/-- Each member has a name of its own, and the first character of a text tells it from the end of a
list. -/
structure IsListable (g : Givens σ τ) : Prop where
  nodup : (g.shape.members.map Member.name).Nodup
  unlike : ∀ t v, g.IsText t v → Unlike ']' v
  plain : ∀ t, g.repeated? t = none

theorem Opening.nextElement {first : Bool} {opening space : List Char}
    (hopening : Opening first opening) (hspace : IsBlank space) {c : Char}
    (hsolid : isSpace c = false) (hbracket : c ≠ ']') (rest : List Char) :
    Json.nextElement first (opening ++ (space ++ c :: rest)) = .ok (some (c :: rest)) := by
  have hstart : skipSpace (space ++ c :: rest) = c :: rest := skipSpace_before hspace hsolid rest
  cases hopening with
  | first => simp [Json.nextElement, hstart, hbracket]
  | @later gap hgap =>
    have hcomma : skipSpace (gap ++ ',' :: (space ++ c :: rest)) = ',' :: (space ++ c :: rest) :=
      skipSpace_before hgap rfl _
    simp [Json.nextElement, hcomma, hstart, hbracket]

theorem nextElement_end {space : List Char} (hspace : IsBlank space) (first : Bool)
    (rest : List Char) : Json.nextElement first (space ++ ']' :: rest) = .ok none := by
  rw [Json.nextElement, skipSpace_before hspace rfl]
  rfl

/-- Members that may be absent are left as they are at the end of a list. -/
theorem readElements_end {shape : Shape σ} {members : List (Member σ)}
    (hoptional : ∀ m ∈ members, m.required = false) {space : List Char} (hspace : IsBlank space)
    (index : Nat) (s : σ) (rest : List Char) :
    readElements shape members index s (space ++ ']' :: rest) =
      .ok (s, space ++ ']' :: rest) := by
  induction members with
  | nil => rfl
  | cons m members ih =>
    obtain ⟨hm, hoptional⟩ := List.forall_mem_cons.mp hoptional
    rw [readElements, nextElement_end hspace]
    simp only [bind, Except.bind, hm]
    exact ih hoptional

theorem find?_of_mem {shape : Shape σ} (hnodup : (shape.members.map Member.name).Nodup)
    {m : Member σ} (hm : m ∈ shape.members) : shape.find? m.name = some m := by
  unfold Shape.find?
  generalize shape.members = members at hnodup hm
  induction members with
  | nil => cases hm
  | cons m' members ih =>
    obtain ⟨hfresh, hnodup⟩ := List.nodup_cons.mp hnodup
    rcases List.mem_cons.mp hm with rfl | hm
    · simp
    · have hother : m'.name ≠ m.name := fun hsame => hfresh (hsame ▸ List.mem_map_of_mem hm)
      rw [List.find?_cons_of_neg (by simpa using hother)]
      exact ih hnodup hm

/-- An element is followed by a comma or by the end of the list. -/
theorem Elements.ends {members : List (Member σ)} {ts : List τ} {cs : List Char}
    (elements : g.Elements members false ts cs) (rest : List Char) : Ends (cs ++ rest) := by
  cases elements with
  | close hspace hoptional =>
    rw [List.append_assoc]
    exact ends_blank hspace (Or.inr (Or.inr rfl)) rest
  | item hname hopening hspace text elements =>
    cases hopening with
    | later hgap =>
      simp only [List.append_assoc]
      exact ends_blank hgap (Or.inl rfl) _

/-- One round for each element. -/
theorem Elements.reads (read : g.IsRead) (listable : g.IsListable) {members : List (Member σ)}
    {first : Bool} {ts : List τ} {cs : List Char} (elements : g.Elements members first ts cs)
    (hmembers : ∀ m ∈ members, m ∈ g.shape.members) (index : Nat) (hfirst : (index == 0) = first)
    (s : σ) (rest : List Char) :
    ∃ last, readElements g.shape members index s (cs ++ rest) = .ok (ts.foldl g.set s, last) ∧
      readListEnd last = .ok rest := by
  induction elements generalizing index s with
  | @close members first space hspace hoptional =>
    refine ⟨space ++ ']' :: rest, ?_, ?_⟩
    · rw [List.append_assoc]
      exact readElements_end hoptional hspace index s rest
    · rw [readListEnd, skipSpace_before hspace rfl]
      rfl
  | @item m members first opening space v tail t ts hname hopening hspace text elements ih =>
    obtain ⟨hm, hmembers⟩ := List.forall_mem_cons.mp hmembers
    obtain ⟨c, more, rfl, hsolid, hbracket⟩ := listable.unlike t v text
    obtain ⟨m', hfind, hvalue⟩ := read.known t
    -- no other member has the name of the one at this place
    obtain rfl : m = m' := by
      rw [← hname, find?_of_mem listable.nodup hm] at hfind
      exact Option.some.inj hfind
    have hstart := hopening.nextElement hspace hsolid hbracket (more ++ (tail ++ rest))
    have hread : m.read s (c :: (more ++ (tail ++ rest))) = .ok (g.set s t, tail ++ rest) := by
      have hcomes := hvalue s [] (c :: more) (tail ++ rest) text isBlank_nil (elements.ends rest)
      rw [listable.plain t] at hcomes
      exact hcomes
    obtain ⟨last, hreads, hlast⟩ := ih hmembers (index + 1) rfl (g.set s t)
    refine ⟨last, ?_, hlast⟩
    simp only [List.append_assoc, List.cons_append]
    rw [readElements, hfirst, hstart]
    simp only [bind, Except.bind, hread]
    exact hreads

/-- What a list gives are members in their order. -/
theorem Elements.isPrefix {members : List (Member σ)} {first : Bool} {ts : List τ} {cs : List Char}
    (elements : g.Elements members first ts cs) : ts.map g.name <+: members.map Member.name := by
  induction elements with
  | close => exact List.nil_prefix
  | item hname _ _ _ _ ih =>
    rw [List.map_cons, List.map_cons, hname]
    exact List.cons_prefix_cons.mpr ⟨rfl, ih⟩

/-- A list gives no name twice. -/
theorem Elements.repeatedIn_eq_none (listable : g.IsListable) {first : Bool} {ts : List τ}
    {cs : List Char} (elements : g.Elements g.shape.members first ts cs) :
    g.repeatedIn [] ts = none := by
  have hnodup := listable.nodup.sublist elements.isPrefix.sublist
  exact (repeatedIn_eq_none_iff [] ts).mpr
    ⟨⟨hnodup, fun t _ => listable.plain t⟩, fun _ _ => List.not_mem_nil⟩

/-- A record is what is given of it, or a name is given twice. -/
theorem Record.comes (read : g.IsRead) (listable : g.IsListable) {ts : List τ} {cs : List Char}
    (record : g.Record ts cs)
    (hrequired : g.repeatedIn [] ts = none →
      missing? g.shape.members (ts.map g.name).reverse = none)
    {space : List Char} (hspace : IsBlank space) (rest : List Char) :
    Comes (readRecord g.shape (space ++ (cs ++ rest))) (g.repeatedIn [] ts)
      (ts.foldl g.set g.shape.blank, rest) := by
  cases record with
  | object object => exact object.comes read hrequired hspace rest
  | @list cs elements =>
    obtain ⟨last, hreads, hlast⟩ :=
      elements.reads read listable (fun _ hm => hm) 0 rfl g.shape.blank rest
    rw [elements.repeatedIn_eq_none listable, List.cons_append]
    show readRecord g.shape (space ++ '[' :: (cs ++ rest)) = _
    rw [readRecord, skipSpace_before hspace rfl]
    show (readElements g.shape g.shape.members 0 g.shape.blank (cs ++ rest)).bind _ = _
    rw [hreads]
    simp only [Except.bind, bind, hlast]
    rfl

theorem Record.unlike {ts : List τ} {cs : List Char} (record : g.Record ts cs) {mark : Char}
    (hobject : mark ≠ '{') (hlist : mark ≠ '[') : Unlike mark cs := by
  cases record with
  | object object =>
    cases object with
    | of members => exact ⟨'{', _, rfl, rfl, hobject.symm⟩
  | list elements => exact ⟨'[', _, rfl, rfl, hlist.symm⟩

end Givens

end ConsoleLink.Json
