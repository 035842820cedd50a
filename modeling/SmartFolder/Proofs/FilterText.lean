import SmartFolder.Field
import SmartFolder.Proofs.Induction
import SmartFolder.Proofs.QuotedText

/-!
# What the text of a filter says

The text of a filter over known fields ends at one place only, whatever follows it: the field, the
operator and the condition end at a sign that no name contains, a value ends at its closing quote,
and the members of a group at their separators (`Filter.endsItself`). So a group is determined by
its text (`Group.text_eq_text_iff`).
-/

namespace SmartFolder

/-! ### Names -/

/-- The signs that stand around names. -/
def isSign (c : Char) : Bool := c = ' ' || c = '(' || c = ')'

def IsName (s : String) : Prop := ∀ c ∈ s.toList, isSign c = false

instance (s : String) : Decidable (IsName s) := List.decidableBAll _ _

theorem Operator.isName_name (op : Operator) : IsName op.name := by
  cases op <;> decide

theorem Condition.isName_name (k : Condition) : IsName k.name := by
  cases k <;> decide

theorem isName_of_isKnownField {field : String} (known : isKnownField field = true) :
    IsName field := by
  have names : ∀ entry ∈ knownFields, IsName entry.1 := by decide
  obtain ⟨kind, found⟩ := Option.isSome_iff_exists.mp known
  obtain ⟨before, after, listed, -⟩ := List.lookup_eq_some_iff.mp found
  refine names (field, kind) ?_
  rw [listed]
  exact List.mem_append_right before List.mem_cons_self

/-- A name ends at the first sign. -/
theorem name_append_inj {s t : String} {a b : Char} {rest rest' : List Char} (name : IsName s)
    (name' : IsName t) (sign : isSign a = true) (sign' : isSign b = true)
    (same : s.toList ++ a :: rest = t.toList ++ b :: rest') : s = t ∧ a = b ∧ rest = rest' := by
  have ends {w : String} {c : Char} {after : List Char} (name : IsName w)
      (sign : isSign c = true) : (w.toList ++ c :: after).takeWhile (!isSign ·) = w.toList := by
    rw [List.takeWhile_append_of_pos (fun c letter => by simp [name c letter]),
      List.takeWhile_cons_of_neg (by simp [sign]), List.append_nil]
  have names : s.toList = t.toList := by
    rw [← ends name sign, same, ends name' sign']
  obtain rfl := String.toList_inj.mp names
  obtain ⟨rfl, rfl⟩ := List.cons_eq_cons.mp (List.append_cancel_left same)
  exact ⟨rfl, rfl, rfl⟩

/-! ### Clauses -/

namespace Clause

theorem toList_text (c : Clause) (rest : List Char) :
    c.text.toList ++ rest =
      c.field.toList ++ ' ' ::
        (c.operator.name.toList ++ ' ' :: (Text.quoteChars c.value.toList ++ rest)) := by
  simp [text, Text.quote]

theorem text_append_inj {c d : Clause} {rest rest' : List Char}
    (known : isKnownField c.field = true) (known' : isKnownField d.field = true)
    (same : c.text.toList ++ rest = d.text.toList ++ rest') : c = d ∧ rest = rest' := by
  rw [toList_text, toList_text] at same
  obtain ⟨field, -, afterField⟩ := name_append_inj (isName_of_isKnownField known)
    (isName_of_isKnownField known') rfl rfl same
  obtain ⟨name, -, afterOperator⟩ :=
    name_append_inj c.operator.isName_name d.operator.isName_name rfl rfl afterField
  obtain ⟨value, after⟩ := Text.quoteChars_append_inj afterOperator
  have operator : c.operator = d.operator := Vocabulary.name_inj _ _ name
  cases c
  cases d
  simp_all [String.toList_inj]

end Clause

/-! ### Filters -/

namespace Filter

/-- Every clause is about a field that articles have. -/
def OverKnownFields (f : Filter) : Prop := ∀ c ∈ f.clauses, isKnownField c.field = true

instance (f : Filter) : Decidable f.OverKnownFields :=
  inferInstanceAs (Decidable (∀ c ∈ f.clauses, _))

theorem overKnownFields_group_iff {k : Condition} {members : List Filter} :
    (group k members).OverKnownFields ↔ ∀ f ∈ members, f.OverKnownFields := by
  simp only [OverKnownFields, clauses, clausesOf_eq_flatMap, List.mem_flatMap]
  constructor
  · intro all f member c found
    exact all c ⟨f, member, found⟩
  · rintro all c ⟨f, member, found⟩
    exact all f member c found

def others (fs : List Filter) : List Char := fs.flatMap fun f => ',' :: ' ' :: f.text.toList

/-- The members of a group and the closing parenthesis. -/
def inside : List Filter → List Char
  | [] => [')']
  | f :: fs => f.text.toList ++ (others fs ++ [')'])

theorem others_cons (f : Filter) (fs : List Filter) :
    others (f :: fs) = ',' :: ' ' :: (f.text.toList ++ others fs) := by
  rw [others, List.flatMap_cons, List.cons_append, List.cons_append, others]

theorem toList_intercalate_texts (f : Filter) (fs : List Filter) :
    (", ".intercalate ((f :: fs).map text)).toList = f.text.toList ++ others fs := by
  induction fs generalizing f with
  | nil => simp [others]
  | cons g fs ih =>
    have rest := ih g
    rw [List.map_cons] at rest
    rw [List.map_cons, List.map_cons, String.intercalate_cons_cons, String.toList_append,
      String.toList_append, rest, others_cons]
    simp

theorem toList_text_group (k : Condition) (members : List Filter) (rest : List Char) :
    (group k members).text.toList ++ rest = k.name.toList ++ '(' :: (inside members ++ rest) := by
  rw [text, texts_eq_map]
  cases members with
  | nil => simp [inside]
  | cons f fs =>
    rw [String.toList_append, String.toList_append, String.toList_append, toList_intercalate_texts]
    simp [inside]

/-- The first sign of a text tells a clause from a group. -/
theorem clause_ne_group {c : Clause} (known : isKnownField c.field = true) (k : Condition)
    (members : List Filter) (rest rest' : List Char) :
    (clause c).text.toList ++ rest ≠ (group k members).text.toList ++ rest' := by
  intro same
  rw [text, Clause.toList_text, toList_text_group] at same
  obtain ⟨-, signs, -⟩ := name_append_inj (isName_of_isKnownField known) k.isName_name rfl rfl same
  cases signs

/-- No member begins where the members end. -/
theorem close_ne_text {f : Filter} (known : f.OverKnownFields) (rest rest' : List Char) :
    ')' :: rest ≠ f.text.toList ++ rest' := by
  have empty : IsName "" := by decide
  intro same
  cases f with
  | clause c =>
    have field := isName_of_isKnownField (known c (List.mem_singleton_self c))
    rw [text, Clause.toList_text] at same
    obtain ⟨-, signs, -⟩ := name_append_inj empty field rfl rfl same
    cases signs
  | group k members =>
    rw [toList_text_group] at same
    obtain ⟨-, signs, -⟩ := name_append_inj empty k.isName_name rfl rfl same
    cases signs

/-- Whatever follows the text, it is the text of no other filter and ends at one place. -/
def EndsItself (f : Filter) : Prop :=
  ∀ (g : Filter) (rest rest' : List Char), g.OverKnownFields →
    f.text.toList ++ rest = g.text.toList ++ rest' → f = g ∧ rest = rest'

theorem others_append_inj {fs gs : List Filter} {rest rest' : List Char}
    (each : ∀ f ∈ fs, f.EndsItself) (known : ∀ g ∈ gs, g.OverKnownFields)
    (same : others fs ++ ')' :: rest = others gs ++ ')' :: rest') : fs = gs ∧ rest = rest' := by
  induction fs generalizing gs with
  | nil =>
    cases gs with
    | nil => exact ⟨rfl, List.tail_eq_of_cons_eq same⟩
    | cons g gs => cases same
  | cons f fs ih =>
    cases gs with
    | nil => cases same
    | cons g gs =>
      simp only [others_cons, List.cons_append, List.append_assoc, List.cons.injEq,
        true_and] at same
      obtain ⟨rfl, after⟩ := each f List.mem_cons_self g _ _ (known g List.mem_cons_self) same
      obtain ⟨rfl, rfl⟩ := ih (fun f member => each f (List.mem_cons_of_mem _ member))
        (fun g member => known g (List.mem_cons_of_mem _ member)) after
      exact ⟨rfl, rfl⟩

theorem inside_append_inj {fs gs : List Filter} {rest rest' : List Char}
    (each : ∀ f ∈ fs, f.EndsItself) (known : ∀ f ∈ fs, f.OverKnownFields)
    (known' : ∀ g ∈ gs, g.OverKnownFields)
    (same : inside fs ++ rest = inside gs ++ rest') : fs = gs ∧ rest = rest' := by
  cases fs with
  | nil =>
    cases gs with
    | nil => exact ⟨rfl, List.tail_eq_of_cons_eq same⟩
    | cons g gs =>
      rw [inside, inside, List.append_assoc] at same
      exact absurd same (close_ne_text (known' g List.mem_cons_self) _ _)
  | cons f fs =>
    cases gs with
    | nil =>
      rw [inside, inside, List.append_assoc] at same
      exact absurd same.symm (close_ne_text (known f List.mem_cons_self) _ _)
    | cons g gs =>
      simp only [inside, List.append_assoc, List.singleton_append] at same
      obtain ⟨rfl, after⟩ := each f List.mem_cons_self g _ _ (known' g List.mem_cons_self) same
      obtain ⟨rfl, rfl⟩ := others_append_inj (fun f member => each f (List.mem_cons_of_mem _ member))
        (fun g member => known' g (List.mem_cons_of_mem _ member)) after
      exact ⟨rfl, rfl⟩

theorem endsItself {f : Filter} (known : f.OverKnownFields) : f.EndsItself := by
  induction f with
  | clause c =>
    intro g rest rest' known' same
    have field := known c (List.mem_singleton_self c)
    cases g with
    | clause d =>
      have field' := known' d (List.mem_singleton_self d)
      obtain ⟨rfl, after⟩ := Clause.text_append_inj field field' same
      exact ⟨rfl, after⟩
    | group k members => exact absurd same (clause_ne_group field k members rest rest')
  | group k members ih =>
    intro g rest rest' known' same
    cases g with
    | clause d =>
      have field := known' d (List.mem_singleton_self d)
      exact absurd same.symm (clause_ne_group field k members rest' rest)
    | group k' members' =>
      -- The induction is on the one group; of the other it needs only the known fields.
      rw [overKnownFields_group_iff] at known known'
      rw [toList_text_group, toList_text_group] at same
      obtain ⟨name, -, after⟩ := name_append_inj k.isName_name k'.isName_name rfl rfl same
      obtain rfl : k = k' := Vocabulary.name_inj _ _ name
      obtain ⟨rfl, rfl⟩ :=
        inside_append_inj (fun f member => ih f member (known f member)) known known' after
      exact ⟨rfl, rfl⟩

end Filter

/-! ### Groups -/

namespace Group

/-- Every clause of the group, however deep, is about a field that articles have. -/
def OverKnownFields (g : Group) : Prop := g.filter.OverKnownFields

instance (g : Group) : Decidable g.OverKnownFields :=
  inferInstanceAs (Decidable g.filter.OverKnownFields)

theorem filter_inj {g h : Group} (same : g.filter = h.filter) : g = h := by
  cases g
  cases h
  obtain ⟨rfl, rfl⟩ := Filter.group.inj same
  rfl

/-- A group over known fields is determined by its text, whatever the values in it contain. -/
theorem text_eq_text_iff {g h : Group} (known : g.OverKnownFields) (known' : h.OverKnownFields) :
    g.text = h.text ↔ g = h := by
  refine ⟨fun same => filter_inj ?_, fun same => same ▸ rfl⟩
  have chars : g.filter.text.toList ++ [] = h.filter.text.toList ++ [] :=
    congrArg (·.toList ++ []) same
  exact (Filter.endsItself known h.filter [] [] known' chars).1

/-- One value reads like the end of a value and a clause after it, with quotes of both kinds, a
backslash, a line break and a character that is not printable. -/
theorem text_eq_text_iff_readsLikeTwo :
    let one : Group := ⟨.all, [.clause ⟨"Text", .contains, "a', Text contains 'b\x22\\\n\u200b"⟩,
      .group .none []]⟩
    let two : Group := ⟨.all, [.clause ⟨"Text", .contains, "a"⟩,
      .clause ⟨"Text", .contains, "b\x22\\\n\u200b"⟩, .group .none []]⟩
    one.OverKnownFields ∧ two.OverKnownFields ∧ one ≠ two ∧ one.text ≠ two.text := by
  intro one two
  have known : one.OverKnownFields := by decide
  have known' : two.OverKnownFields := by decide
  have different : one ≠ two := by decide
  exact ⟨known, known', different, fun same => different ((text_eq_text_iff known known').mp same)⟩

end Group

end SmartFolder
