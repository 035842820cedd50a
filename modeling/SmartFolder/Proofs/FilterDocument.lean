import SmartFolder.Document.Filter
import SmartFolder.Proofs.Induction
import SmartFolder.Proofs.JsonText

/-!
# Filters as documents

The document of a clause, a group or a filter passes its own check and stands for what was
written, whatever the texts in it are and however deep it is. Its JSON text is another matter: the
writer follows fewer levels than a filter can have, and what the checks read is less again. A text
is read back up to 99 groups with members in each other, written up to 127, or up to 126 for a
filter of either kind.
-/

namespace SmartFolder

/-! ### Checks -/

namespace Members

theorem clause_toJson (c : Clause) :
    clause [("kind", .text "criteria"), ("field", .text c.field),
      ("operator_type", .text c.operator.name), ("value", .text c.value)] = .ok c := by
  have operator : Json.checkNamed (.text c.operator.name) = .ok c.operator :=
    Json.checkNamed_name c.operator
  simp [clause, optional, required, List.lookup_cons, Json.checkLiteral_self, Json.checkText,
    operator, Checked.make, Checked.apply, Checked.below]

theorem group_toJson (condition : Condition) (members : List Filter) (v : Json) :
    group (.ok members) [("kind", .text "tree"), ("condition", .text condition.name),
      ("criteria_tree", v)] = .ok ⟨condition, members⟩ := by
  have named : Json.checkNamed (.text condition.name) = .ok condition :=
    Json.checkNamed_name condition
  simp [group, optional, List.lookup_cons, Json.checkLiteral_self, named, Checked.make,
    Checked.apply, Checked.below]

end Members

theorem Clause.check_toJson (origin : Origin) (c : Clause) : check origin c.toJson = .ok c := by
  rw [toJson, check, Json.checkModel, Members.clause_toJson]

namespace Filter

theorem checkItems_map_toJson {origin : Origin} {fs : List Filter}
    (each : ∀ f ∈ fs, check origin f.toJson = .ok f) (i : Nat) :
    checkItems origin i (fs.map toJson) = .ok fs := by
  induction fs generalizing i with
  | nil => rw [List.map_nil, checkItems]
  | cons f fs ih =>
    have others := ih (fun g member => each g (List.mem_cons_of_mem f member)) (i + 1)
    rw [List.map_cons, checkItems, each f List.mem_cons_self, others]
    rfl

theorem checkMembers_group {origin : Origin} {fs : List Filter}
    (each : ∀ f ∈ fs, check origin f.toJson = .ok f) (condition : Condition) :
    checkMembers origin [("kind", .text "tree"), ("condition", .text condition.name),
      ("criteria_tree", .array (toJsons fs))] = .ok fs := by
  have items := checkItems_map_toJson each 0
  simp [checkMembers, checkList, toJsons_eq_map, items, Checked.below]

theorem check_toJson (origin : Origin) (f : Filter) : check origin f.toJson = .ok f := by
  induction f with
  | clause c =>
    rw [toJson, Clause.toJson, check]
    simp [ofTag, Members.clause_toJson, Checked.map, Checked.below]
  | group condition members each =>
    have checked := checkMembers_group each condition
    rw [toJson, check]
    simp [ofTag, checked, Members.group_toJson, Checked.map, Checked.below, Group.filter]

end Filter

theorem Group.check_toJson (origin : Origin) (g : Group) : check origin g.toJson = .ok g := by
  have each : ∀ f ∈ g.members, Filter.check origin f.toJson = .ok f :=
    fun f _ => Filter.check_toJson origin f
  have checked := Filter.checkMembers_group each g.condition
  rw [toJson, filter, Filter.toJson, check, Json.checkModel, checked, Members.group_toJson]

/-! ### Texts -/

theorem Clause.textual_toJson (c : Clause) : c.toJson.Textual := by
  refine .object (show ["kind", "field", "operator_type", "value"].Nodup by decide) ?_
  simp [Json.Textual.text]

theorem Filter.textual_toJson (f : Filter) : f.toJson.Textual := by
  induction f with
  | clause c => exact c.textual_toJson
  | group condition members each =>
    have parts : (Json.array (toJsons members)).Textual := by
      rw [toJsons_eq_map]
      exact .array (List.forall_mem_map.mpr each)
    refine .object (show ["kind", "condition", "criteria_tree"].Nodup by decide) ?_
    simp [Json.Textual.text, parts]

/-- A text is checked as the value it writes, unless the value is nested too deep. -/
theorem Checked.ofText_print {α : Type} (check : Origin → Json → Checked α) {v : Json}
    (textual : v.Textual) :
    ofText check v.print =
      if v.nesting ≤ Json.Limits.document.depth then check .text v else .fault .notJson := by
  rw [ofText, textual.readWithin_print]
  by_cases fits : v.nesting ≤ Json.Limits.document.depth
  · rw [if_pos fits, if_pos fits]
  · rw [if_neg fits, if_neg fits]

/-! ### Depth -/

namespace Filter

mutual

/-- How many groups with members lie in each other. -/
def depth : Filter → Nat
  | .clause _ => 0
  | .group _ members => Json.level (depths members)

def depths : List Filter → List Nat
  | [] => []
  | f :: fs => depth f :: depths fs

end

theorem depths_eq_map (fs : List Filter) : depths fs = fs.map depth := by
  induction fs with
  | nil => rfl
  | cons f fs ih => simp [depths, ih]

/-- Each group with members is an object around an array, and in the innermost lies one object
more. -/
theorem nesting_toJson (f : Filter) : f.toJson.nesting = 2 * f.depth + 1 := by
  induction f with
  | clause c => rfl
  | group condition members each =>
    have inside : Json.nestings (toJsons members) = (depths members).map (2 * · + 1) := by
      rw [Json.nestings_eq_map, toJsons_eq_map, depths_eq_map, List.map_map, List.map_map]
      exact List.map_congr_left each
    rw [depth, ← Json.level_map_double, ← inside]
    simp [toJson, Json.nesting, Json.memberNestings, Json.level]

theorem heightItems_toJsons {fs : List Filter}
    (each : ∀ f ∈ fs, f.toJson.height = 2 * f.depth + 2) :
    Json.heightItems (toJsons fs) = 2 * Json.level (depths fs) := by
  induction fs with
  | nil => rfl
  | cons f fs ih =>
    have first := each f List.mem_cons_self
    have others := ih fun g member => each g (List.mem_cons_of_mem f member)
    rw [toJsons, Json.heightItems, depths, Json.level, first, others]
    omega

/-- Each group with members is an object around an array, and in the innermost lies an object with
a text in it. -/
theorem height_toJson (f : Filter) : f.toJson.height = 2 * f.depth + 2 := by
  induction f with
  | clause c => rfl
  | group condition members each =>
    have inside := heightItems_toJsons each
    simp only [toJson, Json.height, Json.heightMembers, depth, inside]
    omega

end Filter

/-! ### Round trips -/

/-- What comes back of what is written: all of it from its document, and from its text if there is
one and that is not too deep to read. Different things have different texts. -/
structure Persists {α : Type} (check : Origin → Json → Checked α) (toJson : α → Json)
    (write : α → Option String) (depth : α → Nat) (most : Nat) : Prop where
  value : ∀ origin a, check origin (toJson a) = .ok a
  written : ∀ a, (write a).isSome ↔ depth a ≤ most
  text : ∀ a s, write a = some s →
    Checked.ofText check s = if depth a ≤ 99 then .ok a else .fault .notJson
  injective : ∀ a b s, write a = some s → write b = some s → a = b

theorem Persists.of_value {α : Type} {check : Origin → Json → Checked α} {toJson : α → Json}
    {write : α → Option String} {depth : α → Nat} {levels most : Nat}
    (value : ∀ origin a, check origin (toJson a) = .ok a) (textual : ∀ a, (toJson a).Textual)
    (nesting : ∀ a, (toJson a).nesting = 2 * depth a + 1)
    (height : ∀ a, (toJson a).height = 2 * depth a + 2)
    (writes : ∀ a, write a = (toJson a).printWithin levels) (room : levels / 2 = most + 1) :
    Persists check toJson write depth most where
  value := value
  written a := by
    rw [writes, Json.isSome_printWithin_iff, height]
    omega
  text a s written := by
    rw [writes] at written
    have limit : Json.Limits.document.depth = 200 := rfl
    have fits : (toJson a).nesting ≤ Json.Limits.document.depth ↔ depth a ≤ 99 := by
      rw [nesting, limit]
      omega
    rw [← Json.print_of_printWithin written, Checked.ofText_print check (textual a), value]
    simp only [fits]
  injective a b s written written' := by
    rw [writes] at written written'
    have same := (Json.print_of_printWithin written).trans (Json.print_of_printWithin written').symm
    have document := (textual a).eq_of_print_eq (textual b) same
    have checked := value .text a
    rw [document, value .text b] at checked
    exact (Except.ok.inj checked).symm

theorem Clause.persists : Persists check toJson write (fun _ => 0) 127 :=
  .of_value check_toJson textual_toJson (fun _ => rfl) (fun _ => rfl) (fun _ => rfl)
    (show (Json.writtenLevels + 1) / 2 = 127 + 1 from rfl)

theorem Filter.persists : Persists check toJson write depth 126 :=
  .of_value check_toJson textual_toJson nesting_toJson height_toJson (fun _ => rfl)
    (show Json.writtenLevels / 2 = 126 + 1 from rfl)

theorem Group.persists : Persists check toJson write (fun g => g.filter.depth) 127 :=
  .of_value check_toJson (fun g => g.filter.textual_toJson) (fun g => g.filter.nesting_toJson)
    (fun g => g.filter.height_toJson) (fun _ => rfl)
    (show (Json.writtenLevels + 1) / 2 = 127 + 1 from rfl)

/-- Groups, clauses and filters persist, each as long as it has a text that is read. -/
theorem persists_documents :
    Persists Group.check Group.toJson Group.write (fun g => g.filter.depth) 127 ∧
      Persists Clause.check Clause.toJson Clause.write (fun _ => 0) 127 ∧
      Persists Filter.check Filter.toJson Filter.write Filter.depth 126 :=
  ⟨Group.persists, Clause.persists, Filter.persists⟩

/-- Groups in each other around an empty one. -/
def Group.nested : Nat → Group
  | 0 => {}
  | n + 1 => (nested n).nest .all

theorem Group.depth_nested (n : Nat) : (nested n).filter.depth = n := by
  induction n with
  | zero => rfl
  | succ n ih =>
    have inner : (nested (n + 1)).filter.depth = Json.level [(nested n).filter.depth] := rfl
    rw [inner, ih, Json.level, Json.level, Nat.max_zero]

/-- A hundred groups around an empty one have a text that nothing reads. -/
theorem Group.ofText_nested :
    (nested 100).write.map (Checked.ofText Group.check) = some (.fault .notJson) := by
  have deep := depth_nested 100
  obtain ⟨s, written⟩ := Option.isSome_iff_exists.mp <|
    (persists.written (nested 100)).mpr (by rw [deep]; decide)
  rw [written, Option.map_some, persists.text _ s written, deep]
  rfl

end SmartFolder
