import Mathlib.Data.List.Basic
import SmartFolder.Predicate.Export
import SmartFolder.Proofs.Recognition

/-!
# What a query object says of its predicate

A query object keeps everything of a predicate but the kinds of its operands and its relative dates:
two predicates have the same query object exactly if they are the same with these left out
(`query_eq_query_iff`). Recognition looks at neither, so it reads both alike.
-/

namespace SmartFolder

namespace Comparison

/-- The comparison of constants that hold the same, without a date. -/
def plain (c : Comparison) : Comparison :=
  ⟨.constant c.left.held, c.relation, .constant c.right.held, none⟩

theorem plain_eq_ofConstants (c : Comparison) :
    c.plain = .ofConstants c.left.text c.relation c.right.text := by
  rw [Operand.text_eq_held, Operand.text_eq_held]
  rfl

theorem query_plain (c : Comparison) : c.plain.query = c.query := by
  rw [plain_eq_ofConstants]
  rfl

theorem clause_plain (c : Comparison) (negated : Bool) :
    c.plain.clause negated = c.clause negated := by
  rw [plain_eq_ofConstants]
  rfl

theorem notices_plain (c : Comparison) : c.plain.notices = c.notices := by
  rw [plain_eq_ofConstants]
  rfl

end Comparison

namespace Predicate

mutual

/-- The predicate without the kinds of its operands and its relative dates. -/
def plain : Predicate → Predicate
  | .comparison c => .comparison c.plain
  | .compound k parts => .compound k (plains parts)
  | .constant value => .constant value

def plains : List Predicate → List Predicate
  | [] => []
  | p :: ps => plain p :: plains ps

end

theorem plains_eq_map (ps : List Predicate) : plains ps = ps.map plain := by
  induction ps with
  | nil => rfl
  | cons p ps ih => simp [plains, ih]

theorem plain_compound (k : Connective) (parts : List Predicate) :
    plain (.compound k parts) = .compound k (parts.map plain) := by
  rw [plain, plains_eq_map]

end Predicate

/-! ### Keys -/

theorem Relation.key_inj {r s : Relation} : r.key = s.key ↔ r = s := by
  constructor
  · intro same
    cases r <;> cases s <;> first | rfl | (simp [key] at same)
  · rintro rfl
    rfl

theorem Connective.key_inj {k l : Connective} : k.key = l.key ↔ k = l := by
  cases k <;> cases l <;> simp [key]

theorem Json.single_inj {k l : String} {v w : Json} :
    Json.single k v = Json.single l w ↔ k = l ∧ v = w := by
  simp [single]

namespace Predicate

/-! ### Query objects -/

theorem queryCompound_cases (k : Connective) (qs : List Json) :
    (∃ q, k = .not ∧ qs = [q] ∧ queryCompound k qs = .single k.key q) ∨
      ((k = .not → ∀ q, qs ≠ [q]) ∧ queryCompound k qs = .single k.key (.array qs)) := by
  unfold queryCompound
  split
  · rename_i q
    exact Or.inl ⟨q, rfl, rfl, rfl⟩
  · rename_i other
    exact Or.inr ⟨fun negation q single => other q negation single, rfl⟩

theorem query_compound (k : Connective) (parts : List Predicate) :
    query (.compound k parts) = queryCompound k (parts.map query) := by
  rw [query, queries_eq_map]

/-- Below the key of a connective stands the query object of a part or an array. -/
theorem query_compound_cases (k : Connective) (parts : List Predicate) :
    ∃ v, query (.compound k parts) = .single k.key v ∧
      ((∃ p ∈ parts, v = p.query) ∨ ∃ vs, v = .array vs) := by
  rw [query_compound]
  rcases queryCompound_cases k (parts.map query) with ⟨q, -, single, form⟩ | ⟨-, form⟩
  · obtain ⟨p, part, same⟩ := List.mem_map.mp (single ▸ List.mem_singleton_self q)
    exact ⟨q, form, Or.inl ⟨p, part, same.symm⟩⟩
  · exact ⟨_, form, Or.inr ⟨_, rfl⟩⟩

theorem exists_query_eq_single (p : Predicate) : ∃ key v, p.query = .single key v := by
  cases p with
  | comparison c => exact ⟨_, _, rfl⟩
  | constant value => exact ⟨_, _, rfl⟩
  | compound k parts =>
    obtain ⟨v, form, -⟩ := query_compound_cases k parts
    exact ⟨_, _, form⟩

theorem query_ne_array (p : Predicate) (vs : List Json) : p.query ≠ .array vs := by
  obtain ⟨key, v, form⟩ := exists_query_eq_single p
  rw [form]
  intro same
  cases same

/-- Only the object below the field of a comparison has a text as its member. -/
theorem query_ne_single_text (p : Predicate) (key value : String) :
    p.query ≠ .single key (.text value) := by
  intro same
  cases p with
  | comparison c => cases (Json.single_inj.mp same).2
  | constant b => cases (Json.single_inj.mp same).2
  | compound k parts =>
    obtain ⟨v, form, below⟩ := query_compound_cases k parts
    obtain rfl := (Json.single_inj.mp (form.symm.trans same)).2
    rcases below with ⟨p, -, part⟩ | ⟨vs, array⟩
    · obtain ⟨key', v, single⟩ := exists_query_eq_single p
      rw [single] at part
      cases part
    · cases array

theorem query_comparison_ne_query_compound (c : Comparison) (k : Connective)
    (parts : List Predicate) : c.query ≠ query (.compound k parts) := by
  intro same
  obtain ⟨v, form, below⟩ := query_compound_cases k parts
  obtain rfl := (Json.single_inj.mp (same.trans form)).2
  rcases below with ⟨p, -, part⟩ | ⟨vs, array⟩
  · exact query_ne_single_text p _ _ part.symm
  · cases array

theorem query_constant_ne_query_compound (value : Bool) (k : Connective) (parts : List Predicate) :
    query (.constant value) ≠ query (.compound k parts) := by
  intro same
  obtain ⟨v, form, below⟩ := query_compound_cases k parts
  obtain rfl := (Json.single_inj.mp (same.trans form)).2
  rcases below with ⟨p, -, part⟩ | ⟨vs, array⟩
  · obtain ⟨key, v, single⟩ := exists_query_eq_single p
    rw [single] at part
    cases part
  · cases array

/-- A single negated part and a list of parts are told apart, since no query object is an array. -/
theorem query_compound_inj {k l : Connective} {ps qs : List Predicate} :
    query (.compound k ps) = query (.compound l qs) ↔ k = l ∧ ps.map query = qs.map query := by
  constructor
  · intro same
    rw [query_compound, query_compound] at same
    rcases queryCompound_cases k (ps.map query) with ⟨x, rfl, single, form⟩ | ⟨-, form⟩ <;>
      rcases queryCompound_cases l (qs.map query) with ⟨y, rfl, single', form'⟩ | ⟨-, form'⟩ <;>
        rw [form, form'] at same <;> obtain ⟨key, value⟩ := Json.single_inj.mp same
    · exact ⟨rfl, by rw [single, single', value]⟩
    · obtain ⟨p, -, rfl⟩ := List.mem_map.mp (single ▸ List.mem_singleton_self x)
      exact absurd value (query_ne_array p _)
    · obtain ⟨q, -, rfl⟩ := List.mem_map.mp (single' ▸ List.mem_singleton_self y)
      exact absurd value.symm (query_ne_array q _)
    · exact ⟨Connective.key_inj.mp key, Json.array.inj value⟩
  · rintro ⟨rfl, same⟩
    rw [query_compound, query_compound, same]

theorem query_plain (p : Predicate) : p.plain.query = p.query := by
  induction p with
  | comparison c => exact c.query_plain
  | constant value => rfl
  | compound k parts ih =>
    rw [plain_compound, query_compound_inj, List.map_map]
    exact ⟨rfl, List.map_congr_left ih⟩

theorem plain_eq_of_query_eq {p q : Predicate} (same : p.query = q.query) : p.plain = q.plain := by
  induction p generalizing q with
  | comparison c =>
    cases q with
    | comparison d =>
      obtain ⟨left, below⟩ := Json.single_inj.mp same
      obtain ⟨key, right⟩ := Json.single_inj.mp below
      rw [plain, plain, Comparison.plain_eq_ofConstants, Comparison.plain_eq_ofConstants, left,
        Relation.key_inj.mp key, Json.text.inj right]
    | constant value => cases (Json.single_inj.mp same).2
    | compound k parts => exact absurd same (query_comparison_ne_query_compound c k parts)
  | constant value =>
    cases q with
    | comparison d => cases (Json.single_inj.mp same).2
    | constant value' =>
      cases (Json.single_inj.mp same).2
      rfl
    | compound k parts => exact absurd same (query_constant_ne_query_compound value k parts)
  | compound k parts ih =>
    cases q with
    | comparison d => exact absurd same.symm (query_comparison_ne_query_compound d k parts)
    | constant value => exact absurd same.symm (query_constant_ne_query_compound value k parts)
    | compound l parts' =>
      obtain ⟨rfl, parts⟩ := query_compound_inj.mp same
      rw [plain_compound, plain_compound, map_eq_map_of_each (fun p member q => ih p member) parts]

/-! ### Recognition -/

theorem plain_eq_comparison {p : Predicate} {c : Comparison} (same : p.plain = .comparison c) :
    ∃ d, p = .comparison d ∧ c = d.plain := by
  cases p with
  | comparison d => exact ⟨d, rfl, (comparison.inj same).symm⟩
  | constant value => cases same
  | compound k parts => cases same

theorem plain_eq_compound {p : Predicate} {k : Connective} {parts : List Predicate}
    (same : p.plain = .compound k parts) :
    ∃ parts', p = .compound k parts' ∧ parts = parts'.map plain := by
  cases p with
  | comparison d => cases same
  | constant value => cases same
  | compound l parts' =>
    rw [plain_compound] at same
    obtain ⟨rfl, rfl⟩ := compound.inj same
    exact ⟨parts', rfl, rfl⟩

theorem isContainsNot_plain (p : Predicate) : p.plain.isContainsNot = p.isContainsNot := by
  rw [Bool.eq_iff_iff, isContainsNot_iff, isContainsNot_iff]
  constructor
  · rintro ⟨c, negation, relation⟩
    obtain ⟨parts, rfl, single⟩ := plain_eq_compound negation
    obtain ⟨part, rfl, comparison⟩ := List.map_eq_singleton_iff.mp single.symm
    obtain ⟨d, rfl, rfl⟩ := plain_eq_comparison comparison
    exact ⟨d, rfl, relation⟩
  · rintro ⟨c, rfl, relation⟩
    exact ⟨c.plain, rfl, relation⟩

theorem members_plain (k : Connective) (parts : List Predicate) :
    members k (parts.map plain) = (members k parts).map plain := by
  rcases members_cases k parts with ⟨inner, rfl, rfl, same⟩ | ⟨other, same⟩
  · rw [same, List.map_singleton, plain_compound, members]
  · rcases members_cases k (parts.map plain) with ⟨inner, rfl, single, -⟩ | ⟨-, same'⟩
    · obtain ⟨part, rfl, disjunction⟩ := List.map_eq_singleton_iff.mp single
      obtain ⟨inner', rfl, -⟩ := plain_eq_compound disjunction
      exact absurd rfl (other inner' rfl)
    · rw [same, same']

theorem filters_map_plain {ps : List Predicate} (each : ∀ p ∈ ps, p.plain.filter? = p.filter?) :
    filters (ps.map plain) = filters ps := by
  rw [filters_eq_filterMap, filters_eq_filterMap, List.filterMap_map]
  exact List.filterMap_congr each

theorem filter?_plain (p : Predicate) : p.plain.filter? = p.filter? := by
  induction p using induction_members with
  | comparison c => rw [plain, filter?, filter?, c.clause_plain]
  | constant value => rfl
  | compound k parts ih =>
    rcases filter?_compound_cases k parts with ⟨c, rfl, rfl, relation, -⟩ | ⟨other, read⟩
    · have relation' : c.plain.relation = .contains := relation
      simp only [plain, plains, filter?, relation, relation', c.clause_plain]
    · have other' : (Predicate.compound k (parts.map plain)).isContainsNot = false := by
        rw [← plain_compound, isContainsNot_plain, other]
      rw [read, plain_compound, filter?_compound k _ other', members_plain, filters_map_plain ih]

theorem group?_plain (p : Predicate) : p.plain.group? = p.group? := by
  cases p with
  | comparison c => rfl
  | constant value => rfl
  | compound k parts =>
    rw [plain_compound, group?, group?, members_plain,
      filters_map_plain fun p _ => filter?_plain p]

theorem clause?_plain (p : Predicate) (negated : Bool) :
    p.plain.clause? negated = p.clause? negated := by
  cases p with
  | comparison c => rw [plain, clause?, clause?, c.clause_plain]
  | compound k parts => rfl
  | constant value => rfl

end Predicate

/-- The notice with its predicates shown plain. -/
def Notice.plain : Notice → Notice
  | .corrupted part whole => .corrupted part.plain whole.plain
  | n => n

namespace Predicate

theorem noticesIn_plain {whole p : Predicate} (own : p.plain.notices = p.notices.map Notice.plain) :
    noticesIn whole.plain p.plain = (noticesIn whole p).map Notice.plain := by
  cases p with
  | constant value => rfl
  | comparison c => exact own
  | compound k parts => exact own

theorem notices_plain (p : Predicate) : p.plain.notices = p.notices.map Notice.plain := by
  induction p using induction_members with
  | comparison c =>
    rw [plain, notices, notices, c.notices_plain, Comparison.notices, List.map_append]
    split <;> split <;> rfl
  | constant value => rfl
  | compound k parts ih =>
    rw [plain_compound, notices_compound, notices_compound, noticesOf_eq_flatMap,
      noticesOf_eq_flatMap, members_plain, List.flatMap_map, List.map_flatMap, ← plain_compound]
    exact List.flatMap_congr fun p member => noticesIn_plain (ih p member)

theorem groupNotices_plain (p : Predicate) :
    p.plain.groupNotices = p.groupNotices.map Notice.plain := by
  rw [groupNotices, groupNotices, group?_plain, notices_plain]
  split <;> rfl

theorem clauseNotices_plain (p : Predicate) : p.plain.clauseNotices = p.clauseNotices := by
  cases p with
  | comparison c => exact c.notices_plain
  | compound k parts => rfl
  | constant value => rfl

/-- Two predicates have the same query object exactly if they are equal but for the kinds of operands
and relative dates. Both are then read as the same group or clause, with the same notices but for
how these show a whole predicate. -/
theorem query_eq_query_iff (p q : Predicate) :
    (p.query = q.query ↔ p.plain = q.plain) ∧
    (p.query = q.query → p.group? = q.group? ∧ (∀ negated, p.clause? negated = q.clause? negated) ∧
      p.groupNotices.map Notice.plain = q.groupNotices.map Notice.plain ∧
      p.clauseNotices = q.clauseNotices) := by
  have exported : p.query = q.query ↔ p.plain = q.plain := by
    refine ⟨plain_eq_of_query_eq, fun same => ?_⟩
    rw [← query_plain p, ← query_plain q, same]
  refine ⟨exported, fun same => ?_⟩
  have plain := exported.mp same
  refine ⟨?_, fun negated => ?_, ?_, ?_⟩
  · rw [← group?_plain p, plain, group?_plain]
  · rw [← clause?_plain p, plain, clause?_plain]
  · rw [← groupNotices_plain, plain, groupNotices_plain]
  · rw [← clauseNotices_plain p, plain, clauseNotices_plain]

/-- The object has a key of each kind; the field of the comparison may be one of them. -/
def keyed (c : Comparison) : Predicate := .compound .or [.constant true, .not (.comparison c)]

theorem query_eq_query_iff_keyed :
    let p := keyed ⟨.keyPath "$not", .contains, .constant "3 days", some ⟨3, .day⟩⟩
    let q := keyed (.ofConstants "$not" .contains "3 days")
    p ≠ q ∧ p.query = q.query ∧ p.plain = q.plain ∧ p.group? = q.group? := by
  intro p q
  have same : p.query = q.query := rfl
  obtain ⟨exported, read⟩ := query_eq_query_iff p q
  exact ⟨by decide, same, exported.mp same, (read same).1⟩

end Predicate

end SmartFolder
