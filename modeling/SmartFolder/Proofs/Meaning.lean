import SmartFolder.Proofs.Recognition

/-!
# What filters and predicates mean

A valuation says which comparisons hold. Under it every predicate and every filter is true or
false. Recognition keeps the truth value if it reports no unsuitable relation and no corrupted
part, and every negation has one part (`Predicate.holds_group?`).
-/

namespace SmartFolder

/-- Whether the comparison of a field with a value by a relation holds. -/
abbrev Valuation := String → Relation → String → Bool

/-- The truth value of a compound, from those of its parts. A negation of several parts negates
their conjunction. -/
def Connective.truth : Connective → List Bool → Bool
  | .and, values => values.all id
  | .or, values => values.any id
  | .not, values => !values.all id

def Condition.truth : Condition → List Bool → Bool
  | .all, values | .invalid, values => values.all id
  | .any, values => values.any id
  | .none, values => !values.any id

def Comparison.holds (v : Valuation) (c : Comparison) : Bool :=
  v c.left.text c.relation c.right.text

def Clause.holds (v : Valuation) (c : Clause) : Bool :=
  if c.operator = .containsNot then !v c.field .contains c.value
  else v c.field c.operator.relation c.value

namespace Predicate

mutual

def holds (v : Valuation) : Predicate → Bool
  | .comparison c => c.holds v
  | .compound k parts => k.truth (truths v parts)
  | .constant value => value

def truths (v : Valuation) : List Predicate → List Bool
  | [] => []
  | p :: ps => holds v p :: truths v ps

end

theorem truths_eq_map (v : Valuation) (ps : List Predicate) : truths v ps = ps.map (holds v) := by
  induction ps with
  | nil => rfl
  | cons p ps ih => simp [truths, ih]

mutual

def nodes : Predicate → List Predicate
  | .comparison c => [.comparison c]
  | .compound k parts => .compound k parts :: nodesOf parts
  | .constant value => [.constant value]

def nodesOf : List Predicate → List Predicate
  | [] => []
  | p :: ps => nodes p ++ nodesOf ps

end

theorem nodesOf_eq_flatMap (ps : List Predicate) : nodesOf ps = ps.flatMap nodes := by
  induction ps with
  | nil => rfl
  | cons p ps ih => simp [nodesOf, ih]

def isSingle : Predicate → Bool
  | .compound .not parts => parts.length == 1
  | _ => true

/-- Every negation in the predicate has exactly one part. -/
def NegatesOne (p : Predicate) : Prop := ∀ q ∈ p.nodes, q.isSingle = true

instance (p : Predicate) : Decidable p.NegatesOne :=
  inferInstanceAs (Decidable (∀ q ∈ p.nodes, q.isSingle = true))

theorem mem_nodes_self (p : Predicate) : p ∈ p.nodes := by
  cases p <;> simp [nodes]

theorem mem_nodes_of_mem {k : Connective} {parts : List Predicate} {p q : Predicate}
    (part : p ∈ parts) (h : q ∈ p.nodes) : q ∈ (Predicate.compound k parts).nodes := by
  rw [nodes, nodesOf_eq_flatMap]
  exact List.mem_cons_of_mem _ (List.mem_flatMap.mpr ⟨p, part, h⟩)

theorem mem_nodes_of_mem_members {k : Connective} {parts : List Predicate} {p q : Predicate}
    (member : p ∈ members k parts) (h : q ∈ p.nodes) : q ∈ (Predicate.compound k parts).nodes := by
  rcases members_cases k parts with ⟨inner, rfl, rfl, same⟩ | ⟨-, same⟩
  · rw [same] at member
    exact mem_nodes_of_mem List.mem_cons_self (mem_nodes_of_mem member h)
  · rw [same] at member
    exact mem_nodes_of_mem member h

end Predicate

namespace Filter

mutual

def holds (v : Valuation) : Filter → Bool
  | .clause c => c.holds v
  | .group condition members => condition.truth (truths v members)

def truths (v : Valuation) : List Filter → List Bool
  | [] => []
  | f :: fs => holds v f :: truths v fs

end

theorem truths_eq_map (v : Valuation) (fs : List Filter) : truths v fs = fs.map (holds v) := by
  induction fs with
  | nil => rfl
  | cons f fs ih => simp [truths, ih]

end Filter

def Group.holds (v : Valuation) (g : Group) : Bool := g.filter.holds v

/-! ### Recognition -/

/-- Notices that tell of a change of meaning. -/
def Notice.isLoss : Notice → Bool
  | .unsuitable _ _ | .corrupted _ _ => true
  | _ => false

namespace Comparison

theorem suits_of_notices {c : Comparison} (kept : ∀ n ∈ c.notices, n.isLoss = false) :
    c.operator?.isSome := by
  cases read : c.operator? with
  | some op => rfl
  | none =>
    have loss := kept (.unsuitable c.field c.relation) (by simp [notices, read])
    cases loss

theorem holds_clause (v : Valuation) {c : Comparison} (suits : c.operator?.isSome) (negated : Bool) :
    (c.clause negated).holds v =
      if negated = true ∧ c.relation = .contains then !c.holds v else c.holds v := by
  have contains : c.operator? = some .contains ↔ c.relation = .contains := by
    rw [operator?_eq_contains_iff]
    refine and_iff_left_of_imp fun relation => ?_
    rw [← relation]
    exact suits
  rw [Clause.holds]
  simp only [operator_clause_eq_containsNot_iff, contains, relation_operator_clause suits]
  split
  · rename_i negative
    rw [holds, negative.2]
    rfl
  · rfl

end Comparison

namespace Predicate

theorem truth_members (v : Valuation) {k : Connective} {parts : List Predicate}
    (single : (Predicate.compound k parts).isSingle = true) :
    k.condition.truth ((members k parts).map (holds v)) = k.truth (parts.map (holds v)) := by
  rcases members_cases k parts with ⟨inner, rfl, rfl, same⟩ | ⟨-, same⟩
  · rw [same]
    simp [Connective.condition, Condition.truth, Connective.truth, holds, truths_eq_map]
  · rw [same]
    cases k with
    | and => rfl
    | or => rfl
    | not =>
      obtain ⟨p, rfl⟩ := List.length_eq_one_iff.mp (by simpa [isSingle] using single)
      simp [Connective.condition, Condition.truth, Connective.truth]

theorem truths_filters (v : Valuation) {meaning : Predicate → Bool} (ps : List Predicate)
    (each : ∀ p ∈ ps, ∃ f, p.filter? = some f ∧ f.holds v = meaning p) :
    (filters ps).map (Filter.holds v) = ps.map meaning := by
  induction ps with
  | nil => rfl
  | cons p ps ih =>
    obtain ⟨f, read, same⟩ := each p List.mem_cons_self
    have rest := ih fun q member => each q (List.mem_cons_of_mem p member)
    simp [filters, read, same, rest]

/-- A member of a compound is read without loss if the compound is, so it is no constant. -/
theorem kept_of_mem_members {k : Connective} {parts : List Predicate} {p : Predicate}
    (kept : ∀ n ∈ notices (.compound k parts), n.isLoss = false) (member : p ∈ members k parts) :
    (∃ f, p.filter? = some f) ∧ ∀ n ∈ p.notices, n.isLoss = false := by
  have inside : ∀ n ∈ noticesIn (.compound k parts) p, n.isLoss = false := by
    intro n found
    refine kept n ?_
    rw [notices_compound, noticesOf_eq_flatMap]
    exact List.mem_flatMap.mpr ⟨p, member, found⟩
  cases p with
  | constant value => cases inside _ (List.mem_singleton_self _)
  | comparison c => exact ⟨⟨_, rfl⟩, inside⟩
  | compound k' parts' =>
    refine ⟨Option.ne_none_iff_exists'.mp fun unread => ?_, inside⟩
    obtain ⟨value, constant⟩ := filter?_eq_none_iff.mp unread
    cases constant

/-- The group of a compound read without loss joins what its members mean. -/
theorem holds_group_members (v : Valuation) {meaning : Predicate → Bool} {k : Connective}
    {parts : List Predicate} (kept : ∀ n ∈ notices (.compound k parts), n.isLoss = false)
    (each : ∀ p ∈ members k parts, ∀ f, p.filter? = some f → (∀ n ∈ p.notices, n.isLoss = false) →
      f.holds v = meaning p) :
    (Filter.group k.condition (filters (members k parts))).holds v =
      k.condition.truth ((members k parts).map meaning) := by
  have same : (filters (members k parts)).map (Filter.holds v) = (members k parts).map meaning := by
    refine truths_filters v (members k parts) fun p member => ?_
    obtain ⟨⟨f, read⟩, keptMember⟩ := kept_of_mem_members kept member
    exact ⟨f, read, each p member f read keptMember⟩
  rw [Filter.holds, Filter.truths_eq_map, same]

theorem truth_filters_members (v : Valuation) {k : Connective} {parts : List Predicate}
    (single : (Predicate.compound k parts).isSingle = true)
    (kept : ∀ n ∈ notices (.compound k parts), n.isLoss = false)
    (each : ∀ p ∈ members k parts, ∀ f, p.filter? = some f → (∀ n ∈ p.notices, n.isLoss = false) →
      f.holds v = p.holds v) :
    (Filter.group k.condition (filters (members k parts))).holds v =
      (Predicate.compound k parts).holds v := by
  rw [holds_group_members v kept each, truth_members v single, holds, truths_eq_map]

theorem holds_filter? (v : Valuation) {p : Predicate} {f : Filter} (read : p.filter? = some f)
    (single : p.NegatesOne) (kept : ∀ n ∈ p.notices, n.isLoss = false) : f.holds v = p.holds v := by
  induction p using induction_members generalizing f with
  | comparison c =>
    cases read
    simpa [Filter.holds, holds] using
      Comparison.holds_clause v (Comparison.suits_of_notices kept) false
  | constant value => cases read
  | compound k parts ih =>
    rcases filter?_compound_cases k parts with ⟨c, rfl, rfl, relation, asClause⟩ | ⟨-, asGroup⟩
    · rw [asClause] at read
      cases read
      have suits : c.operator?.isSome := by
        obtain ⟨-, keptPart⟩ := kept_of_mem_members (p := .comparison c) kept List.mem_cons_self
        exact Comparison.suits_of_notices keptPart
      rw [Filter.holds, Comparison.holds_clause v suits, if_pos ⟨rfl, relation⟩]
      simp [holds, truths, Connective.truth]
    · rw [asGroup] at read
      cases read
      refine truth_filters_members v (single _ (mem_nodes_self _)) kept ?_
      intro p member f found keptMember
      exact ih p member found (fun q h => single q (mem_nodes_of_mem_members member h)) keptMember

/-- Recognition without loss keeps the truth value under every valuation. -/
theorem holds_group? (k : Connective) (parts : List Predicate)
    (single : (Predicate.compound k parts).NegatesOne)
    (kept : ∀ n ∈ (Predicate.compound k parts).groupNotices, n.isLoss = false) :
    ∃ g, (Predicate.compound k parts).group? = some g ∧
      ∀ v, g.holds v = (Predicate.compound k parts).holds v := by
  refine ⟨⟨k.condition, filters (members k parts)⟩, rfl, fun v => ?_⟩
  refine truth_filters_members v (single _ (mem_nodes_self _)) kept ?_
  intro p member f found keptMember
  exact holds_filter? v found (fun q h => single q (mem_nodes_of_mem_members member h)) keptMember

/-- Negations of every kind that recognition tells apart. -/
def negations : List Predicate := [
  .not (.comparison (.ofConstants "Subject" .contains "spam")),
  .not (.comparison (.ofConstants "Date" .less "3 days")),
  .not (.compound .or [
    .not (.not (.comparison (.ofConstants "Text" .contains "offer"))),
    .comparison (.ofConstants "Read" .equal "Yes")]),
  .not (.compound .and [.comparison (.ofConstants "Size" .equal "10")])]

theorem holds_group?_negations :
    (Predicate.compound .or negations).NegatesOne ∧
      (∀ n ∈ (Predicate.compound .or negations).groupNotices, n.isLoss = false) ∧
      ∃ g, (Predicate.compound .or negations).group? = some g ∧
        ∀ v, g.holds v = (Predicate.compound .or negations).holds v :=
  ⟨by decide, by decide, holds_group? .or negations (by decide) (by decide)⟩

end Predicate

end SmartFolder
