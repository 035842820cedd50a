import SmartFolder.Proofs.Meaning

/-!
# Negations of several parts

The text of a negation of several parts shows a negated conjunction, and so it is evaluated
(`Connective.truth`); recognition makes of it "none of" its parts. A group read without loss has the
truth value of the predicate with every negation taken that way (`holdsAsRead_group?`). The two
readings differ wherever the parts do not all have the same truth value.
-/

namespace SmartFolder

/-- There are truth values, and they are all the same. -/
def Unanimous (values : List Bool) : Prop :=
  values ≠ [] ∧ ∀ a ∈ values, ∀ b ∈ values, a = b

theorem any_eq_all_iff {values : List Bool} :
    values.any id = values.all id ↔ Unanimous values := by
  constructor
  · intro same
    refine ⟨fun empty => ?_, fun a first b second => ?_⟩
    · rw [empty] at same
      cases same
    · have mixed (yes : true ∈ values) (no : false ∈ values) : False := by
        have all : values.all id = true := same ▸ List.any_eq_true.mpr ⟨true, yes, rfl⟩
        cases List.all_eq_true.mp all false no
      cases a <;> cases b
      · rfl
      · exact (mixed second first).elim
      · exact (mixed first second).elim
      · rfl
  · rintro ⟨some, alike⟩
    rw [Bool.eq_iff_iff, List.any_eq_true, List.all_eq_true]
    constructor
    · rintro ⟨a, member, holds⟩ b other
      rw [alike b other a member]
      exact holds
    · intro all
      obtain ⟨a, member⟩ := List.exists_mem_of_ne_nil values some
      exact ⟨a, member, all a member⟩

theorem Connective.truth_condition_eq_iff {k : Connective} {values : List Bool} :
    k.condition.truth values = k.truth values ↔ (k = .not → Unanimous values) := by
  cases k with
  | and => simp [Connective.condition, Condition.truth, Connective.truth]
  | or => simp [Connective.condition, Condition.truth, Connective.truth]
  | not =>
    rw [← any_eq_all_iff]
    simp [Connective.condition, Condition.truth, Connective.truth]

namespace Predicate

mutual

/-- The truth value with every connective taken for the condition that it is read as. -/
def holdsAsRead (v : Valuation) : Predicate → Bool
  | .comparison c => c.holds v
  | .compound k parts => k.condition.truth (truthsAsRead v parts)
  | .constant value => value

def truthsAsRead (v : Valuation) : List Predicate → List Bool
  | [] => []
  | p :: ps => holdsAsRead v p :: truthsAsRead v ps

end

theorem truthsAsRead_eq_map (v : Valuation) (ps : List Predicate) :
    truthsAsRead v ps = ps.map (holdsAsRead v) := by
  induction ps with
  | nil => rfl
  | cons p ps ih => simp [truthsAsRead, ih]

/-- The parts of every negation in the predicate have the same truth value. -/
def NegatesAlike (v : Valuation) (p : Predicate) : Prop :=
  ∀ parts, .compound .not parts ∈ p.nodes → Unanimous (parts.map (holds v))

/-! ### What recognition makes of a negation -/

/-- Taking "none of" the parts of a negated disjunction changes nothing. -/
theorem truth_members_asRead (v : Valuation) (k : Connective) (parts : List Predicate) :
    k.condition.truth ((members k parts).map (holdsAsRead v)) =
      (Predicate.compound k parts).holdsAsRead v := by
  rcases members_cases k parts with ⟨inner, rfl, rfl, same⟩ | ⟨-, same⟩
  · rw [same]
    simp [Connective.condition, Condition.truth, holdsAsRead, truthsAsRead_eq_map]
  · rw [same, holdsAsRead, truthsAsRead_eq_map]

theorem holdsAsRead_filter? (v : Valuation) {p : Predicate} {f : Filter} (read : p.filter? = some f)
    (kept : ∀ n ∈ p.notices, n.isLoss = false) : f.holds v = p.holdsAsRead v := by
  induction p using induction_members generalizing f with
  | comparison c =>
    cases read
    have suits := Comparison.suits_of_notices kept
    rw [Filter.holds, Comparison.holds_clause v suits false, holdsAsRead, if_neg (by simp)]
  | constant value => cases read
  | compound k parts ih =>
    rcases filter?_compound_cases k parts with ⟨c, rfl, rfl, relation, asClause⟩ | ⟨-, asGroup⟩
    · rw [asClause] at read
      cases read
      obtain ⟨-, keptPart⟩ := kept_of_mem_members (p := .comparison c) kept List.mem_cons_self
      have suits := Comparison.suits_of_notices keptPart
      rw [Filter.holds, Comparison.holds_clause v suits true, if_pos ⟨rfl, relation⟩]
      simp [holdsAsRead, truthsAsRead, Connective.condition, Condition.truth]
    · rw [asGroup] at read
      cases read
      rw [holds_group_members v kept fun p member f found keptMember =>
        ih p member found keptMember, truth_members_asRead]

/-! ### Where the two readings agree -/

theorem holdsAsRead_of_negatesAlike {v : Valuation} {p : Predicate} (alike : p.NegatesAlike v) :
    p.holdsAsRead v = p.holds v := by
  induction p with
  | comparison c => rfl
  | constant value => rfl
  | compound k parts ih =>
    have inner : parts.map (holdsAsRead v) = parts.map (holds v) := by
      refine List.map_congr_left fun p part => ih p part fun ps node => ?_
      exact alike ps (mem_nodes_of_mem part node)
    rw [holdsAsRead, holds, truthsAsRead_eq_map, truths_eq_map, inner,
      Connective.truth_condition_eq_iff]
    rintro rfl
    exact alike parts (mem_nodes_self _)

theorem negatesAlike_of_negatesOne {p : Predicate} (single : p.NegatesOne) (v : Valuation) :
    p.NegatesAlike v := by
  intro parts node
  have one := single _ node
  obtain ⟨part, rfl⟩ := List.length_eq_one_iff.mp (by simpa [isSingle] using one)
  refine ⟨List.cons_ne_nil _ _, fun a first b second => ?_⟩
  rw [List.mem_singleton.mp first, List.mem_singleton.mp second]

/-- Above parts whose negations have one part each, a negation keeps its truth value exactly if its
own parts have the same. -/
theorem holdsAsRead_not_eq_iff {v : Valuation} {parts : List Predicate}
    (single : ∀ p ∈ parts, p.NegatesOne) :
    (Predicate.compound .not parts).holdsAsRead v = (Predicate.compound .not parts).holds v ↔
      Unanimous (parts.map (holds v)) := by
  have inner : parts.map (holdsAsRead v) = parts.map (holds v) := by
    refine List.map_congr_left fun p part => ?_
    exact holdsAsRead_of_negatesAlike (negatesAlike_of_negatesOne (single p part) v)
  rw [holdsAsRead, holds, truthsAsRead_eq_map, truths_eq_map, inner,
    Connective.truth_condition_eq_iff]
  exact ⟨fun alike => alike rfl, fun alike _ => alike⟩

/-- A group that a compound is read as without loss takes every negation for "none of" its parts. It
keeps the truth value of the compound where the parts of each negation have the same, and loses it
where those of a negation, itself read, do not. -/
theorem holdsAsRead_group? (k : Connective) (parts : List Predicate)
    (kept : ∀ n ∈ (Predicate.compound k parts).groupNotices, n.isLoss = false) :
    ∃ g, (Predicate.compound k parts).group? = some g ∧ ∀ v,
      g.holds v = (Predicate.compound k parts).holdsAsRead v ∧
      ((Predicate.compound k parts).NegatesAlike v →
        g.holds v = (Predicate.compound k parts).holds v) ∧
      (k = .not → (∀ p ∈ parts, p.NegatesOne) →
        (g.holds v = (Predicate.compound k parts).holds v ↔ Unanimous (parts.map (holds v)))) := by
  refine ⟨⟨k.condition, filters (members k parts)⟩, rfl, fun v => ?_⟩
  have read : Group.holds v ⟨k.condition, filters (members k parts)⟩ =
      (Predicate.compound k parts).holdsAsRead v := by
    rw [← truth_members_asRead]
    exact holds_group_members v kept fun p _ f found keptMember =>
      holdsAsRead_filter? v found keptMember
  refine ⟨read, fun alike => ?_, ?_⟩
  · rw [read, holdsAsRead_of_negatesAlike alike]
  · rintro rfl single
    rw [read]
    exact holdsAsRead_not_eq_iff single

/-- Neither read nor flagged, or not both, by which reading of the negation is taken. -/
def readFlagged : List Predicate := [
  .comparison (.ofConstants "Read" .equal "Yes"),
  .comparison (.ofConstants "Flagged" .equal "Yes")]

theorem holdsAsRead_group?_readFlagged :
    (∀ n ∈ (Predicate.compound .not readFlagged).groupNotices, n.isLoss = false) ∧
      (∀ p ∈ readFlagged, p.NegatesOne) ∧
      ∃ g, (Predicate.compound .not readFlagged).group? = some g ∧ ∀ v,
        (g.holds v = (Predicate.compound .not readFlagged).holds v ↔
          Unanimous (readFlagged.map (holds v))) := by
  have single : ∀ p ∈ readFlagged, p.NegatesOne := by decide
  obtain ⟨g, read, each⟩ := holdsAsRead_group? .not readFlagged (by decide)
  exact ⟨by decide, single, g, read, fun v => (each v).2.2 rfl single⟩

/-- A negation of two parts has the text of the negated conjunction and is read without a notice,
but not as what the text says. -/
theorem group?_readFlagged :
    let p := Predicate.compound .not readFlagged
    let v : Valuation := fun field _ _ => field = "Read"
    p.display = (Predicate.not (.compound .and readFlagged)).display ∧ p.groupNotices = [] ∧
      ∃ g, p.group? = some g ∧ p.holds v = true ∧ g.holds v = false := by
  intro p v
  exact ⟨rfl, by decide, _, rfl, by decide, by decide⟩

end Predicate

end SmartFolder
