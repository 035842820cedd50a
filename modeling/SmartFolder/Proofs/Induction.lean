import SmartFolder.Recognition

/-!
# Induction over filters and predicates

Filters and predicates nest through lists of themselves. What holds of every clause, and of a
group whose members it holds of, holds of every filter; predicates likewise.
Recognition descends to the `members` of a compound, which are not always its parts;
`Predicate.induction_members` follows it.
-/

namespace SmartFolder

@[elab_as_elim, induction_eliminator]
theorem Filter.induction {motive : Filter → Prop} (clause : ∀ c, motive (.clause c))
    (group : ∀ condition members, (∀ f ∈ members, motive f) → motive (.group condition members))
    (f : Filter) : motive f :=
  match f with
  | .clause c => clause c
  | .group condition members =>
    group condition members fun f _ => Filter.induction clause group f

namespace Predicate

@[elab_as_elim, induction_eliminator]
theorem induction {motive : Predicate → Prop} (comparison : ∀ c, motive (.comparison c))
    (constant : ∀ value, motive (.constant value))
    (compound : ∀ k parts, (∀ p ∈ parts, motive p) → motive (.compound k parts))
    (p : Predicate) : motive p :=
  match p with
  | .comparison c => comparison c
  | .constant value => constant value
  | .compound k parts =>
    compound k parts fun p _ => Predicate.induction comparison constant compound p

/-- A negated disjunction has the parts of the disjunction as members, any other compound its own
parts. -/
theorem members_cases (k : Connective) (parts : List Predicate) :
    (∃ inner, k = .not ∧ parts = [.compound .or inner] ∧ members k parts = inner) ∨
      ((∀ inner, k = .not → parts ≠ [.compound .or inner]) ∧ members k parts = parts) := by
  unfold members
  split
  · rename_i inner
    exact Or.inl ⟨inner, rfl, rfl, rfl⟩
  · rename_i other
    exact Or.inr ⟨other, rfl⟩

theorem sizeOf_lt_of_mem_members {k : Connective} {parts : List Predicate} {p : Predicate}
    (h : p ∈ members k parts) : sizeOf p < sizeOf (Predicate.compound k parts) := by
  rcases members_cases k parts with ⟨inner, hk, hparts, hmembers⟩ | ⟨-, hmembers⟩
  · rw [hmembers] at h
    have smaller := List.sizeOf_lt_of_mem h
    subst hk hparts
    simp only [compound.sizeOf_spec, List.cons.sizeOf_spec, List.nil.sizeOf_spec]
    omega
  · rw [hmembers] at h
    have smaller := List.sizeOf_lt_of_mem h
    simp only [compound.sizeOf_spec]
    omega

@[elab_as_elim]
theorem induction_members {motive : Predicate → Prop} (comparison : ∀ c, motive (.comparison c))
    (constant : ∀ value, motive (.constant value))
    (compound : ∀ k parts, (∀ p ∈ members k parts, motive p) → motive (.compound k parts))
    (p : Predicate) : motive p :=
  match p with
  | .comparison c => comparison c
  | .constant value => constant value
  | .compound k parts =>
    compound k parts fun p _ => induction_members comparison constant compound p
termination_by sizeOf p
decreasing_by exact sizeOf_lt_of_mem_members ‹_›

/-- What `f` tells apart of the parts, it tells apart of their list. -/
theorem map_eq_map_of_each {α β : Type} {f : Predicate → α} {g : Predicate → β}
    {ps qs : List Predicate} (each : ∀ p ∈ ps, ∀ q, f p = f q → g p = g q)
    (same : ps.map f = qs.map f) : ps.map g = qs.map g := by
  induction ps generalizing qs with
  | nil =>
    obtain rfl := List.map_eq_nil_iff.mp same.symm
    rfl
  | cons p ps ih =>
    obtain ⟨q, qs, rfl, first, rest⟩ := List.map_eq_cons_iff.mp same.symm
    rw [List.map_cons, List.map_cons, each p List.mem_cons_self q first.symm,
      ih (fun p member => each p (List.mem_cons_of_mem _ member)) rest.symm]

end Predicate

end SmartFolder
