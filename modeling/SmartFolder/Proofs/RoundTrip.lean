import Mathlib.Logic.Function.Iterate
import SmartFolder.Proofs.LoweringNotices
import SmartFolder.Proofs.Spelling

/-!
# Repeated round trips

A round trip lowers a group and reads the predicate back. The second one may still change a date
that is `greaterThan` yesterday, the third and all later ones change nothing, and from the second
on there is no notice but on what stays: malformed dates and unknown fields
(`Group.after?_converges`).
-/

namespace SmartFolder

namespace Group

/-- Lowers the group and reads the predicate back, with the notices of both. -/
def roundTrip (o : Lowering) (g : Group) : Report (Option Group) :=
  (g.lower o).andThen fun p => ⟨p.groupNotices, .ok p.group?⟩

/-- The group after a round trip that succeeds. -/
def next? (o : Lowering) (g : Group) : Option Group :=
  match (g.roundTrip o).result with
  | .ok g' => g'
  | .error _ => none

/-- The group after so many round trips, if all of them succeed. -/
def after? (o : Lowering) : Nat → Group → Option Group
  | 0, g => some g
  | n + 1, g => (g.next? o).bind (after? o n)

/-- A notice for each malformed date, where that is no failure, and then one for each clause about
an unknown field. -/
def steadyNotices (policy : MalformedPolicy) (g : Group) : List Notice :=
  (if policy = .fallback then
    (g.clauses.filter (·.Malformed)).map fun c => .malformedValue c.field c.value
  else []) ++
    (g.clauses.filter (!isKnownField ·.field)).map fun c => .unknownField c.field

end Group

/-! ### Canonical clauses -/

namespace FieldKind

theorem isValid_canonicalOperator (k : FieldKind) (op : Operator) :
    k.isValid (k.canonicalOperator op) = true := by
  cases k <;> cases op <;> decide

theorem suits_of_isValid {k : FieldKind} {op : Operator} (valid : k.isValid op = true) :
    (k.operator? op.relation).isSome = true := by
  revert valid
  cases k <;> cases op <;> decide

theorem isValid_greaterThan (k : FieldKind) : k.isValid .greaterThan = false := by
  cases k <;> decide

theorem canonicalOperator_eq_notEqualTo {k : FieldKind} {op : Operator}
    (same : k.canonicalOperator op = .notEqualTo) : op = .notEqualTo := by
  revert same
  cases k <;> cases op <;> decide

theorem canonicalOperator_date_eq_after_iff {op : Operator} :
    date.canonicalOperator op = .after ↔ op = .greaterThan ∨ op = .after := by
  cases op <;> decide

end FieldKind

namespace Clause

theorem field_canonical (c : Clause) : c.canonical.field = c.field := by
  unfold canonical
  cases spelling : c.respelled? with
  | none => rfl
  | some c' => exact (respelled?_eq_some spelling).1

theorem isValidOperator_canonical (c : Clause) :
    isValidOperator c.canonical.field c.canonical.operator = true := by
  unfold canonical isValidOperator
  cases spelling : c.respelled? with
  | none => exact FieldKind.isValid_canonicalOperator _ _
  | some c' =>
    obtain ⟨-, equal, -⟩ := respelled?_eq_some spelling
    have valid := FieldKind.isValid_canonicalOperator (fieldKind c'.field) .equalTo
    rw [FieldKind.canonicalOperator_equalTo] at valid
    rw [Option.getD_some, equal]
    exact valid

theorem canonical_ne_greaterThan (c : Clause) (field value : String) :
    c.canonical ≠ ⟨field, .greaterThan, value⟩ := by
  intro same
  have valid := isValidOperator_canonical c
  rw [same, isValidOperator, FieldKind.isValid_greaterThan] at valid
  cases valid

/-- The canonical form of a clause has a second spelling in one case only. -/
theorem respelled?_canonical_eq_none_iff {c : Clause} :
    c.canonical.respelled? = none ↔ c ≠ ⟨"Date", .greaterThan, "yesterday"⟩ := by
  cases spelling : c.respelled? with
  | some c' =>
    obtain ⟨-, equal, other⟩ := respelled?_eq_some spelling
    have same : c.canonical = c' := by rw [canonical, spelling, Option.getD_some]
    refine iff_of_true ?_ ?_
    · rw [same, respelled?_eq_none_iff, equal]
      simp
    · rintro rfl
      rcases other with other | other <;> cases other
  | none =>
    have same : c.canonical =
        { c with operator := (fieldKind c.field).canonicalOperator c.operator } := by
      rw [canonical, spelling, Option.getD_none]
    obtain ⟨notAfter, notBoolean⟩ := respelled?_eq_none_iff.mp spelling
    rw [same, respelled?_eq_none_iff]
    constructor
    · rintro ⟨notDate, -⟩ rfl
      exact notDate ⟨rfl, rfl, rfl⟩
    · intro other
      constructor
      · rintro ⟨field, after, value⟩
        simp only at field after value
        rw [field] at after
        rcases FieldKind.canonicalOperator_date_eq_after_iff.mp after with greater | after
        · exact other (by rw [← field, ← greater, ← value])
        · exact notAfter ⟨field, after, value⟩
      · rintro ⟨unequal, boolean⟩
        exact notBoolean ⟨FieldKind.canonicalOperator_eq_notEqualTo unequal, boolean⟩

theorem fails_canonical_iff {policy : MalformedPolicy} {c : Clause} {f : Failure} :
    c.canonical.Fails policy f ↔ c.Fails policy f := by
  have unreadable : RelativeDate.Fails c.canonical.value f ↔ RelativeDate.Fails c.value f := by
    rw [← RelativeDate.decode_eq_error_iff, ← RelativeDate.decode_eq_error_iff]
    unfold canonical
    cases spelling : c.respelled? with
    | none => rfl
    | some c' => simp [decode_of_respelled spelling]
  rw [Fails, Fails, field_canonical, unreadable]

theorem malformed_canonical_iff {c : Clause} : c.canonical.Malformed ↔ c.Malformed := by
  simp only [malformed_iff_fails, fails_canonical_iff]

theorem value_canonical_of_malformed {c : Clause} (malformed : c.Malformed) :
    c.canonical.value = c.value := by
  have plain : c.respelled? = none :=
    respelled?_eq_none_of_decode (by simp [(malformed_iff.mp malformed).2])
  rw [canonical, plain, Option.getD_none]

end Clause

/-! ### Canonical groups -/

namespace Filter

theorem clauses_canonical (f : Filter) : f.canonical.clauses = f.clauses.map Clause.canonical := by
  induction f with
  | clause c => rfl
  | group condition members ih =>
    rw [canonical, canonicalAll_eq_map, clauses, clauses, clausesOf_eq_flatMap,
      clausesOf_eq_flatMap, List.flatMap_map, List.map_flatMap]
    exact List.flatMap_congr ih

theorem conditions_canonical (f : Filter) :
    f.canonical.conditions = f.conditions.map Condition.canonical := by
  induction f with
  | clause c => rfl
  | group condition members ih =>
    rw [canonical, canonicalAll_eq_map, conditions, conditions, conditionsOf_eq_flatMap,
      conditionsOf_eq_flatMap, List.flatMap_map, List.map_cons, List.map_flatMap]
    exact congrArg _ (List.flatMap_congr ih)

end Filter

namespace Group

variable {policy : MalformedPolicy} {g : Group}

theorem clauses_canonical (g : Group) : g.canonical.clauses = g.clauses.map Clause.canonical :=
  Filter.clauses_canonical g.filter

theorem canonical_canonical_eq_iff :
    g.canonical.canonical = g.canonical ↔ ⟨"Date", .greaterThan, "yesterday"⟩ ∉ g.clauses := by
  have valid : .invalid ∉ g.canonical.filter.conditions := by
    have same : g.canonical.filter.conditions = _ := Filter.conditions_canonical g.filter
    rw [same, List.mem_map]
    rintro ⟨condition, -, invalid⟩
    cases condition <;> cases invalid
  rw [canonical_eq_self_iff, IsCanonical, and_iff_right valid, clauses_canonical]
  simp only [List.forall_mem_map, Clause.isValidOperator_canonical, true_and,
    Clause.respelled?_canonical_eq_none_iff]
  exact ⟨fun each member => each _ member rfl, fun absent c member same => absent (same ▸ member)⟩

theorem canonical_canonical_canonical (g : Group) :
    g.canonical.canonical.canonical = g.canonical.canonical := by
  rw [canonical_canonical_eq_iff, clauses_canonical, List.mem_map]
  rintro ⟨c, -, same⟩
  exact Clause.canonical_ne_greaterThan c _ _ same

theorem iterate_canonical (g : Group) (n : Nat) : canonical^[n + 2] g = canonical^[2] g := by
  induction n with
  | zero => rfl
  | succ n ih =>
    rw [Function.iterate_succ_apply', ih]
    exact canonical_canonical_canonical g

theorem lower_canonical_eq_ok {p : Predicate} (lowered : (g.lower { policy }).result = .ok p) :
    ∃ p', (g.canonical.lower { policy }).result = .ok p' := by
  have each := lower_eq_ok_iff.mp ⟨p, lowered⟩
  rw [lower_eq_ok_iff, clauses_canonical, List.forall_mem_map]
  exact fun c member f fails => each c member f (Clause.fails_canonical_iff.mp fails)

theorem lower_iterate_eq_ok {p : Predicate} (lowered : (g.lower { policy }).result = .ok p)
    (n : Nat) : ∃ p', ((canonical^[n] g).lower { policy }).result = .ok p' := by
  induction n with
  | zero => exact ⟨p, lowered⟩
  | succ n ih =>
    obtain ⟨p', again⟩ := ih
    rw [Function.iterate_succ_apply']
    exact lower_canonical_eq_ok again

theorem steadyNotices_canonical (policy : MalformedPolicy) (g : Group) :
    g.canonical.steadyNotices policy = g.steadyNotices policy := by
  unfold steadyNotices
  rw [clauses_canonical, List.filter_map, List.filter_map, List.map_map, List.map_map]
  congr 1
  · refine if_congr Iff.rfl ?_ rfl
    simp only [Function.comp_def, Clause.malformed_canonical_iff]
    refine List.map_congr_left fun c member => ?_
    have malformed : c.Malformed := by simpa using (List.mem_filter.mp member).2
    rw [Clause.field_canonical, Clause.value_canonical_of_malformed malformed]
  · simp only [Function.comp_def, Clause.field_canonical]

theorem steadyNotices_iterate (policy : MalformedPolicy) (g : Group) (n : Nat) :
    (canonical^[n] g).steadyNotices policy = g.steadyNotices policy := by
  induction n with
  | zero => rfl
  | succ n ih => rw [Function.iterate_succ_apply', steadyNotices_canonical, ih]

end Group

/-! ### Notices on reading back -/

theorem Condition.notices_join (condition : Condition) (ps : List Predicate) :
    (condition.join ps).notices = Predicate.noticesOf (condition.join ps) ps := by
  cases condition <;> exact Predicate.notices_compound _ _

theorem Predicate.noticesIn_of_filter? {p : Predicate} {f : Filter} (read : p.filter? = some f)
    (whole : Predicate) : noticesIn whole p = p.notices := by
  cases p with
  | comparison c => rfl
  | compound k parts => rfl
  | constant value => cases read

/-- Nothing in a lowered filter is left out, so the notices are those on its comparisons. -/
theorem Filter.notices_of_lower {policy : MalformedPolicy} {f : Filter} {p : Predicate}
    (lowered : (f.lower { policy }).result = .ok p) :
    p.notices = p.comparisons.flatMap Comparison.notices := by
  induction f generalizing p with
  | clause c =>
    obtain ⟨r, rfl⟩ := Clause.exists_comparison_of_lower lowered
    rw [Clause.comparisons_predicate, List.flatMap_singleton, Clause.predicate]
    split <;> simp [Predicate.not, Predicate.notices, Predicate.noticesOf]
  | group condition members ih =>
    obtain ⟨ps, all, rfl⟩ := lower_group_eq_ok_iff.mp lowered
    rw [Condition.notices_join, Predicate.noticesOf_eq_flatMap, Condition.comparisons_join,
      Predicate.comparisonsOf_eq_flatMap, List.flatMap_assoc]
    refine List.flatMap_congr fun p member => ?_
    obtain ⟨f, listed, found⟩ := exists_of_mem_lowerAll all member
    rw [Predicate.noticesIn_of_filter? (filter?_of_lower found), ih f listed found]

namespace Clause

variable {policy : MalformedPolicy} {c : Clause} {r : Comparison}

theorem left_of_lower (lowered : (c.lower { policy }).result = .ok (c.predicate r)) :
    r.left = .constant c.field := by
  obtain ⟨d, date, same⟩ := lower_eq_ok_iff.mp lowered
  rw [predicate_inj] at same
  subst same
  cases spelling : c.respelled? with
  | none =>
    rw [comparison_of_respelled_none spelling]
    rfl
  | some c' =>
    obtain rfl := undated_of_respelled spelling date
    rw [comparison_none, spelling, ← (respelled?_eq_some spelling).1]
    rfl

/-- A clause with an operator that suits its field is lowered to a comparison that does. -/
theorem notices_of_lower (valid : isValidOperator c.field c.operator = true)
    (lowered : (c.lower { policy }).result = .ok (c.predicate r)) :
    r.notices = if (!isKnownField c.field) = true then [.unknownField c.field] else [] := by
  have field : r.field = c.field := by rw [Comparison.field, left_of_lower lowered]; rfl
  have suits : r.operator?.isSome = true := by
    rw [Comparison.operator?, field]
    rcases comparison_cases lowered with ⟨-, equal⟩ | ⟨-, -, relation, -⟩
    · rw [equal, FieldKind.operator?_equal]
      rfl
    · rw [relation]
      exact FieldKind.suits_of_isValid valid
  rw [Comparison.notices, field, suits]
  cases isKnownField c.field <;> rfl

end Clause

namespace Group

variable {policy : MalformedPolicy} {g : Group} {p : Predicate}

theorem groupNotices_of_lower (lowered : (g.lower { policy }).result = .ok p)
    (valid : ∀ c ∈ g.clauses, isValidOperator c.field c.operator = true) :
    p.groupNotices =
      (g.clauses.filter (!isKnownField ·.field)).map fun c => .unknownField c.field := by
  have each := (List.forall₂_and_left g.clauses p.comparisons).mpr
    ⟨valid, Filter.comparisons_of_lower lowered⟩
  have same : List.Forall₂ Eq (p.comparisons.flatMap Comparison.notices) (g.clauses.flatMap fun c =>
      if (!isKnownField c.field) = true then [.unknownField c.field] else []) := by
    refine List.rel_flatMap each.flip ?_
    rintro r c ⟨valid, lowered⟩
    rw [Clause.notices_of_lower valid lowered, List.forall₂_eq_eq_eq]
  rw [List.forall₂_eq_eq_eq] at same
  rw [Predicate.groupNotices, group?_of_lower lowered, Option.isSome_some, if_pos rfl,
    Filter.notices_of_lower lowered, same, flatMap_if]
  simp

theorem next?_of_lower (lowered : (g.lower { policy }).result = .ok p) :
    g.next? { policy } = some g.canonical := by
  have read : (g.roundTrip { policy }).result = .ok p.group? :=
    Report.result_andThen_of_ok lowered _
  rw [next?, read, group?_of_lower lowered]

theorem after?_of_lower (lowered : (g.lower { policy }).result = .ok p) (n : Nat) :
    g.after? { policy } n = some (canonical^[n] g) := by
  -- Each trip starts from another group, of which nothing is known but that it can be lowered.
  induction n generalizing g p with
  | zero => rfl
  | succ n ih =>
    obtain ⟨p', again⟩ := lower_canonical_eq_ok lowered
    rw [after?, next?_of_lower lowered, Option.bind_some, ih again, Function.iterate_succ_apply]

theorem notices_roundTrip (lowered : (g.lower { policy }).result = .ok p)
    (valid : ∀ c ∈ g.clauses, isValidOperator c.field c.operator = true) :
    (g.roundTrip { policy }).notices = g.steadyNotices policy := by
  rw [roundTrip, Report.notices_andThen lowered, notices_lower_of_ok_malformed lowered,
    groupNotices_of_lower lowered valid]
  rfl

/-- Every further round trip of a group that can be lowered succeeds, and none after the second
changes the group. The second does only where a date is `greaterThan` yesterday. From the second on,
the notices are those on malformed dates and unknown fields. -/
theorem after?_converges (policy : MalformedPolicy) (g : Group) (p : Predicate)
    (lowered : (g.lower { policy }).result = .ok p) :
    (∀ n, ∃ g', g.after? { policy } n = some g' ∧ ∃ p', (g'.lower { policy }).result = .ok p') ∧
    (∀ n, g.after? { policy } (n + 2) = g.after? { policy } 2) ∧
    (g.after? { policy } 2 = g.after? { policy } 1 ↔
      ⟨"Date", .greaterThan, "yesterday"⟩ ∉ g.clauses) ∧
    ∀ n g', g.after? { policy } (n + 1) = some g' →
      (g'.roundTrip { policy }).notices = g'.steadyNotices policy ∧
        g'.steadyNotices policy = g.steadyNotices policy := by
  have after := after?_of_lower lowered
  refine ⟨fun n => ⟨canonical^[n] g, after n, lower_iterate_eq_ok lowered n⟩, ?_, ?_, ?_⟩
  · intro n
    rw [after, after, iterate_canonical]
  · rw [after, after, Option.some.injEq]
    exact canonical_canonical_eq_iff
  · intro n g' reached
    rw [after, Option.some.injEq] at reached
    obtain ⟨p', again⟩ := lower_iterate_eq_ok lowered (n + 1)
    have valid : ∀ c ∈ (canonical^[n + 1] g).clauses,
        isValidOperator c.field c.operator = true := by
      rw [Function.iterate_succ_apply', clauses_canonical, List.forall_mem_map]
      exact fun c _ => Clause.isValidOperator_canonical c
    rw [reached] at again valid
    refine ⟨notices_roundTrip again valid, ?_⟩
    rw [← reached, steadyNotices_iterate]

/-- A date that changes twice, a malformed one and an unknown field. -/
def unsettled : Group where
  condition := .none
  members := [
    .clause ⟨"Date", .greaterThan, "yesterday"⟩,
    .group .invalid [.clause ⟨"Size", .notUnder, "10"⟩, .clause ⟨"Date", .lessThan, "x days"⟩]]

def unsettledPredicate : Predicate :=
  .not (.compound .or [
    .comparison (.ofConstants "Date" .greater "yesterday"),
    .compound .and [
      .comparison (.ofConstants "Size" .greaterOrEqual "10"),
      .comparison (.ofConstants "Date" .less "x days")]])

example : unsettled.steadyNotices .fallback =
    [.malformedValue "Date" "x days", .unknownField "Size"] := by decide

theorem after?_converges_unsettled :
    (unsettled.lower { policy := .fallback }).result = .ok unsettledPredicate ∧
    (∀ n, ∃ g', unsettled.after? { policy := .fallback } n = some g' ∧
      ∃ p', (g'.lower { policy := .fallback }).result = .ok p') ∧
    (∀ n, unsettled.after? { policy := .fallback } (n + 2) =
      unsettled.after? { policy := .fallback } 2) ∧
    (unsettled.after? { policy := .fallback } 2 = unsettled.after? { policy := .fallback } 1 ↔
      ⟨"Date", .greaterThan, "yesterday"⟩ ∉ unsettled.clauses) ∧
    ∀ n g', unsettled.after? { policy := .fallback } (n + 1) = some g' →
      (g'.roundTrip { policy := .fallback }).notices = g'.steadyNotices .fallback ∧
        g'.steadyNotices .fallback = unsettled.steadyNotices .fallback :=
  ⟨rfl, after?_converges .fallback unsettled unsettledPredicate rfl⟩

end Group

end SmartFolder
