import Mathlib.Data.Set.Card
import SmartFolder.Document.Filter
import SmartFolder.Proofs.Judgement

/-!
# Which documents are filters

What a document describes and which faults it has are said by relations of their own, without the
check. The check of a group agrees with both: it accepts exactly the documents that describe one, and
of all others it lists each faulty place once, however deep, in the order in which the parts are
declared (`Group.check_verdict`).
-/

namespace SmartFolder

open Checked

/-! ### Descriptions -/

namespace Members

/-- The object describes the clause: its field and what is said of operator and value. -/
structure DescribesClause (ms : Members) (c : Clause) : Prop where
  kind : ms.Gives "kind" (fun _ : Unit => .text "criteria") () ()
  field : ms.lookup "field" = some (.text c.field)
  operator : ms.Gives "operator_type" (fun op : Operator => .text op.name) .equalTo c.operator
  value : ms.Gives "value" .text "" c.value

end Members

namespace Filter

mutual

/-- The document is tagged and describes the filter. Members of other names do not matter. -/
inductive Describes : Json → Filter → Prop where
  | clause {ms : Members} {c : Clause} (tag : ms.lookup "kind" = some (.text "criteria"))
      (describes : ms.DescribesClause c) : Describes (.object ms) (.clause c)
  | group {ms : Members} {k : Condition} {fs : List Filter}
      (tag : ms.lookup "kind" = some (.text "tree"))
      (condition : ms.Gives "condition" (fun k : Condition => .text k.name) .all k)
      (members : DescribesMembers ms fs) : Describes (.object ms) (.group k fs)

/-- The member `criteria_tree` lists a document for each filter, in order; without it there are
none. -/
inductive DescribesMembers : Members → List Filter → Prop where
  | absent {ms : Members} (absent : ms.lookup "criteria_tree" = none) : DescribesMembers ms []
  | listed {ms : Members} {vs : List Json} {fs : List Filter}
      (present : ms.lookup "criteria_tree" = some (.array vs))
      (each : List.Forall₂ Describes vs fs) : DescribesMembers ms fs

end

end Filter

/-- The document describes the group. It may be tagged as one, or not be tagged. -/
inductive Group.Describes : Json → Group → Prop where
  | object {ms : Members} {g : Group} (kind : ms.Gives "kind" (fun _ : Unit => .text "tree") () ())
      (condition : ms.Gives "condition" (fun k : Condition => .text k.name) .all g.condition)
      (members : Filter.DescribesMembers ms g.members) : Describes (.object ms) g

/-! ### Faults -/

namespace Members

inductive ClauseFault (ms : Members) : Fault → Prop where
  | kind (garbled : ms.Garbles "kind" (fun _ : Unit => .text "criteria")) :
      ClauseFault ms ⟨[.key "kind"], .notLiteral ["criteria"]⟩
  | noField (absent : ms.lookup "field" = none) : ClauseFault ms ⟨[.key "field"], .missing⟩
  | field (garbled : ms.Garbles "field" .text) : ClauseFault ms ⟨[.key "field"], .notText⟩
  | operator (garbled : ms.Garbles "operator_type" (fun op : Operator => .text op.name)) :
      ClauseFault ms ⟨[.key "operator_type"], .notNamed (Vocabulary.names Operator)⟩
  | value (garbled : ms.Garbles "value" .text) : ClauseFault ms ⟨[.key "value"], .notText⟩

end Members

namespace Filter

mutual

/-- A fault of a document that should describe a filter. A tag that is none leaves what the document
would describe unknown, so that is its only fault. -/
inductive HasFault (origin : Origin) : Json → Fault → Prop where
  | notObject {v : Json} (other : ∀ ms, v ≠ .object ms) : HasFault origin v ⟨[], .notElement origin⟩
  | untagged {ms : Members} (absent : ms.lookup "kind" = none) :
      HasFault origin (.object ms) ⟨[], .untagged⟩
  | wrongTag {ms : Members} {tag : Json} (present : ms.lookup "kind" = some tag)
      (unknown : ∀ s ∈ tags, tag ≠ .text s) :
      HasFault origin (.object ms) ⟨[], .wrongTag tag.plain tags⟩
  | clause {ms : Members} {f : Fault} (tag : ms.lookup "kind" = some (.text "criteria"))
      (fault : ms.ClauseFault f) : HasFault origin (.object ms) (f.below (.key "criteria"))
  | condition {ms : Members} (tag : ms.lookup "kind" = some (.text "tree"))
      (garbled : ms.Garbles "condition" (fun k : Condition => .text k.name)) :
      HasFault origin (.object ms)
        ⟨[.key "tree", .key "condition"], .notNamed (Vocabulary.names Condition)⟩
  | members {ms : Members} {f : Fault} (tag : ms.lookup "kind" = some (.text "tree"))
      (fault : MembersFault origin ms f) : HasFault origin (.object ms) (f.below (.key "tree"))

/-- A fault of the member `criteria_tree`: it is no list, or an item has a fault. -/
inductive MembersFault (origin : Origin) : Members → Fault → Prop where
  | notList {ms : Members} {v : Json} (present : ms.lookup "criteria_tree" = some v)
      (other : ∀ vs, v ≠ .array vs) :
      MembersFault origin ms ⟨[.key "criteria_tree"], .notList origin⟩
  | item {ms : Members} {vs : List Json} {i : Nat} {v : Json} {f : Fault}
      (present : ms.lookup "criteria_tree" = some (.array vs)) (item : vs[i]? = some v)
      (fault : HasFault origin v f) :
      MembersFault origin ms ((f.below (.index i)).below (.key "criteria_tree"))

end

end Filter

/-- A fault of a document that should describe a group. -/
inductive Group.HasFault (origin : Origin) : Json → Fault → Prop where
  | notObject {v : Json} (other : ∀ ms, v ≠ .object ms) :
      HasFault origin v ⟨[], .notModel origin model⟩
  | kind {ms : Members} (garbled : ms.Garbles "kind" (fun _ : Unit => .text "tree")) :
      HasFault origin (.object ms) ⟨[.key "kind"], .notLiteral ["tree"]⟩
  | condition {ms : Members}
      (garbled : ms.Garbles "condition" (fun k : Condition => .text k.name)) :
      HasFault origin (.object ms) ⟨[.key "condition"], .notNamed (Vocabulary.names Condition)⟩
  | members {ms : Members} {f : Fault} (fault : Filter.MembersFault origin ms f) :
      HasFault origin (.object ms) f

/-! ### Clauses and groups -/

namespace Members

theorem judges_clause (ms : Members) : ms.clause.Judges ms.DescribesClause ms.ClauseFault := by
  have kind := ((Json.reads_checkLiteral "criteria").judges_optional ms "kind" ()).map
    fun _ field operator value => Clause.mk field operator value
  have field := kind.apply (Json.reads_checkText.judges_required ms "field") (by
    rintro x y ⟨-, rfl⟩ (⟨-, rfl⟩ | ⟨-, rfl⟩) <;> exact Fault.before_of_steps rfl rfl (by decide))
  have operator := field.apply
    (Json.reads_checkNamed.judges_optional ms "operator_type" Operator.equalTo) (by
    rintro x y (⟨-, rfl⟩ | ⟨-, rfl⟩ | ⟨-, rfl⟩) ⟨-, rfl⟩ <;>
      exact Fault.before_of_steps rfl rfl (by decide))
  have value := operator.apply (Json.reads_checkText.judges_optional ms "value" "") (by
    rintro x y ((⟨-, rfl⟩ | ⟨-, rfl⟩ | ⟨-, rfl⟩) | ⟨-, rfl⟩) ⟨-, rfl⟩ <;>
      exact Fault.before_of_steps rfl rfl (by decide))
  rw [← make_apply] at value
  refine value.congr (fun c => ⟨?_, ?_⟩) fun f => ⟨?_, ?_⟩
  · rintro ⟨_, v, ⟨_, op, ⟨_, field, ⟨_, kind, rfl⟩, isField, rfl⟩, isOperator, rfl⟩, isValue, rfl⟩
    exact ⟨kind, isField, isOperator, isValue⟩
  · rintro ⟨kind, isField, isOperator, isValue⟩
    exact ⟨_, _, ⟨_, _, ⟨_, _, ⟨_, kind, rfl⟩, isField, rfl⟩, isOperator, rfl⟩, isValue, rfl⟩
  · rintro (((⟨garbled, rfl⟩ | ⟨absent, rfl⟩ | ⟨garbled, rfl⟩) | ⟨garbled, rfl⟩) | ⟨garbled, rfl⟩)
    · exact .kind garbled
    · exact .noField absent
    · exact .field garbled
    · exact .operator garbled
    · exact .value garbled
  · rintro (garbled | absent | garbled | garbled | garbled)
    · exact .inl (.inl (.inl ⟨garbled, rfl⟩))
    · exact .inl (.inl (.inr (.inl ⟨absent, rfl⟩)))
    · exact .inl (.inl (.inr (.inr ⟨garbled, rfl⟩)))
    · exact .inl (.inr ⟨garbled, rfl⟩)
    · exact .inr ⟨garbled, rfl⟩

/-- The check of a group, given what the check of its members decides. -/
theorem judges_group (ms : Members) {c : Checked (List Filter)} {stands : List Filter → Prop}
    {faulty : Fault → Prop} (members : c.Judges stands faulty)
    (placed : ∀ f, faulty f → ∃ path, f.path = .key "criteria_tree" :: path) :
    (ms.group c).Judges
      (fun g => ms.Gives "kind" (fun _ : Unit => .text "tree") () () ∧
        ms.Gives "condition" (fun k : Condition => .text k.name) .all g.condition ∧
        stands g.members)
      fun f => (ms.Garbles "kind" (fun _ : Unit => .text "tree") ∧
          ⟨[.key "kind"], .notLiteral ["tree"]⟩ = f) ∨
        (ms.Garbles "condition" (fun k : Condition => .text k.name) ∧
          ⟨[.key "condition"], .notNamed (Vocabulary.names Condition)⟩ = f) ∨ faulty f := by
  have kind := ((Json.reads_checkLiteral "tree").judges_optional ms "kind" ()).map
    fun _ condition members => Group.mk condition members
  have condition := kind.apply
    (Json.reads_checkNamed.judges_optional ms "condition" Condition.all) (by
    rintro x y ⟨-, rfl⟩ ⟨-, rfl⟩
    exact Fault.before_of_steps rfl rfl (by decide))
  have group := condition.apply members (by
    rintro x y (⟨-, rfl⟩ | ⟨-, rfl⟩) inside <;> obtain ⟨path, place⟩ := placed y inside <;>
      exact Fault.before_of_steps rfl place (by decide))
  rw [← make_apply] at group
  refine group.congr (fun g => ⟨?_, ?_⟩) fun f => or_assoc
  · rintro ⟨_, members, ⟨_, k, ⟨_, kind, rfl⟩, isCondition, rfl⟩, areMembers, rfl⟩
    exact ⟨kind, isCondition, areMembers⟩
  · rintro ⟨kind, isCondition, areMembers⟩
    exact ⟨_, _, ⟨_, _, ⟨_, kind, rfl⟩, isCondition, rfl⟩, areMembers, rfl⟩

end Members

/-! ### Members -/

namespace Filter

variable {origin : Origin}

theorem checkMembers_eq_optional (origin : Origin) (ms : Members) :
    checkMembers origin ms = ms.optional "criteria_tree" [] (checkList origin) := by
  induction ms with
  | nil => rfl
  | cons m ms ih =>
    obtain ⟨key, v⟩ := m
    rw [checkMembers, ih, Members.optional, Members.optional, List.lookup_cons]
    by_cases same : key = "criteria_tree"
    · simp [same]
    · simp [same, beq_eq_false_iff_ne.mpr (Ne.symm same)]

/-- The items of the member `criteria_tree`, if it is a list. -/
def items (ms : Members) : List Json :=
  match ms.lookup "criteria_tree" with
  | some (.array vs) => vs
  | _ => []

theorem sizeOf_lt_of_mem_items {ms : Members} {v : Json} (item : v ∈ items ms) :
    sizeOf v < sizeOf (Json.object ms) := by
  unfold items at item
  split at item
  · rename_i vs found
    obtain ⟨before, after, rfl, -⟩ := List.lookup_eq_some_iff.mp found
    have inner := List.sizeOf_lt_of_mem item
    have member := List.mem_append_right before
      (List.mem_cons_self : ("criteria_tree", Json.array vs) ∈ _ :: after)
    have outer := List.sizeOf_lt_of_mem member
    simp only [Json.object.sizeOf_spec, Json.array.sizeOf_spec, Prod.mk.sizeOf_spec] at *
    omega
  · cases item

/-- What holds of an object if it holds of the items of its member `criteria_tree`, and of
everything else, holds of every value. -/
@[elab_as_elim]
theorem document_induction {motive : Json → Prop}
    (object : ∀ ms, (∀ v ∈ items ms, motive v) → motive (.object ms))
    (other : ∀ v, (∀ ms, v ≠ .object ms) → motive v) (v : Json) : motive v :=
  match v with
  | .object ms => object ms fun v _ => document_induction object other v
  | .null | .bool _ | .int _ | .decimal _ | .text _ | .array _ => other _ nofun
termination_by sizeOf v
decreasing_by exact sizeOf_lt_of_mem_items ‹_›

theorem judges_checkItems {vs : List Json}
    (each : ∀ v ∈ vs, (check origin v).Judges (Describes v) (HasFault origin v)) (i : Nat) :
    (checkItems origin i vs).Judges (List.Forall₂ Describes vs)
      fun f => ∃ j v g, vs[j]? = some v ∧ HasFault origin v g ∧ g.below (.index (i + j)) = f := by
  induction vs generalizing i with
  | nil =>
    rw [checkItems]
    exact (judges_ok []).congr (fun fs => by simp [eq_comm]) fun f => by simp
  | cons v vs ih =>
    have first := ((each v List.mem_cons_self).below (.index i)).map List.cons
    have others := ih (fun w member => each w (List.mem_cons_of_mem v member)) (i + 1)
    have row := first.apply others (by
      rintro x y ⟨f, -, rfl⟩ ⟨j, w, g, -, -, rfl⟩
      exact Fault.before_of_steps rfl rfl (show i < i + 1 + j by omega))
    rw [← make_apply] at row
    rw [checkItems]
    refine row.congr (fun fs => ⟨?_, ?_⟩) fun f => ⟨?_, ?_⟩
    · rintro ⟨_, fs, ⟨f, describes, rfl⟩, others, rfl⟩
      exact .cons describes others
    · rintro (_ | ⟨describes, others⟩)
      exact ⟨_, _, ⟨_, describes, rfl⟩, others, rfl⟩
    · rintro (⟨g, fault, rfl⟩ | ⟨j, w, g, found, fault, rfl⟩)
      · exact ⟨0, v, g, rfl, fault, rfl⟩
      · exact ⟨j + 1, w, g, found, fault, by rw [Nat.add_right_comm, Nat.add_assoc]⟩
    · rintro ⟨j, w, g, found, fault, rfl⟩
      cases j with
      | zero =>
        obtain rfl : v = w := Option.some.inj found
        exact .inl ⟨g, fault, rfl⟩
      | succ j => exact .inr ⟨j, w, g, found, fault, by rw [Nat.add_right_comm, Nat.add_assoc]⟩

theorem judges_checkList {v : Json}
    (each : ∀ vs, v = .array vs →
      ∀ w ∈ vs, (check origin w).Judges (Describes w) (HasFault origin w)) :
    (checkList origin v).Judges (fun fs => ∃ vs, v = .array vs ∧ List.Forall₂ Describes vs fs)
      fun f => ((∀ vs, v ≠ .array vs) ∧ ⟨[], .notList origin⟩ = f) ∨
        ∃ vs i w g, v = .array vs ∧ vs[i]? = some w ∧ HasFault origin w g ∧
          g.below (.index i) = f := by
  by_cases list : ∃ vs, v = .array vs
  · obtain ⟨vs, rfl⟩ := list
    rw [checkList]
    exact (judges_checkItems (each vs rfl) 0).congr (by simp) (by simp)
  · have other : ∀ vs, v ≠ .array vs := not_exists.mp list
    have checked : checkList origin v = .fault (.notList origin) := by
      cases v with
      | array vs => exact absurd rfl (other vs)
      | _ => rfl
    rw [checked]
    exact (judges_fault _).congr (by simp [other]) (by simp [other])

theorem judges_checkMembers {ms : Members}
    (each : ∀ v ∈ items ms, (check origin v).Judges (Describes v) (HasFault origin v)) :
    (checkMembers origin ms).Judges (DescribesMembers ms) (MembersFault origin ms) := by
  have list (v : Json) (found : ms.lookup "criteria_tree" = some v) :
      (checkList origin v).Judges _ _ :=
    judges_checkList fun vs same w member => each w (by
      rw [items, found, same]
      exact member)
  rw [checkMembers_eq_optional]
  refine (judges_optional list).congr (fun fs => ⟨?_, ?_⟩) fun f => ⟨?_, ?_⟩
  · rintro (⟨v, found, vs, rfl, each⟩ | ⟨absent, rfl⟩)
    · exact .listed found each
    · exact .absent absent
  · rintro (absent | ⟨found, each⟩)
    · exact .inr ⟨absent, rfl⟩
    · exact .inl ⟨_, found, _, rfl, each⟩
  · rintro ⟨v, found, g, ⟨other, rfl⟩ | ⟨vs, i, w, g, rfl, item, fault, rfl⟩, rfl⟩
    · exact .notList found other
    · exact .item found item fault
  · rintro (⟨found, other⟩ | ⟨found, item, fault⟩)
    · exact ⟨_, found, _, .inl ⟨other, rfl⟩, rfl⟩
    · exact ⟨_, found, _, .inr ⟨_, _, _, _, rfl, item, fault, rfl⟩, rfl⟩

theorem path_of_membersFault {ms : Members} {f : Fault} (fault : MembersFault origin ms f) :
    ∃ path, f.path = .key "criteria_tree" :: path := by
  cases fault <;> exact ⟨_, rfl⟩

/-! ### Filters -/

theorem describes_object_iff {ms : Members} {f : Filter} :
    Describes (.object ms) f ↔
      (ms.lookup "kind" = some (.text "criteria") ∧ ∃ c, ms.DescribesClause c ∧ .clause c = f) ∨
      (ms.lookup "kind" = some (.text "tree") ∧ ∃ g : Group,
        (ms.Gives "condition" (fun k : Condition => .text k.name) .all g.condition ∧
          DescribesMembers ms g.members) ∧ g.filter = f) := by
  constructor
  · rintro (⟨tag, describes⟩ | ⟨tag, condition, members⟩)
    · exact .inl ⟨tag, _, describes, rfl⟩
    · exact .inr ⟨tag, ⟨_, _⟩, ⟨condition, members⟩, rfl⟩
  · rintro (⟨tag, c, describes, rfl⟩ | ⟨tag, g, ⟨condition, members⟩, rfl⟩)
    · exact .clause tag describes
    · exact .group tag condition members

theorem hasFault_object_iff {ms : Members} {f : Fault} :
    HasFault origin (.object ms) f ↔
      (ms.lookup "kind" = none ∧ ⟨[], .untagged⟩ = f) ∨
      (∃ tag, ms.lookup "kind" = some tag ∧ (∀ s ∈ tags, tag ≠ .text s) ∧
        ⟨[], .wrongTag tag.plain tags⟩ = f) ∨
      (ms.lookup "kind" = some (.text "criteria") ∧
        ∃ g, ms.ClauseFault g ∧ g.below (.key "criteria") = f) ∨
      (ms.lookup "kind" = some (.text "tree") ∧
        ∃ g, (ms.Garbles "condition" (fun k : Condition => .text k.name) ∧
          ⟨[.key "condition"], .notNamed (Vocabulary.names Condition)⟩ = g ∨
            MembersFault origin ms g) ∧ g.below (.key "tree") = f) := by
  constructor
  · intro fault
    cases fault with
    | notObject other => exact absurd rfl (other ms)
    | untagged absent => exact .inl ⟨absent, rfl⟩
    | wrongTag present unknown => exact .inr (.inl ⟨_, present, unknown, rfl⟩)
    | clause tag fault => exact .inr (.inr (.inl ⟨tag, _, fault, rfl⟩))
    | condition tag garbled => exact .inr (.inr (.inr ⟨tag, _, .inl ⟨garbled, rfl⟩, rfl⟩))
    | members tag fault => exact .inr (.inr (.inr ⟨tag, _, .inr fault, rfl⟩))
  · rintro (⟨absent, rfl⟩ | ⟨tag, present, unknown, rfl⟩ | ⟨tag, g, fault, rfl⟩ |
      ⟨tag, g, ⟨garbled, rfl⟩ | fault, rfl⟩)
    · exact .untagged absent
    · exact .wrongTag present unknown
    · exact .clause tag fault
    · exact .condition tag garbled
    · exact .members tag fault

theorem judges_check_object {ms : Members}
    (each : ∀ v ∈ items ms, (check origin v).Judges (Describes v) (HasFault origin v)) :
    (check origin (.object ms)).Judges (Describes (.object ms)) (HasFault origin (.object ms)) := by
  rw [check]
  cases tag : ms.lookup "kind" with
  | none =>
    exact (judges_fault .untagged).congr (by simp [describes_object_iff, tag])
      (by simp [hasFault_object_iff, tag])
  | some v =>
    dsimp only
    rw [ofTag]
    split
    · subst v
      exact ((ms.judges_clause.map Filter.clause).below (.key "criteria")).congr
        (by simp [describes_object_iff, tag]) (by simp [hasFault_object_iff, tag, tags])
    split
    · subst v
      have group := Members.judges_group ms (judges_checkMembers each) fun f => path_of_membersFault
      exact ((group.map Group.filter).below (.key "tree")).congr
        (by simp [describes_object_iff, tag, Members.Gives])
        (by simp [hasFault_object_iff, tag, tags, Members.Garbles])
    · rename_i notClause notGroup
      exact (judges_fault _).congr (by simp [describes_object_iff, tag, notClause, notGroup])
        (by simp [hasFault_object_iff, tag, notClause, notGroup, tags])

theorem judges_check (origin : Origin) (v : Json) :
    (check origin v).Judges (Describes v) (HasFault origin v) := by
  induction v using document_induction with
  | object ms each => exact judges_check_object each
  | other v other =>
    have checked : check origin v = .fault (.notElement origin) := by
      cases v with
      | object ms => exact absurd rfl (other ms)
      | _ => rfl
    rw [checked]
    refine (judges_fault _).congr (fun f => iff_of_false id ?_) fun f => ⟨?_, ?_⟩
    · intro describes
      cases describes <;> exact other _ rfl
    · rintro rfl
      exact .notObject other
    · intro fault
      cases fault with
      | notObject => rfl
      | _ => exact absurd rfl (other _)

end Filter

/-! ### Groups -/

namespace Group

theorem judges_check (origin : Origin) (d : Json) :
    (check origin d).Judges (Describes d) (HasFault origin d) := by
  rw [check]
  by_cases object : ∃ ms, d = .object ms
  · obtain ⟨ms, rfl⟩ := object
    have members : (Filter.checkMembers origin ms).Judges _ _ :=
      Filter.judges_checkMembers fun v _ => Filter.judges_check origin v
    refine (Members.judges_group ms members fun f => Filter.path_of_membersFault).congr
      (fun g => ⟨?_, ?_⟩) fun f => ⟨?_, ?_⟩
    · rintro ⟨kind, condition, members⟩
      exact .object kind condition members
    · rintro ⟨kind, condition, members⟩
      exact ⟨kind, condition, members⟩
    · rintro (⟨garbled, rfl⟩ | ⟨garbled, rfl⟩ | fault)
      · exact .kind garbled
      · exact .condition garbled
      · exact .members fault
    · intro fault
      cases fault with
      | notObject other => exact absurd rfl (other ms)
      | kind garbled => exact .inl ⟨garbled, rfl⟩
      | condition garbled => exact .inr (.inl ⟨garbled, rfl⟩)
      | members fault => exact .inr (.inr fault)
  · have other : ∀ ms, d ≠ .object ms := not_exists.mp object
    have checked : Json.checkModel origin model
        (fun ms => ms.group (Filter.checkMembers origin ms)) d =
          .fault (.notModel origin model) := by
      cases d with
      | object ms => exact absurd rfl (other ms)
      | _ => rfl
    rw [checked]
    refine (judges_fault _).congr (fun g => iff_of_false id ?_) fun f => ⟨?_, ?_⟩
    · intro describes
      cases describes
      exact other _ rfl
    · rintro rfl
      exact .notObject other
    · intro fault
      cases fault with
      | notObject => rfl
      | _ => exact absurd rfl (other _)

/-- A document is accepted exactly as the groups it describes, and exactly if it has no fault. The
list of faults holds every fault of the whole document, one for each faulty place, in the order in
which the parts are declared. -/
theorem check_verdict (origin : Origin) (d : Json) :
    (∀ g, check origin d = .ok g ↔ Describes d g) ∧
    ((∃ g, Describes d g) ↔ ∀ f, ¬ HasFault origin d f) ∧
    (∀ f, f ∈ (check origin d).faults ↔ HasFault origin d f) ∧
    (check origin d).faults.Pairwise Fault.Before ∧
    (check origin d).faults.length = {place | ∃ cause, HasFault origin d ⟨place, cause⟩}.ncard := by
  have judges := judges_check origin d
  refine ⟨judges.ok_iff, ?_, judges.mem_faults_iff, judges.ordered, ?_⟩
  · simp only [← judges.ok_iff]
    exact judges.exists_ok_iff
  · have places : {place | ∃ cause, HasFault origin d ⟨place, cause⟩} =
        ((check origin d).faults.map Fault.path).toFinset := by
      ext place
      simp only [← judges.mem_faults_iff, Set.mem_ofPred_eq, List.coe_toFinset, List.mem_map]
      exact ⟨fun ⟨cause, fault⟩ => ⟨_, fault, rfl⟩, fun ⟨f, fault, same⟩ => ⟨f.cause, same ▸ fault⟩⟩
    rw [places, Set.ncard_coe_finset, List.toFinset_card_of_nodup judges.nodup_paths,
      List.length_map]

example : (check .text (.object [("condition", .text "most"), ("criteria_tree", .array [
    .object [("kind", .text "criteria"), ("value", .int 5)], .object [("field", .text "Read")],
    .object [("kind", .text "tree"), ("criteria_tree", .null), ("note", .null)]])])).faults =
    [⟨[.key "condition"], .notNamed ["all", "any", "none", "invalid"]⟩,
      ⟨[.key "criteria_tree", .index 0, .key "criteria", .key "field"], .missing⟩,
      ⟨[.key "criteria_tree", .index 0, .key "criteria", .key "value"], .notText⟩,
      ⟨[.key "criteria_tree", .index 1], .untagged⟩,
      ⟨[.key "criteria_tree", .index 2, .key "tree", .key "criteria_tree"], .notList .text⟩] := by
  decide

end Group

end SmartFolder
