import SmartFolder.Proofs.DisplayPieces
import SmartFolder.Proofs.Induction

/-!
# What the text of a predicate says

Two predicates over constants have the same text exactly if they are shown alike: their dates leave
no trace, a disjunction of one part is written as the conjunction of it, and a negation of several
parts as the negation of their conjunction (`display_eq_display_iff`).
-/

namespace SmartFolder

open Piece

def Operand.isConstant : Operand → Bool
  | .constant _ => true
  | .keyPath _ => false

def Comparison.undated (c : Comparison) : Comparison := { c with date := none }

namespace Predicate

/-- What a negation of these parts negates: several parts stand for their conjunction. -/
def negands : List Predicate → List Predicate
  | p :: q :: ps => [.compound .and (p :: q :: ps)]
  | ps => ps

def shownCompound : Connective → List Predicate → Predicate
  | .not, parts => .compound .not (negands parts)
  | .or, [p] => .compound .and [p]
  | k, parts => .compound k parts

mutual

/-- The predicate as far as its text shows it. -/
def shown : Predicate → Predicate
  | .comparison c => .comparison c.undated
  | .compound k parts => shownCompound k (shownAll parts)
  | .constant value => .constant value

def shownAll : List Predicate → List Predicate
  | [] => []
  | p :: ps => shown p :: shownAll ps

end

theorem shownAll_eq_map (ps : List Predicate) : shownAll ps = ps.map shown := by
  induction ps with
  | nil => rfl
  | cons p ps ih => simp [shownAll, ih]

theorem shown_compound (k : Connective) (parts : List Predicate) :
    shown (.compound k parts) = shownCompound k (parts.map shown) := by
  rw [shown, shownAll_eq_map]

theorem negands_map_shown (ps : List Predicate) :
    negands (ps.map shown) = (negands ps).map shown := by
  match ps with
  | [] => rfl
  | [p] => rfl
  | p :: q :: ps => simp [negands, shown_compound, shownCompound]

theorem negands_cases (ps : List Predicate) : negands ps = [] ∨ ∃ p, negands ps = [p] := by
  match ps with
  | [] => exact Or.inl rfl
  | [p] => exact Or.inr ⟨p, rfl⟩
  | p :: q :: ps => exact Or.inr ⟨_, rfl⟩

theorem shown_not (ps : List Predicate) :
    shown (.compound .not ps) = .compound .not ((negands ps).map shown) := by
  rw [shown_compound, shownCompound, negands_map_shown]

theorem shownCompound_single {k : Connective} (positive : k ≠ .not) (p : Predicate) :
    shownCompound k [p] = .compound .and [p] := by
  cases k with
  | and => rfl
  | or => rfl
  | not => exact absurd rfl positive

/-! ### A predicate in pieces -/

def separator (k : Connective) : List Piece := signs (" " ++ k.name ++ " ")

def joined (k : Connective) (parts : List (List Piece)) : List Piece :=
  (separator k).intercalate (parts.map enclosed)

def piecesCompound (k : Connective) (parts : List (List Piece)) : List Piece :=
  match k, parts with
  | .not, [ps] => signs "NOT " ++ enclosed ps
  | .not, parts => signs "NOT " ++ enclosed (joined .and parts)
  | k, [] => signs (k.name ++ " ") ++ enclosed []
  | k, parts => joined k parts

mutual

def pieces : Predicate → List Piece
  | .comparison c =>
    .operand c.left :: (signs (" " ++ c.relation.symbol ++ " ") ++ [.operand c.right])
  | .compound k parts => piecesCompound k (piecesAll parts)
  | .constant true => signs "TRUEPREDICATE"
  | .constant false => signs "FALSEPREDICATE"

def piecesAll : List Predicate → List (List Piece)
  | [] => []
  | p :: ps => pieces p :: piecesAll ps

end

theorem piecesAll_eq_map (ps : List Predicate) : piecesAll ps = ps.map pieces := by
  induction ps with
  | nil => rfl
  | cons p ps ih => simp [piecesAll, ih]

theorem pieces_compound (k : Connective) (parts : List Predicate) :
    pieces (.compound k parts) = piecesCompound k (parts.map pieces) := by
  rw [pieces, piecesAll_eq_map]

theorem spell_enclosed (ps : List Piece) : spell (enclosed ps) = '(' :: (spell ps ++ [')']) := by
  simp [enclosed, spell, chars]

theorem spell_intercalate (between : List Piece) (parts : List (List Piece)) :
    spell (between.intercalate parts) = (spell between).intercalate (parts.map spell) := by
  induction parts with
  | nil => rfl
  | cons ps parts ih =>
    cases parts with
    | nil => simp
    | cons qs parts =>
      rw [List.map_cons] at ih
      rw [List.map_cons, List.map_cons, List.intercalate_cons_cons, List.intercalate_cons_cons,
        spell_append, spell_append, ih]

/-- The parts of a compound, each in its own parentheses. -/
def enclosedTexts (parts : List (List Piece)) : List String :=
  (parts.map fun ps => String.ofList (spell ps)).map fun s => "(" ++ s ++ ")"

theorem spell_joined (k : Connective) (parts : List (List Piece)) :
    spell (joined k parts) =
      ((" " ++ k.name ++ " ").intercalate (enclosedTexts parts)).toList := by
  rw [joined, spell_intercalate, separator, spell_signs, String.toList_intercalate, enclosedTexts,
    List.map_map, List.map_map, List.map_map]
  congr 1
  refine List.map_congr_left fun ps _ => ?_
  simp [spell_enclosed]

theorem spell_negated (parts : List (List Piece)) :
    spell (signs "NOT " ++ enclosed (joined .and parts)) =
      ("NOT (" ++ " AND ".intercalate (enclosedTexts parts) ++ ")").toList := by
  rw [spell_append, spell_signs, spell_enclosed, spell_joined]
  simp [Connective.name]

theorem spell_piecesCompound (k : Connective) (parts : List (List Piece)) :
    spell (piecesCompound k parts) =
      (displayCompound k (parts.map fun ps => String.ofList (spell ps))).toList := by
  match k, parts with
  | .not, [] => rfl
  | .not, [ps] => simp [piecesCompound, displayCompound, spell_append, spell_signs, spell_enclosed]
  | .not, ps :: qs :: parts => exact spell_negated (ps :: qs :: parts)
  | .and, [] => rfl
  | .or, [] => rfl
  | .and, ps :: parts => exact spell_joined .and (ps :: parts)
  | .or, ps :: parts => exact spell_joined .or (ps :: parts)

theorem spell_pieces (p : Predicate) : spell p.pieces = p.display.toList := by
  induction p with
  | comparison c =>
    have operand (o : Operand) : spell [.operand o] = o.display.toList := by simp [spell, chars]
    rw [pieces, ← List.singleton_append, spell_append, spell_append, operand, operand, spell_signs]
    simp [display, Comparison.display]
  | constant value => cases value <;> rfl
  | compound k parts ih =>
    rw [pieces_compound, display, displays_eq_map, spell_piecesCompound, List.map_map]
    congr 2
    refine List.map_congr_left fun p member => ?_
    simp [ih p member]

section Induction

variable {motive : List Piece → Prop}
  (word : ∀ {s}, IsWord s → motive (signs s))
  (append : ∀ {ps qs}, motive ps → motive qs → motive (ps ++ qs))
  (enclose : ∀ {ps}, motive ps → motive (enclosed ps))

include word append enclose

theorem joined_induction {k : Connective} {parts : List (List Piece)}
    (each : ∀ ps ∈ parts, motive ps) : motive (joined k parts) := by
  have between : motive (separator k) := by
    refine word ?_
    cases k <;> decide
  induction parts with
  | nil => exact word (s := "") (by decide)
  | cons ps parts ih =>
    have rest := ih fun qs member => each qs (List.mem_cons_of_mem _ member)
    have first := enclose (each ps List.mem_cons_self)
    cases parts with
    | nil => simpa [joined] using first
    | cons qs parts =>
      rw [joined, List.map_cons, List.map_cons, List.intercalate_cons_cons]
      exact append (append first between) rest

theorem piecesCompound_induction {k : Connective} {parts : List (List Piece)}
    (each : ∀ ps ∈ parts, motive ps) : motive (piecesCompound k parts) := by
  have negation : motive (signs "NOT ") := word (by decide)
  have nothing : motive [] := word (s := "") (by decide)
  have name (k : Connective) : motive (signs (k.name ++ " ")) := by
    refine word ?_
    cases k <;> decide
  unfold piecesCompound
  split
  · exact append negation (enclose (each _ (List.mem_singleton_self _)))
  · exact append negation (enclose (joined_induction word append enclose each))
  · exact append (name _) (enclose nothing)
  · exact joined_induction word append enclose each

/-- What holds of words and of operands, and is kept by writing one after the other and by
enclosing, holds of the pieces of every predicate. -/
theorem pieces_induction (p : Predicate)
    (operands : ∀ c ∈ p.comparisons, motive [.operand c.left] ∧ motive [.operand c.right]) :
    motive p.pieces := by
  induction p with
  | comparison c =>
    obtain ⟨left, right⟩ := operands c (List.mem_singleton_self c)
    have relation : motive (signs (" " ++ c.relation.symbol ++ " ")) := by
      refine word ?_
      cases c.relation <;> decide
    exact append left (append relation right)
  | constant value =>
    cases value
    · exact word (by decide)
    · exact word (by decide)
  | compound k parts ih =>
    rw [pieces_compound]
    refine piecesCompound_induction word append enclose fun ps member => ?_
    obtain ⟨p, part, rfl⟩ := List.mem_map.mp member
    refine ih p part fun c found => operands c ?_
    rw [comparisons, comparisonsOf_eq_flatMap]
    exact List.mem_flatMap.mpr ⟨p, part, found⟩

end Induction

theorem balanced_pieces (p : Predicate) : Balanced p.pieces :=
  pieces_induction balanced_signs Balanced.append Balanced.enclosed p
    fun c _ => ⟨balanced_operand c.left, balanced_operand c.right⟩

/-! ### From the pieces back to the predicate -/

theorem joined_cons (k : Connective) (ps : List Piece) (parts : List (List Piece)) :
    joined k (ps :: parts) =
      enclosed ps ++ parts.flatMap fun qs => separator k ++ enclosed qs := by
  induction parts generalizing ps with
  | nil => simp [joined]
  | cons qs parts ih =>
    have rest := ih qs
    rw [joined, List.map_cons] at rest
    rw [joined, List.map_cons, List.map_cons, List.intercalate_cons_cons, rest, List.flatMap_cons,
      List.append_assoc, List.append_assoc]

theorem separator_append_inj {k l : Connective} {rest rest' : List Piece}
    (same : separator k ++ rest = separator l ++ rest') : k = l ∧ rest = rest' := by
  cases k <;> cases l <;> simp_all [separator, signs, Connective.name]

/-- Balanced parts are found again between their parentheses. With several of them the connective
is seen as well. -/
theorem flatMap_enclosed_inj {k l : Connective} {parts parts' : List (List Piece)}
    (each : ∀ ps ∈ parts, Balanced ps) (each' : ∀ ps ∈ parts', Balanced ps)
    (same : (parts.flatMap fun qs => separator k ++ enclosed qs) =
      parts'.flatMap fun qs => separator l ++ enclosed qs) :
    parts = parts' ∧ (parts ≠ [] → k = l) := by
  induction parts generalizing parts' with
  | nil =>
    cases parts' with
    | nil => exact ⟨rfl, fun some => absurd rfl some⟩
    | cons ps' parts' => cases l <;> cases same
  | cons ps parts ih =>
    cases parts' with
    | nil => cases k <;> cases same
    | cons ps' parts' =>
      rw [List.flatMap_cons, List.flatMap_cons, List.append_assoc, List.append_assoc] at same
      obtain ⟨rfl, tail⟩ := separator_append_inj same
      obtain ⟨rfl, rest⟩ := enclosed_append_inj (each ps List.mem_cons_self)
        (each' ps' List.mem_cons_self) tail
      obtain ⟨rfl, -⟩ := ih (fun qs member => each qs (List.mem_cons_of_mem _ member))
        (fun qs member => each' qs (List.mem_cons_of_mem _ member)) rest
      exact ⟨rfl, fun _ => rfl⟩

theorem joined_inj {k l : Connective} {ps ps' : List Piece} {parts parts' : List (List Piece)}
    (each : ∀ qs ∈ ps :: parts, Balanced qs) (each' : ∀ qs ∈ ps' :: parts', Balanced qs)
    (same : joined k (ps :: parts) = joined l (ps' :: parts')) :
    ps = ps' ∧ parts = parts' ∧ (parts ≠ [] → k = l) := by
  rw [joined_cons, joined_cons] at same
  obtain ⟨first, rest⟩ := enclosed_append_inj (each ps List.mem_cons_self)
    (each' ps' List.mem_cons_self) same
  exact ⟨first, flatMap_enclosed_inj (fun qs member => each qs (List.mem_cons_of_mem _ member))
    (fun qs member => each' qs (List.mem_cons_of_mem _ member)) rest⟩

theorem pieces_not (parts : List Predicate) :
    pieces (.compound .not parts) =
      signs "NOT " ++ enclosed ((negands parts).flatMap pieces) := by
  rw [pieces_compound]
  match parts with
  | [] => rfl
  | [p] => simp [piecesCompound, negands]
  | p :: q :: ps => simp [piecesCompound, negands, pieces_compound]

theorem pieces_shownCompound (k : Connective) (parts : List Predicate) :
    pieces (shownCompound k parts) = pieces (.compound k parts) := by
  match k, parts with
  | .not, [] | .not, [p] | .and, _ | .or, [] => rfl
  | .not, p :: q :: ps =>
    rw [shownCompound, pieces_not, pieces_not]
    rfl
  | .or, [p] => simp [shownCompound, pieces_compound, piecesCompound, joined]
  | .or, p :: q :: ps => rfl

theorem pieces_shown (p : Predicate) : p.shown.pieces = p.pieces := by
  induction p with
  | comparison c => rfl
  | constant value => rfl
  | compound k parts ih =>
    rw [shown_compound, pieces_shownCompound, pieces_compound, pieces_compound, List.map_map]
    congr 1
    exact List.map_congr_left ih

theorem pieces_cons {k : Connective} (positive : k ≠ .not) (p : Predicate) (ps : List Predicate) :
    pieces (.compound k (p :: ps)) = joined k (p.pieces :: ps.map pieces) := by
  rw [pieces_compound]
  cases k with
  | and => rfl
  | or => rfl
  | not => exact absurd rfl positive

/-! ### The piece in front -/

/-- The first sign of a compound. -/
def leadCompound : Connective → List Predicate → Char
  | .not, _ => 'N'
  | .and, [] => 'A'
  | .or, [] => 'O'
  | _, _ :: _ => '('

def lead : Predicate → Piece
  | .comparison c => .operand c.left
  | .constant value => .sign (if value then 'T' else 'F')
  | .compound k parts => .sign (leadCompound k parts)

theorem head?_pieces (p : Predicate) : p.pieces.head? = some p.lead := by
  have first (k : Connective) (p : Predicate) (ps : List Predicate) :
      (joined k (p.pieces :: ps.map pieces)).head? = some (.sign '(') := by
    rw [joined_cons]
    rfl
  match p with
  | .comparison c => rfl
  | .constant true => rfl
  | .constant false => rfl
  | .compound .not parts =>
    rw [pieces_not]
    rfl
  | .compound .and [] => rfl
  | .compound .or [] => rfl
  | .compound .and (p :: ps) =>
    rw [pieces_cons (by decide), first]
    rfl
  | .compound .or (p :: ps) =>
    rw [pieces_cons (by decide), first]
    rfl

theorem pieces_ne_nil (p : Predicate) : p.pieces ≠ [] := by
  intro empty
  have first := head?_pieces p
  rw [empty] at first
  cases first

theorem leadCompound_cases {k l : Connective} {ps qs : List Predicate}
    (same : leadCompound k ps = leadCompound l qs) :
    (k = .not ∧ l = .not) ∨ (k = l ∧ ps = [] ∧ qs = []) ∨
      (k ≠ .not ∧ l ≠ .not ∧ ∃ p ps' q qs', ps = p :: ps' ∧ qs = q :: qs') := by
  cases k <;> cases l <;> cases ps <;> cases qs <;> simp_all [leadCompound]

theorem lead_constant_ne_lead_compound (value : Bool) (k : Connective) (ps : List Predicate) :
    lead (.constant value) ≠ lead (.compound k ps) := by
  cases value <;> cases k <;> cases ps <;> simp [lead, leadCompound]

/-! ### What is shown, from the pieces -/

theorem undated_eq_of_pieces_eq {c d : Comparison}
    (same : pieces (.comparison c) = pieces (.comparison d)) : c.undated = d.undated := by
  obtain ⟨left, rest⟩ := List.cons_eq_cons.mp same
  obtain ⟨middle, right⟩ := List.append_inj' rest rfl
  have symbol : " " ++ c.relation.symbol ++ " " = " " ++ d.relation.symbol ++ " " :=
    signs_inj middle
  have relation : c.relation = d.relation := by
    refine Vocabulary.name_inj _ _ ?_
    have letters := congrArg String.toList symbol
    simp only [String.toList_append] at letters
    exact String.toList_inj.mp (List.append_cancel_left (List.append_cancel_right letters))
  rw [Comparison.undated, Comparison.undated, Piece.operand.inj left, relation,
    Piece.operand.inj (List.singleton_inj.mp right)]

theorem map_pieces_negands {ps qs : List Predicate}
    (same : pieces (.compound .not ps) = pieces (.compound .not qs)) :
    (negands ps).map pieces = (negands qs).map pieces := by
  rw [pieces_not, pieces_not] at same
  have inner := enclosed_inj (List.append_cancel_left same)
  rcases negands_cases ps with none | ⟨p, one⟩ <;> rcases negands_cases qs with none' | ⟨q, one'⟩
  · rw [none, none']
  · rw [none, one', List.flatMap_singleton] at inner
    exact absurd inner.symm (pieces_ne_nil q)
  · rw [one, none', List.flatMap_singleton] at inner
    exact absurd inner (pieces_ne_nil p)
  · rw [one, one', List.flatMap_singleton, List.flatMap_singleton] at inner
    rw [one, one', List.map_singleton, List.map_singleton, inner]

theorem length_lt_of_mem_negands {ps : List Predicate} {p : Predicate} (member : p ∈ negands ps) :
    p.pieces.length < (pieces (.compound .not ps)).length := by
  rcases negands_cases ps with none | ⟨q, one⟩
  · rw [none] at member
    cases member
  · rw [one] at member
    obtain rfl := List.mem_singleton.mp member
    rw [pieces_not, one, List.flatMap_singleton]
    simp only [enclosed, List.length_append, List.length_cons]
    omega

theorem length_lt_length_joined {k : Connective} {parts : List (List Piece)} {ps : List Piece}
    (part : ps ∈ parts) : ps.length < (joined k parts).length := by
  obtain ⟨qs, rest, rfl⟩ := List.exists_cons_of_ne_nil (List.ne_nil_of_mem part)
  rw [joined_cons]
  rcases List.mem_cons.mp part with rfl | member
  · simp only [enclosed, List.length_cons, List.length_append]
    omega
  · obtain ⟨before, after, rfl⟩ := List.append_of_mem member
    simp only [List.flatMap_append, List.flatMap_cons, enclosed, List.length_append,
      List.length_cons]
    omega

/-- With one part it does not matter which connective joins it. -/
theorem shown_cons_eq {k l : Connective} {p q : Predicate} {ps qs : List Predicate}
    (positive : k ≠ .not) (positive' : l ≠ .not)
    (each : ∀ r ∈ p :: ps, ∀ r' : Predicate, r.pieces = r'.pieces → r.shown = r'.shown)
    (same : pieces (.compound k (p :: ps)) = pieces (.compound l (q :: qs))) :
    shown (.compound k (p :: ps)) = shown (.compound l (q :: qs)) := by
  have balanced (rs : List Predicate) : ∀ piece ∈ rs.map pieces, Balanced piece := by
    intro piece member
    obtain ⟨r, -, rfl⟩ := List.mem_map.mp member
    exact balanced_pieces r
  rw [pieces_cons positive, pieces_cons positive'] at same
  obtain ⟨first, rest, joint⟩ := joined_inj (balanced (p :: ps)) (balanced (q :: qs)) same
  have all : (p :: ps).map pieces = (q :: qs).map pieces := by
    rw [List.map_cons, List.map_cons, first, rest]
  have shownSame := map_eq_map_of_each each all
  rw [shown_compound, shown_compound, shownSame]
  cases ps with
  | nil =>
    obtain rfl := List.map_eq_nil_iff.mp rest.symm
    rw [List.map_singleton, shownCompound_single positive, shownCompound_single positive']
  | cons _ _ => rw [joint (List.cons_ne_nil _ _)]

theorem shown_eq_of_pieces_eq {p q : Predicate} (same : p.pieces = q.pieces) :
    p.shown = q.shown := by
  -- A negation of several parts negates a conjunction that is none of them, so the induction is on
  -- the number of pieces and not on the predicate.
  induction size : p.pieces.length using Nat.strongRecOn generalizing p q with
  | _ n ih =>
    subst size
    have begins : p.lead = q.lead := by
      rw [← Option.some_inj, ← head?_pieces, ← head?_pieces, same]
    cases p with
    | comparison c =>
      cases q with
      | comparison d => rw [shown, shown, undated_eq_of_pieces_eq same]
      | constant value => cases begins
      | compound k parts => cases begins
    | constant value =>
      cases q with
      | comparison d => cases begins
      | constant value' => cases value <;> cases value' <;> first | rfl | cases begins
      | compound k parts => exact absurd begins (lead_constant_ne_lead_compound value k parts)
    | compound k parts =>
      cases q with
      | comparison d => cases begins
      | constant value => exact absurd begins.symm (lead_constant_ne_lead_compound value k parts)
      | compound l parts' =>
        rcases leadCompound_cases (Piece.sign.inj begins) with ⟨rfl, rfl⟩ | ⟨rfl, rfl, rfl⟩ |
          ⟨positive, positive', p, ps, q, qs, rfl, rfl⟩
        · rw [shown_not, shown_not, map_eq_map_of_each (fun p member q inner =>
            ih _ (length_lt_of_mem_negands member) inner rfl) (map_pieces_negands same)]
        · rfl
        · refine shown_cons_eq positive positive' (fun r member r' inner => ih _ ?_ inner rfl) same
          rw [pieces_cons positive]
          exact length_lt_length_joined (List.mem_map_of_mem member)

theorem pieces_eq_pieces_iff {p q : Predicate} : p.pieces = q.pieces ↔ p.shown = q.shown := by
  refine ⟨shown_eq_of_pieces_eq, fun same => ?_⟩
  rw [← pieces_shown p, same, pieces_shown]

/-! ### Predicates over constants -/

/-- No operand is a key path. -/
def OverConstants (p : Predicate) : Prop :=
  ∀ c ∈ p.comparisons, c.left.isConstant = true ∧ c.right.isConstant = true

instance (p : Predicate) : Decidable p.OverConstants :=
  inferInstanceAs (Decidable (∀ c ∈ p.comparisons, _))

theorem clear_pieces {p : Predicate} (constants : p.OverConstants) :
    ∀ piece ∈ p.pieces, piece.IsClear := by
  have operand (o : Operand) (constant : o.isConstant = true) :
      ∀ piece ∈ [Piece.operand o], piece.IsClear := by
    intro piece member
    obtain rfl := List.mem_singleton.mp member
    cases o with
    | constant value => exact .constant value
    | keyPath path => cases constant
  refine pieces_induction (motive := fun ps => ∀ piece ∈ ps, piece.IsClear) clear_signs
    clear_append clear_enclosed p fun c found => ?_
  obtain ⟨left, right⟩ := constants c found
  exact ⟨operand c.left left, operand c.right right⟩

/-- Predicates over constants have the same text exactly if they are shown alike, whatever their
constants contain. -/
theorem display_eq_display_iff {p q : Predicate} (constants : p.OverConstants)
    (constants' : q.OverConstants) : p.display = q.display ↔ p.shown = q.shown := by
  rw [← String.toList_inj, ← spell_pieces, ← spell_pieces,
    spell_inj (clear_pieces constants) (clear_pieces constants'), pieces_eq_pieces_iff]

/-- A comparison whose constants end in a backslash and read like the text around them. -/
def misleading : Predicate := .comparison (.ofConstants "a\\" .equal ") AND (\x22b\x22 == \\")

theorem display_eq_display_iff_misleading :
    let dated : Comparison := ⟨.constant "Date", .less, .constant "3 days", some ⟨3, .day⟩⟩
    let p := Predicate.compound .not [misleading, .compound .or [.comparison dated]]
    let q := Predicate.compound .not
      [.compound .and [misleading, .compound .and [.comparison dated.undated]]]
    p.OverConstants ∧ q.OverConstants ∧ p ≠ q ∧ p.display = q.display ∧ p.shown = q.shown := by
  intro dated p q
  have constants : p.OverConstants := by decide
  have constants' : q.OverConstants := by decide
  have alike : p.shown = q.shown := rfl
  exact ⟨constants, constants', by decide,
    (display_eq_display_iff constants constants').mpr alike, alike⟩

end Predicate

end SmartFolder
