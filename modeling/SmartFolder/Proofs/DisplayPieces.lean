import Mathlib.Data.List.Basic
import SmartFolder.Predicate.Display

/-!
# The pieces of a displayed predicate

A displayed predicate consists of operands and of the signs around them. A backslash at the end of a
constant makes its closing quote look escaped, so the text cannot be cut into its pieces from the
left. From the right it can: a quote inside a constant has a backslash before it, an opening quote
never has (`spell_inj`). Parentheses outside operands match (`matching_inj`).
-/

namespace SmartFolder

inductive Piece where
  | operand (o : Operand)
  | sign (c : Char)
  deriving DecidableEq, Repr

namespace Piece

def chars : Piece → List Char
  | operand o => o.display.toList
  | sign c => [c]

def spell (ps : List Piece) : List Char := ps.flatMap chars

def signs (s : String) : List Piece := s.toList.map sign

def enclosed (ps : List Piece) : List Piece := .sign '(' :: (ps ++ [.sign ')'])

/-- A text without quotes, backslashes and parentheses. -/
def IsWord (s : String) : Prop := ∀ c ∈ s.toList, c ∉ ['(', ')', '\x22', '\\']

instance (s : String) : Decidable (IsWord s) := List.decidableBAll _ _

/-- A constant, or a sign that quoting does not use. -/
inductive IsClear : Piece → Prop where
  | constant (value : String) : IsClear (operand (.constant value))
  | sign {c : Char} (unquoted : c ≠ '\x22') (unescaped : c ≠ '\\') : IsClear (sign c)

theorem spell_append (ps qs : List Piece) : spell (ps ++ qs) = spell ps ++ spell qs :=
  List.flatMap_append

theorem spell_signs (s : String) : spell (signs s) = s.toList := by
  simp [spell, signs, List.flatMap_map, chars]

theorem clear_signs {s : String} (word : IsWord s) : ∀ p ∈ signs s, p.IsClear := by
  intro p member
  obtain ⟨c, letter, rfl⟩ := List.mem_map.mp member
  have plain := word c letter
  simp only [List.mem_cons, not_or] at plain
  exact .sign plain.2.2.1 plain.2.2.2.1

theorem clear_append {ps qs : List Piece} (clear : ∀ p ∈ ps, p.IsClear)
    (clear' : ∀ q ∈ qs, q.IsClear) : ∀ r ∈ ps ++ qs, r.IsClear := by
  intro r member
  exact (List.mem_append.mp member).elim (clear r) (clear' r)

theorem clear_enclosed {ps : List Piece} (clear : ∀ p ∈ ps, p.IsClear) :
    ∀ r ∈ enclosed ps, r.IsClear := by
  have parenthesis (c : Char) (sort : c = '(' ∨ c = ')') : ∀ r ∈ [sign c], r.IsClear := by
    intro r member
    obtain rfl := List.mem_singleton.mp member
    rcases sort with rfl | rfl <;> exact .sign (by decide) (by decide)
  exact clear_append (parenthesis '(' (Or.inl rfl))
    (clear_append clear (parenthesis ')' (Or.inr rfl)))

theorem signs_inj {s t : String} (same : signs s = signs t) : s = t := by
  have sign_inj : Function.Injective sign := fun c d h => sign.inj h
  exact String.toList_inj.mp (List.map_injective_iff.mpr sign_inj same)

/-! ### Cutting from the right -/

/-- An escaped character of a constant from the last to the first. -/
def escapeBack (c : Char) : List Char :=
  if c = '\x22' then ['\x22', '\\'] else [c]

theorem reverse_escapeQuotes (cs : List Char) :
    (Operand.escapeQuotes cs).reverse = cs.reverse.flatMap escapeBack := by
  rw [Operand.escapeQuotes, List.reverse_flatMap]
  refine List.flatMap_congr fun c _ => ?_
  by_cases quote : c = '\x22' <;> simp [quote, escapeBack]

theorem escapeBack_append_inj {c d : Char} {before before' : List Char}
    (same : escapeBack c ++ before = escapeBack d ++ before') : c = d ∧ before = before' := by
  by_cases quote : c = '\x22' <;> by_cases quote' : d = '\x22' <;> grind [escapeBack]

/-- An opening quote has no backslash before it. -/
theorem quote_ne_escapeBack {c : Char} {before before' : List Char}
    (clear : before.head? ≠ some '\\') : '\x22' :: before ≠ escapeBack c ++ before' := by
  intro same
  by_cases quote : c = '\x22' <;> grind [escapeBack]

theorem flatMap_escapeBack_inj {cs ds before before' : List Char}
    (clear : before.head? ≠ some '\\') (clear' : before'.head? ≠ some '\\')
    (same : cs.flatMap escapeBack ++ '\x22' :: before = ds.flatMap escapeBack ++ '\x22' :: before') :
    cs = ds ∧ before = before' := by
  induction cs generalizing ds with
  | nil =>
    cases ds with
    | nil => exact ⟨rfl, List.tail_eq_of_cons_eq same⟩
    | cons d ds =>
      rw [List.flatMap_cons, List.append_assoc] at same
      exact absurd same (quote_ne_escapeBack clear)
  | cons c cs ih =>
    cases ds with
    | nil =>
      rw [List.flatMap_cons, List.append_assoc] at same
      exact absurd same.symm (quote_ne_escapeBack clear')
    | cons d ds =>
      rw [List.flatMap_cons, List.flatMap_cons, List.append_assoc, List.append_assoc] at same
      obtain ⟨rfl, rest⟩ := escapeBack_append_inj same
      obtain ⟨rfl, before⟩ := ih rest
      exact ⟨rfl, before⟩

/-- The characters of a piece from the last to the first. -/
def back (p : Piece) : List Char := p.chars.reverse

theorem back_constant_append (value : String) (before : List Char) :
    back (.operand (.constant value)) ++ before =
      '\x22' :: (value.toList.reverse.flatMap escapeBack ++ '\x22' :: before) := by
  simp [back, chars, Operand.display, reverse_escapeQuotes]

theorem back_sign (c : Char) : back (.sign c) = [c] := rfl

theorem head?_flatMap_back {ps : List Piece} (clear : ∀ p ∈ ps, p.IsClear) :
    (ps.flatMap back).head? ≠ some '\\' := by
  cases ps with
  | nil => simp
  | cons p ps =>
    cases clear p List.mem_cons_self with
    | constant value => simp [back_constant_append]
    | sign unquoted unescaped => simpa [back_sign] using unescaped

theorem back_append_inj {p q : Piece} {before before' : List Char} (clear : p.IsClear)
    (clear' : q.IsClear) (unescaped : before.head? ≠ some '\\')
    (unescaped' : before'.head? ≠ some '\\') (same : back p ++ before = back q ++ before') :
    p = q ∧ before = before' := by
  cases clear with
  | constant v =>
    rw [back_constant_append] at same
    cases clear' with
    | constant w =>
      rw [back_constant_append] at same
      obtain ⟨value, rest⟩ :=
        flatMap_escapeBack_inj unescaped unescaped' (List.tail_eq_of_cons_eq same)
      rw [String.toList_inj.mp (List.reverse_injective value)]
      exact ⟨rfl, rest⟩
    | sign unquoted _ => exact absurd (List.head_eq_of_cons_eq same).symm unquoted
  | sign unquoted _ =>
    rw [back_sign] at same
    cases clear' with
    | constant w =>
      rw [back_constant_append] at same
      exact absurd (List.head_eq_of_cons_eq same) unquoted
    | sign _ _ =>
      obtain ⟨rfl, rest⟩ := List.cons_eq_cons.mp same
      exact ⟨rfl, rest⟩

theorem back_ne_nil {p : Piece} (clear : p.IsClear) : back p ≠ [] := by
  cases clear with
  | constant value => simp [back, chars, Operand.display]
  | sign _ _ => simp [back_sign]

theorem flatMap_back_inj {ps qs : List Piece} (clear : ∀ p ∈ ps, p.IsClear)
    (clear' : ∀ q ∈ qs, q.IsClear) (same : ps.flatMap back = qs.flatMap back) : ps = qs := by
  induction ps generalizing qs with
  | nil =>
    cases qs with
    | nil => rfl
    | cons q qs =>
      have empty := (List.append_eq_nil_iff.mp same.symm).1
      exact absurd empty (back_ne_nil (clear' q List.mem_cons_self))
  | cons p ps ih =>
    have others : ∀ r ∈ ps, r.IsClear := fun r member => clear r (List.mem_cons_of_mem p member)
    cases qs with
    | nil =>
      have empty := (List.append_eq_nil_iff.mp same).1
      exact absurd empty (back_ne_nil (clear p List.mem_cons_self))
    | cons q qs =>
      have others' : ∀ r ∈ qs, r.IsClear := fun r member =>
        clear' r (List.mem_cons_of_mem q member)
      obtain ⟨rfl, rest⟩ := back_append_inj (clear p List.mem_cons_self)
        (clear' q List.mem_cons_self) (head?_flatMap_back others) (head?_flatMap_back others') same
      rw [ih others others' rest]

theorem spell_inj {ps qs : List Piece} (clear : ∀ p ∈ ps, p.IsClear)
    (clear' : ∀ q ∈ qs, q.IsClear) : spell ps = spell qs ↔ ps = qs := by
  refine ⟨fun same => List.reverse_injective ?_, congrArg spell⟩
  refine flatMap_back_inj (by simpa using clear) (by simpa using clear') ?_
  have backwards (rs : List Piece) : rs.reverse.flatMap back = (spell rs).reverse := by
    rw [spell, List.reverse_flatMap]
    rfl
  rw [backwards, backwards, same]

/-! ### Matching parentheses -/

/-- How many parentheses are open after a piece. A parenthesis that none is open for cannot close. -/
def level (n : Nat) : Piece → Option Nat
  | sign c =>
    if c = '(' then some (n + 1)
    else if c = ')' then (if n = 0 then none else some (n - 1))
    else some n
  | operand _ => some n

def levelAfter (n : Nat) (ps : List Piece) : Option Nat := ps.foldlM level n

/-- Every parenthesis closes one that the pieces themselves open, and none is left open. -/
def Balanced (ps : List Piece) : Prop := ∀ n, levelAfter n ps = some n

theorem levelAfter_append (n : Nat) (ps qs : List Piece) :
    levelAfter n (ps ++ qs) = (levelAfter n ps).bind (levelAfter · qs) :=
  List.foldlM_append

theorem enclosed_inj {ps qs : List Piece} (same : enclosed ps = enclosed qs) : ps = qs :=
  List.append_cancel_right (List.tail_eq_of_cons_eq same)

theorem Balanced.append {ps qs : List Piece} (first : Balanced ps) (rest : Balanced qs) :
    Balanced (ps ++ qs) := by
  intro n
  rw [levelAfter_append, first n, Option.bind_some, rest n]

theorem Balanced.enclosed {ps : List Piece} (inner : Balanced ps) : Balanced (enclosed ps) := by
  intro n
  have opening : levelAfter n (.sign '(' :: (ps ++ [.sign ')'])) =
      levelAfter (n + 1) (ps ++ [.sign ')']) := rfl
  rw [Piece.enclosed, opening, levelAfter_append, inner, Option.bind_some]
  rfl

theorem balanced_operand (o : Operand) : Balanced [.operand o] := fun _ => rfl

theorem balanced_signs {s : String} (word : IsWord s) : Balanced (signs s) := by
  intro n
  rw [IsWord] at word
  rw [signs, levelAfter]
  generalize s.toList = cs at word
  induction cs with
  | nil => rfl
  | cons c cs ih =>
    have plain := word c List.mem_cons_self
    simp only [List.mem_cons, not_or] at plain
    have same : level n (.sign c) = some n := by simp [level, plain.1, plain.2.1]
    rw [List.map_cons, List.foldlM_cons, same]
    exact ih fun d member => word d (List.mem_cons_of_mem c member)

/-- No piece follows balanced pieces that closes more than they open. -/
theorem not_balanced_append_close {ps : List Piece} (balanced : Balanced ps) (after : List Piece) :
    ¬ Balanced (ps ++ .sign ')' :: after) := by
  intro longer
  have closed := longer 0
  rw [levelAfter_append, balanced 0] at closed
  cases closed

/-- A closing parenthesis after balanced pieces ends them at one place only. -/
theorem matching_inj {ps qs rest rest' : List Piece} (balanced : Balanced ps)
    (balanced' : Balanced qs)
    (same : ps ++ .sign ')' :: rest = qs ++ .sign ')' :: rest') : ps = qs ∧ rest = rest' := by
  rcases List.append_eq_append_iff.mp same with ⟨extra, rfl, after⟩ | ⟨extra, rfl, after⟩
  · cases extra with
    | nil => exact ⟨by simp, List.tail_eq_of_cons_eq after⟩
    | cons p extra =>
      obtain ⟨rfl, -⟩ := List.cons_eq_cons.mp after
      exact absurd balanced' (not_balanced_append_close balanced extra)
  · cases extra with
    | nil => exact ⟨by simp, (List.tail_eq_of_cons_eq after).symm⟩
    | cons p extra =>
      obtain ⟨rfl, -⟩ := List.cons_eq_cons.mp after
      exact absurd balanced (not_balanced_append_close balanced' extra)

theorem enclosed_append_inj {ps qs rest rest' : List Piece} (balanced : Balanced ps)
    (balanced' : Balanced qs) (same : enclosed ps ++ rest = enclosed qs ++ rest') :
    ps = qs ∧ rest = rest' := by
  refine matching_inj balanced balanced' ?_
  simpa [enclosed] using same

end Piece

end SmartFolder
