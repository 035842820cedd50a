/-!
# Vocabularies

A vocabulary is a finite list of members, each with a written name. `named?` reads a name back;
it knows exactly the names of the members (`named?_eq_some_iff`).
-/

namespace SmartFolder

/-- A finite type whose members are told apart by their written names. -/
class Vocabulary (α : Type) where
  /-- The members in declaration order. -/
  all : List α
  name : α → String
  mem_all : ∀ a, a ∈ all
  name_inj : ∀ a b, name a = name b → a = b

namespace Vocabulary

variable {α : Type} [Vocabulary α]

def named? (s : String) : Option α :=
  all.find? fun a => name a == s

theorem named?_name (a : α) : named? (name a) = some a := by
  cases h : named? (α := α) (name a) with
  | none => simpa using List.find?_eq_none.mp h a (mem_all a)
  | some b =>
    have same := List.find?_some h
    rw [name_inj b a (by simpa using same)]

theorem named?_eq_some_iff {s : String} {a : α} : named? s = some a ↔ name a = s :=
  ⟨fun h => by simpa using List.find?_some h, fun h => h ▸ named?_name a⟩

def names (α : Type) [Vocabulary α] : List String :=
  (all (α := α)).map name

end Vocabulary

end SmartFolder
