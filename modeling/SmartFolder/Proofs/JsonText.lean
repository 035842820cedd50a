import SmartFolder.Json.Printer
import SmartFolder.Json.Reader

/-!
# Reading back what was written

The text of a value made of texts, arrays and objects reads back as the value wherever the limits
leave room for its nesting, and is refused wherever they do not (`Textual.readWithin_print`). So
different values have different texts, however deep they are (`Textual.eq_of_print_eq`).
-/

namespace SmartFolder.Json

/-! ### Texts -/

theorem hexValue?_digitChar : ∀ n < 16, hexValue? n.digitChar = some n := by
  decide

theorem code?_of_control {c : Char} (control : c.toNat < 0x20) :
    code? '0' '0' (c.toNat / 16).digitChar (c.toNat % 16).digitChar = some c.toNat := by
  have zero : hexValue? '0' = some 0 := by decide
  have high := hexValue?_digitChar (c.toNat / 16) (by omega)
  have low := hexValue?_digitChar (c.toNat % 16) (by omega)
  have joined : c.toNat / 16 * 16 + c.toNat % 16 = c.toNat := by omega
  simp [code?, zero, high, low, joined]

theorem readText_plain {c : Char} (noQuote : c ≠ '\x22') (noBackslash : c ≠ '\\')
    (noControl : ¬ c.toNat < 0x20) (rest : List Char) :
    readText (c :: rest) = (readText rest).map fun (cs, rest) => (c :: cs, rest) := by
  rw [readText]
  · rw [if_neg (by simp [noControl, noBackslash])]
  · intro h
    exact noQuote h
  · intro a b c d rest' h
    exact absurd h noBackslash
  · intro e rest' h
    exact absurd h noBackslash

theorem readText_short {e c : Char} (short : shortEscape? e = some c) (rest : List Char) :
    readText ('\\' :: e :: rest) = (readText rest).map fun (cs, rest) => (c :: cs, rest) := by
  have other : e ≠ 'u' := by
    rintro rfl
    cases short
  rw [readText]
  · rw [short]
  · intro a b c d rest' h
    exact absurd h other

theorem readText_control {c : Char} (control : c.toNat < 0x20) (rest : List Char) :
    readText ('\\' :: 'u' :: '0' :: '0' :: (c.toNat / 16).digitChar :: (c.toNat % 16).digitChar ::
      rest) = (readText rest).map fun (cs, rest) => (c :: cs, rest) := by
  have below : c.toNat < 0xd800 := by omega
  rw [readText, code?_of_control control]
  dsimp only
  rw [if_pos (Or.inl below), Char.ofNat_toNat]

theorem readText_escapeChar (c : Char) (rest : List Char) :
    readText (escapeChar c ++ rest) = (readText rest).map fun (cs, rest) => (c :: cs, rest) := by
  fun_cases escapeChar c
  case case1 same | case2 same | case3 same | case4 same | case5 same | case6 same | case7 same =>
    subst same
    exact readText_short rfl rest
  case case8 control => exact readText_control control rest
  case case9 noQuote noBackslash _ _ _ _ _ noControl =>
    exact readText_plain noQuote noBackslash noControl rest

theorem readText_flatMap_escapeChar (cs rest : List Char) :
    readText (cs.flatMap escapeChar ++ '\x22' :: rest) = some (cs, rest) := by
  induction cs with
  | nil => simp [readText]
  | cons c cs ih =>
    rw [List.flatMap_cons, List.append_assoc, readText_escapeChar, ih]
    rfl

/-! ### Nesting -/

/-- One level around the deepest of what lies inside; around nothing there is no level. -/
def level : List Nat → Nat
  | [] => 0
  | n :: ns => max (n + 1) (level ns)

theorem level_le_succ_iff {ns : List Nat} {d : Nat} : level ns ≤ d + 1 ↔ ∀ n ∈ ns, n ≤ d := by
  induction ns with
  | nil => simp [level]
  | cons n ns ih => rw [level, Nat.max_le, ih, Nat.add_le_add_iff_right, List.forall_mem_cons]

theorem level_map_double (ns : List Nat) : level (ns.map (2 * · + 1)) = 2 * level ns := by
  induction ns with
  | nil => rfl
  | cons n ns ih =>
    rw [List.map_cons, level, level, ih]
    omega

mutual

/-- How deep arrays and objects with content lie in each other. -/
def nesting : Json → Nat
  | .array vs => level (nestings vs)
  | .object ms => level (memberNestings ms)
  | _ => 0

def nestings : List Json → List Nat
  | [] => []
  | v :: vs => nesting v :: nestings vs

def memberNestings : List (String × Json) → List Nat
  | [] => []
  | (_, v) :: ms => nesting v :: memberNestings ms

end

theorem nestings_eq_map (vs : List Json) : nestings vs = vs.map nesting := by
  induction vs with
  | nil => rfl
  | cons v vs ih => simp [nestings, ih]

theorem memberNestings_eq_map (ms : List (String × Json)) :
    memberNestings ms = ms.map fun m => nesting m.2 := by
  induction ms with
  | nil => rfl
  | cons m ms ih => simp [memberNestings, ih]

theorem nesting_array_le_succ_iff {vs : List Json} {d : Nat} :
    (Json.array vs).nesting ≤ d + 1 ↔ ∀ v ∈ vs, v.nesting ≤ d := by
  rw [nesting, level_le_succ_iff, nestings_eq_map]
  exact List.forall_mem_map

theorem nesting_object_le_succ_iff {ms : List (String × Json)} {d : Nat} :
    (Json.object ms).nesting ≤ d + 1 ↔ ∀ m ∈ ms, m.2.nesting ≤ d := by
  rw [nesting, level_le_succ_iff, memberNestings_eq_map]
  exact List.forall_mem_map

/-! ### Values made of texts -/

/-- Made of texts, arrays and objects, where no object names a member twice. -/
inductive Textual : Json → Prop where
  | text (s : String) : Textual (.text s)
  | array {vs : List Json} (each : ∀ v ∈ vs, Textual v) : Textual (.array vs)
  | object {ms : List (String × Json)} (distinct : (ms.map Prod.fst).Nodup)
      (each : ∀ m ∈ ms, Textual m.2) : Textual (.object ms)

/-- Read from its own text, whatever follows it and with any fuel that is enough for the text, if
the limits leave room for its nesting and not at all if they do not. -/
def ReadsBack (v : Json) : Prop :=
  ∀ fuel wholeLength depth rest, (printChars v).length ≤ fuel →
    readValue fuel ⟨wholeLength, depth⟩ (printChars v ++ rest) =
      if v.nesting ≤ depth then some (v, rest) else none

theorem skipSpace_cons {c : Char} (solid : isSpace c = false) (cs : List Char) :
    skipSpace (c :: cs) = c :: cs := by
  simp [skipSpace, solid]

/-- A value starts with no blank, and with no bracket that would close an array around it. -/
theorem Textual.exists_printChars {v : Json} (textual : Textual v) :
    ∃ c cs, printChars v = c :: cs ∧ isSpace c = false ∧ c ≠ ']' := by
  cases textual with
  | text s => exact ⟨_, _, rfl, by decide, by decide⟩
  | @array vs _ => cases vs <;> exact ⟨_, _, rfl, by decide, by decide⟩
  | @object ms _ _ => cases ms <;> exact ⟨_, _, rfl, by decide, by decide⟩

variable {fuel wholeLength depth : Nat} {rest : List Char}

theorem readItems_printItems {v : Json} {vs : List Json} (each : ∀ x ∈ v :: vs, x.ReadsBack)
    (enough : (printChars v ++ printItems vs).length ≤ fuel) :
    readItems fuel ⟨wholeLength, depth⟩ (printChars v ++ (printItems vs ++ rest)) =
      if ∀ x ∈ v :: vs, x.nesting ≤ depth then some (v :: vs, rest) else none := by
  induction vs generalizing v fuel with
  | nil =>
    rw [printItems, List.length_append, List.length_singleton] at enough
    obtain ⟨n, rfl⟩ := Nat.exists_eq_add_one_of_ne_zero (n := fuel) (by omega)
    have first := each v List.mem_cons_self n wholeLength depth (']' :: rest) (by omega)
    rw [printItems, List.singleton_append, readItems, first]
    by_cases fits : v.nesting ≤ depth
    · simp [fits, skipSpace_cons (c := ']') rfl]
    · simp [fits]
  | cons w ws ih =>
    rw [printItems, List.length_append, List.length_cons] at enough
    obtain ⟨n, rfl⟩ := Nat.exists_eq_add_one_of_ne_zero (n := fuel) (by omega)
    have first := each v List.mem_cons_self n wholeLength depth
      (',' :: (printChars w ++ (printItems ws ++ rest))) (by omega)
    have others := ih (fun x member => each x (List.mem_cons_of_mem v member))
      (show (printChars w ++ printItems ws).length ≤ n by omega)
    rw [printItems, List.cons_append, List.append_assoc, readItems, first]
    by_cases fits : v.nesting ≤ depth
    · rw [if_pos fits]
      simp only [skipSpace_cons (c := ',') rfl, others, List.forall_mem_cons, fits, true_and]
      split <;> rfl
    · rw [if_neg fits, if_neg fun all => fits (all v List.mem_cons_self)]

theorem readKey_printText (k : String) (rest : List Char) :
    readKey (printText k ++ ':' :: rest) = some (k, rest) := by
  rw [printText, List.cons_append, readKey, skipSpace_cons (c := '\x22') rfl]
  simp [readText_flatMap_escapeChar, skipSpace_cons (c := ':') rfl]

theorem readMembers_printMembers {k : String} {v : Json} {ms : List (String × Json)}
    (each : ∀ m ∈ (k, v) :: ms, m.2.ReadsBack)
    (enough : (printText k ++ ':' :: (printChars v ++ printMembers ms)).length ≤ fuel) :
    readMembers fuel ⟨wholeLength, depth⟩
        (printText k ++ ':' :: (printChars v ++ (printMembers ms ++ rest))) =
      if ∀ m ∈ (k, v) :: ms, m.2.nesting ≤ depth then some ((k, v) :: ms, rest) else none := by
  induction ms generalizing k v fuel with
  | nil =>
    rw [printMembers, List.length_append, List.length_cons, List.length_append] at enough
    obtain ⟨n, rfl⟩ := Nat.exists_eq_add_one_of_ne_zero (n := fuel) (by omega)
    have back : v.ReadsBack := each (k, v) List.mem_cons_self
    have first := back n wholeLength depth ('\x7d' :: rest) (by omega)
    rw [printMembers, List.singleton_append, readMembers, readKey_printText]
    dsimp only
    rw [first]
    by_cases fits : v.nesting ≤ depth
    · simp [fits, skipSpace_cons (c := '\x7d') rfl]
    · simp [fits]
  | cons m ms ih =>
    obtain ⟨l, w⟩ := m
    rw [printMembers, List.length_append, List.length_cons, List.length_append, List.length_cons]
      at enough
    obtain ⟨n, rfl⟩ := Nat.exists_eq_add_one_of_ne_zero (n := fuel) (by omega)
    have back : v.ReadsBack := each (k, v) List.mem_cons_self
    have first := back n wholeLength depth
      (',' :: (printText l ++ ':' :: (printChars w ++ (printMembers ms ++ rest)))) (by omega)
    have others := ih (fun m member => each m (List.mem_cons_of_mem (k, v) member))
      (show (printText l ++ ':' :: (printChars w ++ printMembers ms)).length ≤ n by omega)
    rw [printMembers, List.cons_append, List.append_assoc, List.cons_append, List.append_assoc,
      readMembers, readKey_printText]
    dsimp only
    rw [first]
    by_cases fits : v.nesting ≤ depth
    · rw [if_pos fits]
      simp only [skipSpace_cons (c := ',') rfl, others, List.forall_mem_cons, fits, true_and]
      split <;> rfl
    · rw [if_neg fits, if_neg fun all => fits (all (k, v) List.mem_cons_self)]

theorem readValue_array {c : Char} (solid : isSpace c = false) (filled : c ≠ ']')
    (cs : List Char) :
    readValue (fuel + 1) ⟨wholeLength, depth⟩ ('[' :: c :: cs) =
      match depth with
      | 0 => none
      | depth + 1 =>
        (readItems fuel ⟨wholeLength, depth⟩ (c :: cs)).map fun (vs, rest) => (.array vs, rest) := by
  rw [readValue]
  simp only [skipSpace_cons (c := '[') rfl, skipSpace_cons solid]
  split
  · rename_i h
    exact absurd (List.cons.inj h).1 filled
  · cases depth <;> rfl

theorem readValue_object (cs : List Char) :
    readValue (fuel + 1) ⟨wholeLength, depth⟩ ('\x7b' :: '\x22' :: cs) =
      match depth with
      | 0 => none
      | depth + 1 =>
        (readMembers fuel ⟨wholeLength, depth⟩ ('\x22' :: cs)).map
          fun (ms, rest) => (ofMembers ms, rest) := by
  rw [readValue]
  simp only [skipSpace_cons (c := '\x7b') rfl, skipSpace_cons (c := '\x22') rfl]
  split
  · rename_i h
    cases h
  · cases depth <;> rfl

theorem readsBack_text (s : String) : ReadsBack (.text s) := by
  intro fuel wholeLength depth rest enough
  rw [printChars, printText, List.length_cons] at enough
  obtain ⟨n, rfl⟩ := Nat.exists_eq_add_one_of_ne_zero (n := fuel) (by omega)
  rw [printChars, printText, readValue, List.cons_append]
  simp [skipSpace_cons (c := '\x22') rfl, readText_flatMap_escapeChar, nesting]

theorem readsBack_array {vs : List Json} (textual : ∀ v ∈ vs, v.Textual)
    (each : ∀ v ∈ vs, v.ReadsBack) : ReadsBack (.array vs) := by
  intro fuel wholeLength depth rest enough
  cases vs with
  | nil =>
    obtain ⟨n, rfl⟩ := Nat.exists_eq_add_one_of_ne_zero (n := fuel) (by rintro rfl; cases enough)
    rw [printChars, readValue]
    simp [skipSpace_cons (c := '[') rfl, skipSpace_cons (c := ']') rfl, nesting, nestings, level]
  | cons v vs =>
    rw [printChars, List.length_cons] at enough
    obtain ⟨n, rfl⟩ := Nat.exists_eq_add_one_of_ne_zero (n := fuel) (by omega)
    obtain ⟨c, cs, start, solid, filled⟩ := (textual v List.mem_cons_self).exists_printChars
    rw [printChars, List.cons_append, List.append_assoc, start, List.cons_append,
      readValue_array solid filled]
    cases depth with
    | zero => simp [nesting, nestings, level]
    | succ depth =>
      dsimp only
      rw [← List.cons_append, ← start, readItems_printItems each (by omega)]
      simp only [nesting_array_le_succ_iff]
      split <;> rfl

theorem readsBack_object {ms : List (String × Json)} (distinct : (ms.map Prod.fst).Nodup)
    (each : ∀ m ∈ ms, m.2.ReadsBack) : ReadsBack (.object ms) := by
  intro fuel wholeLength depth rest enough
  cases ms with
  | nil =>
    obtain ⟨n, rfl⟩ := Nat.exists_eq_add_one_of_ne_zero (n := fuel) (by rintro rfl; cases enough)
    rw [printChars, readValue]
    simp [skipSpace_cons (c := '\x7b') rfl, skipSpace_cons (c := '\x7d') rfl, nesting,
      memberNestings, level]
  | cons m ms =>
    obtain ⟨k, v⟩ := m
    rw [printChars, List.length_cons] at enough
    obtain ⟨n, rfl⟩ := Nat.exists_eq_add_one_of_ne_zero (n := fuel) (by omega)
    have start : printText k = '\x22' :: (k.toList.flatMap escapeChar ++ ['\x22']) := rfl
    rw [printChars, List.cons_append, List.append_assoc, List.cons_append, List.append_assoc, start,
      List.cons_append, readValue_object]
    cases depth with
    | zero => simp [nesting, memberNestings, level]
    | succ depth =>
      dsimp only
      rw [← List.cons_append, ← start, readMembers_printMembers each (by omega)]
      simp only [nesting_object_le_succ_iff]
      split
      · rw [Option.map_some, ofMembers, Table.ofPairs_of_distinct distinct]
      · rfl

theorem Textual.readsBack {v : Json} (textual : Textual v) : ReadsBack v := by
  induction textual with
  | text s => exact readsBack_text s
  | array each back => exact readsBack_array each back
  | object distinct _ back => exact readsBack_object distinct back

/-- The text of a value reads back as the value if the limits leave room for its nesting, and is no
text of any value otherwise. -/
theorem Textual.readWithin_print {v : Json} (textual : Textual v) (limits : Limits) :
    readWithin limits (print v) = if v.nesting ≤ limits.depth then some v else none := by
  have back := textual.readsBack (2 * (printChars v).length + 2) limits.wholeLength limits.depth []
    (by omega)
  rw [List.append_nil] at back
  rw [readWithin, print, String.toList_ofList, readChars, back]
  by_cases fits : v.nesting ≤ limits.depth
  · rw [if_pos fits, if_pos fits]
    rfl
  · rw [if_neg fits, if_neg fits]

theorem Textual.eq_of_print_eq {v w : Json} (left : Textual v) (right : Textual w)
    (same : print v = print w) : v = w := by
  have readLeft := left.readWithin_print ⟨0, v.nesting + w.nesting⟩
  have readRight := right.readWithin_print ⟨0, v.nesting + w.nesting⟩
  rw [if_pos (Nat.le_add_right _ _)] at readLeft
  rw [if_pos (Nat.le_add_left _ _), ← same, readLeft] at readRight
  exact Option.some.inj readRight

end SmartFolder.Json
