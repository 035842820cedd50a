/-!
# Blank characters

The characters that trimming removes: white space, and for values also the four information
separators. `trim` cuts a class of characters from both ends of a text and nothing else
(`trim_append`, `exists_eq_append_trim`).
-/

namespace SmartFolder.Text

def isWhiteSpace (c : Char) : Bool :=
  let n := c.toNat
  (0x09 ≤ n && n ≤ 0x0d) || n == 0x20 || n == 0x85 || n == 0xa0 || n == 0x1680 ||
    (0x2000 ≤ n && n ≤ 0x200a) || n == 0x2028 || n == 0x2029 || n == 0x202f || n == 0x205f ||
    n == 0x3000

/-- White space or an information separator. -/
def isBlank (c : Char) : Bool :=
  isWhiteSpace c || (0x1c ≤ c.toNat && c.toNat ≤ 0x1f)

theorem isBlank_of_isDigit {c : Char} (digit : c.isDigit = true) : isBlank c = false := by
  have range : 48 ≤ c.toNat ∧ c.toNat ≤ 57 := Char.isDigit_iff_toNat.mp digit
  simp only [isBlank, isWhiteSpace, Bool.or_eq_false_iff, Bool.and_eq_false_iff, beq_eq_false_iff_ne,
    decide_eq_false_iff_not]
  omega

def trim (p : Char → Bool) (cs : List Char) : List Char :=
  ((cs.dropWhile p).reverse.dropWhile p).reverse

variable {p : Char → Bool}

theorem dropWhile_append_of_inner {blanks text rest : List Char} (blank : ∀ c ∈ blanks, p c = true)
    (inner : ∀ c ∈ text, p c = false) (nonempty : text ≠ []) :
    (blanks ++ (text ++ rest)).dropWhile p = text ++ rest := by
  rw [List.dropWhile_append_of_pos blank]
  obtain ⟨c, cs, rfl⟩ := List.exists_cons_of_ne_nil nonempty
  exact List.dropWhile_cons_of_neg (by simp [inner c List.mem_cons_self])

theorem trim_append {left text right : List Char} (leftBlank : ∀ c ∈ left, p c = true)
    (rightBlank : ∀ c ∈ right, p c = true) (inner : ∀ c ∈ text, p c = false)
    (nonempty : text ≠ []) : trim p (left ++ text ++ right) = text := by
  have front : (left ++ text ++ right).dropWhile p = text ++ right := by
    rw [List.append_assoc, dropWhile_append_of_inner leftBlank inner nonempty]
  have back : (right.reverse ++ (text.reverse ++ [])).dropWhile p = text.reverse ++ [] :=
    dropWhile_append_of_inner (by simpa using rightBlank) (by simpa using inner)
      (by simpa using nonempty)
  rw [List.append_nil] at back
  rw [trim, front, List.reverse_append, back, List.reverse_reverse]

theorem exists_eq_append_trim (p : Char → Bool) (cs : List Char) :
    ∃ left right, cs = left ++ trim p cs ++ right ∧ (∀ c ∈ left, p c = true) ∧
      ∀ c ∈ right, p c = true := by
  have taken (cs : List Char) : ∀ c ∈ cs.takeWhile p, p c = true :=
    List.all_eq_true.mp List.all_takeWhile
  refine ⟨cs.takeWhile p, ((cs.dropWhile p).reverse.takeWhile p).reverse, ?_, taken cs, ?_⟩
  · rw [trim, List.append_assoc, ← List.reverse_append, List.takeWhile_append_dropWhile,
      List.reverse_reverse, List.takeWhile_append_dropWhile]
  · exact fun c member => taken _ c (List.mem_reverse.mp member)

end SmartFolder.Text
