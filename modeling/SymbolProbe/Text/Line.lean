/-!
# Lines of a text

A line feed ends a line, together with one carriage return right before it. Text after the last
line feed is a line of its own, kept as it is, unless it is empty.

The main statements are `lines_append_feed` and `lines_append_return_feed`, which say how one
terminated line is read, and `feed_not_mem_of_mem_lines`.
-/

namespace SymbolProbe.Text

/-- The lines of a text, without their terminators. -/
def lines : List Char → List (List Char)
  | [] => []
  | '\n' :: t => [] :: lines t
  | '\r' :: '\n' :: t => [] :: lines t
  | c :: t =>
    match lines t with
    | [] => [[c]]
    | l :: ls => (c :: l) :: ls

@[simp] theorem lines_feed (t : List Char) : lines ('\n' :: t) = [] :: lines t := by
  rw [lines]

@[simp] theorem lines_return_feed (t : List Char) :
    lines ('\r' :: '\n' :: t) = [] :: lines t := by
  rw [lines]

/-- A character that neither ends a line nor starts a terminator joins the first line. -/
theorem lines_cons {c : Char} {t : List Char} (hc : c ≠ '\n')
    (hr : c = '\r' → t.head? ≠ some '\n') :
    lines (c :: t) = match lines t with
      | [] => [[c]]
      | l :: ls => (c :: l) :: ls := by
  rw [lines]
  · exact hc
  · rintro u rfl rfl
    exact hr rfl rfl

/-- A line followed by a line feed is read whole, unless it ends in a carriage return. -/
theorem lines_append_feed {l : List Char} (t : List Char) (hl : '\n' ∉ l)
    (hr : l.getLast? ≠ some '\r') : lines (l ++ '\n' :: t) = l :: lines t := by
  induction l with
  | nil => simp
  | cons c l ih =>
    simp only [List.mem_cons, not_or] at hl
    have hlast : l.getLast? ≠ some '\r' := by
      cases l with
      | nil => simp
      | cons d l => simpa using hr
    rw [List.cons_append, lines_cons (Ne.symm hl.1), ih hl.2 hlast]
    rintro rfl
    cases l with
    | nil => simp at hr
    | cons d l => simpa using fun h => hl.2 (by simp [h])

/-- A line followed by a carriage return and a line feed is read whole. -/
theorem lines_append_return_feed {l : List Char} (t : List Char) (hl : '\n' ∉ l) :
    lines (l ++ '\r' :: '\n' :: t) = l :: lines t := by
  induction l with
  | nil => simp
  | cons c l ih =>
    simp only [List.mem_cons, not_or] at hl
    rw [List.cons_append, lines_cons (Ne.symm hl.1), ih hl.2]
    rintro rfl
    cases l with
    | nil => simp
    | cons d l => simpa using fun h => hl.2 (by simp [h])

/-- No line holds a line feed. -/
theorem feed_not_mem_of_mem_lines {t l : List Char} (h : l ∈ lines t) : '\n' ∉ l := by
  fun_induction lines t generalizing l with
  | case1 => simp at h
  | case2 t ih =>
    rcases List.mem_cons.1 h with rfl | h
    · simp
    · exact ih h
  | case3 t ih =>
    rcases List.mem_cons.1 h with rfl | h
    · simp
    · exact ih h
  | case4 c t hc _ heq ih =>
    obtain rfl := List.mem_singleton.1 h
    simpa using fun e => hc e.symm
  | case5 c t hc _ l' ls heq ih =>
    rw [heq] at ih
    rcases List.mem_cons.1 h with rfl | h
    · simpa using ⟨fun e => hc e.symm, ih (by simp)⟩
    · exact ih (by simp [h])

end SymbolProbe.Text
