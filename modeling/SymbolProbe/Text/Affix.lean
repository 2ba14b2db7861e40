/-!
# Affixes of a text

Texts are scanned as lists of characters. `after? p t` is what follows the leading part `p` of
`t`, and `occursIn n t` tells whether `n` stands somewhere inside `t`.

The main statements are `after?_eq_some_iff`, which says that `after?` undoes `++`, and
`occursIn_iff`, which says that `occursIn` decides `<:+:`.
-/

namespace SymbolProbe.Text

/-! ### Leading part -/

/-- What follows `p` in `t`, when `t` starts with `p`. -/
def after? : List Char → List Char → Option (List Char)
  | [], t => some t
  | _ :: _, [] => none
  | a :: p, c :: t => if a = c then after? p t else none

@[simp] theorem after?_nil (t : List Char) : after? [] t = some t := by simp [after?]

theorem after?_eq_some_iff {p t r : List Char} : after? p t = some r ↔ t = p ++ r := by
  induction p generalizing t with
  | nil => simp [eq_comm]
  | cons a p ih =>
    cases t with
    | nil => simp [after?]
    | cons c t =>
      by_cases h : a = c
      · simp [after?, h, ih]
      · simp [after?, h, Ne.symm h]

@[simp] theorem after?_append (p r : List Char) : after? p (p ++ r) = some r :=
  after?_eq_some_iff.2 rfl

/-! ### Occurrence -/

/-- Whether `n` stands somewhere inside the text. -/
def occursIn (n : List Char) : List Char → Bool
  | [] => n.isEmpty
  | c :: t => n.isPrefixOf (c :: t) || occursIn n t

theorem occursIn_iff {n t : List Char} : occursIn n t = true ↔ n <:+: t := by
  induction t with
  | nil => simp [occursIn]
  | cons c t ih => simp [occursIn, ih, List.infix_cons_iff]

end SymbolProbe.Text
