import SymbolProbe.Proofs.LineGrammar
import SymbolProbe.Proofs.PatternSearch
import SymbolProbe.Rule.Builtin

/-!
# Families of names

The built-in patterns tell two families of functions by their names: conversions and set operations.
Such a pattern is anchored at both ends, so although it is searched for anywhere it is found only in
names that belong to the family as a whole (`RuleSet.occursIn_namesFrom`).
-/

namespace SymbolProbe

open Pattern (Expr Steps)
open Unicode (CodeSet)

/-! ### Families -/

/-- The names of conversions, `to_[a-z_0-9]+`. -/
def IsConversionName (name : List Char) : Prop :=
  ∃ rest, rest ≠ [] ∧ (∀ c ∈ rest, IsLowerLetter c ∨ IsDecimalDigit c ∨ c = '_') ∧
    name = ['t', 'o', '_'] ++ rest

/-- The names of set operations, `set_[a-z]+`. -/
def IsSetOperationName (name : List Char) : Prop :=
  ∃ rest, rest ≠ [] ∧ (∀ c ∈ rest, IsLowerLetter c) ∧ name = ['s', 'e', 't', '_'] ++ rest

/-! ### Sets of characters -/

lemma le_iff_toNat_le {c d : Char} : c ≤ d ↔ c.toNat ≤ d.toNat := Iff.rfl

lemma contains_lowerLetters {c : Char} :
    (CodeSet.mk [(97, 122)]).contains c = true ↔ IsLowerLetter c := by
  have ha : 'a'.toNat = 97 := rfl
  have hz : 'z'.toNat = 122 := rfl
  simp [CodeSet.contains, CodeSet.containsCode, IsLowerLetter, le_iff_toNat_le, ha, hz]

lemma contains_nameTail {c : Char} :
    (CodeSet.mk [(48, 57), (95, 95), (97, 122)]).contains c = true ↔
      IsLowerLetter c ∨ IsDecimalDigit c ∨ c = '_' := by
  have ha : 'a'.toNat = 97 := rfl
  have hz : 'z'.toNat = 122 := rfl
  have h0 : '0'.toNat = 48 := rfl
  have h9 : '9'.toNat = 57 := rfl
  have hline : c = '_' ↔ c.toNat = 95 := by
    rw [← Char.toNat_inj]
    rfl
  simp only [CodeSet.contains, CodeSet.containsCode, List.any_cons, List.any_nil, Bool.or_false,
    Bool.or_eq_true, Bool.and_eq_true, decide_eq_true_eq, IsLowerLetter, IsDecimalDigit,
    le_iff_toNat_le, ha, hz, h0, h9, hline]
  omega

namespace RuleSet

/-! ### Anchored patterns -/

/-- A row of single characters is a stretch of characters of the set. -/
lemma steps_one {set : CodeSet} {isAsciiOnly : Bool} {t : List Char} {n i j : Nat} :
    Steps ((Expr.one set isAsciiOnly).Spans t) n i j ↔
      ∃ row, row.length = n ∧ (∀ c ∈ row, set.contains c = true) ∧ row <+: t.drop i ∧
        i + n = j := by
  induction n generalizing i with
  | zero => simp [Steps]
  | succ n ih =>
    simp only [Steps, ih, Expr.spans_one]
    constructor
    · rintro ⟨_, ⟨⟨c, hc, hset⟩, rfl⟩, row, rfl, hrow, hstarts, rfl⟩
      obtain ⟨hi, rfl⟩ := List.getElem?_eq_some_iff.1 hc
      refine ⟨t[i] :: row, by simp, ?_, ?_, by omega⟩
      · rintro d (_ | ⟨_, hd⟩)
        · exact hset
        · exact hrow d hd
      · rw [List.drop_eq_getElem_cons hi]
        exact List.cons_prefix_cons.2 ⟨rfl, hstarts⟩
    · rintro ⟨row, hlength, hrow, hstarts, rfl⟩
      obtain ⟨c, row, rfl⟩ := List.exists_cons_of_length_eq_add_one hlength
      have hi : i < t.length := by
        have hle := hstarts.length_le
        rw [List.length_drop, hlength] at hle
        omega
      rw [List.drop_eq_getElem_cons hi] at hstarts
      obtain ⟨rfl, hrest⟩ := List.cons_prefix_cons.1 hstarts
      exact ⟨i + 1, ⟨⟨t[i], List.getElem?_eq_getElem hi, hrow _ (by simp)⟩, rfl⟩, row,
        by simpa using hlength, fun d hd => hrow d (by simp [hd]), hrest, by omega⟩

/-- The pattern of a family is found exactly in its names. -/
lemma occursIn_namesFrom {start : String} {set : CodeSet} {name : List Char} :
    (namesFrom start set).occursIn name = true ↔
      ∃ rest, rest ≠ [] ∧ (∀ c ∈ rest, set.contains c = true) ∧ name = start.toList ++ rest := by
  rw [Expr.occursIn_iff]
  simp only [namesFrom, Expr.ofParts, Expr.spans_seq, Expr.spans_look, Expr.spans_literal,
    Expr.spans_rep, steps_one, Pattern.Look.holds, Option.isNone_iff_eq_none]
  constructor
  · rintro ⟨i, j, -, k, ⟨hi, hstart, rfl⟩, l, ⟨hstarts, rfl⟩, m,
      ⟨n, hleast, -, row, rfl, hrow, hrest, rfl⟩, hm, hend, rfl⟩
    -- The start anchor leaves the first place only, and the end anchor the last one.
    obtain rfl : i = 0 := by
      rw [List.getLast?_eq_none_iff, List.take_eq_nil_iff] at hstart
      obtain hstart | rfl := hstart
      · exact hstart
      · simpa using hi
    rw [List.drop_zero] at hstarts
    obtain ⟨rest, rfl⟩ := hstarts
    rw [Nat.zero_add, List.drop_left] at hrest
    obtain ⟨more, rfl⟩ := hrest
    rw [List.getElem?_eq_none_iff] at hend
    have hmore : more = [] := by
      rw [← List.length_eq_zero_iff]
      simp only [List.length_append, Nat.zero_add] at hend
      omega
    subst hmore
    exact ⟨row, List.ne_nil_of_length_pos hleast, hrow, by simp⟩
  · rintro ⟨rest, hne, hrest, rfl⟩
    refine ⟨0, start.toList.length + rest.length, by simp, 0, by simp, start.toList.length,
      by simp, start.toList.length + rest.length,
      ⟨rest.length, List.length_pos_iff.2 hne, by simp, rest, rfl, hrest, ?_, rfl⟩, by simp,
      ?_, rfl⟩
    · simp
    · simp

lemma isMatch_conversionPattern {name : String} :
    conversionPattern.isMatch name = true ↔ IsConversionName name.toList := by
  rw [Pattern.isMatch, conversionPattern, occursIn_namesFrom]
  simp only [contains_nameTail]
  rfl

lemma isMatch_setOperationPattern {name : String} :
    setOperationPattern.isMatch name = true ↔ IsSetOperationName name.toList := by
  rw [Pattern.isMatch, setOperationPattern, occursIn_namesFrom]
  simp only [contains_lowerLetters]
  rfl

end RuleSet

end SymbolProbe
