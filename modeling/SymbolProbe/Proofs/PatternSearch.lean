import Mathlib.Tactic.Lemma
import SymbolProbe.Pattern.Expr

/-!
# Searching for expressions

An expression describes stretches of a text, each from one place to another (`Expr.Spans`). The
search does not try the stretches one by one: it carries sets of places, kept as the bits of a
number. What it carries a set to are the ends of the stretches that start in the set
(`Expr.follows_reach`), also for repetitions without a greatest number, since a row of stretches
that reaches a place reaches it in as many steps as there are characters. So an expression is found
in a text exactly when it describes a stretch of it (`Expr.occursIn_iff`).
-/

namespace SymbolProbe.Pattern

/-! ### Stretches -/

/-- Two places with a row of the given number of steps between them. -/
def Steps (R : Nat → Nat → Prop) : Nat → Nat → Nat → Prop
  | 0, i, j => i = j
  | n + 1, i, j => ∃ k, R i k ∧ Steps R n k j

/-- The stretches of a text that an expression describes, by the places where they start and end. -/
def Expr.Spans (t : List Char) : Expr → Nat → Nat → Prop
  | .empty, i, j => i = j
  | .literal text, i, j => text <+: t.drop i ∧ i + text.length = j
  | .one set _, i, j => (∃ c ∈ t[i]?, set.contains c = true) ∧ i + 1 = j
  | .look l, i, j => i ≤ t.length ∧ l.holds (t.take i).getLast? t[i]? = true ∧ i = j
  | .seq a b, i, j => ∃ k, a.Spans t i k ∧ b.Spans t k j
  | .alt a b, i, j => a.Spans t i j ∨ b.Spans t i j
  | .group a, i, j => a.Spans t i j
  | .rep a least most _, i, j =>
    ∃ n, least ≤ n ∧ (∀ m ∈ most, n ≤ max least m) ∧ Steps (a.Spans t) n i j

section Spans

variable {t : List Char} {i j : Nat}

lemma Expr.spans_literal {text : List Char} :
    (literal text).Spans t i j ↔ text <+: t.drop i ∧ i + text.length = j := Iff.rfl

lemma Expr.spans_one {set : Unicode.CodeSet} {isAsciiOnly : Bool} :
    (one set isAsciiOnly).Spans t i j ↔ (∃ c ∈ t[i]?, set.contains c = true) ∧ i + 1 = j := Iff.rfl

lemma Expr.spans_look {l : Look} :
    (look l).Spans t i j ↔
      i ≤ t.length ∧ l.holds (t.take i).getLast? t[i]? = true ∧ i = j := Iff.rfl

lemma Expr.spans_seq {a b : Expr} :
    (seq a b).Spans t i j ↔ ∃ k, a.Spans t i k ∧ b.Spans t k j := Iff.rfl

lemma Expr.spans_rep {a : Expr} {least : Nat} {most : Option Nat} {prefersMany : Bool} :
    (rep a least most prefersMany).Spans t i j ↔
      ∃ n, least ≤ n ∧ (∀ m ∈ most, n ≤ max least m) ∧ Steps (a.Spans t) n i j := Iff.rfl

end Spans

lemma steps_add {R : Nat → Nat → Prop} {m n i j : Nat} :
    Steps R (m + n) i j ↔ ∃ k, Steps R m i k ∧ Steps R n k j := by
  induction m generalizing i with
  | zero => simp [Steps]
  | succ m ih =>
    rw [Nat.succ_add_eq_add_succ, Nat.add_succ, Steps]
    simp only [ih, Steps]
    constructor
    · rintro ⟨l, hl, k, hk, hj⟩
      exact ⟨k, ⟨l, hl, hk⟩, hj⟩
    · rintro ⟨k, ⟨l, hl, hk⟩, hj⟩
      exact ⟨l, hl, k, hk, hj⟩

/-- Steps that go forward and no further than a bound reach a place in as many steps as there are
places in front of the bound: a step that stays where it is can be left out. -/
lemma exists_steps_le {R : Nat → Nat → Prop} {bound : Nat}
    (hR : ∀ i j, R i j → i ≤ j ∧ j ≤ max i bound) {n i j : Nat} (h : Steps R n i j) :
    i ≤ j ∧ j ≤ max i bound ∧ ∃ m ≤ j - i, Steps R m i j := by
  induction n generalizing i with
  | zero =>
    obtain rfl : i = j := h
    exact ⟨Nat.le_refl i, Nat.le_max_left i bound, 0, Nat.zero_le _, rfl⟩
  | succ n ih =>
    obtain ⟨k, hk, hj⟩ := h
    obtain ⟨hik, hkb⟩ := hR i k hk
    obtain ⟨hkj, hjb, m, hm, hsteps⟩ := ih hj
    refine ⟨by omega, by omega, ?_⟩
    by_cases heq : i = k
    · subst heq
      exact ⟨m, hm, hsteps⟩
    · exact ⟨m + 1, by omega, k, hk, hsteps⟩

/-- A stretch goes forward and ends in the text. -/
lemma Expr.Spans.bounds {t : List Char} {e : Expr} {i j : Nat} (h : e.Spans t i j) :
    i ≤ j ∧ j ≤ max i t.length := by
  induction e generalizing i j with
  | empty =>
    obtain rfl : i = j := h
    omega
  | literal text =>
    obtain ⟨hstarts, rfl⟩ := h
    have hlength := hstarts.length_le
    rw [List.length_drop] at hlength
    omega
  | one set isAsciiOnly =>
    obtain ⟨⟨c, hc, -⟩, rfl⟩ := h
    have hi := (List.getElem?_eq_some_iff.1 hc).1
    omega
  | look l =>
    obtain ⟨hi, -, rfl⟩ := h
    omega
  | seq a b iha ihb =>
    obtain ⟨k, ha, hb⟩ := h
    have := iha ha
    have := ihb hb
    omega
  | alt a b iha ihb =>
    obtain h | h := h
    · exact iha h
    · exact ihb h
  | group a ih => exact ih h
  | rep a least most prefersMany ih =>
    obtain ⟨n, -, -, hsteps⟩ := h
    obtain ⟨hle, hbound, -⟩ := exists_steps_le (fun _ _ => ih) hsteps
    exact ⟨hle, hbound⟩

/-! ### Sets of places -/

lemma testBit_zero_two_mul_add (n : Nat) (b : Bool) :
    (2 * n + b.toNat).testBit 0 = b := by
  cases b <;> simp [Nat.testBit_zero]

lemma testBit_succ_two_mul_add (n : Nat) (b : Bool) (i : Nat) :
    (2 * n + b.toNat).testBit (i + 1) = n.testBit i := by
  have hb := b.toNat_lt
  rw [Nat.testBit_add_one, show (2 * n + b.toNat) / 2 = n by omega]

lemma testBit_placesBefore (f : Char → Bool) (t : List Char) (i : Nat) :
    (placesBefore f t).testBit i = t[i]?.any f := by
  induction t generalizing i with
  | nil => simp [placesBefore]
  | cons c t ih =>
    rw [placesBefore]
    cases i with
    | zero => rw [testBit_zero_two_mul_add, List.getElem?_cons_zero, Option.any_some]
    | succ i => rw [testBit_succ_two_mul_add, ih, List.getElem?_cons_succ]

lemma testBit_placesWhere (f : Option Char → Option Char → Bool) (before : Option Char)
    (t : List Char) (i : Nat) :
    (placesWhere f before t).testBit i =
      (decide (i ≤ t.length) && f ((t.take i).getLast?.or before) t[i]?) := by
  induction t generalizing before i with
  | nil =>
    cases i with
    | zero => cases h : f before none <;> simp [placesWhere, h]
    | succ i => cases h : f before none <;> simp [placesWhere, h, Nat.testBit_add_one]
  | cons c t ih =>
    rw [placesWhere]
    cases i with
    | zero =>
      rw [testBit_zero_two_mul_add]
      simp
    | succ i =>
      rw [testBit_succ_two_mul_add, ih, List.take_succ_cons, List.getLast?_cons]
      cases (t.take i).getLast? <;> simp

/-! ### Carrying sets along -/

/-- A function on sets of places carries each set to the ends of the steps from it. -/
def Follows (f : Nat → Nat) (R : Nat → Nat → Prop) : Prop :=
  ∀ s j, (f s).testBit j = true ↔ ∃ i, s.testBit i = true ∧ R i j

lemma follows_reachOne (f : Char → Bool) (t : List Char) :
    Follows (reachOne f t) fun i j => (∃ c ∈ t[i]?, f c = true) ∧ i + 1 = j := by
  intro s j
  rw [reachOne, Nat.testBit_shiftLeft, Nat.testBit_and, testBit_placesBefore]
  simp only [Bool.and_eq_true, decide_eq_true_eq, Option.any_eq_true, Option.mem_def]
  constructor
  · rintro ⟨hj, hs, c, hc, hf⟩
    exact ⟨j - 1, hs, ⟨c, hc, hf⟩, by omega⟩
  · rintro ⟨i, hs, ⟨c, hc, hf⟩, rfl⟩
    exact ⟨by omega, hs, c, hc, hf⟩

lemma follows_reachText (t text : List Char) :
    Follows (reachText t text) fun i j => text <+: t.drop i ∧ i + text.length = j := by
  intro s j
  induction text generalizing s with
  | nil => simp [reachText]
  | cons c text ih =>
    rw [reachText, ih]
    simp only [follows_reachOne _ _ s _]
    constructor
    · rintro ⟨_, ⟨i, hs, ⟨d, hd, hdc⟩, rfl⟩, hstarts, rfl⟩
      obtain rfl : d = c := by simpa using hdc
      obtain ⟨hi, rfl⟩ := List.getElem?_eq_some_iff.1 hd
      refine ⟨i, hs, ?_, by simp; omega⟩
      rw [List.drop_eq_getElem_cons hi]
      exact List.cons_prefix_cons.2 ⟨rfl, hstarts⟩
    · rintro ⟨i, hs, hstarts, rfl⟩
      have hi : i < t.length := by
        have hlength := hstarts.length_le
        simp only [List.length_cons, List.length_drop] at hlength
        omega
      rw [List.drop_eq_getElem_cons hi] at hstarts
      obtain ⟨rfl, hrest⟩ := List.cons_prefix_cons.1 hstarts
      exact ⟨i + 1, ⟨i, hs, ⟨t[i], List.getElem?_eq_getElem hi, by simp⟩, rfl⟩, hrest,
        by simp; omega⟩

variable {f : Nat → Nat} {R : Nat → Nat → Prop}

lemma Follows.reachTimes (h : Follows f R) (n : Nat) :
    Follows (Pattern.reachTimes f n) (Steps R n) := by
  intro s j
  induction n generalizing s with
  | zero => simp [Pattern.reachTimes, Steps]
  | succ n ih =>
    rw [Pattern.reachTimes]
    split
    · rename_i hs
      simp [hs]
    · rw [ih]
      simp only [h s _, Steps]
      constructor
      · rintro ⟨k, ⟨i, hi, hik⟩, hkj⟩
        exact ⟨i, hi, k, hik, hkj⟩
      · rintro ⟨i, hi, k, hik, hkj⟩
        exact ⟨k, ⟨i, hi, hik⟩, hkj⟩

/-- A set that holds the ends of all steps from it holds the ends of all rows of steps. -/
lemma Follows.testBit_of_steps (h : Follows f R) {s : Nat} (hs : s ||| f s = s) {n i j : Nat}
    (hi : s.testBit i = true) (hsteps : Steps R n i j) : s.testBit j = true := by
  induction n generalizing i with
  | zero =>
    obtain rfl : i = j := hsteps
    exact hi
  | succ n ih =>
    obtain ⟨k, hik, hkj⟩ := hsteps
    refine ih ?_ hkj
    rw [← hs, Nat.testBit_or, (h s k).2 ⟨i, hi, hik⟩, Bool.or_true]

lemma Follows.reachWithin (h : Follows f R) (n : Nat) :
    Follows (Pattern.reachWithin f n) fun i j => ∃ m ≤ n, Steps R m i j := by
  intro s j
  induction n generalizing s with
  | zero => simp [Pattern.reachWithin, Steps]
  | succ n ih =>
    rw [Pattern.reachWithin]
    split
    · rename_i hs
      constructor
      · intro hj
        exact ⟨j, hj, 0, Nat.zero_le _, rfl⟩
      · rintro ⟨i, hi, m, -, hsteps⟩
        exact h.testBit_of_steps hs hi hsteps
    · rw [ih]
      simp only [Nat.testBit_or, Bool.or_eq_true, h s _]
      constructor
      · rintro ⟨k, hk | ⟨i, hi, hik⟩, m, hm, hsteps⟩
        · exact ⟨k, hk, m, by omega, hsteps⟩
        · exact ⟨i, hi, m + 1, by omega, k, hik, hsteps⟩
      · rintro ⟨i, hi, m, hm, hsteps⟩
        cases m with
        | zero => exact ⟨i, .inl hi, 0, Nat.zero_le _, hsteps⟩
        | succ m =>
          obtain ⟨k, hik, hkj⟩ := hsteps
          exact ⟨k, .inr ⟨i, hi, hik⟩, m, by omega, hkj⟩

/-! ### Expressions -/

namespace Expr

/-- A set is carried to the ends of the stretches that start in it. -/
lemma follows_reach (t : List Char) (e : Expr) : Follows (e.reach t) (e.Spans t) := by
  induction e with
  | empty => simp [Follows, reach, Spans]
  | literal text => exact follows_reachText t text
  | one set isAsciiOnly => exact follows_reachOne set.contains t
  | look l =>
    intro s j
    rw [reach, Nat.testBit_and, testBit_placesWhere, Option.or_none]
    simp only [Bool.and_eq_true, decide_eq_true_eq, Spans]
    constructor
    · rintro ⟨hs, hj, hl⟩
      exact ⟨j, hs, hj, hl, rfl⟩
    · rintro ⟨i, hs, hi, hl, rfl⟩
      exact ⟨hs, hi, hl⟩
  | seq a b iha ihb =>
    intro s j
    rw [reach, ihb]
    simp only [iha s _, Spans]
    constructor
    · rintro ⟨k, ⟨i, hi, hik⟩, hkj⟩
      exact ⟨i, hi, k, hik, hkj⟩
    · rintro ⟨i, hi, k, hik, hkj⟩
      exact ⟨k, ⟨i, hi, hik⟩, hkj⟩
  | alt a b iha ihb =>
    intro s j
    rw [reach, Nat.testBit_or, Bool.or_eq_true, iha, ihb]
    simp only [Spans, and_or_left, exists_or]
  | group a ih => exact ih
  | rep a least most prefersMany ih =>
    intro s j
    rw [reach, ih.reachWithin]
    simp only [ih.reachTimes least s _, Spans]
    constructor
    · rintro ⟨k, ⟨i, hi, hik⟩, m, hm, hkj⟩
      refine ⟨i, hi, least + m, by omega, ?_, steps_add.2 ⟨k, hik, hkj⟩⟩
      rintro greatest rfl
      simp only [Option.map_some, Option.getD_some] at hm
      omega
    · rintro ⟨i, hi, n, hleast, hmost, hsteps⟩
      obtain ⟨m, rfl⟩ := Nat.exists_eq_add_of_le hleast
      obtain ⟨k, hik, hkj⟩ := steps_add.1 hsteps
      cases most with
      | some greatest =>
        have hm := hmost greatest rfl
        exact ⟨k, ⟨i, hi, hik⟩, m, by simp; omega, hkj⟩
      | none =>
        -- Any number of steps is allowed, so a row without idle steps is taken.
        obtain ⟨-, hj, m, hm, hkj⟩ := exists_steps_le (fun _ _ => Spans.bounds) hkj
        exact ⟨k, ⟨i, hi, hik⟩, m, by simp; omega, hkj⟩

/-- An expression is found in a text exactly when it describes a stretch of it. -/
lemma occursIn_iff {e : Expr} {t : List Char} :
    e.occursIn t = true ↔ ∃ i j, i ≤ t.length ∧ e.Spans t i j := by
  have hall : ∀ i, (1 <<< (t.length + 1) - 1).testBit i = decide (i ≤ t.length) := by
    intro i
    rw [Nat.one_shiftLeft, Nat.testBit_two_pow_sub_one, decide_eq_decide]
    omega
  rw [occursIn, bne_iff_ne]
  constructor
  · intro hne
    obtain ⟨j, hj⟩ := Nat.exists_testBit_of_ne_zero hne
    obtain ⟨i, hi, hspan⟩ := (e.follows_reach t _ j).1 hj
    rw [hall, decide_eq_true_eq] at hi
    exact ⟨i, j, hi, hspan⟩
  · rintro ⟨i, j, hi, hspan⟩ hzero
    have hj := (e.follows_reach t _ j).2 ⟨i, (hall i).trans (decide_eq_true hi), hspan⟩
    rw [hzero, Nat.zero_testBit] at hj
    cases hj

end Expr

end SymbolProbe.Pattern
