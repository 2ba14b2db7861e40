import Mathlib.Tactic.Lemma
import SymbolProbe.Symbol.Classifier

/-!
# The grammar of listing lines

A line carries a name when it is an indentation of blanks, the namespace, `::`, the name, a
terminator and any text. Name and terminator together decide the kind of the symbol; of the four
forms a name can have, the first that fits counts.

The classifier accepts exactly this grammar (`Classifier.classify_iff_carries`). A namespace that
starts with a blank is never found, since the indentation takes the blank first.
-/

namespace SymbolProbe

/-! ### Characters -/

/-- The letters from `A` to `Z`. -/
def IsUpperLetter (c : Char) : Prop := 'A' ≤ c ∧ c ≤ 'Z'

/-- The letters from `a` to `z`. -/
def IsLowerLetter (c : Char) : Prop := 'a' ≤ c ∧ c ≤ 'z'

/-- The digits from `0` to `9`. -/
def IsDecimalDigit (c : Char) : Prop := '0' ≤ c ∧ c ≤ '9'

instance (c : Char) : Decidable (IsLowerLetter c) := inferInstanceAs (Decidable (_ ∧ _))

instance (c : Char) : Decidable (IsDecimalDigit c) := inferInstanceAs (Decidable (_ ∧ _))

/-- The characters a name may start with. -/
def StartsName (c : Char) : Prop := IsUpperLetter c ∨ IsLowerLetter c ∨ c = '_'

/-- The characters a name may go on with. -/
def ContinuesName (c : Char) : Prop :=
  IsUpperLetter c ∨ IsLowerLetter c ∨ IsDecimalDigit c ∨ c = '_'

lemma isUpper_iff {c : Char} : c.isUpper = true ↔ IsUpperLetter c := by
  show decide ('A' ≤ c ∧ c ≤ 'Z') = true ↔ _
  rw [decide_eq_true_iff, IsUpperLetter]

lemma isLower_iff {c : Char} : c.isLower = true ↔ IsLowerLetter c := by
  show (decide ('a' ≤ c) && decide (c ≤ 'z')) = true ↔ _
  rw [Bool.and_eq_true, decide_eq_true_iff, decide_eq_true_iff, IsLowerLetter]

lemma isDigit_iff {c : Char} : c.isDigit = true ↔ IsDecimalDigit c := by
  show (decide ('0' ≤ c) && decide (c ≤ '9')) = true ↔ _
  rw [Bool.and_eq_true, decide_eq_true_iff, decide_eq_true_iff, IsDecimalDigit]

lemma isNameStart_iff {c : Char} : isNameStart c = true ↔ StartsName c := by
  show (c.isUpper || c.isLower || c == '_') = true ↔ _
  simp only [Bool.or_eq_true, beq_iff_eq, isUpper_iff, isLower_iff, or_assoc, StartsName]

lemma isNameChar_iff {c : Char} : isNameChar c = true ↔ ContinuesName c := by
  show (c.isUpper || c.isLower || c.isDigit || c == '_') = true ↔ _
  simp only [Bool.or_eq_true, beq_iff_eq, isUpper_iff, isLower_iff, isDigit_iff, or_assoc,
    ContinuesName]

lemma StartsName.continuesName {c : Char} (h : StartsName c) : ContinuesName c := by
  obtain h | h | h := h
  · exact .inl h
  · exact .inr (.inl h)
  · exact .inr (.inr (.inr h))

/-! ### Names and lines -/

/-- A name is `[A-Za-z_][A-Za-z0-9_]*`. -/
inductive IsName : List Char → Prop
  | intro {first : Char} {rest : List Char} (start : StartsName first)
      (more : ∀ c ∈ rest, ContinuesName c) : IsName (first :: rest)

lemma IsName.continuesName {name : List Char} (h : IsName name) {c : Char} (hc : c ∈ name) :
    ContinuesName c := by
  cases h with
  | intro start more =>
    obtain rfl | hc := List.mem_cons.1 hc
    · exact start.continuesName
    · exact more c hc

lemma IsName.not_mem {name : List Char} (h : IsName name) {c : Char} (hc : isNameChar c = false) :
    c ∉ name := by
  intro hmem
  rw [isNameChar_iff.2 (h.continuesName hmem)] at hc
  cases hc

lemma isName_iff {name : List Char} :
    IsName name ↔ (name.head?.any isNameStart && name.tail.all isNameChar) = true := by
  cases name with
  | nil =>
    constructor
    · intro h
      cases h
    · intro h
      cases h
  | cons first rest =>
    simp only [List.head?_cons, Option.any_some, List.tail_cons, Bool.and_eq_true, List.all_eq_true,
      isNameStart_iff, isNameChar_iff]
    constructor
    · rintro ⟨start, more⟩
      exact ⟨start, more⟩
    · rintro ⟨start, more⟩
      exact ⟨start, more⟩

instance (name : List Char) : Decidable (IsName name) := decidable_of_iff _ isName_iff.symm

/-- The characters that may end a name. -/
def IsTerminator (t : Char) : Prop := t = ':' ∨ t = ';' ∨ t = '*'

lemma IsTerminator.not_continuesName {t : Char} (h : IsTerminator t) : ¬ ContinuesName t := by
  rw [← isNameChar_iff]
  obtain rfl | rfl | rfl := h <;> decide

/-- A line carries a name in front of a terminator. -/
def Carries (scope line name : List Char) (t : Char) : Prop :=
  ∃ indent rest, indent ≠ [] ∧ (∀ c ∈ indent, c = ' ') ∧ IsName name ∧ IsTerminator t ∧
    line = indent ++ scope ++ [':', ':'] ++ name ++ t :: rest

/-! ### Kinds -/

/-- A short name of upper-case letters and digits, a letter first. -/
def SingletonForm (maxLength : Nat) (name : List Char) (t : Char) : Prop :=
  t ≠ '*' ∧ (2 ≤ name.length ∧ name.length ≤ maxLength) ∧ (∃ c ∈ name.head?, IsUpperLetter c) ∧
    ∀ c ∈ name, IsUpperLetter c ∨ IsDecimalDigit c

/-- A name of two or more characters that starts with the letter of objects of one kind. -/
def ObjectForm (letter : Char) (name : List Char) (t : Char) : Prop :=
  t ≠ '*' ∧ name.head? = some letter ∧ 2 ≤ name.length

/-- A name of two or more characters that starts with a lower-case letter. -/
def FunctionForm (name : List Char) : Prop :=
  (∃ c ∈ name.head?, IsLowerLetter c) ∧ 2 ≤ name.length

/-- The kind that a name in front of a terminator has: the first form that fits decides. -/
inductive HasKind (maxLength : Nat) (name : List Char) (t : Char) : SymbolKind → Prop
  | globalSingleton (h : SingletonForm maxLength name t) : HasKind maxLength name t .globalSingleton
  | objectClass (h₁ : ¬ SingletonForm maxLength name t) (h : ObjectForm 'C' name t) :
      HasKind maxLength name t .objectClass
  | classTemplate (h₁ : ¬ SingletonForm maxLength name t) (h₂ : ¬ ObjectForm 'C' name t)
      (h : ObjectForm 'T' name t) : HasKind maxLength name t .classTemplate
  | freeFunction (h₁ : ¬ SingletonForm maxLength name t) (h₂ : ¬ ObjectForm 'C' name t)
      (h₃ : ¬ ObjectForm 'T' name t) (h : FunctionForm name) :
      HasKind maxLength name t .freeFunction

lemma IsUpperLetter.not_isLowerLetter {c : Char} (h : IsUpperLetter c) : ¬ IsLowerLetter c :=
  fun hl => absurd (Char.le_trans hl.1 h.2) (by decide)

/-- A lower-case letter at the start leaves no other kind but that of functions. -/
lemma FunctionForm.hasKind {name : List Char} (h : FunctionForm name) (maxLength : Nat) (t : Char) :
    HasKind maxLength name t .freeFunction := by
  obtain ⟨c, hc, hl⟩ := h.1
  have hobject : ∀ letter, IsUpperLetter letter → ¬ ObjectForm letter name t := by
    rintro letter hu ⟨-, hhead, -⟩
    obtain rfl : c = letter := Option.some.inj (hc.symm.trans hhead)
    exact hu.not_isLowerLetter hl
  refine .freeFunction ?_ (hobject 'C' ⟨by decide, by decide⟩)
    (hobject 'T' ⟨by decide, by decide⟩) h
  rintro ⟨-, -, ⟨d, hd, hu⟩, -⟩
  obtain rfl : c = d := Option.some.inj (hc.symm.trans hd)
  exact hu.not_isLowerLetter hl

lemma HasKind.functionForm {maxLength : Nat} {name : List Char} {t : Char}
    (h : HasKind maxLength name t .freeFunction) : FunctionForm name := by
  cases h with
  | freeFunction _ _ _ h => exact h

/-! ### Reading a line -/

namespace Classifier

lemma unindent?_eq_some_iff {line body : List Char} :
    unindent? line = some body ↔
      ∃ indent, indent ≠ [] ∧ (∀ c ∈ indent, c = ' ') ∧ body.head? ≠ some ' ' ∧
        line = indent ++ body := by
  constructor
  · intro h
    obtain ⟨line, rfl⟩ : ∃ l, line = ' ' :: l := by
      unfold unindent? at h
      split at h
      · exact ⟨_, rfl⟩
      · simp at h
    obtain rfl : line.dropWhile (· == ' ') = body := by simpa [unindent?] using h
    refine ⟨' ' :: line.takeWhile (· == ' '), by simp, ?_, ?_, by simp⟩
    · intro c hc
      obtain rfl | hc := List.mem_cons.1 hc
      · rfl
      · simpa using List.all_eq_true.1 List.all_takeWhile c hc
    · intro hb
      have hn := List.head?_dropWhile_not (· == ' ') line
      rw [hb] at hn
      simp at hn
  · rintro ⟨indent, hne, hs, hb, rfl⟩
    obtain ⟨c, indent, rfl⟩ := List.exists_cons_of_ne_nil hne
    obtain rfl : c = ' ' := hs c (by simp)
    have hi : ∀ d ∈ indent, (d == ' ') = true := by
      intro d hd
      simpa using hs d (by simp [hd])
    simp [unindent?, List.dropWhile_append_of_pos hi,
      List.dropWhile_beq_eq_self_of_head?_ne hb]

lemma ofChar?_eq_some {ch : Char} {t : Terminator} (h : Terminator.ofChar? ch = some t) :
    IsTerminator ch := by
  unfold Terminator.ofChar? at h
  split at h
  · exact .inl rfl
  · exact .inr (.inl rfl)
  · exact .inr (.inr rfl)
  · simp at h

/-- The name that is read is as long as possible, since no terminator continues a name. -/
lemma nameAndTerminator?_eq_some_iff {text name : List Char} {t : Terminator} :
    nameAndTerminator? text = some (name, t) ↔
      ∃ ch rest, IsName name ∧ Terminator.ofChar? ch = some t ∧ text = name ++ ch :: rest := by
  constructor
  · intro h
    unfold nameAndTerminator? at h
    split at h
    · rename_i first more next rest hname hrest
      split at h
      · rename_i hstart
        obtain ⟨t', ht, he⟩ := Option.map_eq_some_iff.1 h
        cases he
        refine ⟨next, rest, .intro (isNameStart_iff.1 hstart) ?_, ht, ?_⟩
        · intro c hc
          have hall := List.all_eq_true.1 (List.all_takeWhile (p := isNameChar) (l := text))
          exact isNameChar_iff.1 (hall c (by simp [hname, hc]))
        · rw [← hname, ← hrest, List.takeWhile_append_dropWhile]
      · simp at h
    · simp at h
  · rintro ⟨ch, rest, hname, ht, rfl⟩
    have hall : ∀ c ∈ name, isNameChar c = true :=
      fun c hc => isNameChar_iff.2 (hname.continuesName hc)
    have hch : isNameChar ch = false :=
      Bool.eq_false_iff.2 fun h => (ofChar?_eq_some ht).not_continuesName (isNameChar_iff.1 h)
    have htake : (name ++ ch :: rest).takeWhile isNameChar = name := by
      simp [List.takeWhile_append_of_pos hall, hch]
    have hdrop : (name ++ ch :: rest).dropWhile isNameChar = ch :: rest := by
      simp [List.dropWhile_append_of_pos hall, hch]
    cases hname with
    | intro start more =>
      rw [nameAndTerminator?, htake, hdrop]
      simp [isNameStart_iff.2 start, ht]

lemma exists_ofChar?_of_isTerminator {ch : Char} (h : IsTerminator ch) :
    ∃ t, Terminator.ofChar? ch = some t := by
  obtain rfl | rfl | rfl := h
  · exact ⟨.scope, rfl⟩
  · exact ⟨.statement, rfl⟩
  · exact ⟨.pointer, rfl⟩

/-- The blanks in front of a namespace that starts with another character are the indentation. -/
lemma split?_eq_some_iff {c : Classifier} (hc : c.scope.toList.head? ≠ some ' ')
    {line name : List Char} {t : Terminator} :
    c.split? line = some (name, t) ↔
      ∃ ch, Terminator.ofChar? ch = some t ∧ Carries c.scope.toList line name ch := by
  simp only [split?, Option.bind_eq_bind, Option.bind_eq_some_iff, unindent?_eq_some_iff,
    Text.after?_eq_some_iff, nameAndTerminator?_eq_some_iff]
  constructor
  · rintro ⟨body, ⟨indent, hne, hs, -, rfl⟩, qualified, rfl, text, rfl, ch, rest, hname, ht, rfl⟩
    exact ⟨ch, ht, indent, rest, hne, hs, hname, ofChar?_eq_some ht, by simp⟩
  · rintro ⟨ch, ht, indent, rest, hne, hs, hname, -, rfl⟩
    have hb : (c.scope.toList ++ [':', ':'] ++ name ++ ch :: rest).head? ≠ some ' ' := by
      cases h : c.scope.toList with
      | nil => simp
      | cons d scope => simpa [h] using hc
    exact ⟨_, ⟨indent, hne, hs, hb, by simp⟩, _, by simp, _, rfl, ch, rest, hname, ht, rfl⟩

/-- The indentation leaves nothing of a namespace that starts with a blank. -/
lemma split?_eq_none {c : Classifier} (hc : c.scope.toList.head? = some ' ') (line : List Char) :
    c.split? line = none := by
  rw [Option.eq_none_iff_forall_ne_some]
  rintro ⟨name, t⟩ h
  simp only [split?, Option.bind_eq_bind, Option.bind_eq_some_iff, unindent?_eq_some_iff,
    Text.after?_eq_some_iff] at h
  obtain ⟨body, ⟨indent, -, -, hb, -⟩, qualified, rfl, -⟩ := h
  obtain ⟨scope, hs⟩ : ∃ scope, c.scope.toList = ' ' :: scope := List.head?_eq_some_iff.1 hc
  simp [hs] at hb

/-! ### The kind of a name -/

lemma ofChar?_eq_pointer_iff {ch : Char} {t : Terminator} (h : Terminator.ofChar? ch = some t) :
    t = .pointer ↔ ch = '*' := by
  obtain rfl | rfl | rfl := ofChar?_eq_some h
  all_goals
    obtain rfl := Option.some.inj h
    decide

lemma isSingletonName_iff {c : Classifier} {name : List Char} {ch : Char} {t : Terminator}
    (ht : t = .pointer ↔ ch = '*') :
    (t != .pointer && c.isSingletonName name) = true ↔
      SingletonForm c.maxSingletonLength name ch := by
  simp only [isSingletonName, SingletonForm, ← isUpper_iff, ← isDigit_iff, Bool.and_eq_true,
    bne_iff_ne, ne_eq, ht, decide_eq_true_eq, List.all_eq_true, Bool.or_eq_true, Option.any_eq_true,
    Option.mem_def]

/-- Past the singletons, the letter at the start of a name of two or more characters decides. -/
lemma kind?_cons_cons {c : Classifier} {first second : Char} {rest : List Char} {t : Terminator}
    (h : (t != .pointer && c.isSingletonName (first :: second :: rest)) = false) :
    c.kind? (first :: second :: rest) t =
      if t ≠ .pointer ∧ first = 'C' then some .objectClass
      else if t ≠ .pointer ∧ first = 'T' then some .classTemplate
      else if first.isLower then some .freeFunction else none := by
  simp [kind?, h]

/-- The tests of the classifier are the forms of the grammar, in the same order. -/
lemma kind?_eq_some_iff {c : Classifier} {name : List Char} {ch : Char} {t : Terminator}
    (ht : t = .pointer ↔ ch = '*') {kind : SymbolKind} :
    c.kind? name t = some kind ↔ HasKind c.maxSingletonLength name ch kind := by
  by_cases hs : SingletonForm c.maxSingletonLength name ch
  · have hk : c.kind? name t = some .globalSingleton := by
      unfold kind?
      rw [if_pos ((isSingletonName_iff ht).2 hs)]
    rw [hk]
    constructor
    · intro h
      obtain rfl := Option.some.inj h
      exact .globalSingleton hs
    · intro h
      cases h with
      | globalSingleton => rfl
      | objectClass h₁ | classTemplate h₁ | freeFunction h₁ => exact absurd hs h₁
  · have hn := Bool.eq_false_iff.2 fun h => hs ((isSingletonName_iff ht).1 h)
    match name with
    | [] | [_] =>
      simp only [kind?, hn, Bool.false_eq_true, if_false, reduceCtorEq, false_iff]
      intro h
      cases h with
      | globalSingleton h => exact hs h
      | objectClass _ h | classTemplate _ _ h => simp [ObjectForm] at h
      | freeFunction _ _ _ h => simp [FunctionForm] at h
    | first :: second :: rest =>
      have hobject : ∀ letter, ObjectForm letter (first :: second :: rest) ch ↔
          t ≠ .pointer ∧ first = letter := by
        simp [ObjectForm, ht]
      have hfunction : FunctionForm (first :: second :: rest) ↔ first.isLower = true := by
        simp [FunctionForm, isLower_iff]
      rw [kind?_cons_cons hn]
      constructor
      · intro h
        split at h
        · obtain rfl := Option.some.inj h
          exact .objectClass hs ((hobject 'C').2 ‹_›)
        rename_i hC
        rw [← hobject] at hC
        split at h
        · obtain rfl := Option.some.inj h
          exact .classTemplate hs hC ((hobject 'T').2 ‹_›)
        rename_i hT
        rw [← hobject] at hT
        split at h
        · obtain rfl := Option.some.inj h
          exact .freeFunction hs hC hT (hfunction.2 ‹_›)
        · cases h
      · intro h
        cases h with
        | globalSingleton h => exact absurd h hs
        | objectClass _ h => rw [if_pos ((hobject _).1 h)]
        | classTemplate _ h₂ h =>
          rw [if_neg (mt (hobject _).2 h₂), if_pos ((hobject _).1 h)]
        | freeFunction _ h₂ h₃ h =>
          rw [if_neg (mt (hobject _).2 h₂), if_neg (mt (hobject _).2 h₃), if_pos (hfunction.1 h)]

/-! ### Lines and symbols -/

lemma ofChar?_injective {ch ch' : Char} {t : Terminator} (h : Terminator.ofChar? ch = some t)
    (h' : Terminator.ofChar? ch' = some t) : ch = ch' := by
  obtain rfl | rfl | rfl := ofChar?_eq_some h <;> obtain rfl := Option.some.inj h <;>
    obtain rfl | rfl | rfl := ofChar?_eq_some h' <;> first | rfl | cases h'

/-- A line carries one name at most: it is the one that the classifier reads. -/
lemma carries_unique {scope line : List Char} (hs : scope.head? ≠ some ' ')
    {name name' : List Char} {ch ch' : Char} (h : Carries scope line name ch)
    (h' : Carries scope line name' ch') : name = name' ∧ ch = ch' := by
  have hc : (Classifier.mk (String.ofList scope) 0).scope.toList.head? ≠ some ' ' := by simpa
  have hread : ∀ {n d}, Carries scope line n d →
      ∃ t, Terminator.ofChar? d = some t ∧
        (Classifier.mk (String.ofList scope) 0).split? line = some (n, t) := by
    intro n d hn
    obtain ⟨-, -, -, -, -, hd, -⟩ := id hn
    obtain ⟨t, ht⟩ := exists_ofChar?_of_isTerminator hd
    exact ⟨t, ht, (split?_eq_some_iff hc).2 ⟨d, ht, by simpa using hn⟩⟩
  obtain ⟨t, ht, hl⟩ := hread h
  obtain ⟨t', ht', hl'⟩ := hread h'
  obtain ⟨rfl, rfl⟩ : name = name' ∧ t = t' := by simpa [hl] using hl'
  exact ⟨rfl, ofChar?_injective ht ht'⟩

lemma classify_eq_some_iff {c : Classifier} {line : String} {s : Symbol} :
    c.classify line = some s ↔
      ∃ t, c.split? line.toList = some (s.name.toList, t) ∧
        c.kind? s.name.toList t = some s.kind := by
  simp only [classify, Option.bind_eq_bind, Option.bind_eq_some_iff, Option.pure_def,
    Option.some.injEq]
  constructor
  · rintro ⟨⟨name, t⟩, hsplit, kind, hkind, rfl⟩
    exact ⟨t, by simpa using hsplit, by simpa using hkind⟩
  · rintro ⟨t, hsplit, hkind⟩
    exact ⟨_, hsplit, s.kind, hkind, by simp⟩

/-- A line is recognized exactly when the grammar finds a symbol in it. -/
lemma classify_eq_some_iff_carries {c : Classifier} (hc : c.scope.toList.head? ≠ some ' ')
    {line : String} {s : Symbol} :
    c.classify line = some s ↔
      ∃ t, Carries c.scope.toList line.toList s.name.toList t ∧
        HasKind c.maxSingletonLength s.name.toList t s.kind := by
  rw [classify_eq_some_iff]
  constructor
  · rintro ⟨t, hsplit, hkind⟩
    obtain ⟨ch, ht, hcarries⟩ := (split?_eq_some_iff hc).1 hsplit
    exact ⟨ch, hcarries, (kind?_eq_some_iff (ofChar?_eq_pointer_iff ht)).1 hkind⟩
  · rintro ⟨ch, hcarries, hkind⟩
    obtain ⟨-, -, -, -, -, hterm, -⟩ := id hcarries
    obtain ⟨t, ht⟩ := exists_ofChar?_of_isTerminator hterm
    exact ⟨t, (split?_eq_some_iff hc).2 ⟨ch, ht, hcarries⟩,
      (kind?_eq_some_iff (ofChar?_eq_pointer_iff ht)).2 hkind⟩

lemma classify_eq_none {c : Classifier} (hc : c.scope.toList.head? = some ' ') (line : String) :
    c.classify line = none := by
  simp [classify, split?_eq_none hc]

/-- A recognized line carries its symbol, whatever the namespace is. -/
lemma carries_of_classify {c : Classifier} {line : String} {s : Symbol}
    (h : c.classify line = some s) :
    ∃ t, Carries c.scope.toList line.toList s.name.toList t ∧
      HasKind c.maxSingletonLength s.name.toList t s.kind := by
  by_cases hc : c.scope.toList.head? = some ' '
  · simp [classify_eq_none hc] at h
  · exact (classify_eq_some_iff_carries hc).1 h

lemma isName_of_classify {c : Classifier} {line : String} {s : Symbol}
    (h : c.classify line = some s) : IsName s.name.toList := by
  obtain ⟨t, ⟨-, -, -, -, hname, -⟩, -⟩ := carries_of_classify h
  exact hname

/-- A line is recognized exactly when the grammar finds a symbol in it, which is then the only one.
With a namespace that starts with a blank no line is recognized. -/
theorem classify_iff_carries (c : Classifier) (line : String) :
    (c.scope.toList.head? ≠ some ' ' →
      (∀ s : Symbol, c.classify line = some s ↔
        ∃ t, Carries c.scope.toList line.toList s.name.toList t ∧
          HasKind c.maxSingletonLength s.name.toList t s.kind) ∧
      ∀ name name' t t', Carries c.scope.toList line.toList name t →
        Carries c.scope.toList line.toList name' t' → name = name' ∧ t = t') ∧
    (c.scope.toList.head? = some ' ' → c.classify line = none) :=
  ⟨fun hc => ⟨fun _ => classify_eq_some_iff_carries hc, fun _ _ _ _ => carries_unique hc⟩,
    fun hc => classify_eq_none hc line⟩

/-- A name of five capitals and digits is no singleton any more but a class, and the line carries
no other name. Behind a namespace that starts with a blank the same line is nothing. -/
theorem classify_five_capitals :
    (∃ t, Carries "pwx".toList "  pwx::CRC32: x".toList "CRC32".toList t ∧
      HasKind 3 "CRC32".toList t .objectClass) ∧
    (∀ name t, Carries "pwx".toList "  pwx::CRC32: x".toList name t → name = "CRC32".toList) ∧
    (Classifier.mk " pwx" 3).classify "  pwx::CRC32: x" = none := by
  obtain ⟨hiff, hunique⟩ := (classify_iff_carries ⟨"pwx", 3⟩ "  pwx::CRC32: x").1 (by decide)
  obtain ⟨t, ht⟩ := (hiff ⟨.objectClass, "CRC32"⟩).1 (by decide)
  refine ⟨⟨t, ht⟩, fun name t' h => ?_, (classify_iff_carries ⟨" pwx", 3⟩ _).2 (by decide)⟩
  exact (hunique _ _ _ _ h ht.1).1

end Classifier

end SymbolProbe
