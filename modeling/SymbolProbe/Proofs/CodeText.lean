import Mathlib.Data.List.Nodup
import SymbolProbe.Proofs.SourceMarks

/-!
# Code, brackets and declarations

What a compiler sees in a text first. A double quote opens a literal, in which a backslash takes the
next character with it, and the code is what stands outside of the literals (`codeOf?`). In the code
every bracket has to be closed by one of its own form, the latest first (`openAfter?`). A statement
declares the name behind its type and passes the names between the parentheses to a constructor
(`declared?`, `passed`), and the statements of a function body have to declare a name once, before
they pass it (`IsWellScoped`).

All of it is put together from the parts of a text: `Reads.append` for literals and brackets, and
`IsWellScoped.concat` for declarations.
-/

namespace SymbolProbe

/-! ### Literals -/

/-- Where a character stands. -/
inductive Place
  | code
  | literal
  /-- Behind a backslash in a literal. -/
  | escape
deriving DecidableEq, Repr

/-- The code of a text that starts at a place; there is none if a literal is left open. -/
def codeFrom? : Place → List Char → Option (List Char)
  | .code, [] => some []
  | .literal, [] => none
  | .escape, [] => none
  | .code, c :: t => if c = '"' then codeFrom? .literal t else (codeFrom? .code t).map (c :: ·)
  | .literal, c :: t =>
    if c = '"' then codeFrom? .code t
    else codeFrom? (if c = '\\' then .escape else .literal) t
  | .escape, _ :: t => codeFrom? .literal t

/-- The code of a text, which is what stands outside of its literals. -/
def codeOf? (t : List Char) : Option (List Char) := codeFrom? .code t

lemma codeFrom?_append {place : Place} {a c : List Char} (h : codeFrom? place a = some c)
    (b : List Char) : codeFrom? place (a ++ b) = (codeOf? b).map (c ++ ·) := by
  induction a generalizing place c with
  | nil =>
    cases place with
    | code =>
      obtain rfl : [] = c := Option.some.inj h
      simp [codeOf?]
    | literal | escape => cases h
  | cons d a ih =>
    cases place with
    | code =>
      rw [codeFrom?] at h
      rw [List.cons_append, codeFrom?]
      by_cases hd : d = '"'
      · rw [if_pos hd] at h ⊢
        exact ih h
      · rw [if_neg hd] at h ⊢
        obtain ⟨e, he, rfl⟩ := Option.map_eq_some_iff.1 h
        rw [ih he, Option.map_map]
        rfl
    | literal =>
      rw [codeFrom?] at h
      rw [List.cons_append, codeFrom?]
      by_cases hd : d = '"'
      · rw [if_pos hd] at h ⊢
        exact ih h
      · rw [if_neg hd] at h ⊢
        exact ih h
    | escape => exact ih h

/-- The code of two texts, one behind the other. -/
lemma codeOf?_append {a b c d : List Char} (ha : codeOf? a = some c) (hb : codeOf? b = some d) :
    codeOf? (a ++ b) = some (c ++ d) := by
  rw [codeOf?, codeFrom?_append ha, hb, Option.map_some]

lemma codeOf?_of_not_mem {t : List Char} (h : '"' ∉ t) : codeOf? t = some t := by
  induction t with
  | nil => rfl
  | cons c t ih =>
    simp only [List.mem_cons, not_or] at h
    have hrest : codeFrom? .code t = some t := ih h.2
    rw [codeOf?, codeFrom?, if_neg (Ne.symm h.1), hrest, Option.map_some]

/-- A literal without quotes and backslashes inside is no code. -/
lemma codeOf?_literal {t : List Char} (hquote : '"' ∉ t) (hescape : '\\' ∉ t) :
    codeOf? ('"' :: (t ++ ['"'])) = some [] := by
  have hinside : codeFrom? .literal (t ++ ['"']) = some [] := by
    induction t with
    | nil => rfl
    | cons c t ih =>
      simp only [List.mem_cons, not_or] at hquote hescape
      rw [List.cons_append, codeFrom?, if_neg (Ne.symm hquote.1), if_neg (Ne.symm hescape.1)]
      exact ih hquote.2 hescape.2
  rw [codeOf?, codeFrom?, if_pos rfl, hinside]

/-! ### Brackets -/

/-- The bracket that closes a bracket. -/
def closing? : Char → Option Char
  | '(' => some ')'
  | '[' => some ']'
  | '{' => some '}'
  | _ => none

/-- The closing brackets that are due behind a character, the next one first. -/
def nest? (due : List Char) (c : Char) : Option (List Char) :=
  match closing? c with
  | some d => some (d :: due)
  | none =>
    if c ∉ [')', ']', '}'] then some due
    else if due.head? = some c then some due.tail
    else none

/-- The closing brackets that are due behind a text; there are none if brackets do not match. -/
def openAfter? (due t : List Char) : Option (List Char) := t.foldlM nest? due

lemma openAfter?_append (due a b : List Char) :
    openAfter? due (a ++ b) = (openAfter? due a).bind (openAfter? · b) := by
  rw [openAfter?, List.foldlM_append]
  rfl

/-- What is due later on stays due. -/
lemma nest?_append {due due' : List Char} {c : Char} (h : nest? due c = some due')
    (later : List Char) : nest? (due ++ later) c = some (due' ++ later) := by
  unfold nest? at h ⊢
  split at h
  · obtain rfl := Option.some.inj h
    rfl
  · split at h
    · obtain rfl := Option.some.inj h
      rename_i hc
      rw [if_pos hc]
    · split at h
      · rename_i hc hhead
        obtain rfl := Option.some.inj h
        obtain ⟨rest, rfl⟩ := List.head?_eq_some_iff.1 hhead
        rw [if_neg hc]
        simp
      · cases h

lemma openAfter?_append_left {due due' t : List Char} (h : openAfter? due t = some due')
    (later : List Char) : openAfter? (due ++ later) t = some (due' ++ later) := by
  induction t generalizing due with
  | nil =>
    obtain rfl : due = due' := Option.some.inj h
    rfl
  | cons c t ih =>
    obtain ⟨next, hnext, hrest⟩ := Option.bind_eq_some_iff.1 h
    exact Option.bind_eq_some_iff.2 ⟨next ++ later, nest?_append hnext later, ih hrest⟩

lemma openAfter?_eq_self {t : List Char} (h : ∀ c ∈ t, c ∉ ['(', '[', '{', ')', ']', '}'])
    (due : List Char) : openAfter? due t = some due := by
  induction t with
  | nil => rfl
  | cons c t ih =>
    have hc := h c (by simp)
    have hnest : nest? due c = some due := by
      simp only [List.mem_cons, List.not_mem_nil, or_false, not_or] at hc
      obtain ⟨h₁, h₂, h₃, h₄, h₅, h₆⟩ := hc
      have hclosing : closing? c = none := by
        unfold closing?
        split <;> first | rfl | contradiction
      simp [nest?, hclosing, h₄, h₅, h₆]
    exact Option.bind_eq_some_iff.2 ⟨due, hnest, ih fun d hd => h d (by simp [hd])⟩

/-! ### Texts that are read -/

/-- The literals of a text are closed, and its code takes the brackets that are due to others. -/
def Reads (t due due' : List Char) : Prop := (codeOf? t).bind (openAfter? due) = some due'

instance (t due due' : List Char) : Decidable (Reads t due due') :=
  inferInstanceAs (Decidable (_ = _))

namespace Reads

variable {a b t due due' due'' : List Char}

lemma exists_code (h : Reads t due due') :
    ∃ code, codeOf? t = some code ∧ openAfter? due code = some due' :=
  Option.bind_eq_some_iff.1 h

lemma append (ha : Reads a due due') (hb : Reads b due' due'') : Reads (a ++ b) due due'' := by
  obtain ⟨c, hc, hopen⟩ := ha.exists_code
  obtain ⟨d, hd, hclose⟩ := hb.exists_code
  rw [Reads, codeOf?_append hc hd, Option.bind_some, openAfter?_append, hopen, Option.bind_some,
    hclose]

/-- What is due later on stays due. -/
lemma frame (h : Reads t due due') (later : List Char) :
    Reads t (due ++ later) (due' ++ later) := by
  obtain ⟨code, hcode, hopen⟩ := h.exists_code
  rw [Reads, hcode, Option.bind_some, openAfter?_append_left hopen]

/-- A text whose brackets are closed can stand anywhere. -/
lemma closed (h : Reads t [] []) (due : List Char) : Reads t due due := h.frame due

/-- A literal leaves the brackets as they are. -/
lemma literal (hquote : '"' ∉ t) (hescape : '\\' ∉ t) (due : List Char) :
    Reads ('"' :: (t ++ ['"'])) due due := by
  rw [Reads, codeOf?_literal hquote hescape]
  rfl

end Reads

/-! ### Types -/

/-- The characters of qualified names and of instances of templates. -/
def isTypeChar (c : Char) : Bool := isNameChar c || [':', '<', '>', ','].contains c

/-- A text of such characters. -/
def IsTypeText (t : List Char) : Prop := ∀ c ∈ t, isTypeChar c = true

instance (t : List Char) : Decidable (IsTypeText t) := List.decidableBAll _ t

lemma IsName.isTypeText {name : List Char} (h : IsName name) : IsTypeText name := by
  intro c hc
  simp [isTypeChar, isNameChar_iff.2 (h.continuesName hc)]

namespace IsTypeText

variable {a b t : List Char}

lemma append (ha : IsTypeText a) (hb : IsTypeText b) : IsTypeText (a ++ b) := by
  intro c hc
  obtain hc | hc := List.mem_append.1 hc
  · exact ha c hc
  · exact hb c hc

lemma not_mem (h : IsTypeText t) {c : Char} (hc : isTypeChar c = false) : c ∉ t := by
  intro hmem
  exact absurd (h c hmem) (by simp [hc])

/-- Type texts are code without brackets. -/
lemma reads (h : IsTypeText t) (due : List Char) : Reads t due due := by
  have hbrackets : ∀ c ∈ t, c ∉ ['(', '[', '{', ')', ']', '}'] := by
    intro c hc hbracket
    have hnone : ∀ d ∈ ['(', '[', '{', ')', ']', '}'], isTypeChar d = false :=
      List.forall_iff_forall_mem.1 (by decide)
    exact h.not_mem (hnone c hbracket) hc
  rw [Reads, codeOf?_of_not_mem (h.not_mem (by decide)), Option.bind_some,
    openAfter?_eq_self hbrackets]

end IsTypeText

/-! ### Declarations -/

/-- The words of a text, parted by the characters with a property. -/
def words (parts : Char → Bool) (t : List Char) : List (List Char) :=
  (t.splitOnP parts).filter (· ≠ [])

/-- What a statement starts with, up to the arguments, the value or the end. -/
def declarator (code : List Char) : List Char := code.takeWhile fun c => !(['(', '=', ';'].contains c)

/-- The name that a statement declares, which stands behind the type. -/
def declared? (code : List Char) : Option (List Char) :=
  match (words (fun c => c == ' ' || c == '\t') (declarator code)).reverse with
  | name :: _ :: _ => if IsName name then some name else none
  | _ => none

/-- The names in a text. -/
def namesIn (t : List Char) : List (List Char) :=
  (words (fun c => !isNameChar c) t).filter fun word => IsName word

/-- The names in the parentheses of a statement that declares one. -/
def passed (code : List Char) : List (List Char) :=
  if (declared? code).isSome then namesIn (code.dropWhile (· ≠ '(')) else []

section Typed

variable {type name rest : List Char} {c : Char}

lemma not_mem_typed (htype : IsTypeText type) (hname : IsName name) {d : Char}
    (hd : isTypeChar d = false) (hblank : d ≠ ' ' ∧ d ≠ '\t') :
    d ∉ '\t' :: (type ++ ' ' :: name) := by
  simp [hblank, htype.not_mem hd, hname.isTypeText.not_mem hd]

lemma typed_eq (rest : List Char) :
    '\t' :: (type ++ ' ' :: (name ++ rest)) = '\t' :: (type ++ ' ' :: name) ++ rest := by
  simp

/-- A type and a name are what the statement starts with. -/
lemma declarator_typed (htype : IsTypeText type) (hname : IsName name) (hc : c ∈ ['(', '=', ';']) :
    declarator ('\t' :: (type ++ ' ' :: (name ++ c :: rest))) = '\t' :: (type ++ ' ' :: name) := by
  have hfront : ∀ d ∈ '\t' :: (type ++ ' ' :: name), (!(['(', '=', ';'].contains d)) = true := by
    intro d hd
    rw [Bool.not_eq_true', List.contains_eq_mem, decide_eq_false_iff_not]
    intro hend
    have hends : ∀ e ∈ ['(', '=', ';'], isTypeChar e = false ∧ e ≠ ' ' ∧ e ≠ '\t' :=
      List.forall_iff_forall_mem.1 (by decide)
    exact not_mem_typed htype hname (hends d hend).1 (hends d hend).2 hd
  rw [declarator, typed_eq, List.takeWhile_append_of_pos hfront,
    List.takeWhile_cons_of_neg (by simp [hc]), List.append_nil]

/-- A statement declares the name behind a type. -/
lemma declared?_typed (htype : IsTypeText type) (hne : type ≠ []) (hname : IsName name)
    (hc : c ∈ ['(', '=', ';']) :
    declared? ('\t' :: (type ++ ' ' :: (name ++ c :: rest))) = some name := by
  have hword : ∀ {t : List Char}, IsTypeText t → ∀ d ∈ t, (d == ' ' || d == '\t') = false := by
    intro t ht d hd
    rw [Bool.or_eq_false_iff, beq_eq_false_iff_ne, beq_eq_false_iff_ne]
    constructor
    · rintro rfl
      exact ht.not_mem (by decide) hd
    · rintro rfl
      exact ht.not_mem (by decide) hd
  have hwords : words (fun d => d == ' ' || d == '\t') ('\t' :: (type ++ ' ' :: name)) =
      [type, name] := by
    have hne' : name ≠ [] := by
      rintro rfl
      cases hname
    have hnone : ∀ d ∈ ([] : List Char), (d == ' ' || d == '\t') = false := by simp
    have htab := List.splitOnP_append_cons_of_forall_mem hnone '\t' rfl (type ++ ' ' :: name)
    rw [List.nil_append] at htab
    rw [words, htab, List.splitOnP_append_cons_of_forall_mem (hword htype) ' ' rfl,
      List.splitOnP_eq_singleton (hword hname.isTypeText)]
    simp [hne, hne']
  rw [declared?, declarator_typed htype hname hc, hwords]
  simp [hname]

/-- The names that are passed stand in the parentheses behind the declared one. -/
lemma passed_typed (htype : IsTypeText type) (hne : type ≠ []) (hname : IsName name)
    (hc : c ∈ ['(', '=', ';']) :
    passed ('\t' :: (type ++ ' ' :: (name ++ c :: rest))) =
      namesIn ((c :: rest).dropWhile (· ≠ '(')) := by
  have hfront : ∀ d ∈ '\t' :: (type ++ ' ' :: name), decide (d ≠ '(') = true := by
    intro d hd
    rw [decide_eq_true_iff]
    rintro rfl
    exact not_mem_typed htype hname (by decide) (by decide) hd
  rw [passed, declared?_typed htype hne hname hc, if_pos Option.isSome_some, typed_eq,
    List.dropWhile_append_of_pos hfront]

example : passed "\ta::CLockGuard test_obj(&lock_me);".toList = ["lock_me".toList] := by decide

end Typed

/-- Every name that a statement passes is declared by an earlier one, and no name is declared
twice. -/
structure IsWellScoped (statements : List (List Char)) : Prop where
  declared : ∀ front s back, statements = front ++ s :: back →
    ∀ name ∈ passed s, name ∈ front.filterMap declared?
  nodup : (statements.filterMap declared?).Nodup

namespace IsWellScoped

lemma nil : IsWellScoped [] where
  declared := by simp
  nodup := by simp

/-- One more statement may pass the names that are declared, and declares another one. -/
lemma concat {statements : List (List Char)} (h : IsWellScoped statements) {s : List Char}
    (hpassed : ∀ name ∈ passed s, name ∈ statements.filterMap declared?)
    (hdeclared : ∀ name ∈ declared? s, name ∉ statements.filterMap declared?) :
    IsWellScoped (statements ++ [s]) where
  declared := by
    intro front t back hsplit
    obtain rfl | ⟨back, last, rfl⟩ := List.eq_nil_or_concat' back
    · obtain ⟨rfl, hlast⟩ := List.append_inj' hsplit rfl
      obtain rfl : s = t := List.singleton_inj.1 hlast
      exact hpassed
    · rw [← List.cons_append, ← List.append_assoc] at hsplit
      exact h.declared front t back (List.append_inj' hsplit rfl).1
  nodup := by
    cases hs : declared? s with
    | none => simpa [List.filterMap_append, hs] using h.nodup
    | some name =>
      rw [List.filterMap_append, List.filterMap_cons_some hs, List.filterMap_nil,
        ← List.concat_eq_append]
      exact List.Nodup.concat (hdeclared name hs) h.nodup

end IsWellScoped

/-! ### Lines of code -/

/-- Whether a line is an include directive. -/
def isDirective (line : String) : Bool := "#include".toList.isPrefixOf line.toList

/-- The code of a line. -/
def lineCode (line : String) : List Char := (codeOf? line.toList).getD []

/-- The code of lines, without the include directives. -/
def codeText (lines : List String) : List Char :=
  (lines.filter fun line => !isDirective line).flatMap lineCode

/-! ### Reading lines -/

/-- A line is read by itself; include directives leave the brackets alone. -/
inductive ReadsLine (line : String) : List Char → List Char → Prop
  | directive {due : List Char} (hline : isDirective line = true)
      (hcode : (codeOf? line.toList).isSome) : ReadsLine line due due
  | code {due due' : List Char} (hline : isDirective line = false)
      (h : Reads line.toList due due') : ReadsLine line due due'

/-- Lines are read one after the other. -/
inductive ReadsLines : List String → List Char → List Char → Prop
  | nil {due : List Char} : ReadsLines [] due due
  | cons {line : String} {lines : List String} {due due' due'' : List Char}
      (h : ReadsLine line due due') (hs : ReadsLines lines due' due'') :
      ReadsLines (line :: lines) due due''

lemma Reads.line {line : String} {due due' : List Char} (h : Reads line.toList due due')
    (hline : line.toList.head? ≠ some '#') : ReadsLine line due due' := by
  have hdirective : isDirective line = false := by
    rw [isDirective, Bool.eq_false_iff]
    intro hstarts
    obtain ⟨rest, hrest⟩ := List.isPrefixOf_iff_prefix.1 hstarts
    exact hline (by simp [← hrest])
  exact .code hdirective h

/-- A statement that closes its brackets can stand on a line of its own. -/
lemma Reads.indented {s : String} (h : Reads s.toList [] []) (due : List Char) :
    ReadsLine (indented 1 s) due due := by
  have htab : Reads ['\t'] due due := (by decide : Reads ['\t'] [] []).closed due
  have hreads : Reads (SymbolProbe.indented 1 s).toList due due := by
    rw [toList_indented]
    exact htab.append (h.closed due)
  exact hreads.line (by simp)

namespace ReadsLines

variable {lines ls ks : List String} {due due' due'' : List Char}

lemma append (hl : ReadsLines ls due due') (hk : ReadsLines ks due' due'') :
    ReadsLines (ls ++ ks) due due'' := by
  induction hl with
  | nil => exact hk
  | cons h _ ih => exact .cons h (ih hk)

lemma singleton {line : String} (h : ReadsLine line due due') : ReadsLines [line] due due' :=
  .cons h .nil

lemma map {α : Type} {xs : List α} {line : α → String}
    (h : ∀ x ∈ xs, ReadsLine (line x) due due) : ReadsLines (xs.map line) due due := by
  induction xs with
  | nil => exact .nil
  | cons x xs ih => exact .cons (h x (by simp)) (ih fun y hy => h y (by simp [hy]))

lemma flatMap {α : Type} {xs : List α} {lines : α → List String}
    (h : ∀ x ∈ xs, ReadsLines (lines x) due due) : ReadsLines (xs.flatMap lines) due due := by
  induction xs with
  | nil => exact .nil
  | cons x xs ih =>
    rw [List.flatMap_cons]
    exact (h x (by simp)).append (ih fun y hy => h y (by simp [hy]))

lemma isSome_codeOf? (h : ReadsLines lines due due') :
    ∀ line ∈ lines, (codeOf? line.toList).isSome := by
  induction h with
  | nil => simp
  | cons h _ ih =>
    refine List.forall_mem_cons.2 ⟨?_, ih⟩
    cases h with
    | directive _ hcode => exact hcode
    | code _ h =>
      obtain ⟨code, hcode, -⟩ := h.exists_code
      simp [hcode]

lemma openAfter?_codeText (h : ReadsLines lines due due') :
    openAfter? due (codeText lines) = some due' := by
  induction h with
  | nil => rfl
  | cons h _ ih =>
    cases h with
    | directive hline _ =>
      rw [codeText, List.filter_cons_of_neg (by simp [hline])]
      exact ih
    | code hline h =>
      obtain ⟨code, hcode, hopen⟩ := h.exists_code
      rw [codeText, List.filter_cons_of_pos (by simp [hline]), List.flatMap_cons,
        openAfter?_append, lineCode, hcode, Option.getD_some, hopen]
      exact ih

end ReadsLines

end SymbolProbe
