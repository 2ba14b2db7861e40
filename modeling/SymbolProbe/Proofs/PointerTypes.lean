import Mathlib.Data.List.Infix
import Mathlib.Data.List.Nodup
import Mathlib.Data.Set.Function
import SymbolProbe.Proofs.BuiltinSource

/-!
# Types of function pointers

The type of a pointer to a function is a text in which the types of the parameters are joined by
commas. It can be read back if the brackets of every parameter are balanced and a comma inside a
parameter stands between brackets: a comma outside of all brackets then parts two parameters
(`eq_of_flatMap_comma_eq`). So different overloads of a function have different addresses in the
table (`Signature.pointerTypes_differ`), and the built-in overloads are of this form.
-/

namespace SymbolProbe

/-! ### Brackets -/

/-- The brackets that open, angle brackets included. -/
def isOpening (c : Char) : Bool := ['(', '<', '[', '{'].contains c

/-- The brackets that close. -/
def isClosing (c : Char) : Bool := [')', '>', ']', '}'].contains c

/-- The number of brackets that are opened in a text, less those that are closed. -/
def depth (t : List Char) : Int := t.countP isOpening - t.countP isClosing

@[simp] lemma depth_nil : depth [] = 0 := rfl

@[simp] lemma depth_append (a b : List Char) : depth (a ++ b) = depth a + depth b := by
  simp only [depth, List.countP_append]
  omega

/-- The brackets of a text are balanced, whatever their forms, and its commas stand between
brackets. -/
structure IsBalanced (t : List Char) : Prop where
  depth_nonneg {front back : List Char} (h : t = front ++ back) : 0 ≤ depth front
  depth_eq_zero : depth t = 0
  comma {front back : List Char} (h : t = front ++ ',' :: back) : 1 ≤ depth front

lemma isBalanced_iff {t : List Char} :
    IsBalanced t ↔ depth t = 0 ∧
      ∀ front ∈ t.inits, 0 ≤ depth front ∧ (front ++ [','] <+: t → 1 ≤ depth front) := by
  simp only [List.mem_inits]
  constructor
  · intro h
    refine ⟨h.depth_eq_zero, fun front hfront => ⟨?_, fun hcomma => ?_⟩⟩
    · obtain ⟨back, rfl⟩ := hfront
      exact h.depth_nonneg rfl
    · obtain ⟨back, hback⟩ := hcomma
      rw [List.append_assoc, List.singleton_append] at hback
      exact h.comma hback.symm
  · rintro ⟨hzero, hfronts⟩
    refine ⟨?_, hzero, ?_⟩
    · rintro front back rfl
      exact (hfronts front (List.prefix_append _ _)).1
    · rintro front back rfl
      exact (hfronts front (List.prefix_append _ _)).2 ⟨back, by simp⟩

instance (t : List Char) : Decidable (IsBalanced t) := decidable_of_iff _ isBalanced_iff.symm

namespace IsBalanced

variable {a b t : List Char}

lemma append (ha : IsBalanced a) (hb : IsBalanced b) : IsBalanced (a ++ b) where
  depth_nonneg h := by
    obtain ⟨inner, rfl, hb'⟩ | ⟨rest, ha', -⟩ := List.append_eq_append_iff.1 h
    · rw [depth_append, ha.depth_eq_zero, Int.zero_add]
      exact hb.depth_nonneg hb'
    · exact ha.depth_nonneg ha'
  depth_eq_zero := by rw [depth_append, ha.depth_eq_zero, hb.depth_eq_zero, Int.zero_add]
  comma {front back} h := by
    obtain ⟨inner, rfl, hb'⟩ | ⟨rest, ha', hback⟩ := List.append_eq_append_iff.1 h
    · rw [depth_append, ha.depth_eq_zero, Int.zero_add]
      exact hb.comma hb'
    · cases rest with
      | nil =>
        have hfront : b = [] ++ ',' :: back := hback.symm
        have hzero := hb.comma hfront
        simp at hzero
      | cons c rest =>
        obtain ⟨rfl, -⟩ := List.cons.inj hback
        exact ha.comma ha'

/-- A text without brackets and commas is balanced. -/
lemma of_flat (hopening : ∀ c ∈ t, isOpening c = false) (hclosing : ∀ c ∈ t, isClosing c = false)
    (hcomma : ',' ∉ t) : IsBalanced t := by
  have hdepth : ∀ front, (∀ c ∈ front, c ∈ t) → depth front = 0 := by
    intro front hfront
    have hopened : front.countP isOpening = 0 :=
      List.countP_eq_zero.2 fun c hc => by simp [hopening c (hfront c hc)]
    have hclosed : front.countP isClosing = 0 :=
      List.countP_eq_zero.2 fun c hc => by simp [hclosing c (hfront c hc)]
    rw [depth, hopened, hclosed, Int.sub_self]
  refine ⟨?_, hdepth t fun c hc => hc, ?_⟩
  · rintro front back rfl
    rw [hdepth front fun c hc => by simp [hc]]
  · rintro front back rfl
    exact absurd (by simp) hcomma

/-- A balanced text ends where a comma or nothing follows it. -/
lemma eq_of_append_eq {more more' : List Char} (ha : IsBalanced a) (hb : IsBalanced b)
    (hmore : ∀ c ∈ more.head?, c = ',') (hmore' : ∀ c ∈ more'.head?, c = ',')
    (h : a ++ more = b ++ more') : a = b := by
  -- If one of the texts went on behind the other, it would have a comma outside of all brackets.
  have hends : ∀ {p q more : List Char}, IsBalanced p → IsBalanced (p ++ q) →
      (∀ c ∈ (q ++ more).head?, c = ',') → q = [] := by
    intro p q more hp hq hcomma
    cases q with
    | nil => rfl
    | cons c q =>
      obtain rfl : c = ',' := hcomma c rfl
      have hdepth := hq.comma rfl
      rw [hp.depth_eq_zero] at hdepth
      simp at hdepth
  obtain ⟨rest, rfl, rfl⟩ | ⟨rest, rfl, rfl⟩ := List.append_eq_append_iff.1 h
  · rw [hends ha hb hmore, List.append_nil]
  · rw [hends hb ha hmore', List.append_nil]

end IsBalanced

/-- Balanced texts that follow commas can be told apart. -/
lemma eq_of_flatMap_comma_eq {ps qs : List (List Char)} (hps : ∀ p ∈ ps, IsBalanced p)
    (hqs : ∀ q ∈ qs, IsBalanced q) (h : ps.flatMap (',' :: ·) = qs.flatMap (',' :: ·)) :
    ps = qs := by
  have hhead : ∀ ts : List (List Char), ∀ c ∈ (ts.flatMap (',' :: ·)).head?, c = ',' := by
    intro ts
    cases ts <;> simp
  induction ps generalizing qs with
  | nil =>
    cases qs with
    | nil => rfl
    | cons q qs => simp at h
  | cons p ps ih =>
    cases qs with
    | nil => simp at h
    | cons q qs =>
      have h : p ++ ps.flatMap (',' :: ·) = q ++ qs.flatMap (',' :: ·) := by simpa using h
      obtain rfl : p = q :=
        (hps p (by simp)).eq_of_append_eq (hqs q (by simp)) (hhead ps) (hhead qs) h
      rw [ih (fun t ht => hps t (by simp [ht])) (fun t ht => hqs t (by simp [ht]))
        (List.append_cancel_left h)]

lemma comma_cons_intercalate (p : List Char) (ps : List (List Char)) :
    ',' :: [','].intercalate (p :: ps) = (p :: ps).flatMap (',' :: ·) := by
  induction ps generalizing p with
  | nil => simp
  | cons q qs ih => simp [List.intercalate_cons_cons, ← ih q]

lemma intercalate_comma_ne_nil {p : List Char} (hp : p ≠ []) (ps : List (List Char)) :
    [','].intercalate (p :: ps) ≠ [] := by
  cases ps <;> simp [List.intercalate_cons_cons, hp]

/-- Balanced texts that are not empty can be told apart when they are joined by commas. -/
lemma eq_of_intercalate_comma_eq {ps qs : List (List Char)} (hps : ∀ p ∈ ps, p ≠ [] ∧ IsBalanced p)
    (hqs : ∀ q ∈ qs, q ≠ [] ∧ IsBalanced q)
    (h : [','].intercalate ps = [','].intercalate qs) : ps = qs := by
  cases ps with
  | nil =>
    cases qs with
    | nil => rfl
    | cons q qs => exact absurd h.symm (intercalate_comma_ne_nil (hqs q (by simp)).1 qs)
  | cons p ps =>
    cases qs with
    | nil => exact absurd h (intercalate_comma_ne_nil (hps p (by simp)).1 ps)
    | cons q qs =>
      refine eq_of_flatMap_comma_eq (fun t ht => (hps t ht).2) (fun t ht => (hqs t ht).2) ?_
      rw [← comma_cons_intercalate, ← comma_cons_intercalate, h]

/-! ### Signatures -/

namespace Signature

/-- The types of a signature can be read in the type of a pointer to its function. -/
structure IsReadable (s : Signature) : Prop where
  returns : '(' ∉ s.returns.toList
  params : ∀ p ∈ s.params, p ≠ "" ∧ IsBalanced p.toList

instance (s : Signature) : Decidable s.IsReadable :=
  decidable_of_iff ('(' ∉ s.returns.toList ∧ ∀ p ∈ s.params, p ≠ "" ∧ IsBalanced p.toList)
    ⟨fun h => ⟨h.1, h.2⟩, fun h => ⟨h.returns, h.params⟩⟩

lemma toList_pointerType (s : Signature) :
    s.pointerType.toList =
      s.returns.toList ++ '(' :: ("*)(".toList ++ ([','].intercalate (s.params.map String.toList) ++
        [')'])) := by
  simp [pointerType]

variable {s t : Signature}

/-- The return type ends at the first parenthesis. -/
lemma IsReadable.returns_eq (hs : s.IsReadable) (ht : t.IsReadable)
    (h : s.pointerType = t.pointerType) : s.returns = t.returns := by
  have hfront : ∀ {r : Signature}, r.IsReadable →
      r.pointerType.toList.takeWhile (· != '(') = r.returns.toList := by
    intro r hr
    rw [toList_pointerType, List.takeWhile_append_of_pos, List.takeWhile_cons_of_neg (by simp),
      List.append_nil]
    intro c hc
    simpa using ne_of_mem_of_not_mem hc hr.returns
  rw [← String.toList_inj, ← hfront hs, ← hfront ht, h]

lemma pointerType_injOn : Set.InjOn pointerType {s | s.IsReadable} := by
  intro s hs t ht h
  have hreturns : s.returns = t.returns := hs.returns_eq ht h
  have hlists : s.params.map String.toList = t.params.map String.toList := by
    have hparts : ∀ {r : Signature}, r.IsReadable →
        ∀ p ∈ r.params.map String.toList, p ≠ [] ∧ IsBalanced p := by
      intro r hr text htext
      obtain ⟨p, hp, rfl⟩ := List.mem_map.1 htext
      exact ⟨by simpa using (hr.params p hp).1, (hr.params p hp).2⟩
    refine eq_of_intercalate_comma_eq (hparts hs) (hparts ht) ?_
    have htypes := congrArg String.toList h
    rw [toList_pointerType, toList_pointerType, hreturns] at htypes
    simpa using htypes
  have hparams : s.params = t.params := (List.map_inj_right fun _ _ => String.toList_inj.1).1 hlists
  cases s
  cases t
  simp_all

lemma isReadable_repeated {returns param : String} (hreturns : '(' ∉ returns.toList)
    (hparam : param ≠ "" ∧ IsBalanced param.toList) (arity : Nat) :
    (repeated returns param arity).IsReadable := by
  refine ⟨hreturns, fun p hp => ?_⟩
  obtain rfl := List.eq_of_mem_replicate hp
  exact hparam

end Signature

/-! ### Overloads -/

/-- The overloads of a rule, if it has any, differ and are readable. -/
def FunctionRule.IsReadable : FunctionRule → Prop
  | .overloads signatures => signatures.Nodup ∧ ∀ s ∈ signatures, s.IsReadable
  | _ => True

namespace RuleSet

lemma cast_inj {type type' qualified : String}
    (h : "(void*)static_cast<" ++ type ++ ">(&" ++ qualified ++ ")" =
      "(void*)static_cast<" ++ type' ++ ">(&" ++ qualified ++ ")") : type = type' := by
  simpa [← String.toList_inj] using h

/-- Different overloads have different addresses. -/
lemma nodup_pointers {signatures : List Signature} (hnodup : signatures.Nodup)
    (hreadable : ∀ s ∈ signatures, s.IsReadable) (qualified : String) :
    (pointers qualified (.overloads signatures)).Nodup :=
  hnodup.map_on fun s hs t ht h =>
    Signature.pointerType_injOn (hreadable s hs) (hreadable t ht) (cast_inj h)

end RuleSet

/-! ### Built-in overloads -/

lemma isNameChar_of_isOpening {c : Char} (h : isOpening c = true) : isNameChar c = false := by
  have hbrackets : ∀ c ∈ ['(', '<', '[', '{'], isNameChar c = false :=
    List.forall_iff_forall_mem.1 (by decide)
  exact hbrackets c (List.contains_iff_mem.1 h)

lemma isNameChar_of_isClosing {c : Char} (h : isClosing c = true) : isNameChar c = false := by
  have hbrackets : ∀ c ∈ [')', '>', ']', '}'], isNameChar c = false :=
    List.forall_iff_forall_mem.1 (by decide)
  exact hbrackets c (List.contains_iff_mem.1 h)

lemma IsName.isBalanced {name : List Char} (h : IsName name) : IsBalanced name := by
  refine .of_flat (fun c hc => ?_) (fun c hc => ?_) (h.not_mem (by decide))
  · exact Bool.eq_false_iff.2 fun hbracket => h.not_mem (isNameChar_of_isOpening hbracket) hc
  · exact Bool.eq_false_iff.2 fun hbracket => h.not_mem (isNameChar_of_isClosing hbracket) hc

lemma IsScope.isBalanced {scope : List Char} (h : IsScope scope) : IsBalanced scope := by
  induction h with
  | name h => exact h.isBalanced
  | nested h _ ih => exact (h.isBalanced.append (by decide)).append ih

lemma IsScope.parenthesis_not_mem {scope : List Char} (h : IsScope scope) : '(' ∉ scope := by
  induction h with
  | name h => exact h.not_mem (by decide)
  | nested h _ ih => simp [h.not_mem (show isNameChar '(' = false by decide), ih]

/-- A type of the namespace, between other parts of a type, can be told apart. -/
lemma IsScope.isBalanced_qualify {scope : String} (h : IsScope scope.toList)
    {front name back : String} (hfront : IsBalanced front.toList)
    (hname : IsBalanced ("::" ++ name).toList) (hback : IsBalanced back.toList) :
    IsBalanced (front ++ qualify scope name ++ back).toList := by
  have htype := (hfront.append (h.isBalanced.append hname)).append hback
  simpa [qualify] using htype

namespace RuleSet

lemma isReadable_lockRule {scope : String} (h : IsScope scope.toList) :
    (lockRule scope).IsReadable := by
  have hparam : lockablePointer scope ≠ "" ∧ IsBalanced (lockablePointer scope).toList :=
    ⟨by simp [lockablePointer, ← String.toList_inj],
      h.isBalanced_qualify (by decide) (by decide) (by decide)⟩
  refine ⟨by simp [Signature.repeated], ?_⟩
  simp [Signature.isReadable_repeated, hparam]

lemma isReadable_setOperationRule {scope : String} (h : IsScope scope.toList) :
    (setOperationRule scope).IsReadable := by
  have hparam : ∀ {back : String}, IsBalanced back.toList →
      "const " ++ setType scope ++ back ≠ "" ∧
        IsBalanced ("const " ++ setType scope ++ back).toList := fun hback =>
    ⟨by simp [← String.toList_inj], h.isBalanced_qualify (by decide) (by decide) hback⟩
  have hreturns : '(' ∉ (setType scope).toList := by
    simp [setType, qualify, h.parenthesis_not_mem]
  refine ⟨by simp [Signature.repeated, ← String.toList_inj], ?_⟩
  rw [List.forall_mem_cons, List.forall_mem_singleton]
  exact ⟨Signature.isReadable_repeated (by simpa using hreturns) (hparam (by decide)) 2,
    Signature.isReadable_repeated hreturns (hparam (by decide)) 2⟩

lemma isReadable_builtin {scope : String} (h : IsScope scope.toList) :
    (builtin scope).AllFunctionRules FunctionRule.IsReadable := by
  have hdistance : distanceRule.IsReadable := ⟨by decide, by decide⟩
  have hcomparison : comparisonRule.IsReadable := ⟨by decide, by decide⟩
  have hinstantiate : ∀ args, (FunctionRule.instantiate args).IsReadable := fun _ => trivial
  refine allFunctionRules_builtin ?_
  simp [isReadable_lockRule h, isReadable_setOperationRule h, hdistance, hcomparison, hinstantiate]

end RuleSet

/-! ### The table -/

/-- A readable signature can be read in the type of a pointer to its function. So the overloads of a
rule have rows with different addresses, one for each, if they differ and are readable; and the
overloads of the built-in rules do and are. -/
theorem Signature.pointerTypes_differ :
    (∀ s t : Signature, s.IsReadable → t.IsReadable → s.pointerType = t.pointerType →
      s.returns = t.returns ∧ s.params = t.params) ∧
    (∀ (r : RuleSet) (name : String) (signatures : List Signature),
      r.functionRule name = .overloads signatures → signatures.Nodup →
        (∀ s ∈ signatures, s.IsReadable) →
          ((r.functionRows name).map TableRow.pointer).Nodup ∧
            (r.functionRows name).map TableRow.pointer = signatures.map fun s =>
              "(void*)static_cast<" ++ s.pointerType ++ ">(&" ++ r.qualified name ++ ")") ∧
    (∀ (scope name : String) (signatures : List Signature), IsScope scope.toList →
      (RuleSet.builtin scope).functionRule name = .overloads signatures →
        signatures.Nodup ∧ ∀ s ∈ signatures, s.IsReadable) := by
  refine ⟨?_, ?_, ?_⟩
  · intro s t hs ht h
    obtain rfl : s = t := pointerType_injOn hs ht h
    exact ⟨rfl, rfl⟩
  · intro r name signatures hrule hnodup hreadable
    have hpointers : (r.functionRows name).map TableRow.pointer =
        RuleSet.pointers (r.qualified name) (.overloads signatures) := by
      rw [RuleSet.functionRows, hrule, List.map_map]
      exact List.map_id _
    rw [hpointers]
    exact ⟨RuleSet.nodup_pointers hnodup hreadable _, rfl⟩
  · intro scope name signatures hscope hrule
    have hreadable := (RuleSet.isReadable_builtin hscope).functionRule trivial name
    rwa [hrule] at hreadable

/-- A comma between the parameters is told from commas inside of them. -/
theorem Signature.pointerTypes_differ_by_comma :
    let s : Signature := ⟨"void", ["TMap<int,TSet<int>>", "int(*)(int,char)"]⟩
    let t : Signature := ⟨"void", ["TMap<int,TSet<int>>"]⟩
    let r : RuleSet := { scope := "pwx", functions := Table.ofList [("visit", .overloads [s, t])] }
    s.pointerType ≠ t.pointerType ∧ ((r.functionRows "visit").map TableRow.pointer).Nodup ∧
      ∃ signatures, (RuleSet.builtin "pwx").functionRule "are_locked" = .overloads signatures ∧
        signatures.Nodup ∧ ∀ s ∈ signatures, s.IsReadable := by
  intro s t r
  have hs : s.IsReadable := by decide
  have ht : t.IsReadable := by decide
  obtain ⟨hinjective, hrows, hbuiltin⟩ := pointerTypes_differ
  refine ⟨fun h => ?_, ?_, ?_⟩
  · have hparams : s.params = t.params := (hinjective s t hs ht h).2
    exact absurd hparams (by decide)
  · exact (hrows r "visit" [s, t] (by decide) (by decide) (by simp [hs, ht])).1
  · have hrule : (RuleSet.builtin "pwx").functionRule "are_locked" = RuleSet.lockRule "pwx" := by
      decide
    exact ⟨_, hrule, hbuiltin "pwx" "are_locked" _ (.name (by decide)) hrule⟩

end SymbolProbe
