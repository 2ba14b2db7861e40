import Mathlib.Tactic.Lemma
import SymbolProbe.CommandLine.Run

/-!
# Words of a command line

Words that arrange positional arguments among options (`Arranges`) are read word by word, whatever
follows them. Two drafts that differ in the debug flag and in the positional arguments behind the
listing are alike: the same arguments lead both on, or stop both with the same request
(`Draft.Alike.foldlM_add`).
-/

namespace SymbolProbe.CommandLine

/-! ### Arguments -/

namespace Argument

/-- The argument is an option other than the debug flag. -/
def IsOther : Argument → Prop
  | .setting s _ => s ≠ .debugSymbols
  | .flag _ => True
  | .positional _ | .unknown _ => False

/-- The argument gives a debug flag. -/
def GivesDebugFlag : Argument → Prop
  | .setting s _ => s = .debugSymbols
  | _ => False

/-- The text of a positional argument. -/
def positional? : Argument → Option String
  | .positional text => some text
  | _ => none

/-- The option and the value that an argument gives. -/
def setting? : Argument → Option (Setting × String)
  | .setting s value => some (s, value)
  | _ => none

lemma IsOther.not_givesDebugFlag {a : Argument} (h : a.IsOther) : ¬ a.GivesDebugFlag := by
  cases a <;> simp_all [IsOther, GivesDebugFlag]

lemma IsOther.positional?_eq {a : Argument} (h : a.IsOther) : a.positional? = none := by
  cases a <;> simp_all [IsOther, positional?]

end Argument

/-! ### Arrangements -/

/-- A word does not begin with a dash, so it is no option. -/
def IsPlainWord (word : String) : Prop := word.toList.head? ≠ some '-'

instance (word : String) : Decidable (IsPlainWord word) := inferInstanceAs (Decidable (_ ≠ _))

/-- The words arrange positional arguments, in their order, among options other than the debug flag.
An option may be short or long, and may have its value in the same word or in the next one. -/
inductive Arranges : List String → List String → Prop
  | nil : Arranges [] []
  | positional {text : String} {words texts : List String} (htext : IsPlainWord text)
      (h : Arranges words texts) : Arranges (text :: words) (text :: texts)
  | complete {word : String} {as : List Argument} {words texts : List String}
      (hword : Word.ofText word = .complete as) (has : ∀ a ∈ as, a.IsOther)
      (h : Arranges words texts) : Arranges (word :: words) texts
  | unfinished {word value : String} {as : List Argument} {s : Setting} {words texts : List String}
      (hword : Word.ofText word = .unfinished as s) (has : ∀ a ∈ as, a.IsOther)
      (hs : s ≠ .debugSymbols) (hvalue : isValue value = true) (h : Arranges words texts) :
      Arranges (word :: value :: words) texts

variable {word value : String} {words texts : List String} {as : List Argument} {s : Setting}

lemma IsPlainWord.ofText_eq (h : IsPlainWord word) :
    Word.ofText word = .complete [.positional word] := by
  unfold Word.ofText
  split <;> simp_all [IsPlainWord]

lemma IsPlainWord.isValue (h : IsPlainWord word) : isValue word = true := by
  simp only [CommandLine.isValue, Bool.or_eq_true, bne_iff_ne]
  exact .inr h

/-- A double dash is not read as an option. -/
lemma ne_doubleDash_of_complete (hword : Word.ofText word = .complete as)
    (has : ∀ a ∈ as, a.IsOther) : word ≠ "--" := by
  rintro rfl
  obtain rfl : [.unknown ""] = as := Word.complete.inj hword
  exact has _ (List.mem_singleton_self _)

lemma ofWords_of_complete (hword : Word.ofText word = .complete as) (hends : word ≠ "--")
    (more : List String) : Argument.ofWords (word :: more) = as ++ Argument.ofWords more := by
  rw [Argument.ofWords, hword]
  exact hends

lemma ofWords_of_unfinished (hword : Word.ofText word = .unfinished as s)
    (hvalue : isValue value = true) (more : List String) :
    Argument.ofWords (word :: value :: more) = as ++ .setting s value :: Argument.ofWords more := by
  rw [Argument.ofWords, hword]
  · simp [hvalue]
  · rintro rfl
    cases hword

lemma ofWords_of_isPlainWord (h : IsPlainWord word) (more : List String) :
    Argument.ofWords (word :: more) = .positional word :: Argument.ofWords more := by
  refine ofWords_of_complete h.ofText_eq ?_ more
  rintro rfl
  exact absurd h (by decide)

/-- A long option may have its value behind an equals sign. -/
lemma ofText_of_ofLong? {name : String} (hname : Switch.ofLong? name = some (.setting s))
    (hequals : '=' ∉ name.toList) (value : String) :
    Word.ofText ("--" ++ name ++ "=" ++ value) = .complete [.setting s value] := by
  have htext : ("--" ++ name ++ "=" ++ value).toList =
      '-' :: '-' :: (name.toList ++ '=' :: value.toList) := by simp
  have hkeep : ∀ c ∈ name.toList, (c != '=') = true := fun c hc =>
    bne_iff_ne.2 (ne_of_mem_of_not_mem hc hequals)
  have htake : (name.toList ++ '=' :: value.toList).takeWhile (· != '=') = name.toList := by
    rw [List.takeWhile_append_of_pos hkeep, List.takeWhile_cons_of_neg (by simp), List.append_nil]
  have hdrop : (name.toList ++ '=' :: value.toList).dropWhile (· != '=') = '=' :: value.toList := by
    rw [List.dropWhile_append_of_pos hkeep, List.dropWhile_cons_of_neg (by simp)]
  rw [Word.ofText, htext]
  simp only [Word.ofLong, htake, hdrop, String.ofList_toList, hname]

/-- The debug flag as an option, with its value in the next word or in the same one. -/
inductive IsDebugOption (flag : String) : List String → Prop
  | apart : IsDebugOption flag ["--debug-symbols", flag]
  | joined : IsDebugOption flag ["--debug-symbols=" ++ flag]

lemma IsDebugOption.ofWords_append {option : List String} (h : IsDebugOption value option)
    (hvalue : IsPlainWord value) (more : List String) :
    Argument.ofWords (option ++ more) = .setting .debugSymbols value :: Argument.ofWords more := by
  cases h with
  | apart =>
    have hword : Word.ofText "--debug-symbols" = .unfinished [] .debugSymbols := by decide
    exact ofWords_of_unfinished hword hvalue.isValue more
  | joined =>
    have hword : Word.ofText ("--debug-symbols=" ++ value) =
        .complete [.setting .debugSymbols value] :=
      ofText_of_ofLong? (show Switch.ofLong? "debug-symbols" = _ by decide) (by decide) value
    refine ofWords_of_complete hword (fun hends => ?_) more
    rw [hends] at hword
    cases hword

namespace Arranges

/-- Arranged words are read by themselves, whatever follows. -/
lemma ofWords_append (h : Arranges words texts) (more : List String) :
    Argument.ofWords (words ++ more) = Argument.ofWords words ++ Argument.ofWords more := by
  induction h with
  | nil => rfl
  | positional htext _ ih =>
    rw [List.cons_append, ofWords_of_isPlainWord htext, ofWords_of_isPlainWord htext, ih,
      List.cons_append]
  | complete hword has _ ih =>
    have hends := ne_doubleDash_of_complete hword has
    rw [List.cons_append, ofWords_of_complete hword hends, ofWords_of_complete hword hends, ih,
      List.append_assoc]
  | unfinished hword _ _ hvalue _ ih =>
    rw [List.cons_append, List.cons_append, ofWords_of_unfinished hword hvalue,
      ofWords_of_unfinished hword hvalue, ih, List.append_assoc, List.cons_append]

lemma append (h : Arranges words texts) {words' texts' : List String}
    (h' : Arranges words' texts') : Arranges (words ++ words') (texts ++ texts') := by
  induction h with
  | nil => exact h'
  | positional htext _ ih => exact .positional htext ih
  | complete hword has _ ih => exact .complete hword has ih
  | unfinished hword has hs hvalue _ ih => exact .unfinished hword has hs hvalue ih

lemma not_givesDebugFlag (h : Arranges words texts) :
    ∀ a ∈ Argument.ofWords words, ¬ a.GivesDebugFlag := by
  induction h with
  | nil => simp [Argument.ofWords]
  | positional htext _ ih =>
    rw [ofWords_of_isPlainWord htext, List.forall_mem_cons]
    exact ⟨id, ih⟩
  | complete hword has _ ih =>
    rw [ofWords_of_complete hword (ne_doubleDash_of_complete hword has), List.forall_mem_append]
    exact ⟨fun a ha => (has a ha).not_givesDebugFlag, ih⟩
  | unfinished hword has hs hvalue _ ih =>
    rw [ofWords_of_unfinished hword hvalue, List.forall_mem_append, List.forall_mem_cons]
    exact ⟨fun a ha => (has a ha).not_givesDebugFlag, hs, ih⟩

lemma filterMap_positional? (h : Arranges words texts) :
    (Argument.ofWords words).filterMap Argument.positional? = texts := by
  have hoptions : ∀ {as : List Argument}, (∀ a ∈ as, a.IsOther) →
      as.filterMap Argument.positional? = [] := fun has =>
    List.filterMap_eq_nil_iff.2 fun a ha => (has a ha).positional?_eq
  induction h with
  | nil => rfl
  | positional htext _ ih =>
    simpa [ofWords_of_isPlainWord htext, Argument.positional?] using ih
  | complete hword has _ ih =>
    rw [ofWords_of_complete hword (ne_doubleDash_of_complete hword has), List.filterMap_append,
      hoptions has, ih, List.nil_append]
  | unfinished hword has _ hvalue _ ih =>
    rw [ofWords_of_unfinished hword hvalue, List.filterMap_append, hoptions has,
      List.filterMap_cons_none rfl, ih, List.nil_append]

end Arranges

/-! ### Drafts -/

namespace Draft

/-- The draft with arguments read. -/
def extend (d : Draft) (as : List Argument) : Draft where
  positionals := d.positionals ++ as.filterMap Argument.positional?
  settings := d.settings ++ as.filterMap Argument.setting?
  isVerbose := d.isVerbose || as.contains (.flag .verbose)

/-- Two drafts differ at most in the debug flag and in the positional arguments behind the first. -/
structure Alike (d e : Draft) : Prop where
  positionals : d.positionals = [] ↔ e.positionals = []
  lookup {s : Setting} (hs : s ≠ .debugSymbols) : d.settings.lookup s = e.settings.lookup s
  isVerbose : d.isVerbose = e.isVerbose

variable {d e : Draft} {a : Argument}

lemma extend_nil (d : Draft) : d.extend [] = d := by
  simp [extend]

lemma extend_append (d : Draft) (as bs : List Argument) :
    d.extend (as ++ bs) = (d.extend as).extend bs := by
  simp [extend, Bool.or_assoc]

lemma lookup_extend (d : Draft) (as : List Argument) (s : Setting) :
    (d.extend as).settings.lookup s =
      (d.settings.lookup s).or ((as.filterMap Argument.setting?).lookup s) :=
  List.lookup_append

lemma Alike.extend (h : d.Alike e) (as : List Argument) : (d.extend as).Alike (e.extend as) where
  positionals := by simp [Draft.extend, h.positionals]
  lookup hs := by rw [lookup_extend, lookup_extend, h.lookup hs]
  isVerbose := by simp [Draft.extend, h.isVerbose]

/-- An argument leads alike drafts on, or stops them with the same request. -/
lemma Alike.add (h : d.Alike e) (ha : ¬ a.GivesDebugFlag) :
    (∃ r, d.add a = .error r ∧ e.add a = .error r) ∨
      d.add a = .ok (d.extend [a]) ∧ e.add a = .ok (e.extend [a]) := by
  cases a with
  | positional text =>
    have hempty : e.positionals.isEmpty = d.positionals.isEmpty := by
      rw [Bool.eq_iff_iff, List.isEmpty_iff, List.isEmpty_iff, h.positionals]
    cases hbad : d.positionals.isEmpty && text == "" <;>
      simp [Draft.add, Draft.extend, hempty, hbad, Argument.positional?, Argument.setting?]
  | setting s value =>
    have hlookup := h.lookup ha
    cases hbad : (d.settings.lookup s).isSome || !s.accepts value <;>
      simp [Draft.add, Draft.extend, ← hlookup, hbad, Argument.positional?, Argument.setting?]
  | flag f =>
    cases f with
    | verbose =>
      cases hbad : d.isVerbose <;>
        simp [Draft.add, Draft.extend, ← h.isVerbose, hbad, Argument.positional?, Argument.setting?]
    | version => exact .inl ⟨_, rfl, rfl⟩
    | help => exact .inl ⟨_, rfl, rfl⟩
  | unknown text => exact .inl ⟨_, rfl, rfl⟩

/-- Arguments lead alike drafts on, or stop them with the same request. -/
lemma Alike.foldlM_add (h : d.Alike e) {as : List Argument} (has : ∀ a ∈ as, ¬ a.GivesDebugFlag) :
    (∃ r, as.foldlM Draft.add d = .error r ∧ as.foldlM Draft.add e = .error r) ∨
      as.foldlM Draft.add d = .ok (d.extend as) ∧ as.foldlM Draft.add e = .ok (e.extend as) := by
  induction as generalizing d e with
  | nil => exact .inr ⟨by rw [extend_nil]; rfl, by rw [extend_nil]; rfl⟩
  | cons a as ih =>
    rw [List.forall_mem_cons] at has
    rw [List.foldlM_cons, List.foldlM_cons]
    obtain ⟨r, hd, he⟩ | ⟨hd, he⟩ := h.add has.1
    · rw [hd, he]
      exact .inl ⟨r, rfl, rfl⟩
    · rw [hd, he]
      have hrest := ih (h.extend [a]) has.2
      rwa [← extend_append, ← extend_append] at hrest

lemma Alike.refl (d : Draft) : d.Alike d := ⟨Iff.rfl, fun _ => rfl, rfl⟩

/-- An argument that can be read, and leaves the draft alike, can stand between others or not. -/
lemma foldlM_add_insert {before behind : List Argument}
    (hbefore : ∀ a ∈ before, ¬ a.GivesDebugFlag) (hbehind : ∀ a ∈ behind, ¬ a.GivesDebugFlag)
    (hadd : (d.extend before).add a = .ok ((d.extend before).extend [a]))
    (halike : (d.extend before).Alike ((d.extend before).extend [a])) :
    (∃ r, (before ++ behind).foldlM Draft.add d = .error r ∧
        (before ++ a :: behind).foldlM Draft.add d = .error r) ∨
      (before ++ behind).foldlM Draft.add d = .ok ((d.extend before).extend behind) ∧
        (before ++ a :: behind).foldlM Draft.add d =
          .ok (((d.extend before).extend [a]).extend behind) := by
  rw [List.foldlM_append, List.foldlM_append]
  obtain ⟨r, hr, -⟩ | ⟨hok, -⟩ := (Alike.refl d).foldlM_add hbefore
  · rw [hr]
    exact .inl ⟨r, rfl, rfl⟩
  · rw [hok]
    simp only [bind, Except.bind, List.foldlM_cons, hadd]
    exact halike.foldlM_add hbehind

/-- A draft goes on in the same way when a debug flag is given. -/
lemma alike_extend_debugSymbols (d : Draft) (flag : String) :
    d.Alike (d.extend [.setting .debugSymbols flag]) where
  positionals := by simp [Draft.extend, Argument.positional?]
  lookup hs := by
    have hother : ([.setting .debugSymbols flag].filterMap Argument.setting?).lookup _ = none :=
      List.lookup_eq_none_iff.2 (by simpa [Argument.setting?] using hs)
    rw [lookup_extend, hother, Option.or_none]
  isVerbose := by simp [Draft.extend]

/-- A draft with a listing goes on in the same way behind another positional argument. -/
lemma alike_extend_positional (hd : d.positionals ≠ []) (text : String) :
    d.Alike (d.extend [.positional text]) where
  positionals := by simp [Draft.extend, hd]
  lookup _ := by
    rw [lookup_extend]
    exact Option.or_none.symm
  isVerbose := by simp [Draft.extend]

/-- Where an argument stops a draft, nothing is run. -/
lemma ne_run_of_add {r : Request} (h : d.add a = .error r) (i : Invocation) : r ≠ .run i := by
  rintro rfl
  cases a with
  | positional | setting =>
    simp only [Draft.add] at h
    split at h <;> cases h
  | flag f =>
    cases f with
    | verbose =>
      simp only [Draft.add] at h
      split at h <;> cases h
    | version | help => cases h
  | unknown => cases h

lemma ne_run_of_foldlM_add {as : List Argument} {r : Request}
    (h : as.foldlM Draft.add d = .error r) (i : Invocation) : r ≠ .run i := by
  induction as generalizing d with
  | nil => cases h
  | cons a as ih =>
    rw [List.foldlM_cons] at h
    cases ha : d.add a with
    | error r' =>
      rw [ha] at h
      obtain rfl := Except.error.inj h
      exact ne_run_of_add ha i
    | ok d' =>
      rw [ha] at h
      exact ih h

lemma lookup_of_add {s : Setting} {value : String} (h : d.add (.setting s value) = .ok e) :
    e.settings.lookup s = some value := by
  simp only [Draft.add] at h
  split at h
  · cases h
  · rename_i hgood
    have hnone : d.settings.lookup s = none := by
      cases hlookup : d.settings.lookup s with
      | none => rfl
      | some earlier => simp [hlookup] at hgood
    obtain rfl := Except.ok.inj h
    simp [List.lookup_append, hnone]

/-- Options that are read have the values that are given for them. -/
lemma lookup_of_mem {as : List Argument} (has : ∀ a ∈ as, ¬ a.GivesDebugFlag)
    (h : as.foldlM Draft.add d = .ok e) {s : Setting} {value : String}
    (hmem : .setting s value ∈ as) : e.settings.lookup s = some value := by
  induction as generalizing d with
  | nil => cases hmem
  | cons a as ih =>
    rw [List.forall_mem_cons] at has
    rw [List.foldlM_cons] at h
    cases ha : d.add a with
    | error r =>
      rw [ha] at h
      cases h
    | ok d' =>
      rw [ha] at h
      obtain rfl | hmem := List.mem_cons.1 hmem
      · obtain ⟨r, hr, -⟩ | ⟨he, -⟩ := (Alike.refl d').foldlM_add has.2
        · cases hr.symm.trans h
        · obtain rfl := Except.ok.inj (he.symm.trans h)
          rw [lookup_extend, lookup_of_add ha, Option.some_or]
      · exact ih has.2 h hmem

/-- A value that is found is given by an argument. -/
lemma mem_of_lookup_extend {as : List Argument} {s : Setting} {value : String}
    (h : (extend {} as).settings.lookup s = some value) : .setting s value ∈ as := by
  obtain ⟨front, back, hsplit, -⟩ := List.lookup_eq_some_iff.1 h
  have hmem : (s, value) ∈ (extend {} as).settings := by simp [hsplit]
  obtain ⟨a, ha, hsetting⟩ := List.mem_filterMap.1 hmem
  cases a with
  | setting =>
    obtain ⟨rfl, rfl⟩ := Prod.mk.inj (Option.some.inj hsetting)
    exact ha
  | positional | flag | unknown => cases hsetting

lemma lookup_debugSymbols_extend (d : Draft) {as : List Argument}
    (has : ∀ a ∈ as, ¬ a.GivesDebugFlag) :
    (d.extend as).settings.lookup .debugSymbols = d.settings.lookup .debugSymbols := by
  have hnone : (as.filterMap Argument.setting?).lookup .debugSymbols = none := by
    cases h : (as.filterMap Argument.setting?).lookup .debugSymbols with
    | none => rfl
    | some value => exact absurd rfl (has _ (mem_of_lookup_extend h))
  rw [lookup_extend, hnone, Option.or_none]

/-- A debug flag can be given once. -/
lemma add_debugSymbols (h : d.settings.lookup .debugSymbols = none) (flag : String) :
    d.add (.setting .debugSymbols flag) = .ok (d.extend [.setting .debugSymbols flag]) := by
  rw [Draft.add, h]
  simp [Draft.extend, Argument.positional?, Argument.setting?, Setting.accepts]

end Draft

end SymbolProbe.CommandLine
