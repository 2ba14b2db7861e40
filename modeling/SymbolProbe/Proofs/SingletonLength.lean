import Mathlib.Data.List.Flatten
import SymbolProbe.Proofs.Presence

/-!
# Longer singletons

When longer names count as singletons, some lines change: those that carry a name of upper-case
letters and digits whose length is above the old bound and within the new one. Such a name was that
of a class or of a class template, or of nothing; now it is that of a singleton
(`Generator.lineUse_of_carriesBetween`). Whatever is gathered of the lines follows from this line by
line, so object checks only go away and rows of singletons only come
(`Generator.withSingletonLength_lengthens`).
-/

namespace SymbolProbe

/-! ### Names between two lengths -/

/-- A line carries a name of upper-case letters and digits, a letter first, that is longer than one
bound and not longer than another. A namespace that starts with a blank is never found. -/
def CarriesBetween (scope : String) (a b : Nat) (line : String) (name : List Char) : Prop :=
  scope.toList.head? ≠ some ' ' ∧ ∃ t, Carries scope.toList line.toList name t ∧ t ≠ '*' ∧
    (2 ≤ name.length ∧ a < name.length ∧ name.length ≤ b) ∧
    (∃ c ∈ name.head?, IsUpperLetter c) ∧ ∀ c ∈ name, IsUpperLetter c ∨ IsDecimalDigit c

variable {a b : Nat} {name : List Char} {t : Char}

lemma SingletonForm.mono (hab : a ≤ b) (h : SingletonForm a name t) : SingletonForm b name t := by
  obtain ⟨ht, ⟨htwo, hlength⟩, hchars⟩ := h
  exact ⟨ht, ⟨htwo, Nat.le_trans hlength hab⟩, hchars⟩

/-- The bound matters for nothing but singletons. -/
lemma hasKind_congr (h : SingletonForm a name t ↔ SingletonForm b name t) (kind : SymbolKind) :
    HasKind a name t kind ↔ HasKind b name t kind := by
  have himp : ∀ {m n : Nat}, (SingletonForm m name t ↔ SingletonForm n name t) →
      HasKind m name t kind → HasKind n name t kind := by
    intro m n h hkind
    cases hkind with
    | globalSingleton hs => exact .globalSingleton (h.1 hs)
    | objectClass hs hC => exact .objectClass (mt h.2 hs) hC
    | classTemplate hs hC hT => exact .classTemplate (mt h.2 hs) hC hT
    | freeFunction hs hC hT hf => exact .freeFunction (mt h.2 hs) hC hT hf
  exact ⟨himp h, himp h.symm⟩

/-- Below the bound of singletons, a name that starts with an upper-case letter is an object's. -/
lemma HasKind.isObject {kind : SymbolKind} (h : HasKind a name t kind)
    (hs : ¬ SingletonForm a name t) (hupper : ∃ c ∈ name.head?, IsUpperLetter c) :
    kind.isObject = true := by
  cases h with
  | globalSingleton h => exact absurd h hs
  | objectClass | classTemplate => rfl
  | freeFunction _ _ _ h =>
    obtain ⟨c, hc, hu⟩ := hupper
    obtain ⟨⟨d, hd, hl⟩, -⟩ := h
    obtain rfl : c = d := Option.some.inj (hc.symm.trans hd)
    exact absurd hl hu.not_isLowerLetter

namespace Classifier

variable {scope line : String}

lemma classify_of_carriesBetween (h : CarriesBetween scope a b line name) :
    Classifier.classify ⟨scope, b⟩ line = some ⟨.globalSingleton, String.ofList name⟩ := by
  obtain ⟨hscope, t, hline, ht, ⟨htwo, -, hlength⟩, hchars⟩ := h
  refine (classify_eq_some_iff_carries (c := ⟨scope, b⟩) hscope).2 ⟨t, by simpa using hline, ?_⟩
  simpa using HasKind.globalSingleton ⟨ht, ⟨htwo, hlength⟩, hchars⟩

lemma isObject_of_carriesBetween (h : CarriesBetween scope a b line name) {s : Symbol}
    (hs : Classifier.classify ⟨scope, a⟩ line = some s) :
    s.kind.isObject = true ∧ s.name = String.ofList name := by
  obtain ⟨hscope, t, hline, ht, ⟨-, hlength, -⟩, hupper, -⟩ := h
  obtain ⟨u, hcarries, hkind⟩ := (classify_eq_some_iff_carries (c := ⟨scope, a⟩) hscope).1 hs
  obtain ⟨rfl, rfl⟩ := carries_unique hscope hline hcarries
  refine ⟨hkind.isObject ?_ hupper, by simp⟩
  rintro ⟨-, ⟨-, hle⟩, -⟩
  exact absurd hle (Nat.not_le.2 hlength)

lemma classify_eq_of_not_carriesBetween (hab : a ≤ b)
    (h : ∀ name, ¬ CarriesBetween scope a b line name) :
    Classifier.classify ⟨scope, a⟩ line = Classifier.classify ⟨scope, b⟩ line := by
  by_cases hscope : scope.toList.head? = some ' '
  · rw [classify_eq_none (c := ⟨scope, a⟩) hscope, classify_eq_none (c := ⟨scope, b⟩) hscope]
  · -- Of a name that the line carries, both bounds say the same.
    have hform : ∀ name t, Carries scope.toList line.toList name t →
        (SingletonForm a name t ↔ SingletonForm b name t) := by
      intro name t hline
      refine ⟨SingletonForm.mono hab, ?_⟩
      rintro ⟨ht, ⟨htwo, hlength⟩, hupper, hchars⟩
      refine ⟨ht, ⟨htwo, Nat.le_of_not_lt fun hlt => ?_⟩, hupper, hchars⟩
      exact h name ⟨hscope, t, hline, ht, ⟨htwo, hlt, hlength⟩, hupper, hchars⟩
    apply Option.ext
    intro s
    rw [classify_eq_some_iff_carries (c := ⟨scope, a⟩) hscope,
      classify_eq_some_iff_carries (c := ⟨scope, b⟩) hscope]
    refine exists_congr fun t => and_congr_right fun hline => ?_
    exact hasKind_congr (hform _ t hline) s.kind

end Classifier

/-! ### Uses of lines -/

namespace LineUse

/-- What becomes of a line with the old bound and with the new one: the same, or the line is that of
a singleton now and was that of an object or of nothing. -/
inductive Lengthens : LineUse → LineUse → Prop
  | same (u : LineUse) : Lengthens u u
  | object {s : Symbol} (h : s.kind.isObject = true) :
      Lengthens (.kept s) (.kept ⟨.globalSingleton, s.name⟩)
  | unrecognized (text name : String) :
      Lengthens (.unrecognized text) (.kept ⟨.globalSingleton, name⟩)

variable {u v : LineUse}

lemma Lengthens.isKept (h : u.Lengthens v) {kind : SymbolKind} (hk : kind ≠ .globalSingleton)
    (hv : v.isKept kind = true) : u.isKept kind = true := by
  cases h with
  | same => exact hv
  | object | unrecognized => exact absurd (by simpa [LineUse.isKept] using hv) (Ne.symm hk)

lemma Lengthens.isKept_freeFunction (h : u.Lengthens v) :
    u.isKept .freeFunction = v.isKept .freeFunction := by
  cases h with
  | same => rfl
  | @object s h =>
    obtain ⟨kind, name⟩ := s
    cases kind <;> first | rfl | cases h
  | unrecognized => rfl

/-! ### Contributions -/

variable (r : RuleSet)

lemma Lengthens.objects_sublist (h : u.Lengthens v) :
    (v.symbol?.toList.filterMap r.objectCheck?).Sublist
      (u.symbol?.toList.filterMap r.objectCheck?) := by
  cases h with
  | same => exact .refl _
  | object | unrecognized => exact List.nil_sublist _

lemma Lengthens.functionRows_eq (h : u.Lengthens v) :
    u.symbol?.toList.flatMap r.functionRowsOf = v.symbol?.toList.flatMap r.functionRowsOf := by
  cases h with
  | same => rfl
  | @object s h =>
    obtain ⟨kind, name⟩ := s
    cases kind <;> first | rfl | cases h
  | unrecognized => rfl

lemma Lengthens.singletonRows_sublist (h : u.Lengthens v) :
    (u.symbol?.toList.flatMap r.singletonRowsOf).Sublist
      (v.symbol?.toList.flatMap r.singletonRowsOf) := by
  cases h with
  | same => exact .refl _
  | @object s h =>
    obtain ⟨kind, name⟩ := s
    cases kind <;> first | exact List.nil_sublist _ | cases h
  | unrecognized => exact List.nil_sublist _

end LineUse

/-! ### Lines and runs -/

namespace Generator

/-- The run with another bound on the length of singletons. -/
def withSingletonLength (g : Generator) (n : Nat) : Generator :=
  { g with config := { g.config with maxSingletonLength := n } }

variable (g : Generator) {line : String}

lemma lineUse_of_carriesBetween (h : CarriesBetween g.rules.scope a b line name) :
    (g.withSingletonLength b).lineUse line = .kept ⟨.globalSingleton, String.ofList name⟩ ∧
      ((g.withSingletonLength a).lineUse line = .kept ⟨.objectClass, String.ofList name⟩ ∨
        (g.withSingletonLength a).lineUse line = .kept ⟨.classTemplate, String.ofList name⟩ ∨
        (g.withSingletonLength a).lineUse line = .unrecognized line) := by
  have hb : (g.withSingletonLength b).classifier.classify line =
      some ⟨.globalSingleton, String.ofList name⟩ := Classifier.classify_of_carriesBetween h
  refine ⟨by simp [lineUse, hb], ?_⟩
  cases ha : (g.withSingletonLength a).classifier.classify line with
  | none => simp [lineUse, ha, not_isBlankText_of_classify hb]
  | some s =>
    obtain ⟨hobject, hname⟩ := Classifier.isObject_of_carriesBetween h ha
    obtain ⟨kind, _⟩ := s
    obtain rfl := hname
    cases kind with
    | objectClass => exact .inl (by simp [lineUse, ha])
    | classTemplate => exact .inr (.inl (by simp [lineUse, ha]))
    | freeFunction | globalSingleton => cases hobject

lemma lineUse_eq_of_not_carriesBetween (hab : a ≤ b)
    (h : ∀ name, ¬ CarriesBetween g.rules.scope a b line name) :
    (g.withSingletonLength a).lineUse line = (g.withSingletonLength b).lineUse line := by
  have hclassify : (g.withSingletonLength a).classifier.classify line =
      (g.withSingletonLength b).classifier.classify line :=
    Classifier.classify_eq_of_not_carriesBetween hab h
  rw [lineUse, hclassify]
  rfl

lemma lengthens_lineUse (hab : a ≤ b) (line : String) :
    ((g.withSingletonLength a).lineUse line).Lengthens
      ((g.withSingletonLength b).lineUse line) := by
  by_cases h : ∃ name, CarriesBetween g.rules.scope a b line name
  · obtain ⟨name, hname⟩ := h
    obtain ⟨hb, ha | ha | ha⟩ := g.lineUse_of_carriesBetween hname
    · rw [ha, hb]
      exact .object rfl
    · rw [ha, hb]
      exact .object rfl
    · rw [ha, hb]
      exact .unrecognized _ _
  · rw [g.lineUse_eq_of_not_carriesBetween hab (not_exists.1 h)]
    exact .same _

/-- The lines that carry a name between the two bounds are those that change. -/
lemma lineUse_ne_iff (hab : a ≤ b) (line : String) :
    (g.withSingletonLength a).lineUse line ≠ (g.withSingletonLength b).lineUse line ↔
      ∃ name, CarriesBetween g.rules.scope a b line name := by
  constructor
  · intro hne
    by_contra h
    exact hne (g.lineUse_eq_of_not_carriesBetween hab (not_exists.1 h))
  · rintro ⟨name, hname⟩
    obtain ⟨hb, ha | ha | ha⟩ := g.lineUse_of_carriesBetween hname <;> simp [ha, hb]

/-! ### Whole runs -/

end Generator

/-- Fewer names repeat less often, even if less was seen before them. -/
lemma repetitions_sublist {ns ms : List String} (h : ns.Sublist ms) {seen seen' : List String}
    (hseen : seen ⊆ seen') : (repetitions seen ns).Sublist (repetitions seen' ms) := by
  induction h generalizing seen seen' with
  | slnil => exact .refl _
  | @cons ns ms n _ ih =>
    rw [repetitions]
    split
    · exact .cons _ (ih hseen)
    · exact ih fun m hm => List.mem_cons_of_mem n (hseen hm)
  | @cons_cons ns ms n _ ih =>
    by_cases hn : n ∈ seen
    · simpa [repetitions, hn, hseen hn] using ih hseen
    · by_cases hn' : n ∈ seen'
      · have hsub : n :: seen ⊆ seen' := List.cons_subset.2 ⟨hn', hseen⟩
        simpa [repetitions, hn, hn'] using .cons n (ih hsub)
      · simpa [repetitions, hn, hn'] using ih (List.cons_subset_cons n hseen)

/-- The run of `h` gathers what the run of `g` does, but that the names of upper-case letters and
digits between two lengths have moved to the table of singletons. -/
structure Generator.LengthensTo (g h : Generator) (a b : Nat) (l : Listing) : Prop where
  functionRows : (h.program l).functions = (g.program l).functions
  lines : (h.report l).lines = (g.report l).lines
  blankLines : (h.report l).blankLines = (g.report l).blankLines
  functions : (h.report l).functions = (g.report l).functions
  debugFiltered : (h.report l).debugFiltered = (g.report l).debugFiltered
  privateSkipped : (h.report l).privateSkipped = (g.report l).privateSkipped
  objects : (h.program l).objects.Sublist (g.program l).objects
  singletonRows : (g.program l).singletons.Sublist (h.program l).singletons
  duplicateObjects : (h.report l).duplicateObjects.Sublist (g.report l).duplicateObjects
  classes : (h.report l).classes ≤ (g.report l).classes
  templates : (h.report l).templates ≤ (g.report l).templates
  skippedLines : (h.report l).skippedLines ≤ (g.report l).skippedLines
  recognized : (g.report l).recognized ≤ (h.report l).recognized
  singletons : (h.report l).singletons =
    (g.report l).singletons + ((g.report l).classes - (h.report l).classes) +
      ((g.report l).templates - (h.report l).templates) +
      ((g.report l).skippedLines - (h.report l).skippedLines)
  changes_iff (line : String) :
    g.lineUse line ≠ h.lineUse line ↔ ∃ name, CarriesBetween g.rules.scope a b line name
  moves (line : String) (name : List Char) (hname : CarriesBetween g.rules.scope a b line name) :
    h.lineUse line = .kept ⟨.globalSingleton, String.ofList name⟩ ∧
      (g.lineUse line = .kept ⟨.objectClass, String.ofList name⟩ ∨
        g.lineUse line = .kept ⟨.classTemplate, String.ofList name⟩ ∨
        g.lineUse line = .unrecognized line)

namespace Generator

variable (g : Generator) (l : Listing)

lemma countP_lineUses_congr (hab : a ≤ b) {p : LineUse → Bool}
    (hp : ∀ u v, LineUse.Lengthens u v → p u = p v) :
    ((g.withSingletonLength b).lineUses l).countP p =
      ((g.withSingletonLength a).lineUses l).countP p := by
  rw [lineUses, lineUses, List.countP_map, List.countP_map]
  refine List.countP_congr fun line _ => ?_
  rw [Function.comp_apply, Function.comp_apply, hp _ _ (g.lengthens_lineUse hab line)]

lemma countP_lineUses_mono (hab : a ≤ b) {p : LineUse → Bool}
    (hp : ∀ u v, LineUse.Lengthens u v → p v = true → p u = true) :
    ((g.withSingletonLength b).lineUses l).countP p ≤
      ((g.withSingletonLength a).lineUses l).countP p := by
  rw [lineUses, lineUses, List.countP_map, List.countP_map]
  exact List.countP_mono_left fun line _ => hp _ _ (g.lengthens_lineUse hab line)

lemma blankLines_eq_of_le (hab : a ≤ b) :
    ((g.withSingletonLength b).report l).blankLines =
      ((g.withSingletonLength a).report l).blankLines := by
  rw [report_eq, report_eq]
  exact g.countP_lineUses_congr l hab fun _ _ h => by cases h <;> rfl

lemma privateSkipped_eq_of_le (hab : a ≤ b) :
    ((g.withSingletonLength b).report l).privateSkipped =
      ((g.withSingletonLength a).report l).privateSkipped := by
  rw [report_eq, report_eq]
  exact g.countP_lineUses_congr l hab fun _ _ h => by cases h <;> rfl

lemma debugFiltered_eq_of_le (hab : a ≤ b) :
    ((g.withSingletonLength b).report l).debugFiltered =
      ((g.withSingletonLength a).report l).debugFiltered := by
  rw [report_eq, report_eq]
  exact g.countP_lineUses_congr l hab fun _ _ h => by cases h <;> rfl

lemma functions_report_eq_of_le (hab : a ≤ b) :
    ((g.withSingletonLength b).report l).functions =
      ((g.withSingletonLength a).report l).functions := by
  rw [report_eq, report_eq]
  exact g.countP_lineUses_congr l hab fun _ _ h => h.isKept_freeFunction

lemma classes_le_of_le (hab : a ≤ b) :
    ((g.withSingletonLength b).report l).classes ≤
      ((g.withSingletonLength a).report l).classes := by
  rw [report_eq, report_eq]
  exact g.countP_lineUses_mono l hab fun _ _ h => h.isKept (by decide)

lemma templates_le_of_le (hab : a ≤ b) :
    ((g.withSingletonLength b).report l).templates ≤
      ((g.withSingletonLength a).report l).templates := by
  rw [report_eq, report_eq]
  exact g.countP_lineUses_mono l hab fun _ _ h => h.isKept (by decide)

lemma skippedLines_le_of_le (hab : a ≤ b) :
    ((g.withSingletonLength b).report l).skippedLines ≤
      ((g.withSingletonLength a).report l).skippedLines := by
  rw [report_eq, report_eq]
  exact g.countP_lineUses_mono l hab fun _ _ h => by cases h <;> simp

/-- Every line is counted once. -/
lemma lines_report_eq_sum :
    (g.report l).lines = (g.report l).blankLines + (g.report l).skippedLines +
      (g.report l).classes + (g.report l).templates + (g.report l).functions +
      (g.report l).singletons + (g.report l).debugFiltered + (g.report l).privateSkipped := by
  have hsize : l.size = (g.lineUses l).length := by simp [lineUses, Listing.size]
  rw [report_eq]
  exact hsize.trans (LineUse.length_eq_sum _)

/-! ### The program -/

lemma objects_sublist (hab : a ≤ b) :
    ((g.withSingletonLength b).program l).objects.Sublist
      ((g.withSingletonLength a).program l).objects := by
  rw [(program_eq_flatMap _ l).1, (program_eq_flatMap _ l).1]
  exact List.Sublist.flatMap_right _ fun line _ =>
    (g.lengthens_lineUse hab line).objects_sublist g.rules

lemma functions_eq_of_le (hab : a ≤ b) :
    ((g.withSingletonLength b).program l).functions =
      ((g.withSingletonLength a).program l).functions := by
  rw [(program_eq_flatMap _ l).2.1, (program_eq_flatMap _ l).2.1]
  exact List.flatMap_congr fun line _ =>
    ((g.lengthens_lineUse hab line).functionRows_eq g.rules).symm

lemma singletons_sublist (hab : a ≤ b) :
    ((g.withSingletonLength a).program l).singletons.Sublist
      ((g.withSingletonLength b).program l).singletons := by
  rw [(program_eq_flatMap _ l).2.2, (program_eq_flatMap _ l).2.2]
  exact List.Sublist.flatMap_right _ fun line _ =>
    (g.lengthens_lineUse hab line).singletonRows_sublist g.rules

/-- A greater bound on the length of singletons moves names of upper-case letters and digits into
the table, and changes nothing else. -/
theorem withSingletonLength_lengthens {a b : Nat} (hab : a ≤ b) :
    LengthensTo (g.withSingletonLength a) (g.withSingletonLength b) a b l := by
  have hblank := g.blankLines_eq_of_le l hab
  have hfunctions := g.functions_report_eq_of_le l hab
  have hdebug := g.debugFiltered_eq_of_le l hab
  have hprivate := g.privateSkipped_eq_of_le l hab
  have hclasses := g.classes_le_of_le l hab
  have htemplates := g.templates_le_of_le l hab
  have hskipped := g.skippedLines_le_of_le l hab
  -- All lines are counted under both bounds, so the classes that shrink give to the singletons.
  have hlines : ((g.withSingletonLength b).report l).lines =
      ((g.withSingletonLength a).report l).lines := rfl
  rw [lines_report_eq_sum, lines_report_eq_sum] at hlines
  constructor
  case functionRows => exact g.functions_eq_of_le l hab
  case lines => rfl
  case blankLines => exact hblank
  case functions => exact hfunctions
  case debugFiltered => exact hdebug
  case privateSkipped => exact hprivate
  case objects => exact g.objects_sublist l hab
  case singletonRows => exact g.singletons_sublist l hab
  case duplicateObjects =>
    rw [report_eq, report_eq]
    exact repetitions_sublist ((g.objects_sublist l hab).map _) (List.Subset.refl [])
  case classes => exact hclasses
  case templates => exact htemplates
  case skippedLines => exact hskipped
  case recognized =>
    rw [Report.recognized, Report.recognized]
    omega
  case singletons => omega
  case changes_iff => exact g.lineUse_ne_iff hab
  case moves => exact fun line name hname => g.lineUse_of_carriesBetween hname

/-- Between the bounds 2 and 4, names of three and four characters move: from the classes, from the
templates and from the lines that named nothing. Names of two and five characters stay, and so does
a name in front of a `*`. -/
theorem moves_of_length_two_to_four :
    let g : Generator := .ofConfig {}
    let l : Listing := ⟨["  pwx::RNG;", "  pwx::CRC;", "  pwx::CRC::x;", "  pwx::TAB4: x",
      "  pwx::IO;", "  pwx::CRC32;", "  pwx::UTC*", "# RNG"], none⟩
    ((g.withSingletonLength 4).report l).singletons = 5 ∧
      ((g.withSingletonLength 2).report l).singletons = 1 ∧
      ((g.withSingletonLength 4).report l).duplicateObjects.Sublist
        ((g.withSingletonLength 2).report l).duplicateObjects ∧
      ((g.withSingletonLength 2).report l).recognized ≤
        ((g.withSingletonLength 4).report l).recognized := by
  intro g l
  have h : LengthensTo (g.withSingletonLength 2) (g.withSingletonLength 4) 2 4 l :=
    withSingletonLength_lengthens g l (by decide)
  exact ⟨by decide, by decide, h.duplicateObjects, h.recognized⟩

end Generator

end SymbolProbe
