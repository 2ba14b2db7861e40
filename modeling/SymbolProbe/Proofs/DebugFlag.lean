import Mathlib.Tactic.Set
import SymbolProbe.Proofs.CommandWords

/-!
# The debug flag

The debug flag can be given as an option, in the environment, and under the filtered profile as the
first argument behind the listing. All ways lead to one request (`ofWords_option`,
`ofWords_positional`), and two requests that differ in the flag lead to one run unless the filtered
profile is asked for and one of the flags alone is `true` (`Invocation.execute_withDebugFlag`). So
the ways agree, and the plain profile ignores the flag (`execute_debugFlag`).
-/

namespace SymbolProbe

/-! ### Runs with another flag -/

/-- The configuration with another debug flag. -/
def Config.withDebugFlag (c : Config) (flag : String) : Config := { c with debugSymbols := flag }

/-- Another debug flag is as good: the profile filters nothing, or both flags enable debug functions
or neither does. -/
def Config.TakesFor (c : Config) (flag : String) : Prop :=
  c.profile = .plain ∨ (c.debugSymbols = "true" ↔ flag = "true")

lemma Config.excludesFunction_withDebugFlag {c : Config} {flag : String} (h : c.TakesFor flag)
    (name : String) : (c.withDebugFlag flag).excludesFunction name = c.excludesFunction name := by
  obtain h | h := h
  · simp [excludesFunction, withDebugFlag, h, Profile.filtersDebugSymbols]
  · have henabled : (c.withDebugFlag flag).debugEnabled = c.debugEnabled := by
      rw [Bool.eq_iff_iff]
      simpa [debugEnabled, withDebugFlag, debugEnabledFlag] using h.symm
    rw [excludesFunction, henabled]
    rfl

namespace Generator

variable {g : Generator} {flag : String}

/-- The generator with another debug flag. -/
def withDebugFlag (g : Generator) (flag : String) : Generator :=
  { g with config := g.config.withDebugFlag flag }

lemma lineUses_withDebugFlag (h : g.config.TakesFor flag) (l : Listing) :
    (g.withDebugFlag flag).lineUses l = g.lineUses l := by
  refine List.map_congr_left fun line _ => ?_
  have hexcludes : (g.withDebugFlag flag).config.excludesFunction = g.config.excludesFunction :=
    funext fun name => Config.excludesFunction_withDebugFlag h name
  simp only [lineUse, hexcludes]
  rfl

lemma tally_withDebugFlag (h : g.config.TakesFor flag) (l : Listing) :
    (g.withDebugFlag flag).tally l = g.tally l := by
  rw [tally, lineUses_withDebugFlag h]
  rfl

lemma program_withDebugFlag (h : g.config.TakesFor flag) (l : Listing) :
    (g.withDebugFlag flag).program l = g.program l := by
  rw [program, tally_withDebugFlag h]
  rfl

lemma report_withDebugFlag (h : g.config.TakesFor flag) (l : Listing) :
    (g.withDebugFlag flag).report l = g.report l := by
  rw [report, tally_withDebugFlag h, program_withDebugFlag h]
  rfl

lemma events_withDebugFlag (h : g.config.TakesFor flag) (l : Listing) :
    (g.withDebugFlag flag).events l = g.events l := by
  rw [events, lineUses_withDebugFlag h, report_withDebugFlag h]
  rfl

end Generator

namespace CommandLine

/-- The run with another debug flag. -/
def Invocation.withDebugFlag (i : Invocation) (flag : String) : Invocation :=
  { i with config := i.config.withDebugFlag flag }

namespace Invocation

variable {i : Invocation} {flag : String}

lemma generate_withDebugFlag (h : i.config.TakesFor flag) (read : FileReader) :
    (i.withDebugFlag flag).generate read = i.generate read := by
  refine bind_congr fun rules => bind_congr fun l => ?_
  have hg : (Generator.mk i.config rules).config.TakesFor flag := h
  have hevents := Generator.events_withDebugFlag hg l
  have hreport := Generator.report_withDebugFlag hg l
  have hprogram := Generator.program_withDebugFlag hg l
  simp only [Generator.withDebugFlag] at hevents hreport hprogram
  simp only [withDebugFlag, hevents, hreport, hprogram]
  rfl

/-- A run with a flag that is as good is the same run. -/
lemma execute_withDebugFlag (h : i.config.TakesFor flag) (c : Console) (t : FileTree) :
    (i.withDebugFlag flag).execute c t = i.execute c t := by
  rw [execute, generate_withDebugFlag h]
  rfl

end Invocation

/-! ### Requests of drafts -/

/-- The request with another debug flag. -/
def Request.withDebugFlag (flag : String) : Request → Request
  | .run i => .run (i.withDebugFlag flag)
  | r => r

namespace Draft

/-- The profile that a draft asks for. -/
def profile (d : Draft) : Profile :=
  ((d.settings.lookup .profile).bind Profile.ofName?).getD .filtered

variable {d e : Draft} {env env' : Environment} {listing : String} {args args' : List String}
  {i : Invocation}

/-- Alike drafts ask for the same run if they come to the same flag and headers. -/
lemma request_congr (h : d.Alike e) (hd : d.positionals = listing :: args)
    (he : e.positionals = listing :: args')
    (henv : ∀ s, s ≠ .debugSymbols → env.value? s = env'.value? s)
    (hsplit : splitArguments d.profile (d.value? env .debugSymbols) args =
      splitArguments d.profile (e.value? env' .debugSymbols) args') :
    d.request env = e.request env' := by
  have hvalue : ∀ s, s ≠ .debugSymbols → d.value? env s = e.value? env' s := by
    intro s hs
    rw [value?, value?, h.lookup hs, henv s hs]
  have hconfig : d.config env args = e.config env' args' := by
    have hprofile : d.profile = ((d.value? env .profile).bind Profile.ofName?).getD .filtered := by
      simp [profile, value?, Environment.value?]
    rw [hprofile, hvalue .profile (by decide)] at hsplit
    simp only [config, hvalue .profile (by decide), hvalue .scope (by decide),
      hvalue .maxSingletonLength (by decide), hsplit]
  simp only [request, hd, he, hconfig, hvalue .rules (by decide), hvalue .output (by decide),
    hvalue .report (by decide), h.isVerbose]

lemma eq_of_request_eq_run (hd : d.positionals = listing :: args) (h : d.request env = .run i) :
    i.listing = listing ∧ i.config = d.config env args := by
  simp only [request, hd] at h
  split at h
  · cases h
  · obtain rfl := Request.run.inj h
    exact ⟨rfl, rfl⟩

lemma profile_config (d : Draft) (env : Environment) (args : List String) :
    (d.config env args).profile = d.profile := by
  show ((d.value? env .profile).bind Profile.ofName?).getD .filtered = d.profile
  simp [profile, value?, Environment.value?]

lemma debugSymbols_config (d : Draft) (env : Environment) (args : List String) :
    (d.config env args).debugSymbols =
      (splitArguments d.profile (d.value? env .debugSymbols) args).1 := by
  rw [← d.profile_config env args]
  rfl

lemma headers_config (d : Draft) (env : Environment) (args : List String) :
    (d.config env args).headers =
      (splitArguments d.profile (d.value? env .debugSymbols) args).2 := by
  rw [← d.profile_config env args]
  rfl

/-- Without an option, the environment gives the debug flag and changes nothing else. -/
lemma request_withDebugFlag (hlookup : d.settings.lookup .debugSymbols = none)
    (hd : d.positionals = listing :: args) (env : Environment) (flag other : String) :
    d.request { env with debugSymbols := some other } =
      (d.request { env with debugSymbols := some flag }).withDebugFlag other := by
  simp only [request, hd, config, value?, hlookup, Environment.value?]
  split <;> rfl

/-- Where no argument is taken for the debug flag, it is `false` unless it is given. -/
lemma request_unset (hlookup : d.settings.lookup .debugSymbols = none)
    (hd : d.positionals = listing :: args) (hargs : d.profile = .plain ∨ args = [])
    (env : Environment) :
    d.request { env with debugSymbols := none } =
      d.request { env with debugSymbols := some "false" } := by
  refine request_congr (.refl d) hd hd ?_ ?_
  · intro s hs
    cases s <;> simp_all [Environment.value?]
  · simp only [value?, hlookup, Environment.value?, Option.none_or]
    obtain h | rfl := hargs
    · rw [h]
      rfl
    · cases d.profile <;> rfl

end Draft

/-! ### Requests of words -/

/-- The words choose the plain profile. Otherwise they ask for the filtered one, if they make
sense. -/
def ChoosesPlain (words : List String) : Prop :=
  .setting .profile "plain" ∈ Argument.ofWords words

instance (words : List String) : Decidable (ChoosesPlain words) :=
  inferInstanceAs (Decidable (_ ∈ _))

variable {front back before behind words texts headers : List String}
  {listing flag other : String} {env : Environment} {t : FileTree} {i : Invocation} {d : Draft}

lemma profile_of_choosesPlain (hwords : Arranges words texts) (hplain : ChoosesPlain words)
    (hd : (Argument.ofWords words).foldlM Draft.add {} = .ok d) : d.profile = .plain := by
  rw [Draft.profile, Draft.lookup_of_mem hwords.not_givesDebugFlag hd hplain]
  rfl

lemma profile_of_not_choosesPlain (hfiltered : ¬ ChoosesPlain words) :
    (Draft.extend {} (Argument.ofWords words)).profile = .filtered := by
  rw [Draft.profile]
  cases hlookup : (Draft.extend {} (Argument.ofWords words)).settings.lookup .profile with
  | none => rfl
  | some value =>
    have hne : value ≠ "plain" := by
      rintro rfl
      exact hfiltered (Draft.mem_of_lookup_extend hlookup)
    rw [Option.bind_some]
    unfold Profile.ofName?
    split <;> simp_all

/-- Arranged words ask for what their draft asks for, or for no run in any environment. -/
lemma Arranges.ofWords_eq (hwords : Arranges words texts) :
    (∃ r, (∀ i, r ≠ .run i) ∧ ∀ env, Request.ofWords words env = r) ∨
      ∃ d : Draft, (Argument.ofWords words).foldlM Draft.add {} = .ok d ∧ d.positionals = texts ∧
        d.settings.lookup .debugSymbols = none ∧
          ∀ env, Request.ofWords words env = d.request env := by
  obtain ⟨r, hr, -⟩ | ⟨hok, -⟩ :=
    (Draft.Alike.refl {}).foldlM_add hwords.not_givesDebugFlag
  · exact .inl ⟨r, Draft.ne_run_of_foldlM_add hr, fun env => by rw [Request.ofWords, hr]⟩
  · refine .inr ⟨_, hok, ?_, Draft.lookup_debugSymbols_extend {} hwords.not_givesDebugFlag,
      fun env => by rw [Request.ofWords, hok]⟩
    simp [Draft.extend, hwords.filterMap_positional?]

/-- The option and the environment give the debug flag alike, wherever the option stands. -/
lemma ofWords_option {option : List String}
    (hwords : Arranges (before ++ behind) (listing :: headers)) (hbefore : Arranges before texts)
    (hoption : IsDebugOption flag option) (hflag : IsPlainWord flag) (env : Environment) :
    Request.ofWords (before ++ (option ++ behind)) env =
      Request.ofWords (before ++ behind) { env with debugSymbols := some flag } := by
  have hpositionals := hwords.filterMap_positional?
  have hbehind := hwords.not_givesDebugFlag
  rw [hbefore.ofWords_append] at hpositionals hbehind
  rw [List.forall_mem_append] at hbehind
  set d : Draft := Draft.extend {} (Argument.ofWords before) with hd
  have hlookup : d.settings.lookup .debugSymbols = none :=
    Draft.lookup_debugSymbols_extend {} hbehind.1
  have halike := d.alike_extend_debugSymbols flag
  rw [Request.ofWords, Request.ofWords, hbefore.ofWords_append, hbefore.ofWords_append,
    hoption.ofWords_append hflag]
  obtain ⟨r, hr, hr'⟩ | ⟨hok, hok'⟩ := Draft.foldlM_add_insert hbehind.1 hbehind.2
    (Draft.add_debugSymbols hlookup flag) halike
  · rw [hr, hr']
  rw [hok, hok', ← hd]
  have hvalue : (d.extend [.setting .debugSymbols flag]).settings.lookup .debugSymbols =
      some flag := by
    simp [Draft.lookup_extend, hlookup, Argument.setting?]
  have hrest : (d.extend (Argument.ofWords behind)).positionals = listing :: headers := by
    simpa [hd, Draft.extend] using hpositionals
  have hrest' : ((d.extend [.setting .debugSymbols flag]).extend
      (Argument.ofWords behind)).positionals = listing :: headers := by
    simpa [hd, Draft.extend, List.filterMap_cons, Argument.positional?] using hpositionals
  refine (Draft.request_congr (halike.extend _) hrest hrest' ?_ ?_).symm
  · intro s hs
    cases s <;> simp_all [Environment.value?]
  · rw [Draft.value?, Draft.value?, Draft.lookup_debugSymbols_extend _ hbehind.2,
      Draft.lookup_debugSymbols_extend _ hbehind.2, hlookup, hvalue]
    rfl

/-- Under the filtered profile the argument behind the listing and the environment give the debug
flag alike. -/
lemma ofWords_positional (hfront : Arranges front [listing]) (hback : Arranges back headers)
    (hflag : IsPlainWord flag) (hfiltered : ¬ ChoosesPlain (front ++ back)) (env : Environment) :
    Request.ofWords (front ++ flag :: back) { env with debugSymbols := none } =
      Request.ofWords (front ++ back) { env with debugSymbols := some flag } := by
  have hprofile := profile_of_not_choosesPlain hfiltered
  rw [hfront.ofWords_append, Draft.extend_append] at hprofile
  set d : Draft := Draft.extend {} (Argument.ofWords front) with hd
  have hlookup : d.settings.lookup .debugSymbols = none :=
    Draft.lookup_debugSymbols_extend {} hfront.not_givesDebugFlag
  have hpositionals : d.positionals = [listing] := by
    simp [hd, Draft.extend, hfront.filterMap_positional?]
  have hadd : d.add (.positional flag) = .ok (d.extend [.positional flag]) := by
    simp [Draft.add, Draft.extend, hpositionals, Argument.positional?, Argument.setting?]
  have halike : d.Alike (d.extend [.positional flag]) :=
    Draft.alike_extend_positional (by simp [hpositionals]) flag
  rw [Request.ofWords, Request.ofWords, hfront.ofWords_append, hfront.ofWords_append,
    ofWords_of_isPlainWord hflag]
  obtain ⟨r, hr, hr'⟩ | ⟨hok, hok'⟩ := Draft.foldlM_add_insert hfront.not_givesDebugFlag
    hback.not_givesDebugFlag hadd halike
  · rw [hr, hr']
  rw [hok, hok', ← hd]
  have hvalue : (d.extend [.positional flag]).settings.lookup .debugSymbols = none := by
    simp [Draft.lookup_extend, hlookup, Argument.setting?]
  have hrest : (d.extend (Argument.ofWords back)).positionals = listing :: headers := by
    simp [Draft.extend, hpositionals, hback.filterMap_positional?]
  have hrest' : ((d.extend [.positional flag]).extend (Argument.ofWords back)).positionals =
      listing :: flag :: headers := by
    simp [Draft.extend, hpositionals, hback.filterMap_positional?, Argument.positional?]
  refine (Draft.request_congr (halike.extend _) hrest hrest' ?_ ?_).symm
  · intro s hs
    cases s <;> simp_all [Environment.value?]
  · rw [hprofile, Draft.value?, Draft.value?,
      Draft.lookup_debugSymbols_extend _ hback.not_givesDebugFlag,
      Draft.lookup_debugSymbols_extend _ hback.not_givesDebugFlag, hlookup, hvalue]
    rfl

/-! ### Command lines -/

lemma execute_congr {words' : List String} {env' : Environment}
    (h : Request.ofWords words env = Request.ofWords words' env') (t : FileTree)
    (hconsole : env.console = env'.console := by rfl) :
    execute words env t = execute words' env' t := by
  rw [execute, execute, h, hconsole]

/-- A flag in the environment is as good as another one that enables debug functions just when it
does, and as any other one under the plain profile. -/
lemma execute_environment (hwords : Arranges words (listing :: headers))
    (hflags : ChoosesPlain words ∨ (flag = "true" ↔ other = "true")) (env : Environment)
    (t : FileTree) :
    execute words { env with debugSymbols := some other } t =
      execute words { env with debugSymbols := some flag } t := by
  obtain ⟨r, -, hr⟩ | ⟨d, hok, hd, hlookup, hrequest⟩ := hwords.ofWords_eq
  · exact execute_congr ((hr _).trans (hr _).symm) t
  rw [execute, execute, hrequest, hrequest, Draft.request_withDebugFlag hlookup hd env flag other]
  cases hreq : d.request { env with debugSymbols := some flag } with
  | version | help | misuse => rfl
  | run i =>
    have htakes : i.config.TakesFor other := by
      obtain ⟨-, hconfig⟩ := Draft.eq_of_request_eq_run hd hreq
      have hdebug : i.config.debugSymbols = flag := by
        rw [hconfig, Draft.debugSymbols_config, Draft.value?, hlookup]
        rfl
      rw [Config.TakesFor, hdebug, hconfig, Draft.profile_config]
      exact hflags.imp_left fun hplain => profile_of_choosesPlain hwords hplain hok
    exact Invocation.execute_withDebugFlag htakes env.console t

/-- Where no argument is taken for the debug flag, a command line without one has the flag `false`.
-/
lemma execute_unset (hwords : Arranges words (listing :: headers))
    (hnone : ChoosesPlain words ∨ headers = []) (env : Environment) (t : FileTree) :
    execute words { env with debugSymbols := none } t =
      execute words { env with debugSymbols := some "false" } t := by
  obtain ⟨r, -, hr⟩ | ⟨d, hok, hd, hlookup, hrequest⟩ := hwords.ofWords_eq
  · exact execute_congr ((hr _).trans (hr _).symm) t
  refine execute_congr ?_ t
  rw [hrequest, hrequest]
  exact Draft.request_unset hlookup hd
    (hnone.imp_left fun hplain => profile_of_choosesPlain hwords hplain hok) env

/-- Under the plain profile the environment gives no debug flag that matters. -/
lemma execute_environment_of_choosesPlain (hwords : Arranges words (listing :: headers))
    (hplain : ChoosesPlain words) (env : Environment) (given : Option String) (t : FileTree) :
    execute words { env with debugSymbols := given } t = execute words env t := by
  have hfalse : ∀ given : Option String, execute words { env with debugSymbols := given } t =
      execute words { env with debugSymbols := some "false" } t := by
    intro given
    cases given with
    | none => exact execute_unset hwords (.inl hplain) env t
    | some flag => exact execute_environment hwords (.inl hplain) env t
  exact (hfalse given).trans (hfalse env.debugSymbols).symm

/-- Under the plain profile all positional arguments behind the listing are headers. -/
lemma headers_of_choosesPlain (hwords : Arranges words (listing :: headers))
    (hplain : ChoosesPlain words) (hi : Request.ofWords words env = .run i) :
    i.listing = listing ∧ i.config.headers = headers := by
  obtain ⟨r, hrun, hr⟩ | ⟨d, hok, hd, -, hrequest⟩ := hwords.ofWords_eq
  · exact absurd ((hr env).symm.trans hi) (hrun i)
  rw [hrequest] at hi
  obtain ⟨hlisting, hconfig⟩ := Draft.eq_of_request_eq_run hd hi
  refine ⟨hlisting, ?_⟩
  rw [hconfig, Draft.headers_config, profile_of_choosesPlain hwords hplain hok]
  cases d.value? env .debugSymbols <;> rfl

/-! ### The ways to give the flag -/

/-- The words have the debug flag as an option between other words. -/
inductive HasOption (flag : String) (words : List String) : List String → Prop
  | intro {before behind texts option : List String} (hwords : before ++ behind = words)
      (hbefore : Arranges before texts) (hoption : IsDebugOption flag option)
      (hflag : IsPlainWord flag) : HasOption flag words (before ++ (option ++ behind))

lemma HasOption.ofWords_eq {more : List String} (h : HasOption flag words more)
    (hwords : Arranges words (listing :: headers)) (env : Environment) :
    Request.ofWords more env =
      Request.ofWords words { env with debugSymbols := some flag } := by
  obtain ⟨rfl, hbefore, hoption, hflag⟩ := h
  exact ofWords_option hwords hbefore hoption hflag env

/-- The ways to give the debug flag agree: as an option anywhere, as the first argument behind the
listing, and in the environment. It matters only whether the flag is `true`. -/
structure AgreesOnDebugFlag (front back headers : List String) (env : Environment)
    (t : FileTree) : Prop where
  option {flag : String} {words : List String} (h : HasOption flag (front ++ back) words) :
    execute words { env with debugSymbols := none } t =
      execute (front ++ flag :: back) { env with debugSymbols := none } t
  environment {flag : String} (hflag : IsPlainWord flag) :
    execute (front ++ back) { env with debugSymbols := some flag } t =
      execute (front ++ flag :: back) { env with debugSymbols := none } t
  enabled {flag other : String} (hflag : IsPlainWord flag) (hother : IsPlainWord other)
    (hsame : flag = "true" ↔ other = "true") :
    execute (front ++ other :: back) { env with debugSymbols := none } t =
      execute (front ++ flag :: back) { env with debugSymbols := none } t
  unset (hheaders : headers = []) :
    execute (front ++ back) { env with debugSymbols := none } t =
      execute (front ++ "false" :: back) { env with debugSymbols := none } t

/-- The debug flag does not matter, whether it is given or not, and no argument is taken for it. -/
structure IgnoresDebugFlag (words : List String) (listing : String) (headers : List String)
    (env : Environment) (t : FileTree) : Prop where
  option {flag : String} {more : List String} (h : HasOption flag words more) :
    execute more env t = execute words env t
  environment (given : Option String) :
    execute words { env with debugSymbols := given } t = execute words env t
  headers {more : List String} (h : more = words ∨ ∃ flag, HasOption flag words more)
    {i : Invocation} (hi : Request.ofWords more env = .run i) :
    i.listing = listing ∧ i.config.headers = headers

/-- Under the filtered profile all ways to give the debug flag agree, and under the plain one it is
ignored. The words in front of the flag hold the listing and those behind it the headers, among any
other options. -/
theorem execute_debugFlag (hfront : Arranges front [listing]) (hback : Arranges back headers)
    (env : Environment) (t : FileTree) :
    (¬ ChoosesPlain (front ++ back) → AgreesOnDebugFlag front back headers env t) ∧
      (ChoosesPlain (front ++ back) → IgnoresDebugFlag (front ++ back) listing headers env t) := by
  have hwords : Arranges (front ++ back) (listing :: headers) := hfront.append hback
  constructor
  · intro hfiltered
    have henvironment : ∀ {flag : String}, IsPlainWord flag →
        execute (front ++ back) { env with debugSymbols := some flag } t =
          execute (front ++ flag :: back) { env with debugSymbols := none } t := fun hflag =>
      (execute_congr (ofWords_positional hfront hback hflag hfiltered env) t).symm
    constructor
    case option =>
      intro flag words h
      have hflag : IsPlainWord flag := by
        cases h
        assumption
      rw [← henvironment hflag]
      exact execute_congr (h.ofWords_eq hwords _) t
    case environment => exact henvironment
    case enabled =>
      intro flag other hflag hother hsame
      rw [← henvironment hflag, ← henvironment hother]
      exact execute_environment hwords (.inr hsame) env t
    case unset =>
      intro hheaders
      rw [← henvironment (by decide)]
      exact execute_unset hwords (.inr hheaders) env t
  · intro hplain
    constructor
    case option =>
      intro flag more h
      rw [execute_congr (h.ofWords_eq hwords env) t]
      exact execute_environment_of_choosesPlain hwords hplain env _ t
    case environment =>
      exact fun given => execute_environment_of_choosesPlain hwords hplain env given t
    case headers =>
      rintro more (rfl | ⟨flag, h⟩) i hi
      · exact headers_of_choosesPlain hwords hplain hi
      · rw [h.ofWords_eq hwords] at hi
        exact headers_of_choosesPlain hwords hplain hi

/-- The flag stands between a short option and a long one with its value in the same word. Under the
plain profile the same word is a header. -/
theorem execute_debugFlag_among_options :
    let t : FileTree := { entries := [(["s"], .text "  pwx::debug_log;\n")] }
    let words := ["-v", "s", "true", "--report=json", "a/fwd.h"]
    let plain := ["--profile", "plain", "s", "true"]
    Request.ofWords words {} = .run ⟨"s", { debugSymbols := "true", headers := ["a/fwd.h"] }, none,
        none, some .json, true⟩ ∧
      execute ["-v", "--debug-symbols", "true", "s", "--report=json", "a/fwd.h"] {} t =
        execute words {} t ∧
      execute ["-v", "s", "--report=json", "a/fwd.h"] { debugSymbols := some "true" } t =
        execute words {} t ∧
      execute plain { debugSymbols := some "false" } t = execute plain {} t ∧
      ∃ i, Request.ofWords plain {} = .run i ∧ i.listing = "s" ∧ i.config.headers = ["true"] := by
  intro t words plain
  have hverbose : Arranges ["-v"] [] := by
    have hword : Word.ofText "-v" = .complete [.flag .verbose] := by decide
    exact .complete hword (by simp [Argument.IsOther]) .nil
  have hfront : Arranges ["-v", "s"] ["s"] := hverbose.append (.positional (by decide) .nil)
  have hback : Arranges ["--report=json", "a/fwd.h"] ["a/fwd.h"] := by
    have hword : Word.ofText "--report=json" = .complete [.setting .report "json"] := by decide
    exact .complete hword (by simp [Argument.IsOther]) (.positional (by decide) .nil)
  have hplain : Arranges ["--profile", "plain", "s"] ["s"] := by
    have hword : Word.ofText "--profile" = .unfinished [] .profile := by decide
    exact .unfinished hword (by simp) (by decide) (by decide) (.positional (by decide) .nil)
  have hheader : Arranges ["true"] ["true"] := .positional (by decide) .nil
  have hagrees := (execute_debugFlag hfront hback {} t).1 (by decide)
  have hignores := (execute_debugFlag hplain hheader {} t).2 (by decide)
  have hoption : HasOption "true" ["-v", "s", "--report=json", "a/fwd.h"]
      (["-v"] ++ (["--debug-symbols", "true"] ++ ["s", "--report=json", "a/fwd.h"])) :=
    .intro rfl hverbose .apart (by decide)
  have hrun : Request.ofWords plain {} = .run ⟨"s", { profile := .plain, headers := ["true"] },
      none, none, none, false⟩ := by decide
  refine ⟨by decide, hagrees.option hoption, hagrees.environment (by decide),
    hignores.environment (some "false"), _, hrun, ?_⟩
  exact hignores.headers (.inl rfl) hrun

end CommandLine

end SymbolProbe
