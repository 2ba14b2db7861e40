import Mathlib.Data.List.Forall2
import Mathlib.Data.List.TakeWhile
import Mathlib.Tactic.Lemma
import SymbolProbe.Header

/-!
# The reduction of header paths

Header paths are parted, in their order, into those that are included by their file name and those
that are left out (`IncludeList.ofPaths_isReduction`). The file name is the text behind the last
slash, and it alone decides what becomes of a path. So the included names are reduced to themselves,
and it does not matter in which directories the headers are.
-/

namespace SymbolProbe

/-! ### File names -/

/-- The file name of a path is the text behind its last slash, or the path if it has none. It is
empty if the path ends in a slash. -/
def HasFileName (path name : String) : Prop :=
  '/' ∉ name.toList ∧ (path = name ∨ ∃ dir, path = dir ++ "/" ++ name)

lemma slash_not_mem_baseName (path : List Char) : '/' ∉ baseName path := by
  intro h
  simpa using List.mem_takeWhile_imp (List.mem_reverse.1 h)

lemma baseName_of_not_mem {path : List Char} (h : '/' ∉ path) : baseName path = path := by
  have hname : path.reverse.takeWhile (· != '/') = path.reverse := by
    rw [List.takeWhile_eq_self_iff]
    intro c hc
    simpa using ne_of_mem_of_not_mem (List.mem_reverse.1 hc) h
  rw [baseName, hname, List.reverse_reverse]

/-- A directory in front does not change the file name. -/
lemma baseName_append_slash (dir path : List Char) :
    baseName (dir ++ '/' :: path) = baseName path := by
  simp only [baseName, List.reverse_append, List.reverse_cons, List.append_assoc,
    List.takeWhile_append]
  split
  · rename_i hall
    have hname : path.reverse.takeWhile (· != '/') = path.reverse :=
      (List.takeWhile_prefix _).eq_of_length hall
    simp [hname]
  · rfl

/-- A path is its file name, alone or behind a directory. -/
lemma eq_baseName_or_exists_dir (path : List Char) :
    path = baseName path ∨ ∃ dir, path = dir ++ '/' :: baseName path := by
  by_cases h : '/' ∈ path
  · obtain ⟨name, dir, hpath, hname⟩ := List.eq_append_cons_of_mem (List.mem_reverse.2 h)
    obtain rfl : path = dir.reverse ++ '/' :: name.reverse := by
      simpa using congrArg List.reverse hpath
    rw [baseName_append_slash, baseName_of_not_mem (by simpa using hname)]
    exact .inr ⟨_, rfl⟩
  · exact .inl (baseName_of_not_mem h).symm

lemma hasFileName_iff {path name : String} :
    HasFileName path name ↔ name.toList = baseName path.toList := by
  constructor
  · rintro ⟨hslash, rfl | ⟨dir, rfl⟩⟩
    · exact (baseName_of_not_mem hslash).symm
    · simp [baseName_append_slash, baseName_of_not_mem hslash]
  · intro h
    refine ⟨h ▸ slash_not_mem_baseName _, ?_⟩
    obtain hpath | ⟨dir, hpath⟩ := eq_baseName_or_exists_dir path.toList
    · exact .inl (String.toList_inj.1 (hpath.trans h.symm))
    · refine .inr ⟨String.ofList dir, String.toList_inj.1 ?_⟩
      simpa [h] using hpath

lemma baseName_eq_nil_iff {path : String} :
    baseName path.toList = [] ↔ path = "" ∨ ∃ dir, path = dir ++ "/" := by
  rw [← String.toList_empty, eq_comm, ← hasFileName_iff, HasFileName]
  simp

/-! ### Single paths -/

/-- A path is left out if it is empty or ends in a slash, or if forward headers are excluded and its
file name marks one. -/
inductive IsLeftOut (excludeForward : Bool) (path : String) : Prop
  | empty (h : path = "")
  | directory {dir : String} (h : path = dir ++ "/")
  | forward {name : String} (h : excludeForward = true) (hname : HasFileName path name)
      (hmark : forwardMarker <:+: name.toList)

variable {excludeForward : Bool} {path : String}

lemma isLeftOut_iff :
    IsLeftOut excludeForward path ↔
      (baseName path.toList).isEmpty ∨
        (excludeForward && Text.occursIn forwardMarker (baseName path.toList)) = true := by
  rw [List.isEmpty_iff, baseName_eq_nil_iff, Bool.and_eq_true, Text.occursIn_iff]
  constructor
  · rintro (h | h | ⟨h, hname, hmark⟩)
    · exact .inl (.inl h)
    · exact .inl (.inr ⟨_, h⟩)
    · exact .inr ⟨h, hasFileName_iff.1 hname ▸ hmark⟩
  · rintro ((h | ⟨dir, h⟩) | ⟨h, hmark⟩)
    · exact .empty h
    · exact .directory h
    · have hname : HasFileName path (String.ofList (baseName path.toList)) :=
        hasFileName_iff.2 String.toList_ofList
      exact .forward h hname (by rwa [String.toList_ofList])

instance : Decidable (IsLeftOut excludeForward path) := decidable_of_iff _ isLeftOut_iff.symm

namespace HeaderUse

lemma excluded?_ofPath :
    (ofPath excludeForward path).excluded? =
      if IsLeftOut excludeForward path then some path else none := by
  simp only [isLeftOut_iff, ofPath]
  split_ifs <;> simp_all [excluded?]

lemma include?_ofPath :
    (ofPath excludeForward path).include? =
      if IsLeftOut excludeForward path then none
      else some (String.ofList (baseName path.toList)) := by
  simp only [isLeftOut_iff, ofPath]
  split_ifs <;> simp_all [include?]

/-- The file name decides what is included of a path. -/
lemma include?_ofPath_congr {other : String} (h : baseName other.toList = baseName path.toList) :
    (ofPath excludeForward other).include? = (ofPath excludeForward path).include? := by
  simp only [include?_ofPath, isLeftOut_iff, h]

end HeaderUse

/-! ### Lists of paths -/

namespace IncludeList

variable (excludeForward : Bool) (paths : List String)

lemma excluded_ofPaths :
    (ofPaths excludeForward paths).excluded = paths.filter (IsLeftOut excludeForward ·) := by
  induction paths with
  | nil => rfl
  | cons path paths ih =>
    simp only [ofPaths, List.map_cons, List.filterMap_cons, List.filter_cons,
      HeaderUse.excluded?_ofPath] at ih ⊢
    by_cases h : IsLeftOut excludeForward path <;> simp [h, ih]

lemma includes_ofPaths :
    (ofPaths excludeForward paths).includes =
      (paths.filter (¬ IsLeftOut excludeForward ·)).map
        fun path => String.ofList (baseName path.toList) := by
  induction paths with
  | nil => rfl
  | cons path paths ih =>
    simp only [ofPaths, List.map_cons, List.filterMap_cons, List.filter_cons,
      HeaderUse.include?_ofPath] at ih ⊢
    by_cases h : IsLeftOut excludeForward path <;> simp [h, ih]

lemma ofPaths_append (more : List String) :
    ofPaths excludeForward (paths ++ more) =
      ⟨(ofPaths excludeForward paths).includes ++ (ofPaths excludeForward more).includes,
        (ofPaths excludeForward paths).excluded ++ (ofPaths excludeForward more).excluded⟩ := by
  simp [ofPaths]

variable {excludeForward paths}

/-- An included name is the file name of a path that is not left out. -/
lemma mem_includes_iff {name : String} :
    name ∈ (ofPaths excludeForward paths).includes ↔
      ∃ path ∈ paths, ¬ IsLeftOut excludeForward path ∧ HasFileName path name := by
  simp only [includes_ofPaths, List.mem_map, List.mem_filter, decide_eq_true_eq, hasFileName_iff,
    and_assoc]
  refine exists_congr fun path => and_congr_right fun _ => and_congr_right fun _ => ?_
  rw [← String.toList_inj, String.toList_ofList, eq_comm]

/-- A name that is included is included again, under the same name. -/
lemma not_isLeftOut_of_mem_includes {name : String}
    (h : name ∈ (ofPaths excludeForward paths).includes) :
    HasFileName name name ∧ ¬ IsLeftOut excludeForward name := by
  obtain ⟨path, -, hkept, hname⟩ := mem_includes_iff.1 h
  have hbase : baseName name.toList = baseName path.toList :=
    (baseName_of_not_mem hname.1).trans (hasFileName_iff.1 hname)
  refine ⟨⟨hname.1, .inl rfl⟩, ?_⟩
  rwa [isLeftOut_iff, hbase, ← isLeftOut_iff]

/-- Included names are reduced to themselves. -/
lemma ofPaths_includes :
    ofPaths excludeForward (ofPaths excludeForward paths).includes =
      ⟨(ofPaths excludeForward paths).includes, []⟩ := by
  have hnames : ∀ name ∈ (ofPaths excludeForward paths).includes,
      HasFileName name name ∧ ¬ IsLeftOut excludeForward name :=
    fun name h => not_isLeftOut_of_mem_includes h
  generalize (ofPaths excludeForward paths).includes = names at hnames ⊢
  have hincludes : (ofPaths excludeForward names).includes = names := by
    rw [includes_ofPaths, List.filter_eq_self.2 fun name h => by simpa using (hnames name h).2]
    refine (List.map_congr_left fun name h => ?_).trans (List.map_id names)
    rw [← hasFileName_iff.1 (hnames name h).1, String.ofList_toList, id]
  have hexcluded : (ofPaths excludeForward names).excluded = [] := by
    rw [excluded_ofPaths, List.filter_eq_nil_iff]
    exact fun name h => by simpa using (hnames name h).2
  calc ofPaths excludeForward names
      = ⟨(ofPaths excludeForward names).includes, (ofPaths excludeForward names).excluded⟩ := rfl
    _ = ⟨names, []⟩ := by rw [hincludes, hexcluded]

/-- Headers that are moved to other directories are included under the same names. -/
lemma includes_ofPaths_of_moved {others : List String}
    (h : List.Forall₂ (fun other path => other = path ∨ ∃ dir, other = dir ++ "/" ++ path)
      others paths) :
    (ofPaths excludeForward others).includes = (ofPaths excludeForward paths).includes := by
  induction h with
  | nil => rfl
  | @cons other path others paths hmoved _ ih =>
    have hbase : baseName other.toList = baseName path.toList := by
      obtain rfl | ⟨dir, rfl⟩ := hmoved
      · rfl
      · simp [baseName_append_slash]
    simp only [ofPaths, List.map_cons, List.filterMap_cons] at ih ⊢
    rw [HeaderUse.include?_ofPath_congr hbase, ih]

/-! ### The reduction -/

/-- A list of headers is the reduction of paths: it parts them in their order, it stays as it is
when it is reduced again, and it goes by the file names and path by path. -/
structure IsReduction (excludeForward : Bool) (paths : List String) (l : IncludeList) : Prop where
  excluded : l.excluded = paths.filter (IsLeftOut excludeForward ·)
  includes : List.Forall₂ HasFileName (paths.filter (¬ IsLeftOut excludeForward ·)) l.includes
  isFileName : ∀ name ∈ l.includes, name ≠ "" ∧ '/' ∉ name.toList
  again : ofPaths excludeForward l.includes = ⟨l.includes, []⟩
  moved : ∀ others, List.Forall₂
    (fun other path => other = path ∨ ∃ dir, other = dir ++ "/" ++ path) others paths →
      (ofPaths excludeForward others).includes = l.includes
  append : ∀ more, ofPaths excludeForward (paths ++ more) =
    ⟨l.includes ++ (ofPaths excludeForward more).includes,
      l.excluded ++ (ofPaths excludeForward more).excluded⟩

/-- Header paths are parted by their file names. -/
theorem ofPaths_isReduction (excludeForward : Bool) (paths : List String) :
    IsReduction excludeForward paths (ofPaths excludeForward paths) := by
  constructor
  case excluded => exact excluded_ofPaths excludeForward paths
  case includes =>
    rw [includes_ofPaths, List.forall₂_map_right_iff, List.forall₂_same]
    exact fun path _ => hasFileName_iff.2 (String.toList_ofList)
  case isFileName =>
    intro name hname
    obtain ⟨hself, hkept⟩ := not_isLeftOut_of_mem_includes hname
    exact ⟨fun hempty => hkept (.empty hempty), hself.1⟩
  case again => exact ofPaths_includes
  case moved => exact fun others h => includes_ofPaths_of_moved h
  case append => exact ofPaths_append excludeForward paths

end IncludeList

end SymbolProbe
