import Mathlib.Tactic.Lemma
import SymbolProbe.Generation

/-!
# Line endings

A text is made of lines and of what ends them: a line feed, a carriage return and a line feed, or,
behind a last line that is not empty, nothing at all. Reading a text gives back the lines it was
made of, whatever their endings are, and every text is made in this way of the lines that are read
from it (`Listing.renders_iff`). A carriage return at the end of a line belongs to the line unless
the line feed follows, so such a line cannot be ended by a line feed alone.
-/

namespace SymbolProbe

namespace Text

/-! ### Texts made of lines -/

/-- What follows a line in a text. -/
inductive LineEnding
  | feed
  | returnFeed
  | absent
deriving DecidableEq, Repr

/-- The characters of an ending. -/
def LineEnding.text : LineEnding → List Char
  | .feed => ['\n']
  | .returnFeed => ['\r', '\n']
  | .absent => []

/-- A line and its ending. -/
structure EndedLine where
  line : String
  ending : LineEnding
deriving DecidableEq, Repr

def EndedLine.text (e : EndedLine) : List Char := e.line.toList ++ e.ending.text

/-- The lines hold no line feed and have endings that suit them. -/
inductive AreEnded : List EndedLine → Prop
  | nil : AreEnded []
  | feed {l : String} {es : List EndedLine} (hl : '\n' ∉ l.toList)
      (hr : l.toList.getLast? ≠ some '\r') (hes : AreEnded es) : AreEnded (⟨l, .feed⟩ :: es)
  | returnFeed {l : String} {es : List EndedLine} (hl : '\n' ∉ l.toList) (hes : AreEnded es) :
      AreEnded (⟨l, .returnFeed⟩ :: es)
  | absent {l : String} (hl : '\n' ∉ l.toList) (hne : l ≠ "") : AreEnded [⟨l, .absent⟩]

/-- A text consists of lines with endings that suit them. -/
def Renders (ls : List String) (text : String) : Prop :=
  ∃ es, AreEnded es ∧ es.map EndedLine.line = ls ∧ es.flatMap EndedLine.text = text.toList

/-! ### Reading them back -/

lemma lines_eq_singleton {l : List Char} (hl : '\n' ∉ l) (hne : l ≠ []) : lines l = [l] := by
  induction l with
  | nil => exact absurd rfl hne
  | cons c l ih =>
    simp only [List.mem_cons, not_or] at hl
    rw [lines_cons (Ne.symm hl.1)]
    · cases l with
      | nil => rfl
      | cons d l => rw [ih hl.2 (List.cons_ne_nil d l)]
    · intro _ hhead
      obtain ⟨t, rfl⟩ := List.head?_eq_some_iff.1 hhead
      simp at hl

lemma AreEnded.lines_flatMap {es : List EndedLine} (h : AreEnded es) :
    lines (es.flatMap EndedLine.text) = es.map fun e => e.line.toList := by
  induction h with
  | nil => rfl
  | @feed l es hl hr _ ih =>
    have htext : (⟨l, .feed⟩ :: es : List EndedLine).flatMap EndedLine.text =
        l.toList ++ '\n' :: es.flatMap EndedLine.text := by
      simp [EndedLine.text, LineEnding.text]
    rw [htext, lines_append_feed _ hl hr, ih, List.map_cons]
  | @returnFeed l es hl _ ih =>
    have htext : (⟨l, .returnFeed⟩ :: es : List EndedLine).flatMap EndedLine.text =
        l.toList ++ '\r' :: '\n' :: es.flatMap EndedLine.text := by
      simp [EndedLine.text, LineEnding.text]
    rw [htext, lines_append_return_feed _ hl, ih, List.map_cons]
  | @absent l hl hne =>
    have htext : [(⟨l, .absent⟩ : EndedLine)].flatMap EndedLine.text = l.toList := by
      simp [EndedLine.text, LineEnding.text]
    rw [htext, lines_eq_singleton hl (by simpa using hne)]
    rfl

/-! ### Every text is made of lines -/

/-- A character in front joins the first line, unless it is a line feed or starts an ending. -/
lemma AreEnded.cons_char {c : Char} {e : EndedLine} {es : List EndedLine} (h : AreEnded (e :: es))
    (hc : c ≠ '\n')
    (hr : c = '\r' → ((e :: es).flatMap EndedLine.text).head? ≠ some '\n') :
    AreEnded (⟨String.ofList (c :: e.line.toList), e.ending⟩ :: es) := by
  cases h with
  | @feed l _ hl hlast hes =>
    refine .feed (by simpa [Ne.symm hc] using hl) ?_ hes
    cases hchars : l.toList with
    | nil =>
      intro hreturn
      refine hr (by simpa [hchars] using hreturn) ?_
      simp [EndedLine.text, LineEnding.text, hchars]
    | cons d t => simpa [hchars] using hlast
  | returnFeed hl hes => exact .returnFeed (by simpa [Ne.symm hc] using hl) hes
  | absent hl _ => exact .absent (by simpa [Ne.symm hc] using hl) (by simp [← String.toList_inj])

lemma exists_areEnded (t : List Char) :
    ∃ es, AreEnded es ∧ es.flatMap EndedLine.text = t := by
  fun_induction lines t with
  | case1 => exact ⟨[], .nil, rfl⟩
  | case2 t ih =>
    obtain ⟨es, hes, rfl⟩ := ih
    exact ⟨⟨"", .feed⟩ :: es, .feed (by simp) (by simp) hes, rfl⟩
  | case3 t ih =>
    obtain ⟨es, hes, rfl⟩ := ih
    exact ⟨⟨"", .returnFeed⟩ :: es, .returnFeed (by simp) hes, rfl⟩
  | case4 c t hc hr hnone ih =>
    -- A text without lines is empty.
    obtain ⟨es, hes, rfl⟩ := ih
    rw [hes.lines_flatMap, List.map_eq_nil_iff] at hnone
    subst hnone
    have hfeed : '\n' ≠ c := fun h => hc h.symm
    refine ⟨[⟨String.ofList [c], .absent⟩], .absent (by simpa using hfeed) ?_, ?_⟩
    · simp [← String.toList_inj]
    · simp [EndedLine.text, LineEnding.text]
  | case5 c t hc hr l ls hsome ih =>
    obtain ⟨es, hes, rfl⟩ := ih
    rw [hes.lines_flatMap] at hsome
    cases es with
    | nil => cases hsome
    | cons e es =>
      refine ⟨_, hes.cons_char hc ?_, by simp [EndedLine.text]⟩
      intro hreturn hhead
      obtain ⟨u, hu⟩ := List.head?_eq_some_iff.1 hhead
      exact hr u hreturn hu

end Text

/-! ### Listings -/

namespace Listing

open Text

lemma lines_ofText_of_renders {ls : List String} {text : String} (h : Renders ls text) :
    (ofText text).lines = ls := by
  obtain ⟨es, hes, rfl, htext⟩ := h
  rw [lines_ofText, ← htext, hes.lines_flatMap, List.map_map]
  simp

lemma renders_lines_ofText (text : String) : Renders (ofText text).lines text := by
  obtain ⟨es, hes, htext⟩ := exists_areEnded text.toList
  refine ⟨es, hes, ?_, htext⟩
  exact (lines_ofText_of_renders ⟨es, hes, rfl, htext⟩).symm

/-- The lines of a listing are those that its text was made of, and no ending of a line can be told
from the source or from the report. -/
theorem renders_iff (text : String) :
    (∀ ls, Renders ls text ↔ (ofText text).lines = ls) ∧
      (∀ line ∈ (ofText text).lines, '\n' ∉ line.toList) ∧
      ∀ ls other, Renders ls text → Renders ls other → ∀ g : Generator,
        (g.program (ofText text)).source = (g.program (ofText other)).source ∧
          g.report (ofText text) = g.report (ofText other) := by
  refine ⟨fun ls => ⟨lines_ofText_of_renders, ?_⟩, ?_, ?_⟩
  · rintro rfl
    exact renders_lines_ofText text
  · intro line hline
    obtain ⟨l, hl, rfl⟩ := List.mem_map.1 hline
    simpa using feed_not_mem_of_mem_lines hl
  · intro ls other htext hother g
    have hlistings : ofText text = ofText other := by
      have hlines := (lines_ofText_of_renders htext).trans (lines_ofText_of_renders hother).symm
      simpa [ofText] using hlines
    rw [hlistings]
    exact ⟨rfl, rfl⟩

/-- Lone carriage returns, empty lines of both endings and a last line without one. -/
theorem renders_mixed_endings :
    Renders ["  pwx::a1;\r", "", "", "\rx", "\r"] "  pwx::a1;\r\r\n\n\r\n\rx\n\r" ∧
      (ofText "  pwx::a1;\r\r\n\n\r\n\rx\n\r").lines = ["  pwx::a1;\r", "", "", "\rx", "\r"] ∧
      ∀ g : Generator,
        g.report (ofText "  pwx::a1;\r\r\n\n\r\n\rx\n\r") =
          g.report (ofText "  pwx::a1;\r\r\n\r\n\n\rx\r\n\r\r\n") := by
  have hmixed : Renders ["  pwx::a1;\r", "", "", "\rx", "\r"] "  pwx::a1;\r\r\n\n\r\n\rx\n\r" :=
    ⟨[⟨"  pwx::a1;\r", .returnFeed⟩, ⟨"", .feed⟩, ⟨"", .returnFeed⟩, ⟨"\rx", .feed⟩,
        ⟨"\r", .absent⟩],
      .returnFeed (by decide) (.feed (by decide) (by decide) (.returnFeed (by decide)
        (.feed (by decide) (by decide) (.absent (by decide) (by decide))))), rfl, rfl⟩
  have hother : Renders ["  pwx::a1;\r", "", "", "\rx", "\r"]
      "  pwx::a1;\r\r\n\r\n\n\rx\r\n\r\r\n" :=
    ⟨[⟨"  pwx::a1;\r", .returnFeed⟩, ⟨"", .returnFeed⟩, ⟨"", .feed⟩, ⟨"\rx", .returnFeed⟩,
        ⟨"\r", .returnFeed⟩],
      .returnFeed (by decide) (.returnFeed (by decide) (.feed (by decide) (by decide)
        (.returnFeed (by decide) (.returnFeed (by decide) .nil)))), rfl, rfl⟩
  have h := renders_iff "  pwx::a1;\r\r\n\n\r\n\rx\n\r"
  exact ⟨hmixed, (h.1 _).1 hmixed, fun g => (h.2.2 _ _ hmixed hother g).2⟩

end Listing

end SymbolProbe
