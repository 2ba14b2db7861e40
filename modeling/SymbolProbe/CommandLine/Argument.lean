import SymbolProbe.Config

/-!
# Arguments

The words of a command line are read as positional arguments, options with values, and flags. A
value follows its option in the next word or in the same one; a flag has none. Short options can be
put together in one word. Behind a lone double dash everything is positional.
-/

namespace SymbolProbe.CommandLine

/-- The options that have a value. -/
inductive Setting
  | profile
  | debugSymbols
  | scope
  | rules
  | maxSingletonLength
  | output
  | report
deriving DecidableEq, Repr

/-- The options that have no value. -/
inductive Flag
  | verbose
  | version
  | help
deriving DecidableEq, Repr

/-- An option of either kind. -/
inductive Switch
  | setting (s : Setting)
  | flag (f : Flag)
deriving DecidableEq, Repr

namespace Switch

/-- The option with a long name. -/
def ofLong? : String → Option Switch
  | "profile" => some (.setting .profile)
  | "debug-symbols" => some (.setting .debugSymbols)
  | "namespace" => some (.setting .scope)
  | "rules" => some (.setting .rules)
  | "max-singleton-len" => some (.setting .maxSingletonLength)
  | "output" => some (.setting .output)
  | "report" => some (.setting .report)
  | "verbose" => some (.flag .verbose)
  | "version" => some (.flag .version)
  | "help" => some (.flag .help)
  | _ => none

/-- The option with a short name. -/
def ofShort? : Char → Option Switch
  | 'o' => some (.setting .output)
  | 'v' => some (.flag .verbose)
  | 'V' => some (.flag .version)
  | 'h' => some (.flag .help)
  | _ => none

end Switch

/-- A part of a command line. -/
inductive Argument
  | positional (text : String)
  | setting (s : Setting) (value : String)
  | flag (f : Flag)
  /-- A word that is no option though it looks like one, or an option without its value. -/
  | unknown (text : String)
deriving DecidableEq, Repr

/-- What a word leaves to be done. -/
inductive Word
  /-- The word is complete. -/
  | complete (arguments : List Argument)
  /-- The value of the last option is the next word. -/
  | unfinished (arguments : List Argument) (s : Setting)
deriving DecidableEq, Repr

namespace Word

/-- Put arguments in front of those of a word. -/
def cons (a : Argument) : Word → Word
  | .complete as => .complete (a :: as)
  | .unfinished as s => .unfinished (a :: as) s

/-- The short options that a word holds behind its dash. An equals sign may part an option from its
value. -/
def ofShorts : List Char → Word
  | [] => .complete []
  | c :: cs =>
    match Switch.ofShort? c with
    | none => .complete [.unknown (String.ofList (c :: cs))]
    | some (.flag f) => (ofShorts cs).cons (.flag f)
    | some (.setting s) =>
      match cs with
      | [] => .unfinished [] s
      | '=' :: value => .complete [.setting s (String.ofList value)]
      | value => .complete [.setting s (String.ofList value)]

/-- The long option that a word holds behind its dashes. -/
def ofLong (text : List Char) : Word :=
  let name := String.ofList (text.takeWhile (· != '='))
  let unknown := Word.complete [.unknown (String.ofList text)]
  match Switch.ofLong? name, text.dropWhile (· != '=') with
  | some (.flag f), [] => .complete [.flag f]
  | some (.setting s), [] => .unfinished [] s
  | some (.setting s), _ :: value => .complete [.setting s (String.ofList value)]
  | _, _ => unknown

/-- Read a word. A lone dash is positional. -/
def ofText (text : String) : Word :=
  match text.toList with
  | '-' :: '-' :: t => ofLong t
  | ['-'] => .complete [.positional text]
  | '-' :: t => ofShorts t
  | _ => .complete [.positional text]

end Word

/-- Whether a word can be the value of an option in front of it: it must not look like an
option. -/
def isValue (text : String) : Bool := text == "-" || text.toList.head? != some '-'

/-- The arguments that are made of words. -/
def Argument.ofWords : List String → List Argument
  | [] => []
  | "--" :: texts => texts.map .positional
  | text :: texts =>
    match Word.ofText text with
    | .complete as => as ++ ofWords texts
    | .unfinished as s =>
      match texts with
      | [] => as ++ [.unknown text]
      | value :: texts =>
        if isValue value then as ++ .setting s value :: ofWords texts else as ++ [.unknown text]

end SymbolProbe.CommandLine
