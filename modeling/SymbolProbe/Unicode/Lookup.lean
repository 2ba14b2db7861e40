import SymbolProbe.Unicode.Age
import SymbolProbe.Unicode.Segmentation

/-!
# Sets by name

Patterns name sets of characters by a property, a general category or a script, or by a property
and one of its values. Names are compared loosely: case, blanks, underscores, hyphens and a leading
`is` do not count.
-/

namespace SymbolProbe.Unicode

/-! ### Loose names -/

/-- Drop a leading `is`, in any case. -/
def dropIs : List Char → Option (List Char)
  | a :: b :: t => if a.toLower == 'i' && b.toLower == 's' then some t else none
  | _ => none

/-- The letters and signs of a name that count. -/
def significant (t : List Char) : List Char :=
  (t.filter fun c => c.toNat < 0x80 && c != ' ' && c != '_' && c != '-').map Char.toLower

/-- The form of a name in which loosely equal names are equal. The name `isc` keeps its start,
since it would otherwise be read as the category `c`. -/
def looseName (name : List Char) : String :=
  match dropIs name with
  | none => String.ofList (significant name)
  | some rest => if significant rest = ['c'] then "isc" else String.ofList (significant rest)

/-! ### General categories -/

/-- The letters. -/
def letterCategories : List Category :=
  [.uppercaseLetter, .lowercaseLetter, .titlecaseLetter, .modifierLetter, .otherLetter]

/-- The categories that a loose name stands for. -/
def categoriesOfName? : String → Option (List Category)
  | "other" | "c" => some [.control, .format, .privateUse, .unassigned]
  | "control" | "cc" | "cntrl" => some [.control]
  | "format" | "cf" => some [.format]
  | "unassigned" | "cn" => some [.unassigned]
  | "privateuse" | "co" => some [.privateUse]
  | "letter" | "l" => some letterCategories
  | "casedletter" | "lc" => some [.uppercaseLetter, .lowercaseLetter, .titlecaseLetter]
  | "uppercaseletter" | "lu" => some [.uppercaseLetter]
  | "lowercaseletter" | "ll" => some [.lowercaseLetter]
  | "titlecaseletter" | "lt" => some [.titlecaseLetter]
  | "modifierletter" | "lm" => some [.modifierLetter]
  | "otherletter" | "lo" => some [.otherLetter]
  | "mark" | "m" | "combiningmark" => some [.nonspacingMark, .spacingMark, .enclosingMark]
  | "nonspacingmark" | "mn" => some [.nonspacingMark]
  | "spacingmark" | "mc" => some [.spacingMark]
  | "enclosingmark" | "me" => some [.enclosingMark]
  | "number" | "n" => some [.decimalNumber, .letterNumber, .otherNumber]
  | "decimalnumber" | "nd" | "digit" => some [.decimalNumber]
  | "letternumber" | "nl" => some [.letterNumber]
  | "othernumber" | "no" => some [.otherNumber]
  | "punctuation" | "p" | "punct" =>
    some [.connectorPunctuation, .dashPunctuation, .openPunctuation, .closePunctuation,
      .initialPunctuation, .finalPunctuation, .otherPunctuation]
  | "connectorpunctuation" | "pc" => some [.connectorPunctuation]
  | "dashpunctuation" | "pd" => some [.dashPunctuation]
  | "openpunctuation" | "ps" => some [.openPunctuation]
  | "closepunctuation" | "pe" => some [.closePunctuation]
  | "initialpunctuation" | "pi" => some [.initialPunctuation]
  | "finalpunctuation" | "pf" => some [.finalPunctuation]
  | "otherpunctuation" | "po" => some [.otherPunctuation]
  | "symbol" | "s" => some [.mathSymbol, .currencySymbol, .modifierSymbol, .otherSymbol]
  | "mathsymbol" | "sm" => some [.mathSymbol]
  | "currencysymbol" | "sc" => some [.currencySymbol]
  | "modifiersymbol" | "sk" => some [.modifierSymbol]
  | "othersymbol" | "so" => some [.otherSymbol]
  | "separator" | "z" => some [.spaceSeparator, .lineSeparator, .paragraphSeparator]
  | "spaceseparator" | "zs" => some [.spaceSeparator]
  | "lineseparator" | "zl" => some [.lineSeparator]
  | "paragraphseparator" | "zp" => some [.paragraphSeparator]
  | _ => none

/-- The characters of a general category, or of one of the three sets named beside them. -/
def setOfCategory? (name : String) : Option CodeSet :=
  match name with
  | "any" => some CodeSet.scalars
  | "assigned" => some (Formula.outside (.categories [.unassigned])).codes
  | "ascii" => some CodeSet.ascii
  | name => (categoriesOfName? name).map fun cs => (Formula.categories cs).codes

/-! ### Names and values -/

/-- The set of a loose name. A property comes first, then a category, then a script; but `cf`, `sc`
and `lc` are categories. -/
def setOfLooseName? (name : String) : Option CodeSet :=
  let property :=
    if name = "cf" || name = "sc" || name = "lc" then none else Property.ofName? name
  (property.map Formula.codes).or <|
    (setOfCategory? name).or <| (Script.ofName? name).map fun s => CodeSet.ofText s.rangesText

/-- The set of a name. -/
def setOfName? (name : List Char) : Option CodeSet := setOfLooseName? (looseName name)

/-- The set of the characters for which a property has a value. -/
def setOfValue? (property value : List Char) : Option CodeSet :=
  let value := looseName value
  match looseName property with
  | "generalcategory" | "gc" => setOfCategory? value
  | "script" | "sc" => (Script.ofName? value).map fun s => CodeSet.ofText s.rangesText
  | "scriptextensions" | "scx" =>
    (Script.ofName? value).map fun s => CodeSet.ofText (s.extendedText.getD s.rangesText)
  | "age" => ofAge? value
  | "graphemeclusterbreak" | "gcb" => (Segmentation.graphemeClass? value).map Formula.codes
  | "wordbreak" | "wb" => (Segmentation.wordClass? value).map Formula.codes
  | "sentencebreak" | "sb" => (Segmentation.sentenceClass? value).map Formula.codes
  | _ => none

end SymbolProbe.Unicode
