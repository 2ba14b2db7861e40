import SymbolProbe.Fragment
import SymbolProbe.Header

/-!
# The generated program

The program declares one function per object check, then the table of names and pointers, and ends
with a main function that calls every check and prints every row. Later parts refer to names
declared by earlier ones, so the order is fixed. The text is a list of lines, each ended by a line
feed.
-/

namespace SymbolProbe

/-- The parts of a program, each in listing order. -/
structure Program where
  includes : List String
  objects : List ObjectCheck
  functions : List TableRow
  singletons : List TableRow
deriving DecidableEq, Repr

/-- A line indented by tabs. -/
def indented (depth : Nat) (line : String) : String :=
  String.ofList (List.replicate depth '\t') ++ line

/-! ### Object checks -/

namespace ObjectCheck

/-- The statement that prints a check's name and the address of its object. -/
def printStatement (o : ObjectCheck) : String :=
  "printf(\"%16s: %p\\n\", \"" ++ o.name ++ "\", (void*)&" ++ testObject ++ ");"

/-- The definition of a check's function. -/
def definition (o : ObjectCheck) : List String :=
  ("static void " ++ o.functionName ++ "(void) \x7b") ::
    (o.prelude.map (indented 1) ++ [indented 1 o.declaration, indented 1 o.printStatement, "\x7d"])

/-- The call of a check's function. -/
def call (o : ObjectCheck) : String := o.functionName ++ "();"

end ObjectCheck

/-! ### Table rows -/

/-- The name of the table. -/
def tableName : String := "functions"

/-- A row as an initializer of the table. -/
def TableRow.initializer (r : TableRow) : String :=
  "\x7b (void*)\"" ++ r.name ++ "\", " ++ r.pointer ++ " \x7d,"

/-! ### The program's text -/

namespace Program

/-- The rows of the table, those of functions first. -/
def table (p : Program) : List TableRow := p.functions ++ p.singletons

/-- The include directives; the standard output header comes first. -/
def includeLines (p : Program) : List String :=
  "#include <cstdio>" :: p.includes.map IncludeList.directive

/-- The definitions of the checks, each behind an empty line. -/
def objectLines (p : Program) : List String :=
  p.objects.flatMap fun o => "" :: o.definition

/-- The definition of the table, which is left out when it has no rows. -/
def tableLines (p : Program) : List String :=
  if p.table.isEmpty then []
  else
    ["", "static void* " ++ tableName ++ "[][2] = \x7b"] ++
      p.table.map (fun r => indented 1 r.initializer) ++ ["\x7d;"]

/-- The loop that prints the table, which is left out when the table has no rows. -/
def printLines (p : Program) : List String :=
  if p.table.isEmpty then []
  else
    ["",
     indented 1 ("for (unsigned i = 0; i < sizeof(" ++ tableName ++ ")/sizeof(void*)/2; i++)"),
     indented 2 ("printf(\"%16s: %p\\n\", (const char*)" ++ tableName ++ "[i][0], " ++ tableName ++
       "[i][1]);")]

/-- The main function. -/
def mainLines (p : Program) : List String :=
  ["", "int main(void) \x7b"] ++ p.objects.map (fun o => indented 1 o.call) ++ p.printLines ++
    [indented 1 "return 0;", "\x7d"]

/-- The lines of the program's text. -/
def lines (p : Program) : List String :=
  p.includeLines ++ p.objectLines ++ p.tableLines ++ p.mainLines

/-- The program's text. -/
def source (p : Program) : String := String.join (p.lines.map (· ++ "\n"))

end Program

end SymbolProbe
