import SymbolProbe.CommandLine.Invocation
import SymbolProbe.Generation
import SymbolProbe.Text.Style

/-!
# Summaries

A report as it is shown to the user: as text, which leaves out what did not happen, or as JSON with
every number.
-/

namespace SymbolProbe.Report

/-! ### Text -/

/-- A number set to the right of a column of five. -/
def column (n : Nat) : String := String.ofList ((toString n).toList.leftpad 5 ' ')

/-- The report as text, with or without styles. -/
def summary (r : Report) (isStyled : Bool) : List String :=
  let note := Text.Style.cyan.apply isStyled "note:"
  let warning := Text.Style.boldYellow.apply isStyled "warning:"
  [Text.Style.boldGreen.apply isStyled "OK" ++ " " ++ toString r.recognized ++
      " symbol(s) from " ++ toString r.lines ++ " line(s)",
    "  classes:    " ++ column r.classes,
    "  templates:  " ++ column r.templates,
    "  functions:  " ++ column r.functions,
    "  singletons: " ++ column r.singletons,
    "  table rows: " ++ column r.tableRows,
    "  headers:    " ++ column r.headersIncluded ++ "  excluded: " ++ toString r.headersExcluded] ++
  (if r.debugFiltered = 0 then []
    else ["  " ++ note ++ " " ++ toString r.debugFiltered ++ " debug function(s) filtered"]) ++
  (if r.privateSkipped = 0 then []
    else ["  " ++ note ++ " " ++ toString r.privateSkipped ++
      " private namespace line(s) ignored"]) ++
  (if r.skippedLines = 0 then []
    else ["  " ++ warning ++ " " ++ toString r.skippedLines ++ " unrecognized line(s) skipped"]) ++
  r.duplicateObjects.map fun name => "  " ++ warning ++ " duplicate test function for " ++ name

/-! ### JSON -/

/-- The lines of a JSON list of names, indented below a member of an object. -/
def jsonNames : List String → String
  | [] => "[]"
  | names => "[\n" ++ ",\n".intercalate (names.map fun n => "    \"" ++ n ++ "\"") ++ "\n  ]"

/-- The members of the report as a JSON object. The names need no escapes, since they are
identifiers. -/
def jsonMembers (r : Report) : List (String × String) :=
  [("lines", toString r.lines), ("blank_lines", toString r.blankLines),
    ("skipped_lines", toString r.skippedLines), ("classes", toString r.classes),
    ("templates", toString r.templates), ("functions", toString r.functions),
    ("singletons", toString r.singletons), ("table_rows", toString r.tableRows),
    ("debug_filtered", toString r.debugFiltered), ("private_skipped", toString r.privateSkipped),
    ("duplicate_objects", jsonNames r.duplicateObjects),
    ("headers_included", toString r.headersIncluded),
    ("headers_excluded", toString r.headersExcluded)]

/-- The report as a JSON object, one member a line. -/
def json (r : Report) : List String :=
  ["\x7b\n" ++ ",\n".intercalate (r.jsonMembers.map fun m => "  \"" ++ m.1 ++ "\": " ++ m.2) ++
    "\n\x7d"]

/-- The lines of a report in a format. Only text has styles. -/
def shown (r : Report) (isStyled : Bool) : CommandLine.ReportFormat → List String
  | .text => r.summary isStyled
  | .json => r.json

end SymbolProbe.Report
