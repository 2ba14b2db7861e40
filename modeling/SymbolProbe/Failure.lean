import SymbolProbe.File.Fault
import SymbolProbe.Rule.OfYaml
import SymbolProbe.Rule.RuleSet
import SymbolProbe.Listing

/-!
# Failures

What can go wrong before a program is generated: a file cannot be read, a rule file does not hold
rules, or one of its patterns is none. Generation itself never fails.

A message is made of a subject, which says what failed, and a detail.
-/

namespace SymbolProbe

/-- What is said of a rule file that holds no rules. -/
def Yaml.Fault.message : Yaml.Fault → String
  | .missingField name => "missing field `" ++ name ++ "`"
  | .duplicateField name => "duplicate field `" ++ name ++ "`"
  | .unknownVariant name => "unknown variant `" ++ name ++ "`"
  | .invalidType => "invalid type"
  | .invalidLength => "invalid length"
  | .malformed => "malformed document"

/-- Why a listing or rules cannot be used. -/
inductive Failure
  | listingUnread (path : String) (fault : FileFault)
  | rulesUnread (path : String) (fault : FileFault)
  | rulesMalformed (fault : Yaml.Fault)
  | patternRejected (pattern : String)
  | outputUnwritten (fault : FileFault)
deriving DecidableEq, Repr

namespace Failure

/-- What failed. -/
def subject : Failure → String
  | .listingUnread path _ => "Cannot read symbol listing '" ++ path ++ "': "
  | .rulesUnread path _ => "Cannot read rule file '" ++ path ++ "': "
  | .rulesMalformed _ => "Rule file error: "
  | .patternRejected pattern => "Invalid name pattern '" ++ pattern ++ "': "
  | .outputUnwritten _ => "Output error: "

/-- Why it failed. -/
def detail : Failure → String
  | .listingUnread _ fault => fault.message
  | .rulesUnread _ fault => fault.message
  | .rulesMalformed fault => fault.message
  | .patternRejected _ => "no regular expression"
  | .outputUnwritten fault => fault.message

/-- What is said of a failure. -/
def message (f : Failure) : String := f.subject ++ f.detail

/-- The fault of a file, if that is the cause. -/
def fileFault? : Failure → Option FileFault
  | .listingUnread _ fault => some fault
  | .rulesUnread _ fault => some fault
  | .outputUnwritten fault => some fault
  | _ => none

end Failure

/-! ### Loading -/

/-- The listing at a path. -/
def Listing.load (read : FileReader) (path : String) : Except Failure Listing :=
  match read path with
  | .ok text => .ok { Listing.ofText text with origin := some path }
  | .error fault => .error (.listingUnread path fault)

/-- The rule file at a path. -/
def RuleFile.load (read : FileReader) (path : String) : Except Failure RuleFile :=
  match read path with
  | .ok text => (RuleFile.ofText text).mapError .rulesMalformed
  | .error fault => .error (.rulesUnread path fault)

end SymbolProbe
