import SymbolProbe.Main
import SymbolProbe.Proofs.Conservation
import SymbolProbe.Proofs.Merging
import SymbolProbe.Proofs.Presence
import SymbolProbe.Proofs.SourceLines
import SymbolProbe.Proofs.BuiltinSource
import SymbolProbe.Proofs.Interleaving
import SymbolProbe.Proofs.Precedence
import SymbolProbe.Proofs.Profiles
import SymbolProbe.Proofs.AllOrNothing
import SymbolProbe.Proofs.NameFamilies
import SymbolProbe.Proofs.Overrides
import SymbolProbe.Proofs.Parametricity
import SymbolProbe.Proofs.CodeText
import SymbolProbe.Proofs.WellFormedSource
import SymbolProbe.Proofs.Layout
import SymbolProbe.Proofs.RecordReading
import SymbolProbe.Proofs.LayoutReading
import SymbolProbe.Proofs.BuiltinFunctions
import SymbolProbe.Proofs.Concatenation
import SymbolProbe.Proofs.Remerging
import SymbolProbe.Proofs.Readability
import SymbolProbe.Proofs.LineEndings
import SymbolProbe.Proofs.SingletonLength
import SymbolProbe.Proofs.Logging
import SymbolProbe.Proofs.SingleFaults
import SymbolProbe.Proofs.FaultyRecords
import SymbolProbe.Proofs.RepeatedNames
import SymbolProbe.Proofs.FaultyFiles
import SymbolProbe.Proofs.HeaderReduction
import SymbolProbe.Proofs.PointerTypes
import SymbolProbe.Proofs.CommandWords
import SymbolProbe.Proofs.DebugFlag
