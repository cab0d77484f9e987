import Disasm.Main
import Disasm.Proofs.Analysis
import Disasm.Proofs.CleanedWords
import Disasm.Proofs.FeatureSearch
import Disasm.Proofs.LineEnds
import Disasm.Proofs.Decoding
import Disasm.Proofs.AnalyzedBytes
import Disasm.Proofs.JsonReading
import Disasm.Proofs.JsonReports
import Disasm.Proofs.Separators
import Disasm.Proofs.SmallLetters
import Disasm.Proofs.CommandLines
import Disasm.Proofs.PlainReports
import Disasm.Proofs.Diagnostics
import Disasm.Proofs.FileOperand
import Disasm.Proofs.MemberSearch
import Disasm.Proofs.AnalysisOptions
import Disasm.Proofs.Contract
import Disasm.Proofs.SymbolLists
import Disasm.Proofs.NormalPaths
import Disasm.Proofs.LongerListings
import Disasm.Proofs.CombinedCatalogues
import Disasm.Proofs.LetterCase
import Disasm.Proofs.CleaningLog
import Disasm.Proofs.Warnings
import Disasm.Proofs.PrintedLog
import Disasm.Proofs.StyledTexts
import Disasm.Proofs.Machines
import Disasm.Proofs.ExpressionGroups
import Disasm.Proofs.Sorting
