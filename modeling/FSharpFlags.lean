import FSharpFlags.Main
import FSharpFlags.Proofs.Folding
import FSharpFlags.Proofs.LastPiece
import FSharpFlags.Proofs.PlainLetters
import FSharpFlags.Proofs.FoldedText
import FSharpFlags.Proofs.PathText
import FSharpFlags.Proofs.NormalForm
import FSharpFlags.Proofs.FoldedPath
import FSharpFlags.Proofs.PathSpelling
import FSharpFlags.Proofs.FirstOccurrence
import FSharpFlags.Proofs.CoreLookup
import FSharpFlags.Proofs.CoreAccounting
import FSharpFlags.Proofs.ListingOrder
import FSharpFlags.Proofs.ReferenceList
import FSharpFlags.Proofs.FacadeInterference
import FSharpFlags.Proofs.OfferHistory
import FSharpFlags.Proofs.Quotation
import FSharpFlags.Proofs.NameSentence
import FSharpFlags.Proofs.NameLanguage
import FSharpFlags.Proofs.Refusal
import FSharpFlags.Proofs.FlagAssembly
import FSharpFlags.Proofs.RootedPath
import FSharpFlags.Proofs.DocumentReading
import FSharpFlags.Proofs.ProjectOrder
import FSharpFlags.Proofs.ProjectOutput
import FSharpFlags.Proofs.NumeralLimit
import FSharpFlags.Proofs.DocumentFaults
import FSharpFlags.Proofs.CurrentDirectory
import FSharpFlags.Proofs.RootedSearch
import FSharpFlags.Proofs.DirectoryIndependence
import FSharpFlags.Proofs.AttributeText
import FSharpFlags.Proofs.MonikerName
import FSharpFlags.Proofs.ReferenceBlock
import FSharpFlags.Proofs.FrameworkChoice
import FSharpFlags.Proofs.VersionText
import FSharpFlags.Proofs.InstalledChoice
import FSharpFlags.Proofs.BareLanguageCore
import FSharpFlags.Proofs.HintedFile
import FSharpFlags.Proofs.OutputExtension
import FSharpFlags.Proofs.QuotedSpan
import FSharpFlags.Proofs.DependencySearch
import FSharpFlags.Proofs.CacheIdentity
import FSharpFlags.Proofs.RuntimeGeneration
import FSharpFlags.Proofs.ToolOrder
import FSharpFlags.Proofs.Resolution
import FSharpFlags.Proofs.ToolFile
import FSharpFlags.Proofs.WorkspaceShape
import FSharpFlags.Proofs.CompileOrder
import FSharpFlags.Proofs.FacadeDecision
import FSharpFlags.Proofs.FileInspection
import FSharpFlags.Proofs.DirectoryListing
import FSharpFlags.Proofs.InstallationLayout
import FSharpFlags.Proofs.CompactText
import FSharpFlags.Proofs.CommandOutput
