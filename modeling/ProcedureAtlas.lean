import ProcedureAtlas.CallTree.Edges
import ProcedureAtlas.CallTree.Printer
import ProcedureAtlas.CallTree.Walk
import ProcedureAtlas.Catalog.Basic
import ProcedureAtlas.Catalog.Failure
import ProcedureAtlas.Catalog.Index
import ProcedureAtlas.Command.Arguments
import ProcedureAtlas.Command.Report
import ProcedureAtlas.Command.Run
import ProcedureAtlas.Folder.Discovery
import ProcedureAtlas.Folder.Disk
import ProcedureAtlas.Folder.Encoding
import ProcedureAtlas.Folder.Failure
import ProcedureAtlas.Folder.FileSystem
import ProcedureAtlas.Folder.Listing
import ProcedureAtlas.Folder.Loading
import ProcedureAtlas.Folder.Matching
import ProcedureAtlas.Folder.Name
import ProcedureAtlas.Folder.Path
import ProcedureAtlas.Folder.Pattern
import ProcedureAtlas.Folder.Tree
import ProcedureAtlas.Main
import ProcedureAtlas.Procedure.Identity
import ProcedureAtlas.Procedure.Key
import ProcedureAtlas.Procedure.Record
import ProcedureAtlas.Procedure.Reference
import ProcedureAtlas.Proofs.Ancestors
import ProcedureAtlas.Proofs.ByteSuffixes
import ProcedureAtlas.Proofs.CallExpression
import ProcedureAtlas.Proofs.CallForms
import ProcedureAtlas.Proofs.CallScan
import ProcedureAtlas.Proofs.CallSites
import ProcedureAtlas.Proofs.CaseBlind
import ProcedureAtlas.Proofs.CaseEquality
import ProcedureAtlas.Proofs.CommentScan
import ProcedureAtlas.Proofs.CommentedNames
import ProcedureAtlas.Proofs.Counterparts
import ProcedureAtlas.Proofs.Coverage
import ProcedureAtlas.Proofs.Cycles
import ProcedureAtlas.Proofs.Decoding
import ProcedureAtlas.Proofs.DiscoveredFiles
import ProcedureAtlas.Proofs.DisplayCalls
import ProcedureAtlas.Proofs.Exposure
import ProcedureAtlas.Proofs.Expression
import ProcedureAtlas.Proofs.FollowedPaths
import ProcedureAtlas.Proofs.HeaderExpression
import ProcedureAtlas.Proofs.HeaderForms
import ProcedureAtlas.Proofs.HeaderScan
import ProcedureAtlas.Proofs.IdentityLookup
import ProcedureAtlas.Proofs.Labels
import ProcedureAtlas.Proofs.Lexemes
import ProcedureAtlas.Proofs.LinearSearch
import ProcedureAtlas.Proofs.Lookup
import ProcedureAtlas.Proofs.Mapping
import ProcedureAtlas.Proofs.Names
import ProcedureAtlas.Proofs.NormalForm
import ProcedureAtlas.Proofs.Outline
import ProcedureAtlas.Proofs.Playback
import ProcedureAtlas.Proofs.Policies
import ProcedureAtlas.Proofs.PrinterReuse
import ProcedureAtlas.Proofs.Reach
import ProcedureAtlas.Proofs.ReadBack
import ProcedureAtlas.Proofs.Readers
import ProcedureAtlas.Proofs.ResolvedCalls
import ProcedureAtlas.Proofs.ShownNames
import ProcedureAtlas.Proofs.SmallLetters
import ProcedureAtlas.Proofs.SmallScripts
import ProcedureAtlas.Proofs.SourceOrder
import ProcedureAtlas.Proofs.SpanSearch
import ProcedureAtlas.Proofs.TreeReach
import ProcedureAtlas.Proofs.Twins
import ProcedureAtlas.Proofs.UndecodableBytes
import ProcedureAtlas.Proofs.Unrelated
import ProcedureAtlas.Proofs.Visits
import ProcedureAtlas.Proofs.WalkedPaths
import ProcedureAtlas.Proofs.WholeTrees
import ProcedureAtlas.Proofs.WrittenFiles
import ProcedureAtlas.Proofs.WrittenForms
import ProcedureAtlas.Proofs.WrittenPieces
import ProcedureAtlas.Script.Call
import ProcedureAtlas.Script.Comment
import ProcedureAtlas.Script.Header
import ProcedureAtlas.Script.Identifier
import ProcedureAtlas.Script.Position
import ProcedureAtlas.Script.Target
import ProcedureAtlas.Text.Basic
import ProcedureAtlas.Text.Blank
import ProcedureAtlas.Text.CaseTables
import ProcedureAtlas.Text.CodeRange
import ProcedureAtlas.Text.LetterCase
import ProcedureAtlas.Text.Order
import ProcedureAtlas.Text.Word
import ProcedureAtlas.Text.WordRanges
