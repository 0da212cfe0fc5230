import TransitionNetwork.Main
import TransitionNetwork.Sink.Memory
import TransitionNetwork.Snapshot.Writer
import TransitionNetwork.Color.Checked
import TransitionNetwork.Drawing.Emitting
import TransitionNetwork.Arena.Build
import TransitionNetwork.Arena.Drawing
import TransitionNetwork.Proofs.QuotedText
import TransitionNetwork.Proofs.Scan
import TransitionNetwork.Proofs.HexColor
import TransitionNetwork.Proofs.Statement
import TransitionNetwork.Proofs.ReadingBack
import TransitionNetwork.Proofs.Arrows
import TransitionNetwork.Proofs.ViewContents
import TransitionNetwork.Proofs.DrawnEdges
import TransitionNetwork.Proofs.Predecessors
import TransitionNetwork.Proofs.DeclaredNodes
import TransitionNetwork.Proofs.Paths
import TransitionNetwork.Proofs.DocumentNames
import TransitionNetwork.Proofs.Acceptance
import TransitionNetwork.Proofs.Correspondence
import TransitionNetwork.Proofs.FocusLocality
import TransitionNetwork.Proofs.SnapshotRoundTrip
import TransitionNetwork.Proofs.VisibleArrows
import TransitionNetwork.Proofs.ListedNames
import TransitionNetwork.Proofs.JsonReads
import TransitionNetwork.Proofs.JsonForms
import TransitionNetwork.Proofs.JsonText
import TransitionNetwork.Proofs.JsonNumber
import TransitionNetwork.Proofs.JsonArray
import TransitionNetwork.Proofs.IgnoredValues
import TransitionNetwork.Proofs.JsonRecord
import TransitionNetwork.Proofs.SnapshotForms
import TransitionNetwork.Proofs.Utf8
import TransitionNetwork.Proofs.WholeCharacters
import TransitionNetwork.Proofs.WholeValues
import TransitionNetwork.Proofs.TwoSources
import TransitionNetwork.Proofs.Actions
import TransitionNetwork.Proofs.Places
import TransitionNetwork.Proofs.MakingDirectories
import TransitionNetwork.Proofs.ClearPaths
import TransitionNetwork.Proofs.WritingInTurn
import TransitionNetwork.Proofs.MemoryContents
import TransitionNetwork.Proofs.DirectoryContents
import TransitionNetwork.Proofs.RunEnds
import TransitionNetwork.Proofs.PlainNumbers
import TransitionNetwork.Proofs.PlainDrawing
import TransitionNetwork.Proofs.PlainBuild
import TransitionNetwork.Proofs.LookupsInRange
import TransitionNetwork.Proofs.Reordering
import TransitionNetwork.Proofs.StateOrder
import TransitionNetwork.Proofs.ArgumentItems
import TransitionNetwork.Proofs.TrimmedClusters
import TransitionNetwork.Proofs.FirstFaults
import TransitionNetwork.Proofs.RefusedNames
import TransitionNetwork.Proofs.FlatViews
import TransitionNetwork.Proofs.Neighbours
import TransitionNetwork.Proofs.ReportedCalls
import TransitionNetwork.Proofs.DistinctColors
import TransitionNetwork.Proofs.WantedDocuments
import TransitionNetwork.Proofs.Lexemes
import TransitionNetwork.Proofs.Escaping
import TransitionNetwork.Proofs.OneBuffer
