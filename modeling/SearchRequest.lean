import SearchRequest.Aggregation.Path
import SearchRequest.Aggregation.Setup
import SearchRequest.CommandLine.Assembly
import SearchRequest.Main
import SearchRequest.Proofs.ClauseTree
import SearchRequest.Proofs.AggregationTree
import SearchRequest.Proofs.AggregationFragments
import SearchRequest.Proofs.Fault
import SearchRequest.Proofs.FaultPreservation
import SearchRequest.Proofs.Meaning
import SearchRequest.Proofs.OperationLog
import SearchRequest.Proofs.Construction
import SearchRequest.Proofs.Fragments
import SearchRequest.Proofs.LeafFragments
import SearchRequest.Proofs.WireFormat
import SearchRequest.Proofs.BodyMerge
import SearchRequest.Proofs.RoleInvariant
import SearchRequest.Proofs.SlotStates
import SearchRequest.Proofs.LeafLedger
import SearchRequest.Proofs.AggregationLookup
import SearchRequest.Proofs.Grafting
import SearchRequest.Proofs.AggregationBodies
import SearchRequest.Proofs.AggregationWireFormat
import SearchRequest.Proofs.ClauseGrammar
import SearchRequest.Proofs.AggregationGrammar
import SearchRequest.Proofs.BodyDocument
import SearchRequest.Proofs.FlagClauses
import SearchRequest.Proofs.ResultWindow
import SearchRequest.Proofs.AggregationMerge
import SearchRequest.Proofs.BoundValues
import SearchRequest.Proofs.RoleMerge
import SearchRequest.Proofs.BodyParts
import SearchRequest.Proofs.Walks
import SearchRequest.Proofs.RepeatedNegation
import SearchRequest.Proofs.RoleBlocks
import SearchRequest.Proofs.SortWrites
import SearchRequest.Proofs.RangeConstruction
import SearchRequest.Proofs.ScalarText
import SearchRequest.Proofs.RangeArgument
import SearchRequest.Proofs.SourceValues
import SearchRequest.Proofs.WrittenForms
