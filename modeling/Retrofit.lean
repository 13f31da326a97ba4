import Retrofit.Body.Finish
import Retrofit.Body.Text
import Retrofit.Cursor.Search
import Retrofit.Cursor.Write
import Retrofit.Digest.Sha1
import Retrofit.Digest.Md5
import Retrofit.Assembly.Reference
import Retrofit.Module.Attribute
import Retrofit.Module.StateMachine
import Retrofit.Pass.Branches
import Retrofit.Pass.Debugging
import Retrofit.Pass.Enumerator
import Retrofit.Pass.References
import Retrofit.Rule.BuiltIn
import Retrofit.Run.Patcher
import Retrofit.Proofs.Body.Views
import Retrofit.Proofs.Body.Change
import Retrofit.Proofs.Body.Operation
import Retrofit.Proofs.Body.Range
import Retrofit.Proofs.Body.Window
import Retrofit.Proofs.Cursor.Operation
import Retrofit.Proofs.Reachable
import Retrofit.Proofs.Body.Blocks
import Retrofit.Proofs.Body.Frame
import Retrofit.Proofs.ErasureOrder
import Retrofit.Proofs.LabelIntegrity
import Retrofit.Proofs.RegionBlocks
import Retrofit.Proofs.Body.Reform
import Retrofit.Proofs.Listing.Basic
import Retrofit.Proofs.Listing.Refinement
import Retrofit.Proofs.Body.Encodable
import Retrofit.Proofs.Edit
import Retrofit.Proofs.Module.Bodies
import Retrofit.Proofs.Pass.Encodable
import Retrofit.Proofs.Rule.Frame
import Retrofit.Proofs.Rule.Registry
import Retrofit.Proofs.Module.Members
import Retrofit.Proofs.Module.Nesting
import Retrofit.Proofs.Module.Outline
import Retrofit.Proofs.Run.Step
import Retrofit.Proofs.Run.Traversal
import Retrofit.Proofs.Run.Services
import Retrofit.Proofs.Rule.Declaration
import Retrofit.Proofs.Run.Members
import Retrofit.Proofs.Run.Order
import Retrofit.Proofs.Pass.BuiltIn
import Retrofit.Proofs.Body.Width
import Retrofit.Proofs.Cursor.Width
import Retrofit.Proofs.Rule.Width
import Retrofit.Proofs.Module.Width
import Retrofit.Proofs.Pass.Width
import Retrofit.Proofs.Run.Width
import Retrofit.Proofs.Body.InPlace
import Retrofit.Proofs.Body.DirectCalls
import Retrofit.Proofs.Body.Settling
import Retrofit.Proofs.Pass.Series
import Retrofit.Proofs.Body.Making
import Retrofit.Proofs.Module.StateMachine
import Retrofit.Proofs.Module.Tree
import Retrofit.Proofs.Pass.Orderly
import Retrofit.Proofs.Pass.Settling
import Retrofit.Proofs.Pass.Dependencies
import Retrofit.Proofs.Body.Reworking
import Retrofit.Proofs.Rule.Upkeep
import Retrofit.Proofs.Rule.Making
import Retrofit.Proofs.Run.Upkeep
import Retrofit.Proofs.Run.Encodable
import Retrofit.Proofs.Run.Rerun
import Retrofit.Proofs.Run.Routing
import Retrofit.Proofs.Settling
import Retrofit.Proofs.Modification
import Retrofit.Proofs.Representation
import Retrofit.Proofs.Body.Retention
import Retrofit.Proofs.Marks
import Retrofit.Proofs.Atomicity
import Retrofit.Proofs.Rule.Ledger
import Retrofit.Proofs.Rule.Claims
import Retrofit.Proofs.Run.Independence
import Retrofit.Proofs.Module.Wishes
import Retrofit.Proofs.Module.Meeting
import Retrofit.Proofs.Run.Declarations
import Retrofit.Proofs.Run.Agreement
import Retrofit.Proofs.Module.Denotation
import Retrofit.Proofs.Module.Belonging
import Retrofit.Proofs.Module.Qualified
import Retrofit.Proofs.Run.Fulfilment
import Retrofit.Proofs.Run.Naming
import Retrofit.Proofs.Module.Flags
import Retrofit.Proofs.Run.Flags
import Retrofit.Proofs.Run.Shape
import Retrofit.Proofs.Body.Convergence
import Retrofit.Proofs.Body.Execution
import Retrofit.Proofs.Rule.TestOutcome
import Retrofit.Proofs.Substitution
import Retrofit.Proofs.Cursor.Between
import Retrofit.Proofs.Cursor.Search
import Retrofit.Proofs.RangeErasure
import Retrofit.Proofs.Assembly.Signer
import Retrofit.Proofs.Assembly.Version
import Retrofit.Proofs.Rule.DirectReads
import Retrofit.Proofs.Body.Control
import Retrofit.Proofs.Cursor.Emission
import Retrofit.Proofs.Rule.GuardedCalls
import Retrofit.Proofs.Rule.Thresholds
