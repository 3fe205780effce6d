import ConfigScope.Context.Lemmas
import ConfigScope.Context.Session
import ConfigScope.Diagnostic.Excerpt
import ConfigScope.Document.Equality
import ConfigScope.Resolution.Resolver
import ConfigScope.Schema.Reader
import ConfigScope.Proofs.Run
import ConfigScope.Proofs.Step
import ConfigScope.Proofs.Walk
import ConfigScope.Proofs.Frame
import ConfigScope.Proofs.Lookup
import ConfigScope.Proofs.CurrentReceiver
import ConfigScope.Proofs.ClosedSchema
import ConfigScope.Proofs.Typing
import ConfigScope.Proofs.Progress
import ConfigScope.Proofs.AcceptedAssignments
import ConfigScope.Proofs.Coverage
import ConfigScope.Proofs.DanglingNames
import ConfigScope.Proofs.PropertyValues
import ConfigScope.Proofs.TranslatedWalk
import ConfigScope.Proofs.Relocation
import ConfigScope.Proofs.Unrestricted
import ConfigScope.Proofs.Ledger
import ConfigScope.Proofs.CallIdentity
import ConfigScope.Proofs.Additions
import ConfigScope.Proofs.BlockReceivers
import ConfigScope.Proofs.Growth
import ConfigScope.Proofs.NominalTypes
import ConfigScope.Proofs.ScopeDiscipline
import ConfigScope.Proofs.ScopeHistory
import ConfigScope.Proofs.DocumentNodes
import ConfigScope.Proofs.IssueSites
import ConfigScope.Proofs.LastWrite
import ConfigScope.Proofs.LexicalWalk
import ConfigScope.Proofs.DeclarationOrder
import ConfigScope.Proofs.NameText
import ConfigScope.Proofs.JsonText
import ConfigScope.Proofs.WrittenRecords
import ConfigScope.Proofs.WrittenDeclarations
import ConfigScope.Proofs.SchemaTexts
import ConfigScope.Proofs.MarkedText
import ConfigScope.Proofs.OriginChains
import ConfigScope.Proofs.LiteralText
