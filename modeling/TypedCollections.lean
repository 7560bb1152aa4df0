import TypedCollections.Command.Directory
import TypedCollections.Main
import TypedCollections.Store.Rendering
import TypedCollections.Store.Writing
import TypedCollections.Value.Outline
import TypedCollections.Description.Printer
import TypedCollections.Proofs.Definition.Meaning
import TypedCollections.Proofs.Store.Answers
import TypedCollections.Proofs.Store.Batches
import TypedCollections.Proofs.Store.Ledger
import TypedCollections.Proofs.Store.Sessions
import TypedCollections.Proofs.Store.Retrieval
import TypedCollections.Proofs.Store.SavingBack
import TypedCollections.Proofs.Store.Importing
import TypedCollections.Proofs.Definition.Faithful
import TypedCollections.Proofs.Definition.Stamps
import TypedCollections.Proofs.Store.Recall
import TypedCollections.Proofs.Store.OneByOne
import TypedCollections.Proofs.Store.Registry
import TypedCollections.Proofs.Store.Reopening
import TypedCollections.Proofs.Store.SchemaChanges
import TypedCollections.Proofs.Validation.Results
import TypedCollections.Proofs.Validation.Lookups
import TypedCollections.Proofs.Description.Reread
import TypedCollections.Proofs.Store.Timestamps
import TypedCollections.Proofs.Store.Calls
import TypedCollections.Proofs.Store.Deletions
import TypedCollections.Proofs.Store.RenderingRules
import TypedCollections.Proofs.Store.LoadedReferences
import TypedCollections.Proofs.Definition.Faults
import TypedCollections.Proofs.Definition.Counterparts
import TypedCollections.Proofs.Value.Lossless
import TypedCollections.Proofs.Document.FixedPoint
import TypedCollections.Proofs.Definition.OptionSources
import TypedCollections.Proofs.Validation.Irrelevance
import TypedCollections.Proofs.Definition.Documentation
import TypedCollections.Proofs.Store.ExpansionOrder
import TypedCollections.Proofs.Definition.Wrapping
import TypedCollections.Proofs.Command.Registration
import TypedCollections.Proofs.ObjectId.Generator
import TypedCollections.Proofs.Store.Statistics
import TypedCollections.Proofs.Store.RawValues
