import QueryBatch.Descriptor.Encode
import QueryBatch.Embedding.Service
import QueryBatch.Execution.Cancellation
import QueryBatch.Main
import QueryBatch.Proofs.Agreement
import QueryBatch.Proofs.BatchErrors
import QueryBatch.Proofs.Conjunct
import QueryBatch.Proofs.Entries
import QueryBatch.Proofs.Numbering
import QueryBatch.Proofs.TaskProgress
import QueryBatch.Proofs.ValueShape
import QueryBatch.Proofs.Independence
import QueryBatch.Proofs.CancelledBatch
import QueryBatch.Proofs.WrittenStatements
import QueryBatch.Proofs.VectorNames
import QueryBatch.Proofs.RulesAndDecoders
import QueryBatch.Proofs.Composition
import QueryBatch.Proofs.HistogramParts
import QueryBatch.Proofs.RangeAnswer
import QueryBatch.Proofs.Admission
import QueryBatch.Proofs.ValueClause
import QueryBatch.Proofs.Quiet
import QueryBatch.Proofs.Woven
import QueryBatch.Proofs.LexicalSafety
import QueryBatch.Proofs.SharedParameters
import QueryBatch.Proofs.OrderChoice
import QueryBatch.Proofs.EmbeddingPartition
import QueryBatch.Proofs.TermColumns
import QueryBatch.Proofs.RoundTrip
import QueryBatch.Proofs.WrittenCopy
import QueryBatch.Proofs.Timings
import QueryBatch.Proofs.Accounts
import QueryBatch.Proofs.BucketWidths
