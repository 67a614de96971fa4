import TokenTheme.Grammar.Table
import TokenTheme.Json.Writer
import TokenTheme.Provider.Cache
import TokenTheme.Sample
import TokenTheme.Theme.Service
import TokenTheme.Proofs.Attributes
import TokenTheme.Proofs.Packing
import TokenTheme.Proofs.Fields
import TokenTheme.Proofs.Theme.Decoding
import TokenTheme.Proofs.Theme.Default
import TokenTheme.Proofs.Theme.Encoding
import TokenTheme.Proofs.Theme.Ledger
import TokenTheme.Proofs.Theme.Palette
import TokenTheme.Proofs.Theme.Following
import TokenTheme.Proofs.Theme.Tracing
import TokenTheme.Proofs.Theme.Written
import TokenTheme.Proofs.Scope
import TokenTheme.Proofs.Color.Bytes
import TokenTheme.Proofs.Color.Canonical
import TokenTheme.Proofs.Regex.Priority
import TokenTheme.Proofs.Grammar.Anew
import TokenTheme.Proofs.Grammar.Blocks
import TokenTheme.Proofs.Grammar.Closing
import TokenTheme.Proofs.Grammar.Openings
import TokenTheme.Proofs.Grammar.Partition
import TokenTheme.Proofs.Grammar.Refusals
import TokenTheme.Proofs.Provider.Abandoning
import TokenTheme.Proofs.Provider.Aftermath
import TokenTheme.Proofs.Provider.Editing
import TokenTheme.Proofs.Provider.Entries
import TokenTheme.Proofs.Provider.Failures
import TokenTheme.Proofs.Provider.Feeding
import TokenTheme.Proofs.Provider.Latest
import TokenTheme.Proofs.Provider.Lines
import TokenTheme.Proofs.Provider.OneTheme
import TokenTheme.Proofs.Provider.Retokenizing
import TokenTheme.Proofs.Provider.Runs
import TokenTheme.Proofs.Provider.Sharing
import TokenTheme.Proofs.Provider.SingleFlight
import TokenTheme.Proofs.Provider.Styling
import TokenTheme.Proofs.Grammar.Loop
import TokenTheme.Proofs.Theme.Inheriting
import TokenTheme.Proofs.Provider.Thinning
import TokenTheme.Proofs.Theme.Joining
import TokenTheme.Proofs.Theme.Lenient
import TokenTheme.Proofs.Theme.Spelling
import TokenTheme.Proofs.Theme.Indexing
import TokenTheme.Proofs.Theme.Counters
