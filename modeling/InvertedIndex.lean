import InvertedIndex.ByteMap
import InvertedIndex.Bytes
import InvertedIndex.Bytes.Sorted
import InvertedIndex.Checksum
import InvertedIndex.Dictionary
import InvertedIndex.Dictionary.Exact
import InvertedIndex.Dictionary.Trigram
import InvertedIndex.Document
import InvertedIndex.Document.Record
import InvertedIndex.Error
import InvertedIndex.Pattern
import InvertedIndex.Pattern.Automaton
import InvertedIndex.Pattern.Automaton.Character
import InvertedIndex.Pattern.Automaton.Draft
import InvertedIndex.Pattern.Automaton.Subsets
import InvertedIndex.Pattern.Automaton.Words
import InvertedIndex.Pattern.Expr
import InvertedIndex.Pattern.Expr.Bracket
import InvertedIndex.Pattern.Expr.Cursor
import InvertedIndex.Pattern.Expr.Escape
import InvertedIndex.Pattern.Expr.Parser
import InvertedIndex.Pattern.Look
import InvertedIndex.Pattern.Subject
import InvertedIndex.Pattern.Trail
import InvertedIndex.Pattern.Tree
import InvertedIndex.Pattern.Tree.OfExpr
import InvertedIndex.Pattern.Tree.Reach
import InvertedIndex.Postings
import InvertedIndex.Postings.Block
import InvertedIndex.Postings.Block.Format
import InvertedIndex.Postings.Boundaries
import InvertedIndex.Postings.Changes
import InvertedIndex.Postings.Format
import InvertedIndex.Postings.Lows
import InvertedIndex.Postings.Ordered
import InvertedIndex.Postings.Search
import InvertedIndex.Postings.Walk
import InvertedIndex.Proofs.ByteMap
import InvertedIndex.Proofs.Bytes
import InvertedIndex.Proofs.Checksum
import InvertedIndex.Proofs.Dictionary
import InvertedIndex.Proofs.Dictionary.Candidates
import InvertedIndex.Proofs.Dictionary.Exact
import InvertedIndex.Proofs.Dictionary.Strategies
import InvertedIndex.Proofs.Dictionary.Trigram
import InvertedIndex.Proofs.Document
import InvertedIndex.Proofs.Document.Order
import InvertedIndex.Proofs.Document.Record
import InvertedIndex.Proofs.Pattern.Anchor
import InvertedIndex.Proofs.Pattern.Anchor.Bracket
import InvertedIndex.Proofs.Pattern.Anchor.Cursor
import InvertedIndex.Proofs.Pattern.Anchor.Reader
import InvertedIndex.Proofs.Pattern.Consumption
import InvertedIndex.Proofs.Pattern.Coverage
import InvertedIndex.Proofs.Pattern.Coverage.Repetition
import InvertedIndex.Proofs.Pattern.Matching
import InvertedIndex.Proofs.Pattern.Quote
import InvertedIndex.Proofs.Pattern.Spans
import InvertedIndex.Proofs.Pattern.Whole
import InvertedIndex.Proofs.Postings.Canonical
import InvertedIndex.Proofs.Postings.Format
import InvertedIndex.Proofs.Postings.Members
import InvertedIndex.Proofs.Results
import InvertedIndex.Proofs.Segment.Batches
import InvertedIndex.Proofs.Segment.Bounds
import InvertedIndex.Proofs.Segment.Build
import InvertedIndex.Proofs.Segment.Compaction
import InvertedIndex.Proofs.Segment.Contents
import InvertedIndex.Proofs.Segment.Damage
import InvertedIndex.Proofs.Segment.FieldNames
import InvertedIndex.Proofs.Segment.Freezing
import InvertedIndex.Proofs.Segment.Key
import InvertedIndex.Proofs.Segment.Merge
import InvertedIndex.Proofs.Segment.Merged
import InvertedIndex.Proofs.Segment.Metadata
import InvertedIndex.Proofs.Segment.Mutable
import InvertedIndex.Proofs.Segment.Reading
import InvertedIndex.Proofs.Segment.Refusal
import InvertedIndex.Proofs.Segment.Regions
import InvertedIndex.Proofs.Segment.Search
import InvertedIndex.Proofs.Segment.Session
import InvertedIndex.Proofs.Segment.Validation
import InvertedIndex.Proofs.Segment.Writing
import InvertedIndex.Proofs.Store
import InvertedIndex.Proofs.Trigram.Analysis
import InvertedIndex.Proofs.Trigram.Normal
import InvertedIndex.Proofs.Trigram.Pattern
import InvertedIndex.Proofs.Trigram.Query
import InvertedIndex.Proofs.Utf8
import InvertedIndex.Proofs.Varint
import InvertedIndex.Ranges
import InvertedIndex.Segment.Build
import InvertedIndex.Segment.Data
import InvertedIndex.Segment.DocsRegion
import InvertedIndex.Segment.Immutable
import InvertedIndex.Segment.Key
import InvertedIndex.Segment.KeyAutomaton
import InvertedIndex.Segment.KeyFormat
import InvertedIndex.Segment.KeyFormat.Listed
import InvertedIndex.Segment.Merged
import InvertedIndex.Segment.Metadata
import InvertedIndex.Segment.Mutable
import InvertedIndex.Segment.Options
import InvertedIndex.Segment.PostingsRegion
import InvertedIndex.Segment.Session
import InvertedIndex.Store
import InvertedIndex.Text.Quoted
import InvertedIndex.Trigram
import InvertedIndex.Trigram.Analysis
import InvertedIndex.Trigram.Query
import InvertedIndex.Unicode.Age
import InvertedIndex.Unicode.Binary
import InvertedIndex.Unicode.Break
import InvertedIndex.Unicode.Category
import InvertedIndex.Unicode.Folding
import InvertedIndex.Unicode.Partition
import InvertedIndex.Unicode.Printing
import InvertedIndex.Unicode.Query
import InvertedIndex.Unicode.Script
import InvertedIndex.Utf8
import InvertedIndex.Utf8.Sequences
import InvertedIndex.Varint
import InvertedIndex.Version
import InvertedIndex.Wire
import InvertedIndex.Proofs.Postings.Counts
import InvertedIndex.Proofs.Postings.Walk
import InvertedIndex.Proofs.Postings.Sets
import InvertedIndex.Proofs.Postings.Histories
import InvertedIndex.Proofs.Postings.Truncations
import InvertedIndex.Proofs.Postings.Portable
import InvertedIndex.Proofs.Segment.Entries
import InvertedIndex.Proofs.Segment.Accounting
import InvertedIndex.Proofs.Trigram.Literal
import InvertedIndex.Proofs.Segment.KeyRuns
import InvertedIndex.Proofs.Segment.Records
import InvertedIndex.Proofs.Segment.DocsRegion
import InvertedIndex.Proofs.Segment.History
import InvertedIndex.Proofs.Segment.Reinsertion
import InvertedIndex.Proofs.Segment.Singles
