import Collate.CommandLine.Run
import Collate.Comparison.Catalogue
import Collate.Main
import Collate.Value.Enumeration
import Collate.Proofs.Computation
import Collate.Proofs.Comparison.Ranking
import Collate.Proofs.Comparison.Verdict
import Collate.Proofs.Comparison.Lexicographic
import Collate.Proofs.Comparison.Contradiction
import Collate.Proofs.Hub.Interruption
import Collate.Proofs.Lookup.Returns
import Collate.Proofs.Ordering.Among
import Collate.Proofs.Ordering.Merge
import Collate.Proofs.Ordering.Permutation
import Collate.Proofs.Ordering.Run
import Collate.Proofs.Ordering.Sort
import Collate.Proofs.Ordering.Stable
import Collate.Proofs.RuleText.Agreement
import Collate.Proofs.RuleText.Key
import Collate.Proofs.RuleText.Parts
import Collate.Proofs.RuleText.Repairing
import Collate.Proofs.RuleText.RoundTrip
import Collate.Proofs.RuleText.Spelling
import Collate.Proofs.RuleText.Splitting
import Collate.Proofs.RuleText.Strict
import Collate.Proofs.Sorter.Sorting
import Collate.Proofs.Ordering.Sinking
import Collate.Proofs.Comparison.Outcome
import Collate.Proofs.Sorter.MissingLast
import Collate.Proofs.Markup.Elements
import Collate.Proofs.Markup.Tags
import Collate.Proofs.Placement.Arranging
import Collate.Proofs.Sorter.Outcome
import Collate.Proofs.Placement.Container
import Collate.Proofs.Placement.Values
import Collate.Proofs.Placement.Again
import Collate.Proofs.Placement.Nesting
import Collate.Proofs.Value.Answerable
import Collate.Proofs.Value.Normal
import Collate.Proofs.Lookup.Spared
import Collate.Proofs.Hub.Calm
import Collate.Proofs.Comparison.Composing
import Collate.Proofs.Comparison.Answering
import Collate.Proofs.Sorter.Completing
import Collate.Proofs.Sorter.Plain
import Collate.Proofs.Sorter.Moved
import Collate.Proofs.Sorter.Successive
import Collate.Proofs.Sorter.Reversing
import Collate.Proofs.Comparison.Uniform
import Collate.Proofs.Sorter.Configuration
import Collate.Proofs.Sorter.History
import Collate.Proofs.Sorter.Recovery
import Collate.Proofs.Sorter.Snapshot
import Collate.Proofs.Hub.Counting
import Collate.Proofs.Hub.OneShot
import Collate.Proofs.Hub.Dispatch
import Collate.Proofs.Lookup.Warnings
import Collate.Proofs.Sorter.Warnings
import Collate.Proofs.Comparison.Direction
import Collate.Proofs.Comparison.Laziness
import Collate.Proofs.Lookup.Soft
import Collate.Proofs.Ordering.Renaming
import Collate.Proofs.Sorter.Shuffling
import Collate.Proofs.Comparison.Reflexive
import Collate.Proofs.RuleText.Joining
import Collate.Proofs.Text.Numeral
import Collate.Proofs.Value.Member
import Collate.Proofs.Markup.VisibleText
import Collate.Proofs.Lookup.Dataset
import Collate.Proofs.Rule.Mapping
import Collate.Proofs.Lookup.Selector
import Collate.Proofs.RuleText.Separators
