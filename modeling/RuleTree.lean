import RuleTree.Arguments
import RuleTree.Command
import RuleTree.Comparison
import RuleTree.Double
import RuleTree.Double.Extended
import RuleTree.Double.Text
import RuleTree.Engine
import RuleTree.Entries
import RuleTree.Evaluation
import RuleTree.Expansion
import RuleTree.Failure
import RuleTree.Field
import RuleTree.Files
import RuleTree.Inspection
import RuleTree.Json.Basic
import RuleTree.Json.Mismatch
import RuleTree.Json.Outline
import RuleTree.Json.Printer
import RuleTree.Json.Reader
import RuleTree.Logged
import RuleTree.Main
import RuleTree.Operator
import RuleTree.Pattern.Basic
import RuleTree.Pattern.Cache
import RuleTree.Pattern.Parser
import RuleTree.Pattern.Size
import RuleTree.Presence
import RuleTree.Program
import RuleTree.Proofs.Approval
import RuleTree.Proofs.Balance
import RuleTree.Proofs.Changes
import RuleTree.Proofs.Closed
import RuleTree.Proofs.Commands
import RuleTree.Proofs.Course
import RuleTree.Proofs.Cycles
import RuleTree.Proofs.DepthLimits
import RuleTree.Proofs.Diagnosis
import RuleTree.Proofs.EntryPoints
import RuleTree.Proofs.Equality
import RuleTree.Proofs.Execution
import RuleTree.Proofs.Explanations
import RuleTree.Proofs.Fallback
import RuleTree.Proofs.Folders
import RuleTree.Proofs.Forms
import RuleTree.Proofs.Grammar
import RuleTree.Proofs.GuardedEvaluation
import RuleTree.Proofs.GuardedReview
import RuleTree.Proofs.History
import RuleTree.Proofs.Influence
import RuleTree.Proofs.Inlining
import RuleTree.Proofs.Integers
import RuleTree.Proofs.Lookups
import RuleTree.Proofs.Lowering
import RuleTree.Proofs.Meaning
import RuleTree.Proofs.Mirrors
import RuleTree.Proofs.Misses
import RuleTree.Proofs.Nodes
import RuleTree.Proofs.NumberTexts
import RuleTree.Proofs.Numerals
import RuleTree.Proofs.Opposites
import RuleTree.Proofs.Origin
import RuleTree.Proofs.Paths
import RuleTree.Proofs.Reachable
import RuleTree.Proofs.Recording
import RuleTree.Proofs.Refusal
import RuleTree.Proofs.Related
import RuleTree.Proofs.Replacement
import RuleTree.Proofs.Retention
import RuleTree.Proofs.RootLists
import RuleTree.Proofs.RootOrder
import RuleTree.Proofs.RoundTrip
import RuleTree.Proofs.Rounding
import RuleTree.Proofs.Runs
import RuleTree.Proofs.Statistics
import RuleTree.Proofs.Texts
import RuleTree.Proofs.Unfolding
import RuleTree.Review
import RuleTree.Rule
import RuleTree.Rule.Codec
import RuleTree.RuleFile
import RuleTree.Session
import RuleTree.Settings
import RuleTree.Shape
import RuleTree.Store
import RuleTree.Tally
import RuleTree.Text.Blank
import RuleTree.Text.Digits
import RuleTree.Text.Shown
import RuleTree.Text.Split
import RuleTree.Text.Utf8
import RuleTree.Time
import RuleTree.Toml.Basic
import RuleTree.Toml.OfJson
import RuleTree.Toml.Path
import RuleTree.Toml.Reader
import RuleTree.Toml.Scalar
import RuleTree.Tree
import RuleTree.Tree.Codec
import RuleTree.Unicode.Age
import RuleTree.Unicode.Break
import RuleTree.Unicode.CaseFold
import RuleTree.Unicode.Category
import RuleTree.Unicode.CharSet
import RuleTree.Unicode.Property
import RuleTree.Unicode.Script
