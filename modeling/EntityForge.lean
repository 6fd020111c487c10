import EntityForge.Build.FromFile
import EntityForge.Main
import EntityForge.Proofs.Grammar.Reading
import EntityForge.Proofs.Grammar.Literals
import EntityForge.Proofs.Grammar.Unambiguous
import EntityForge.Proofs.Grammar.Declarations
import EntityForge.Proofs.Grammar.Acceptance
import EntityForge.Proofs.Grammar.Prediction
import EntityForge.Proofs.Token.Spelling
import EntityForge.Proofs.Token.Meanings
import EntityForge.Proofs.Token.Patterns
import EntityForge.Proofs.Token.Tiling
import EntityForge.Proofs.Token.Lines
import EntityForge.Proofs.Script.RoundTrip
import EntityForge.Proofs.Include.Lines
import EntityForge.Proofs.Include.Inlining
import EntityForge.Proofs.Include.Passes
import EntityForge.Proofs.Include.Cycles
import EntityForge.Proofs.Table.LastWins
import EntityForge.Proofs.Build.Steps
import EntityForge.Proofs.Build.FirstWarning
import EntityForge.Proofs.Build.Lineage
import EntityForge.Proofs.Build.Collisions
import EntityForge.Proofs.Build.Failures
import EntityForge.Proofs.Build.Notices
import EntityForge.Proofs.Command.Protocol
import EntityForge.Proofs.Save.Schedules
import EntityForge.Proofs.Build.Layout
import EntityForge.Proofs.Build.Interleaving
import EntityForge.Proofs.Build.Turns
import EntityForge.Proofs.Build.Requirements
import EntityForge.Proofs.Build.Isolation
import EntityForge.Proofs.Build.Variants
import EntityForge.Proofs.Build.Imports
import EntityForge.Proofs.Store.Growth
import EntityForge.Proofs.Save.Tasks
import EntityForge.Proofs.Build.FileNames
import EntityForge.Proofs.Command.Rebuild
import EntityForge.Proofs.Store.Paths
import EntityForge.Proofs.Store.Spelling
import EntityForge.Proofs.Save.Independence
import EntityForge.Proofs.Include.Fixpoint
import EntityForge.Proofs.Include.Rewriting
import EntityForge.Proofs.Include.Limit
import EntityForge.Proofs.Script.Documentation
import EntityForge.Proofs.Naming.Affixes
import EntityForge.Proofs.Script.NestedLines
import EntityForge.Proofs.Script.Embedding
import EntityForge.Proofs.Script.Bindings
import EntityForge.Proofs.Script.ModuleBindings
import EntityForge.Proofs.Build.Factory
import EntityForge.Proofs.Build.NameClashes
import EntityForge.Proofs.Save.Rivals
import EntityForge.Proofs.Naming.Shape
import EntityForge.Proofs.Save.Folders
import EntityForge.Proofs.Text.Positions
import EntityForge.Proofs.Build.ErrorPlaces
import EntityForge.Proofs.Excerpt.VisualLines
import EntityForge.Proofs.Excerpt.Location
import EntityForge.Proofs.Report.Projection
import EntityForge.Proofs.Report.Legibility
import EntityForge.Proofs.Report.Lossless
