import GraphPrograms.Equation.Basic
import GraphPrograms.Equation.Chain
import GraphPrograms.Equation.Kind
import GraphPrograms.Equation.Normal
import GraphPrograms.Equation.Plain
import GraphPrograms.Equation.Sheet
import GraphPrograms.Color.Assignment
import GraphPrograms.Color.Policy
import GraphPrograms.Color.Token
import GraphPrograms.Program.Chunk
import GraphPrograms.Program.Instruction
import GraphPrograms.Draft
import GraphPrograms.Session
import GraphPrograms.Files.Change
import GraphPrograms.Files.Replace
import GraphPrograms.Storage.Basic
import GraphPrograms.Config.Location
import GraphPrograms.Settings
import GraphPrograms.Review.Event
import GraphPrograms.Review.Picture
import GraphPrograms.Command.Reach
import GraphPrograms.Main
import GraphPrograms.Proofs.Program.Chunking
import GraphPrograms.Proofs.Session.History
import GraphPrograms.Proofs.Equation.Grammar
import GraphPrograms.Proofs.Review.Step
import GraphPrograms.Proofs.Review.Unbroken
import GraphPrograms.Proofs.Program.Layout
import GraphPrograms.Proofs.Equation.Writing
import GraphPrograms.Proofs.Color.Range
import GraphPrograms.Proofs.Session.Preview
import GraphPrograms.Proofs.Review.Recorded
import GraphPrograms.Proofs.Color.Canonical
import GraphPrograms.Proofs.Draft.Entering
import GraphPrograms.Proofs.Review.Entering
import GraphPrograms.Proofs.Command.Conservation
import GraphPrograms.Proofs.Draft.Bytes
import GraphPrograms.Proofs.Review.Consistent
import GraphPrograms.Proofs.Files.Naming
import GraphPrograms.Proofs.Review.Transitions
import GraphPrograms.Proofs.Files.Replacing
import GraphPrograms.Proofs.Storage.Generations
import GraphPrograms.Proofs.Equation.Plain
import GraphPrograms.Proofs.Equation.Bounded
import GraphPrograms.Proofs.Files.Failing
import GraphPrograms.Proofs.Storage.Filtering
import GraphPrograms.Proofs.Review.Effects
import GraphPrograms.Proofs.Storage.Rejecting
import GraphPrograms.Proofs.Command.Touching
import GraphPrograms.Proofs.Equation.Numbering
import GraphPrograms.Proofs.Draft.Deleting
import GraphPrograms.Proofs.Draft.Words
import GraphPrograms.Proofs.Equation.Pattern
import GraphPrograms.Proofs.Equation.Clear
import GraphPrograms.Proofs.Storage.Refiltering
import GraphPrograms.Proofs.Storage.Lasting
import GraphPrograms.Proofs.Review.Scrolling
import GraphPrograms.Proofs.Files.Sparing
import GraphPrograms.Proofs.Storage.Stopping
import GraphPrograms.Proofs.Color.Outcome
import GraphPrograms.Proofs.Config.References
import GraphPrograms.Proofs.Review.Announcing
import GraphPrograms.Proofs.Screen.Rows
import GraphPrograms.Proofs.Screen.Writing
import GraphPrograms.Proofs.Screen.Marks
import GraphPrograms.Proofs.Review.Typed
import GraphPrograms.Proofs.Review.Marking
import GraphPrograms.Proofs.Equation.Ranking
