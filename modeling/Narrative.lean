import Narrative.Condition
import Narrative.Elementary
import Narrative.Files.Disk
import Narrative.Files.Path
import Narrative.Files.Plan
import Narrative.Graph
import Narrative.Json.Agreement
import Narrative.Json.Basic
import Narrative.Json.Fields
import Narrative.Json.Figure
import Narrative.Json.Reader
import Narrative.Json.Token
import Narrative.Json.Writer
import Narrative.Keyed
import Narrative.Main
import Narrative.Number.Binary
import Narrative.Number.Layout
import Narrative.Number.Literal
import Narrative.Number.Shortest
import Narrative.Placeholder
import Narrative.Player
import Narrative.Player.Agent
import Narrative.Player.Command
import Narrative.Player.Error
import Narrative.Player.LoadedProject
import Narrative.Player.Play
import Narrative.Player.Report
import Narrative.Player.Save
import Narrative.Project
import Narrative.Project.Document
import Narrative.Proofs.Addresses
import Narrative.Proofs.AgentRuns
import Narrative.Proofs.Beginnings
import Narrative.Proofs.Boards
import Narrative.Proofs.Branches
import Narrative.Proofs.Coercions
import Narrative.Proofs.Collections
import Narrative.Proofs.Comparisons
import Narrative.Proofs.Conditions
import Narrative.Proofs.Declarations
import Narrative.Proofs.Disks
import Narrative.Proofs.Display
import Narrative.Proofs.Documents
import Narrative.Proofs.Games
import Narrative.Proofs.GoingBack
import Narrative.Proofs.Json.Agreement
import Narrative.Proofs.Json.Arranged
import Narrative.Proofs.Json.Figures
import Narrative.Proofs.Json.Records
import Narrative.Proofs.Json.RoundTrip
import Narrative.Proofs.Json.Scanning
import Narrative.Proofs.Mishaps
import Narrative.Proofs.Movable
import Narrative.Proofs.Names
import Narrative.Proofs.Number.Definite
import Narrative.Proofs.Number.Doubles
import Narrative.Proofs.Number.Literals
import Narrative.Proofs.Number.Reading
import Narrative.Proofs.Number.Rounding
import Narrative.Proofs.Number.Shortest
import Narrative.Proofs.Offers
import Narrative.Proofs.Outlines
import Narrative.Proofs.Pairing
import Narrative.Proofs.Paths
import Narrative.Proofs.Patience
import Narrative.Proofs.Phrases
import Narrative.Proofs.Placeholders
import Narrative.Proofs.Position
import Narrative.Proofs.Quotations
import Narrative.Proofs.Reachable
import Narrative.Proofs.Replay
import Narrative.Proofs.Reports
import Narrative.Proofs.Resumption
import Narrative.Proofs.Retracing
import Narrative.Proofs.Sameness
import Narrative.Proofs.SaveFiles
import Narrative.Proofs.Saving
import Narrative.Proofs.Script.Blocks
import Narrative.Proofs.Script.Frames
import Narrative.Proofs.Script.Joints
import Narrative.Proofs.Script.LineFeeds
import Narrative.Proofs.Script.Mentions
import Narrative.Proofs.Script.Parsing
import Narrative.Proofs.Script.Quotes
import Narrative.Proofs.Script.Rebinding
import Narrative.Proofs.Script.Seams
import Narrative.Proofs.Script.Semicolons
import Narrative.Proofs.Script.Sparing
import Narrative.Proofs.Script.Spelling
import Narrative.Proofs.Script.Unnamed
import Narrative.Proofs.Sessions
import Narrative.Proofs.Steady
import Narrative.Proofs.Texts
import Narrative.Proofs.Turning
import Narrative.Proofs.Undisturbed
import Narrative.Proofs.Values
import Narrative.Proofs.Visits
import Narrative.Proofs.Ways
import Narrative.Script.Arithmetic
import Narrative.Script.Block
import Narrative.Script.Datum
import Narrative.Script.Evaluation
import Narrative.Script.Machine
import Narrative.Script.Method
import Narrative.Script.Names
import Narrative.Script.Normal
import Narrative.Script.Parser
import Narrative.Script.Reduction
import Narrative.Script.Run
import Narrative.Script.Selection
import Narrative.Script.Token
import Narrative.Script.Tree
import Narrative.Session
import Narrative.Story.Moves
import Narrative.Story.State
import Narrative.Story.View
import Narrative.TestCase
import Narrative.TestCase.Check
import Narrative.TestCase.Document
import Narrative.Text.Blank
import Narrative.Text.Hidden
import Narrative.Text.Letter
import Narrative.Text.Mark
import Narrative.Text.Pieces
import Narrative.Value
import Narrative.Variable
import Narrative.Variable.Document
