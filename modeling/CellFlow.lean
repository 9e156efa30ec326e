import CellFlow.Artifact
import CellFlow.Cell
import CellFlow.Chart.Basic
import CellFlow.Chart.Network
import CellFlow.Chart.Record
import CellFlow.CommandLine.Command
import CellFlow.CommandLine.Help
import CellFlow.CommandLine.Reading
import CellFlow.CommandLine.Run
import CellFlow.CommandLine.Words
import CellFlow.Data.Access
import CellFlow.Data.Distinct
import CellFlow.Data.Fault
import CellFlow.Data.Order
import CellFlow.Data.Sort
import CellFlow.Data.Table
import CellFlow.Data.Value
import CellFlow.Export
import CellFlow.Failure
import CellFlow.Figure.Color
import CellFlow.Figure.ColorName
import CellFlow.Figure.Draw
import CellFlow.Figure.Extent
import CellFlow.Figure.Fit
import CellFlow.Figure.Resolution
import CellFlow.Figure.Shape
import CellFlow.Figure.SurveyColor
import CellFlow.Files.Host
import CellFlow.Files.Path
import CellFlow.Files.Refusal
import CellFlow.Files.Tree
import CellFlow.Graph.Build
import CellFlow.Graph.Collapse
import CellFlow.Graph.Flow
import CellFlow.Graph.Group
import CellFlow.Graph.Node
import CellFlow.Json.Reader
import CellFlow.Json.Writer
import CellFlow.Layout.Acyclic
import CellFlow.Layout.Coordinate
import CellFlow.Layout.Digraph
import CellFlow.Layout.Direction
import CellFlow.Layout.Placement
import CellFlow.Layout.Rank
import CellFlow.Layout.Ranks
import CellFlow.Layout.Ring
import CellFlow.Layout.Stack
import CellFlow.Layout.Sweep
import CellFlow.Main
import CellFlow.Names.Clean
import CellFlow.Names.Extract
import CellFlow.Names.Line
import CellFlow.Names.NameSet
import CellFlow.Notebook.Document
import CellFlow.Notebook.Form
import CellFlow.Notebook.Legacy
import CellFlow.Notebook.Load
import CellFlow.Notebook.Script
import CellFlow.Notebook.Tidy
import CellFlow.Notebook.Trace
import CellFlow.Notebook.Validity
import CellFlow.Number.Binary
import CellFlow.Number.Literal
import CellFlow.Number.Shortest
import CellFlow.Page.Document
import CellFlow.Page.Item
import CellFlow.Page.Script
import CellFlow.Page.Style
import CellFlow.Palette
import CellFlow.Picture.Portable
import CellFlow.Picture.Raster
import CellFlow.Proofs.Chart.Exporting
import CellFlow.Proofs.Chart.Network
import CellFlow.Proofs.Chart.Reload
import CellFlow.Proofs.Chart.WellFormed
import CellFlow.Proofs.Data.First
import CellFlow.Proofs.Data.Keyed
import CellFlow.Proofs.Data.Outcome
import CellFlow.Proofs.Data.Renaming
import CellFlow.Proofs.Figure.Drawing
import CellFlow.Proofs.Figure.Framing
import CellFlow.Proofs.Files.Paths
import CellFlow.Proofs.Flow.Findings
import CellFlow.Proofs.Flow.History
import CellFlow.Proofs.Flow.LatestWriter
import CellFlow.Proofs.Graph.Appending
import CellFlow.Proofs.Graph.ArtifactIds
import CellFlow.Proofs.Graph.Blocks
import CellFlow.Proofs.Graph.Build
import CellFlow.Proofs.Graph.Carrying
import CellFlow.Proofs.Graph.Classes
import CellFlow.Proofs.Graph.Colors
import CellFlow.Proofs.Graph.Downstream
import CellFlow.Proofs.Graph.Ids
import CellFlow.Proofs.Graph.Labels
import CellFlow.Proofs.Graph.Numbering
import CellFlow.Proofs.Graph.Quotient
import CellFlow.Proofs.Graph.Records
import CellFlow.Proofs.Graph.Renumbering
import CellFlow.Proofs.Graph.Soundness
import CellFlow.Proofs.Json.Characters
import CellFlow.Proofs.Json.Escapes
import CellFlow.Proofs.Json.Numerals
import CellFlow.Proofs.Json.RoundTrip
import CellFlow.Proofs.Json.Sorting
import CellFlow.Proofs.Layout.ArcOrder
import CellFlow.Proofs.Layout.Breaking
import CellFlow.Proofs.Layout.Climbing
import CellFlow.Proofs.Layout.Computing
import CellFlow.Proofs.Layout.Cycles
import CellFlow.Proofs.Layout.Exact
import CellFlow.Proofs.Layout.LongestPaths
import CellFlow.Proofs.Layout.Placing
import CellFlow.Proofs.Layout.Ranking
import CellFlow.Proofs.Layout.Renaming
import CellFlow.Proofs.Layout.Separation
import CellFlow.Proofs.Layout.Slots
import CellFlow.Proofs.Layout.Stacking
import CellFlow.Proofs.Layout.Turning
import CellFlow.Proofs.Layout.Unwinding
import CellFlow.Proofs.Layout.Verdict
import CellFlow.Proofs.Layout.Vertices
import CellFlow.Proofs.Names.LineForms
import CellFlow.Proofs.Names.LineShapes
import CellFlow.Proofs.Names.Literals
import CellFlow.Proofs.Names.Magics
import CellFlow.Proofs.Names.Merging
import CellFlow.Proofs.Names.Passes
import CellFlow.Proofs.Names.Segments
import CellFlow.Proofs.Names.Words
import CellFlow.Proofs.Notebook.ByLine
import CellFlow.Proofs.Notebook.Documents
import CellFlow.Proofs.Notebook.Prose
import CellFlow.Proofs.Notebook.Traces
import CellFlow.Proofs.Number.Bits
import CellFlow.Proofs.Number.Nearest
import CellFlow.Proofs.Number.Reading
import CellFlow.Proofs.Number.Rounding
import CellFlow.Proofs.Page.Block
import CellFlow.Proofs.Page.Encoding
import CellFlow.Proofs.Page.Graphs
import CellFlow.Proofs.Page.Items
import CellFlow.Proofs.Page.ScriptEnd
import CellFlow.Proofs.Session.Build
import CellFlow.Proofs.Session.Colors
import CellFlow.Proofs.Session.Independence
import CellFlow.Proofs.Session.Live
import CellFlow.Proofs.Session.Pages
import CellFlow.Proofs.Session.Renumbering
import CellFlow.Proofs.Settings.Records
import CellFlow.Proofs.Settings.Reload
import CellFlow.Proofs.Text.TextLines
import CellFlow.Session.Basic
import CellFlow.Session.Build
import CellFlow.Session.Save
import CellFlow.Settings.Basic
import CellFlow.Settings.Environment
import CellFlow.Settings.Sections
import CellFlow.Text.Blank
import CellFlow.Text.Digit
import CellFlow.Text.LetterCase
import CellFlow.Text.Lines
import CellFlow.Text.Markup
import CellFlow.Text.Printable
import CellFlow.Text.Quoted
import CellFlow.Text.Ranges
import CellFlow.Text.Records
import CellFlow.Text.Search
import CellFlow.Text.Sigma
import CellFlow.Text.Word
