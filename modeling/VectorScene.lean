import VectorScene.Canvas.Pixel
import VectorScene.Canvas.Size
import VectorScene.Canvas.Vertices
import VectorScene.Drawing.Element
import VectorScene.Drawing.Scene
import VectorScene.Fault
import VectorScene.Markup.Assembly
import VectorScene.Markup.Character
import VectorScene.Markup.Completion
import VectorScene.Markup.Declaration
import VectorScene.Markup.Document
import VectorScene.Markup.Event
import VectorScene.Markup.Expansion
import VectorScene.Markup.Layout
import VectorScene.Markup.Name
import VectorScene.Markup.Namespace
import VectorScene.Markup.Node
import VectorScene.Markup.Prolog
import VectorScene.Markup.Reference
import VectorScene.Markup.Scanner
import VectorScene.Markup.Tag
import VectorScene.Markup.Token
import VectorScene.Markup.Writer
import VectorScene.Number.Binary64
import VectorScene.Number.Decimal
import VectorScene.Number.Literal
import VectorScene.Number.Rounding
import VectorScene.Points.Coordinate
import VectorScene.Points.List
import VectorScene.Points.Row
import VectorScene.Proofs.Canvas.Large
import VectorScene.Proofs.Canvas.Normalized
import VectorScene.Proofs.Canvas.Pixel
import VectorScene.Proofs.Canvas.Return
import VectorScene.Proofs.Canvas.Rows
import VectorScene.Proofs.Canvas.Vertices
import VectorScene.Proofs.Drawing.Element
import VectorScene.Proofs.Drawing.Image
import VectorScene.Proofs.Drawing.Leaf
import VectorScene.Proofs.Drawing.Order
import VectorScene.Proofs.Drawing.Redraw
import VectorScene.Proofs.Drawing.Return
import VectorScene.Proofs.Drawing.RoundTrip
import VectorScene.Proofs.Drawing.Rows
import VectorScene.Proofs.Drawing.Strict
import VectorScene.Proofs.Drawing.Tree
import VectorScene.Proofs.Markup.Assembly
import VectorScene.Proofs.Markup.Completion
import VectorScene.Proofs.Markup.Content
import VectorScene.Proofs.Markup.Declaration
import VectorScene.Proofs.Markup.Document
import VectorScene.Proofs.Markup.Escape
import VectorScene.Proofs.Markup.Event
import VectorScene.Proofs.Markup.Idempotent
import VectorScene.Proofs.Markup.Layout
import VectorScene.Proofs.Markup.Legal
import VectorScene.Proofs.Markup.Level
import VectorScene.Proofs.Markup.Line
import VectorScene.Proofs.Markup.Name
import VectorScene.Proofs.Markup.Namespace
import VectorScene.Proofs.Markup.Parsed
import VectorScene.Proofs.Markup.Plain
import VectorScene.Proofs.Markup.Prolog
import VectorScene.Proofs.Markup.Reformat
import VectorScene.Proofs.Markup.Rename
import VectorScene.Proofs.Markup.RoundTrip
import VectorScene.Proofs.Markup.Scanner
import VectorScene.Proofs.Markup.Shadow
import VectorScene.Proofs.Markup.Spacing
import VectorScene.Proofs.Markup.Strip
import VectorScene.Proofs.Markup.Tag
import VectorScene.Proofs.Markup.Text
import VectorScene.Proofs.Markup.Token
import VectorScene.Proofs.Markup.Visible
import VectorScene.Proofs.Number.Decimal
import VectorScene.Proofs.Number.Error
import VectorScene.Proofs.Number.Exact
import VectorScene.Proofs.Number.Literal
import VectorScene.Proofs.Number.Magnitude
import VectorScene.Proofs.Number.Range
import VectorScene.Proofs.Points.Coordinate
import VectorScene.Proofs.Points.Form
import VectorScene.Proofs.Points.Literal
import VectorScene.Proofs.Points.Pair
import VectorScene.Proofs.Points.Pattern
import VectorScene.Proofs.Points.Real
import VectorScene.Proofs.Points.RoundTrip
import VectorScene.Proofs.Points.Scan
import VectorScene.Proofs.Points.Total
import VectorScene.Proofs.Points.Value
import VectorScene.Proofs.Points.Written
import VectorScene.Proofs.Reading.Element
import VectorScene.Proofs.Reading.Finite
import VectorScene.Proofs.Reading.Frame
import VectorScene.Proofs.Reading.Group
import VectorScene.Proofs.Reading.Literal
import VectorScene.Proofs.Reading.Modes
import VectorScene.Proofs.Reading.Namespace
import VectorScene.Proofs.Reading.Normalize
import VectorScene.Proofs.Reading.Outcome
import VectorScene.Proofs.Reading.Passes
import VectorScene.Proofs.Reading.Pixels
import VectorScene.Proofs.Reading.Polygon
import VectorScene.Proofs.Reading.Strict
import VectorScene.Proofs.Reading.Text
import VectorScene.Proofs.Run
import VectorScene.Proofs.Scene.Group
import VectorScene.Proofs.Scene.Shape
import VectorScene.Proofs.Session.Files
import VectorScene.Proofs.Session.History
import VectorScene.Proofs.Session.Settings
import VectorScene.Proofs.Session.Step
import VectorScene.Proofs.Stroke
import VectorScene.Proofs.Stroke.Declared
import VectorScene.Proofs.Stroke.First
import VectorScene.Proofs.Stroke.RoundTrip
import VectorScene.Proofs.Stroke.Style
import VectorScene.Proofs.Text.Digit
import VectorScene.Proofs.Text.Span
import VectorScene.Proofs.Text.Trim
import VectorScene.Reading
import VectorScene.Run
import VectorScene.Scene.Command
import VectorScene.Scene.Shape
import VectorScene.Session
import VectorScene.Settings
import VectorScene.Stroke
import VectorScene.Text.Blank
import VectorScene.Text.Digit
import VectorScene.Text.Printable
import VectorScene.Text.Quoted
import VectorScene.Value
