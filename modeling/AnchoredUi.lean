import AnchoredUi.Asset.Address
import AnchoredUi.Asset.Picture
import AnchoredUi.Asset.Png
import AnchoredUi.Asset.Project
import AnchoredUi.Asset.Shelf
import AnchoredUi.Asset.Source
import AnchoredUi.Catalog
import AnchoredUi.Conversion.Batch
import AnchoredUi.Conversion.Converter
import AnchoredUi.Conversion.Report
import AnchoredUi.Files.Disk
import AnchoredUi.Files.Path
import AnchoredUi.Flow.Arrange
import AnchoredUi.Flow.Line
import AnchoredUi.Kind.Basic
import AnchoredUi.Kind.Lookup
import AnchoredUi.Kind.TypeTable
import AnchoredUi.Markup.Document
import AnchoredUi.Markup.Element
import AnchoredUi.Markup.File
import AnchoredUi.Markup.Xml.Content
import AnchoredUi.Markup.Xml.Cursor
import AnchoredUi.Markup.Xml.Document
import AnchoredUi.Markup.Xml.Fault
import AnchoredUi.Markup.Xml.Node
import AnchoredUi.Markup.Xml.Reference
import AnchoredUi.Number.Binary
import AnchoredUi.Number.Format
import AnchoredUi.Number.Measure
import AnchoredUi.Number.Numeral
import AnchoredUi.Number.Shortest
import AnchoredUi.Plane.Basic
import AnchoredUi.Plane.Color
import AnchoredUi.Plane.Rect
import AnchoredUi.Plane.Spacing
import AnchoredUi.Plane.TextAnchor
import AnchoredUi.SceneGraph.Arena
import AnchoredUi.SceneGraph.Basic
import AnchoredUi.SceneGraph.Component
import AnchoredUi.SceneGraph.Host
import AnchoredUi.SceneGraph.Outline
import AnchoredUi.SceneGraph.Walk
import AnchoredUi.Sprite.Basic
import AnchoredUi.Sprite.Finder
import AnchoredUi.Sprite.Search
import AnchoredUi.Style.ColorNames
import AnchoredUi.Style.ColorSyntax
import AnchoredUi.Style.Declarations
import AnchoredUi.Style.Keyword
import AnchoredUi.Style.Pattern
import AnchoredUi.Style.Property
import AnchoredUi.Style.Scalar
import AnchoredUi.Style.Selector
import AnchoredUi.Style.Sheet
import AnchoredUi.Style.Token
import AnchoredUi.Style.Value
import AnchoredUi.Styling.Apply
import AnchoredUi.Styling.Cascade
import AnchoredUi.Styling.Change
import AnchoredUi.Styling.GroupStyle
import AnchoredUi.Styling.Length
import AnchoredUi.Styling.Subject
import AnchoredUi.Text.Case
import AnchoredUi.Text.Hidden
import AnchoredUi.Text.Letter
import AnchoredUi.Text.Quoted
import AnchoredUi.Text.Split
import AnchoredUi.Text.Trim
import AnchoredUi.Warning
import AnchoredUi.Widget.Blueprint
import AnchoredUi.Widget.Build
import AnchoredUi.Widget.Caption
import AnchoredUi.Widget.Dropdown
import AnchoredUi.Widget.Panel
import AnchoredUi.Widget.Slider
import AnchoredUi.Proofs.SceneGraph.Arena
import AnchoredUi.Proofs.SceneGraph.Forest
import AnchoredUi.Proofs.SceneGraph.Depth
import AnchoredUi.Proofs.SceneGraph.Removal
import AnchoredUi.Proofs.SceneGraph.Host
import AnchoredUi.Proofs.SceneGraph.Operation
import AnchoredUi.Proofs.Styling.Touch
import AnchoredUi.Proofs.SceneGraph.Growth
import AnchoredUi.Proofs.SceneGraph.Aside
import AnchoredUi.Proofs.Styling.ParentGroup
import AnchoredUi.Proofs.Styling.Outfit
import AnchoredUi.Proofs.Styling.Quiet
import AnchoredUi.Proofs.Styling.Complaint
import AnchoredUi.Proofs.Styling.Extent
import AnchoredUi.Proofs.Styling.Boxes
import AnchoredUi.Proofs.Widget.Furnish
import AnchoredUi.Proofs.Widget.Text
import AnchoredUi.Proofs.Widget.Build
import AnchoredUi.Proofs.Widget.Outfit
import AnchoredUi.Proofs.Conversion.Standing
import AnchoredUi.Proofs.SceneGraph.Twin
import AnchoredUi.Proofs.SceneGraph.Cut
import AnchoredUi.Proofs.SceneGraph.TwinHost
import AnchoredUi.Proofs.Sprite.Answer
import AnchoredUi.Proofs.Styling.TwinStage
import AnchoredUi.Proofs.Styling.TwinCascade
import AnchoredUi.Proofs.Conversion.Lookalike
import AnchoredUi.Proofs.Conversion.Twin
import AnchoredUi.Proofs.Conversion.Frame
import AnchoredUi.Proofs.Conversion.Early
import AnchoredUi.Proofs.Conversion.Account
import AnchoredUi.Proofs.Conversion.Composed
import AnchoredUi.Proofs.Conversion.Cut
import AnchoredUi.Proofs.Conversion.Prune
import AnchoredUi.Proofs.Styling.Reading
import AnchoredUi.Proofs.Conversion.Inert
import AnchoredUi.Proofs.Styling.Padding
import AnchoredUi.Proofs.Styling.Failure
import AnchoredUi.Proofs.Conversion.Remnant
import AnchoredUi.Proofs.Conversion.Wiring
import AnchoredUi.Proofs.SceneGraph.Walk
import AnchoredUi.Proofs.SceneGraph.Uproot
import AnchoredUi.Proofs.Flow.Moved
import AnchoredUi.Proofs.SceneGraph.Keys
import AnchoredUi.Proofs.Flow.Settled
import AnchoredUi.Proofs.Catalog
import AnchoredUi.Proofs.Text.Cut
import AnchoredUi.Proofs.Style.Rendering
import AnchoredUi.Proofs.Sprite.Memory
import AnchoredUi.Proofs.Asset.Shelf
import AnchoredUi.Proofs.Sprite.Sound
import AnchoredUi.Proofs.Number.Value
import AnchoredUi.Proofs.Flow.Sharing
import AnchoredUi.Proofs.Flow.Rounding
import AnchoredUi.Proofs.Flow.Pixels
import AnchoredUi.Proofs.Flow.Relaid
import AnchoredUi.Proofs.Flow.Exact
import AnchoredUi.Proofs.Flow.Again
import AnchoredUi.Proofs.Style.Lexing
import AnchoredUi.Proofs.Flow.Hidden
import AnchoredUi.Proofs.Conversion.Batch
import AnchoredUi.Proofs.Number.Rounding
import AnchoredUi.Proofs.Number.Within
import AnchoredUi.Proofs.Plane.Within
import AnchoredUi.Proofs.SceneGraph.Within
import AnchoredUi.Proofs.Flow.Within
import AnchoredUi.Proofs.Flow.Bounded
import AnchoredUi.Proofs.Styling.Within
import AnchoredUi.Proofs.Styling.Bounded
import AnchoredUi.Proofs.Widget.Offspring
import AnchoredUi.Proofs.Widget.Bounded
import AnchoredUi.Proofs.Conversion.Bounded
import AnchoredUi.Proofs.Style.Kinds
import AnchoredUi.Proofs.Style.Comments
import AnchoredUi.Proofs.Sprite.Guid
import AnchoredUi.Proofs.Number.Numeral
import AnchoredUi.Proofs.Style.Respaced
import AnchoredUi.Proofs.Style.Length
import AnchoredUi.Proofs.Number.Notation
import AnchoredUi.Proofs.Style.Shown
import AnchoredUi.Proofs.SceneGraph.Furnish
import AnchoredUi.Proofs.Styling.Overwrite
import AnchoredUi.Proofs.Styling.Reach
import AnchoredUi.Proofs.Style.Flag
import AnchoredUi.Proofs.Styling.Flagged
import AnchoredUi.Proofs.Styling.Regroup
import AnchoredUi.Proofs.Number.Sign
import AnchoredUi.Proofs.Plane.Unsigned
import AnchoredUi.Proofs.Styling.Unsigned
import AnchoredUi.Proofs.Styling.Winner
import AnchoredUi.Proofs.Conversion.Unmatched
import AnchoredUi.Proofs.Kind.Lineage
import AnchoredUi.Proofs.Widget.Raised
import AnchoredUi.Proofs.Widget.Attribute
import AnchoredUi.Proofs.Widget.Dropdown
import AnchoredUi.Proofs.Widget.Slider
import AnchoredUi.Proofs.Conversion.Rejected
import AnchoredUi.Proofs.Kind.Inherited
import AnchoredUi.Proofs.Kind.Lookup
import AnchoredUi.Proofs.Asset.Address
import AnchoredUi.Proofs.Asset.Resource
import AnchoredUi.Proofs.SceneGraph.Size
import AnchoredUi.Proofs.Plane.Edges
import AnchoredUi.Proofs.Styling.Edges
import AnchoredUi.Proofs.Flow.Tiling
import AnchoredUi.Proofs.Filing
import AnchoredUi.Proofs.SceneGraph.Outline
import AnchoredUi.Proofs.Markup.Mirror
