import AnchoredUi.Plane.TextAnchor
import AnchoredUi.Text.Case
import AnchoredUi.Text.Trim

/-!
# Keywords of style values

The closed sets of values that properties are given by name. Every set has a table of its words;
a word is read in any case and between blanks.
-/

namespace AnchoredUi.Style

open Plane

/-- The form in which a keyword is looked up. -/
def keywordForm (text : String) : String := Text.lowered (Text.trimmed text)

/-- The value that a table gives a word. -/
def lookWord {α : Type} (table : List (String × α)) (word : String) : Option α :=
  (table.find? fun e => e.1 == word).map Prod.snd

/-- The direction in which a container lays out its children. -/
inductive FlexDirection where
  | row
  | rowReverse
  | column
  | columnReverse
  deriving DecidableEq, Repr

namespace FlexDirection

/-- The words for a direction. -/
def words : List (String × FlexDirection) :=
  [("row", row), ("row-reverse", rowReverse), ("column", column),
    ("column-reverse", columnReverse)]

/-- The axis of a direction. -/
def axis : FlexDirection → Axis
  | row | rowReverse => .horizontal
  | column | columnReverse => .vertical

/-- The children run against the axis. -/
def isReverse : FlexDirection → Bool
  | row | column => false
  | rowReverse | columnReverse => true

end FlexDirection

/-- Where children stand along the axis of their container. -/
inductive Justify where
  | start
  | finish
  | center
  | spaceBetween
  | spaceAround
  | spaceEvenly
  deriving DecidableEq, Repr

namespace Justify

/-- The words for a justification. -/
def words : List (String × Justify) :=
  [("flex-start", start), ("start", start), ("left", start),
    ("flex-end", finish), ("end", finish), ("right", finish),
    ("center", center), ("space-between", spaceBetween), ("space-around", spaceAround),
    ("space-evenly", spaceEvenly)]

/-- The one place that stands for a justification; spread children count as centered. -/
def placement : Justify → Placement
  | start => .start
  | finish => .finish
  | center | spaceBetween | spaceAround | spaceEvenly => .center

end Justify

/-- Where children stand across the axis of their container. -/
inductive Align where
  | auto
  | start
  | finish
  | center
  | stretch
  deriving DecidableEq, Repr

namespace Align

/-- The words for an alignment. -/
def words : List (String × Align) :=
  [("auto", auto), ("flex-start", start), ("start", start), ("baseline", start),
    ("flex-end", finish), ("end", finish), ("center", center), ("stretch", stretch)]

/-- The place that stands for an alignment. -/
def placement : Align → Placement
  | auto | start | stretch => .start
  | center => .center
  | finish => .finish

end Align

/-- Whether a node takes part in the layout of its parent. -/
inductive Position where
  | relative
  | absolute
  deriving DecidableEq, Repr

/-- The words for a position. -/
def Position.words : List (String × Position) :=
  [("relative", relative), ("static", relative), ("absolute", absolute), ("fixed", absolute)]

/-- Whether a node is shown. -/
inductive Display where
  | shown
  | hidden
  deriving DecidableEq, Repr

/-- The words for showing and hiding. -/
def Display.words : List (String × Display) :=
  [("flex", shown), ("block", shown), ("inline", shown), ("inline-block", shown),
    ("grid", shown), ("contents", shown), ("none", hidden)]

/-- The shape of letters. -/
inductive FontStyle where
  | normal
  | bold
  | italic
  | boldAndItalic
  deriving DecidableEq, Repr

namespace FontStyle

/-- The words for a shape of letters. -/
def words : List (String × FontStyle) :=
  [("normal", normal), ("bold", bold), ("italic", italic), ("oblique", italic),
    ("bold-and-italic", boldAndItalic)]

/-- The letters are heavy. -/
def isBold : FontStyle → Bool
  | bold | boldAndItalic => true
  | normal | italic => false

/-- The letters are slanted. -/
def isItalic : FontStyle → Bool
  | italic | boldAndItalic => true
  | normal | bold => false

end FontStyle

/-- Whether long lines are broken. -/
inductive WhiteSpace where
  | normal
  | noWrap
  deriving DecidableEq, Repr

/-- The words for breaking lines. -/
def WhiteSpace.words : List (String × WhiteSpace) :=
  [("normal", normal), ("pre-wrap", normal), ("pre-line", normal), ("break-spaces", normal),
    ("nowrap", noWrap), ("pre", noWrap)]

/-- What happens to children that stick out. -/
inductive Overflow where
  | visible
  | hidden
  | scroll
  deriving DecidableEq, Repr

/-- The words for children that stick out. -/
def Overflow.words : List (String × Overflow) :=
  [("visible", visible), ("hidden", hidden), ("clip", hidden), ("scroll", scroll),
    ("auto", scroll)]

/-- How a picture fills a rectangle. -/
inductive BackgroundSize where
  | stretch
  | contain
  | cover
  deriving DecidableEq, Repr

namespace BackgroundSize

/-- The words for filling a rectangle. -/
def words : List (String × BackgroundSize) :=
  [("auto", stretch), ("stretch-to-fill", stretch), ("100% 100%", stretch),
    ("stretch", stretch), ("contain", contain), ("scale-to-fit", contain), ("cover", cover),
    ("scale-and-crop", cover)]

/-- Width and height of the picture keep their proportion. -/
def preservesAspect (b : BackgroundSize) : Bool := b != stretch

end BackgroundSize

/-- Whether a picture is repeated. -/
inductive BackgroundRepeat where
  | tiled
  | once
  deriving DecidableEq, Repr

/-- The words for repeating a picture. -/
def BackgroundRepeat.words : List (String × BackgroundRepeat) :=
  [("repeat", tiled), ("repeat-x", tiled), ("repeat-y", tiled), ("round", tiled),
    ("space", tiled), ("no-repeat", once)]

/-- The words for the place of a text; a word for a column alone means the middle row. -/
def textAlignWords : List (String × TextAnchor) :=
  [("left", .middleLeft), ("start", .middleLeft), ("justify", .middleLeft),
    ("center", .middleCenter), ("right", .middleRight), ("end", .middleRight),
    ("upper-left", .upperLeft), ("upper-center", .upperCenter), ("upper-right", .upperRight),
    ("middle-left", .middleLeft), ("middle-center", .middleCenter),
    ("middle-right", .middleRight), ("lower-left", .lowerLeft), ("lower-center", .lowerCenter),
    ("lower-right", .lowerRight)]

end AnchoredUi.Style
