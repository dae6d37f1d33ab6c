/-
# `SoapBindings.Markup.Tree` — an element as a tree

The lexemes of an element form a tree of elements and texts.  Text and marked sections that only
comments and instructions separate are one text; a document type ends it.

A text is kept as it is written, references and white space and all.  What counts of it is for its
reader to say: mostly the white space that touches the tags around a text is no part of it, and a
text of nothing else is not there at all, while a marked section keeps its white space.  Only who
asks for a text learns that it has a bad reference.
-/
import SoapBindings.Markup.Attribute
import SoapBindings.Markup.Escape
import SoapBindings.Markup.Scan
import SoapBindings.Text.Blank

namespace SoapBindings.Markup

/-- A stretch of text. -/
inductive Piece where
  /-- Text in which references stand for characters. -/
  | escaped (content : List Char)
  /-- Text that is meant as it is written. -/
  | literal (content : List Char)

/-- A part of an element: an element with the content of its tag and its children, a text, or a
document type. -/
inductive Node where
  | element (tag : List Char) (children : List Node)
  | text (pieces : List Piece)
  | doctype

namespace Piece

/-- What the piece says, if its references stand for characters. -/
def value? : Piece → Option (List Char)
  | escaped content => unescape? content
  | literal content => some content

/-- Blank text at the beginning of a run goes, and the white space in front of other text. -/
def trimStart : List Piece → List Piece
  | .escaped content :: rest =>
    match content.dropWhile isSpace with
    | [] => trimStart rest
    | kept => .escaped kept :: rest
  | pieces => pieces

/-- The white space behind the text that ends a run goes. -/
def trimEnd (pieces : List Piece) : List Piece :=
  match pieces.reverse with
  | .escaped content :: before => (.escaped (Text.dropEndWhile isSpace content) :: before).reverse
  | _ => pieces

/-- What counts of a run of text, if anything does.  White space in front of it is dropped unless it
`keepsFront`. -/
def trim (keepsFront : Bool) (pieces : List Piece) : List Piece :=
  match if keepsFront then pieces else trimStart pieces with
  | [.escaped content] =>
    match Text.dropEndWhile isSpace content with
    | [] => []
    | kept => [.escaped kept]
  | pieces => trimEnd pieces

/-- What a run of text says, if all its references stand for characters. -/
def text? (pieces : List Piece) : Option (List Char) := (pieces.mapM value?).map List.flatten

end Piece

/-- The nodes begin with a text that counts. -/
def beginsWithText : List Node → Bool
  | .text pieces :: _ => !(Piece.trim false pieces).isEmpty
  | _ => false

/-- The nodes from the first one on that counts, which is an element or a text. -/
def dropBlanks : List Node → List Node
  | .doctype :: rest => dropBlanks rest
  | .text pieces :: rest =>
    if (Piece.trim false pieces).isEmpty then dropBlanks rest else .text pieces :: rest
  | nodes => nodes

/-! ## Building -/

/-- A tree in the making: the elements that are open, innermost first, each with the children that
it has so far, last child first, and the pieces of the text that is being read, last piece first. -/
structure Growth where
  openElements : List (List Char × List Node) := []
  pieces : List Piece := []
  /-- Text outside of all elements. -/
  stray : Bool := false
  /-- The outermost element, once it is complete. -/
  root : Option Node := none

namespace Growth

/-- Add a child to the innermost element. -/
def add (g : Growth) (node : Node) : Growth :=
  match g.openElements with
  | (tag, children) :: outer => { g with openElements := (tag, node :: children) :: outer }
  | [] =>
    match node with
    | .element _ _ => { g with root := some node }
    | .text _ => { g with stray := g.stray || beginsWithText [node] }
    | .doctype => g

/-- The text that is being read is complete. -/
def endText (g : Growth) : Growth :=
  match g.pieces with
  | [] => g
  | pieces => { g with pieces := [] }.add (.text pieces.reverse)

/-- Take a token.  Nothing is taken behind the outermost element. -/
def step (g : Growth) (token : Token Char) : Growth :=
  if g.root.isSome then g
  else match token with
  | .text content => { g with pieces := .escaped content :: g.pieces }
  | .cdata content => { g with pieces := .literal content :: g.pieces }
  | .comment _ | .instruction _ => g
  | .doctype _ => g.endText.add .doctype
  | .start tag =>
    let g := g.endText
    { g with openElements := (tag, []) :: g.openElements }
  | .empty tag => g.endText.add (.element tag [])
  | .stop _ =>
    let g := g.endText
    match g.openElements with
    | (tag, children) :: outer =>
      { g with openElements := outer }.add (.element tag children.reverse)
    | [] => g

end Growth

/-- The element that a text begins with, if it is complete and no text precedes it. -/
def tree? (cs : List Char) : Option Node :=
  let g := (scan cs).lexemes.foldl (fun g lexeme => g.step lexeme.token) ({} : Growth)
  if g.stray then none else g.root

end SoapBindings.Markup
