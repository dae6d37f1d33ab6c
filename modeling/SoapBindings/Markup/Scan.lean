/-
# `SoapBindings.Markup.Scan` — cutting a document into lexemes

The scanner takes one unit at a time.  Its mode says what it is inside of and holds the units read
since that began, last unit first; when a delimiter completes a token the token is added, and an
end tag is held against the element that is open.  Scanning a text behind another one goes on from
where the other one stopped, since it is one fold over the units.

The result lists every lexeme up to the end or up to the first fault.  A reader that finds what it
wants before the fault never learns of it.
-/
import SoapBindings.Markup.Error
import SoapBindings.Markup.Token

namespace SoapBindings.Markup

/-- What the scanner is inside of, with the units read since its first delimiter. -/
inductive Mode (α : Type) where
  | text (content : List α)
  /-- Behind an opening angle bracket. -/
  | opened
  /-- In a tag, and perhaps in a quoted value there. -/
  | tag (quote : Option α) (content : List α)
  | endTag (content : List α)
  | instruction (content : List α)
  /-- Behind an angle bracket and an exclamation mark. -/
  | declaration
  | comment (content : List α)
  | cdata (content : List α)
  /-- In a document type, with the depth of the angle brackets there. -/
  | doctype (depth : Int) (content : List α)
  | failed (error : MarkupError)

/-- The scanner's state: its mode, the names of the open elements, innermost first, and the lexemes
so far, last lexeme first. -/
structure Scanner (α : Type) where
  mode : Mode α := .text []
  openTags : List (List α) := []
  lexemes : List (Lexeme α) := []

variable {α : Type} [DecidableEq α] [TextUnit α]

namespace Scanner

/-- Add a token and go on with text. -/
def add (s : Scanner α) (token : Token α) (source : List α) : Scanner α :=
  { s with mode := .text [], lexemes := ⟨token, source⟩ :: s.lexemes }

def fail (s : Scanner α) (error : MarkupError) : Scanner α := { s with mode := .failed error }

/-- Complete a text, if there is any, without leaving it. -/
def addText (s : Scanner α) (content : List α) : Scanner α :=
  if content.isEmpty then s else s.add (.text content.reverse) content.reverse

/-- Complete a tag, which is empty if a slash ends it. -/
def addTag (s : Scanner α) (content : List α) : Scanner α :=
  let source := ascii "<" ++ content.reverse ++ ascii ">"
  match content with
  | [] => { s.add (.start []) source with openTags := [] :: s.openTags }
  | last :: before =>
    if is '/' last then s.add (.empty before.reverse) source
    else
      let whole := content.reverse
      { s.add (.start whole) source with openTags := tagName whole :: s.openTags }

/-- The white space that may stand behind the name of an end tag. -/
def isTrailing (x : α) : Bool := isSpace x || is '\x0c' x

/-- Complete an end tag, whose closing bracket may be missing at the end of the text. -/
def addEndTag (s : Scanner α) (content closing : List α) : Scanner α :=
  let name := match content.dropWhile isTrailing with
    | [] => content.reverse
    | kept => kept.reverse
  match s.openTags with
  | [] => s.fail .mismatchedEnd
  | tag :: outer =>
    if name = tag then
      { s.add (.stop name) (ascii "</" ++ content.reverse ++ closing) with openTags := outer }
    else s.fail .mismatchedEnd

/-- Complete an instruction, whose closing bracket may be missing at the end of the text. -/
def addInstruction (s : Scanner α) (content closing : List α) : Scanner α :=
  match content with
  | mark :: before =>
    if is '?' mark && !before.isEmpty then
      s.add (.instruction before.reverse) (ascii "<?" ++ content.reverse ++ closing)
    else s.fail .unclosedInstruction
  | [] => s.fail .unclosedInstruction

/-- A bracket inside a comment, which ends it behind two dashes. -/
def closeComment (s : Scanner α) (content : List α) : Scanner α :=
  match content with
  | a :: b :: before =>
    if is '-' a && is '-' b && 2 ≤ before.length then
      let whole := content.reverse
      if is '-' (whole.getD 1 a) then
        s.add (.comment (before.reverse.drop 2)) (ascii "<!" ++ whole ++ ascii ">")
      else s.fail .badDeclaration
    else { s with mode := .comment (TextUnit.ofAscii '>' :: content) }
  | _ => { s with mode := .comment (TextUnit.ofAscii '>' :: content) }

/-- A bracket inside a marked section, which ends it behind two square ones. -/
def closeCData (s : Scanner α) (content : List α) : Scanner α :=
  match content with
  | a :: b :: before =>
    if is ']' a && is ']' b then
      let whole := before.reverse
      if startsWithKeyword "[cdata[".toList whole then
        s.add (.cdata (whole.drop 7)) (ascii "<!" ++ content.reverse ++ ascii ">")
      else s.fail .badDeclaration
    else { s with mode := .cdata (TextUnit.ofAscii '>' :: content) }
  | _ => { s with mode := .cdata (TextUnit.ofAscii '>' :: content) }

/-- The bracket that ends a document type. -/
def closeDoctype (s : Scanner α) (content : List α) : Scanner α :=
  let whole := content.reverse
  if startsWithKeyword "doctype".toList whole then
    match (whole.drop 7).dropWhile isSpace with
    | [] => s.fail .emptyDoctype
    | kept => s.add (.doctype kept) (ascii "<!" ++ whole ++ ascii ">")
  else s.fail .badDeclaration

/-- Take the unit behind an opening bracket, which tells what kind of markup begins. -/
def beginMarkup (s : Scanner α) (x : α) : Scanner α :=
  if is '!' x then { s with mode := .declaration }
  else if is '/' x then { s with mode := .endTag [] }
  else if is '?' x then { s with mode := .instruction [] }
  else if is '>' x then s.addTag []
  else if is '\'' x || is '"' x then { s with mode := .tag (some x) [x] }
  else { s with mode := .tag none [x] }

/-- Take the unit that tells a comment, a marked section and a document type apart. -/
def beginDeclaration (s : Scanner α) (x : α) : Scanner α :=
  if is '-' x then { s with mode := .comment [x] }
  else if is '[' x then { s with mode := .cdata [x] }
  else if isLetter 'd' x then { s with mode := .doctype 0 [x] }
  else s.fail .badDeclaration

/-- Take one unit. -/
def step (s : Scanner α) (x : α) : Scanner α :=
  match s.mode with
  | .text content =>
    if is '<' x then { s.addText content with mode := .opened }
    else { s with mode := .text (x :: content) }
  | .opened => s.beginMarkup x
  | .tag (some quote) content =>
    { s with mode := .tag (if x = quote then none else some quote) (x :: content) }
  | .tag none content =>
    if is '>' x then s.addTag content
    else if is '\'' x || is '"' x then { s with mode := .tag (some x) (x :: content) }
    else { s with mode := .tag none (x :: content) }
  | .endTag content =>
    if is '>' x then s.addEndTag content [x] else { s with mode := .endTag (x :: content) }
  | .instruction content =>
    if is '>' x then s.addInstruction content [x]
    else { s with mode := .instruction (x :: content) }
  | .declaration => s.beginDeclaration x
  | .comment content =>
    if is '>' x then s.closeComment content else { s with mode := .comment (x :: content) }
  | .cdata content =>
    if is '>' x then s.closeCData content else { s with mode := .cdata (x :: content) }
  | .doctype depth content =>
    if is '>' x then
      if depth = 0 then s.closeDoctype content
      else { s with mode := .doctype (depth - 1) (x :: content) }
    else if is '<' x then { s with mode := .doctype (depth + 1) (x :: content) }
    else { s with mode := .doctype depth (x :: content) }
  | .failed _ => s

/-- Take the end of the text.  A bracket at the very end is nothing, and an end tag or an
instruction need not be closed there. -/
def finish (s : Scanner α) : Scanner α :=
  match s.mode with
  | .text content => s.addText content
  | .opened => s
  | .tag _ _ => s.fail .unclosedTag
  | .endTag content => s.addEndTag content []
  | .instruction content => s.addInstruction content []
  | .declaration | .comment _ | .cdata _ | .doctype _ _ => s.fail .badDeclaration
  | .failed _ => s

end Scanner

/-- The lexemes of a document, and the fault that ends them if one does. -/
structure Scan (α : Type) where
  lexemes : List (Lexeme α)
  fault : Option MarkupError

/-- The text without a byte order mark in front. -/
def dropMark (xs : List α) : List α :=
  let mark : List α := TextUnit.byteOrderMark
  if mark.isPrefixOf xs then xs.drop mark.length else xs

/-- The state behind some units. -/
def Scanner.run (s : Scanner α) (xs : List α) : Scanner α := xs.foldl step s

/-- Cut a document into lexemes. -/
def scan (xs : List α) : Scan α :=
  let s := (Scanner.run {} (dropMark xs)).finish
  { lexemes := s.lexemes.reverse
    fault := match s.mode with
      | .failed error => some error
      | _ => none }

end SoapBindings.Markup
