/-
# `SoapBindings.Markup.Token` — pieces of a document

A document is a sequence of texts and pieces of markup.  A token holds what stands between the
delimiters; `render` puts them back.  A lexeme is a token with the units it was read from, and all
lexemes of a document together give the document.
-/
import SoapBindings.Markup.TextUnit

namespace SoapBindings.Markup

inductive Token (α : Type) where
  | text (content : List α)
  /-- A start tag: the name and what follows it. -/
  | start (content : List α)
  /-- A tag that is start and end in one. -/
  | empty (content : List α)
  /-- An end tag, blanks behind its name aside. -/
  | stop (name : List α)
  | comment (content : List α)
  /-- A marked section, whose content is not scanned for markup. -/
  | cdata (content : List α)
  | instruction (content : List α)
  | doctype (content : List α)
  deriving DecidableEq, Repr

/-- A token and the units it was read from. -/
structure Lexeme (α : Type) where
  token : Token α
  source : List α
  deriving DecidableEq, Repr

variable {α : Type} [DecidableEq α] [TextUnit α]

namespace Token

/-- A token as it is written. -/
def render : Token α → List α
  | text content => content
  | start content => ascii "<" ++ content ++ ascii ">"
  | empty content => ascii "<" ++ content ++ ascii "/>"
  | stop name => ascii "</" ++ name ++ ascii ">"
  | comment content => ascii "<!--" ++ content ++ ascii "-->"
  | cdata content => ascii "<![CDATA[" ++ content ++ ascii "]]>"
  | instruction content => ascii "<?" ++ content ++ ascii "?>"
  | doctype content => ascii "<!DOCTYPE " ++ content ++ ascii ">"

end Token

/-- The name that a tag begins with. -/
def tagName (content : List α) : List α := content.takeWhile (!isSpace ·)

/-- What a tag holds behind its name. -/
def tagRest (content : List α) : List α := content.dropWhile (!isSpace ·)

end SoapBindings.Markup
