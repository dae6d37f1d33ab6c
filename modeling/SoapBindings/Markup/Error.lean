/-
# `SoapBindings.Markup.Error` — why a document is not well-formed
-/
namespace SoapBindings.Markup

/-- Why reading markup stops. -/
inductive MarkupError where
  /-- The text ends inside a tag. -/
  | unclosedTag
  /-- The text ends inside a comment, a marked section or a document type, or what begins like one
  of them is none. -/
  | badDeclaration
  /-- An instruction does not end in a question mark. -/
  | unclosedInstruction
  /-- A document type has nothing in it. -/
  | emptyDoctype
  /-- An end tag does not name the element that is open. -/
  | mismatchedEnd
  /-- The text ends before the element does. -/
  | unclosedElement
  /-- An ampersand does not begin a reference that stands for a character. -/
  | badReference
  /-- Something inside a tag is no attribute, or stands there twice. -/
  | badAttribute
  /-- A text is not UTF-8. -/
  | undecodable
  deriving DecidableEq, Repr

end SoapBindings.Markup
