/-
# `SoapBindings.Markup.Namespace` — declaring a default namespace

A declaration goes into the first tag of a text, and only if that has none.  Everything else is
written as it was read.
-/
import SoapBindings.Markup.Attribute
import SoapBindings.Markup.Escape
import SoapBindings.Markup.Scan

namespace SoapBindings.Markup

/-- The tag declares a default namespace.  What is no attribute in it is passed over. -/
def declaresNamespace (tag : List Char) : Bool :=
  (attributes tag).any fun
    | .ok a => a.key = "xmlns".toList
    | .error _ => false

/-- The tag with a default namespace. -/
def addNamespace (uri : List Char) (tag : List Char) : List Char :=
  if declaresNamespace tag then tag
  else tag ++ " xmlns=\"".toList ++ escape uri ++ ['"']

/-- Declare a default namespace in the first tag that begins an element. -/
def declareIn (uri : List Char) : List (Token Char) → List (Token Char)
  | [] => []
  | .start tag :: rest => .start (addNamespace uri tag) :: rest
  | .empty tag :: rest => .empty (addNamespace uri tag) :: rest
  | token :: rest => token :: declareIn uri rest

/-- A text with a default namespace declared in its root, unless it is not well-formed. -/
def withNamespace (uri cs : List Char) : Except MarkupError (List Char) :=
  let s := scan cs
  match s.fault with
  | some error => .error error
  | none => .ok ((declareIn uri (s.lexemes.map (·.token))).flatMap Token.render)

end SoapBindings.Markup
