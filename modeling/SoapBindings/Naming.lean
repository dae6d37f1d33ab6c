/-
# `SoapBindings.Naming` — names of generated code

Names in a schema are free text; names in generated code are identifiers.  Type names drop
everything but letters and digits, so `My_Type` and `MyType` meet in `MyType`; fields, methods,
modules and constants break a name into words at the places where its case changes.  A name that
would be a reserved word is changed, and `isIdentifier` says which texts may stand in code at all.
-/
import SoapBindings.Text.Alphanumeric
import SoapBindings.Text.CaseMap
import SoapBindings.Text.IdentifierChars
import SoapBindings.Text.Lowercase

namespace SoapBindings.Naming

open Text

/-- The words that generated code may not use as names. -/
def reservedWords : List String :=
  ["Self", "abstract", "as", "async", "await", "become", "box", "break", "const", "continue",
    "crate", "do", "dyn", "else", "enum", "extern", "false", "final", "fn", "for", "if", "impl",
    "in", "let", "loop", "macro", "match", "mod", "move", "mut", "override", "priv", "pub",
    "ref", "return", "self", "static", "struct", "super", "trait", "true", "try", "type",
    "typeof", "union", "unsafe", "unsized", "use", "virtual", "where", "while", "yield"]

def isReserved (name : String) : Bool := reservedWords.contains name

/-- A text that may stand in code as a name.  Reserved words pass here: they are kept out where the
names are made. -/
def isIdentifier (name : String) : Bool :=
  match name.toList with
  | [] => false
  | c :: rest => (c == '_' || isIdentifierStart c) && rest.all isIdentifierContinue

/-! ## References -/

/-- The part of a reference behind its last colon, that is without its namespace. -/
def localName (name : String) : String :=
  String.ofList (name.toList.reverse.takeWhile (· != ':')).reverse

/-! ## Types -/

/-- The letters and digits of a name. -/
def letters (name : List Char) : List Char := name.filter isAlphanumeric

/-- The first character in upper case, the others as they are. -/
def capitalize : List Char → List Char
  | [] => []
  | c :: rest => uppercase c ++ rest

/-- The name of a type.  A name whose letters and digits spell a reserved word gains `Value`, then
all but letters and digits is dropped and the first of them is capitalized. -/
def typeName (name : String) : String :=
  let kept := letters name.toList
  let kept := if isReserved (String.ofList kept) then kept ++ letters "Value".toList else kept
  String.ofList (capitalize kept)

/-- How a type name is written: an empty one as `Value`, one that begins with a digit behind an
underscore. -/
def typeIdentifier (name : String) : String :=
  match name.toList with
  | [] => "Value"
  | c :: _ => if c.isDigit then "_" ++ name else name

/-! ## Words -/

/-- The character at a place of the name, where a place outside it counts as a capital. -/
def letterAt (name : List Char) (i : Nat) : Char := name[i]?.getD 'A'

/-- A word may begin at offset `i` inside a run of letters if a neighbour is a small letter.
Offsets count octets while places count characters, so past the first letter outside ASCII the
neighbours looked at stand further on. -/
def borders (name : List Char) (i : Nat) : Bool :=
  isLowercase (letterAt name (i + 1)) || isLowercase (letterAt name (i - 1))

/-- Join the words of `name` by underscores, each letter as `convert` gives it.  `i` is the offset
of the next character in octets and `fresh` says that a word begins there anyway. -/
def joinWords (convert : Char → Char) (name : List Char) :
    Nat → Bool → List Char → List Char
  | _, _, [] => []
  | i, fresh, c :: rest =>
    let next := i + c.utf8Size
    if !isAlphanumeric c then
      if fresh then joinWords convert name next true rest
      else '_' :: joinWords convert name next true rest
    else if !fresh && c == c.toUpper && borders name i then
      '_' :: convert c :: joinWords convert name next false rest
    else convert c :: joinWords convert name next false rest

/-- The words of a name, joined by underscores. -/
def separateWords (convert : Char → Char) (name : String) : String :=
  let cs := name.toList
  let kept := (cs.reverse.dropWhile (!isAlphanumeric ·)).reverse
  String.ofList (joinWords convert cs 0 true kept)

/-- The words of a name in small letters, as a name of its own: a first digit goes behind an
underscore and a reserved word before one.  Nothing is left of a name without letters and digits. -/
def snakeName (name : String) : String :=
  let snake := (separateWords Char.toLower name).toList.filter
    fun c => isAlphanumeric c || c == '_'
  if !snake.any isAlphanumeric then ""
  else
    let snake := match snake with
      | c :: _ => if c.isDigit then '_' :: snake else snake
      | [] => []
    if isReserved (String.ofList snake) then String.ofList (snake ++ ['_'])
    else String.ofList snake

/-- The name of a field or a method. -/
def fieldName (name : String) : String :=
  let snake := snakeName name
  if snake.isEmpty then "value" else snake

/-- The name of the module that holds a package. -/
def moduleName (package : String) : String :=
  let snake := snakeName package
  if snake.isEmpty then "schema" else snake

/-- The name of a constant. -/
def constantName (name : String) : String := separateWords Char.toUpper name

end SoapBindings.Naming
