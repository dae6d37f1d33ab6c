/-
# `SoapBindings.Xsd` — schemas

What a schema document declares, as far as generated code depends on it.  References keep their
prefix as written, and occurrence bounds their text: what they mean is for their readers to say.
-/
import SoapBindings.Decimal.Integer
import SoapBindings.Text.Blank
import SoapBindings.Url.Basic

namespace SoapBindings.Xsd

/-! ## Simple types -/

structure Enumeration where
  value : String
  documentation : Option String := none

/-- A bound on the values of a restriction other than an enumeration, such as `pattern`. -/
structure Facet where
  kind : String
  value : String

structure Restriction where
  base : Option String := none
  enumerations : List Enumeration := []
  facets : List Facet := []

mutual

structure SimpleType where
  name : Option String := none
  documentation : Option String := none
  restriction : Option Restriction := none
  union : Option UnionType := none
  /-- The item type of a list. -/
  list : Option String := none

structure UnionType where
  memberTypes : List String := []
  simpleTypes : List SimpleType := []

end

instance : Inhabited SimpleType := ⟨{}⟩

/-! ## Attributes -/

structure Attribute where
  name : Option String := none
  ref : Option String := none
  type : Option String := none
  required : Bool := false
  default : Option String := none
  documentation : Option String := none
  simpleType : Option SimpleType := none

/-- A named set of attributes, or a reference to one. -/
structure AttributeGroup where
  name : Option String := none
  ref : Option String := none
  documentation : Option String := none
  attributes : List Attribute := []
  attributeGroups : List String := []

/-! ## Elements and complex types -/

/-- A place where any element may stand. -/
structure Wildcard where
  namespaces : Option String := none
  maxOccurs : Option String := none

inductive CompositorKind where
  | sequence
  | choice
  | all
  deriving DecidableEq

inductive DerivationKind where
  | extension
  | restriction
  deriving DecidableEq

mutual

structure Element where
  name : Option String := none
  ref : Option String := none
  type : Option String := none
  minOccurs : Option String := none
  maxOccurs : Option String := none
  nillable : Bool := false
  documentation : Option String := none
  complexType : Option ComplexType := none
  simpleType : Option SimpleType := none

/-- What a complex type adds to its base, or keeps of it. -/
structure Derivation where
  kind : DerivationKind
  base : Option String := none
  elements : List Element := []
  wildcards : List Wildcard := []
  groups : List String := []
  attributes : List Attribute := []
  attributeGroups : List String := []

structure ComplexType where
  name : Option String := none
  documentation : Option String := none
  isAbstract : Bool := false
  mixed : Bool := false
  sequence : List Element := []
  choice : List Element := []
  all : List Element := []
  wildcards : List Wildcard := []
  groups : List String := []
  complexContent : Option Derivation := none
  simpleContent : Option Derivation := none
  attributes : List Attribute := []
  attributeGroups : List String := []

end

instance : Inhabited Element := ⟨{}⟩

instance : Inhabited ComplexType := ⟨{}⟩

/-- A named group of elements, or a reference to one. -/
structure Group where
  name : Option String := none
  ref : Option String := none
  documentation : Option String := none
  elements : List Element := []
  groups : List String := []

/-! ## Schemas -/

structure Import where
  ofNamespace : Option String := none
  schemaLocation : Option String := none

structure Schema where
  /-- The package that the schema's definitions go into. -/
  identifier : String := ""
  location : Option Url := none
  targetNamespace : Option String := none
  elementFormDefault : Option String := none
  imports : List Import := []
  includes : List String := []
  elements : List Element := []
  complexTypes : List ComplexType := []
  simpleTypes : List SimpleType := []
  attributeGroups : List AttributeGroup := []
  groups : List Group := []

instance : Inhabited Schema := ⟨{}⟩

/-- The locations of the schemas that this one refers to, imports first.  An import that only names
a namespace leads nowhere. -/
def Schema.references (schema : Schema) : List String :=
  schema.imports.filterMap (·.schemaLocation) ++ schema.includes

/-- An upper bound that admits more than one occurrence: `unbounded`, or a number above one. -/
def repeats (maxOccurs : Option String) : Bool :=
  match maxOccurs with
  | none => false
  | some bound =>
    bound == "unbounded" ||
      match Decimal.readNatural? (Text.trim bound) with
      | some n => 1 < n && n < Decimal.twoTo 64
      | none => false

end SoapBindings.Xsd
