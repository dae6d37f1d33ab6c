/-
# `SoapBindings.Emission.Bound` — how deep the expansion of a document can go

Expanding a definition leads to the definitions that it refers to.  No group is expanded inside
itself, no anonymous type is declared twice, and no base inside itself, so the depth is bounded by a
power of the weight of the document: the number of its definitions, parts and references.
-/
import SoapBindings.Document.Basic

namespace SoapBindings

namespace Xsd

mutual

def Element.weight : Element → Nat
  | { complexType, .. } =>
    1 + match complexType with
      | some type => type.weight
      | none => 0

def Derivation.weight : Derivation → Nat
  | { elements, groups, attributes, attributeGroups, .. } =>
    1 + listWeight elements + groups.length + attributes.length + attributeGroups.length

def ComplexType.weight : ComplexType → Nat
  | { sequence, choice, all, groups, complexContent, simpleContent, attributes,
      attributeGroups, .. } =>
    1 + listWeight sequence + listWeight choice + listWeight all + groups.length +
      attributes.length + attributeGroups.length +
      (match complexContent with
        | some derivation => derivation.weight
        | none => 0) +
      match simpleContent with
        | some derivation => derivation.weight
        | none => 0

def listWeight : List Element → Nat
  | [] => 0
  | e :: es => e.weight + listWeight es

end

def total (weights : List Nat) : Nat := weights.foldr (· + ·) 0

def Group.weight (g : Group) : Nat := 1 + listWeight g.elements + g.groups.length

def AttributeGroup.weight (g : AttributeGroup) : Nat :=
  1 + g.attributes.length + g.attributeGroups.length

def Schema.weight (s : Schema) : Nat :=
  1 + listWeight s.elements + total (s.complexTypes.map (·.weight)) + s.simpleTypes.length +
    total (s.groups.map (·.weight)) + total (s.attributeGroups.map (·.weight))

end Xsd

namespace Document

def weight (d : Document) : Nat := Xsd.total (d.schemas.map (·.weight))

/-- A depth that no expansion reaches. -/
def expansionBound (d : Document) : Nat :=
  let n := d.weight + 2
  8 * (n * n * n * n)

end Document

end SoapBindings
