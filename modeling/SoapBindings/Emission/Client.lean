/-
# `SoapBindings.Emission.Client` — the clients of services

Every port type becomes a client and every operation of it a method.  The action of an operation
stands in a binding of the port type, and the address of the service in a port with the port type's
name.  A message is known by its first part.
-/
import SoapBindings.Emission.Schema

namespace SoapBindings

namespace Wsdl.Definitions

/-- The location of the first port that is named after the port type. -/
def address (d : Definitions) (portType : String) : String :=
  (((d.services.flatMap (·.ports)).find? (·.name == portType)).bind (·.location)).getD ""

/-- The action of an operation in the bindings of its port type. -/
def action (d : Definitions) (portType operation : String) : String :=
  let bindings := d.bindings.filter fun b => Naming.localName b.type == portType
  (((bindings.flatMap (·.operations)).find? (·.name == operation)).bind (·.action)).getD ""

def firstPart? (d : Definitions) (message : String) : Option Part :=
  (d.message? (Naming.localName message)).bind (·.parts.head?)

end Wsdl.Definitions

namespace Emission

open Wsdl

/-- The method of an operation.  The faults that the operation may answer with are documented. -/
def method (r : Resolver) (d : Definitions) (portType : String) (ident : String)
    (o : Operation) : Emitter Code.Method := do
  let targetNamespace := d.targetNamespace.getD ""
  let faults := o.faults.map fun f => Naming.localName f.message
  let input ← match o.input.bind d.firstPart? with
    | some part => pure (some (← messagePart r part targetNamespace))
    | none => pure none
  let output ← match o.output.bind d.firstPart? with
    | some part => pure (some (← messagePart r part targetNamespace).type)
    | none => pure none
  return {
    ident, input, output
    documentation := o.documentation.toList ++
      if faults.isEmpty then [] else ["Faults: " ++ ", ".intercalate faults]
    action := d.action portType o.name }

/-- Names for the methods of a client, none of which is the name of its constructor. -/
def methodNames (operations : List Operation) : List String :=
  (operations.foldl (fun used o => used ++ [Naming.unique used (Naming.fieldName o.name)])
    ["new"]).tail

def client (r : Resolver) (d : Definitions) (p : PortType) : Emitter Code.Client := do
  let methods ← ((methodNames p.operations).zip p.operations).mapM fun (ident, o) =>
    method r d p.name ident o
  return {
    name := Naming.typeName p.name
    documentation := p.documentation
    address := d.address p.name
    methods }

end Emission

end SoapBindings
