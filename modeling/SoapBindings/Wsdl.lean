/-
# `SoapBindings.Wsdl` — service descriptions

What a service description declares: messages, the operations that exchange them, how they are
bound to a transport and where they are served.
-/
import SoapBindings.Xsd

namespace SoapBindings.Wsdl

structure Import where
  ofNamespace : Option String := none
  location : String

structure Part where
  name : String
  element : Option String := none
  type : Option String := none

structure Message where
  name : String
  parts : List Part := []

structure Fault where
  name : Option String := none
  message : String

structure Operation where
  name : String
  documentation : Option String := none
  input : Option String := none
  output : Option String := none
  faults : List Fault := []

structure PortType where
  name : String
  documentation : Option String := none
  operations : List Operation := []

structure BindingOperation where
  name : String
  action : Option String := none
  style : Option String := none

structure Binding where
  name : String
  type : String
  style : Option String := none
  transport : Option String := none
  operations : List BindingOperation := []

structure Port where
  name : String
  binding : String
  location : Option String := none

structure Service where
  name : String
  documentation : Option String := none
  ports : List Port := []

structure Definitions where
  name : Option String := none
  targetNamespace : Option String := none
  imports : List Import := []
  schemas : List Xsd.Schema := []
  messages : List Message := []
  portTypes : List PortType := []
  bindings : List Binding := []
  services : List Service := []

namespace Definitions

def message? (d : Definitions) (name : String) : Option Message :=
  d.messages.find? (·.name == name)

/-- Append everything that an imported document defines. -/
def merge (d imported : Definitions) : Definitions :=
  { d with
    schemas := d.schemas ++ imported.schemas
    messages := d.messages ++ imported.messages
    portTypes := d.portTypes ++ imported.portTypes
    bindings := d.bindings ++ imported.bindings
    services := d.services ++ imported.services }

end Definitions

end SoapBindings.Wsdl
