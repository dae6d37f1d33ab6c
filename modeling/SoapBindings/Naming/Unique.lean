/-
# `SoapBindings.Naming.Unique` — names that are unique in a scope

A name that is taken is numbered, from 2 upwards, until it is free.  Among as many numbered forms as
there are names in the scope one is free, since the name itself takes up one of the names.
-/

namespace SoapBindings.Naming

/-- The first forms of a name with a number behind it. -/
def numbered (base : String) (count : Nat) : List String :=
  (List.range count).map fun i => base ++ toString (i + 2)

/-- The name itself, or its first numbered form that is not used. -/
def unique (used : List String) (base : String) : String :=
  if used.contains base then
    ((numbered base used.length).find? fun name => !used.contains name).getD base
  else base

end SoapBindings.Naming
