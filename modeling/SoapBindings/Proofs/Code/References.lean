/-
# `SoapBindings.Proofs.Code.References` — the types that code is written with

A declaration is written with the types of its fields, a client with those of its requests and
answers.  `references` lists them for a module.  The list is no abstraction of the code: a type in
it that belongs to another package stands in the text of the module, behind the name of its own.
-/
import SoapBindings.Code.Tokens

namespace SoapBindings

/-- A type of another package. -/
def TypeRef.isForeign : TypeRef → Bool
  | foreign _ _ _ => true
  | _ => false

namespace Code

/-! ## Types in code -/

def Declaration.types : Declaration → List TypeRef
  | .synonym a => [a.target]
  | .record r => r.fields.map (·.content.type)

def Method.types (m : Method) : List TypeRef := m.input.toList.map (·.type) ++ m.output.toList

def Client.types (c : Client) : List TypeRef := c.methods.flatMap (·.types)

/-- The types that a module is written with. -/
def Body.references : Body → List TypeRef
  | .types ds => ds.flatMap (·.types)
  | .clients cs => cs.flatMap (·.types)

/-! ## Their text -/

theorem infix_flatMap {α : Type} {items : List α} {item : α} (h : item ∈ items)
    (tokens : α → Tokens) : tokens item <:+: items.flatMap tokens := by
  obtain ⟨before, after, rfl⟩ := List.append_of_mem h
  rw [List.flatMap_append, List.flatMap_cons, ← List.append_assoc]
  exact List.infix_append ..

theorem infix_between {tokens inner before after : Tokens} (h : tokens <:+: inner) :
    tokens <:+: before ++ inner ++ after :=
  h.trans (List.infix_append before inner after)

theorem infix_fieldType {content : Content} (h : content.type.isForeign) :
    content.type.tokens <:+: content.fieldType := by
  cases content with
  | elements name type => exact List.infix_append ..
  | element name type | attr name type =>
      refine infix_between ?_
      split
      · exact List.infix_append ..
      · exact List.infix_rfl
  | text type => exact List.infix_rfl
  | wildcard => cases h

theorem infix_field {f : Field} (h : f.content.type.isForeign) :
    f.content.type.tokens <:+: f.tokens := infix_between (infix_fieldType h)

theorem infix_declaration {declaration : Declaration} {t : TypeRef} (ht : t ∈ declaration.types)
    (h : t.isForeign) : t.tokens <:+: declaration.tokens := by
  cases declaration with
  | synonym a =>
      rw [List.mem_singleton.mp ht]
      exact List.infix_append_of_infix_left (List.infix_append ..)
  | record r =>
      obtain ⟨f, hf, rfl⟩ := List.mem_map.mp ht
      exact infix_between ((infix_field h).trans (infix_flatMap hf Field.tokens))

theorem infix_parameters {m : Method} {request : Request} (h : m.input = some request) :
    request.type.tokens <:+: m.parameters := by
  unfold Method.parameters
  rw [h]
  have hrequest : request.type.tokens <:+: ["request : &"] ++ request.type.tokens ++ [","] :=
    List.infix_append ..
  iterate 5 apply List.infix_append_of_infix_left
  exact List.infix_append_of_infix_right hrequest

theorem infix_method {m : Method} {t : TypeRef} (ht : t ∈ m.types) : t.tokens <:+: m.tokens := by
  unfold Method.tokens
  obtain ht | ht := List.mem_append.mp ht
  · obtain ⟨request, hrequest, rfl⟩ := List.mem_map.mp ht
    refine List.infix_append_of_infix_left (List.infix_append_of_infix_left ?_)
    exact List.infix_append_of_infix_right (infix_parameters (Option.mem_toList.mp hrequest))
  · rw [Option.mem_toList.mp ht]
    apply List.infix_append_of_infix_right
    iterate 6 apply List.infix_append_of_infix_left
    exact List.infix_append_of_infix_right (List.infix_append ..)

theorem infix_client {c : Client} {t : TypeRef} (ht : t ∈ c.types) : t.tokens <:+: c.tokens := by
  obtain ⟨m, hm, ht⟩ := List.mem_flatMap.mp ht
  exact infix_between ((infix_method ht).trans (infix_flatMap hm Method.tokens))

/-- A type of another package that a module is written with stands in its text. -/
theorem infix_body {body : Body} {t : TypeRef} (ht : t ∈ body.references) (h : t.isForeign) :
    t.tokens <:+: body.tokens := by
  cases body with
  | types ds =>
      obtain ⟨declaration, hmem, ht⟩ := List.mem_flatMap.mp ht
      exact (infix_declaration ht h).trans (infix_flatMap hmem Declaration.tokens)
  | clients cs =>
      obtain ⟨c, hmem, ht⟩ := List.mem_flatMap.mp ht
      exact (infix_client ht).trans (infix_flatMap hmem Client.tokens)

/-- A module says of every package in use that it uses it. -/
theorem infix_header {m : SourceModule} {package : String} (h : package ∈ m.imports) :
    ["use super ::", Naming.moduleName package, ";"] <:+: m.header := by
  have huse := infix_flatMap h fun package => ["use super ::", Naming.moduleName package, ";"]
  exact huse.trans (List.suffix_append ..).isInfix

end Code

end SoapBindings
