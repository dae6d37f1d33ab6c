/-
# `SoapBindings.Proofs.Document.Session` — loading, with all requests on record

What a store answers may depend on everything it was asked before: files change, servers count.  So
a store is no more than its answer to a request after a history of requests, and loading from it is
a session, which keeps the history also where it fails.
-/
import SoapBindings.Document.Loading

namespace SoapBindings.Document

/-- What a store answers to a request, after a history of requests. -/
abbrev Web := List Url → Url → Except LoadError Source

/-- Loading with the requests so far as state. -/
abbrev Session := ExceptT LoadError (StateM (List Url))

/-- The outcome of a session after a history, and the history then. -/
def Session.after {α : Type} (x : Session α) (history : List Url) :
    Except LoadError α × List Url :=
  StateT.run (ExceptT.run x) history

/-- Ask for the document at a URL. -/
def Web.request (web : Web) (url : Url) : Session Source :=
  ExceptT.mk fun history => (web history url, history ++ [url])

namespace Session

variable {α β : Type}

theorem settle_ok (a : α) : (settle (.ok a) : Session α) = pure a := rfl

@[simp] theorem after_pure (a : α) (history : List Url) :
    (pure a : Session α).after history = (.ok a, history) := rfl

@[simp] theorem after_throw (e : LoadError) (history : List Url) :
    (throw e : Session α).after history = (.error e, history) := rfl

@[simp] theorem after_request (web : Web) (url : Url) (history : List Url) :
    (web.request url).after history = (web history url, history ++ [url]) := rfl

@[simp] theorem after_settle (x : Except LoadError α) (history : List Url) :
    (settle x : Session α).after history = (x, history) := by
  cases x <;> rfl

theorem after_bind (x : Session α) (f : α → Session β) (history : List Url) :
    (x >>= f).after history =
      match x.after history with
      | (.ok a, history') => (f a).after history'
      | (.error e, history') => (.error e, history') := by
  show ExceptT.bindCont f (x.after history).1 (x.after history).2 = _
  obtain ⟨answer, history'⟩ := x.after history
  cases answer <;> rfl

/-- What comes second, where the first succeeds. -/
theorem after_bind_ok {x : Session α} {f : α → Session β} {a : α} {history history' : List Url}
    (h : x.after history = (.ok a, history')) : (x >>= f).after history = (f a).after history' := by
  rw [after_bind, h]

theorem after_bind_error {x : Session α} {f : α → Session β} {e : LoadError}
    {history history' : List Url} (h : x.after history = (.error e, history')) :
    (x >>= f).after history = (.error e, history') := by
  rw [after_bind, h]

/-- A session that succeeds has succeeded in its first part. -/
theorem of_bind_ok {x : Session α} {f : α → Session β} {b : β} {history history'' : List Url}
    (h : (x >>= f).after history = (.ok b, history'')) :
    ∃ a history', x.after history = (.ok a, history') ∧
      (f a).after history' = (.ok b, history'') := by
  rw [after_bind] at h
  cases hx : x.after history with
  | mk answer history' =>
      rw [hx] at h
      cases answer with
      | ok a => exact ⟨a, history', rfl, h⟩
      | error e => cases h

end Session

end SoapBindings.Document
