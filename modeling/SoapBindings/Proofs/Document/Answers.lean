/-
# `SoapBindings.Proofs.Document.Answers` — loading from a store that only answers

A store may answer from a state that it leaves alone, as a tree of files does while nothing is
written.  Loading from it changes nothing either, and what is loaded is what the answers of the
state lead to.  The two loadings make the same steps, one of them with the state passed along, so
this is shown step by step as for any two runs of one program.
-/
import SoapBindings.Document.Store

namespace SoapBindings.Document

open Wsdl Xsd

variable {σ : Type}

/-- A store that answers from a state. -/
def Store.answering (store : σ → Store Id) : Store (StateM σ) where
  canonicalPath? path := return (store (← get)).canonicalPath? path
  fileAt? path := return (store (← get)).fileAt? path
  download? url := return (store (← get)).download? url

/-- In the state, one step gives what the other one does, and the state stays. -/
def Answers {α : Type} (s : σ) (x : ExceptT LoadError (StateM σ) α) (y : ExceptT LoadError Id α) :
    Prop :=
  x.run.run s = (y.run, s)

namespace Answers

variable {α β : Type} {s : σ}

theorem pure (a : α) : Answers s (Pure.pure a) (Pure.pure a) := rfl

theorem throw (e : LoadError) :
    Answers s (throwThe LoadError e : ExceptT LoadError (StateM σ) α) (throwThe LoadError e) := rfl

theorem bind {x : ExceptT LoadError (StateM σ) α} {y : ExceptT LoadError Id α}
    {f : α → ExceptT LoadError (StateM σ) β} {g : α → ExceptT LoadError Id β} (h : Answers s x y)
    (hf : ∀ a, Answers s (f a) (g a)) : Answers s (x >>= f) (y >>= g) := by
  have hrun : (x >>= f).run.run s = (ExceptT.bindCont f (x.run.run s).1).run (x.run.run s).2 := rfl
  have hrun' : (y >>= g).run = ExceptT.bindCont g y.run := rfl
  rw [Answers, hrun, hrun', h]
  cases y.run with
  | error e => rfl
  | ok a => exact hf a

theorem settle (x : Except LoadError α) : Answers s (Document.settle x) (Document.settle x) := by
  cases x with
  | ok a => exact .pure a
  | error e => exact .throw e

theorem foldlM {f : β → α → ExceptT LoadError (StateM σ) β} {g : β → α → ExceptT LoadError Id β}
    (h : ∀ b a, Answers s (f b a) (g b a)) (items : List α) (b : β) :
    Answers s (items.foldlM f b) (items.foldlM g b) := by
  induction items generalizing b with
  | nil => exact .pure b
  | cons item items ih =>
      rw [List.foldlM_cons, List.foldlM_cons]
      exact (h b item).bind fun b => ih b

end Answers

section Loading

variable {s : σ} {fetch : Url → ExceptT LoadError (StateM σ) Source}
  {fetch' : Url → ExceptT LoadError Id Source} (hfetch : ∀ url, Answers s (fetch url) (fetch' url))
include hfetch

theorem fetchDefinitions_answers (url : Url) :
    Answers s (fetchDefinitions fetch url) (fetchDefinitions fetch' url) := by
  unfold fetchDefinitions
  refine (hfetch url).bind fun source => (Answers.settle _).bind fun parsed => ?_
  cases parsed with
  | definitions d => exact .pure _
  | schema s => exact .throw _

theorem followImport_answers {maxDepth : Nat}
    {deeper : Option (Definitions → Option Url → List Url →
      ExceptT LoadError (StateM σ) (Definitions × List Url))}
    {deeper' : Option (Definitions → Option Url → List Url →
      ExceptT LoadError Id (Definitions × List Url))}
    (hdeeper : Option.Rel (fun f g => ∀ d base seen, Answers s (f d base seen) (g d base seen))
      deeper deeper')
    (base : Option Url) (merged : Definitions × List Url) (found : Wsdl.Import) :
    Answers s (followImport fetch maxDepth deeper base merged found)
      (followImport fetch' maxDepth deeper' base merged found) := by
  unfold followImport
  refine (Answers.settle _).bind fun url => ?_
  dsimp only
  split
  · exact .pure _
  · cases hdeeper with
    | none => exact .throw _
    | some hdeeper =>
        exact (fetchDefinitions_answers hfetch url).bind fun d =>
          (hdeeper d _ _).bind fun imported => .pure _

theorem mergeImports_answers (maxDepth levels : Nat) (d : Definitions) (base : Option Url)
    (seen : List Url) :
    Answers s (mergeImports fetch maxDepth levels d base seen)
      (mergeImports fetch' maxDepth levels d base seen) := by
  induction levels generalizing d base seen with
  | zero =>
      unfold mergeImports
      exact .foldlM (fun merged found => followImport_answers hfetch .none base merged found) _ _
  | succ levels ih =>
      unfold mergeImports
      exact .foldlM (fun merged found =>
        followImport_answers hfetch (.some fun d base seen => ih d base seen) base merged found) _ _

theorem fetchSchema_answers (identifier : String) (url : Url) :
    Answers s (fetchSchema fetch identifier url) (fetchSchema fetch' identifier url) := by
  unfold fetchSchema
  refine (hfetch url).bind fun source => (Answers.settle _).bind fun parsed => ?_
  cases parsed with
  | schema s => exact .pure _
  | definitions d => exact .throw _

theorem followReference_answers {maxDepth : Nat}
    {deeper : Option (List String → Option Url → String → Discovery →
      ExceptT LoadError (StateM σ) Discovery)}
    {deeper' : Option (List String → Option Url → String → Discovery →
      ExceptT LoadError Id Discovery)}
    (hdeeper : Option.Rel (fun f g => ∀ locations base referrer found,
      Answers s (f locations base referrer found) (g locations base referrer found)) deeper deeper')
    (base : Option Url) (referrer : String) (found : Discovery) (location : String) :
    Answers s (followReference fetch maxDepth deeper base referrer found location)
      (followReference fetch' maxDepth deeper' base referrer found location) := by
  unfold followReference
  dsimp only
  split
  · exact .pure _
  · cases hdeeper with
    | none => exact .throw _
    | some hdeeper =>
        exact (Answers.settle _).bind fun url =>
          (fetchSchema_answers hfetch _ url).bind fun schema => hdeeper ..

theorem followReferences_answers (maxDepth levels : Nat) (locations : List String)
    (base : Option Url) (referrer : String) (found : Discovery) :
    Answers s (followReferences fetch maxDepth levels locations base referrer found)
      (followReferences fetch' maxDepth levels locations base referrer found) := by
  induction levels generalizing locations base referrer found with
  | zero =>
      unfold followReferences
      exact .foldlM (fun found location =>
        followReference_answers hfetch .none base referrer found location) _ _
  | succ levels ih =>
      unfold followReferences
      exact .foldlM (fun found location =>
        followReference_answers hfetch (.some ih) base referrer found location) _ _

theorem loadSource_answers (maxDepth : Nat) (source : Source) (base : Option Url)
    (kind : DocumentKind) :
    Answers s (loadSource fetch maxDepth source base kind)
      (loadSource fetch' maxDepth source base kind) := by
  unfold loadSource
  refine (Answers.settle _).bind fun root => ?_
  refine (mergeImports_answers hfetch ..).bind fun merged => ?_
  refine Answers.bind (.foldlM (fun found schema => ?_) _ _) fun found => .pure _
  exact followReferences_answers hfetch ..

end Loading

section Store

variable (store : σ → Store Id) (s : σ)

/-- A single answer. -/
theorem Answers.lift {α : Type} (answer : Store Id → Id α) :
    Answers s (ExceptT.lift (do return answer (store (← get)))) (ExceptT.lift (answer (store s))) :=
  rfl

theorem fetch_answers (url : Url) :
    Answers s ((Store.answering store).fetch url) ((store s).fetch url) := by
  unfold Store.fetch
  split
  case h_1 =>
    split
    · exact .throw _
    · dsimp only
      split
      · exact .throw _
      · refine Answers.bind (.lift store s (·.fileAt? _)) fun source? => ?_
        cases source? with
        | none => exact .throw _
        | some source => exact .pure _
  case h_4 => exact .throw _
  -- Under both schemes of the web the document is asked for alike.
  all_goals
    refine Answers.bind (.lift store s (·.download? url)) fun source? => ?_
    cases source? with
    | none => exact .throw _
    | some source => exact .pure _

/-- **Loading from a store that only answers leaves its state alone**, and what it gives is
determined by what the state answers. -/
theorem load_answers (maxDepth : Nat) (location : String) (kind : DocumentKind) :
    Answers s ((Store.answering store).load maxDepth location kind)
      ((store s).load maxDepth location kind) := by
  unfold Store.load
  refine Answers.bind (.lift store s (·.canonicalPath? location)) fun path? => ?_
  refine Answers.bind rfl fun url => ?_
  unfold loadUrl
  exact (fetch_answers store s url).bind fun source =>
    loadSource_answers (fetch_answers store s) ..

end Store

end SoapBindings.Document
