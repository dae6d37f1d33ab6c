/-
# `SoapBindings.Proofs.Document.Compositors` — what is read from compositors

No compositor lasts.  When one closes, the elements, references to groups and wildcards that it has
gathered go behind those of the element around it, so a tree of compositors comes to three lists
(`Arranges.turns`).  Whoever holds the outermost one gets these, and several of them one behind the
other (`compositors_flatten`).  Where a reference stood among the elements is not kept: a sequence
comes to two lists, however it is nested (`Spells.sequence_turns`).

`Arranges` and `Spells` say how the content of a compositor is written.  What is written inside an
element, or inside a reference to a group, is its own affair, as long as the reader gets through it.
-/
import SoapBindings.Proofs.Document.Locality
import SoapBindings.Proofs.Sequences

namespace SoapBindings

open Markup Xsd

variable {α : Type} [DecidableEq α] [TextUnit α]

namespace Markup.Passage

def tag? : Passage α → Option (List α)
  | .between _ _ => none
  | .empty tag _ | .element tag _ _ _ => some tag

/-- The passage is an element with this tag and local name. -/
structure Opens (p : Passage α) (name : String) (tag : List α) : Prop where
  tagged : p.tag? = some tag
  named : (TextUnit.decode? (localPart (tagName tag))).map String.ofList = some name

end Markup.Passage

namespace Document

open Assembly

/-- It is for the frame itself to say what its children are. -/
def Frame.opensItself : Frame → Bool
  | .definitions | .other _ => false
  | _ => true

/-- The passages put one open element in the place of another, whatever is around it. -/
def Turns (ps : List (Passage α)) (frame left : Frame) : Prop :=
  ∀ (a : Assembly) (below : List Frame), a.stack = frame :: below →
    a.readTokens ((lexemesOf ps).map (·.token)) = .ok { a with stack := left :: below }

section Turning

variable {p : Passage α} {ps qs : List (Passage α)} {frame left last : Frame}

theorem Turns.nil (frame : Frame) : Turns ([] : List (Passage α)) frame frame := by
  rintro ⟨definitions, schema, stack⟩ below rfl
  rfl

theorem Turns.append (h : Turns ps frame left) (h' : Turns qs left last) :
    Turns (ps ++ qs) frame last := by
  intro a below hstack
  rw [lexemesOf_append, List.map_append, readTokens_append, h a below hstack]
  exact h' _ below rfl

theorem Turns.cons (h : Turns [p] frame left) (h' : Turns ps left last) :
    Turns (p :: ps) frame last := h.append h'

/-- An element is opened below its parent, filled, and closed. -/
theorem Turns.element {name : String} {tag : List α} (hp : p.Opens name tag)
    {parent kept child : Frame} (hparent : parent.opensItself) (hnote : name ≠ "annotation")
    (htext : name ≠ "documentation") (hopen : parent.openChild name tag = .ok (kept, child))
    (hcontent : Turns p.content child left)
    (hclose : ∀ definitions schema below,
      closeElement ⟨definitions, schema, left :: kept :: below⟩ =
        .ok ⟨definitions, schema, kept.closeChild left :: below⟩) :
    Turns [p] parent (kept.closeChild left) := by
  intro a below hstack
  obtain ⟨characters, hname, rfl⟩ := Option.map_eq_some_iff.mp hp.named
  have hopened : a.openElement tag = .ok { a with stack := child :: kept :: below } := by
    have hother (unknown : String) : parent ≠ .other unknown := by
      rintro rfl
      cases hparent
    have hdefinitions : parent ≠ .definitions := by
      rintro rfl
      cases hparent
    have hchild := openNamed_child parent (String.ofList characters) tag hother hnote htext
      hdefinitions a below hstack
    rw [hopen] at hchild
    simp only [openElement, hname]
    exact hchild
  cases p with
  | between lexeme plain => cases hp.tagged
  | empty tag source =>
      obtain rfl := Option.some.inj hp.tagged
      have hempty := hcontent { a with stack := child :: kept :: below } (kept :: below) rfl
      simp only [lexemesOf, Passage.lexemes, List.append_nil, List.map_cons, List.map_nil,
        readTokens_singleton, readToken, hopened]
      -- Without content the child stays as it has been opened.
      obtain rfl : child = left :=
        (List.cons.inj (congrArg Assembly.stack (Except.ok.inj hempty))).1
      exact hclose a.definitions a.schema below
  | element tag opening content closing =>
      obtain rfl := Option.some.inj hp.tagged
      have hfilled : readTokens { a with stack := child :: kept :: below }
          ((lexemesOf content).map (·.token)) = .ok { a with stack := left :: kept :: below } :=
        hcontent _ (kept :: below) rfl
      have hclosed := hclose a.definitions a.schema below
      simp only [lexemesOf, Passage.lexemes, List.append_nil, List.map_cons, List.map_append,
        List.map_nil, readTokens_cons, readTokens_append, readToken, hopened]
      change (readTokens _ ((lexemesOf content).map (·.token)) >>= _) = _
      rw [hfilled]
      change (closeElement _ >>= _) = _
      rw [hclosed]
      rfl

end Turning

/-! ## What compositors hold -/

/-- What a compositor holds besides other compositors. -/
inductive Particle where
  | element (element : Element)
  | group (reference : String)
  | wildcard (wildcard : Wildcard)

namespace Particle

def element? : Particle → Option Element
  | element e => some e
  | _ => none

def reference? : Particle → Option String
  | group reference => some reference
  | _ => none

def wildcard? : Particle → Option Wildcard
  | wildcard w => some w
  | _ => none

end Particle

/-- The content of a compositor, from its first part on. -/
inductive Arrangement where
  | done
  | particle (particle : Particle) (rest : Arrangement)
  | compositor (kind : CompositorKind) (content rest : Arrangement)

/-- The particles in document order, however the compositors around them are nested. -/
def Arrangement.leaves : Arrangement → List Particle
  | done => []
  | particle p rest => p :: rest.leaves
  | compositor _ content rest => content.leaves ++ rest.leaves

namespace Particles

/-- The particles sorted, in order. -/
def of (ps : List Particle) : Particles where
  elements := ps.filterMap (·.element?)
  groups := ps.filterMap (·.reference?)
  wildcards := ps.filterMap (·.wildcard?)

theorem of_append (ps qs : List Particle) : of (ps ++ qs) = (of ps).append (of qs) := by
  simp [of, append]

theorem append_assoc (p q r : Particles) : (p.append q).append r = p.append (q.append r) := by
  simp [append]

theorem append_nothing (p : Particles) : p.append (of []) = p := by
  simp [append, of]

theorem append_element (p : Particles) (e : Element) :
    p.append (of [.element e]) = { p with elements := p.elements ++ [e] } := by
  simp [append, of, Particle.element?, Particle.reference?, Particle.wildcard?]

theorem append_group (p : Particles) (reference : String) :
    p.append (of [.group reference]) = { p with groups := p.groups ++ [reference] } := by
  simp [append, of, Particle.element?, Particle.reference?, Particle.wildcard?]

theorem append_wildcard (p : Particles) (w : Wildcard) :
    p.append (of [.wildcard w]) = { p with wildcards := p.wildcards ++ [w] } := by
  simp [append, of, Particle.element?, Particle.reference?, Particle.wildcard?]

end Particles

/-! ## Compositors as they are written -/

/-- The passage is one particle.  What is written inside it is its own affair, as long as the reader
gets through it. -/
inductive Denotes (p : Passage α) : Particle → Prop
  | element {tag : List α} {opened e : Element} : p.Opens "element" tag →
      readElement tag = .ok opened → Turns p.content (.element opened) (.element e) →
      Denotes p (.element e)
  | group {tag : List α} {opened g : Group} {reference : String} : p.Opens "group" tag →
      openGroup tag = .ok (.group opened) → Turns p.content (.group opened) (.group g) →
      g.ref = some reference → Denotes p (.group reference)
  | wildcard {tag : List α} {w : Wildcard} : p.Opens "any" tag → readWildcard tag = .ok w →
      Turns p.content (.other "any") (.other "any") → Denotes p (.wildcard w)

/-- How the content of a compositor is written.  What leaves no mark, such as white space and
annotations, may stand anywhere. -/
inductive Arranges : List (Passage α) → Arrangement → Prop
  | done : Arranges [] .done
  | aside {p : Passage α} {ps : List (Passage α)} {content : Arrangement} :
      (∀ kind found, Turns [p] (.compositor kind found) (.compositor kind found)) →
      Arranges ps content → Arranges (p :: ps) content
  | particle {p : Passage α} {ps : List (Passage α)} {particle : Particle} {rest : Arrangement} :
      Denotes p particle → Arranges ps rest → Arranges (p :: ps) (.particle particle rest)
  | compositor {p : Passage α} {ps : List (Passage α)} {name : String} {tag : List α}
      {kind : CompositorKind} {content rest : Arrangement} : p.Opens name tag →
      compositorKind? name = some kind → Arranges p.content content → Arranges ps rest →
      Arranges (p :: ps) (.compositor kind content rest)

/-- A particle goes into its list, behind what is there. -/
theorem Denotes.turns {p : Passage α} {particle : Particle} (h : Denotes p particle)
    (kind : CompositorKind) (found : Particles) : Turns [p] (.compositor kind found)
      (.compositor kind (found.append (.of [particle]))) := by
  cases h with
  | @element tag opened e hp hopen hcontent =>
      have hchild : (Frame.compositor kind found).openChild "element" tag =
          .ok (.compositor kind found, .element opened) := by
        simp only [Frame.openChild, openInCompositor, hopen]
        rfl
      rw [Particles.append_element]
      exact .element hp rfl (by decide) (by decide) hchild hcontent fun _ _ _ => rfl
  | @group tag opened g reference hp hopen hcontent href =>
      have hchild : (Frame.compositor kind found).openChild "group" tag =
          .ok (.compositor kind found, .group opened) := by
        simp only [Frame.openChild, openInCompositor, hopen]
        rfl
      have hone : Turns [p] (.compositor kind found)
          (.compositor kind { found with groups := found.groups ++ g.ref.toList }) :=
        .element hp rfl (by decide) (by decide) hchild hcontent fun _ _ _ => rfl
      rw [Particles.append_group]
      rwa [href] at hone
  | @wildcard tag w hp hread hcontent =>
      have hchild : (Frame.compositor kind found).openChild "any" tag =
          .ok (.compositor kind { found with wildcards := found.wildcards ++ [w] },
            .other "any") := by
        simp only [Frame.openChild, openInCompositor, hread]
        rfl
      rw [Particles.append_wildcard]
      exact .element hp rfl (by decide) (by decide) hchild hcontent fun _ _ _ => rfl

/-- The elements that compositors may stand in. -/
def Frame.holdsCompositors : Frame → Bool
  | .complexType _ | .derivation _ | .group _ | .compositor _ _ => true
  | _ => false

theorem mem_of_compositorKind? {name : String} {kind : CompositorKind}
    (h : compositorKind? name = some kind) :
    name = "sequence" ∨ name = "choice" ∨ name = "all" := by
  by_contra hother
  simp only [not_or, ← beq_eq_false_iff_ne] at hother
  simp [compositorKind?, List.lookup_cons, hother] at h

theorem openChild_compositor {parent : Frame} (hparent : parent.holdsCompositors) {name : String}
    {kind : CompositorKind} (hname : compositorKind? name = some kind) (tag : List α) :
    parent.openChild name tag = .ok (parent, .compositor kind {}) := by
  rcases mem_of_compositorKind? hname with rfl | rfl | rfl
  all_goals
    obtain rfl := Option.some.inj hname
    cases parent with
    | complexType _ | derivation _ | group _ | compositor _ _ => rfl
    | _ => cases hparent

/-- Whoever holds a compositor gets what that has gathered when it closes. -/
theorem Turns.compositor {p : Passage α} {name : String} {tag : List α} {kind : CompositorKind}
    {gathered : Particles} (hp : p.Opens name tag) (hname : compositorKind? name = some kind)
    (hcontent : Turns p.content (.compositor kind {}) (.compositor kind gathered)) {parent : Frame}
    (hparent : parent.holdsCompositors) :
    Turns [p] parent (parent.closeChild (.compositor kind gathered)) := by
  have hitself : parent.opensItself := by
    cases parent with
    | definitions | other _ => cases hparent
    | _ => rfl
  have hother {other : String} (h : compositorKind? other = none) : name ≠ other := by
    rintro rfl
    rw [h] at hname
    cases hname
  refine .element hp hitself (hother rfl) (hother rfl) (openChild_compositor hparent hname tag)
    hcontent fun _ _ _ => ?_
  cases parent with
  | complexType _ | derivation _ | group _ | compositor _ _ => rfl
  | _ => cases hparent

/-- **A compositor gathers the particles of all compositors in it**, in document order. -/
theorem Arranges.turns {ps : List (Passage α)} {content : Arrangement} (h : Arranges ps content)
    (kind : CompositorKind) (found : Particles) :
    Turns ps (.compositor kind found) (.compositor kind (found.append (.of content.leaves))) := by
  induction h generalizing kind found with
  | done =>
      rw [Arrangement.leaves, Particles.append_nothing]
      exact .nil _
  | aside hp _ ih => exact (hp kind found).cons (ih kind found)
  | @particle p ps particle rest hp _ ih =>
      have hleaves : (Arrangement.particle particle rest).leaves = [particle] ++ rest.leaves := rfl
      rw [hleaves, Particles.of_append, ← Particles.append_assoc]
      exact (hp.turns kind found).cons (ih kind _)
  | @compositor p ps name tag inner content rest hp hname _ _ ihContent ihRest =>
      rw [Arrangement.leaves, Particles.of_append, ← Particles.append_assoc]
      exact (Turns.compositor hp hname (ihContent inner {}) rfl).cons (ihRest kind _)

/-! ## Compositors below one parent -/

/-- How some compositors below one parent are written.  What leaves no mark on the parent may stand
between them. -/
inductive Rows : List (Passage α) → List (CompositorKind × Arrangement) → Prop
  | done : Rows [] []
  | aside {p : Passage α} {ps : List (Passage α)} {trees : List (CompositorKind × Arrangement)} :
      (∀ parent : Frame, parent.holdsCompositors → Turns [p] parent parent) →
      Rows ps trees → Rows (p :: ps) trees
  | compositor {p : Passage α} {ps : List (Passage α)} {name : String} {tag : List α}
      {kind : CompositorKind} {content : Arrangement}
      {trees : List (CompositorKind × Arrangement)} : p.Opens name tag →
      compositorKind? name = some kind → Arranges p.content content → Rows ps trees →
      Rows (p :: ps) ((kind, content) :: trees)

/-- The particles of several compositors, in document order. -/
def leavesOf (trees : List (CompositorKind × Arrangement)) : List Particle :=
  trees.flatMap (·.2.leaves)

/-- The particles of those among several compositors that are of one kind. -/
def leavesOfKind (kind : CompositorKind) (trees : List (CompositorKind × Arrangement)) :
    List Particle := leavesOf (trees.filter (·.1 = kind))

theorem leavesOf_cons (tree : CompositorKind × Arrangement)
    (trees : List (CompositorKind × Arrangement)) :
    leavesOf (tree :: trees) = tree.2.leaves ++ leavesOf trees := List.flatMap_cons ..

theorem leavesOfKind_cons (kind : CompositorKind) (tree : CompositorKind × Arrangement)
    (trees : List (CompositorKind × Arrangement)) : leavesOfKind kind (tree :: trees) =
      if tree.1 = kind then tree.2.leaves ++ leavesOfKind kind trees
      else leavesOfKind kind trees := by
  by_cases h : tree.1 = kind <;> simp [leavesOfKind, leavesOf, h]

section Rows

variable {ps : List (Passage α)} {trees : List (CompositorKind × Arrangement)}

/-- A complex type has a list of elements for each kind of compositor. -/
theorem Rows.complexType (h : Rows ps trees) (t : ComplexType) :
    Turns ps (.complexType t) (.complexType { t with
      sequence := t.sequence ++ (leavesOfKind .sequence trees).filterMap (·.element?)
      choice := t.choice ++ (leavesOfKind .choice trees).filterMap (·.element?)
      all := t.all ++ (leavesOfKind .all trees).filterMap (·.element?)
      groups := t.groups ++ (leavesOf trees).filterMap (·.reference?)
      wildcards := t.wildcards ++ (leavesOf trees).filterMap (·.wildcard?) }) := by
  induction h generalizing t with
  | done =>
      simp only [leavesOfKind, leavesOf, List.filter_nil, List.flatMap_nil, List.filterMap_nil,
        List.append_nil]
      cases t
      exact .nil _
  | aside hp _ ih => exact (hp _ rfl).cons (ih t)
  | @compositor p ps name tag kind content trees hp hname hcontent _ ih =>
      have hone := Turns.compositor hp hname (hcontent.turns kind {})
        (show (Frame.complexType t).holdsCompositors from rfl)
      simp only [leavesOfKind_cons, leavesOf_cons, List.filterMap_append, ← List.append_assoc]
      cases kind with
      | sequence | choice | all =>
          simp only [reduceCtorEq, if_true, if_false, List.filterMap_append, ← List.append_assoc]
          exact hone.cons (ih _)

/-- In a derivation, all elements go into one list. -/
theorem Rows.derivation (h : Rows ps trees) (d : Derivation) :
    Turns ps (.derivation d) (.derivation { d with
      elements := d.elements ++ (leavesOf trees).filterMap (·.element?)
      groups := d.groups ++ (leavesOf trees).filterMap (·.reference?)
      wildcards := d.wildcards ++ (leavesOf trees).filterMap (·.wildcard?) }) := by
  induction h generalizing d with
  | done =>
      simp only [leavesOf, List.flatMap_nil, List.filterMap_nil, List.append_nil]
      cases d
      exact .nil _
  | aside hp _ ih => exact (hp _ rfl).cons (ih d)
  | @compositor p ps name tag kind content trees hp hname hcontent _ ih =>
      have hone := Turns.compositor hp hname (hcontent.turns kind {})
        (show (Frame.derivation d).holdsCompositors from rfl)
      simp only [leavesOf_cons, List.filterMap_append, ← List.append_assoc]
      exact hone.cons (ih _)

/-- A group has no list for wildcards. -/
theorem Rows.group (h : Rows ps trees) (g : Group) :
    Turns ps (.group g) (.group { g with
      elements := g.elements ++ (leavesOf trees).filterMap (·.element?)
      groups := g.groups ++ (leavesOf trees).filterMap (·.reference?) }) := by
  induction h generalizing g with
  | done =>
      simp only [leavesOf, List.flatMap_nil, List.filterMap_nil, List.append_nil]
      exact .nil _
  | aside hp _ ih => exact (hp _ rfl).cons (ih g)
  | @compositor p ps name tag kind content trees hp hname hcontent _ ih =>
      have hone := Turns.compositor hp hname (hcontent.turns kind {})
        (show (Frame.group g).holdsCompositors from rfl)
      simp only [leavesOf_cons, List.filterMap_append, ← List.append_assoc]
      exact hone.cons (ih _)

end Rows

/-- **Compositors flatten without loss.**  Whatever compositors stand below one parent, however they
are nested, and whatever is mixed in them: in a complex type each list of elements gains the
elements of those that are of its kind on the outside, and the groups and wildcards gain the
references and wildcards of all of them.  In a derivation there is one list of elements, and in a
group there are no wildcards.  All of it is gained in document order, and nothing is gained
besides. -/
theorem compositors_flatten {ps : List (Passage α)} {trees : List (CompositorKind × Arrangement)}
    (h : Rows ps trees) :
    (∀ t : ComplexType, Turns ps (.complexType t) (.complexType { t with
      sequence := t.sequence ++ (leavesOfKind .sequence trees).filterMap (·.element?)
      choice := t.choice ++ (leavesOfKind .choice trees).filterMap (·.element?)
      all := t.all ++ (leavesOfKind .all trees).filterMap (·.element?)
      groups := t.groups ++ (leavesOf trees).filterMap (·.reference?)
      wildcards := t.wildcards ++ (leavesOf trees).filterMap (·.wildcard?) })) ∧
    (∀ d : Derivation, Turns ps (.derivation d) (.derivation { d with
      elements := d.elements ++ (leavesOf trees).filterMap (·.element?)
      groups := d.groups ++ (leavesOf trees).filterMap (·.reference?)
      wildcards := d.wildcards ++ (leavesOf trees).filterMap (·.wildcard?) })) ∧
    ∀ g : Group, Turns ps (.group g) (.group { g with
      elements := g.elements ++ (leavesOf trees).filterMap (·.element?)
      groups := g.groups ++ (leavesOf trees).filterMap (·.reference?) }) :=
  ⟨h.complexType, h.derivation, h.group⟩

/-- An empty element with one attribute. -/
def leaf (element key value : String) : Passage Char :=
  let tag := (element ++ " " ++ key ++ "='" ++ value ++ "'").toList
  .empty tag (Token.empty tag).render

/-- A sequence with a choice in it that holds all else, a line break, and a choice. -/
def mixedMarkup : List (Passage Char) :=
  [.tagged "s:sequence".toList [leaf "s:element" "name" "a",
      .tagged "s:choice".toList [leaf "s:any" "namespace" "##other",
        .tagged "s:all".toList [leaf "s:element" "name" "b"], leaf "s:group" "ref" "G"],
      leaf "s:element" "name" "c"],
    .between ⟨.text ['\n'], ['\n']⟩ rfl, .tagged "s:choice".toList [leaf "s:element" "name" "d"]]

theorem compositors_flatten_mixed :
    Turns mixedMarkup (.complexType { name := some "T" }) (.complexType {
      name := some "T"
      sequence := [{ name := some "a" }, { name := some "b" }, { name := some "c" }]
      choice := [{ name := some "d" }]
      groups := ["G"]
      wildcards := [{ namespaces := some "##other" }] }) ∧
    Turns mixedMarkup (.derivation { kind := .extension }) (.derivation {
      kind := .extension
      elements := [{ name := some "a" }, { name := some "b" }, { name := some "c" },
        { name := some "d" }]
      groups := ["G"]
      wildcards := [{ namespaces := some "##other" }] }) ∧
    Turns mixedMarkup (.group { name := some "H" }) (.group {
      name := some "H"
      elements := [{ name := some "a" }, { name := some "b" }, { name := some "c" },
        { name := some "d" }]
      groups := ["G"] }) := by
  have hinner : Arranges [leaf "s:any" "namespace" "##other",
      .tagged "s:all".toList [leaf "s:element" "name" "b"], leaf "s:group" "ref" "G"]
      (.particle (.wildcard { namespaces := some "##other" })
        (.compositor .all (.particle (.element { name := some "b" }) .done)
          (.particle (.group "G") .done))) :=
    .particle (.wildcard ⟨rfl, rfl⟩ rfl (.nil _))
      (.compositor ⟨rfl, rfl⟩ rfl (.particle (.element ⟨rfl, rfl⟩ rfl (.nil _)) .done)
        (.particle (.group ⟨rfl, rfl⟩ rfl (.nil _) rfl) .done))
  have hblank (parent : Frame) (_ : parent.holdsCompositors) :
      Turns [.between ⟨.text ['\n'], ['\n']⟩ rfl] parent parent := by
    rintro ⟨definitions, schema, stack⟩ below rfl
    rfl
  have hrows : Rows mixedMarkup
      [(.sequence, .particle (.element { name := some "a" }) (.compositor .choice _
        (.particle (.element { name := some "c" }) .done))),
      (.choice, .particle (.element { name := some "d" }) .done)] :=
    .compositor ⟨rfl, rfl⟩ rfl
      (.particle (.element ⟨rfl, rfl⟩ rfl (.nil _))
        (.compositor ⟨rfl, rfl⟩ rfl hinner (.particle (.element ⟨rfl, rfl⟩ rfl (.nil _)) .done)))
      (.aside hblank
        (.compositor ⟨rfl, rfl⟩ rfl (.particle (.element ⟨rfl, rfl⟩ rfl (.nil _)) .done) .done))
  obtain ⟨htype, hderivation, hgroup⟩ := compositors_flatten hrows
  exact ⟨htype _, hderivation _, hgroup _⟩

/-! ## Sequences as they are written -/

/-- How the content of a sequence is written.  What leaves no mark, such as white space and
annotations, may stand anywhere. -/
inductive Spells : List (Passage α) → Sequence Element → Prop
  | done : Spells [] .done
  | aside {p : Passage α} {ps : List (Passage α)} {s : Sequence Element} :
      (∀ kind found, Turns [p] (.compositor kind found) (.compositor kind found)) →
      Spells ps s → Spells (p :: ps) s
  | element {p : Passage α} {tag : List α} {opened e : Element} {ps : List (Passage α)}
      {rest : Sequence Element} : p.Opens "element" tag → readElement tag = .ok opened →
      Turns p.content (.element opened) (.element e) → Spells ps rest →
      Spells (p :: ps) (.element e rest)
  | sequence {p : Passage α} {tag : List α} {ps : List (Passage α)}
      {inner rest : Sequence Element} :
      p.Opens "sequence" tag → Spells p.content inner → Spells ps rest →
      Spells (p :: ps) (.sequence inner rest)
  | group {p : Passage α} {tag : List α} {opened g : Group} {reference : String}
      {ps : List (Passage α)} {content rest : Sequence Element} : p.Opens "group" tag →
      openGroup tag = .ok (.group opened) → Turns p.content (.group opened) (.group g) →
      g.ref = some reference → Spells ps rest → Spells (p :: ps) (.group reference content rest)

/-- A sequence as the reader knows it: a reference to a group has nothing in it. -/
def arrangementOf : Sequence Element → Arrangement
  | .done => .done
  | .element e rest => .particle (.element e) (arrangementOf rest)
  | .sequence inner rest => .compositor .sequence (arrangementOf inner) (arrangementOf rest)
  | .group reference _ rest => .particle (.group reference) (arrangementOf rest)

theorem Spells.arranges {ps : List (Passage α)} {s : Sequence Element} (h : Spells ps s) :
    Arranges ps (arrangementOf s) := by
  induction h with
  | done => exact .done
  | aside hp _ ih => exact .aside hp ih
  | element hp hopen hcontent _ ih => exact .particle (.element hp hopen hcontent) ih
  | sequence hp _ _ ihInner ihRest => exact .compositor hp rfl ihInner ihRest
  | group hp hopen hcontent href _ ih => exact .particle (.group hp hopen hcontent href) ih

theorem leaves_arrangementOf (s : Sequence Element) :
    (arrangementOf s).leaves.filterMap (·.element?) = s.own ∧
      (arrangementOf s).leaves.filterMap (·.reference?) = s.references ∧
      (arrangementOf s).leaves.filterMap (·.wildcard?) = [] := by
  induction s with
  | done => exact ⟨rfl, rfl, rfl⟩
  | element e rest ih =>
      obtain ⟨hown, hreferences, hwildcards⟩ := ih
      exact ⟨congrArg (e :: ·) hown, hreferences, hwildcards⟩
  | sequence inner rest ihInner ihRest =>
      simp only [arrangementOf, Arrangement.leaves, List.filterMap_append, ihInner, ihRest,
        Sequence.own, Sequence.references, List.append_nil, and_self]
  | group reference content rest _ ih =>
      obtain ⟨hown, hreferences, hwildcards⟩ := ih
      exact ⟨hown, congrArg (reference :: ·) hreferences, hwildcards⟩

/-- The type or group around a sequence gets its elements in one list
and its references in another. -/
theorem Spells.sequence_turns {p : Passage α} {tag : List α} {s : Sequence Element}
    (hp : p.Opens "sequence" tag) (h : Spells p.content s) :
    (∀ t : ComplexType, Turns [p] (.complexType t) (.complexType { t with
      sequence := t.sequence ++ s.own, groups := t.groups ++ s.references })) ∧
    ∀ g : Group, Turns [p] (.group g) (.group { g with
      elements := g.elements ++ s.own, groups := g.groups ++ s.references }) := by
  have hrows : Rows [p] [(.sequence, arrangementOf s)] := .compositor hp rfl h.arranges .done
  obtain ⟨hown, hreferences, hwildcards⟩ := leaves_arrangementOf s
  constructor
  · intro t
    have hturns := hrows.complexType t
    simpa [leavesOfKind, leavesOf, hown, hreferences, hwildcards] using hturns
  · intro g
    have hturns := hrows.group g
    simpa [leavesOf, hown, hreferences] using hturns

end Document

end SoapBindings
