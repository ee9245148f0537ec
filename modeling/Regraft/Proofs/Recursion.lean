import Regraft.Proofs.FragmentNames
import Regraft.Proofs.RawTexts
import Regraft.Proofs.Visits
/-!
# The descent as one recursion

A rule descends both trees at once, step by step, and asks each of them for the nodes that a step leads to.  Where the
new document has too few it makes them and asks again (`Descent.descend`).  The recursion compares the numbers of steps
that are left on either side at every call, and it knows elements by their addresses in the document that grows.

`Descent.follow` goes down the same way without a document: it makes the elements that are missing in one go, pairs
edits with elements in a single pass, and knows beforehand where the surplus of a path ends.  The two are the same edit
(`descend_acts`).  The notion that carries the proof is `Edit.ActsAt`: wherever there is an element at an address, an
edit of the whole document is an edit of the content of that element.  It is kept by every way of combining edits, and
it lets the answers of the second query be known from the content alone: the elements of the name that were there, and
those that have been made, in this order.

So to apply a rule is to run the recursion from the root of the source and the root of the new document
(`Run.apply_eq_descend`), provided that the steps of the destination spell its waypoints, as they do if the destination
has been read (`Destination.spells_of_parse`).
-/

namespace Regraft

open Xml (Address Document Node QName Tag)
open Edit (countNamed)

/-! ## 1. Edits at an address

`within a f` makes an edit of a content into an edit of the document, and `asking` lets an edit depend on a query of
the document that it edits.  `ActsAt` has one lemma for each way in which edits are made of edits.  The lemma for
`asking` is the one that matters: it says when the answer of a query can be had from the content alone. -/

namespace Edit

/-- An edit of the content at an address, as an edit of the whole document. -/
def within (a : Address) (f : Edit) : Edit := fun c =>
  let out := f ((Document.mk c).children a)
  ⟨Xml.updateContent (fun _ => out.content) a c, out.fault⟩

/-- The edit that depends on what is asked of the document that it edits. -/
def asking {α : Type} (ask : Document → Except Error α) (k : α → Edit) : Edit := fun c => given (ask ⟨c⟩) k c

/-- Wherever there is an element at the address, an edit of the document is an edit of the content of that element. -/
def ActsAt (a : Address) (F f : Edit) : Prop :=
  ∀ c t k, (Document.mk c).node? a = some (.element t k) →
    F c = ⟨Xml.updateContent (fun _ => (f k).content) a c, (f k).fault⟩

section

variable {a : Address} {c k k' : List Node} {t : Tag}

theorem updateContent_twice (u v : List Node) :
    Xml.updateContent (fun _ => u) a (Xml.updateContent (fun _ => v) a c) = Xml.updateContent (fun _ => u) a c :=
  Xml.updateContent_comp (fun _ => u) (fun _ => v) a c

theorem node_updated (h : (Document.mk c).node? a = some (.element t k)) (u : List Node) :
    (Document.mk (Xml.updateContent (fun _ => u) a c)).node? a = some (.element t u) :=
  Xml.Document.node_update h fun _ => u

theorem updateContent_same (h : (Document.mk c).node? a = some (.element t k)) :
    Xml.updateContent (fun _ => k) a c = c := by
  have hsame := congrArg Document.content (Xml.Document.update_congr h (f := fun _ => k) (g := fun k => k) rfl)
  exact hsame.trans (Xml.updateContent_id a c)

end

namespace ActsAt

variable {α : Type} {a : Address} {F G f g : Edit}

theorem within (a : Address) (f : Edit) : ActsAt a (.within a f) f := fun c t k h => by
  rw [Edit.within, Xml.Document.children_of_node h]

theorem done (a : Address) : ActsAt a .done .done := fun c t k h => by
  rw [Edit.done, Edit.done, updateContent_same h]

theorem fail (a : Address) (e : Error) : ActsAt a (.fail e) (.fail e) := fun c t k h => by
  rw [Edit.fail, Edit.fail, updateContent_same h]

theorem given (r : Except Error α) {K κ : α → Edit} (h : ∀ x, r = .ok x → ActsAt a (K x) (κ x)) :
    ActsAt a (.given r K) (.given r κ) := by
  cases r with
  | ok x => exact h x rfl
  | error e => exact fail a e

theorem andThen (hF : ActsAt a F f) (hG : ActsAt a G g) : ActsAt a (F.andThen G) (f.andThen g) := fun c t k h => by
  have hfirst := hF c t k h
  match hf : f k with
  | ⟨k', none⟩ =>
    rw [hf] at hfirst
    rw [andThen_of_done hf, andThen_of_done hfirst, hG _ t k' (node_updated h k'), updateContent_twice]
  | ⟨k', some e⟩ =>
    rw [hf] at hfirst
    rw [andThen_of_fault hf, andThen_of_fault hfirst]

theorem sequence_map {K κ : α → Edit} (h : ∀ x, ActsAt a (K x) (κ x)) (xs : List α) :
    ActsAt a (.sequence (xs.map K)) (.sequence (xs.map κ)) := by
  induction xs with
  | nil => exact done a
  | cons x xs ih => exact (h x).andThen ih

theorem sequence_replicate (h : ActsAt a F f) (n : Nat) :
    ActsAt a (.sequence (List.replicate n F)) (.sequence (List.replicate n f)) := by
  induction n with
  | zero => exact done a
  | succ n ih => exact h.andThen ih

/-- What is asked of the document may be asked of the content, if that decides it. -/
theorem asking {ask : Document → Except Error α} {K : α → Edit} (answer : List Node → Except Error α)
    (hask : ∀ c t k, (Document.mk c).node? a = some (.element t k) → ask ⟨c⟩ = answer k)
    (hfail : ∀ k e, answer k = .error e → f k = ⟨k, some e⟩)
    (hK : ∀ c t k x, (Document.mk c).node? a = some (.element t k) → answer k = .ok x →
      K x c = ⟨Xml.updateContent (fun _ => (f k).content) a c, (f k).fault⟩) :
    ActsAt a (.asking ask K) f := fun c t k h => by
  rw [Edit.asking, hask c t k h]
  cases hanswer : answer k with
  | ok x => exact hK c t k x h hanswer
  | error e =>
    rw [hfail k e hanswer, updateContent_same h]
    rfl

end ActsAt

end Edit

/-! ## 2. Edits paired with the elements of a name

The second query gives addresses, and the edits at them are run one after the other.  An edit at one address changes the
content of that element and nothing beside it, so that the addresses that come later still lead where they led.  By
induction on what is left of the content, with what is behind as a part of the statement. -/

/-- As many addresses are found as there are elements of the name. -/
theorem length_namedAt (q : QName) (a : Address) (i : Nat) (c : List Node) :
    (namedAt q a i c).length = countNamed q c := by
  induction c using Edit.named_induction q generalizing i with
  | nil => rfl
  | named tag k c hq ih =>
    rw [namedAt_cons_named (Edit.isNamed_of_name hq k), List.length_cons, ih, Edit.countNamed_cons_named hq]
  | other n c hn ih => rw [namedAt_cons_other hn, ih, Edit.countNamed_cons_other hn]

namespace Edit

variable {α : Type} {q : QName} {a : Address} {t : Tag} {κ : α → Edit} {G : α → Address → Edit}

/-- An edit below a child is an edit of the child. -/
theorem acts_on_child {F f : Edit} {tag : Tag} {pre k rest c : List Node} (hF : ActsAt (a ++ [pre.length]) F f)
    (h : (Document.mk c).node? a = some (.element t (pre ++ .element tag k :: rest))) :
    F c = ⟨Xml.updateContent (fun _ => pre ++ .element tag (f k).content :: rest) a c, (f k).fault⟩ := by
  have hchild : (Document.mk c).node? (a ++ [pre.length]) = some (.element tag k) := by
    rw [Xml.Document.node_append h (List.cons_ne_nil _ [])]
    simp [Xml.nodeAt?]
  have hupdate : Xml.updateContent (fun _ => (f k).content) (a ++ [pre.length]) c =
      Xml.updateContent (fun _ => pre ++ .element tag (f k).content :: rest) a c := by
    rw [Xml.updateContent_append]
    exact congrArg Document.content (Xml.Document.update_congr h (Fragment.modify_concat _ pre _ rest))
  rw [hF c tag k hchild, hupdate]

/-- Edits at the addresses of the elements of a name, one after the other, are edits paired with these elements: no
edit moves what comes after it. -/
theorem sequence_zip_namedAt (hG : ∀ m b, ActsAt b (G m b) (κ m)) (found : List α) (pre rest : List Node)
    {c : List Node} (h : (Document.mk c).node? a = some (.element t (pre ++ rest))) :
    sequence ((found.zip (namedAt q a pre.length rest)).map fun p => G p.1 p.2) c =
      ⟨Xml.updateContent (fun _ => pre ++ (eachNamed q (found.map κ) rest).content) a c,
        (eachNamed q (found.map κ) rest).fault⟩ := by
  induction rest using named_induction q generalizing found pre c with
  | nil =>
    rw [eachNamed_of_nil, updateContent_same h, namedAt, List.zipIdx_nil, List.filter_nil, List.map_nil,
      List.zip_nil_right]
    rfl
  | named tag k rest hq ih =>
    cases found with
    | nil =>
      rw [List.map_nil, eachNamed_nil, updateContent_same h]
      rfl
    | cons m found =>
      have hfirst := acts_on_child (hG m (a ++ [pre.length])) h
      rw [namedAt_cons_named (isNamed_of_name hq k), List.zip_cons_cons, List.map_cons, sequence, List.map_cons]
      rcases hf : κ m k with ⟨k', _ | e⟩
      · rw [hf] at hfirst
        -- The element is changed and still an element, so the later addresses lead where they led.
        have hnode := node_updated h (pre ++ .element tag k' :: rest)
        rw [List.append_cons] at hnode
        have hrest := ih found (pre ++ [.element tag k']) hnode
        rw [List.length_append, List.length_singleton] at hrest
        rw [andThen_of_done hfirst, eachNamed_named_done hq hf, List.append_cons pre, hrest, updateContent_twice]
        simp
      · rw [hf] at hfirst
        rw [andThen_of_fault hfirst, eachNamed_named_fault hq hf]
  | other n rest hn ih =>
    rw [namedAt_cons_other hn, eachNamed_other hn]
    rw [List.append_cons] at h
    have hrest := ih found (pre ++ [n]) h
    rw [List.length_append, List.length_singleton] at hrest
    rw [hrest]
    simp

/-- One edit at each of these addresses is that edit of each of these elements. -/
theorem sequence_namedAt {F : Address → Edit} {f : Edit} (hF : ∀ b, ActsAt b (F b) f) {c k : List Node}
    (h : (Document.mk c).node? a = some (.element t k)) :
    sequence ((namedAt q a 0 k).map F) c =
      ⟨Xml.updateContent (fun _ => (allNamed q f k).content) a c, (allNamed q f k).fault⟩ := by
  have hall := sequence_zip_namedAt (q := q) (κ := fun _ : Unit => f) (G := fun _ => F) (fun _ => hF)
    (List.replicate (countNamed q k) ()) [] k h
  have hsecond : ((List.replicate (countNamed q k) ()).zip (namedAt q a 0 k)).map Prod.snd = namedAt q a 0 k := by
    rw [List.map_snd_zip]
    rw [length_namedAt, List.length_replicate]
  rw [List.map_replicate] at hall
  rw [allNamed, ← hsecond, List.map_map]
  exact hall

end Edit

/-! ## 3. The recursion

The recursion as a program over addresses.  Every call takes one or two steps, and so it ends.  The four cases are those
of comparing how many steps are left: more in the source, more in the destination, equally many, and none. -/

namespace Descent

/-- Makes the element that a step names, at the end of the content at an address. -/
def create (d : Descent) (parent : Address) (s : Step) : Edit :=
  match s.test with
  | .element name =>
    .given ((d.root.resolver.elementName name).mapError (.structuralQuery s.raw)) fun q =>
      .within parent fun c => ⟨Xml.appendNode c (.element (.plain q) []), none⟩
  | _ => .fail (.uncreatableStep s.raw)

/-- The nodes of the new document that a step leads to. -/
def targets (d : Descent) (s : Step) (place : Address) (new : Document) : Except Error (List Address) :=
  new.selectNodes d.root.resolver place s

/-- Descends both trees, from a node of the source and a node of the new document, along the steps left on either
side.  The edit is one of the whole new document. -/
def descend (d : Descent) (sourceSteps steps : List Step) (source place : Address) : Edit :=
  match compare sourceSteps.length steps.length, sourceSteps, steps with
  | .gt, s :: sourceRest, steps =>
    .given (d.sources s source) fun found =>
      .sequence (found.map fun m => d.descend sourceRest steps m place)
  | .lt, sourceSteps, s :: rest =>
    .asking (d.targets s place) fun existing =>
      .andThen (if existing.isEmpty then d.create place s else .done)
        (.asking (d.targets s place) fun now =>
          .sequence (now.map fun a => d.descend sourceSteps rest source a))
  | .eq, s :: sourceRest, s' :: rest =>
    .given (d.sources s source) fun found =>
      .asking (d.targets s' place) fun existing =>
        .andThen (.sequence (List.replicate (found.length - existing.length) (d.create place s')))
          (.asking (d.targets s' place) fun now =>
            .sequence ((found.zip now).map fun p => d.descend sourceRest rest p.1 p.2))
  | _, _, _ => .within place (d.render source)
termination_by sourceSteps.length + steps.length

end Descent

/-! ## 4. Routes

`Route.ofPaths` sorts the steps of both paths into surplus ones and aligned ones.  Here it is unfolded by one step on
one side, or on both, which is how the recursion goes. -/

namespace Route

variable {s : Step} {w : Waypoint} {steps : List Step} {waypoints : List Waypoint}

theorem ofPaths_of_more_steps (h : waypoints.length ≤ steps.length) :
    ofPaths (s :: steps) waypoints =
      { ofPaths steps waypoints with surplusSteps := s :: (ofPaths steps waypoints).surplusSteps } := by
  have hsteps : steps.length + 1 - waypoints.length = steps.length - waypoints.length + 1 := by omega
  have hwaypoints : waypoints.length - (steps.length + 1) = waypoints.length - steps.length := by omega
  simp only [ofPaths, List.length_cons, hsteps, hwaypoints, List.take_succ_cons, List.drop_succ_cons]

theorem ofPaths_of_more_waypoints (h : steps.length ≤ waypoints.length) :
    ofPaths steps (w :: waypoints) =
      { ofPaths steps waypoints with surplusWaypoints := w :: (ofPaths steps waypoints).surplusWaypoints } := by
  have hwaypoints : waypoints.length + 1 - steps.length = waypoints.length - steps.length + 1 := by omega
  have hsteps : steps.length - (waypoints.length + 1) = steps.length - waypoints.length := by omega
  simp only [ofPaths, List.length_cons, hsteps, hwaypoints, List.take_succ_cons, List.drop_succ_cons]

theorem ofPaths_of_length_eq (h : steps.length = waypoints.length) :
    ofPaths steps waypoints = ⟨[], [], steps.zip waypoints⟩ := by
  simp [ofPaths, h]

end Route

namespace Descent

variable {d : Descent} {s : Step} {w : Waypoint} {steps : List Step} {waypoints : List Waypoint}

/-- A surplus step is taken before anything is done. -/
theorem follow_of_more_steps (h : waypoints.length ≤ steps.length) (source : Address) :
    d.follow (Route.ofPaths (s :: steps) waypoints) source =
      .given (d.sources s source) fun found => .sequence (found.map (d.follow (Route.ofPaths steps waypoints))) := by
  have hnone : (Route.ofPaths steps waypoints).surplusWaypoints = [] := by
    simp [Route.ofPaths, Nat.sub_eq_zero_of_le h]
  have hfollow : d.follow (Route.ofPaths steps waypoints) =
      d.alongSteps (d.alongAligned d.render (Route.ofPaths steps waypoints).aligned)
        (Route.ofPaths steps waypoints).surplusSteps := by
    funext context
    rw [follow, along, hnone]
    rfl
  rw [Route.ofPaths_of_more_steps h, hfollow, follow, along, hnone]
  rfl

theorem follow_of_more_waypoints (h : steps.length ≤ waypoints.length) (source : Address) :
    d.follow (Route.ofPaths steps (w :: waypoints)) source =
      match w with
      | .here => d.follow (Route.ofPaths steps waypoints) source
      | .child name =>
        .given (d.resolve name) fun q =>
          .andThen (.pad q 1) (.allNamed q (d.follow (Route.ofPaths steps waypoints) source)) := by
  rw [Route.ofPaths_of_more_waypoints h]
  cases w <;> rfl

theorem follow_of_aligned (h : steps.length = waypoints.length) (source : Address) :
    d.follow (Route.ofPaths (s :: steps) (w :: waypoints)) source =
      .given (d.sources s source) fun found =>
        match w with
        | .here =>
          if 1 < found.length then .fail (.uncreatableStep w.display)
          else .sequence (found.map (d.follow (Route.ofPaths steps waypoints)))
        | .child name =>
          .given (d.resolve name) fun q =>
            .andThen (.pad q found.length) (.eachNamed q (found.map (d.follow (Route.ofPaths steps waypoints)))) := by
  have hfollow : d.follow (Route.ofPaths steps waypoints) = d.alongAligned d.render (steps.zip waypoints) := by
    funext context
    rw [Route.ofPaths_of_length_eq h]
    rfl
  rw [hfollow, Route.ofPaths_of_length_eq (congrArg (· + 1) h)]
  rfl

/-! ## 5. One step

The equations of the recursion in the same cases, with the comparison decided. -/

theorem descend_of_more_steps {rest : List Step} (h : steps.length ≤ rest.length) (source place : Address) :
    d.descend (s :: rest) steps source place =
      .given (d.sources s source) fun found => .sequence (found.map fun m => d.descend rest steps m place) := by
  have hcompare : compare (s :: rest).length steps.length = .gt := Nat.compare_eq_gt.mpr (Nat.lt_succ_of_le h)
  rw [descend.eq_def, hcompare]

theorem descend_of_more_waypoints {sourceSteps rest : List Step} (h : sourceSteps.length ≤ rest.length)
    (source place : Address) :
    d.descend sourceSteps (s :: rest) source place =
      .asking (d.targets s place) fun existing =>
        .andThen (if existing.isEmpty then d.create place s else .done)
          (.asking (d.targets s place) fun now =>
            .sequence (now.map fun a => d.descend sourceSteps rest source a)) := by
  have hcompare : compare sourceSteps.length (s :: rest).length = .lt := Nat.compare_eq_lt.mpr (Nat.lt_succ_of_le h)
  rw [descend.eq_def, hcompare]

theorem descend_of_aligned {s' : Step} {sourceRest rest : List Step} (h : sourceRest.length = rest.length)
    (source place : Address) :
    d.descend (s :: sourceRest) (s' :: rest) source place =
      .given (d.sources s source) fun found =>
        .asking (d.targets s' place) fun existing =>
          .andThen (.sequence (List.replicate (found.length - existing.length) (d.create place s')))
            (.asking (d.targets s' place) fun now =>
              .sequence ((found.zip now).map fun p => d.descend sourceRest rest p.1 p.2)) := by
  have hcompare : compare (s :: sourceRest).length (s' :: rest).length = .eq :=
    Nat.compare_eq_eq.mpr (congrArg (· + 1) h)
  rw [descend.eq_def, hcompare]

/-- Without steps the source node is rendered. -/
theorem descend_nil (source place : Address) : d.descend [] [] source place = .within place (d.render source) := by
  rw [descend.eq_def]
  rfl

/-! ## 6. Queries of the new document, and elements that are made

In the document a step of a destination leads to the node itself, or to the children of one name.  If their number is
too small, elements are made at the end of the content, and the query is asked again.  What it finds then is known: the
children that were there, and those that have been made (`acts_made`).  This is where a wrong order of children, or a
query that missed a new one, would show. -/

section

variable {place : Address} {name : Name} {q : QName}

/-- A step to the node itself leads there. -/
theorem targets_of_here (hs : s.waypoint? = some .here) (new : Document) : d.targets s place new = .ok [place] :=
  selectNodes_of_here hs new d.root.resolver place

/-- A step that names elements leads to those in the content, if the name stands for anything. -/
theorem targets_of_child (hs : s.waypoint? = some (.child name)) (hraw : s.raw = name.display) {c k : List Node}
    {t : Tag} (h : (Document.mk c).node? place = some (.element t k)) :
    d.targets s place ⟨c⟩ = (d.resolve name).map fun q => namedAt q place 0 k := by
  rw [targets, resolve]
  cases hname : d.root.resolver.elementName name with
  | ok q =>
    rw [selectNodes_of_child hs hname, Xml.Document.children_of_node h]
    rfl
  | error unbound =>
    obtain ⟨raw, rfl⟩ := Step.waypoint?_eq_child.mp hs
    obtain rfl : raw = name.display := hraw
    rw [Document.selectNodes, Select.step, Select.testItems, hname]
    rfl

/-- What is done with the answer to such a step is done with the node itself. -/
theorem acts_here (hs : s.waypoint? = some .here) {K : List Address → Edit} {f : Edit}
    (h : Edit.ActsAt place (K [place]) f) : Edit.ActsAt place (.asking (d.targets s place) K) f := by
  intro c t k hnode
  rw [Edit.asking, targets_of_here hs]
  exact h c t k hnode

/-- No element can be made for a step to the node itself. -/
theorem create_of_here (hs : s.waypoint? = some .here) : d.create place s = .fail (.uncreatableStep s.raw) := by
  obtain ⟨raw, rfl⟩ := Step.waypoint?_eq_here.mp hs
  rfl

/-- Adds an empty element of a name at the end. -/
def push (q : QName) : Edit := fun c => ⟨c ++ [emptyElement q], none⟩

/-- An element of a name is made at the end of the content. -/
theorem create_of_child (hs : s.waypoint? = some (.child name)) (hraw : s.raw = name.display)
    (hq : d.resolve name = .ok q) :
    d.create place s = .within place (push q) := by
  have hpush : (fun c => ⟨Xml.appendNode c (.element (.plain q) []), none⟩ : Edit) = push q := by
    funext c
    rw [appendNode_of_not_text rfl]
    rfl
  obtain ⟨raw, rfl⟩ := Step.waypoint?_eq_child.mp hs
  obtain rfl : raw = name.display := hraw
  show Edit.given (d.resolve name) _ = _
  rw [hq, ← hpush]
  rfl

/-- Elements made one after the other are made in one go. -/
theorem sequence_push (q : QName) (n : Nat) (c : List Node) :
    Edit.sequence (List.replicate n (push q)) c = ⟨c ++ List.replicate n (emptyElement q), none⟩ := by
  induction n generalizing c with
  | zero => simp [Edit.sequence, Edit.done]
  | succ n ih =>
    have hpush : push q c = ⟨c ++ [emptyElement q], none⟩ := rfl
    rw [List.replicate_succ, Edit.sequence, Edit.andThen_of_done hpush, ih, List.append_assoc, List.replicate_succ]
    rfl

/-- As many elements are made as are missing. -/
theorem sequence_push_missing (q : QName) (n : Nat) (place : Address) (k : List Node) :
    Edit.sequence (List.replicate (n - (namedAt q place 0 k).length) (push q)) k = Edit.pad q n k := by
  rw [sequence_push, pad_eq, length_namedAt]
  rfl

/-- Making the elements that are missing, asking for all of them and going on from the answer: both answers are known
from the content. -/
theorem acts_made (hs : s.waypoint? = some (.child name)) (hraw : s.raw = name.display) (n : Nat)
    {next : List Address → Edit} {work : QName → Edit}
    (hnext : ∀ q c t k, (Document.mk c).node? place = some (.element t k) →
      next (namedAt q place 0 k) c = ⟨Xml.updateContent (fun _ => (work q k).content) place c, (work q k).fault⟩) :
    Edit.ActsAt place
      (.asking (d.targets s place) fun existing =>
        .andThen (.sequence (List.replicate (n - existing.length) (d.create place s)))
          (.asking (d.targets s place) next))
      (.given (d.resolve name) fun q => .andThen (.pad q n) (work q)) := by
  refine .asking (fun k => (d.resolve name).map fun q => namedAt q place 0 k)
    (fun c t k h => targets_of_child hs hraw h) (fun k e he => ?_) fun c t k existing hnode hanswer => ?_
  · rw [map_error.mp he]
    rfl
  · obtain ⟨q, hq, rfl⟩ := map_ok.mp hanswer
    have hcreate := (Edit.ActsAt.within place (push q)).sequence_replicate (n - (namedAt q place 0 k).length)
    rw [← create_of_child hs hraw hq] at hcreate
    have hagain : Edit.ActsAt place (.asking (d.targets s place) next) (work q) := by
      refine .asking (fun k => .ok (namedAt q place 0 k)) (fun c t k h => ?_) (fun k e he => nomatch he)
        fun c t k now h hnow => ?_
      · rw [targets_of_child hs hraw h, hq]
        rfl
      · cases hnow
        exact hnext q c t k h
    have hsame : Edit.andThen (.sequence (List.replicate (n - (namedAt q place 0 k).length) (push q))) (work q) k =
        Edit.andThen (.pad q n) (work q) k := by
      rw [Edit.andThen, Edit.andThen, sequence_push_missing]
    rw [(hcreate.andThen hagain) c t k hnode, hsame, hq]
    rfl

end

/-! ## 7. The whole recursion

The two cases that take a waypoint, and the induction over both paths.  The steps of the destination are what the
recursion goes along and the waypoints are what the route is made of, so the two are taken off together. -/

/-- A step of a destination is read as a waypoint and remembers the text of it. -/
structure Spells (s : Step) (w : Waypoint) : Prop where
  waypoint : s.waypoint? = some w
  raw : s.raw = w.display

theorem andThen_done (f : Edit) : f.andThen .done = f := by
  funext c
  rcases hf : f c with ⟨c', _ | e⟩
  · exact Edit.andThen_of_done hf
  · exact Edit.andThen_of_fault hf

theorem fail_andThen (e : Error) (f : Edit) : (Edit.fail e).andThen f = .fail e := by
  funext c
  exact Edit.andThen_of_fault rfl

/-- A surplus waypoint, given what is below it. -/
theorem acts_more_waypoints {sourceSteps rest : List Step} (hlength : sourceSteps.length ≤ rest.length)
    (hwaypoints : sourceSteps.length ≤ waypoints.length) (h : Spells s w)
    {source : Address} (hbelow : ∀ a, Edit.ActsAt a (d.descend sourceSteps rest source a)
      (d.follow (Route.ofPaths sourceSteps waypoints) source)) (place : Address) :
    Edit.ActsAt place (d.descend sourceSteps (s :: rest) source place)
      (d.follow (Route.ofPaths sourceSteps (w :: waypoints)) source) := by
  rw [descend_of_more_waypoints hlength, follow_of_more_waypoints hwaypoints]
  cases w with
  | here =>
    refine acts_here h.waypoint (acts_here h.waypoint ?_)
    rw [List.map_singleton, Edit.sequence, Edit.sequence, andThen_done]
    exact hbelow place
  | child name =>
    have hone : ∀ existing : List Address, (if existing.isEmpty then d.create place s else .done) =
        Edit.sequence (List.replicate (1 - existing.length) (d.create place s)) := by
      intro existing
      cases existing with
      | nil => exact (andThen_done _).symm
      | cons a existing =>
        have hnone : 1 - (a :: existing).length = 0 := by simp
        rw [hnone]
        rfl
    simp only [hone]
    exact acts_made h.waypoint h.raw 1 fun q c t k h => Edit.sequence_namedAt hbelow h

/-- A step and a waypoint that are aligned, given what is below them. -/
theorem acts_aligned {s' : Step} {sourceRest rest : List Step} (hlength : sourceRest.length = rest.length)
    (hwaypoints : sourceRest.length = waypoints.length) (h : Spells s' w)
    (hbelow : ∀ m a, Edit.ActsAt a (d.descend sourceRest rest m a)
      (d.follow (Route.ofPaths sourceRest waypoints) m)) (source place : Address) :
    Edit.ActsAt place (d.descend (s :: sourceRest) (s' :: rest) source place)
      (d.follow (Route.ofPaths (s :: sourceRest) (w :: waypoints)) source) := by
  rw [descend_of_aligned hlength, follow_of_aligned hwaypoints]
  refine .given _ fun found _ => ?_
  cases w with
  | here =>
    have hagain : Edit.ActsAt place (.asking (d.targets s' place) fun now =>
        .sequence ((found.zip now).map fun p => d.descend sourceRest rest p.1 p.2))
        (.sequence ((found.take 1).map (d.follow (Route.ofPaths sourceRest waypoints)))) := by
      refine acts_here h.waypoint ?_
      cases found with
      | nil => exact .done place
      | cons m found =>
        rw [List.zip_cons_cons, List.zip_nil_right]
        exact (hbelow m place).andThen (.done place)
    refine acts_here h.waypoint ?_
    -- A step to the node itself has one target, so two matches or more ask for an element that cannot be made.
    by_cases hseveral : 1 < found.length
    · obtain ⟨n, hn⟩ : ∃ n, found.length - [place].length = n + 1 := ⟨found.length - 2, by
        rw [List.length_singleton]
        omega⟩
      rw [if_pos hseveral, hn, create_of_here h.waypoint, h.raw, List.replicate_succ, Edit.sequence, fail_andThen,
        fail_andThen]
      exact .fail place _
    · have hnone : found.length - [place].length = 0 := Nat.sub_eq_zero_of_le (Nat.le_of_not_lt hseveral)
      rw [List.take_of_length_le (Nat.le_of_not_lt hseveral)] at hagain
      rw [if_neg hseveral, hnone]
      exact hagain
  | child name =>
    exact acts_made h.waypoint h.raw found.length fun q c t k h => Edit.sequence_zip_namedAt hbelow found [] k h

/-- **The recursion is the descent.**  From a source node and an element of the new document, whatever there is in it,
descending both trees does to the content of the element what following the route does. -/
theorem descend_acts {sourceSteps : List Step} (hspelled : List.Forall₂ Spells steps waypoints)
    (source place : Address) :
    Edit.ActsAt place (d.descend sourceSteps steps source place)
      (d.follow (Route.ofPaths sourceSteps waypoints) source) := by
  -- By induction on the steps left on both sides, of which every call takes one or two.
  induction hn : sourceSteps.length + steps.length using Nat.strong_induction_on generalizing
    sourceSteps steps waypoints source place with
  | _ n ih =>
    have hlength := hspelled.length_eq
    rcases Nat.lt_trichotomy sourceSteps.length steps.length with hfewer | hsame | hmore
    · cases hspelled with
      | nil => exact absurd hfewer (Nat.not_lt_zero _)
      | cons hs hrest =>
        rw [List.length_cons] at hfewer hn hlength
        exact acts_more_waypoints (by omega) (by have := hrest.length_eq; omega) hs
          (fun a => ih _ (by omega) hrest source a rfl) place
    · cases sourceSteps with
      | nil =>
        obtain rfl := List.eq_nil_of_length_eq_zero hsame.symm
        cases hspelled
        rw [descend_nil]
        exact .within place (d.render source)
      | cons s sourceRest =>
        cases hspelled with
        | nil => cases hsame
        | cons hs hrest =>
          have hsame := Nat.succ.inj hsame
          rw [List.length_cons, List.length_cons] at hn
          exact acts_aligned hsame (hsame.trans hrest.length_eq) hs (fun m a => ih _ (by omega) hrest m a rfl) source
            place
    · cases sourceSteps with
      | nil => exact absurd hmore (Nat.not_lt_zero _)
      | cons s rest =>
        rw [List.length_cons] at hmore hn
        rw [descend_of_more_steps (by omega), follow_of_more_steps (by omega)]
        exact .given _ fun found _ => .sequence_map (fun m => ih _ (by omega) hspelled m place rfl) found

end Descent

/-! ## 8. Rules

A destination that has been read remembers the text of each of its steps, so that errors name the same text in both
forms.  With that the edit of a rule is the recursion from both roots. -/

/-- A name that has been read is written as it was. -/
theorem Path.Grammar.IsName.display_eq {s : List Char} {name : Name} (h : IsName s name) :
    name.display = .ofList s := by
  cases h with
  | bare _ => rfl
  | @prefixed s t _ _ => simp [Name.display, String.ofList_append, String.ofList_cons, String.append_assoc]

theorem Path.Grammar.IsStep.raw_eq_display {s : List Char} {x : Step} (h : IsStep s x) {w : Waypoint}
    (hw : x.waypoint? = some w) : x.raw = w.display := by
  cases h with
  | @mk t u test predicates htest hpredicates =>
    cases w with
    | here =>
      obtain ⟨raw, heq⟩ := Step.waypoint?_eq_here.mp hw
      obtain ⟨-, rfl, rfl⟩ := Step.mk.inj heq
      cases hpredicates
      cases htest
      rfl
    | child name =>
      obtain ⟨raw, heq⟩ := Step.waypoint?_eq_child.mp hw
      obtain ⟨-, rfl, rfl⟩ := Step.mk.inj heq
      cases hpredicates
      cases htest with
      | element hname => rw [Waypoint.display, hname.display_eq, List.append_nil]

/-- The steps of a destination that has been read spell its waypoints. -/
theorem Destination.spells_of_parse {text : String} {dest : Destination} (h : Destination.parse text = .ok dest) :
    List.Forall₂ Descent.Spells dest.path.steps dest.waypoints := by
  have hremember : ∀ x ∈ dest.path.steps, ∀ w, x.waypoint? = some w → x.raw = w.display := by
    intro x hx w hw
    have hdenotes := Path.Grammar.denotes_of_parse h
    generalize dest.path = p at hdenotes hx
    cases hdenotes with
    | empty => cases hx
    | steps hsteps => exact (hsteps.isStep_of_mem x hx).raw_eq_display hw
  have hspelled := dest.spelled
  generalize dest.path.steps = steps, dest.waypoints = waypoints at hremember hspelled
  induction steps generalizing waypoints with
  | nil =>
    obtain rfl := List.map_eq_nil_iff.mp hspelled.symm
    exact .nil
  | cons x steps ih =>
    cases waypoints with
    | nil => cases hspelled
    | cons w waypoints =>
      obtain ⟨hx, hspelled⟩ := List.cons_eq_cons.mp hspelled
      obtain ⟨hraw, hremember⟩ := List.forall_mem_cons.mp hremember
      exact .cons ⟨hx, hraw w hx⟩ (ih waypoints hremember hspelled)

/-- **To apply a rule is to descend from both roots.** -/
theorem Run.apply_eq_descend (r : Run) (rule : Rule)
    (hspelled : List.Forall₂ Descent.Spells rule.destination.path.steps rule.destination.waypoints) :
    let out := (r.descent rule).descend rule.source.steps rule.destination.path.steps r.sourceRoot documentRoot
      r.document.content
    (r.apply rule).1.document.content = out.content ∧ (r.apply rule).2 = out.fault.map (.inRule rule.display) := by
  have hroot : (Document.mk r.document.content).node? documentRoot = some (.element r.tag r.content) := rfl
  rw [(r.descent rule).descend_acts hspelled r.sourceRoot documentRoot _ _ _ hroot]
  exact ⟨rfl, rfl⟩

/-! ## Summary

**What is established.**  For every rule, every source and every document built so far: querying both trees step by
step, making elements where there are too few, asking again, and pairing the answers with the source nodes is what
`Run.apply` does, with the same document and the same error at the same point (`Run.apply_eq_descend`).

**What is not.**  The hypothesis on the texts of steps is not idle.  It holds of every destination that has been read
(`Destination.spells_of_parse`); a destination made in another way could have steps that remember other texts, and then
the two would report errors with different texts. -/

end Regraft
