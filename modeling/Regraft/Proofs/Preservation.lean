import Regraft.Descent
import Regraft.Proofs.Pairing
import Regraft.Proofs.Placing
/-!
# Properties of all edits of a descent

A descent is put together from few edits in few ways.  A property that these ways keep, and that placing a
text has, is one of every descent, whatever the source and the paths are.  The induction over the two paths
is made here, once, for properties that may depend on the waypoints that are left and on the errors that can
arise (`Descent.Compositional`, `Descent.follow_of_compositional`).  Most properties depend on neither
(`Edit.Preserved`, `Descent.follow_of_preserved`), and most of these relate the content that an edit leaves to the one
that it found (`Edit.Relates`).
-/

namespace Regraft

open Xml (Address Node QName)

namespace Edit

/-- The property is kept by every way in which a descent combines edits, as far as it names elements by names
of `N`.  Edits are never paired with elements before there are enough of these, so only the two together have
to keep it. -/
structure Preserved (N : QName → Prop) (P : Edit → Prop) : Prop where
  done : P done
  fail : ∀ e, P (fail e)
  andThen : ∀ {f g : Edit}, P f → P g → P (f.andThen g)
  pairing : ∀ {q : QName} {fs : List Edit}, N q → (∀ f ∈ fs, P f) → P (pairing q fs)
  allNamed : ∀ {q : QName} {f : Edit}, N q → P f → P (.andThen (.pad q 1) (.allNamed q f))

/-- Any name. -/
def anyName (_ : QName) : Prop := True

/-! ## What an edit leaves

A property may speak of the content before an edit and the content after it, whatever comes of the edit.  If it can be
put together from parts and holds where nothing is changed, it is enough to look at elements that are made, at changes
inside elements, and at what is placed. -/

/-- What the edit leaves is related to what it found, also where it stops. -/
def Relates (R : List Node → List Node → Prop) (f : Edit) : Prop := ∀ c, R c (f c).content

variable {R : List Node → List Node → Prop}

theorem Relates.andThen (htrans : ∀ {c c' c''}, R c c' → R c' c'' → R c c'') {f g : Edit} (hf : Relates R f)
    (hg : Relates R g) : Relates R (f.andThen g) := by
  intro c
  rcases content_andThen f g c with h | h
  · rw [h]
    exact hf c
  · rw [h]
    exact htrans (hf c) (hg _)

/-- All ways to combine edits keep a relation, if making elements and changing them inside do. -/
theorem preserved_relates {N : QName → Prop} (hrefl : ∀ c, R c c)
    (htrans : ∀ {c c' c''}, R c c' → R c' c'' → R c c'') (hpad : ∀ {q}, N q → ∀ n, Relates R (pad q n))
    (heach : ∀ {q} {fs : List Edit}, (∀ f ∈ fs, Relates R f) → Relates R (eachNamed q fs)) :
    Preserved N (Relates R) where
  done := hrefl
  fail := fun _ => hrefl
  andThen := .andThen @htrans
  pairing := fun hq hfs => .andThen @htrans (hpad hq _) (heach hfs)
  allNamed := fun hq hf => .andThen @htrans (hpad hq 1) fun c =>
    heach (fun _ hg => (List.mem_replicate.mp hg).2 ▸ hf) c

/-- A text that is placed adds the nodes of a fragment, or becomes the text in front, or changes nothing. -/
theorem relates_place (hrefl : ∀ c, R c c) {root : Root} {text : String}
    (hfragment : Fragment.isMarkup text = true → ∀ nodes, Fragment.read root text = .ok nodes →
      ∀ c, R c (Xml.appendNodes c nodes))
    (htext : Fragment.isMarkup text = false → text.isEmpty = false →
      ∀ c, R c (Xml.setLeadingText (Text.unescape text) c)) :
    Relates R (.whole (Fragment.place root text)) := by
  intro c
  unfold whole
  cases hmarkup : Fragment.isMarkup text with
  | true =>
    rw [Fragment.place_markup hmarkup]
    cases hnodes : Fragment.read root text with
    | error e => exact hrefl c
    | ok nodes => exact hfragment hmarkup nodes hnodes c
  | false =>
    cases hempty : text.isEmpty with
    | true =>
      rw [Fragment.place_empty hmarkup hempty]
      exact hrefl c
    | false =>
      rw [Fragment.place_text hmarkup hempty]
      exact htext hmarkup hempty c

end Edit

/-- The steps of a route, surplus and aligned, are those of the source path. -/
theorem surplusSteps_append_aligned (steps : List Step) (waypoints : List Waypoint) :
    (Route.ofPaths steps waypoints).surplusSteps ++ (Route.ofPaths steps waypoints).aligned.map Prod.fst =
      steps := by
  unfold Route.ofPaths
  rw [List.map_fst_zip, List.take_append_drop]
  rw [List.length_drop, List.length_drop]
  omega

/-- So the waypoints are those of the destination. -/
theorem surplusWaypoints_append_aligned (steps : List Step) (waypoints : List Waypoint) :
    (Route.ofPaths steps waypoints).surplusWaypoints ++ (Route.ofPaths steps waypoints).aligned.map Prod.snd =
      waypoints := by
  unfold Route.ofPaths
  rw [List.map_snd_zip, List.take_append_drop]
  rw [List.length_drop, List.length_drop]
  omega

namespace Descent

open Edit (Preserved)

/-! ## What a descent renders -/

/-- The steps lead from one node of the source to another. -/
inductive Leads (d : Descent) : List Step → Address → Address → Prop
  | nil (a : Address) : Leads d [] a a
  | cons {s : Step} {rest : List Step} {a m b : Address} {found : List Address} (hfound : d.sources s a = .ok found)
      (hm : m ∈ found) (hrest : Leads d rest m b) : Leads d (s :: rest) a b

theorem Leads.append {d : Descent} {steps steps' : List Step} {a b c : Address} (h : d.Leads steps a b)
    (h' : d.Leads steps' b c) : d.Leads (steps ++ steps') a c := by
  induction h with
  | nil a => exact h'
  | cons hfound hm _ ih => exact .cons hfound hm (ih h')

/-- The first of some steps leads to one of the nodes that are asked from it. -/
theorem Leads.cons_inv {d : Descent} {s : Step} {rest : List Step} {a b : Address} (h : d.Leads (s :: rest) a b)
    {found : List Address} (hfound : d.sources s a = .ok found) : ∃ m ∈ found, d.Leads rest m b := by
  cases h with
  | @cons _ _ _ m _ _ hfound' hm hrest =>
    cases hfound.symm.trans hfound'
    exact ⟨m, hm, hrest⟩

theorem Leads.nil_inv {d : Descent} {a b : Address} (h : d.Leads [] a b) : b = a := by
  cases h
  rfl

/-- The template makes the text of a row of the source node. -/
def RendersAt (d : Descent) (context : Address) (text : String) : Prop :=
  ∃ rows row, d.rows context = .ok rows ∧ row ∈ rows ∧ d.renderRow row = .ok (some text)

/-- On the way down the aligned part of a route, a step that a waypoint `.` is aligned with leads to several nodes
from a node that the steps before it lead to. -/
inductive Crowded (d : Descent) : List (Step × Waypoint) → Address → Prop
  | here {s : Step} {rest : List (Step × Waypoint)} {a : Address} {found : List Address}
      (hfound : d.sources s a = .ok found) (hseveral : 1 < found.length) : Crowded d ((s, .here) :: rest) a
  | deeper {s : Step} {w : Waypoint} {rest : List (Step × Waypoint)} {a m : Address} {found : List Address}
      (hfound : d.sources s a = .ok found) (hm : m ∈ found) (hrest : Crowded d rest m) :
      Crowded d ((s, w) :: rest) a

theorem Crowded.here_mem {d : Descent} {pairs : List (Step × Waypoint)} {a : Address} (h : d.Crowded pairs a) :
    .here ∈ pairs.map Prod.snd := by
  induction h with
  | here _ _ => exact List.mem_cons_self
  | deeper _ _ _ ih => exact List.mem_cons_of_mem _ ih

/-! ## What a descent keeps -/

/-- The property is kept by every way in which a descent combines edits.  It may depend on the waypoints that are
left below the content that is edited, and it need not be one of edits that are stopped by other errors than those
of `E`. -/
structure Compositional (d : Descent) (E : Error → Prop) (P : List Waypoint → Edit → Prop) : Prop where
  done : ∀ ws, P ws .done
  fail : ∀ ws e, E e → P ws (.fail e)
  andThen : ∀ {ws : List Waypoint} {f g : Edit}, P ws f → P ws g → P ws (f.andThen g)
  here : ∀ {ws : List Waypoint} {f : Edit}, P ws f → P (.here :: ws) f
  pairing : ∀ {ws : List Waypoint} {name : Name} {q : QName} {fs : List Edit}, d.resolve name = .ok q →
    (∀ f ∈ fs, P ws f) → P (.child name :: ws) (.pairing q fs)
  allNamed : ∀ {ws : List Waypoint} {name : Name} {q : QName} {f : Edit}, d.resolve name = .ok q →
    P ws f → P (.child name :: ws) (.andThen (.pad q 1) (.allNamed q f))

/-- What is asked on the way down along steps and waypoints raises only errors of `E`. -/
structure AsksOnly (d : Descent) (E : Error → Prop) (steps : List Step) (waypoints : List Waypoint) : Prop where
  sources : ∀ s ∈ steps, ∀ context e, d.sources s context = .error e → E e
  names : ∀ name, .child name ∈ waypoints → ∀ e, d.resolve name = .error e → E e

/-- On the way down along steps and waypoints only errors of `E` arise. -/
structure RaisesOnly (d : Descent) (E : Error → Prop) (steps : List Step) (waypoints : List Waypoint) : Prop
    extends AsksOnly d E steps waypoints where
  uncreatable : .here ∈ waypoints → E (.uncreatableStep Waypoint.here.display)

theorem AsksOnly.mono {d : Descent} {E : Error → Prop} {steps steps' : List Step}
    {waypoints waypoints' : List Waypoint} (h : d.AsksOnly E steps waypoints) (hsteps : steps' ⊆ steps)
    (hwaypoints : waypoints' ⊆ waypoints) : d.AsksOnly E steps' waypoints' where
  sources s hs := h.sources s (hsteps hs)
  names name hname := h.names name (hwaypoints hname)

section Compositional

variable {d : Descent} {E : Error → Prop} {P : List Waypoint → Edit → Prop} (h : d.Compositional E P)

include h

theorem Compositional.sequence_map {α : Type} {k : α → Edit} {as : List α} {ws : List Waypoint}
    (hk : ∀ a ∈ as, P ws (k a)) : P ws (Edit.sequence (as.map k)) := by
  induction as with
  | nil => exact h.done ws
  | cons a as ih =>
    exact h.andThen (hk a List.mem_cons_self) (ih fun b hb => hk b (List.mem_cons_of_mem _ hb))

theorem Compositional.given {α : Type} {r : Except Error α} {k : α → Edit} {ws : List Waypoint}
    (hr : ∀ e, r = .error e → E e) (hk : ∀ a, r = .ok a → P ws (k a)) : P ws (Edit.given r k) := by
  cases r with
  | ok a => exact hk a rfl
  | error e => exact h.fail ws e (hr e rfl)

theorem render_of_compositional {context : Address} (ws : List Waypoint)
    (hrows : ∀ e, d.rows context = .error e → E e)
    (hrow : ∀ rows row, d.rows context = .ok rows → row ∈ rows → ∀ e, d.renderRow row = .error e → E e)
    (hplace : ∀ text, d.RendersAt context text → P ws (.whole (Fragment.place d.root text))) :
    P ws (d.render context) := by
  refine h.given hrows fun rows hok => h.sequence_map fun row hmem =>
    h.given (hrow rows row hok hmem) fun rendered? hrendered => ?_
  cases rendered? with
  | some rendered => exact hplace rendered ⟨rows, row, hok, hmem, hrendered⟩
  | none => exact h.done ws

theorem alongSteps_of_compositional {k : Address → Edit} (steps : List Step) (ws : List Waypoint)
    (hasks : d.AsksOnly E steps []) {context : Address} (hk : ∀ m, d.Leads steps context m → P ws (k m)) :
    P ws (d.alongSteps k steps context) := by
  induction steps generalizing context with
  | nil => exact hk context (.nil context)
  | cons s rest ih =>
    have hrest := hasks.mono (List.subset_cons_self s rest) (List.Subset.refl [])
    exact h.given (hasks.sources s List.mem_cons_self context) fun found hfound =>
      h.sequence_map fun m hm => ih hrest fun m' hm' => hk m' (.cons hfound hm hm')

theorem alongAligned_of_compositional (pairs : List (Step × Waypoint))
    (hasks : d.AsksOnly E (pairs.map Prod.fst) (pairs.map Prod.snd)) {context : Address}
    (hcrowded : d.Crowded pairs context → E (.uncreatableStep Waypoint.here.display))
    (hrender : ∀ m, d.Leads (pairs.map Prod.fst) context m → P [] (d.render m)) :
    P (pairs.map Prod.snd) (d.alongAligned d.render pairs context) := by
  induction pairs generalizing context with
  | nil => exact hrender context (.nil context)
  | cons pair rest ih =>
    obtain ⟨s, w⟩ := pair
    have hbelow := hasks.mono (List.subset_cons_self s _) (List.subset_cons_self w _)
    refine h.given (hasks.sources s List.mem_cons_self context) fun found hfound => ?_
    have hrest : ∀ m ∈ found, P (rest.map Prod.snd) (d.alongAligned d.render rest m) := fun m hm =>
      ih hbelow (fun hm' => hcrowded (.deeper hfound hm hm')) fun m' hm' => hrender m' (.cons hfound hm hm')
    cases w with
    | here =>
      dsimp only
      split
      · rename_i hseveral
        exact h.fail _ _ (hcrowded (.here hfound hseveral))
      · exact h.here (h.sequence_map hrest)
    | child name =>
      refine h.given (hasks.names name List.mem_cons_self) fun q hq => ?_
      rw [← Edit.pairing_map]
      refine h.pairing hq fun f hf => ?_
      obtain ⟨m, hm, rfl⟩ := List.mem_map.mp hf
      exact hrest m hm

theorem alongWaypoints_of_compositional {k : Edit} (ws : List Waypoint) (hk : P ws k) (waypoints : List Waypoint)
    (hasks : d.AsksOnly E [] waypoints) : P (waypoints ++ ws) (d.alongWaypoints k waypoints) := by
  induction waypoints with
  | nil => exact hk
  | cons w rest ih =>
    have hrest := ih (hasks.mono (List.Subset.refl []) (List.subset_cons_self w rest))
    cases w with
    | here => exact h.here hrest
    | child name =>
      exact h.given (hasks.names name List.mem_cons_self) fun q hq => h.allNamed hq hrest

/-- What is kept along a route, where a waypoint `.` raises an error only if it is crowded. -/
theorem follow_of_asksOnly (route : Route)
    (hasks : d.AsksOnly E (route.surplusSteps ++ route.aligned.map Prod.fst)
      (route.surplusWaypoints ++ route.aligned.map Prod.snd)) {context : Address}
    (hcrowded : ∀ m, d.Leads route.surplusSteps context m → d.Crowded route.aligned m →
      E (.uncreatableStep Waypoint.here.display))
    (hrender : ∀ m, d.Leads (route.surplusSteps ++ route.aligned.map Prod.fst) context m → P [] (d.render m)) :
    P (route.surplusWaypoints ++ route.aligned.map Prod.snd) (d.follow route context) := by
  refine alongWaypoints_of_compositional h _ ?_ _
    (hasks.mono (List.nil_subset _) (List.subset_append_left _ _))
  refine alongSteps_of_compositional h _ _
    (hasks.mono (List.subset_append_left _ _) (List.nil_subset _)) fun m hm => ?_
  exact alongAligned_of_compositional h _
    (hasks.mono (List.subset_append_right _ _) (List.subset_append_right _ _)) (hcrowded m hm)
    fun m' hm' => hrender m' (hm.append hm')

/-- **Whatever the ways of combining edits keep is true of every descent.** -/
theorem follow_of_compositional (steps : List Step) (waypoints : List Waypoint)
    (hraises : d.RaisesOnly E steps waypoints) {context : Address}
    (hrender : ∀ m, d.Leads steps context m → P [] (d.render m)) :
    P waypoints (d.follow (Route.ofPaths steps waypoints) context) := by
  have hsteps := surplusSteps_append_aligned steps waypoints
  have hwaypoints := surplusWaypoints_append_aligned steps waypoints
  generalize Route.ofPaths steps waypoints = route at hsteps hwaypoints ⊢
  subst hsteps hwaypoints
  exact follow_of_asksOnly h route hraises.toAsksOnly
    (fun _ _ hcrowded => hraises.uncreatable (List.mem_append_right _ hcrowded.here_mem)) hrender

end Compositional

/-! ## Properties of edits alone -/

section Preserved

variable {d : Descent} {N : QName → Prop} {P : Edit → Prop} (h : Preserved N P)
  (hnames : ∀ name q, d.resolve name = .ok q → N q)

theorem raisesOnly_any (steps : List Step) (waypoints : List Waypoint) :
    d.RaisesOnly (fun _ => True) steps waypoints where
  sources _ _ _ _ _ := trivial
  names _ _ _ _ := trivial
  uncreatable _ := trivial

include h hnames

theorem compositional_of_preserved : d.Compositional (fun _ => True) fun _ f => P f where
  done _ := h.done
  fail _ e _ := h.fail e
  andThen := h.andThen
  here hf := hf
  pairing hq := h.pairing (hnames _ _ hq)
  allNamed hq := h.allNamed (hnames _ _ hq)

theorem render_of_preserved {context : Address}
    (hplace : ∀ text, d.RendersAt context text → P (.whole (Fragment.place d.root text))) :
    P (d.render context) :=
  render_of_compositional (compositional_of_preserved h hnames) [] (fun _ _ => trivial)
    (fun _ _ _ _ _ _ => trivial) hplace

theorem alongSteps_of_preserved {k : Address → Edit} (steps : List Step) {context : Address}
    (hk : ∀ m, d.Leads steps context m → P (k m)) : P (d.alongSteps k steps context) :=
  alongSteps_of_compositional (compositional_of_preserved h hnames) steps [] (raisesOnly_any _ _).toAsksOnly hk

theorem alongAligned_of_preserved (pairs : List (Step × Waypoint)) {context : Address}
    (hplace : ∀ m text, d.Leads (pairs.map Prod.fst) context m → d.RendersAt m text →
      P (.whole (Fragment.place d.root text))) : P (d.alongAligned d.render pairs context) :=
  alongAligned_of_compositional (compositional_of_preserved h hnames) pairs (raisesOnly_any _ _).toAsksOnly
    (fun _ => trivial) fun m hm => render_of_preserved h hnames fun text htext => hplace m text hm htext

theorem alongWaypoints_of_preserved {k : Edit} (hk : P k) (waypoints : List Waypoint) :
    P (d.alongWaypoints k waypoints) :=
  alongWaypoints_of_compositional (compositional_of_preserved h hnames) [] hk waypoints
    (raisesOnly_any _ _).toAsksOnly

/-- **Whatever the ways of combining edits keep is true of every descent**, also if it depends on nothing but the
names of the elements that are made. -/
theorem follow_of_preserved (steps : List Step) (waypoints : List Waypoint) {context : Address}
    (hplace : ∀ m text, d.Leads steps context m → d.RendersAt m text →
      P (.whole (Fragment.place d.root text))) : P (d.follow (Route.ofPaths steps waypoints) context) :=
  follow_of_compositional (compositional_of_preserved h hnames) steps waypoints (raisesOnly_any _ _)
    fun m hm => render_of_preserved h hnames fun text htext => hplace m text hm htext

end Preserved

end Descent

end Regraft
