import Regraft.Proofs.Calls
import Regraft.Proofs.WellConfigured
/-!
# Waypoints that cannot be created

A waypoint `.` stays at the element that the descent has come to.  There is one such element, so a step that is
aligned with it may lead to one source node at most; one that leads to several stops the rule.  A waypoint `.` in the
surplus of a destination has no step beside it and never stops anything.

Two lines of argument meet in `crowding_stops`:

* a route on which a waypoint is crowded fails on every content (`Descent.fails_follow`), because failure goes up
  through all ways in which a descent combines edits (`Edit.Fails`): there is an element for each edit, so none of
  them is left out;
* what stops a descent is either such a waypoint or another cause, and then something is wrong with the rule
  (`Run.Accounts`, `Run.stopsOnly_follow`).
-/

namespace Regraft

open Xml (Address Node QName)

/-! ## 1. Edits that fail on every content

Failing on every content is a property of an edit that its parts hand up, as long as none of them can be passed over.
The one place where that could happen is a pairing with too few elements, and there padding comes first. -/

namespace Edit

/-- The edit has no success on any content. -/
def Fails (f : Edit) : Prop := ∀ c c', f c ≠ ⟨c', none⟩

theorem Fails.fault_ne_none {f : Edit} (h : Fails f) (c : List Node) : (f c).fault ≠ none := by
  intro hnone
  refine h c (f c).content ?_
  rw [← hnone]

theorem fails_fail (e : Error) : Fails (fail e) := fun _ _ => fail_ne_done

theorem fails_given {α : Type} {r : Except Error α} {k : α → Edit} (hk : ∀ a, r = .ok a → Fails (k a)) :
    Fails (given r k) := by
  intro c c' hc
  obtain ⟨a, ha, hc⟩ := given_eq_done.mp hc
  exact hk a ha c c' hc

theorem fails_sequence {f : Edit} (h : Fails f) {fs : List Edit} (hf : f ∈ fs) : Fails (sequence fs) := by
  induction fs with
  | nil => cases hf
  | cons g fs ih =>
    intro c c' hc
    obtain ⟨c₁, hg, hc⟩ := sequence_cons_eq_done.mp hc
    rcases List.mem_cons.mp hf with rfl | hf
    · exact h c c₁ hg
    · exact ih hf c₁ c' hc

/-- An edit that is paired with elements finds its element, because enough of them are made before. -/
theorem fails_pairing {f : Edit} (h : Fails f) (q : QName) {fs : List Edit} (hf : f ∈ fs) : Fails (pairing q fs) := by
  intro c c' hc
  obtain ⟨i, hi, rfl⟩ := List.mem_iff_getElem.mp hf
  have henough : i < countNamed q (padded q fs.length c) := by
    rw [countNamed_padded]
    omega
  obtain ⟨k, k', hk⟩ := (pairing_eq_done.mp hc).exists_of_lt henough
  rw [Paired, List.getD_eq_getElem?_getD, List.getElem?_eq_getElem hi] at hk
  exact h k k' hk

theorem fails_allNamed {f : Edit} (h : Fails f) (q : QName) : Fails (.andThen (.pad q 1) (.allNamed q f)) := by
  intro c c' hc
  rw [andThen_of_done (pad_eq q 1 c)] at hc
  have hone : 0 < countNamed q (padded q 1 c) := by
    rw [countNamed_padded]
    omega
  obtain ⟨k, k', hk⟩ := (allNamed_done hc).exists_of_lt hone
  exact h k k' hk

end Edit

namespace Descent

open Edit (Fails)

variable {d : Descent} {context m : Address}

theorem fails_alongAligned {pairs : List (Step × Waypoint)} (h : d.Crowded pairs context) :
    Fails (d.alongAligned d.render pairs context) := by
  induction h with
  | here hfound hseveral =>
    refine Edit.fails_given fun found' hfound' => ?_
    cases hfound.symm.trans hfound'
    dsimp only
    rw [if_pos hseveral]
    exact Edit.fails_fail _
  | @deeper s w rest a m found hfound hm _ ih =>
    refine Edit.fails_given fun found' hfound' => ?_
    cases hfound.symm.trans hfound'
    have hmem : d.alongAligned d.render rest m ∈ found.map (d.alongAligned d.render rest) := List.mem_map_of_mem hm
    cases w with
    | here =>
      dsimp only
      split
      · exact Edit.fails_fail _
      · exact Edit.fails_sequence ih hmem
    | child name =>
      refine Edit.fails_given fun q _ => ?_
      rw [← Edit.pairing_map]
      exact Edit.fails_pairing ih q hmem

theorem fails_alongSteps {k : Address → Edit} {steps : List Step} (h : d.Leads steps context m) (hk : Fails (k m)) :
    Fails (d.alongSteps k steps context) := by
  induction h with
  | nil a => exact hk
  | cons hfound hm _ ih =>
    refine Edit.fails_given fun found' hfound' => ?_
    cases hfound.symm.trans hfound'
    exact Edit.fails_sequence (ih hk) (List.mem_map_of_mem hm)

theorem fails_alongWaypoints {k : Edit} (hk : Fails k) : ∀ waypoints, Fails (d.alongWaypoints k waypoints)
  | [] => hk
  | .here :: rest => fails_alongWaypoints hk rest
  | .child _ :: rest => Edit.fails_given fun q _ => Edit.fails_allNamed (fails_alongWaypoints hk rest) q

/-- A crowded waypoint stops the descent, whatever has been built. -/
theorem fails_follow {route : Route} (hm : d.Leads route.surplusSteps context m) (h : d.Crowded route.aligned m) :
    Fails (d.follow route context) :=
  fails_alongWaypoints (fails_alongSteps hm (fails_alongAligned h)) route.surplusWaypoints

end Descent

/-! ## 2. Other causes

All other errors of a descent: of queries, of names, of rows, of templates, of normalizers and of fragments.  Each of
them is told apart from crowding by its form. -/

/-- The cause is not that an element cannot be created. -/
def Error.IsOther (e : Error) : Prop := ∀ text, e ≠ .uncreatableStep text

theorem Resolver.Misses.isOther {r : Resolver} {t : Step} {e : Error} (h : r.Misses t e) : e.IsOther := by
  obtain ⟨used, -, -, rfl⟩ := h
  exact nofun

theorem Template.render_isOther {t : Template} {values : List String} {e : Error} (h : t.render values = .error e) :
    e.IsOther := by
  unfold render at h
  split at h
  · cases h
  · cases h
    exact nofun

theorem Normalizer.process_isOther {n : Normalizer} {value : String} {e : Error} (h : n.process value = .error e) :
    e.IsOther := by
  unfold process at h
  split at h
  · rename_i rendered hfirst
    obtain ⟨rule, -, htry⟩ := List.exists_of_findSome?_eq_some hfirst
    obtain ⟨groups, -, hrender⟩ := Option.map_eq_some_iff.mp htry
    exact Template.render_isOther (hrender.trans (map_error.mp h))
  · cases h

theorem Normalization.applyEach_isOther {row : List String} {normalizers : List ValueNormalizer} {e : Error}
    (h : applyEach row normalizers = .error e) : e.IsOther := by
  fun_induction applyEach row normalizers with
  | case1 value values n normalizers ih =>
    rcases bind_error.mp h with hhere | ⟨here, -, h⟩
    · cases n with
      | function f => cases hhere
      | rules n => exact Normalizer.process_isOther hhere
    · rcases bind_error.mp h with hmore | ⟨more, -, h⟩
      · exact ih hmore
      · cases h
  | case2 => cases h

theorem Normalization.apply_isOther {n : Normalization} {row : List String} {e : Error} (h : n.apply row = .error e) :
    e.IsOther := by
  cases n with
  | passThrough => cases h
  | wholeRow f =>
    rw [apply] at h
    split at h
    · cases h
    · cases h
      exact nofun
  | perValue normalizers => exact applyEach_isOther h

/-- Placing fails only where markup cannot be read. -/
theorem Fragment.place_error {r : Root} {text : String} {c : List Node} {e : Error}
    (h : place r text c = .error e) : isMarkup text = true ∧ read r text = .error e ∧ e.IsOther := by
  unfold place at h
  split at h
  · rename_i hmarkup
    have hread := map_error.mp h
    refine ⟨hmarkup, hread, ?_⟩
    rw [read_eq] at hread
    split at hread
    · cases hread
    · cases hread
      exact nofun
  · split at h
    · cases h
    · cases h

namespace Descent

variable {d : Descent} {context : Address} {e : Error}

theorem sources_isOther {s : Step} (h : d.sources s context = .error e) : e.IsOther := by
  obtain ⟨t, -, hmisses⟩ := takes_of_step s context e (map_error.mp h)
  exact hmisses.isOther

theorem resolve_isOther {name : Name} (h : d.resolve name = .error e) : e.IsOther := by
  unfold resolve at h
  cases hname : d.root.resolver.elementName name with
  | ok q => rw [hname] at h; cases h
  | error unbound =>
    rw [hname] at h
    cases h
    exact nofun

/-- Rows cannot be asked only where a value path cannot. -/
theorem rows_error (h : d.rows context = .error e) :
    ∃ p ∈ d.rule.values, d.source.select d.sourceNames context p = .error e := by
  rcases bind_error.mp h with hcolumns | ⟨columns, -, h⟩
  · exact mapM_error hcolumns
  · cases h

theorem renderRow_isOther {row : List String} (h : d.renderRow row = .error e) : e.IsOther := by
  rcases bind_error.mp h with hnormalized | ⟨normalized, -, h⟩
  · exact Normalization.apply_isOther hnormalized
  · split at h
    · rcases bind_error.mp h with hrender | ⟨rendered, -, h⟩
      · exact Template.render_isOther hrender
      · cases h
    · cases h

end Descent

/-! ## 3. Crowding

A route crowds at a step if some contexts that lead there have several matches, of which the destination wants one.
Both lines of argument go along the route. -/

/-- The route of a rule. -/
def Rule.route (rule : Rule) : Route := Route.ofPaths rule.source.steps rule.destination.waypoints

namespace Run

/-- From a node that the surplus steps of the rule lead to, the rest of the descent comes to a waypoint `.` whose
step leads to several nodes. -/
def Crowds (r : Run) (rule : Rule) : Prop :=
  ∃ m, (r.descent rule).Leads rule.route.surplusSteps r.sourceRoot m ∧ (r.descent rule).Crowded rule.route.aligned m

/-- Nothing but a crowded waypoint can stop the rule: all prefixes are bound, and wherever the source path leads,
every row is normalized and fills the template, and what is rendered can be read if it is markup. -/
structure Untroubled (r : Run) (rule : Rule) : Prop where
  source : r.sourceNamespaces.Binds rule.source
  values : ∀ p ∈ rule.values, r.sourceNamespaces.Binds p
  destination : ∀ name, .child name ∈ rule.destination.waypoints → r.root.namespaces.BindsName name
  rows : ∀ context, (r.descent rule).Leads rule.source.steps r.sourceRoot context → ∀ rows row,
    (r.descent rule).rows context = .ok rows → row ∈ rows →
    ∃ rendered?, (r.descent rule).renderRow row = .ok rendered?
  fragments : ∀ context, (r.descent rule).Leads rule.source.steps r.sourceRoot context → ∀ text,
    (r.descent rule).RendersAt context text → Fragment.isMarkup text = true →
    ∃ nodes, Fragment.read r.root text = .ok nodes

/-- What the error of a descent tells: that a waypoint is crowded, or that something else is wrong with the rule. -/
def Accounts (r : Run) (rule : Rule) (e : Error) : Prop :=
  (e = .uncreatableStep "." ∧ r.Crowds rule) ∨ (e.IsOther ∧ ¬ r.Untroubled rule)

variable {r : Run} {rule : Rule}

theorem asksOnly_accounts :
    (r.descent rule).AsksOnly (r.Accounts rule) rule.source.steps rule.destination.waypoints where
  sources s hs context e herror := by
    refine .inr ⟨Descent.sources_isOther herror, fun h => ?_⟩
    have hbinds : (r.descent rule).sourceNames.namespaces.Binds rule.source := h.source
    obtain ⟨found, hfound⟩ := exists_selectNodes_of_binds (d := r.source) hbinds hs context
    cases hfound.symm.trans herror
  names name hname e herror := by
    refine .inr ⟨Descent.resolve_isOther herror, fun h => ?_⟩
    obtain ⟨q, hq⟩ := Descent.exists_resolve (d := r.descent rule) (h.destination name hname)
    cases hq.symm.trans herror

theorem stopsOnly_render {context : Address}
    (hcontext : (r.descent rule).Leads rule.source.steps r.sourceRoot context) :
    Edit.StopsOnly (r.Accounts rule) ((r.descent rule).render context) := by
  refine Descent.render_of_compositional ((r.descent rule).compositional_stopsOnly _) [] ?_ ?_ ?_
  · intro e herror
    obtain ⟨p, hp, hselect⟩ := Descent.rows_error herror
    obtain ⟨t, -, hmisses⟩ := takes_of_steps p.steps [.node context] e hselect
    refine .inr ⟨hmisses.isOther, fun h => ?_⟩
    obtain ⟨items, hitems⟩ := exists_select_of_binds (d := r.source) (r := (r.descent rule).sourceNames)
      (h.values p hp) context
    cases hitems.symm.trans hselect
  · intro rows row hrows hrow e herror
    refine .inr ⟨Descent.renderRow_isOther herror, fun h => ?_⟩
    obtain ⟨rendered?, hrendered⟩ := h.rows context hcontext rows row hrows hrow
    cases hrendered.symm.trans herror
  · intro text htext
    refine Edit.stopsOnly_whole fun c e herror => ?_
    obtain ⟨hmarkup, hread, hother⟩ := Fragment.place_error herror
    refine .inr ⟨hother, fun h => ?_⟩
    obtain ⟨nodes, hnodes⟩ := h.fragments context hcontext text htext hmarkup
    cases hnodes.symm.trans hread

theorem stopsOnly_follow :
    Edit.StopsOnly (r.Accounts rule) ((r.descent rule).follow rule.route r.sourceRoot) := by
  have hsteps := surplusSteps_append_aligned rule.source.steps rule.destination.waypoints
  have hwaypoints := surplusWaypoints_append_aligned rule.source.steps rule.destination.waypoints
  refine Descent.follow_of_asksOnly ((r.descent rule).compositional_stopsOnly _) rule.route ?_ ?_ ?_
  · rw [Rule.route, hsteps, hwaypoints]
    exact asksOnly_accounts
  · exact fun m hm hcrowded => .inl ⟨rfl, m, hm, hcrowded⟩
  · rw [Rule.route, hsteps]
    exact fun m hm => stopsOnly_render hm

/-- Rules fail as their descents do. -/
theorem apply_eq_some {e : Error} : (r.apply rule).2 = some e ↔
    ∃ cause, ((r.descent rule).follow rule.route r.sourceRoot r.content).fault = some cause ∧
      .inRule rule.display cause = e :=
  Option.map_eq_some_iff

theorem crowds_fails (h : r.Crowds rule) : ∃ cause, (r.apply rule).2 = some (.inRule rule.display cause) := by
  obtain ⟨m, hm, hcrowded⟩ := h
  have hfails := (Descent.fails_follow hm hcrowded).fault_ne_none r.content
  obtain ⟨cause, hcause⟩ := Option.ne_none_iff_exists'.mp hfails
  exact ⟨cause, apply_eq_some.mpr ⟨cause, hcause, rfl⟩⟩

end Run

/-- **A rule that nothing else can stop fails exactly if one of its waypoints is crowded**, whatever has been built,
and its error tells the waypoint `.`.  No rule ever fails to create anything but a crowded `.`, and a rule whose
destination has `.` at most in its surplus is not crowded. -/
theorem crowding_stops (r : Run) (rule : Rule) :
    (r.Untroubled rule → ∀ e,
      (r.apply rule).2 = some e ↔ r.Crowds rule ∧ e = .inRule rule.display (.uncreatableStep ".")) ∧
    (∀ text, (r.apply rule).2 = some (.inRule rule.display (.uncreatableStep text)) → text = "." ∧ r.Crowds rule) ∧
    (.here ∉ rule.route.aligned.map Prod.snd → ¬ r.Crowds rule) := by
  have haccounts : ∀ e, (r.apply rule).2 = some e →
      ∃ cause, e = .inRule rule.display cause ∧ r.Accounts rule cause := by
    intro e he
    obtain ⟨cause, hcause, rfl⟩ := Run.apply_eq_some.mp he
    exact ⟨cause, rfl, Run.stopsOnly_follow r.content cause hcause⟩
  have huntroubled : r.Untroubled rule → ∀ e, (r.apply rule).2 = some e →
      r.Crowds rule ∧ e = .inRule rule.display (.uncreatableStep ".") := by
    intro h e he
    obtain ⟨cause, rfl, ⟨rfl, hcrowds⟩ | ⟨-, hnot⟩⟩ := haccounts e he
    · exact ⟨hcrowds, rfl⟩
    · exact absurd h hnot
  refine ⟨fun h e => ⟨huntroubled h e, ?_⟩, fun text htext => ?_, ?_⟩
  · rintro ⟨hcrowds, rfl⟩
    obtain ⟨cause, hcause⟩ := Run.crowds_fails hcrowds
    rw [hcause, (huntroubled h _ hcause).2]
  · obtain ⟨cause, hsame, ⟨rfl, hcrowds⟩ | ⟨hother, -⟩⟩ := haccounts _ htext
    · obtain ⟨-, htext⟩ := Error.inRule.inj hsame
      exact ⟨Error.uncreatableStep.inj htext, hcrowds⟩
    · obtain ⟨-, htext⟩ := Error.inRule.inj hsame
      exact absurd htext.symm (hother text)
  · rintro hnone ⟨m, -, hcrowded⟩
    exact hnone hcrowded.here_mem

namespace Sample

/-- From `b/c` to `p/.`: the text of each `c` is to go to the `p` of its `b`. -/
def narrowing : Rule :=
  { rule [] [⟨none, "b"⟩, ⟨none, "c"⟩] with
    destination := ⟨⟨"p/.", steps [⟨none, "p"⟩] ++ [⟨".", .here, []⟩]⟩, [.child ⟨none, "p"⟩, .here], rfl⟩ }

/-- The context is the one row, and its text, escaped, is what is placed: it is no markup. -/
theorem untroubled_narrowing (c : List Node) : (run c).Untroubled narrowing where
  source := by
    change Namespaces.empty.Binds narrowing.source
    decide
  values := by
    change ∀ p ∈ narrowing.values, Namespaces.empty.Binds p
    decide
  destination := by
    intro name hname
    rcases List.mem_cons.mp hname with h | h
    · cases h
      exact nofun
    · cases List.mem_singleton.mp h
  rows := by
    intro context _ rows row hrows hrow
    cases hrows
    cases List.mem_singleton.mp hrow
    exact ⟨_, rfl⟩
  fragments := by
    rintro context - text ⟨rows, row, -, -, htext⟩ hmarkup
    have htemplate : narrowing.template = .parse "%s" := by decide
    have hbracket := Descent.not_mem_of_renderRow (d := (run c).descent narrowing) htemplate (by decide) htext
    rw [Fragment.isMarkup_of_not_mem hbracket] at hmarkup
    cases hmarkup

end Sample

/-- The first `b` of the source has two `c`, so the rule fails, also if there are elements `p` already. -/
theorem narrowing_stops :
    Sample.mixed.Untroubled Sample.narrowing ∧ Sample.mixed.Crowds Sample.narrowing ∧
      (Sample.mixed.apply Sample.narrowing).2 =
        some (.inRule Sample.narrowing.display (.uncreatableStep ".")) := by
  have huntroubled : Sample.mixed.Untroubled Sample.narrowing := Sample.untroubled_narrowing _
  have hcrowds : Sample.mixed.Crowds Sample.narrowing :=
    ⟨[0], .nil [0], .deeper rfl List.mem_cons_self (.here rfl (by decide))⟩
  obtain ⟨hiff, -, -⟩ := crowding_stops Sample.mixed Sample.narrowing
  exact ⟨huntroubled, hcrowds, (hiff huntroubled _).mpr ⟨hcrowds, rfl⟩⟩

/-- From `b` to `./p` the waypoint `.` is surplus and stops nothing, though there are two `b`. -/
example :
    (Sample.mixed.apply { Sample.rule [] [⟨none, "b"⟩] with
      destination :=
        ⟨⟨"./p", ⟨".", .here, []⟩ :: Sample.steps [⟨none, "p"⟩]⟩, [.here, .child ⟨none, "p"⟩], rfl⟩ }).2 = none := by
  rfl

/-! ## Summary

**What is established.**  If nothing else is wrong with a rule, it stops exactly when a waypoint `.` is crowded, and
with the error that names that waypoint.  A waypoint `.` in the surplus of a destination stops nothing.

**What is not.**  Where something else is wrong too, either error may come first, and only that the rule fails is said.
-/

end Regraft
