import Regraft.Proofs.BuiltTexts
import Regraft.Proofs.Independence
import Regraft.Proofs.Meeting
import Regraft.Proofs.Rendering
/-!
# Rules that write texts may be repeated

A rule that places no fragment leaves a document that it does not change when it is applied again, even
where it failed on its way.  That one edit may be repeated does not say so of several in sequence: in the
second round an edit meets what those after it have left in the first.  What helps is that all source
contexts that lead to one element do the same kind of edit there.

* `Edit.Through k f`: the edit `f` does `k` for some values one after the other, and then perhaps stops.
* `Edit.exists_table`: pairings one after the other, up to the first that fails, are one padding after
  which every element gets the edits of its column.  So if columns may be repeated, pairings may.
* `rule_repeated`: the descent of a rule of text may be repeated.
-/

namespace Regraft

open Xml (Address Apart Node QName Tag)
open Edit (countNamed)

/-- Where there are enough elements, none is added. -/
theorem padded_of_le {q : QName} {n : Nat} {c : List Node} (h : n ≤ countNamed q c) : padded q n c = c := by
  rw [padded, Nat.sub_eq_zero_of_le h, List.replicate_zero, List.append_nil]

/-- A change of elements after which another changes none of them leaves what the other leaves. -/
theorem EachNamed.eq_of_settled {q : QName} {R S : Nat → List Node → List Node → Prop} {c c' c'' : List Node}
    (h : EachNamed q R c c') (h' : EachNamed q S c' c'')
    (hRS : ∀ i k k' k'', R i k k' → S i k' k'' → k'' = k') : c'' = c' := by
  induction h generalizing S c'' with
  | nil =>
    cases h'
    rfl
  | named hq hk _ ih =>
    obtain ⟨k'', c₁, rfl, hk', hc'⟩ := h'.named_inv hq
    rw [hRS 0 _ _ _ hk hk', ih hc' fun i => hRS (i + 1)]
  | other hn _ ih =>
    obtain ⟨c₁, rfl, hc'⟩ := h'.other_inv hn
    rw [ih hc' hRS]

/-- What is known of the contents of all elements before a change is known where it is made. -/
theorem EachNamed.restrict {q : QName} {R : Nat → List Node → List Node → Prop} {D : List Node → Prop}
    {c c' : List Node} (h : EachNamed q R c c') (hc : ∀ n ∈ c, D n.content) :
    EachNamed q (fun i k k' => D k ∧ R i k k') c c' := by
  induction h with
  | nil => exact .nil
  | named hq hk _ ih =>
    obtain ⟨hfirst, hrest⟩ := List.forall_mem_cons.mp hc
    exact .named hq ⟨hfirst, hk⟩ (ih hrest)
  | other hn _ ih => exact .other hn (ih fun n hn => hc n (List.mem_cons_of_mem _ hn))

namespace Edit

/-! ## 1. Edits that may be repeated

An edit settles if it leaves alone what it has left.  Two edits that settle need not do so one after the other, and that
is the difficulty.  `Through k` keeps the form of an edit instead, some values of one kind and perhaps a stop, from
which it can be told whether a sequence of such edits settles. -/

/-- Made again, the edit leaves the content as it is, if texts stood apart in it at first. -/
def Settles (f : Edit) : Prop := ∀ c, Apart c → (f (f c).content).content = (f c).content

/-- Changes nothing, and stops if there is an error. -/
def stop (e? : Option Error) : Edit := fun c => ⟨c, e?⟩

/-- The edit does `k` for some values one after the other, and then perhaps stops. -/
def Through {α : Type} (k : α → Edit) (f : Edit) : Prop :=
  ∃ (as : List α) (e? : Option Error), f = (sequence (as.map k)).andThen (stop e?)

theorem andThen_stop_none (f : Edit) : f.andThen (stop none) = f := by
  funext c
  match hf : f c with
  | ⟨c₁, none⟩ => exact andThen_of_done hf
  | ⟨c₁, some e⟩ => exact andThen_of_fault hf

theorem content_andThen_stop (f : Edit) (e? : Option Error) (c : List Node) :
    (f.andThen (stop e?) c).content = (f c).content := by
  match hf : f c with
  | ⟨c₁, none⟩ => rw [andThen_of_done hf]; rfl
  | ⟨c₁, some e⟩ => rw [andThen_of_fault hf]

section Through

variable {α : Type} {k : α → Edit} {f g : Edit}

theorem through_done : Through k done := ⟨[], none, rfl⟩

theorem through_fail (e : Error) : Through k (fail e) := ⟨[], some e, rfl⟩

theorem through_one (a : α) : Through k (k a) := by
  refine ⟨[a], none, ?_⟩
  rw [andThen_stop_none]
  exact (andThen_stop_none (k a)).symm

theorem Through.andThen (hf : Through k f) (hg : Through k g) : Through k (f.andThen g) := by
  obtain ⟨as, e?, rfl⟩ := hf
  obtain ⟨bs, e'?, rfl⟩ := hg
  cases e? with
  | none =>
    refine ⟨as ++ bs, e'?, ?_⟩
    rw [andThen_stop_none, List.map_append, sequence_append, andThen_assoc]
  | some e =>
    refine ⟨as, some e, ?_⟩
    rw [andThen_assoc]
    rfl

theorem Through.sequence_map {β : Type} {j : β → Edit} (hj : ∀ b, Through k (j b)) (bs : List β) :
    Through k (sequence (bs.map j)) := by
  induction bs with
  | nil => exact through_done
  | cons b bs ih => exact (hj b).andThen ih

theorem Through.given {β : Type} {r : Except Error β} {j : β → Edit}
    (hj : ∀ b, r = .ok b → Through k (j b)) : Through k (given r j) := by
  cases r with
  | ok b => exact hj b rfl
  | error e => exact through_fail e

theorem Through.settles (h : Through k f) (hk : ∀ as : List α, Settles (sequence (as.map k))) :
    Settles f := by
  obtain ⟨as, e?, rfl⟩ := h
  intro c hc
  simp only [content_andThen_stop]
  exact hk as c hc

end Through

/-! ## 2. Texts

Of several texts that are written at the front of one content the last one stays.  Written again, they leave it there.
-/

/-- A text that is not empty. -/
abbrev SomeText := { value : String // value.isEmpty = false }

/-- Makes a text begin the content. -/
def write (value : SomeText) : Edit := fun c => ⟨Xml.setLeadingText value c, none⟩

/-- Of several texts the last one stays. -/
theorem sequence_write (vs : List SomeText) {c : List Node} (hc : Apart c) :
    (sequence (vs.map write) c).content =
      match vs.getLast? with
      | some v => Xml.setLeadingText v c
      | none => c := by
  induction vs generalizing c with
  | nil => rfl
  | cons v vs ih =>
    have hfirst : write v c = ⟨Xml.setLeadingText v c, none⟩ := rfl
    rw [List.map_cons, sequence, andThen_of_done hfirst, ih (hc.setLeadingText v)]
    cases hlast : vs.getLast? with
    | none =>
      rw [List.getLast?_eq_none_iff.mp hlast]
      rfl
    | some w =>
      rw [List.getLast?_cons, hlast]
      exact Xml.setLeadingText_twice hc.textsApart v w

/-- Texts that have been written may be written again. -/
theorem settles_sequence_write (vs : List SomeText) :
    Settles (sequence (vs.map write)) := by
  intro c hc
  rw [sequence_write vs hc]
  cases hlast : vs.getLast? with
  | none =>
    dsimp only
    rw [sequence_write vs hc, hlast]
  | some v =>
    dsimp only
    rw [sequence_write vs (hc.setLeadingText v), hlast]
    exact Xml.setLeadingText_twice hc.textsApart v v

/-! ## 3. Pairings

Pairings pad first and then change each element by the edit at its position.  Several pairings one after the other are
reordered: all elements that they add can be added first, since an element that is added later has no edit before that.
What is left is a table with one row for each pairing, and element by element the edits of its column. -/

section Pairings

variable {α : Type} {k : α → Edit} {q : QName}

/-- The values up to the first for which the edit fails, that one included. -/
def cut (k : α → Edit) : List α → List α
  | [] => []
  | a :: as => if (k a []).fault.isNone then a :: cut k as else [a]

/-- What becomes of the `i`-th element if the edits of its column are made in it, as far as they go. -/
def ByColumn (k : α → Edit) (table : List (List α)) (i : Nat) (c c' : List Node) : Prop :=
  (sequence ((column table i).map k) c).content = c'

theorem byColumn_singleton {as : List α} {i : Nat} {c c' : List Node} :
    ByColumn k [as] i c c' ↔ (sequence (as[i]?.toList.map k) c).content = c' := by
  have hcolumn : column [as] i = as[i]?.toList := by
    rw [column_cons]
    exact List.append_nil _
  rw [ByColumn, hcolumn]

theorem byColumn_of_length_le {as : List α} {i : Nat} (hi : as.length ≤ i) (c : List Node) :
    ByColumn k [as] i c c := by
  rw [byColumn_singleton, List.getElem?_eq_none hi]
  rfl

/-- Paired edits change each element by its own edit, up to the first that fails. -/
theorem eachNamed_content (hk : ∀ a, Uniform (k a)) {as : List α} {c : List Node}
    (has : as.length ≤ countNamed q c) :
    EachNamed q (ByColumn k [cut k as]) c (eachNamed q (as.map k) c).content := by
  have hrefl : ∀ c, EachNamed q (ByColumn k [[]]) c c :=
    fun c => .refl (fun i k => byColumn_of_length_le (Nat.zero_le i) k) c
  induction c using named_induction q generalizing as with
  | nil =>
    rw [List.eq_nil_of_length_eq_zero (Nat.le_zero.mp has)]
    exact .nil
  | named tag content c hq ih =>
    rw [countNamed_cons_named hq] at has
    match as with
    | [] =>
      rw [List.map_nil, eachNamed_nil]
      exact hrefl _
    | a :: as =>
      -- Whether the edit fails does not depend on the content, so the cut is the same for all contents.
      have hsame : (k a content).fault = (k a []).fault := hk a content []
      have hfirst : ∀ bs, ByColumn k [a :: bs] 0 content (k a content).content := by
        intro bs
        rw [byColumn_singleton]
        exact congrArg Outcome.content (congrFun (andThen_stop_none (k a)) content)
      cases hfault : (k a []).fault with
      | none =>
        have ha : k a content = ⟨(k a content).content, none⟩ := by rw [← hfault, ← hsame]
        rw [List.map_cons, eachNamed_named_done hq ha, cut, hfault]
        refine .named hq (hfirst _) ((ih (Nat.le_of_succ_le_succ has)).mono fun i k₁ k₂ h => ?_)
        rw [byColumn_singleton] at h ⊢
        exact h
      | some e =>
        have ha : k a content = ⟨(k a content).content, some e⟩ := by rw [← hfault, ← hsame]
        rw [List.map_cons, eachNamed_named_fault hq ha, cut, hfault]
        refine .named hq (hfirst []) ((hrefl c).mono fun i k₁ k₂ h => ?_)
        rw [byColumn_singleton] at h ⊢
        exact h
  | other n c hn ih =>
    rw [countNamed_cons_other hn] at has
    rw [eachNamed_other hn]
    exact .other hn (ih has)

theorem fault_pairing (hk : ∀ a, Uniform (k a)) (as : List α) (c : List Node) :
    (pairing q (as.map k) c).fault = firstFault (as.map k) := by
  rw [pairing, andThen_of_done (pad_eq q _ c)]
  refine fault_eachNamed (fun f hf => ?_) ?_
  · obtain ⟨a, -, rfl⟩ := List.mem_map.mp hf
    exact hk a
  · rw [countNamed_padded]
    exact Nat.le_max_left _ _

/-- **Pairings one after the other, up to the first that fails, change each element by its column.**  The
columns, and how many elements there have to be, do not depend on the content. -/
theorem exists_table (hk : ∀ a, Uniform (k a)) (groups : List (List α)) :
    ∃ n table, ∀ c, EachNamed q (ByColumn k table) (padded q n c)
      (sequence (groups.map fun as => pairing q (as.map k)) c).content := by
  induction groups with
  | nil =>
    refine ⟨0, [], fun c => ?_⟩
    rw [padded_of_le (Nat.zero_le _)]
    exact .refl (fun _ _ => rfl) c
  | cons as groups ih =>
    obtain ⟨n, table, htable⟩ := ih
    cases hfault : firstFault (as.map k) with
    | none =>
      refine ⟨max as.length n, as :: table, fun c => ?_⟩
      have hdone : pairing q (as.map k) c = ⟨(pairing q (as.map k) c).content, none⟩ := by
        rw [← hfault, ← fault_pairing hk]
      rw [List.map_cons, sequence, andThen_of_done hdone]
      have hfirst := pairing_eq_done.mp hdone
      rw [List.length_map] at hfirst
      -- what is added for the later groups is added before the first one instead
      have hearly := hfirst.padded (fun i k' hi => paired_of_length_le (by
        rw [countNamed_padded] at hi
        rw [List.length_map]
        exact Nat.le_trans (Nat.le_max_left _ _) hi) k') n
      rw [padded_padded] at hearly
      refine (hearly.trans (htable _)).mono ?_
      rintro i k₁ k₃ ⟨k₂, hk₂, hk₃⟩
      rw [ByColumn, column_cons, List.map_append, sequence_append, andThen_of_done (paired_map.mp hk₂)]
      exact hk₃
    | some e =>
      refine ⟨as.length, [cut k as], fun c => ?_⟩
      have hstopped : pairing q (as.map k) c = ⟨(pairing q (as.map k) c).content, some e⟩ := by
        rw [← hfault, ← fault_pairing hk]
      rw [List.map_cons, sequence, andThen_of_fault hstopped, pairing,
        andThen_of_done (pad_eq q (as.map k).length c), List.length_map]
      refine eachNamed_content hk ?_
      rw [countNamed_padded]
      exact Nat.le_max_left _ _

/-- If the edits of every column may be repeated, pairings may. -/
theorem settles_sequence_pairing (hk : ∀ a, Uniform (k a))
    (hsettles : ∀ as : List α, Settles (sequence (as.map k))) (groups : List (List α)) :
    Settles (sequence (groups.map fun as => pairing q (as.map k))) := by
  obtain ⟨n, table, htable⟩ := exists_table (q := q) hk groups
  intro c hc
  have hfirst := (htable c).restrict (D := Apart) fun m hm => (apart_padded hc q n).content_of_mem hm
  have hsecond := htable (sequence (groups.map fun as => pairing q (as.map k)) c).content
  have henough : n ≤ countNamed q (sequence (groups.map fun as => pairing q (as.map k)) c).content := by
    rw [hfirst.countNamed_eq, countNamed_padded]
    exact Nat.le_max_left _ _
  rw [padded_of_le henough] at hsecond
  refine hfirst.eq_of_settled hsecond ?_
  rintro i k₁ k₂ k₃ ⟨hk₁, rfl⟩ rfl
  exact hsettles (column table i) k₁ hk₁

end Pairings

/-- An edit for all elements of a name may be repeated if it may be in each of them. -/
theorem settles_allNamed {q : QName} {f : Edit} (huniform : Uniform f) (hf : Settles f) :
    Settles (.andThen (.pad q 1) (.allNamed q f)) := by
  have hpad : ∀ c, andThen (pad q 1) (allNamed q f) c = allNamed q f (padded q 1 c) :=
    fun c => andThen_of_done (pad_eq q 1 c)
  have hall : ∀ c, EachNamed q
      (ByColumn (fun _ : Unit => f) [cut (fun _ => f) (List.replicate (countNamed q c) ())]) c
      (allNamed q f c).content := by
    intro c
    rw [allNamed, ← List.map_replicate (f := fun _ : Unit => f) (a := ())]
    exact eachNamed_content (fun _ => huniform) (Nat.le_of_eq List.length_replicate)
  intro c hc
  rw [hpad, hpad]
  have hfirst := (hall (padded q 1 c)).restrict (D := Apart) fun m hm => (apart_padded hc q 1).content_of_mem hm
  have henough : 1 ≤ countNamed q (allNamed q f (padded q 1 c)).content := by
    rw [hfirst.countNamed_eq, countNamed_padded]
    exact Nat.le_max_left _ _
  rw [padded_of_le henough]
  refine hfirst.eq_of_settled (hall _) ?_
  rw [hfirst.countNamed_eq]
  rintro i k₁ k₂ k₃ ⟨hk₁, hk₂⟩ hk₃
  rw [byColumn_singleton] at hk₂ hk₃
  subst hk₂ hk₃
  cases (cut (fun _ => f) (List.replicate (countNamed q (padded q 1 c)) ()))[i]? with
  | none => rfl
  | some _ =>
    have hone : sequence [f] = f := andThen_stop_none f
    show (sequence [f] (sequence [f] k₁).content).content = (sequence [f] k₁).content
    rw [hone]
    exact hf k₁ hk₁

end Edit

/-! ## 4. Descents

By induction on the aligned part of the route, for all lists of contexts at once: the contexts that lead to one element
are those of its column.  Surplus steps of the source add contexts, and surplus waypoints repeat the whole in other
elements. -/

namespace Descent

open Edit (Settles Through Uniform sequence)

variable {d : Descent} {text : String} (htemplate : d.rule.template = .parse text)
  (htext : '<' ∉ text.toList)

include htemplate htext

/-- Rendering writes some texts. -/
theorem through_render (context : Address) :
    Through Edit.write (d.render context) := by
  refine .given fun rows _ => .sequence_map (fun row => .given fun rendered? h => ?_) rows
  cases rendered? with
  | none => exact Edit.through_done
  | some rendered =>
    rcases Fragment.place_of_no_bracket d.root (not_mem_of_renderRow htemplate htext h) with
      hplace | ⟨value, hvalue, hplace⟩
    · have hdone : Edit.whole (Fragment.place d.root rendered) = Edit.done := by
        funext c
        simp only [Edit.whole, hplace]
        rfl
      dsimp only
      rw [hdone]
      exact Edit.through_done
    · have hwrite : Edit.whole (Fragment.place d.root rendered) = Edit.write ⟨value, hvalue⟩ := by
        funext c
        simp only [Edit.whole, hplace]
        rfl
      dsimp only
      rw [hwrite]
      exact Edit.through_one _

omit htemplate htext in
theorem uniform_alongAligned (pairs : List (Step × Waypoint)) (context : Address) :
    Uniform (d.alongAligned d.render pairs context) :=
  alongAligned_of_preserved Edit.uniform_preserved (fun _ _ _ => trivial) pairs
    fun _ text _ _ => Edit.uniform_place d.root text

/-- All contexts that lead to an element may be taken down the aligned part again. -/
theorem settles_sequence_alongAligned (pairs : List (Step × Waypoint)) (contexts : List Address) :
    Settles (sequence (contexts.map (d.alongAligned d.render pairs))) := by
  induction pairs generalizing contexts with
  | nil =>
    refine (Through.sequence_map (fun context => ?_) contexts).settles Edit.settles_sequence_write
    exact through_render htemplate htext context
  | cons pair rest ih =>
    obtain ⟨s, w⟩ := pair
    cases w with
    | here =>
      refine (Through.sequence_map (fun context => .given fun found _ => ?_) contexts).settles ih
      dsimp only
      split
      · exact Edit.through_fail _
      · exact .sequence_map Edit.through_one found
    | child name =>
      cases hq : d.resolve name with
      | error e =>
        refine (Through.sequence_map (k := d.alongAligned d.render rest) (fun context => .given fun found _ => ?_)
          contexts).settles ih
        dsimp only
        rw [hq]
        exact Edit.through_fail e
      | ok q =>
        refine (Through.sequence_map (k := fun found : List Address =>
          Edit.pairing q (found.map (d.alongAligned d.render rest))) (fun context => .given fun found _ => ?_)
          contexts).settles (Edit.settles_sequence_pairing (fun m => ?_) ih)
        · dsimp only
          rw [hq]
          -- Padding and pairing the edits of one context are one edit of the kind that pairings are made of.
          show Edit.Through _ (Work.andThen (Work.pad q found.length)
            (Work.eachNamed q (found.map (d.alongAligned d.render rest))) : Edit)
          rw [← Edit.pairing_map]
          exact Edit.through_one found
        · exact uniform_alongAligned rest m

omit htemplate htext in
theorem through_alongSteps {k : Address → Edit} (steps : List Step) (context : Address) :
    Through k (d.alongSteps k steps context) := by
  induction steps generalizing context with
  | nil => exact Edit.through_one context
  | cons s rest ih => exact .given fun found _ => .sequence_map ih found

omit htemplate htext in
theorem settles_alongWaypoints {k : Edit} (huniform : Uniform k) (hk : Settles k) (waypoints : List Waypoint) :
    Settles (d.alongWaypoints k waypoints) := by
  induction waypoints with
  | nil => exact hk
  | cons w rest ih =>
    cases w with
    | here => exact ih
    | child name =>
      rw [alongWaypoints]
      cases d.resolve name with
      | error e => exact fun c _ => rfl
      | ok q =>
        have hrest : Uniform (d.alongWaypoints k rest) :=
          alongWaypoints_of_preserved Edit.uniform_preserved (fun _ _ _ => trivial) huniform rest
        exact Edit.settles_allNamed hrest ih

/-- A whole descent may be repeated. -/
theorem settles_follow (route : Route) (context : Address) : Settles (d.follow route context) := by
  have huniform : ∀ context, Uniform (d.alongAligned d.render route.aligned context) :=
    uniform_alongAligned route.aligned
  refine settles_alongWaypoints
    (alongSteps_of_preserved Edit.uniform_preserved (fun _ _ _ => trivial) _ fun m _ => huniform m) ?_ _
  exact (through_alongSteps route.surplusSteps context).settles
    (settles_sequence_alongAligned htemplate htext route.aligned)

end Descent

/-! ## 5. Rules

The hypothesis on the template is that it has no opening bracket, so that nothing that it makes is read as markup.  With
a fragment the statement fails, as a fragment is placed behind what is there each time. -/

/-- **A rule that places no fragment may be repeated.**  Whatever a run has been called to do before, the rule applied
again has the result that it had, and leaves the run as it was, also if it failed on its way.  That is said of every run
with a content in which texts stand apart, as they do in the empty one that a run starts with. -/
theorem rule_repeated {r : Run} (hr : Apart r.content) (calls : List Call) {rule : Rule} {text : String}
    (htemplate : rule.template = .parse text) (htext : '<' ∉ text.toList) :
    ((r.after calls).apply rule).1.apply rule = (r.after calls).apply rule := by
  generalize hreached : r.after calls = reached
  have happart : Apart reached.content := hreached ▸ Run.apart_after hr calls
  refine Prod.ext ?_ (reached.result_withContent _ rule)
  have hcontent : ((reached.descent rule).run reached.sourceRoot (reached.apply rule).1.content).content =
      (reached.apply rule).1.content :=
    Descent.settles_follow (d := reached.descent rule) htemplate htext _ reached.sourceRoot reached.content happart
  exact congrArg (fun content => { reached with content }) hcontent

namespace Sample

/-- A rule that places a fragment beside what there is. -/
def adding : Rule := { rule [⟨none, "p"⟩] [⟨none, "b"⟩] with template := .parse "<i>%s</i>t" }

end Sample

/-- Several texts written into one `p`, and elements made before a failure, are found again as they are, also after a
rule that has placed fragments. -/
theorem sample_rules_repeated :
    Apart Sample.mixed.content ∧ Sample.merging.template = .parse "%s" ∧ Sample.halting.template = .parse "%s" ∧
    '<' ∉ "%s".toList ∧ (Sample.mixed.after [.rule Sample.adding]).content.length = 4 ∧
    ((Sample.mixed.after [.rule Sample.adding]).apply Sample.merging).2 = none ∧
    ((Sample.mixed.after [.rule Sample.adding]).apply Sample.merging).1.apply Sample.merging =
      (Sample.mixed.after [.rule Sample.adding]).apply Sample.merging ∧
    (Sample.mixed.apply Sample.halting).2 =
      some (.inRule Sample.halting.display (.structuralQuery "n:c" ⟨"n", []⟩)) ∧
    (Sample.mixed.apply Sample.halting).1.apply Sample.halting = Sample.mixed.apply Sample.halting := by
  have htext : '<' ∉ "%s".toList := by decide
  have hapart : Apart Sample.mixed.content :=
    .text (by simp [Sample.element, Node.isText]) (.element .nil (.element .nil .nil))
  have hlength : (Sample.mixed.after [.rule Sample.adding]).content.length = 4 := by decide +kernel
  have hmerging : ((Sample.mixed.after [.rule Sample.adding]).apply Sample.merging).2 = none := by
    decide +kernel
  have hhalting : (Sample.mixed.apply Sample.halting).2 =
      some (.inRule Sample.halting.display (.structuralQuery "n:c" ⟨"n", []⟩)) := by rfl
  have htwice := @rule_repeated Sample.mixed hapart [.rule Sample.adding] Sample.merging "%s" rfl htext
  have htwice' := @rule_repeated Sample.mixed hapart [] Sample.halting "%s" rfl htext
  exact ⟨hapart, rfl, rfl, htext, hlength, hmerging, htwice, hhalting, htwice'⟩

end Regraft
