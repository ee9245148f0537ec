import Mathlib.Data.List.Basic
import Regraft.Pattern.Matcher
/-!
# Normal outlines

The outlines of expressions are normal: a sequence has no sequence and nothing empty among its members, and a choice has
no choice among its alternatives.  So a normal outline is put together again from its members or from its alternatives,
and the choice between one alternative is that alternative (`choice_singleton`), even if it is the result of a choice
itself (`choice_choice`).  That is why a group that is not remembered has the outline of what stands in it.
-/

namespace Regraft.Pattern.Outline

open Unicode (CharSet)

/-- An outline whose sequences and choices are flat. -/
def Normal : Outline → Prop
  | seq first rest => first.parts = [first] ∧ rest.parts ≠ [] ∧ first.Normal ∧ rest.Normal
  | alt first rest => first.branches = [first] ∧ first.Normal ∧ rest.Normal
  | _ => True

variable {o p : Outline}

/-! ## 1. Sequences

A sequence is the list of its members, in both directions: `parts` takes it apart and `ofParts` puts it together, and
for a normal outline each undoes the other.  Putting two sequences together may join a literal to a literal, which is no
sequence either. -/

theorem Normal.of_mem_parts (h : o.Normal) (hp : p ∈ o.parts) : p.parts = [p] ∧ p.Normal := by
  induction o with
  | empty => cases hp
  | seq first rest _ ih =>
    obtain ⟨hfirst, -, hnormal, hrest⟩ := h
    rcases List.mem_cons.mp hp with rfl | hp
    · exact ⟨hfirst, hnormal⟩
    · exact ih hrest hp
  | _ =>
    obtain rfl := List.mem_singleton.mp hp
    exact ⟨rfl, h⟩

theorem ofParts_cons (p : Outline) {l : List Outline} (h : l ≠ []) : ofParts (p :: l) = seq p (ofParts l) := by
  cases l with
  | nil => exact absurd rfl h
  | cons => rfl

/-- A normal outline is the sequence of its members. -/
theorem Normal.ofParts_parts (h : o.Normal) : ofParts o.parts = o := by
  induction o with
  | seq first rest _ ih =>
    obtain ⟨-, hne, -, hrest⟩ := h
    rw [parts, ofParts_cons first hne, ih hrest]
  | _ => rfl

/-- The sequence of members has these members. -/
theorem parts_ofParts {l : List Outline} (h : ∀ p ∈ l, p.parts = [p]) : (ofParts l).parts = l := by
  induction l with
  | nil => rfl
  | cons p l ih =>
    obtain ⟨hp, hl⟩ := List.forall_mem_cons.mp h
    cases l with
    | nil => exact hp
    | cons q l => rw [ofParts_cons p (List.cons_ne_nil q l), parts, ih hl]

theorem normal_ofParts {l : List Outline} (h : ∀ p ∈ l, p.parts = [p] ∧ p.Normal) : (ofParts l).Normal := by
  induction l with
  | nil => trivial
  | cons p l ih =>
    obtain ⟨hp, hl⟩ := List.forall_mem_cons.mp h
    cases l with
    | nil => exact hp.2
    | cons q l =>
      refine ⟨hp.1, ?_, hp.2, ih hl⟩
      rw [parts_ofParts fun r hr => (hl r hr).1]
      exact List.cons_ne_nil q l

theorem mem_joinParts {l k : List Outline} (h : p ∈ joinParts l k) : p ∈ l ∨ p ∈ k ∨ ∃ text, p = literal text := by
  fun_induction joinParts l k with
  | case1 => exact .inr (.inl h)
  | case2 a b later =>
    rcases List.mem_cons.mp h with rfl | h
    · exact .inr (.inr ⟨_, rfl⟩)
    · exact .inr (.inl (List.mem_cons_of_mem _ h))
  | case3 q l k _ ih =>
    rcases List.mem_cons.mp h with rfl | h
    · exact .inl List.mem_cons_self
    · exact (ih h).imp_left (List.mem_cons_of_mem _)

/-- One normal outline after another is normal. -/
theorem normal_append {a b : Outline} (ha : a.Normal) (hb : b.Normal) : (append a b).Normal := by
  refine normal_ofParts fun p hp => ?_
  rcases mem_joinParts hp with hp | hp | ⟨text, rfl⟩
  · exact ha.of_mem_parts hp
  · exact hb.of_mem_parts hp
  · exact ⟨rfl, trivial⟩

theorem parts_append {a b : Outline} (ha : a.Normal) (hb : b.Normal) :
    (append a b).parts = joinParts a.parts b.parts := by
  refine parts_ofParts fun p hp => ?_
  rcases mem_joinParts hp with hp | hp | ⟨text, rfl⟩
  · exact (ha.of_mem_parts hp).1
  · exact (hb.of_mem_parts hp).1
  · rfl

/-- Nothing but the empty outline has no members. -/
theorem parts_ne_nil (h : o ≠ empty) : o.parts ≠ [] := by
  cases o with
  | empty => exact absurd rfl h
  | _ => exact List.cons_ne_nil _ _

theorem joinParts_ne_nil {l k : List Outline} (h : l ≠ []) : joinParts l k ≠ [] := by
  fun_induction joinParts l k with
  | case1 => exact absurd rfl h
  | case2 => exact List.cons_ne_nil _ _
  | case3 => exact List.cons_ne_nil _ _

/-! ## 2. Choices

A choice is the list of its alternatives in the same way.  What a set comes to is a character, a set, or what matches
nothing, and none of these is a choice or empty. -/

/-- An outline that is no choice. -/
def IsBranch (o : Outline) : Prop := o.branches = [o]

theorem Normal.of_mem_branches (h : o.Normal) (hp : p ∈ o.branches) : p.IsBranch ∧ p.Normal := by
  induction o with
  | alt first rest _ ih =>
    obtain ⟨hfirst, hnormal, hrest⟩ := h
    rcases List.mem_cons.mp hp with rfl | hp
    · exact ⟨hfirst, hnormal⟩
    · exact ih hrest hp
  | _ =>
    obtain rfl := List.mem_singleton.mp hp
    exact ⟨rfl, h⟩

theorem branches_ne_nil (o : Outline) : o.branches ≠ [] := by
  cases o <;> exact List.cons_ne_nil _ _

/-- The choice between alternatives has these alternatives. -/
theorem branches_ofBranches {l : List Outline} (hne : l ≠ []) (h : ∀ p ∈ l, p.IsBranch) :
    (ofBranches l).branches = l := by
  induction l with
  | nil => exact absurd rfl hne
  | cons p l ih =>
    obtain ⟨hp, hl⟩ := List.forall_mem_cons.mp h
    cases l with
    | nil => exact hp
    | cons q l =>
      show p :: (ofBranches (q :: l)).branches = _
      rw [ih (List.cons_ne_nil q l) hl]

theorem normal_ofBranches {l : List Outline} (h : ∀ p ∈ l, p.IsBranch ∧ p.Normal) : (ofBranches l).Normal := by
  induction l with
  | nil => trivial
  | cons p l ih =>
    obtain ⟨hp, hl⟩ := List.forall_mem_cons.mp h
    cases l with
    | nil => exact hp.2
    | cons q l => exact ⟨hp.1, hp.2, ih hl⟩

theorem isBranch_ofSet (ascii : Bool) (s : CharSet) : (ofSet ascii s).IsBranch := by
  rw [ofSet]
  split <;> rfl

theorem normal_ofSet (ascii : Bool) (s : CharSet) : (ofSet ascii s).Normal := by
  rw [ofSet]
  split <;> trivial

theorem ofSet_ne_empty (ascii : Bool) (s : CharSet) : ofSet ascii s ≠ empty := by
  rw [ofSet]
  split <;> nofun

theorem joinParts_cases {l k : List Outline} (hl : l ≠ []) (hk : k ≠ []) :
    (∃ text, joinParts l k = [literal text]) ∨ ∃ p q r, joinParts l k = p :: q :: r := by
  fun_induction joinParts l k with
  | case1 => exact absurd rfl hl
  | case2 a b later =>
    cases later with
    | nil => exact .inl ⟨_, rfl⟩
    | cons => exact .inr ⟨_, _, _, rfl⟩
  | case3 p l k _ ih =>
    obtain ⟨q, r, hqr⟩ : ∃ q r, joinParts l k = q :: r := by
      cases l with
      | nil => exact List.exists_cons_of_ne_nil hk
      | cons q l => exact List.exists_cons_of_ne_nil (joinParts_ne_nil (List.cons_ne_nil q l))
    exact .inr ⟨p, q, r, by rw [hqr]⟩

/-- What has something before it is no choice. -/
theorem isBranch_append {a b : Outline} (ha : a ≠ empty) (hb : b ≠ empty) : (append a b).IsBranch := by
  rw [append]
  rcases joinParts_cases (parts_ne_nil ha) (parts_ne_nil hb) with ⟨text, h⟩ | ⟨p, q, r, h⟩ <;> rw [h] <;> rfl

theorem append_ne_empty {a b : Outline} (hanormal : a.Normal) (hbnormal : b.Normal) (ha : a ≠ empty) :
    append a b ≠ empty := fun h => by
  have hparts := parts_append hanormal hbnormal
  rw [h] at hparts
  exact joinParts_ne_nil (parts_ne_nil ha) hparts.symm

/-! ## 3. Sizes

Choosing takes out what the alternatives begin with and chooses again between what is left, as often as a bound allows.
The bound is the number of outlines in all alternatives.  Taking a member out of each makes all of them smaller, so the
bound is never met, and choosing ends because nothing more can be done. -/

theorem nodes_pos (o : Outline) : 0 < o.nodes := by
  cases o <;> exact Nat.succ_pos _

/-- The number of outlines in several outlines. -/
def total : List Outline → Nat
  | [] => 0
  | o :: os => o.nodes + total os

theorem total_cons (o : Outline) (os : List Outline) : total (o :: os) = o.nodes + total os :=
  rfl

theorem total_append (os ps : List Outline) : total (os ++ ps) = total os + total ps := by
  induction os with
  | nil => exact (Nat.zero_add _).symm
  | cons o os ih => rw [List.cons_append, total_cons, total_cons, ih, Nat.add_assoc]

theorem total_branches_le (o : Outline) : total o.branches ≤ o.nodes := by
  induction o with
  | alt first rest _ ih =>
    show first.nodes + total rest.branches ≤ first.nodes + rest.nodes + 1
    omega
  | _ => exact Nat.le_of_eq (Nat.add_zero _)

theorem total_flatMap_le (os : List Outline) : total (os.flatMap branches) ≤ total os := by
  induction os with
  | nil => exact Nat.le_refl _
  | cons o os ih =>
    have ho := total_branches_le o
    rw [List.flatMap_cons, total_append, total_cons]
    omega

theorem nodes_ofParts_cons_le (p : Outline) (l : List Outline) :
    (ofParts (p :: l)).nodes ≤ p.nodes + (ofParts l).nodes + 1 := by
  cases l with
  | nil => exact Nat.le_add_right p.nodes 2
  | cons => exact Nat.le_refl _

/-- What is left of an outline without its first members is no larger. -/
theorem nodes_ofParts_drop_le (o : Outline) (k : Nat) : (ofParts (o.parts.drop k)).nodes ≤ o.nodes := by
  induction o generalizing k with
  | empty => exact Nat.le_of_eq (by rw [parts, List.drop_nil, ofParts])
  | seq first rest _ ih =>
    cases k with
    | zero =>
      have hrest := ih 0
      have hcons := nodes_ofParts_cons_le first rest.parts
      rw [List.drop_zero] at hrest
      show (ofParts (first :: rest.parts)).nodes ≤ first.nodes + rest.nodes + 1
      omega
    | succ k =>
      have hrest := ih k
      show (ofParts (rest.parts.drop k)).nodes ≤ first.nodes + rest.nodes + 1
      omega
  | _ =>
    cases k with
    | zero => exact Nat.le_refl _
    | succ k =>
      have hnil : ∀ q : Outline, [q].drop (k + 1) = [] := fun q => List.drop_eq_nil_of_le (Nat.le_add_left 1 k)
      exact Nat.le_trans (Nat.le_of_eq (congrArg (fun l => (ofParts l).nodes) (hnil _))) (nodes_pos _)

/-- What is left of a sequence without some members is smaller. -/
theorem nodes_ofParts_drop_lt {k : Nat} (hk : 0 < k) (hparts : 1 < o.parts.length) :
    (ofParts (o.parts.drop k)).nodes < o.nodes := by
  obtain ⟨k, rfl⟩ : ∃ n, k = n + 1 := ⟨k - 1, by omega⟩
  cases o with
  | seq first rest =>
    have hrest := nodes_ofParts_drop_le rest k
    show (ofParts (rest.parts.drop k)).nodes < first.nodes + rest.nodes + 1
    omega
  | empty => exact absurd hparts (Nat.not_lt_zero 1)
  | _ => exact absurd hparts (Nat.lt_irrefl 1)

theorem total_map_lt {os : List Outline} {f : Outline → Outline} (hne : os ≠ [])
    (h : ∀ o ∈ os, (f o).nodes < o.nodes) : total (os.map f) < total os := by
  induction os with
  | nil => exact absurd rfl hne
  | cons o os ih =>
    obtain ⟨ho, hos⟩ := List.forall_mem_cons.mp h
    cases os with
    | nil =>
      rw [List.map_singleton, total_cons, total_cons]
      exact Nat.add_lt_add_right ho _
    | cons q os =>
      have hlater := ih (List.cons_ne_nil q os) hos
      rw [List.map_cons, total_cons, total_cons]
      omega

/-! ## 4. Alternatives that begin alike

What several alternatives begin with is at the front of each of them; if it is anything at all then each has a member
behind it, since only sequences share. -/

theorem mem_commonParts {l k : List Outline} (h : p ∈ commonParts l k) : p ∈ l := by
  fun_induction commonParts l k with
  | case1 q l k ih =>
    rcases List.mem_cons.mp h with rfl | h
    · exact List.mem_cons_self
    · exact List.mem_cons_of_mem _ (ih h)
  | case2 => cases h
  | case3 => cases h

theorem mem_foldl_commonParts {os l : List Outline} (h : p ∈ os.foldl (fun shared o => commonParts shared o.parts) l) :
    p ∈ l := by
  induction os generalizing l with
  | nil => exact h
  | cons o os ih => exact mem_commonParts (ih h)

/-- What several alternatives begin with is a part of the first of them, and each of them is a sequence. -/
theorem sharedParts_inv {os : List Outline} (h : sharedParts os ≠ []) :
    (∀ o ∈ os, 1 < o.parts.length) ∧ ∃ o ∈ os, ∀ p ∈ sharedParts os, p ∈ o.parts := by
  cases os with
  | nil => exact absurd rfl h
  | cons o os =>
    rw [sharedParts] at h ⊢
    split at h
    · rename_i hall
      rw [if_pos hall]
      exact ⟨by simpa using hall, o, List.mem_cons_self, fun p hp => mem_foldl_commonParts hp⟩
    · exact absurd rfl h

/-! ## 5. Choices of choices

The result of a choice is normal, it is empty only if there was one alternative to begin with, and either it is no
choice or its alternatives are chosen between as they are (`Apart`): not all are characters, not all are sets, and they
do not begin alike.  That is what it takes for a second choice to change nothing. -/

/-- Alternatives that are chosen between as they are. -/
structure Apart (os : List Outline) : Prop where
  chars : os.mapM char? = none
  sets : os.mapM set? = none
  shared : sharedParts os = []

theorem length_le_flatMap_branches (os : List Outline) : os.length ≤ (os.flatMap branches).length := by
  induction os with
  | nil => exact Nat.le_refl 0
  | cons o os ih =>
    have ho := List.length_pos_iff.mpr (branches_ne_nil o)
    rw [List.flatMap_cons, List.length_append, List.length_cons]
    omega

/-- What a choice comes to. -/
structure Chosen (o : Outline) (several : Prop) : Prop where
  normal : o.Normal
  ne_empty : several → o ≠ empty
  apart : o.IsBranch ∨ Apart o.branches

/-- What a choice comes to, by induction on its bound. -/
theorem chosen_choose {fuel : Nat} {os : List Outline} (hne : os ≠ []) (hnormal : ∀ o ∈ os, o.Normal)
    (hfuel : total os < fuel) : Chosen (choose fuel os) (1 < os.length) := by
  induction fuel generalizing os with
  | zero => exact absurd hfuel (Nat.not_lt_zero _)
  | succ fuel ih =>
    -- The choice is flat first; what follows is about its branches.
    have hflat : ∀ b ∈ os.flatMap branches, b.IsBranch ∧ b.Normal := fun b hb => by
      obtain ⟨o, ho, hb⟩ := List.mem_flatMap.mp hb
      exact (hnormal o ho).of_mem_branches hb
    have hlength := length_le_flatMap_branches os
    have htotal := total_flatMap_le os
    have hpos := List.length_pos_iff.mpr hne
    rw [choose]
    generalize os.flatMap branches = flat at *
    have hbranches := branches_ofBranches (l := flat) (List.length_pos_iff.mp (by omega)) fun b hb => (hflat b hb).1
    split
    · rename_i hone
      obtain ⟨b, rfl⟩ := List.length_eq_one_iff.mp hone
      exact ⟨normal_ofBranches hflat, fun h => by omega, .inl hbranches⟩
    · rename_i hseveral
      split
      · exact ⟨normal_ofSet _ _, fun _ => ofSet_ne_empty _ _, .inl (isBranch_ofSet _ _)⟩
      · exact ⟨normal_ofSet _ _, fun _ => ofSet_ne_empty _ _, .inl (isBranch_ofSet _ _)⟩
      · rename_i hchars hsets
        split
        · rename_i hshared
          refine ⟨normal_ofBranches hflat, fun _ heq => ?_, .inr (by rw [hbranches]; exact ⟨hchars, hsets, hshared⟩)⟩
          rw [heq] at hbranches
          have : flat.length = 1 := by rw [← hbranches]; rfl
          omega
        · rename_i hshared
          -- What they share is taken out, and the induction goes on with what is left, which is smaller.
          generalize hl : sharedParts flat = l at hshared ⊢
          obtain ⟨hlong, o, ho, hmem⟩ := @sharedParts_inv flat fun hnil => hshared (hl ▸ hnil)
          rw [hl] at hmem
          have hl' : ∀ p ∈ l, p.parts = [p] ∧ p.Normal := fun p hp => (hflat o ho).2.of_mem_parts (hmem p hp)
          have hparts : (ofParts l).parts = l := parts_ofParts fun p hp => (hl' p hp).1
          have hbegin : ofParts l ≠ empty := fun h => hshared (by rw [← hparts, h, parts])
          have hrest : ∀ q ∈ flat.map fun o => ofParts (o.parts.drop l.length), q.Normal := fun q hq => by
            obtain ⟨b, hb, rfl⟩ := List.mem_map.mp hq
            exact normal_ofParts fun p hp => (hflat b hb).2.of_mem_parts (List.mem_of_mem_drop hp)
          have hsmaller := total_map_lt (List.ne_nil_of_mem ho) fun b hb =>
            nodes_ofParts_drop_lt (List.length_pos_iff.mpr hshared) (hlong b hb)
          have hchosen := ih (mt List.map_eq_nil_iff.mp (List.ne_nil_of_mem ho)) hrest (by omega)
          rw [List.length_map] at hchosen
          have hend := hchosen.ne_empty (by omega)
          exact ⟨normal_append (normal_ofParts hl') hchosen.normal,
            fun _ => append_ne_empty (normal_ofParts hl') hchosen.normal hbegin, .inl (isBranch_append hbegin hend)⟩

theorem ofBranches_branches (o : Outline) : ofBranches o.branches = o := by
  induction o with
  | alt first rest _ ih =>
    obtain ⟨b, bs, hbs⟩ := List.exists_cons_of_ne_nil (branches_ne_nil rest)
    rw [branches, hbs, ofBranches, ← hbs, ih]
    simp
  | _ => rfl

theorem foldl_nodes (os : List Outline) (n : Nat) : os.foldl (fun n o => n + o.nodes) n = n + total os := by
  induction os generalizing n with
  | nil => rfl
  | cons o os ih => rw [List.foldl_cons, ih, total_cons, Nat.add_assoc]

theorem chosen_choice {os : List Outline} (hne : os ≠ []) (hnormal : ∀ o ∈ os, o.Normal) :
    Chosen (choice os) (1 < os.length) :=
  chosen_choose hne hnormal (by rw [foldl_nodes]; omega)

/-- The choice between the one result of a choice is that result. -/
theorem Chosen.choice_singleton {several : Prop} (h : Chosen o several) : choice [o] = o := by
  have hflat : [o].flatMap branches = o.branches := List.append_nil _
  rw [choice, List.foldl_cons, List.foldl_nil, Nat.add_comm, choose, hflat]
  split
  · exact ofBranches_branches o
  · rename_i hlength
    rcases h.apart with hbranch | hapart
    · exact absurd (by rw [hbranch, List.length_singleton]) hlength
    · rw [hapart.chars, hapart.sets, hapart.shared]
      exact ofBranches_branches o

/-! ## 6. Outlines of expressions

Every outline of an expression is the result of a choice, so a choice between it alone is that outline.  A group that is
not remembered is such a choice, and so is every part of a sequence; which is why an expression can be put into a group
and behind a condition without being compiled in another way. -/

theorem alternatives_ne_nil (r : Regex) : alternatives r ≠ [] := by
  induction r with
  | group index r => cases index <;> exact List.cons_ne_nil _ _
  | _ => exact List.cons_ne_nil _ _

/-- The alternatives of an expression are normal. -/
theorem normal_alternatives (r : Regex) : ∀ o ∈ alternatives r, o.Normal := by
  have hchoice (r : Regex) (h : ∀ o ∈ alternatives r, o.Normal) : (choice (alternatives r)).Normal :=
    (chosen_choice (alternatives_ne_nil r) h).normal
  induction r with
  | empty => exact List.forall_mem_singleton.mpr trivial
  | char ascii s => exact List.forall_mem_singleton.mpr (normal_ofSet ascii s)
  | look l => exact List.forall_mem_singleton.mpr trivial
  | group index r ih =>
    cases index with
    | none => exact List.forall_mem_singleton.mpr (hchoice r ih)
    | some index => exact List.forall_mem_singleton.mpr trivial
  | seq a b iha ihb => exact List.forall_mem_singleton.mpr (normal_append (hchoice a iha) (hchoice b ihb))
  | alt a b iha ihb => exact List.forall_mem_cons.mpr ⟨hchoice a iha, ihb⟩
  | loop greedy min max r => exact List.forall_mem_singleton.mpr trivial

/-- The outline of an expression is the result of a choice. -/
theorem chosen_ofRegex (r : Regex) : Chosen (ofRegex r) (1 < (alternatives r).length) :=
  chosen_choice (alternatives_ne_nil r) (normal_alternatives r)

theorem normal_ofRegex (r : Regex) : (ofRegex r).Normal :=
  (chosen_ofRegex r).normal

/-- A group that is not remembered has the outline of what stands in it. -/
theorem ofRegex_group_none (r : Regex) : ofRegex (.group none r) = ofRegex r :=
  (chosen_ofRegex r).choice_singleton

theorem joinParts_nil (l : List Outline) : joinParts l [] = l := by
  induction l with
  | nil => rfl
  | cons o l ih =>
    rw [joinParts, ih]
    simp

theorem empty_append (h : o.Normal) : append empty o = o :=
  h.ofParts_parts

theorem append_empty (h : o.Normal) : append o empty = o := by
  rw [append, parts, joinParts_nil, h.ofParts_parts]

/-- What stands one after the other is compiled one after the other. -/
theorem ofRegex_seq (a b : Regex) : ofRegex (.seq a b) = append (ofRegex a) (ofRegex b) := by
  show choice [append (ofRegex a) (ofRegex b)] = _
  by_cases ha : ofRegex a = empty
  · rw [ha, empty_append (normal_ofRegex b)]
    exact (chosen_ofRegex b).choice_singleton
  by_cases hb : ofRegex b = empty
  · rw [hb, append_empty (normal_ofRegex a)]
    exact (chosen_ofRegex a).choice_singleton
  have hchosen : Chosen (append (ofRegex a) (ofRegex b)) False :=
    ⟨normal_append (normal_ofRegex a) (normal_ofRegex b), nofun, .inl (isBranch_append ha hb)⟩
  exact hchosen.choice_singleton

theorem append_look (l : Look) (h : o.Normal) (hne : o ≠ empty) : append (look l) o = seq (look l) o := by
  have hparts : joinParts [look l] o.parts = look l :: o.parts := by
    rw [joinParts, joinParts]
    simp
  rw [append, parts, hparts, ofParts_cons _ (parts_ne_nil hne), h.ofParts_parts]
  all_goals nofun

/-- The outline of an expression that is bound to the start is that of the expression behind the condition. -/
theorem ofRegex_anchored (r : Regex) : ofRegex (.seq (.look .textStart) (.group none r)) =
    if ofRegex r = empty then look .textStart else seq (look .textStart) (ofRegex r) := by
  have hlook : ofRegex (.look .textStart) = look .textStart := rfl
  rw [ofRegex_seq, ofRegex_group_none, hlook]
  split
  · rename_i hr
    rw [hr]
    exact append_empty (o := look .textStart) trivial
  · rename_i hr
    exact append_look _ (normal_ofRegex r) hr

end Regraft.Pattern.Outline
