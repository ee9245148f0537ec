import Mathlib.Data.List.Basic
import Regraft.Proofs.CharacterSets
import Regraft.Proofs.NormalOutlines
import Regraft.Proofs.WrittenPrograms
/-!
# What outlines of expressions match

An expression says by itself from which places of a text it matches to which others (`Regex.Matches`).  Its outline
matches from and to the same places (`matches_ofRegex_iff`), though it may be of quite another form: sequences and
alternatives are flat, adjacent characters are one literal, single characters and sets are one set, and what all
alternatives begin with stands before them.

Each of these is an operation on lists of outlines, so there are two meanings of a list, one for each way of reading
it: one outline after the other (`InOrder`) and one of several (`OneOf`).  Every operation is shown to keep one of the
two, and taking an outline apart and putting it together again leads from an outline to a list and back.

Two conditions are needed.  Sets must be proper, so that the union of sets holds what one of them holds; and a loop must
be allowed to go round as often as it has to (`Regex.Proper`).  `ProperPatterns` shows of every pattern that is read
that it fulfils both.

Which of several matches is preferred does not concern this module, but it is why the operations are so careful: two
alternatives that begin alike come to the same places with or without what they share in front, but groups in them may
be met in another order (see the example in 6).
-/

namespace Regraft.Pattern

open Unicode (CharSet)

/-! ## 1. What expressions match

The meaning of an expression is a relation between places, by recursion on the expression.  A loop is some number of
rounds within its bounds; as a relation it is the same however greedy it is. -/

/-- From which places to which others an expression matches. -/
def Regex.Matches : Regex → Matching
  | empty => fun a b => b = a
  | char _ s => .char s
  | look l => .look l
  | group _ r => r.Matches
  | seq first rest => first.Matches.andThen rest.Matches
  | alt first rest => fun a b => first.Matches a b ∨ rest.Matches a b
  | loop _ least most r => fun a b => ∃ n, least ≤ n ∧ (∀ m ∈ most, n ≤ m) ∧ Matching.times r.Matches n a b

/-- Every set of an expression is proper, and every loop may go round as often as it must. -/
def Regex.Proper : Regex → Prop
  | char _ s => s.Proper
  | group _ r => r.Proper
  | loop _ least most r => (∀ m ∈ most, least ≤ m) ∧ r.Proper
  | seq first rest | alt first rest => first.Proper ∧ rest.Proper
  | empty | look _ => True

/-- Every set of an outline is proper. -/
def Outline.Proper : Outline → Prop
  | set _ s => s.Proper
  | group _ body | loop _ _ _ body => body.Proper
  | seq first rest | alt first rest => first.Proper ∧ rest.Proper
  | empty | literal _ | look _ => True

/-- Rounds of what matches alike are alike. -/
theorem Matching.times_congr {M N : Matching} (h : ∀ a b, M a b ↔ N a b) {n : Nat} {a b : Place} :
    M.times n a b ↔ N.times n a b := by
  induction n generalizing a with
  | zero => exact Iff.rfl
  | succ n ih => exact exists_congr fun c => and_congr (h a c) ih

namespace Outline

variable {o p : Outline} {l k os : List Outline} {a b : Place}

/-! ## 2. Sequences

An outline is the sequence of its parts, and a sequence that is put together is one as well.  When two are joined, the
last character of the one and the first of the other become one literal, which matches what the two match. -/

/-- One outline after another. -/
def InOrder : List Outline → Matching
  | [] => fun a b => b = a
  | o :: l => o.Matches.andThen (InOrder l)

theorem inOrder_singleton : InOrder [o] a b ↔ o.Matches a b := by
  constructor
  · rintro ⟨c, h, rfl⟩
    exact h
  · exact fun h => ⟨b, h, rfl⟩

theorem inOrder_append : InOrder (l ++ k) a b ↔ (InOrder l).andThen (InOrder k) a b := by
  induction l generalizing a with
  | nil =>
    constructor
    · exact fun h => ⟨a, rfl, h⟩
    · rintro ⟨c, rfl, h⟩
      exact h
  | cons o l ih =>
    rw [List.cons_append, InOrder, InOrder, Matching.andThen_assoc]
    exact exists_congr fun c => and_congr_right' ih

/-- An outline matches as the sequence of its parts does. -/
theorem inOrder_parts : InOrder o.parts a b ↔ o.Matches a b := by
  induction o generalizing a with
  | empty => exact Iff.rfl
  | seq first rest _ ih => exact exists_congr fun c => and_congr_right' ih
  | _ => exact inOrder_singleton

/-- Outlines that are put together match one after the other. -/
theorem matches_ofParts : (ofParts l).Matches a b ↔ InOrder l a b := by
  induction l generalizing a with
  | nil => exact Iff.rfl
  | cons o l ih =>
    cases l with
    | nil => exact inOrder_singleton.symm
    | cons p l => exact exists_congr fun c => and_congr_right' ih

/-- A literal is two literals, one after the other. -/
theorem literal_append {s t : List Char} :
    Matching.literal (s ++ t) a b ↔ (Matching.literal s).andThen (Matching.literal t) a b := by
  induction s generalizing a with
  | nil =>
    constructor
    · exact fun h => ⟨a, rfl, h⟩
    · rintro ⟨c, rfl, h⟩
      exact h
  | cons c s ih =>
    constructor
    · rintro ⟨rest, hrest, h⟩
      obtain ⟨d, hd, h⟩ := ih.mp h
      exact ⟨d, ⟨rest, hrest, hd⟩, h⟩
    · rintro ⟨d, ⟨rest, hrest, hd⟩, h⟩
      exact ⟨rest, hrest, ih.mpr ⟨d, hd, h⟩⟩

/-- Joining literals where two sequences meet changes nothing. -/
theorem inOrder_joinParts : InOrder (joinParts l k) a b ↔ InOrder (l ++ k) a b := by
  fun_induction joinParts l k generalizing a with
  | case1 => exact Iff.rfl
  | case2 s t later =>
    show (Matching.literal (s ++ t)).andThen _ a b ↔ (Matching.literal s).andThen ((Matching.literal t).andThen _) a b
    rw [← Matching.andThen_assoc]
    exact exists_congr fun c => and_congr_left' literal_append
  | case3 o l k _ ih => exact exists_congr fun c => and_congr_right' ih

/-- One outline after another matches one after the other. -/
theorem matches_append {o p : Outline} : (append o p).Matches a b ↔ o.Matches.andThen p.Matches a b := by
  rw [append, matches_ofParts, inOrder_joinParts, inOrder_append]
  exact exists_congr fun c => and_congr inOrder_parts inOrder_parts

/-! ## 3. Choices

An outline is a choice between its branches.  What a set comes to is a literal if there is one character in it, and
nothing but the set otherwise. -/

/-- One of several outlines. -/
def OneOf (l : List Outline) : Matching := fun a b => ∃ o ∈ l, o.Matches a b

theorem oneOf_singleton : OneOf [o] a b ↔ o.Matches a b := by
  constructor
  · rintro ⟨p, hp, h⟩
    obtain rfl := List.mem_singleton.mp hp
    exact h
  · exact fun h => ⟨o, List.mem_singleton_self o, h⟩

theorem oneOf_cons : OneOf (o :: l) a b ↔ o.Matches a b ∨ OneOf l a b :=
  List.exists_mem_cons_iff _ _ _

/-- An outline matches what one of its branches matches. -/
theorem oneOf_branches : OneOf o.branches a b ↔ o.Matches a b := by
  induction o with
  | alt first rest _ ih =>
    rw [branches, oneOf_cons]
    exact or_congr_right ih
  | _ => exact oneOf_singleton

theorem oneOf_flatMap : OneOf (os.flatMap branches) a b ↔ OneOf os a b := by
  constructor
  · rintro ⟨p, hp, h⟩
    obtain ⟨o, ho, hp⟩ := List.mem_flatMap.mp hp
    exact ⟨o, ho, oneOf_branches.mp ⟨p, hp, h⟩⟩
  · rintro ⟨o, ho, h⟩
    obtain ⟨p, hp, h⟩ := oneOf_branches.mpr h
    exact ⟨p, List.mem_flatMap.mpr ⟨o, ho, hp⟩, h⟩

theorem matches_ofBranches : (ofBranches l).Matches a b ↔ OneOf l a b := by
  induction l with
  | nil =>
    constructor
    · rintro ⟨c, hc, -⟩
      cases hc
    · rintro ⟨o, ho, -⟩
      cases ho
  | cons o l ih =>
    cases l with
    | nil => exact oneOf_singleton.symm
    | cons p l =>
      rw [oneOf_cons]
      exact or_congr_right ih

theorem literal_singleton {c : Char} : Matching.literal [c] a b ↔ a.rest = c :: b.rest ∧ b.before = some c := by
  constructor
  · rintro ⟨rest, hrest, rfl⟩
    exact ⟨hrest, rfl⟩
  · rintro ⟨hrest, hbefore⟩
    exact ⟨b.rest, hrest, by rw [← hbefore]; rfl⟩

/-- What a set comes to matches one character of the set. -/
theorem matches_ofSet {ascii : Bool} {s : CharSet} (h : s.Proper) :
    (ofSet ascii s).Matches a b ↔ Matching.char s a b := by
  rw [ofSet]
  split
  · rename_i c hc
    rw [Matches, literal_singleton, Matching.char]
    simp only [CharSet.contains_of_only h hc, exists_eq_left]
  · exact Iff.rfl

/-! ## 4. Outlines with proper sets

Taking apart and putting together leaves the sets alone, so they stay proper. -/

theorem Proper.of_mem_parts (h : o.Proper) (hp : p ∈ o.parts) : p.Proper := by
  induction o with
  | empty => cases hp
  | seq first rest _ ih =>
    rcases List.mem_cons.mp hp with rfl | hp
    · exact h.1
    · exact ih h.2 hp
  | _ =>
    obtain rfl := List.mem_singleton.mp hp
    exact h

theorem Proper.of_mem_branches (h : o.Proper) (hp : p ∈ o.branches) : p.Proper := by
  induction o with
  | alt first rest _ ih =>
    rcases List.mem_cons.mp hp with rfl | hp
    · exact h.1
    · exact ih h.2 hp
  | _ =>
    obtain rfl := List.mem_singleton.mp hp
    exact h

theorem proper_ofParts (h : ∀ p ∈ l, p.Proper) : (ofParts l).Proper := by
  induction l with
  | nil => trivial
  | cons o l ih =>
    obtain ⟨ho, hl⟩ := List.forall_mem_cons.mp h
    cases l with
    | nil => exact ho
    | cons p l => exact ⟨ho, ih hl⟩

theorem proper_ofBranches (h : ∀ p ∈ l, p.Proper) : (ofBranches l).Proper := by
  induction l with
  | nil => exact CharSet.proper_empty
  | cons o l ih =>
    obtain ⟨ho, hl⟩ := List.forall_mem_cons.mp h
    cases l with
    | nil => exact ho
    | cons p l => exact ⟨ho, ih hl⟩

theorem proper_append {o p : Outline} (ho : o.Proper) (hp : p.Proper) : (append o p).Proper :=
  proper_ofParts fun q hq => by
    rcases mem_joinParts hq with hq | hq | ⟨text, rfl⟩
    · exact ho.of_mem_parts hq
    · exact hp.of_mem_parts hq
    · trivial

theorem proper_ofSet {ascii : Bool} {s : CharSet} (h : s.Proper) : (ofSet ascii s).Proper := by
  rw [ofSet]
  split
  · trivial
  · exact h

/-! ## 5. Alternatives that are chosen between at once

If all alternatives are single characters, or all are sets, one set takes their place.  It matches the same because the
union of proper sets holds what either of them holds. -/

theorem mapM_eq_some {α β : Type} {f : α → Option β} {xs : List α} {ys : List β} (h : xs.mapM f = some ys) :
    xs.map f = ys.map some := by
  induction xs generalizing ys with
  | nil =>
    cases h
    rfl
  | cons x xs ih =>
    rw [List.mapM_cons] at h
    obtain ⟨y, hy, h⟩ := Option.bind_eq_some_iff.mp h
    obtain ⟨zs, hzs, h⟩ := Option.bind_eq_some_iff.mp h
    cases h
    rw [List.map_cons, List.map_cons, hy, ih hzs]

theorem mem_of_mapM {α β : Type} {f : α → Option β} {xs : List α} {ys : List β} (h : xs.mapM f = some ys) :
    (∀ x ∈ xs, ∃ y ∈ ys, f x = some y) ∧ ∀ y ∈ ys, ∃ x ∈ xs, f x = some y := by
  have hmap := mapM_eq_some h
  constructor
  · intro x hx
    obtain ⟨y, hy, heq⟩ := List.mem_map.mp (hmap ▸ List.mem_map_of_mem hx : f x ∈ ys.map some)
    exact ⟨y, hy, heq.symm⟩
  · intro y hy
    obtain ⟨x, hx, heq⟩ := List.mem_map.mp (hmap ▸ List.mem_map_of_mem hy : some y ∈ xs.map f)
    exact ⟨x, hx, heq⟩

theorem char?_eq_some {c : Char} : o.char? = some c ↔ o = literal [c] := by
  constructor
  · intro h
    unfold char? at h
    split at h
    · cases h
      rfl
    · cases h
  · rintro rfl
    rfl

theorem set?_eq_some {s : CharSet} : o.set? = some s ↔ ∃ ascii, o = set ascii s := by
  constructor
  · intro h
    cases o <;> cases h
    exact ⟨_, rfl⟩
  · rintro ⟨_, rfl⟩
    rfl

/-- A choice between characters is their set. -/
theorem oneOf_chars {cs : List Char} (h : os.mapM char? = some cs) :
    (ofSet false (.ofList cs)).Matches a b ↔ OneOf os a b := by
  obtain ⟨hos, hcs⟩ := mem_of_mapM h
  rw [matches_ofSet (CharSet.proper_ofList cs)]
  constructor
  · rintro ⟨c, hc, hab⟩
    obtain ⟨o, ho, hchar⟩ := hcs c ((CharSet.contains_ofList cs c).mp hc)
    obtain rfl := char?_eq_some.mp hchar
    exact ⟨_, ho, literal_singleton.mpr hab⟩
  · rintro ⟨o, ho, hab⟩
    obtain ⟨c, hc, hchar⟩ := hos o ho
    obtain rfl := char?_eq_some.mp hchar
    exact ⟨c, (CharSet.contains_ofList cs c).mpr hc, literal_singleton.mp hab⟩

/-- A choice between sets is their union. -/
theorem oneOf_sets {sets : List CharSet} (h : os.mapM set? = some sets) (hproper : ∀ o ∈ os, o.Proper) :
    (sets.foldl (· ∪ ·) ∅).Proper ∧ ∀ a b, (ofSet false (sets.foldl (· ∪ ·) ∅)).Matches a b ↔ OneOf os a b := by
  obtain ⟨hos, hsets⟩ := mem_of_mapM h
  have hproper' : ∀ s ∈ sets, s.Proper := fun s hs => by
    obtain ⟨o, ho, hset⟩ := hsets s hs
    obtain ⟨_, rfl⟩ := set?_eq_some.mp hset
    exact hproper _ ho
  obtain ⟨hunion, hcontains⟩ := CharSet.foldl_union (f := fun s => s) hproper' CharSet.proper_empty
  refine ⟨hunion, fun a b => (matches_ofSet hunion).trans ⟨?_, ?_⟩⟩
  · rintro ⟨c, hc, hab⟩
    rcases (hcontains c).mp hc with hc | ⟨s, hs, hc⟩
    · cases hc
    · obtain ⟨o, ho, hset⟩ := hsets s hs
      obtain ⟨_, rfl⟩ := set?_eq_some.mp hset
      exact ⟨_, ho, c, hc, hab⟩
  · rintro ⟨o, ho, hab⟩
    obtain ⟨s, hs, hset⟩ := hos o ho
    obtain ⟨_, rfl⟩ := set?_eq_some.mp hset
    obtain ⟨c, hc, hab⟩ := hab
    exact ⟨c, (hcontains c).mpr (.inr ⟨s, hs, hc⟩), hab⟩

/-! ## 6. Alternatives that begin alike

What alternatives share is the longest sequence that all of them begin with.  It may be taken out, since it matches
between the same places in each of them.  Whether two parts are the same is a matter of how they are written: sets that
were written differently are not the same part, even if they hold the same. -/

theorem commonParts_prefix (l k : List Outline) : commonParts l k <+: l ∧ commonParts l k <+: k := by
  fun_induction commonParts l k with
  | case1 l o k ih => exact ⟨(List.prefix_cons_inj o).mpr ih.1, (List.prefix_cons_inj o).mpr ih.2⟩
  | case2 => exact ⟨List.nil_prefix, List.nil_prefix⟩
  | case3 => exact ⟨List.nil_prefix, List.nil_prefix⟩

theorem foldl_commonParts_prefix (os l : List Outline) :
    os.foldl (fun shared o => commonParts shared o.parts) l <+: l ∧
      ∀ o ∈ os, os.foldl (fun shared o => commonParts shared o.parts) l <+: o.parts := by
  induction os generalizing l with
  | nil => exact ⟨List.prefix_rfl, nofun⟩
  | cons o os ih =>
    obtain ⟨hfirst, hrest⟩ := ih (commonParts l o.parts)
    obtain ⟨hl, ho⟩ := commonParts_prefix l o.parts
    exact ⟨hfirst.trans hl, List.forall_mem_cons.mpr ⟨hfirst.trans ho, hrest⟩⟩

/-- Alternatives begin with what they share. -/
theorem sharedParts_prefix (ho : o ∈ os) : sharedParts os <+: o.parts := by
  cases os with
  | nil => cases ho
  | cons p os =>
    rw [sharedParts]
    split
    · obtain ⟨hfirst, hrest⟩ := foldl_commonParts_prefix os p.parts
      rcases List.mem_cons.mp ho with rfl | ho
      · exact hfirst
      · exact hrest o ho
    · exact List.nil_prefix

/-- What alternatives begin with may stand before them. -/
theorem oneOf_shared (hbegins : ∀ o ∈ os, l <+: o.parts) :
    (InOrder l).andThen (OneOf (os.map fun o => ofParts (o.parts.drop l.length))) a b ↔ OneOf os a b := by
  have hsplit {o : Outline} (ho : o ∈ os) :
      (InOrder l).andThen (InOrder (o.parts.drop l.length)) a b ↔ o.Matches a b := by
    rw [← inOrder_parts, ← inOrder_append, List.prefix_iff_eq_append.mp (hbegins o ho)]
  constructor
  · rintro ⟨c, hac, p, hp, hcb⟩
    obtain ⟨o, ho, rfl⟩ := List.mem_map.mp hp
    exact ⟨o, ho, (hsplit ho).mp ⟨c, hac, matches_ofParts.mp hcb⟩⟩
  · rintro ⟨o, ho, hab⟩
    obtain ⟨c, hac, hcb⟩ := (hsplit ho).mpr hab
    exact ⟨c, hac, _, List.mem_map_of_mem ho, matches_ofParts.mpr hcb⟩

-- Only what is written alike is taken out.  The same texts match either way, but which way is preferred differs.
example :
    let digits (ascii : Bool) := Regex.loop false 0 none (.char ascii AsciiClass.digit)
    let before (ascii : Bool) (index : Nat) (c : Char) :=
      (digits ascii).seq (.group (some index) (.char false (.single c)))
    ((before false 1 '5').alt (before false 2 '3')).captures "135" = some ["", "3"] ∧
      ((before true 1 '5').alt (before false 2 '3')).captures "135" = some ["5", ""] := by
  decide +kernel

/-! ## 7. Outlines of expressions

The expression is taken down to its alternatives and up again.  A choice of several alternatives is one of the three
cases above, and the induction is on the bound of `choose`; an expression is the choice between its alternatives, by
induction on the expression. -/

/-- A choice matches what one of the alternatives matches. -/
theorem choose_spec {fuel : Nat} (h : ∀ o ∈ os, o.Proper) :
    (choose fuel os).Proper ∧ ∀ a b, (choose fuel os).Matches a b ↔ OneOf os a b := by
  induction fuel generalizing os with
  | zero => exact ⟨proper_ofBranches h, fun a b => matches_ofBranches⟩
  | succ fuel ih =>
    have hflat : ∀ p ∈ os.flatMap branches, p.Proper := fun p hp => by
      obtain ⟨o, ho, hp⟩ := List.mem_flatMap.mp hp
      exact (h o ho).of_mem_branches hp
    rw [choose]
    simp only [← @oneOf_flatMap os]
    generalize os.flatMap branches = flat at *
    split
    · exact ⟨proper_ofBranches hflat, fun a b => matches_ofBranches⟩
    split
    · rename_i hchars
      exact ⟨proper_ofSet (CharSet.proper_ofList _), fun a b => oneOf_chars hchars⟩
    · rename_i hsets
      obtain ⟨hproper, hmatches⟩ := oneOf_sets hsets hflat
      exact ⟨proper_ofSet hproper, hmatches⟩
    · split
      · exact ⟨proper_ofBranches hflat, fun a b => matches_ofBranches⟩
      · rename_i hshared
        have hbegins : ∀ o ∈ flat, sharedParts flat <+: o.parts := fun o ho => sharedParts_prefix ho
        obtain ⟨-, first, hfirst, hmem⟩ := sharedParts_inv hshared
        generalize sharedParts flat = l at *
        have hl : ∀ p ∈ l, p.Proper := fun p hp => (hflat first hfirst).of_mem_parts (hmem p hp)
        have hrest : ∀ p ∈ flat.map fun o => ofParts (o.parts.drop l.length), p.Proper := fun p hp => by
          obtain ⟨o, ho, rfl⟩ := List.mem_map.mp hp
          exact proper_ofParts fun q hq => (hflat o ho).of_mem_parts (List.mem_of_mem_drop hq)
        obtain ⟨hproper, hmatches⟩ := ih hrest
        refine ⟨proper_append (proper_ofParts hl) hproper, fun a b => ?_⟩
        rw [matches_append, ← oneOf_shared hbegins]
        exact exists_congr fun c => and_congr matches_ofParts (hmatches c b)

theorem choice_spec (h : ∀ o ∈ os, o.Proper) :
    (choice os).Proper ∧ ∀ a b, (choice os).Matches a b ↔ OneOf os a b :=
  choose_spec h

/-- The alternatives of an expression match what the expression matches. -/
theorem alternatives_spec {r : Regex} (h : r.Proper) :
    (∀ o ∈ alternatives r, o.Proper) ∧ ∀ a b, OneOf (alternatives r) a b ↔ r.Matches a b := by
  induction r with
  | empty => exact ⟨List.forall_mem_singleton.mpr trivial, fun a b => oneOf_singleton⟩
  | char ascii s =>
    exact ⟨List.forall_mem_singleton.mpr (proper_ofSet h), fun a b => oneOf_singleton.trans (matches_ofSet h)⟩
  | look l => exact ⟨List.forall_mem_singleton.mpr trivial, fun a b => oneOf_singleton⟩
  | group index r ih =>
    obtain ⟨halternatives, hmatches⟩ := ih h
    obtain ⟨hproper, hchoice⟩ := choice_spec halternatives
    have hr (a b : Place) := (hchoice a b).trans (hmatches a b)
    cases index with
    | none => exact ⟨List.forall_mem_singleton.mpr hproper, fun a b => oneOf_singleton.trans (hr a b)⟩
    | some index => exact ⟨List.forall_mem_singleton.mpr hproper, fun a b => oneOf_singleton.trans (hr a b)⟩
  | seq first rest ihfirst ihrest =>
    obtain ⟨hfirst, hmatches⟩ := ihfirst h.1
    obtain ⟨hrest, hmatches'⟩ := ihrest h.2
    obtain ⟨hproper, hchoice⟩ := choice_spec hfirst
    obtain ⟨hproper', hchoice'⟩ := choice_spec hrest
    refine ⟨List.forall_mem_singleton.mpr (proper_append hproper hproper'), fun a b => ?_⟩
    refine (oneOf_singleton.trans matches_append).trans (exists_congr fun c => ?_)
    exact and_congr ((hchoice a c).trans (hmatches a c)) ((hchoice' c b).trans (hmatches' c b))
  | alt first rest ihfirst ihrest =>
    obtain ⟨hfirst, hmatches⟩ := ihfirst h.1
    obtain ⟨hrest, hmatches'⟩ := ihrest h.2
    obtain ⟨hproper, hchoice⟩ := choice_spec hfirst
    refine ⟨List.forall_mem_cons.mpr ⟨hproper, hrest⟩, fun a b => ?_⟩
    exact oneOf_cons.trans (or_congr ((hchoice a b).trans (hmatches a b)) (hmatches' a b))
  | loop greedy least most r ih =>
    obtain ⟨hcounts, hr⟩ := h
    obtain ⟨halternatives, hmatches⟩ := ih hr
    obtain ⟨hproper, hchoice⟩ := choice_spec halternatives
    refine ⟨List.forall_mem_singleton.mpr hproper, fun a b => oneOf_singleton.trans (exists_congr fun n => ?_)⟩
    -- The outline has the larger of the two bounds; for a proper loop that is the upper one.
    have hmost : (∀ m ∈ most, n ≤ max least m) ↔ ∀ m ∈ most, n ≤ m :=
      forall₂_congr fun m hm => by rw [Nat.max_eq_right (hcounts m hm)]
    have htimes := Matching.times_congr (n := n) (a := a) (b := b) fun a b => (hchoice a b).trans (hmatches a b)
    exact and_congr_right' (and_congr hmost htimes)

end Outline

/-- The outline of an expression matches what the expression matches. -/
theorem matches_ofRegex_iff {r : Regex} (h : r.Proper) {a b : Place} :
    (Outline.ofRegex r).Matches a b ↔ r.Matches a b := by
  obtain ⟨hproper, hmatches⟩ := Outline.alternatives_spec h
  exact ((Outline.choice_spec hproper).2 a b).trans (hmatches a b)

end Regraft.Pattern
