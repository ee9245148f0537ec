import Mathlib.Data.List.Basic
import Regraft.Unicode.CharSet
/-!
# Sets of characters as sets

What the operations on sets of characters do to membership.  A set is held as the list of its changes: the code points
at which membership turns round, counted from outside the set.  A set is proper if its changes ascend and none of them
divides the surrogates or lies beyond the last code point (`Proper`).  The walk along two sets keeps that, and a
character is in the result as the operation says (`contains_combine`).  So the union of proper sets holds what either
holds, and a proper set of one code point holds the character that `only?` names.

Only proper sets behave like sets.  In a list of changes that does not ascend, the walk and membership no longer agree,
so that every statement here has `Proper` among its hypotheses, and every set that the program makes is shown to be
proper: those of characters and ranges here, those of tables in `ProperSets`, and those of patterns in
`ProperPatterns`.
-/

namespace Regraft.Unicode.CharSet

/-! ## 1. Changes

Membership of a code point is the number of changes up to it, odd or even. -/

/-- Changes in ascending order. -/
abbrev Ascending (changes : List Nat) : Prop := changes.Pairwise (· < ·)

theorem holds_of_lt {n : Nat} {changes : List Nat} (h : ∀ change ∈ changes, n < change) : holds n changes = false := by
  cases changes with
  | nil => rfl
  | cons change rest => rw [holds, decide_eq_false (Nat.not_le_of_lt (h change List.mem_cons_self)), Bool.false_and]

/-- Every change up to a code point turns membership round. -/
theorem holds_cons {n change : Nat} {rest : List Nat} (h : ∀ next ∈ rest, change < next) :
    holds n (change :: rest) = (decide (change ≤ n) ^^ holds n rest) := by
  rw [holds]
  by_cases hle : change ≤ n
  · rw [decide_eq_true hle, Bool.true_and, Bool.true_xor]
  · have hrest : holds n rest = false :=
      holds_of_lt fun next hnext => Nat.lt_trans (Nat.lt_of_not_le hle) (h next hnext)
    rw [decide_eq_false hle, hrest]
    rfl

/-! ## 2. Walks along two sets

The walk takes the least change that either set has left, turns the membership in that set round, and writes the change
down if the operation now says something else.  `Passes` describes what one step does to either of the two lists: a
change is taken from it, or it has none at this place.  What the whole walk comes to is `Combines`, by induction on the
steps. -/

variable {op : Bool → Bool → Bool} {a b a' b' : Bool} {s s' t t' : List Nat} {n fuel : Nat}

/-- A change of the result, if `op` says something else behind it. -/
def emit (op : Bool → Bool → Bool) (a b : Bool) (n : Nat) (a' b' : Bool) (rest : List Nat) : List Nat :=
  if op a' b' = op a b then rest else n :: rest

/-- What is left of a set behind a change of it, or of the other set. -/
def Passes (n : Nat) (a : Bool) (s : List Nat) (a' : Bool) (s' : List Nat) : Prop :=
  s = n :: s' ∧ a' = !a ∨ s' = s ∧ a' = a ∧ ∀ m ∈ s, n < m

namespace Passes

variable (h : Passes n a s a' s')

include h

theorem sublist : s'.Sublist s := by
  rcases h with ⟨rfl, -⟩ | ⟨rfl, -, -⟩
  · exact List.sublist_cons_self n s'
  · exact List.Sublist.refl s'

theorem lt (hs : Ascending s) : ∀ m ∈ s', n < m := by
  rcases h with ⟨rfl, -⟩ | ⟨rfl, -, hlt⟩
  · exact (List.pairwise_cons.mp hs).1
  · exact hlt

/-- Membership is counted from the first place or from behind the change. -/
theorem holds_eq (hs : Ascending s) (k : Nat) : (a ^^ holds k s) = ((if n ≤ k then a' else a) ^^ holds k s') := by
  rcases h with ⟨rfl, rfl⟩ | ⟨rfl, rfl, -⟩
  · rw [holds_cons (List.pairwise_cons.mp hs).1]
    split
    · rename_i hle
      rw [decide_eq_true hle, Bool.true_xor, Bool.not_xor, Bool.xor_not]
    · rename_i hle
      rw [decide_eq_false hle, Bool.false_xor]
  · rw [ite_self]

end Passes

/-- A step of the walk passes the least change that is left. -/
theorem exists_passes (hs : Ascending s) (ht : Ascending t) (hne : s ≠ [] ∨ t ≠ []) (op : Bool → Bool → Bool)
    (fuel : Nat) (a b : Bool) : ∃ n a' b' s' t', Passes n a s a' s' ∧ Passes n b t b' t' ∧ (n ∈ s ∨ n ∈ t) ∧
      s'.length + t'.length < s.length + t.length ∧
      combineChanges op (fuel + 1) a b s t = emit op a b n a' b' (combineChanges op fuel a' b' s' t') := by
  cases s with
  | nil =>
    cases t with
    | nil => simp at hne
    | cons y t =>
      exact ⟨y, a, !b, [], t, .inr ⟨rfl, rfl, nofun⟩, .inl ⟨rfl, rfl⟩, .inr List.mem_cons_self, by simp, rfl⟩
  | cons x s =>
    have hx := (List.pairwise_cons.mp hs).1
    cases t with
    | nil => exact ⟨x, !a, b, s, [], .inl ⟨rfl, rfl⟩, .inr ⟨rfl, rfl, nofun⟩, .inl List.mem_cons_self, by simp, rfl⟩
    | cons y t =>
      have hy := (List.pairwise_cons.mp ht).1
      rw [combineChanges]
      rcases Nat.lt_trichotomy x y with hlt | rfl | hlt
      · refine ⟨x, !a, b, s, y :: t, .inl ⟨rfl, rfl⟩, .inr ⟨rfl, rfl, ?_⟩, .inl List.mem_cons_self, by simp, ?_⟩
        · exact List.forall_mem_cons.mpr ⟨hlt, fun m hm => Nat.lt_trans hlt (hy m hm)⟩
        · rw [if_pos hlt]
          rfl
      · refine ⟨x, !a, !b, s, t, .inl ⟨rfl, rfl⟩, .inl ⟨rfl, rfl⟩, .inl List.mem_cons_self, by simp; omega, ?_⟩
        rw [if_neg (Nat.lt_irrefl x), if_neg (Nat.lt_irrefl x)]
        rfl
      · refine ⟨y, a, !b, x :: s, t, .inr ⟨rfl, rfl, ?_⟩, .inl ⟨rfl, rfl⟩, .inr List.mem_cons_self, by simp, ?_⟩
        · exact List.forall_mem_cons.mpr ⟨hlt, fun m hm => Nat.lt_trans hlt (hx m hm)⟩
        · rw [if_neg (Nat.lt_asymm hlt), if_pos hlt]
          rfl

/-- What a walk along two sets results in. -/
structure Combines (op : Bool → Bool → Bool) (a b : Bool) (s t result : List Nat) : Prop where
  subset : ∀ m ∈ result, m ∈ s ∨ m ∈ t
  ascending : Ascending result
  holds : ∀ k, (op a b ^^ holds k result) = op (a ^^ holds k s) (b ^^ holds k t)

theorem combines_nil (op : Bool → Bool → Bool) (a b : Bool) : Combines op a b [] [] [] :=
  ⟨nofun, .nil, fun k => by simp [CharSet.holds]⟩

theorem mem_emit {m : Nat} {rest : List Nat} (h : m ∈ emit op a b n a' b' rest) : m = n ∨ m ∈ rest := by
  rw [emit] at h
  split at h
  · exact .inr h
  · exact List.mem_cons.mp h

/-- A step of the walk. -/
theorem Combines.emit {rest : List Nat} (h : Combines op a' b' s' t' rest) (hs : Ascending s) (ht : Ascending t)
    (hps : Passes n a s a' s') (hpt : Passes n b t b' t') (hn : n ∈ s ∨ n ∈ t) :
    Combines op a b s t (CharSet.emit op a b n a' b' rest) := by
  have hlt : ∀ m ∈ rest, n < m := fun m hm => (h.subset m hm).elim (hps.lt hs m) (hpt.lt ht m)
  refine ⟨fun m hm => ?_, ?_, fun k => ?_⟩
  · rcases mem_emit hm with rfl | hm
    · exact hn
    · exact (h.subset m hm).imp (fun h => hps.sublist.subset h) fun h => hpt.sublist.subset h
  · rw [CharSet.emit]
    split
    · exact h.ascending
    · exact List.pairwise_cons.mpr ⟨hlt, h.ascending⟩
  · rw [hps.holds_eq hs, hpt.holds_eq ht]
    by_cases hle : n ≤ k
    · rw [if_pos hle, if_pos hle, ← h.holds k, CharSet.emit]
      split
      · rename_i heq
        rw [heq]
      · rename_i hne
        rw [holds_cons hlt, decide_eq_true hle, ← Bool.xor_assoc, Bool.xor_true, Bool.eq_not_of_ne hne]
    · have hk {l : List Nat} (hl : ∀ m ∈ l, n < m) : CharSet.holds k l = false :=
        holds_of_lt fun m hm => Nat.lt_trans (Nat.lt_of_not_le hle) (hl m hm)
      have hemit : CharSet.holds k (CharSet.emit op a b n a' b' rest) = false := holds_of_lt fun m hm => by
        rcases mem_emit hm with rfl | hm
        · exact Nat.lt_of_not_le hle
        · exact Nat.lt_trans (Nat.lt_of_not_le hle) (hlt m hm)
      rw [if_neg hle, if_neg hle, hk (hps.lt hs), hk (hpt.lt ht), hemit, Bool.xor_false, Bool.xor_false, Bool.xor_false]

theorem combines_combineChanges (op : Bool → Bool → Bool) (a b : Bool) (hs : Ascending s) (ht : Ascending t)
    (hfuel : s.length + t.length ≤ fuel) : Combines op a b s t (combineChanges op fuel a b s t) := by
  induction fuel generalizing a b s t with
  | zero =>
    obtain rfl : s = [] := List.length_eq_zero_iff.mp (by omega)
    obtain rfl : t = [] := List.length_eq_zero_iff.mp (by omega)
    exact combines_nil op a b
  | succ fuel ih =>
    by_cases hne : s ≠ [] ∨ t ≠ []
    · obtain ⟨n, a', b', s', t', hps, hpt, hn, hlength, heq⟩ := exists_passes hs ht hne op fuel a b
      rw [heq]
      exact (ih a' b' (hs.sublist hps.sublist) (ht.sublist hpt.sublist) (by omega)).emit hs ht hps hpt hn
    · obtain ⟨rfl, rfl⟩ : s = [] ∧ t = [] := by simpa using hne
      exact combines_nil op a b

/-! ## 3. Proper sets

Code points of surrogates are no characters.  A set whose changes do not divide them holds all of them or none, so that
complements and ranges of code points are complements and ranges of characters. -/

/-- A code point does not divide the surrogates, and is not beyond the end of all. -/
def Apart (n : Nat) : Prop := (n ≤ 0xD800 ∨ 0xE000 ≤ n) ∧ n ≤ 0x110000

instance (n : Nat) : Decidable (Apart n) := inferInstanceAs (Decidable (_ ∧ _))

/-- The changes ascend and are apart from the surrogates. -/
structure Proper (s : CharSet) : Prop where
  ascending : Ascending s.changes
  apart : ∀ n ∈ s.changes, Apart n

instance (s : CharSet) : Decidable s.Proper :=
  decidable_of_iff (Ascending s.changes ∧ ∀ n ∈ s.changes, Apart n)
    ⟨fun h => ⟨h.1, h.2⟩, fun h => ⟨h.ascending, h.apart⟩⟩

section

variable {s t : CharSet}

theorem combines_combine (op : Bool → Bool → Bool) (hs : s.Proper) (ht : t.Proper) :
    Combines op false false s.changes t.changes (combine op s t).changes :=
  combines_combineChanges op false false hs.ascending ht.ascending (Nat.le_refl _)

theorem Proper.combine (op : Bool → Bool → Bool) (hs : s.Proper) (ht : t.Proper) : (combine op s t).Proper where
  ascending := (combines_combine op hs ht).ascending
  apart n hn := ((combines_combine op hs ht).subset n hn).elim (hs.apart n) (ht.apart n)

/-- A character is in a combination of two sets as the operation says. -/
theorem contains_combine (hop : op false false = false) (hs : s.Proper) (ht : t.Proper) (c : Char) :
    (combine op s t).contains c = op (s.contains c) (t.contains c) := by
  have hholds := (combines_combine op hs ht).holds c.toNat
  rw [hop, Bool.false_xor, Bool.false_xor, Bool.false_xor] at hholds
  exact hholds

theorem contains_union (hs : s.Proper) (ht : t.Proper) (c : Char) :
    (s ∪ t).contains c = (s.contains c || t.contains c) :=
  contains_combine rfl hs ht c

theorem Proper.union (hs : s.Proper) (ht : t.Proper) : (s ∪ t).Proper := hs.combine or ht

/-- The union of several sets holds what one of them holds. -/
theorem foldl_union {α : Type} {f : α → CharSet} {xs : List α} (h : ∀ x ∈ xs, (f x).Proper) (hs : s.Proper) :
    (xs.foldl (fun s x => s ∪ f x) s).Proper ∧ ∀ c, (xs.foldl (fun s x => s ∪ f x) s).contains c = true ↔
      s.contains c = true ∨ ∃ x ∈ xs, (f x).contains c = true := by
  induction xs generalizing s with
  | nil => exact ⟨hs, fun c => by simp⟩
  | cons x xs ih =>
    obtain ⟨hx, hxs⟩ := List.forall_mem_cons.mp h
    obtain ⟨hproper, hcontains⟩ := ih hxs (hs.union hx)
    refine ⟨hproper, fun c => ?_⟩
    rw [List.foldl_cons, hcontains, contains_union hs hx, Bool.or_eq_true, or_assoc, List.exists_mem_cons_iff]

theorem Proper.inter (hs : s.Proper) (ht : t.Proper) : (s ∩ t).Proper := hs.combine and ht

theorem Proper.sdiff (hs : s.Proper) (ht : t.Proper) : (s \ t).Proper := hs.combine _ ht

theorem Proper.symmDiff (hs : s.Proper) (ht : t.Proper) : (s.symmDiff t).Proper := hs.combine xor ht

theorem proper_all : Proper all := by decide

theorem proper_empty : Proper ∅ := by decide

theorem Proper.complement (hs : s.Proper) : s.complement.Proper := proper_all.sdiff hs

/-- The changes of a character alone. -/
theorem char_apart (c : Char) : (c.toNat < 0xD800 ∨ 0xE000 ≤ c.toNat) ∧ c.toNat < 0x110000 := by
  have hvalid := c.valid
  simp only [UInt32.isValidChar, Nat.isValidChar] at hvalid
  have htoNat : c.toNat = c.val.toNat := rfl
  omega

theorem proper_single (c : Char) : (single c).Proper := by
  have hc := char_apart c
  constructor
  · simp [single]
  · simp [single, Apart]
    omega

theorem proper_range (c d : Char) : (range c d).Proper := by
  have hc := char_apart c
  have hd := char_apart d
  rw [range]
  split
  · exact proper_empty
  · rename_i hlt
    have hle : c.toNat ≤ d.toNat := Char.not_lt.mp hlt
    split
    · constructor
      · simp
        omega
      · simp [Apart]
        omega
    · constructor
      · simp
        omega
      · simp [Apart]
        omega

end

/-! ## 4. Sets of ranges

A table lists ranges of code points.  Ranges that touch become one, so their changes are not simply their ends; but
between the ends of a range, and only there, membership is turned round an odd number of times. -/

/-- Ranges in ascending order. -/
structure Separate (ranges : List (Nat × Nat)) : Prop where
  ascending : ranges.Pairwise fun r r' => r.2 < r'.1
  apart : ∀ r ∈ ranges, r.1 ≤ r.2 ∧ Apart r.1 ∧ Apart (r.2 + 1)

theorem Separate.sublist {ranges some : List (Nat × Nat)} (h : Separate ranges) (hsome : some.Sublist ranges) :
    Separate some :=
  ⟨h.ascending.sublist hsome, fun r hr => h.apart r (hsome.subset hr)⟩

variable {ranges : List (Nat × Nat)}

/-- A range that ends where the next one begins goes on with it. -/
theorem changesOf_cons (first last : Nat) (rest : List (Nat × Nat)) :
    (∃ more, changesOf rest = (last + 1) :: more ∧ changesOf ((first, last) :: rest) = first :: more) ∨
      (changesOf rest).head? ≠ some (last + 1) ∧
        changesOf ((first, last) :: rest) = first :: (last + 1) :: changesOf rest := by
  rw [changesOf]
  cases changesOf rest with
  | nil => exact .inr ⟨nofun, rfl⟩
  | cons next more =>
    by_cases heq : next = last + 1
    · exact .inl ⟨more, by rw [heq], if_pos heq⟩
    · exact .inr ⟨fun h => heq (Option.some.inj h), if_neg heq⟩

/-- The changes of ranges are where they begin and behind where they end. -/
theorem mem_changesOf {m : Nat} (h : m ∈ changesOf ranges) : ∃ r ∈ ranges, m = r.1 ∨ m = r.2 + 1 := by
  induction ranges with
  | nil => cases h
  | cons r rest ih =>
    have hmem : m = r.1 ∨ m = r.2 + 1 ∨ m ∈ changesOf rest := by
      rcases changesOf_cons r.1 r.2 rest with ⟨more, hmore, heq⟩ | ⟨-, heq⟩
      · rw [heq] at h
        rw [hmore]
        exact (List.mem_cons.mp h).imp_right fun h => .inr (List.mem_cons_of_mem _ h)
      · rw [heq] at h
        exact (List.mem_cons.mp h).imp_right List.mem_cons.mp
    rcases hmem with h | h | h
    · exact ⟨r, List.mem_cons_self, .inl h⟩
    · exact ⟨r, List.mem_cons_self, .inr h⟩
    · obtain ⟨r', hr', h⟩ := ih h
      exact ⟨r', List.mem_cons_of_mem r hr', h⟩

theorem Separate.tail {r : Nat × Nat} (h : Separate (r :: ranges)) : Separate ranges :=
  h.sublist (List.sublist_cons_self r ranges)

theorem Separate.lt {r : Nat × Nat} (h : Separate (r :: ranges)) : ∀ m ∈ changesOf ranges, r.2 < m := fun m hm => by
  obtain ⟨r', hr', hm⟩ := mem_changesOf hm
  have hlt := (List.pairwise_cons.mp h.ascending).1 r' hr'
  have hle := (h.apart r' (List.mem_cons_of_mem r hr')).1
  omega

theorem ascending_changesOf (h : Separate ranges) : Ascending (changesOf ranges) := by
  induction ranges with
  | nil => exact .nil
  | cons r rest ih =>
    have hrest := ih h.tail
    have hlt := h.lt
    have hle := (h.apart r List.mem_cons_self).1
    rcases changesOf_cons r.1 r.2 rest with ⟨more, hmore, heq⟩ | ⟨hne, heq⟩
    · rw [heq]
      rw [hmore] at hrest
      obtain ⟨hlater, hmore⟩ := List.pairwise_cons.mp hrest
      exact List.pairwise_cons.mpr ⟨fun m hm => by have := hlater m hm; omega, hmore⟩
    · rw [heq]
      have hend : ∀ m ∈ changesOf rest, r.2 + 1 < m := by
        cases hchanges : changesOf rest with
        | nil => nofun
        | cons next more =>
          rw [hchanges] at hrest hlt hne
          have hnext : next ≠ r.2 + 1 := fun h => hne (by rw [h, List.head?_cons])
          have hfirst := hlt next List.mem_cons_self
          refine List.forall_mem_cons.mpr ⟨by omega, fun m hm => ?_⟩
          have := (List.pairwise_cons.mp hrest).1 m hm
          omega
      refine List.pairwise_cons.mpr ⟨List.forall_mem_cons.mpr ⟨by omega, fun m hm => ?_⟩,
        List.pairwise_cons.mpr ⟨hend, hrest⟩⟩
      have := hend m hm
      omega

/-- Every range turns membership round where it begins and behind where it ends. -/
theorem holds_changesOf_cons {r : Nat × Nat} (h : Separate (r :: ranges)) (k : Nat) :
    holds k (changesOf (r :: ranges)) =
      (decide (r.1 ≤ k) ^^ (decide (r.2 + 1 ≤ k) ^^ holds k (changesOf ranges))) := by
  have hascending := ascending_changesOf h
  have hrest := ascending_changesOf h.tail
  rcases changesOf_cons r.1 r.2 ranges with ⟨more, hmore, heq⟩ | ⟨-, heq⟩
  · rw [heq] at hascending ⊢
    rw [hmore] at hrest ⊢
    rw [holds_cons (List.pairwise_cons.mp hascending).1, holds_cons (List.pairwise_cons.mp hrest).1,
      ← Bool.xor_assoc _ _ (holds k more), Bool.xor_self, Bool.false_xor]
  · rw [heq] at hascending ⊢
    obtain ⟨hfirst, hend⟩ := List.pairwise_cons.mp hascending
    rw [holds_cons hfirst, holds_cons (List.pairwise_cons.mp hend).1]

theorem holds_changesOf (h : Separate ranges) (k : Nat) :
    holds k (changesOf ranges) = true ↔ ∃ r ∈ ranges, r.1 ≤ k ∧ k ≤ r.2 := by
  induction ranges with
  | nil => simp [changesOf, holds]
  | cons r rest ih =>
    have hle := (h.apart r List.mem_cons_self).1
    rw [holds_changesOf_cons h, List.exists_mem_cons_iff, ← ih h.tail]
    by_cases hlast : r.2 + 1 ≤ k
    · rw [decide_eq_true (show r.1 ≤ k by omega), decide_eq_true hlast, ← Bool.xor_assoc, Bool.xor_self, Bool.false_xor,
        or_iff_right (by omega)]
    · have hfalse : holds k (changesOf rest) = false := holds_of_lt fun m hm => by
        have := h.lt m hm
        omega
      rw [decide_eq_false hlast, hfalse, Bool.xor_false, Bool.xor_false, decide_eq_true_eq,
        or_iff_left Bool.false_ne_true]
      omega

theorem Separate.proper (h : Separate ranges) : (ofRanges ranges).Proper where
  ascending := ascending_changesOf h
  apart n hn := by
    obtain ⟨r, hr, rfl | rfl⟩ := mem_changesOf hn
    · exact (h.apart r hr).2.1
    · exact (h.apart r hr).2.2

/-- Whether ranges are in ascending order and begin at a code point or behind it. -/
def separateFrom (n : Nat) : List (Nat × Nat) → Bool
  | [] => true
  | (first, last) :: rest =>
    n ≤ first && first ≤ last && decide (Apart first) && decide (Apart (last + 1)) && separateFrom (last + 1) rest

theorem separate_of_separateFrom {n : Nat} (h : separateFrom n ranges = true) :
    Separate ranges ∧ ∀ r ∈ ranges, n ≤ r.1 := by
  induction ranges generalizing n with
  | nil => exact ⟨⟨.nil, nofun⟩, nofun⟩
  | cons r rest ih =>
    simp only [separateFrom, Bool.and_eq_true, decide_eq_true_eq] at h
    obtain ⟨⟨⟨⟨hn, hle⟩, hfirst⟩, hlast⟩, hrest⟩ := h
    obtain ⟨hseparate, hlater⟩ := ih hrest
    have hcons : Separate ((r.1, r.2) :: rest) :=
      ⟨List.pairwise_cons.mpr ⟨fun r' hr' => hlater r' hr', hseparate.ascending⟩,
        List.forall_mem_cons.mpr ⟨⟨hle, hfirst, hlast⟩, hseparate.apart⟩⟩
    refine ⟨hcons, List.forall_mem_cons.mpr ⟨hn, fun r' hr' => ?_⟩⟩
    have hr := hlater r' hr'
    omega

/-- Ranges as tables list them. -/
theorem proper_ofRanges (h : separateFrom 0 ranges = true) : (ofRanges ranges).Proper :=
  (separate_of_separateFrom h).1.proper

/-! ## 5. Sets of characters

A set of single characters is sorted first, and then each character is a range of its own.  A set that has exactly one
code point is a literal to the compiler, so it must hold exactly that character. -/

theorem eraseReps_loop {c : Char} {cs : List Char} (h : (c :: cs).Pairwise (· ≤ ·)) (before : List Char) :
    ∃ out, List.eraseRepsBy.loop (· == ·) c cs before = before.reverse ++ out ∧ out.Pairwise (· < ·) ∧
      ∀ d, d ∈ out ↔ d ∈ c :: cs := by
  induction cs generalizing c before with
  | nil => exact ⟨[c], List.reverse_cons .., List.pairwise_singleton _ c, fun d => Iff.rfl⟩
  | cons d cs ih =>
    obtain ⟨hc, hrest⟩ := List.pairwise_cons.mp h
    have hcd := hc d List.mem_cons_self
    rw [List.eraseRepsBy.loop]
    by_cases heq : c = d
    · subst heq
      obtain ⟨out, hout, hascending, hmem⟩ := ih hrest before
      refine ⟨out, ?_, hascending, fun e => ?_⟩
      · rw [beq_self_eq_true]
        exact hout
      · rw [hmem, List.mem_cons, List.mem_cons, List.mem_cons, ← or_assoc, or_self]
    · obtain ⟨out, hout, hascending, hmem⟩ := ih hrest (c :: before)
      refine ⟨c :: out, ?_, List.pairwise_cons.mpr ⟨fun e he => ?_, hascending⟩, fun e => ?_⟩
      · rw [beq_false_of_ne heq]
        exact hout.trans (by rw [List.reverse_cons, List.append_assoc, List.singleton_append])
      · have hlt : c < d := Nat.lt_of_le_of_ne hcd fun h => heq (Char.toNat_inj.mp h)
        rcases List.mem_cons.mp ((hmem e).mp he) with rfl | he
        · exact hlt
        · exact Nat.lt_of_lt_of_le hlt ((List.pairwise_cons.mp hrest).1 e he)
      · rw [List.mem_cons, hmem, List.mem_cons (b := c)]

theorem eraseReps_spec {cs : List Char} (h : cs.Pairwise (· ≤ ·)) :
    cs.eraseReps.Pairwise (· < ·) ∧ ∀ d, d ∈ cs.eraseReps ↔ d ∈ cs := by
  cases cs with
  | nil => exact ⟨.nil, fun d => Iff.rfl⟩
  | cons c cs =>
    obtain ⟨out, heq, hout⟩ := eraseReps_loop h []
    rw [List.eraseReps, List.eraseRepsBy, heq]
    exact hout

/-- The characters of a list in ascending order, each once. -/
theorem sorted_spec (cs : List Char) : (cs.mergeSort fun a b => a ≤ b).eraseReps.Pairwise (· < ·) ∧
    ∀ d, d ∈ (cs.mergeSort fun a b => a ≤ b).eraseReps ↔ d ∈ cs := by
  have hsorted : (cs.mergeSort fun a b => a ≤ b).Pairwise (· ≤ ·) := by
    refine (List.pairwise_mergeSort ?_ ?_ cs).imp of_decide_eq_true
    · simpa using fun a b c => Char.le_trans
    · simpa using Char.le_total
  obtain ⟨hascending, hmem⟩ := eraseReps_spec hsorted
  exact ⟨hascending, fun d => (hmem d).trans List.mem_mergeSort⟩

theorem separate_chars {cs : List Char} (h : cs.Pairwise (· < ·)) : Separate (cs.map fun c => (c.toNat, c.toNat)) where
  ascending := List.pairwise_map.mpr h
  apart r hr := by
    obtain ⟨c, -, rfl⟩ := List.mem_map.mp hr
    have hc := char_apart c
    refine ⟨Nat.le_refl _, ⟨?_, ?_⟩, ?_, ?_⟩ <;> dsimp only <;> omega

theorem proper_ofList (cs : List Char) : (ofList cs).Proper :=
  (separate_chars (sorted_spec cs).1).proper

theorem contains_ofList (cs : List Char) (c : Char) : (ofList cs).contains c = true ↔ c ∈ cs := by
  obtain ⟨hascending, hmem⟩ := sorted_spec cs
  rw [contains, ofList, ofRanges, holds_changesOf (separate_chars hascending), ← hmem c]
  constructor
  · rintro ⟨r, hr, hle, hle'⟩
    obtain ⟨d, hd, rfl⟩ := List.mem_map.mp hr
    obtain rfl : d = c := Char.toNat_inj.mp (Nat.le_antisymm hle hle')
    exact hd
  · exact fun hc => ⟨_, List.mem_map.mpr ⟨c, hc, rfl⟩, Nat.le_refl _, Nat.le_refl _⟩

theorem contains_single (c d : Char) : (single c).contains d = true ↔ d = c := by
  have hholds : (single c).contains d =
      (decide (c.toNat ≤ d.toNat) && !(decide (c.toNat + 1 ≤ d.toNat) && !false)) := rfl
  rw [hholds, ← Char.toNat_inj]
  simp
  omega

/-- A proper set of one code point holds its character. -/
theorem contains_of_only {s : CharSet} (h : s.Proper) {c : Char} (hc : s.only? = some c) (d : Char) :
    s.contains d = true ↔ d = c := by
  rw [only?] at hc
  split at hc
  · rename_i first next hchanges
    obtain ⟨rfl, hchar⟩ := Option.ite_none_right_eq_some.mp hc
    have hfirst := h.apart first (by rw [hchanges]; exact List.mem_cons_self)
    have hnext := h.apart (first + 1) (by rw [hchanges]; exact List.mem_cons_of_mem _ (List.mem_singleton_self _))
    have hvalid : first.isValidChar := by
      rw [Apart] at hfirst hnext
      rw [Nat.isValidChar]
      omega
    have htoNat : c.toNat = first := by
      rw [← Option.some.inj hchar, Char.ofNat, dif_pos hvalid]
      rfl
    have hs : s = single c := by
      rw [single, htoNat, ← hchanges]
    rw [hs, contains_single]
  · cases hc

end Regraft.Unicode.CharSet
