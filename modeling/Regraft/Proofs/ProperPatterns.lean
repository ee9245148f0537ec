import Regraft.Proofs.ClosedPatterns
import Regraft.Proofs.OutlineMeanings
import Regraft.Proofs.ProperSets
/-!
# Patterns have proper expressions

Every set that reading a pattern results in is proper: those that letters and names stand for are, and so is what flags
and operators make of proper sets.  No repetition has a larger count first.  So the expression of a pattern is one that
matches what its outline does (`proper_parse`).

Reading a pattern is a long chain of readers that may fail at every link.  `Yields p x` says of one of them that what it
has read, if anything, has the property `p`; failing has every property, and a chain of readers has the property of the
last link if that follows from the property of the one before (`Yields.bind`).  So each reader is done by following its
text once, without a word about where reading stands.

The readers of classes call each other, and so do those of expressions.  `ClassesProper` and `PartsProper` say for both
groups what is proved of all readers in it after so many steps, and the step is one lemma for every reader.
-/

namespace Regraft.Pattern.Parser

open Unicode (CharSet)
open Unicode.CharSet

/-! ## 1. What readers yield

Nothing is said of the state that a reader leaves, since what it has read is all that matters here. -/

/-- What is read, if anything, has a property. -/
def Yields {α : Type} (p : α → Prop) (x : Option (α × State)) : Prop := ∀ r, x = some r → p r.1

section

variable {α β γ : Type} {p : α → Prop} {q : β → Prop}

theorem yields_none : Yields p none := nofun

theorem yields_some {r : α × State} (h : p r.1) : Yields p (some r) := fun _ hr => Option.some.inj hr ▸ h

theorem Yields.bind {x : Option (β × State)} {f : β × State → Option (α × State)} (h : Yields q x)
    (hf : ∀ r : β × State, q r.1 → Yields p (f r)) : Yields p (x >>= f) := fun r hr => by
  obtain ⟨b, hb, hr⟩ := Option.bind_eq_some_iff.mp hr
  exact hf b (h b hb) r hr

/-- Nothing is known of what has been read before. -/
theorem yields_bind {x : Option γ} {f : γ → Option (α × State)} (h : ∀ c, x = some c → Yields p (f c)) :
    Yields p (x >>= f) := fun r hr => by
  obtain ⟨c, hc, hr⟩ := Option.bind_eq_some_iff.mp hr
  exact h c hc r hr

theorem yields_ite {P : Prop} [Decidable P] {x y : Option (α × State)} (hx : Yields p x) (hy : Yields p y) :
    Yields p (if P then x else y) := by
  split
  · exact hx
  · exact hy

end

/-! ## 2. Flags and escapes

Flags widen a set to all that differs from its members in case, and refuse one with characters beyond ASCII.  The sets
of letters are those of tables; that these are proper is proved where the tables are (`ProperSets`). -/

theorem proper_flags_fold {s : CharSet} (f : Flags) (h : s.Proper) : (f.fold s).Proper := by
  rw [Flags.fold]
  split
  · split
    · exact proper_fold h
    · exact proper_foldAscii h
  · exact h

theorem proper_accept {f : Flags} {s s' : CharSet} (h : s.Proper) (haccept : f.accept s = some s') : s'.Proper := by
  rw [← Option.some.inj (Option.ite_none_right_eq_some.mp haccept).2]
  exact h

theorem proper_closed {f : Flags} {negated : Bool} {s s' : CharSet} (h : s.Proper)
    (hclose : f.close negated s = some s') : s'.Proper := by
  refine proper_accept ?_ hclose
  split
  · exact (proper_flags_fold f h).complement
  · exact proper_flags_fold f h

/-- The set that an escape stands for is proper. -/
def Escape.Proper : Escape → Prop
  | classOf s => s.Proper
  | char _ | byte _ | look _ => True

/-- The sets that a letter after a backslash stands for are proper, in both of their extents. -/
theorem proper_letterClass {unicode : Bool} {c : Char} {s : CharSet} (h : letterClass unicode c = some s) :
    s.Proper := by
  unfold letterClass at h
  split at h
  · obtain rfl := Option.some.inj h
    split
    · exact proper_ofCategories [.nd]
    · exact proper_range _ _
  · obtain rfl := Option.some.inj h
    split
    · exact proper_ofRanges (by decide +kernel)
    · decide +kernel
  · obtain rfl := Option.some.inj h
    split
    · exact proper_word
    · decide +kernel
  · cases h

theorem codePoint_proper (digits : Nat) (s : State) : Yields Escape.Proper (codePoint digits s) := by
  unfold codePoint
  split
  · exact yields_bind fun _ _ => yields_bind fun _ _ => yields_some trivial
  · refine yields_bind fun _ _ => yields_bind fun _ _ => yields_some ?_
    dsimp only
    split <;> trivial

theorem propertyEscape_proper (negated : Bool) (s : State) : Yields Escape.Proper (propertyEscape negated s) := by
  have hset (p : CharSet × Bool) (hp : p.1.Proper) (s : State) : Yields Escape.Proper
      (if (!s.flags.unicode) = true then (do
          none
          return (.classOf (← s.flags.close (negated != p.2) p.1), s))
        else (do return (.classOf (← s.flags.close (negated != p.2) p.1), s))) :=
    yields_ite yields_none (yields_bind fun set hset => yields_some (proper_closed hp hset))
  unfold propertyEscape
  dsimp only
  split
  · exact yields_bind fun r _ => yields_bind fun p hp => hset p (proper_propertyClass hp) r.2
  · exact yields_none
  · rename_i c rest _ _ _
    exact yields_bind fun set hname => hset (set, false) (proper_propertyNamed hname) _
  · exact yields_none

/-- What an escape stands for is a character, a condition or a proper set. -/
theorem escape_proper (s : State) : Yields Escape.Proper (escape s) := by
  unfold escape
  split
  · exact yields_none
  · dsimp only
    split
    · rename_i hclass
      exact yields_some (proper_letterClass hclass)
    · rename_i hclass
      intro r hr
      obtain ⟨set, hset, rfl⟩ := Option.map_eq_some_iff.mp hr
      exact proper_accept (proper_letterClass hclass).complement hset
    · refine yields_ite (yields_some trivial) ?_
      split
      · exact codePoint_proper 2 _
      · exact codePoint_proper 4 _
      · exact codePoint_proper 8 _
      · exact propertyEscape_proper false _
      · exact propertyEscape_proper true _
      case h_14 =>
        intro r hr
        obtain ⟨l, -, rfl⟩ := Option.map_eq_some_iff.mp hr
        trivial
      all_goals first
        | exact yields_some trivial
        | exact yields_none

/-! ## 3. Classes

Whatever an operator is applied to and whatever is negated has been proper before, so a class is proper when all of its
members are. -/

theorem member_proper (s : State) : Yields (fun m : Member => m.set.Proper) (member s) := by
  unfold member
  split
  · exact yields_none
  · refine (escape_proper _).bind fun ⟨e, st⟩ he => ?_
    cases e with
    | char c => exact yields_ite (yields_some (proper_single c)) yields_none
    | byte c => exact yields_ite (yields_some (proper_single c)) yields_none
    | classOf set => exact yields_some he
    | look l => exact yields_none
  · exact yields_ite (yields_some (proper_single _)) yields_none

/-- A range is read only if its ends are in order, and is proper then. -/
theorem memberOrRange_proper (s : State) : Yields CharSet.Proper (memberOrRange s) := by
  rw [memberOrRange_eq]
  refine (member_proper s).bind fun ⟨first, st⟩ hfirst => yields_ite yields_none ?_
  refine yields_ite (yields_some hfirst) (yields_bind fun ⟨last, st⟩ _ => ?_)
  dsimp only
  split
  · exact yields_ite (yields_some (proper_range _ _)) yields_none
  · exact yields_none

/-- The sets that are named between colons are proper, and their complements. -/
theorem namedClass_proper (s : State) : Yields CharSet.Proper (namedClass s) := by
  unfold namedClass
  split
  · dsimp only
    split
    · refine yields_bind fun set hset => yields_some ?_
      have hfold := proper_flags_fold s.flags (proper_asciiClass hset)
      dsimp only
      split
      · exact hfold.complement
      · exact hfold
    · exact yields_none
  · exact yields_none

theorem proper_add {s : CharSet} {m : Members} (hs : s.Proper) (hm : m.set.Proper) (depth : Nat) :
    (m.add s depth).set.Proper :=
  hm.union hs

theorem leadingDashes_proper (n : Nat) {m : Members} (h : m.set.Proper) (s : State) :
    Yields (fun m : Members => m.set.Proper) (leadingDashes n m s) := by
  induction n generalizing m s with
  | zero => exact yields_some h
  | succ n ih => exact yields_ite (ih (proper_add (proper_single _) h 0) _) (yields_some h)

theorem proper_apply {a b : CharSet} (ha : a.Proper) (hb : b.Proper) (o : SetOperator) : (o.apply a b).Proper := by
  cases o with
  | intersection => exact ha.inter hb
  | difference => exact ha.sdiff hb
  | symmetricDifference => exact ha.symmDiff hb

theorem proper_joined {left? : Option (ReadClass × SetOperator)} {members : Members}
    (hleft : ∀ l ∈ left?, l.1.set.Proper) (hmembers : members.set.Proper) (flags : Flags) :
    (joined flags left? members).set.Proper := by
  cases left? with
  | none => exact hmembers
  | some l => exact proper_apply (proper_flags_fold flags (hleft l rfl)) (proper_flags_fold flags hmembers) l.2

/-- Both readers of classes. -/
structure ClassesProper (n : Nat) : Prop where
  bracketed : ∀ s, Yields (fun c : ReadClass => c.set.Proper) (bracketed n s)
  body : ∀ {left? : Option (ReadClass × SetOperator)} {members : Members}, (∀ l ∈ left?, l.1.set.Proper) →
    members.set.Proper → ∀ s, Yields (fun c : ReadClass => c.set.Proper) (classBody n left? members s)

namespace ClassesProper

variable {n : Nat}

theorem classEnd (ih : ClassesProper n) (negated : Bool) {members : Members} (h : members.set.Proper) (s : State) :
    Yields (fun c : ReadClass => c.set.Proper) (classEnd n negated members s) :=
  (ih.body (fun _ hl => (Option.not_mem_none _ hl).elim) h s).bind fun _ hc =>
    yields_bind fun _ hset => yields_some (proper_closed hc hset)

theorem bracketed_succ (ih : ClassesProper n) (s : State) :
    Yields (fun c : ReadClass => c.set.Proper) (Parser.bracketed (n + 1) s) := by
  rw [Parser.bracketed_succ]
  refine (leadingDashes_proper _ proper_empty _).bind fun r hr => yields_ite ?_ ?_
  · exact ih.classEnd _ (proper_add (proper_single _) hr 0) _
  · exact ih.classEnd _ hr _

theorem body_succ (ih : ClassesProper n) {left? : Option (ReadClass × SetOperator)} {members : Members}
    (hleft : ∀ l ∈ left?, l.1.set.Proper) (hmembers : members.set.Proper) (s : State) :
    Yields (fun c : ReadClass => c.set.Proper) (classBody (n + 1) left? members s) := by
  cases hspace : s.skipSpace.left with
  | nil =>
    rw [classBody_nil _ _ _ hspace]
    exact yields_none
  | cons c rest =>
    have hs : s.skipSpace = ⟨c :: rest, s.skipSpace.flags, s.skipSpace.groups, s.skipSpace.names⟩ := by rw [← hspace]
    have hjoined := proper_joined hleft hmembers s.skipSpace.flags
    rw [classBody_cons _ _ _ hs]
    refine yields_ite (yields_some hjoined) ?_
    cases operatorAt c rest with
    | some o => exact ih.body (fun l hl => by cases hl; exact hjoined) proper_empty _
    | none =>
      refine yields_ite ?_ ?_
      · have hnamed := namedClass_proper ⟨rest, s.skipSpace.flags, s.skipSpace.groups, s.skipSpace.names⟩
        cases hclass : namedClass ⟨rest, s.skipSpace.flags, s.skipSpace.groups, s.skipSpace.names⟩ with
        | none => exact (ih.bracketed _).bind fun r hr => ih.body hleft (proper_add hr hmembers _) _
        | some r =>
          refine yields_bind fun set hset => ih.body hleft (proper_add ?_ hmembers 0) _
          exact proper_accept (hnamed r hclass) hset
      · exact (memberOrRange_proper _).bind fun r hr => ih.body hleft (proper_add hr hmembers 0) _

end ClassesProper

/-- **Classes are proper**, however deep they are nested. -/
theorem classesProper (n : Nat) : ClassesProper n := by
  induction n with
  | zero => exact ⟨fun s => yields_none, fun _ _ s => yields_none⟩
  | succ n ih => exact ⟨ih.bracketed_succ, ih.body_succ⟩

/-! ## 4. Expressions

A part carries the expression read so far.  Repetition is the only place where an expression gets counts, and a
repetition in braces is refused where the larger count comes first. -/

/-- The expression of a part is proper. -/
def Part.Proper (p : Part) : Prop := p.regex.Proper

theorem proper_literalPart (f : Flags) (c : Char) : (literalPart f c).Proper :=
  proper_flags_fold f (proper_single c)

theorem proper_dotSet (f : Flags) : (dotSet f).Proper := by
  rw [dotSet]
  split
  · exact proper_all
  · split
    · exact ((proper_single _).union (proper_single _)).complement
    · exact (proper_single _).complement

theorem primitive_proper (s : State) : Yields Part.Proper (primitive s) := by
  unfold primitive
  split
  · exact yields_none
  · dsimp only
    split
    · refine (escape_proper _).bind fun ⟨e, st⟩ he => ?_
      cases e with
      | char c => exact yields_some (proper_literalPart _ c)
      | byte c => exact yields_ite (yields_some (proper_literalPart _ c)) yields_none
      | classOf set => exact yields_some he
      | look l => exact yields_some trivial
    · exact yields_bind fun set hset => yields_some (proper_accept (proper_dotSet _) hset)
    · exact yields_some trivial
    · exact yields_some trivial
    · exact yields_some (proper_literalPart _ _)

theorem proper_repeatPart {p : Part} (h : p.Proper) (greedy : Bool) {low : Nat} {high : Option Nat}
    (hcounts : ∀ m ∈ high, low ≤ m) : (repeatPart greedy low high p).Proper := by
  -- what matches no text is repeated once at most
  have hblank : ∀ m ∈ some ((high.map (Nat.min · 1)).getD 1), Nat.min low 1 ≤ m := by
    rintro m ⟨⟩
    cases high with
    | none => exact Nat.min_le_right low 1
    | some m => exact Nat.le_min.mpr ⟨(Nat.min_le_left low 1).trans (hcounts m rfl), Nat.min_le_right low 1⟩
  have hregex {low : Nat} {high : Option Nat} (hcounts : ∀ m ∈ high, low ≤ m) :
      Regex.Proper (if high = some 0 then .empty
        else if low = 1 ∧ high = some 1 then p.regex else .loop greedy low high p.regex) := by
    split
    · trivial
    · split
      · exact h
      · exact ⟨hcounts, h⟩
  unfold Part.Proper repeatPart
  by_cases hempty : p.regex.isBlank = true
  · rw [if_pos hempty]
    exact hregex hblank
  · rw [if_neg hempty]
    exact hregex hcounts

/-- A repetition has the smaller count first. -/
theorem counts_spec (s : State) : Yields (fun c : Nat × Option Nat => ∀ m ∈ c.2, c.1 ≤ m) (counts s) := by
  rw [counts_eq]
  refine yields_bind fun low _ => yields_bind fun high _ => yields_ite ?_ yields_none
  split
  · rename_i hall
    refine yields_some fun m hm => ?_
    rw [show high.1 = some m from hm] at hall
    exact of_decide_eq_true hall
  · exact yields_none

theorem repetition_proper {before : List Part} (h : ∀ p ∈ before, p.Proper) (s : State) :
    Yields (fun parts : List Part => ∀ p ∈ parts, p.Proper) (repetition before s) := by
  unfold repetition
  split
  · rename_i p before c rest heq
    obtain ⟨hp, hbefore⟩ := List.forall_mem_cons.mp h
    have hgreed {low : Nat} {high : Option Nat} (hcounts : ∀ m ∈ high, low ≤ m) (s : State) :
        Yields (fun parts : List Part => ∀ p ∈ parts, p.Proper)
          (greed s >>= fun r => some (repeatPart r.1 low high p :: before, r.2)) :=
      yields_bind fun r _ => yields_some (List.forall_mem_cons.mpr ⟨proper_repeatPart hp r.1 hcounts, hbefore⟩)
    refine yields_ite yields_none ?_
    dsimp only
    split
    · exact hgreed (fun m _ => Nat.zero_le m) _
    · exact hgreed (fun m _ => Nat.zero_le m) _
    · exact hgreed (fun m hm => (Option.not_mem_none m hm).elim) _
    · exact (counts_spec _).bind fun q hq => hgreed hq q.2
  · exact yields_none

theorem proper_foldl_seq {before : List Part} (h : ∀ p ∈ before, p.Proper) {r : Regex} (hr : r.Proper) :
    (before.foldl (fun r q => .seq q.regex r) r).Proper := by
  induction before generalizing r with
  | nil => exact hr
  | cons p before ih =>
    obtain ⟨hp, hbefore⟩ := List.forall_mem_cons.mp h
    exact ih hbefore ⟨hp, hr⟩

theorem proper_sequence {before : List Part} (h : ∀ p ∈ before, p.Proper) : (sequence before).Proper := by
  cases before with
  | nil => trivial
  | cons p before =>
    obtain ⟨hp, hbefore⟩ := List.forall_mem_cons.mp h
    cases before with
    | nil => exact hp
    | cons q before => exact proper_foldl_seq hbefore hp

theorem proper_choice {first : Part} {more : List Part} (hfirst : first.Proper) (hmore : ∀ p ∈ more, p.Proper) :
    (choice first more).Proper := by
  induction more generalizing first with
  | nil => exact hfirst
  | cons next more ih =>
    obtain ⟨hnext, hmore⟩ := List.forall_mem_cons.mp hmore
    exact ⟨hfirst, ih hnext hmore⟩

/-- The readers of expressions. -/
structure PartsProper (n : Nat) : Prop where
  alternatives : ∀ s, Yields Part.Proper (alternatives n s)
  further : ∀ s, Yields (fun parts : List Part => ∀ p ∈ parts, p.Proper) (furtherAlternatives n s)
  parts : ∀ {before : List Part}, (∀ p ∈ before, p.Proper) → ∀ s, Yields Part.Proper (parts n before s)
  group : ∀ s, Yields Part.Proper (group n s)

namespace PartsProper

variable {n : Nat}

theorem alternatives_succ (ih : PartsProper n) (s : State) : Yields Part.Proper (Parser.alternatives (n + 1) s) := by
  rw [Parser.alternatives]
  refine (ih.parts (List.forall_mem_nil _) s).bind fun first hfirst => (ih.further _).bind fun more hmore => ?_
  exact yields_some (proper_choice hfirst hmore)

theorem further_succ (ih : PartsProper n) (s : State) :
    Yields (fun parts : List Part => ∀ p ∈ parts, p.Proper) (furtherAlternatives (n + 1) s) := by
  rw [furtherAlternatives_succ]
  refine yields_ite ?_ (yields_some (List.forall_mem_nil _))
  refine (ih.parts (List.forall_mem_nil _) _).bind fun next hnext => (ih.further _).bind fun more hmore => ?_
  exact yields_some (List.forall_mem_cons.mpr ⟨hnext, hmore⟩)

theorem parts_succ (ih : PartsProper n) {before : List Part} (h : ∀ p ∈ before, p.Proper) (s : State) :
    Yields Part.Proper (Parser.parts (n + 1) before s) := by
  have hadd {p : Part} (hp : p.Proper) : ∀ q ∈ p :: before, q.Proper := List.forall_mem_cons.mpr ⟨hp, h⟩
  cases hleft : s.skipSpace.left with
  | nil =>
    rw [parts_nil _ _ hleft]
    exact yields_some (proper_sequence h)
  | cons c rest =>
    have hspace : s.skipSpace = ⟨c :: rest, s.skipSpace.flags, s.skipSpace.groups, s.skipSpace.names⟩ := by rw [← hleft]
    rw [parts_cons _ _ hspace]
    cases startOf c with
    | nothing => exact yields_some (proper_sequence h)
    | group => exact (ih.group _).bind fun p hp => ih.parts (hadd hp) _
    | classOf =>
      refine ((classesProper _).bracketed _).bind fun r hr => ih.parts ?_ _
      exact hadd (show Part.Proper ⟨.char _ r.1.set, r.1.depth, true⟩ from hr)
    | repetition => exact (repetition_proper h _).bind fun before hbefore => ih.parts hbefore _
    | single => exact (primitive_proper _).bind fun p hp => ih.parts (hadd hp) _

theorem close_proper {p : Part} (h : p.Proper) (flags : Flags) (index : Option Nat) (s : State) :
    Yields Part.Proper (group.close flags index p s) := by
  rw [group.close]
  split
  · exact yields_some h
  · exact yields_none

theorem group_succ (ih : PartsProper n) (s : State) : Yields Part.Proper (Parser.group (n + 1) s) := by
  rw [Parser.group]
  refine yields_bind fun r _ => ?_
  obtain ⟨how, inner⟩ := r
  cases how with
  | flags => exact yields_some trivial
  | plain => exact (ih.alternatives _).bind fun p hp => close_proper hp _ none _
  | capture index => exact (ih.alternatives _).bind fun p hp => close_proper hp _ (some index) _

end PartsProper

/-- **Expressions are proper**, by induction on the steps that their readers may take. -/
theorem partsProper (n : Nat) : PartsProper n := by
  induction n with
  | zero => exact ⟨fun s => yields_none, fun s => yields_none, fun _ s => yields_none, fun s => yields_none⟩
  | succ n ih => exact ⟨ih.alternatives_succ, ih.further_succ, ih.parts_succ, ih.group_succ⟩

end Regraft.Pattern.Parser

namespace Regraft.Pattern

/-- The expression of a pattern is proper. -/
theorem proper_parse {text : String} {r : Regex} (h : Regex.parse text = some r) : r.Proper := by
  obtain ⟨p, st, hread, -, -, rfl⟩ := Parser.whole_eq_some_iff.mp h
  exact (Parser.partsProper _).alternatives _ _ hread

end Regraft.Pattern
