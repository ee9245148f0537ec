import Mathlib.Data.List.Basic
import Regraft.Proofs.CharacterSets
import Regraft.Proofs.Threads
/-!
# What written programs accept

An outline matches from one place of a text to another (`Outline.Matches`).  The states that are written for it lead
from a place to all places that it matches to, and to no other, before they go on in the state that follows
(`Spells`), in every program that has these states.  So the program of an outline accepts at a place if and only if the
outline matches from there (`program_accepts_iff`).  Of every way of writing states three things are proved together
(`Writes`): states written before are not touched, no state leads out of the program, and what is written spells what it
should.  The induction is over the outline; an unbounded loop needs another one over the length of a way, because its
last round leads back to where it begins.
-/

namespace Regraft.Pattern

open Unicode (CharSet)

/-! ## 1. What outlines match

Matchings are relations between places, and the ways of putting them together are those of outlines.  The lemmas on
`times`, `atMost` and `star` are the algebra that is needed of them: how often a round is made, split at the first
round or at the last. -/

/-- From place to place. -/
abbrev Matching := Place → Place → Prop

namespace Matching

/-- One character of a set. -/
def char (s : CharSet) : Matching := fun a b => ∃ c, s.contains c = true ∧ a.rest = c :: b.rest ∧ b.before = some c

/-- One character after another. -/
def literal : List Char → Matching
  | [] => fun a b => b = a
  | c :: text => fun a b => ∃ rest, a.rest = c :: rest ∧ literal text ⟨some c, rest⟩ b

def look (l : Look) : Matching := fun a b => b = a ∧ l.holds a.before a.rest.head? = true

/-- One after the other. -/
def andThen (M N : Matching) : Matching := fun a b => ∃ c, M a c ∧ N c b

/-- A number of times. -/
def times (M : Matching) : Nat → Matching
  | 0 => fun a b => b = a
  | n + 1 => M.andThen (M.times n)

/-- At most a number of times. -/
def atMost (M : Matching) (n : Nat) : Matching := fun a b => ∃ k ≤ n, M.times k a b

/-- Any number of times. -/
def star (M : Matching) : Matching := fun a b => ∃ n, M.times n a b

end Matching

/-- From which places to which others an outline matches. -/
def Outline.Matches : Outline → Matching
  | empty => fun a b => b = a
  | literal text => .literal text
  | set _ s => .char s
  | look l => .look l
  | group _ body => body.Matches
  | loop _ least most body => fun a b =>
    ∃ n, least ≤ n ∧ (∀ m ∈ most, n ≤ max least m) ∧ Matching.times body.Matches n a b
  | seq first rest => first.Matches.andThen rest.Matches
  | alt first rest => fun a b => first.Matches a b ∨ rest.Matches a b

namespace Matching

variable {M N K : Matching} {a b : Place}

theorem andThen_assoc : (M.andThen N).andThen K a b ↔ M.andThen (N.andThen K) a b := by
  constructor
  · rintro ⟨d, ⟨c, hac, hcd⟩, hdb⟩
    exact ⟨c, hac, d, hcd, hdb⟩
  · rintro ⟨c, hac, d, hcd, hdb⟩
    exact ⟨d, ⟨c, hac, hcd⟩, hdb⟩

theorem times_add (m n : Nat) : (M.times m).andThen (M.times n) a b ↔ M.times (m + n) a b := by
  induction m generalizing a with
  | zero =>
    rw [Nat.zero_add]
    constructor
    · rintro ⟨c, rfl, h⟩
      exact h
    · exact fun h => ⟨a, rfl, h⟩
  | succ m ih =>
    rw [times, andThen_assoc, Nat.succ_add, times]
    exact exists_congr fun c => and_congr_right' ih

theorem times_one : M.times 1 a b ↔ M a b := by
  constructor
  · rintro ⟨c, h, rfl⟩
    exact h
  · exact fun h => ⟨b, h, rfl⟩

theorem atMost_zero : M.atMost 0 a b ↔ b = a := by
  constructor
  · rintro ⟨k, hk, hab⟩
    obtain rfl := Nat.le_zero.mp hk
    exact hab
  · exact fun h => ⟨0, Nat.le_refl 0, h⟩

theorem times_andThen {n : Nat} : (M.times n).andThen M a b ↔ M.times (n + 1) a b := by
  rw [← times_add]
  exact exists_congr fun c => and_congr_right' times_one.symm

theorem andThen_atMost_or {n : Nat} : (M.andThen (M.atMost n) a b ∨ b = a) ↔ M.atMost (n + 1) a b := by
  constructor
  · rintro (⟨c, hac, k, hk, hcb⟩ | rfl)
    · exact ⟨k + 1, Nat.succ_le_succ hk, c, hac, hcb⟩
    · exact ⟨0, Nat.zero_le _, rfl⟩
  · rintro ⟨k, hk, hab⟩
    cases k with
    | zero => exact .inr hab
    | succ k =>
      obtain ⟨c, hac, hcb⟩ := hab
      exact .inl ⟨c, hac, k, Nat.le_of_succ_le_succ hk, hcb⟩

theorem andThen_star_or : (M.andThen M.star a b ∨ b = a) ↔ M.star a b := by
  constructor
  · rintro (⟨c, hac, n, hcb⟩ | rfl)
    · exact ⟨n + 1, c, hac, hcb⟩
    · exact ⟨0, rfl⟩
  · rintro ⟨_ | n, hab⟩
    · exact .inr hab
    · obtain ⟨c, hac, hcb⟩ := hab
      exact .inl ⟨c, hac, n, hcb⟩

end Matching

/-! ## 2. States that spell something

States spell a matching between an entry and an exit if, from the entry, acceptance is reached exactly through the
places that the matching leads to and then through the exit.  In that form one spelling after another spells one
matching after another. -/

/-- The ways from `start` to acceptance are those from `next` behind what matches. -/
structure Spells (p : Program) (M : Matching) (start next : Nat) : Prop where
  sound : ∀ {n a}, p.AcceptsIn n start a → ∃ b m, m ≤ n ∧ M a b ∧ p.AcceptsIn m next b
  complete : ∀ {a b}, M a b → p.Accepts next b → p.Accepts start a

variable {p : Program} {M N : Matching} {s t next : Nat}

theorem State.round_ne_accept (greedy : Bool) {more done : Nat} : State.round greedy more done ≠ .accept := by
  cases greedy <;> nofun

namespace Spells

theorem refl (p : Program) (s : Nat) : Spells p (fun a b => b = a) s s where
  sound h := ⟨_, _, Nat.le_refl _, rfl, h⟩
  complete := by
    rintro a b rfl h
    exact h

theorem trans (hM : Spells p M s t) (hN : Spells p N t next) : Spells p (M.andThen N) s next where
  sound h := by
    obtain ⟨c, m, hm, hmc, h⟩ := hM.sound h
    obtain ⟨b, k, hk, hcb, h⟩ := hN.sound h
    exact ⟨b, k, Nat.le_trans hk hm, ⟨c, hmc, hcb⟩, h⟩
  complete := by
    rintro a b ⟨c, hmc, hcb⟩ h
    exact hM.complete hmc (hN.complete hcb h)

theorem congr (h : Spells p M s next) (hMN : ∀ a b, M a b ↔ N a b) : Spells p N s next where
  sound hs := by
    obtain ⟨b, m, hm, hab, h⟩ := h.sound hs
    exact ⟨b, m, hm, (hMN _ _).mp hab, h⟩
  complete hab := h.complete ((hMN _ _).mpr hab)

/-- A state that leads to `next` alone. -/
theorem of_leads (hne : p.at s ≠ .accept) (h : ∀ a s' b, (p.at s).Leads a s' b ↔ M a b ∧ s' = next) :
    Spells p M s next where
  sound hs := by
    cases hs with
    | here hs => exact absurd hs hne
    | step hstep hs =>
      obtain ⟨hab, rfl⟩ := (h _ _ _).mp hstep
      exact ⟨_, _, Nat.le_succ _, hab, hs⟩
  complete hab := Program.Step.accepts ((h _ _ _).mpr ⟨hab, rfl⟩)

theorem char {set : CharSet} (hs : p.at s = .char set next) : Spells p (.char set) s next :=
  of_leads (by rw [hs]; nofun) fun a s' b => by rw [hs]; rfl

theorem look {l : Look} (hs : p.at s = .look l next) : Spells p (.look l) s next :=
  of_leads (by rw [hs]; nofun) fun a s' b => by
    rw [hs, State.Leads, Matching.look, ← and_assoc]
    exact and_congr_left' (and_comm)

theorem mark {slot : Nat} (hs : p.at s = .mark slot next) : Spells p (fun a b => b = a) s next :=
  of_leads (by rw [hs]; nofun) fun a s' b => by rw [hs]; rfl

theorem step_round {greedy : Bool} {more done s' : Nat} {a b : Place} (hs : p.at s = .round greedy more done) :
    p.Step s a s' b ↔ b = a ∧ (s' = more ∨ s' = done) := by
  rw [Program.Step, hs, State.round]
  cases greedy with
  | true => rfl
  | false => exact and_congr_right' or_comm

/-- Another round or none, whichever is preferred. -/
theorem round {greedy : Bool} {more done : Nat} (hs : p.at s = .round greedy more done) (hM : Spells p M more next)
    (hN : Spells p N done next) : Spells p (fun a b => M a b ∨ N a b) s next where
  sound h := by
    cases h with
    | here h => exact absurd (hs.symm.trans h) (State.round_ne_accept greedy)
    | step hstep h =>
      obtain ⟨rfl, rfl | rfl⟩ := (step_round hs).mp hstep
      · obtain ⟨b, m, hm, hab, h⟩ := hM.sound h
        exact ⟨b, m, Nat.le_succ_of_le hm, .inl hab, h⟩
      · obtain ⟨b, m, hm, hab, h⟩ := hN.sound h
        exact ⟨b, m, Nat.le_succ_of_le hm, .inr hab, h⟩
  complete := by
    rintro a b (hab | hab) h
    · exact ((step_round hs).mpr ⟨rfl, .inl rfl⟩).accepts (hM.complete hab h)
    · exact ((step_round hs).mpr ⟨rfl, .inr rfl⟩).accepts (hN.complete hab h)

/-- A round that leads back to the choice before it is taken any number of times. -/
theorem again {greedy : Bool} {more : Nat} (hs : p.at s = .round greedy more next) (hM : Spells p M more s) :
    Spells p M.star s next where
  sound := by
    intro n a h
    -- A round is at least one step, namely that into it.
    induction n using Nat.strongRecOn generalizing a with
    | ind n ih =>
      cases h with
      | here h => exact absurd (hs.symm.trans h) (State.round_ne_accept greedy)
      | @step n _ _ _ _ hstep h =>
        obtain ⟨rfl, rfl | rfl⟩ := (step_round hs).mp hstep
        · obtain ⟨c, m, hm, hac, h⟩ := hM.sound h
          obtain ⟨b, k, hk, ⟨rounds, hcb⟩, h⟩ := ih m (Nat.lt_succ_of_le hm) h
          exact ⟨b, k, by omega, ⟨rounds + 1, c, hac, hcb⟩, h⟩
        · exact ⟨_, n, Nat.le_succ n, ⟨0, rfl⟩, h⟩
  complete := by
    rintro a b ⟨n, hab⟩ h
    induction n generalizing a with
    | zero =>
      obtain rfl := hab
      exact ((step_round hs).mpr ⟨rfl, .inr rfl⟩).accepts h
    | succ n ih =>
      obtain ⟨c, hac, hcb⟩ := hab
      exact ((step_round hs).mpr ⟨rfl, .inl rfl⟩).accepts (hM.complete hac (ih hcb))

end Spells

/-! ## 3. States written one after the other

Programs are written by pushing states.  That no state leads out of what is written (`Closed`), and that nothing
written before is touched (`Extends`), is kept at each step. -/

/-- The numbers of the states after a state. -/
def State.successors : State → List Nat
  | accept => []
  | char _ next | look _ next | mark _ next => [next]
  | choice first second => [first, second]

theorem State.mem_successors_round {greedy : Bool} {more done n : Nat} :
    n ∈ (State.round greedy more done).successors ↔ n = more ∨ n = done := by
  cases greedy with
  | true => exact List.mem_pair
  | false => exact List.mem_pair.trans or_comm

/-- Every state after a state is one of those written. -/
def Closed (states : Array State) : Prop :=
  ∀ (i : Nat) (s : State), states[i]? = some s → ∀ n ∈ s.successors, n < states.size

/-- States that were written are still there. -/
def Extends (states later : Array State) : Prop := ∀ (i : Nat) (s : State), states[i]? = some s → later[i]? = some s

/-- A program has the states written from a number on. -/
def Program.Has (p : Program) (first : Nat) (states : Array State) : Prop :=
  ∀ (i : Nat) (s : State), first ≤ i → states[i]? = some s → p.at i = s

variable {states later latest : Array State}

theorem Extends.refl (states : Array State) : Extends states states := fun _ _ h => h

theorem Extends.trans (h : Extends states later) (h' : Extends later latest) : Extends states latest := fun i s hs =>
  h' i s (h i s hs)

theorem Extends.size_le (h : Extends states later) : states.size ≤ later.size := by
  rcases Nat.eq_zero_or_pos states.size with hzero | hpos
  · omega
  · have hlast := h (states.size - 1) _ (Array.getElem?_eq_getElem (by omega))
    have := (Array.getElem?_eq_some_iff.mp hlast).choose
    omega

theorem Program.Has.mono {first : Nat} (h : p.Has first later) (hextends : Extends states later) :
    p.Has first states := fun i s hi hs => h i s hi (hextends i s hs)

theorem Program.Has.from_later {first second : Nat} (h : p.Has first states) (hle : first ≤ second) :
    p.Has second states := fun i s hi hs => h i s (Nat.le_trans hle hi) hs

theorem extends_push (states : Array State) (s : State) : Extends states (states.push s) := fun i t ht => by
  obtain ⟨hi, -⟩ := Array.getElem?_eq_some_iff.mp ht
  rw [Array.getElem?_push_lt hi, ← ht, Array.getElem?_eq_getElem hi]

theorem Closed.push (h : Closed states) {s : State} (hs : ∀ n ∈ s.successors, n < states.size) :
    Closed (states.push s) := by
  intro i t ht n hn
  rw [Array.size_push]
  rw [Array.getElem?_push] at ht
  split at ht
  · cases ht
    exact Nat.lt_succ_of_lt (hs n hn)
  · exact Nat.lt_succ_of_lt (h i t ht n hn)

/-- States that spell something before `next`, with the number of the one to begin in, as what is written behind
other states. -/
structure Written (M : Matching) (next : Nat) (states : Array State) (out : Nat × Array State) : Prop where
  extend : Extends states out.2
  closed : Closed states → next < states.size → Closed out.2 ∧ out.1 < out.2.size
  spells : ∀ p : Program, p.Has states.size out.2 → Spells p M out.1 next

namespace Written

variable {out first second : Nat × Array State}

theorem refl (next : Nat) (states : Array State) : Written (fun a b => b = a) next states (next, states) where
  extend := .refl states
  closed h hnext := ⟨h, hnext⟩
  spells p _ := .refl p next

theorem congr (h : Written M next states out) (hMN : ∀ a b, M a b ↔ N a b) : Written N next states out where
  extend := h.extend
  closed := h.closed
  spells p hp := (h.spells p hp).congr hMN

/-- What is written in front comes first. -/
theorem trans (hN : Written N next states first) (hM : Written M first.1 first.2 second) :
    Written (M.andThen N) next states second where
  extend := hN.extend.trans hM.extend
  closed h hnext := by
    obtain ⟨h, hnext⟩ := hN.closed h hnext
    exact hM.closed h hnext
  spells p hp := (hM.spells p (hp.from_later hN.extend.size_le)).trans (hN.spells p (hp.mono hM.extend))

/-- One state that leads to `next` alone. -/
theorem push {s : State} (hs : s.successors = [next])
    (hspells : ∀ (p : Program) (i : Nat), p.at i = s → Spells p M i next) (states : Array State) :
    Written M next states (s.write states) where
  extend := extends_push states s
  closed h hnext := by
    refine ⟨h.push fun n hn => ?_, ?_⟩
    · rw [hs] at hn
      obtain rfl := List.mem_singleton.mp hn
      exact hnext
    · show states.size < (states.push s).size
      rw [Array.size_push]
      exact Nat.lt_succ_self _
  spells p hp := hspells p states.size (hp _ s (Nat.le_refl _) Array.getElem?_push_size)

/-- A choice in front of what two ways lead to. -/
theorem round (greedy : Bool) (hN : Written N next states first) (hM : Written M next first.2 second) :
    Written (fun a b => M a b ∨ N a b) next states ((State.round greedy second.1 first.1).write second.2) where
  extend := (hN.extend.trans hM.extend).trans (extends_push _ _)
  closed h hnext := by
    have hle := hM.extend.size_le
    have hle' := hN.extend.size_le
    obtain ⟨h, hfirst⟩ := hN.closed h hnext
    obtain ⟨h, hsecond⟩ := hM.closed h (by omega)
    refine ⟨h.push fun n hn => ?_, ?_⟩
    · rcases State.mem_successors_round.mp hn with rfl | rfl <;> omega
    · show second.2.size < (second.2.push _).size
      rw [Array.size_push]
      exact Nat.lt_succ_self _
  spells p hp := by
    have hle := hM.extend.size_le
    have hle' := hN.extend.size_le
    have hsecond := hp.mono (extends_push second.2 _)
    exact .round (hp second.2.size _ (by omega) Array.getElem?_push_size)
      (hM.spells p (hsecond.from_later hle')) (hN.spells p (hsecond.mono hM.extend))

/-- Rounds that lead back to a choice, which is completed afterwards. -/
theorem again (greedy : Bool) (hM : Written M states.size (states.push .accept) first) :
    Written (M.andThen M.star) next states
      (first.1, first.2.setIfInBounds states.size (.round greedy first.1 next)) where
  extend i s hs := by
    have hi := (Array.getElem?_eq_some_iff.mp hs).choose
    rw [Array.getElem?_setIfInBounds_ne (by omega)]
    exact hM.extend i s (extends_push states _ i s hs)
  closed h hnext := by
    have hle := hM.extend.size_le
    rw [Array.size_push] at hle
    obtain ⟨h, hfirst⟩ := hM.closed (h.push (by nofun)) (by rw [Array.size_push]; exact Nat.lt_succ_self _)
    refine ⟨fun i s hs n hn => ?_, by rw [Array.size_setIfInBounds]; exact hfirst⟩
    rw [Array.size_setIfInBounds]
    rw [Array.getElem?_setIfInBounds] at hs
    split at hs
    · rw [if_pos (by omega)] at hs
      cases hs
      rcases State.mem_successors_round.mp hn with rfl | rfl <;> omega
    · exact h i s hs n hn
  spells p hp := by
    have hle := hM.extend.size_le
    rw [Array.size_push] at hle
    have hagain : p.at states.size = .round greedy first.1 next :=
      hp _ _ (Nat.le_refl _) (Array.getElem?_setIfInBounds_self_of_lt (by omega))
    have hround : Spells p M first.1 states.size := hM.spells p fun i s hi hs => by
      rw [Array.size_push] at hi
      exact hp i s (by omega) (by rw [Array.getElem?_setIfInBounds_ne (by omega), hs])
    exact hround.trans (.again hagain hround)

/-- What is written a number of times. -/
theorem times {part : Nat → Writing} (h : ∀ next states, Written M next states (part next states)) (n next : Nat)
    (states : Array State) : Written (M.times n) next states (writeTimes part n next states) := by
  induction n generalizing next states with
  | zero => exact .refl next states
  | succ n ih => exact ((h next states).trans (ih _ _)).congr fun a b => Matching.times_andThen

/-- Another round or none, a number of times. -/
theorem optional {part : Nat → Writing} (h : ∀ next states, Written M next states (part next states)) (greedy : Bool)
    (n : Nat) {k : Nat} (hN : Written (M.atMost k) next states first) :
    Written (M.atMost (k + n)) next states
      (writeTimes (fun following => do (State.round greedy (← part following) next).write) n first.1 first.2) := by
  induction n generalizing k first with
  | zero => exact hN
  | succ n ih =>
    rw [show k + (n + 1) = k + 1 + n by omega]
    exact ih (((refl next states).round greedy (hN.trans (h _ _))).congr fun a b => Matching.andThen_atMost_or)

end Written

/-! ## 4. Outlines

One lemma for each kind of outline, and an induction.  A loop with an upper bound is written as so many copies; one
without is a choice that its own last round leads back to, and there a way through it is followed by its length. -/

theorem Matching.literal_cons {c : Char} {text : List Char} {a b : Place} :
    Matching.andThen (.char (.single c)) (.literal text) a b ↔ Matching.literal (c :: text) a b := by
  constructor
  · rintro ⟨⟨before, rest⟩, ⟨d, hd, hrest, hbefore⟩, hab⟩
    obtain rfl := (CharSet.contains_single c d).mp hd
    cases hbefore
    exact ⟨rest, hrest, hab⟩
  · rintro ⟨rest, hrest, hab⟩
    exact ⟨⟨some c, rest⟩, ⟨c, (CharSet.contains_single c c).mpr rfl, hrest, rfl⟩, hab⟩

theorem written_literal (text : List Char) (next : Nat) (states : Array State) :
    Written (.literal text) next states ((Outline.literal text).write next states) := by
  rw [Outline.write]
  induction text generalizing next states with
  | nil => exact .refl next states
  | cons c text ih =>
    rw [List.foldrM_cons]
    have hchar (next : Nat) (states : Array State) :
        Written (.char (.single c)) next states ((State.char (.single c) next).write states) :=
      .push rfl (fun p i hs => .char hs) states
    exact ((ih next states).trans (hchar _ _)).congr fun a b => Matching.literal_cons

/-- At least so many times and at most so many more. -/
theorem Matching.times_andThen_atMost {M : Matching} {least more : Nat} {a b : Place} :
    (M.times least).andThen (M.atMost more) a b ↔ ∃ n, least ≤ n ∧ n ≤ least + more ∧ M.times n a b := by
  constructor
  · rintro ⟨c, hac, k, hk, hcb⟩
    exact ⟨least + k, Nat.le_add_right _ _, Nat.add_le_add_left hk _, (times_add least k).mp ⟨c, hac, hcb⟩⟩
  · rintro ⟨n, hle, hle', hab⟩
    obtain ⟨k, rfl⟩ := Nat.exists_eq_add_of_le hle
    obtain ⟨c, hac, hcb⟩ := (times_add least k).mpr hab
    exact ⟨c, hac, k, Nat.le_of_add_le_add_left hle', hcb⟩

theorem Matching.times_andThen_star {M : Matching} {least : Nat} {a b : Place} :
    (M.times least).andThen M.star a b ↔ ∃ n, least ≤ n ∧ M.times n a b := by
  constructor
  · rintro ⟨c, hac, k, hcb⟩
    exact ⟨least + k, Nat.le_add_right _ _, (times_add least k).mp ⟨c, hac, hcb⟩⟩
  · rintro ⟨n, hle, hab⟩
    obtain ⟨k, rfl⟩ := Nat.exists_eq_add_of_le hle
    obtain ⟨c, hac, hcb⟩ := (times_add least k).mpr hab
    exact ⟨c, hac, k, hcb⟩

theorem written_group {body : Outline} (h : ∀ next states, Written body.Matches next states (body.write next states))
    (index next : Nat) (states : Array State) :
    Written body.Matches next states ((Outline.group index body).write next states) := by
  have hmark (slot next : Nat) (states : Array State) :
      Written (fun a b => b = a) next states ((State.mark slot next).write states) :=
    .push rfl (fun p i hs => .mark hs) states
  refine (((hmark (2 * index + 1) next states).trans (h _ _)).trans (hmark (2 * index) _ _)).congr fun a b => ?_
  constructor
  · rintro ⟨c, rfl, d, hcd, rfl⟩
    exact hcd
  · exact fun hab => ⟨a, rfl, b, hab, rfl⟩

/-- A loop that ends: the optional rounds are written first. -/
theorem written_loop_some {body : Outline}
    (h : ∀ next states, Written body.Matches next states (body.write next states)) (greedy : Bool)
    (least most next : Nat) (states : Array State) :
    Written (Outline.loop greedy least (some most) body).Matches next states
      ((Outline.loop greedy least (some most) body).write next states) := by
  have hnone : Written (body.Matches.atMost 0) next states (next, states) :=
    (Written.refl next states).congr fun a b => Matching.atMost_zero.symm
  refine ((hnone.optional h greedy (most - least)).trans (.times h least _ _)).congr fun a b => ?_
  rw [Matching.times_andThen_atMost, Outline.Matches]
  refine exists_congr fun n => and_congr_right fun _ => and_congr_left' ⟨fun hn m hm => ?_, fun hn => ?_⟩
  · cases hm
    omega
  · have hmost := hn most rfl
    omega

/-- A loop without an end. -/
theorem written_loop_none {body : Outline}
    (h : ∀ next states, Written body.Matches next states (body.write next states)) (greedy : Bool)
    (least next : Nat) (states : Array State) :
    Written (Outline.loop greedy least none body).Matches next states
      ((Outline.loop greedy least none body).write next states) := by
  have hmatches (least : Nat) (a b : Place) : (body.Matches.times least).andThen body.Matches.star a b ↔
      (Outline.loop greedy least none body).Matches a b := by
    rw [Matching.times_andThen_star, Outline.Matches]
    exact exists_congr fun n => and_congr_right fun _ => (and_iff_right nofun).symm
  have hround : Written (body.Matches.andThen body.Matches.star) next states
      ((body.write states.size (states.push .accept)).1, _) := .again greedy (h _ _)
  rw [Outline.write]
  split
  · rename_i hleast
    subst hleast
    refine ((Written.refl next states).round greedy hround).congr fun a b => ?_
    rw [Matching.andThen_star_or, ← hmatches]
    exact ⟨fun h => ⟨a, rfl, h⟩, fun ⟨_, hac, h⟩ => hac ▸ h⟩
  · rename_i hleast
    refine (hround.trans (.times h (least - 1) _ _)).congr fun a b => ?_
    rw [← hmatches, ← Matching.andThen_assoc, ← Nat.sub_add_cancel (Nat.one_le_iff_ne_zero.mpr hleast)]
    exact exists_congr fun c => and_congr_left' Matching.times_andThen

/-- An outline is written as what it matches. -/
theorem written_outline (o : Outline) (next : Nat) (states : Array State) :
    Written o.Matches next states (o.write next states) := by
  induction o generalizing next states with
  | empty => exact .refl next states
  | literal text => exact written_literal text next states
  | set _ s => exact .push rfl (fun p i hs => .char hs) states
  | look l => exact .push rfl (fun p i hs => .look hs) states
  | group index body ih => exact written_group ih index next states
  | seq first rest ihfirst ihrest => exact (ihrest next states).trans (ihfirst _ _)
  | alt first rest ihfirst ihrest => exact (ihrest next states).round true (ihfirst next _)
  | loop greedy least most body ih =>
    cases most with
    | some most => exact written_loop_some ih greedy least most next states
    | none => exact written_loop_none ih greedy least next states

/-! ## 5. Programs of outlines

The states of an outline, with one that accepts behind them, are the whole program. -/

/-- The program of an outline is written behind the state that accepts. -/
theorem written_program (o : Outline) : Written o.Matches 0 #[.accept] (o.program.start, o.program.states) :=
  written_outline o 0 #[.accept]

/-- No state of a program leads out of it. -/
theorem closed_program (o : Outline) : Closed o.program.states ∧ o.program.start < o.program.states.size := by
  have hempty : Closed #[] := fun i s hs => by cases hs
  exact (written_program o).closed (hempty.push (s := .accept) (by nofun)) Nat.zero_lt_one

/-- The program of an outline accepts at a place if and only if the outline matches from there. -/
theorem program_accepts_iff (o : Outline) (a : Place) : o.program.Accepts o.program.start a ↔ ∃ b, o.Matches a b := by
  have hat {i : Nat} {s : State} (hs : o.program.states[i]? = some s) : o.program.at i = s := by
    rw [Program.at, Array.getD_eq_getD_getElem?, hs, Option.getD_some]
  have hspells := (written_program o).spells o.program fun i s _ hs => hat hs
  constructor
  · rintro ⟨n, h⟩
    obtain ⟨b, -, -, hab, -⟩ := hspells.sound h
    exact ⟨b, hab⟩
  · rintro ⟨b, hab⟩
    exact hspells.complete hab (Program.accepts_of_accept (hat ((written_program o).extend 0 .accept rfl)))

end Regraft.Pattern
