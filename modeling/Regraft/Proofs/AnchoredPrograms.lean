import Mathlib.Data.List.Basic
import Regraft.Proofs.WrittenPrograms
/-!
# Programs that are bound to the start

A program that first asks for the start of the text, and then goes on as another program, finds the match of that
program or none (`run_of_anchored`).  Of the threads of the other program it follows those that began at the start,
which are the first and so the preferred ones, and no thread is influenced by one that comes after it
(`Settles.append`).  So as long as neither has matched, the threads of the one are the first threads of the other, and
as soon as the one has matched, both have the same threads.

The comparison is made position by position.  `Alongside` is what holds before both programs look at a position, and
`Together` what they come to there; advancing over a character leads from the second to the first at the next position.
The start of the text is a case of its own, since a new thread of either program begins there, and later new threads
begin in the other program alone.
-/

namespace Regraft.Pattern

variable {p : Program} {h : Here} {met met' : Array Nat} {threads more : List Thread} {out later : Settled}

/-! ## 1. Earlier threads decide

Threads are followed in their order, each of them as far as it goes without a character.  A state that one thread has
met is not entered again by a later one, so that earlier threads are settled as if the later ones were not there, and
later ones with the states that have been met by then. -/

theorem Settles.append_of_matched (hsettles : Settles p h met threads out) (hmatched : out.matched.isSome)
    (more : List Thread) : Settles p h met (threads ++ more) out := by
  induction hsettles with
  | done => cases hmatched
  | met hmet _ ih => exact .met hmet (ih hmatched)
  | matched hmet hs => exact .matched hmet hs
  | waits hmet hchar _ ih => exact .waits hmet hchar (ih hmatched)
  | goes hmet hts _ ih =>
    have hrest := ih hmatched
    rw [List.append_assoc] at hrest
    exact .goes hmet hts hrest

/-- Threads behind others that have not matched are followed with the states that these have met. -/
theorem Settles.append (hsettles : Settles p h met threads out) (hnone : out.matched = none)
    (hmore : Settles p h out.met more later) :
    Settles p h met (threads ++ more) { later with waiting := out.waiting ++ later.waiting } := by
  induction hsettles with
  | done => exact hmore
  | met hmet _ ih => exact .met hmet (ih hnone hmore)
  | matched => cases hnone
  | waits hmet hchar _ ih => exact .waits hmet hchar (ih hnone hmore)
  | goes hmet hts _ ih =>
    have hrest := ih hnone hmore
    rw [List.append_assoc] at hrest
    exact .goes hmet hts hrest

/-! ## 2. Threads stay in the program

The condition in front is a state that is added behind the states of the program.  No state of the program leads there,
so threads that are in it stay in it. -/

theorem Closed.lt_size (hclosed : Closed p.states) {s n : Nat} (hn : n ∈ (p.at s).successors) : n < p.states.size := by
  by_cases hs : s < p.states.size
  · refine hclosed s (p.at s) ?_ n hn
    rw [Program.at, Array.getD_eq_getD_getElem?, Array.getElem?_eq_getElem hs, Option.getD_some]
  · rw [Program.at, Array.getD_eq_getD_getElem?, Array.getElem?_eq_none (Nat.le_of_not_lt hs)] at hn
    cases hn

theorem Program.onward_mem_successors {t t' : Thread} {ts : List Thread} (hts : p.onward? h t = some ts)
    (ht' : t' ∈ ts) : t'.state ∈ (p.at t.state).successors := by
  rw [onward?] at hts
  cases hs : p.at t.state <;> rw [hs] at hts <;> cases hts
  case look l next =>
    split at ht'
    · obtain rfl := List.mem_singleton.mp ht'
      exact List.mem_singleton_self _
    · cases ht'
  case mark slot next =>
    obtain rfl := List.mem_singleton.mp ht'
    exact List.mem_singleton_self _
  case choice first second =>
    rcases List.mem_pair.mp ht' with rfl | rfl
    · exact List.mem_cons_self
    · exact List.mem_cons_of_mem _ (List.mem_singleton_self _)

/-- Threads in states of a program. -/
def Program.Inside (p : Program) (threads : List Thread) : Prop := ∀ t ∈ threads, t.state < p.states.size

theorem Closed.inside_onward (hclosed : Closed p.states) {t : Thread} {ts rest : List Thread}
    (hts : p.onward? h t = some ts) (hrest : p.Inside rest) : p.Inside (ts ++ rest) := fun t' ht' => by
  rcases List.mem_append.mp ht' with ht' | ht'
  · exact hclosed.lt_size (Program.onward_mem_successors hts ht')
  · exact hrest t' ht'

/-- Following threads does not lead out of the program. -/
theorem Settles.inside (hsettles : Settles p h met threads out) (hclosed : Closed p.states)
    (hinside : p.Inside threads) : p.Inside out.waiting := by
  induction hsettles with
  | done => exact hinside
  | met _ _ ih => exact ih (List.forall_mem_cons.mp hinside).2
  | matched => nofun
  | waits _ _ _ ih =>
    obtain ⟨ht, hrest⟩ := List.forall_mem_cons.mp hinside
    exact List.forall_mem_cons.mpr ⟨ht, ih hrest⟩
  | goes _ hts _ ih => exact ih (hclosed.inside_onward hts (List.forall_mem_cons.mp hinside).2)

theorem Closed.inside_advanced (hclosed : Closed p.states) (c : Char) (threads : List Thread) :
    p.Inside (threads.filterMap (p.advance? c)) := fun t' ht' => by
  obtain ⟨t, -, ht⟩ := List.mem_filterMap.mp ht'
  rw [Program.advance?] at ht
  split at ht
  · rename_i set next hs
    obtain ⟨-, ht⟩ := Option.ite_none_right_eq_some.mp ht
    cases ht
    exact hclosed _ _ hs next (List.mem_singleton_self _)
  · cases ht

/-! ## 3. A condition in front of a program

On the states of the program both programs do the same.  Only the records of states that were met differ, by the entry
of the new state, which no thread meets again. -/

/-- A program that asks for the start of the text and goes on as another. -/
def Program.anchored (p : Program) : Program := ⟨p.states.push (.look .textStart p.start), p.states.size⟩

theorem Program.size_anchored (p : Program) : p.anchored.states.size = p.states.size + 1 :=
  Array.size_push _

/-- The states of the program are kept. -/
theorem Program.at_anchored {s : Nat} (hs : s < p.states.size) : p.anchored.at s = p.at s := by
  rw [Program.at, Program.at, Array.getD_eq_getD_getElem?, Array.getD_eq_getD_getElem?, anchored,
    Array.getElem?_push_lt hs, Array.getElem?_eq_getElem hs]

theorem Program.at_start_anchored (p : Program) : p.anchored.at p.anchored.start = .look .textStart p.start := by
  rw [Program.at, Array.getD_eq_getD_getElem?, anchored, Array.getElem?_push_size, Option.getD_some]

/-- Two records of what was met agree on the states of a program. -/
def Program.SameMet (p : Program) (position : Nat) (met met' : Array Nat) : Prop :=
  ∀ s < p.states.size, Met met' position s ↔ Met met position s

theorem Program.SameMet.meet {position s : Nat} (hsame : p.SameMet position met met') (hsize : met.size = p.states.size)
    (hsize' : met'.size = p.states.size + 1) (hs : s < p.states.size) :
    p.SameMet position (Pattern.meet met position s) (Pattern.meet met' position s) := fun s' hs' => by
  rw [met_meet_iff (by omega), met_meet_iff (by omega), hsame s' hs']

/-- Threads in states of the program come to the same. -/
theorem Settles.anchored (hsettles : Settles p h met threads out) (hclosed : Closed p.states)
    (hinside : p.Inside threads) (hsize : met.size = p.states.size) (hsize' : met'.size = p.states.size + 1)
    (hsame : p.SameMet h.position met met') :
    ∃ met'', Settles p.anchored h met' threads { out with met := met'' } := by
  induction hsettles generalizing met' with
  | done => exact ⟨met', .done⟩
  | met hmet _ ih =>
    obtain ⟨ht, hrest⟩ := List.forall_mem_cons.mp hinside
    obtain ⟨met'', h⟩ := ih hrest hsize hsize' hsame
    exact ⟨met'', .met ((hsame _ ht).mpr hmet) h⟩
  | matched hmet hs =>
    obtain ⟨ht, hrest⟩ := List.forall_mem_cons.mp hinside
    exact ⟨_, .matched (mt (hsame _ ht).mp hmet) ((Program.at_anchored ht).trans hs)⟩
  | waits hmet hchar _ ih =>
    obtain ⟨ht, hrest⟩ := List.forall_mem_cons.mp hinside
    obtain ⟨met'', h⟩ := ih hrest (by rw [size_meet, hsize]) (by rw [size_meet, hsize']) (hsame.meet hsize hsize' ht)
    exact ⟨met'', .waits (mt (hsame _ ht).mp hmet) ((Program.at_anchored ht).trans hchar) h⟩
  | goes hmet hts _ ih =>
    obtain ⟨ht, hrest⟩ := List.forall_mem_cons.mp hinside
    obtain ⟨met'', h⟩ := ih (hclosed.inside_onward hts hrest) (by rw [size_meet, hsize]) (by rw [size_meet, hsize'])
      (hsame.meet hsize hsize' ht)
    refine ⟨met'', .goes (mt (hsame _ ht).mp hmet) ?_ h⟩
    rw [Program.onward?, Program.at_anchored ht, ← Program.onward?, hts]

/-! ## 4. The same match

Nothing is claimed of texts in which only the other program matches: it may go on and match somewhere behind the start,
where the anchored one has no thread left. -/

/-- The threads of both programs at a position behind the start of the text. -/
structure Alongside (p : Program) (position : Nat) (met met' : Array Nat) (threads more : List Thread)
    (best best' : Option Slots) : Prop where
  closed : Closed p.states
  size : met.size = p.states.size
  size' : met'.size = p.states.size + 1
  early : Early met position
  early' : Early met' position
  inside : p.Inside threads
  /-- The one has not matched, or both have and neither has more threads. -/
  together : best' = none ∨ best' = best ∧ more = []

theorem Alongside.sameMet {position : Nat} {best best' : Option Slots}
    (h : Alongside p position met met' threads more best best') : p.SameMet position met met' := fun s _ =>
  iff_of_false (h.early'.not_met s) (h.early.not_met s)

/-- What both come to at a position. -/
inductive Together (best best' : Option Slots) (out out' : Settled) : Prop
  | matched (h : out'.matched.isSome) (hsame : out.matched = out'.matched) (hwaiting : out.waiting = out'.waiting)
  | waiting (later : List Thread) (hnone : out'.matched = none) (hwaiting : out.waiting = out'.waiting ++ later)
      (hbest : best' = none ∨ best' = best ∧ later = [] ∧ out.matched = none)

theorem Program.threadsAt_append (p : Program) (best : Option Slots) (threads more : List Thread) :
    p.threadsAt best (threads ++ more) = threads ++ p.threadsAt best more := by
  cases best with
  | none => exact List.append_assoc _ _ _
  | some => rfl

/-- Behind the start of the text no thread of the anchored program begins. -/
theorem settles_anchored_start (p : Program) (c : Char) (text : List Char) (position : Nat) (met : Array Nat)
    (best : Option Slots) : ∃ met', Settles p.anchored (Place.here ⟨some c, text⟩ position) met
      (p.anchored.threadsAt best []) ⟨[], none, met'⟩ := by
  cases best with
  | some => exact ⟨met, .done⟩
  | none =>
    by_cases hmet : Met met position p.anchored.start
    · exact ⟨met, .met hmet .done⟩
    · have honward : p.anchored.onward? (Place.here ⟨some c, text⟩ position) ⟨p.anchored.start, []⟩ = some [] := by
        rw [Program.onward?, Program.at_start_anchored]
        rfl
      exact ⟨_, .goes hmet honward .done⟩

/-- What holds before a position decides what both come to there. -/
theorem Alongside.settles {position : Nat} {best best' : Option Slots}
    (h : Alongside p position met met' threads more best best') (c : Char) (text : List Char) :
    ∃ out out' : Settled,
      Settles p (Place.here ⟨some c, text⟩ position) met (p.threadsAt best (threads ++ more)) out ∧
      Settles p.anchored (Place.here ⟨some c, text⟩ position) met' (p.anchored.threadsAt best' threads) out' ∧
      p.Inside out'.waiting ∧ Together best best' out out' := by
  rw [← List.append_nil threads, List.append_assoc, List.nil_append, p.threadsAt_append, p.anchored.threadsAt_append]
  obtain ⟨first, hfirst⟩ := exists_settles p (Place.here ⟨some c, text⟩ position) h.size threads
  obtain ⟨met'', hfirst'⟩ := hfirst.anchored h.closed h.inside h.size h.size' h.sameMet
  cases hmatched : first.matched with
  | some slots =>
    have hsome : first.matched.isSome := by rw [hmatched]; rfl
    exact ⟨_, _, hfirst.append_of_matched hsome _, hfirst'.append_of_matched hsome _, hfirst.inside h.closed h.inside,
      .matched hsome rfl rfl⟩
  | none =>
    obtain ⟨again, hstart⟩ := settles_anchored_start p c text position met'' best'
    obtain ⟨later, hlater⟩ := exists_settles p (Place.here ⟨some c, text⟩ position) (hfirst.size_eq.trans h.size)
      (p.threadsAt best more)
    have hinside : p.Inside (first.waiting ++ []) := by
      rw [List.append_nil]
      exact hfirst.inside h.closed h.inside
    refine ⟨_, _, hfirst.append hmatched hlater, hfirst'.append hmatched hstart, hinside,
      .waiting later.waiting rfl ?_ ?_⟩
    · show first.waiting ++ later.waiting = first.waiting ++ [] ++ later.waiting
      rw [List.append_nil]
    · rcases h.together with hnone | ⟨rfl, rfl⟩
      · exact .inl hnone
      · cases best' with
        | none => exact .inl rfl
        | some slots =>
          cases hlater
          exact .inr ⟨rfl, rfl, rfl⟩

theorem Program.advance_anchored {threads : List Thread} (hinside : p.Inside threads) (c : Char) :
    threads.filterMap (p.anchored.advance? c) = threads.filterMap (p.advance? c) :=
  List.filterMap_congr fun t ht => by
    have hlt := hinside t ht
    rw [advance?, advance?, anchored, Array.getElem?_push_lt hlt, Array.getElem?_eq_getElem hlt]

/-- The match of the anchored program is that of the program. -/
theorem Alongside.follow_eq {c : Char} {position : Nat} {best best' : Option Slots} {text : List Char} {slots : Slots}
    (h : Alongside p position met met' threads more best best')
    (hfollow : p.anchored.follow (some c) position met' threads best' text = some slots) :
    p.follow (some c) position met (threads ++ more) best text = some slots := by
  induction text generalizing c position met met' threads more best best' with
  | nil =>
    obtain ⟨out, out', hout, hout', -, htogether⟩ := h.settles c []
    rw [Program.follow_nil hout' (h.size'.trans p.size_anchored.symm)] at hfollow
    rw [Program.follow_nil hout h.size]
    cases htogether with
    | matched hsome hsame =>
      rw [Option.or_of_isSome hsome] at hfollow
      rw [hsame, Option.or_of_isSome hsome, hfollow]
    | waiting later hnone hwaiting hbest =>
      rw [hnone, Option.none_or] at hfollow
      -- The text ends without a match here, so the one that is reported was there before, in both.
      obtain ⟨rfl, -, hnone⟩ := hbest.resolve_left (by rw [hfollow]; nofun)
      rw [hnone, Option.none_or, hfollow]
  | cons d rest ih =>
    obtain ⟨out, out', hout, hout', hinside, htogether⟩ := h.settles c (d :: rest)
    rw [Program.follow_cons hout' (h.size'.trans p.size_anchored.symm), Program.advance_anchored hinside] at hfollow
    rw [Program.follow_cons hout h.size]
    -- Over the next character both programs advance alike, and what held here holds there.
    have hnext {later : List Thread} {best best' : Option Slots}
        (htogether : best' = none ∨ best' = best ∧ later = []) :
        Alongside p (position + 1) out.met out'.met (out'.waiting.filterMap (p.advance? d)) later best best' :=
      ⟨h.closed, hout.size_eq.trans h.size, hout'.size_eq.trans h.size', hout.early h.early.succ,
        hout'.early h.early'.succ, h.closed.inside_advanced d _, htogether⟩
    cases htogether with
    | matched hsome hsame hwaiting =>
      rw [hwaiting, ← List.append_nil (out'.waiting.filterMap _)]
      refine ih (hnext (.inr ⟨?_, rfl⟩)) hfollow
      rw [hsame, Option.or_of_isSome hsome, Option.or_of_isSome hsome]
    | waiting later hnone hwaiting hbest =>
      rw [hwaiting, List.filterMap_append]
      refine ih (hnext ?_) hfollow
      rw [hnone, Option.none_or]
      refine hbest.imp_right ?_
      rintro ⟨rfl, rfl, hnone⟩
      rw [hnone, Option.none_or]
      exact ⟨rfl, rfl⟩

/-- At the start of the text both come to the same. -/
theorem settles_at_start (hclosed : Closed p.states) (hstart : p.start < p.states.size) (text : List Char)
    (hsize : met.size = p.states.size) (hsize' : met'.size = p.states.size + 1) (hearly : Early met 0)
    (hearly' : Early met' 0) : ∃ out met'', Settles p (Place.here ⟨none, text⟩ 0) met (p.threadsAt none []) out ∧
      Settles p.anchored (Place.here ⟨none, text⟩ 0) met' (p.anchored.threadsAt none []) { out with met := met'' } ∧
      p.Inside out.waiting := by
  have hinside : p.Inside (p.threadsAt none []) := List.forall_mem_singleton.mpr hstart
  obtain ⟨out, hout⟩ := exists_settles p (Place.here ⟨none, text⟩ 0) hsize (p.threadsAt none [])
  have hsame : p.SameMet 0 met (Pattern.meet met' 0 p.anchored.start) := fun s hs => by
    have hne : s ≠ p.states.size := Nat.ne_of_lt hs
    rw [met_meet_iff (by rw [hsize']; exact Nat.lt_succ_self _)]
    exact iff_of_false (not_or_intro hne (hearly'.not_met s)) (hearly.not_met s)
  obtain ⟨met'', hout'⟩ := hout.anchored hclosed hinside hsize (by rw [size_meet, hsize']) hsame
  have honward : p.anchored.onward? (Place.here ⟨none, text⟩ 0) ⟨p.anchored.start, []⟩ =
      some (p.threadsAt none []) := by
    rw [Program.onward?, Program.at_start_anchored]
    rfl
  exact ⟨out, met'', hout, .goes (hearly'.not_met _) honward hout', hout.inside hclosed hinside⟩

/-- A match at the start of the text is the match that is found in the text. -/
theorem Program.run_of_anchored (hclosed : Closed p.states) (hstart : p.start < p.states.size) {text : List Char}
    {slots : Slots} (h : p.anchored.run text = some slots) : p.run text = some slots := by
  rw [run, size_anchored] at h
  rw [run]
  have hsize : (Array.replicate p.states.size 0).size = p.states.size := Array.size_replicate
  have hsize' : (Array.replicate (p.states.size + 1) 0).size = p.states.size + 1 := Array.size_replicate
  obtain ⟨out, met'', hout, hout', hinside⟩ :=
    settles_at_start hclosed hstart text hsize hsize' (early_replicate _ 0) (early_replicate _ 0)
  cases text with
  | nil =>
    rw [follow_nil hout' (hsize'.trans p.size_anchored.symm)] at h
    rw [follow_nil hout hsize, h]
  | cons c rest =>
    rw [follow_cons hout' (hsize'.trans p.size_anchored.symm), advance_anchored hinside] at h
    rw [follow_cons hout hsize, ← List.append_nil (out.waiting.filterMap _)]
    exact Alongside.follow_eq ⟨hclosed, hout.size_eq.trans hsize, hout'.size_eq.trans hsize',
      hout.early (early_replicate _ 0).succ, hout'.early (early_replicate _ 0).succ, hclosed.inside_advanced c _,
      .inr ⟨rfl, rfl⟩⟩ h

end Regraft.Pattern
