import Mathlib.Data.List.Basic
import Regraft.Pattern.Matcher
/-!
# Threads and the ways through a program

A program accepts at a place in a text if its states lead from the one to begin in to one that accepts, one step after
the other.  Threads follow all such ways at once.  What several threads come to at a position is a relation first, one
case for each thing that can happen to the first of them (`Settles`); the function that is run computes it, because it
is given enough fuel (`settled_eq`).  Of the relation it is proved that no way is lost although a state that was met is
left aside: what was met is closed under steps, so that an accepting way from any of the threads goes through one that
waits (`Settles.accepts_iff`).  From that a text has a match if and only if its program accepts at some place of it
(`run_isSome_iff`).
-/

namespace Regraft.Pattern

/-! ## 1. Ways through a program

A way through a program is a sequence of steps, some of which take a character.  Its length is kept (`AcceptsIn`), since
ways are followed by induction on it. -/

/-- A place in a text: the character before it, and what is left. -/
structure Place where
  before : Option Char
  rest : List Char

/-- A place as threads see it. -/
def Place.here (a : Place) (position : Nat) : Here := ⟨a.before, a.rest.head?, position⟩

/-- The state of a number.  A number without a state accepts. -/
def Program.at (p : Program) (s : Nat) : State := p.states.getD s .accept

/-- What a state asks for at a place leads to a place and the number of a state. -/
def State.Leads (a : Place) (s : Nat) (b : Place) : State → Prop
  | accept => False
  | char set next => (∃ c, set.contains c = true ∧ a.rest = c :: b.rest ∧ b.before = some c) ∧ s = next
  | look l next => l.holds a.before a.rest.head? = true ∧ b = a ∧ s = next
  | mark _ next => b = a ∧ s = next
  | choice first second => b = a ∧ (s = first ∨ s = second)

/-- From a state at a place to another state at a place. -/
def Program.Step (p : Program) (s : Nat) (a : Place) (s' : Nat) (b : Place) : Prop := (p.at s).Leads a s' b

/-- So many steps lead to a state that accepts. -/
inductive Program.AcceptsIn (p : Program) : Nat → Nat → Place → Prop
  | here {s a} : p.at s = .accept → AcceptsIn p 0 s a
  | step {n s a s' b} : p.Step s a s' b → AcceptsIn p n s' b → AcceptsIn p (n + 1) s a

/-- Steps lead from a state at a place to a state that accepts. -/
def Program.Accepts (p : Program) (s : Nat) (a : Place) : Prop := ∃ n, p.AcceptsIn n s a

variable {p : Program} {s : Nat} {a : Place}

/-- A step towards acceptance accepts. -/
theorem Program.Step.accepts {s' : Nat} {b : Place} (h : p.Step s a s' b) (hb : p.Accepts s' b) : p.Accepts s a :=
  hb.imp' (· + 1) fun _ => .step h

theorem Program.accepts_of_accept (h : p.at s = .accept) : p.Accepts s a :=
  ⟨0, .here h⟩

/-- A way to acceptance has come to its end or takes a step. -/
theorem Program.accepts_iff :
    p.Accepts s a ↔ p.at s = .accept ∨ ∃ s' b, p.Step s a s' b ∧ p.Accepts s' b := by
  constructor
  · rintro ⟨n, h | ⟨hstep, h⟩⟩
    · exact .inl h
    · exact .inr ⟨_, _, hstep, _, h⟩
  · rintro (h | ⟨s', b, hstep, h⟩)
    · exact accepts_of_accept h
    · exact hstep.accepts h

/-! ## 2. What a thread comes to

Without a character a thread goes on to at most two others.  What it waits for, or that it has matched, is decided by
its state. -/

/-- The threads that come of a thread without a character, unless it has matched or waits for a character. -/
def Program.onward? (p : Program) (h : Here) (t : Thread) : Option (List Thread) :=
  match p.at t.state with
  | .accept | .char _ _ => none
  | .look l next => some (if l.holds h.before h.after then [⟨next, t.slots⟩] else [])
  | .mark slot next => some [⟨next, (slot, h.position) :: t.slots⟩]
  | .choice first second => some [⟨first, t.slots⟩, ⟨second, t.slots⟩]

variable {h : Here} {t : Thread} {ts : List Thread}

/-- The steps without a character are those to the threads that come of a thread. -/
theorem Program.step_iff_of_onward {position s' : Nat} {b : Place} (h : p.onward? (a.here position) t = some ts) :
    p.Step t.state a s' b ↔ b = a ∧ ∃ t' ∈ ts, t'.state = s' := by
  rw [onward?] at h
  rw [Step]
  cases hs : p.at t.state <;> rw [hs] at h <;> cases h
  case look l next =>
    rw [Place.here]
    constructor
    · rintro ⟨hl, rfl, rfl⟩
      rw [if_pos hl]
      exact ⟨rfl, _, List.mem_singleton_self _, rfl⟩
    · rintro ⟨rfl, t', ht', rfl⟩
      split at ht'
      · obtain rfl := List.mem_singleton.mp ht'
        exact ⟨‹_›, rfl, rfl⟩
      · cases ht'
  case mark slot next =>
    exact and_congr_right fun _ => by simp [eq_comm]
  case choice first second =>
    exact and_congr_right fun _ => by simp [eq_comm]

theorem Program.at_ne_accept_of_onward (h' : p.onward? h t = some ts) : p.at t.state ≠ .accept := fun hs => by
  rw [onward?, hs] at h'
  cases h'

/-- A thread from which none come has matched or waits for a character. -/
theorem Program.char_of_onward_none (hs : p.at t.state ≠ .accept) (h' : p.onward? h t = none) :
    ∃ set next, p.at t.state = .char set next := by
  rw [onward?] at h'
  split at h'
  · rename_i hs'
    exact absurd hs' hs
  · rename_i hs'
    exact ⟨_, _, hs'⟩
  all_goals cases h'

theorem Program.accepts_iff_of_onward {position : Nat} (h : p.onward? (a.here position) t = some ts) :
    p.Accepts t.state a ↔ ∃ t' ∈ ts, p.Accepts t'.state a := by
  rw [accepts_iff, or_iff_right (at_ne_accept_of_onward h)]
  constructor
  · rintro ⟨s', b, hstep, haccepts⟩
    obtain ⟨rfl, t', ht', rfl⟩ := (step_iff_of_onward h).mp hstep
    exact ⟨t', ht', haccepts⟩
  · rintro ⟨t', ht', haccepts⟩
    exact ⟨t'.state, a, (step_iff_of_onward h).mpr ⟨rfl, t', ht', rfl⟩, haccepts⟩

/-- At most two threads come of one. -/
theorem Program.length_le_of_onward (h' : p.onward? h t = some ts) : ts.length ≤ 2 := by
  rw [onward?] at h'
  split at h'
  · cases h'
  · cases h'
  · injection h' with h'
    subst h'
    split <;> simp
  · injection h' with h'
    subst h'
    simp
  · injection h' with h'
    subst h'
    simp

/-! ## 3. What several threads come to

The relation has one case for each thing that can become of the first thread, and no fuel.  The function has fuel, and
enough of it: a thread that goes on meets a state, and each state is met once.  So twice the number of states that were
not met, with the threads that are there, bounds the steps (`settle_eq`). -/

/-- A state was met at a position. -/
def Met (met : Array Nat) (position s : Nat) : Prop := met.getD s 0 = position + 1

/-- The states met, with one more. -/
def meet (met : Array Nat) (position s : Nat) : Array Nat := met.setIfInBounds s (position + 1)

/-- What threads come to at a position, by what becomes of the first of them: its state was met already, it has
matched, it waits for a character, or others come of it. -/
inductive Settles (p : Program) (h : Here) : Array Nat → List Thread → Settled → Prop
  | done {met} : Settles p h met [] ⟨[], none, met⟩
  | met {met t rest out} : Met met h.position t.state → Settles p h met rest out → Settles p h met (t :: rest) out
  | matched {met t rest} : ¬ Met met h.position t.state → p.at t.state = .accept →
      Settles p h met (t :: rest) ⟨[], some t.slots, meet met h.position t.state⟩
  | waits {met t rest out set next} : ¬ Met met h.position t.state → p.at t.state = .char set next →
      Settles p h (meet met h.position t.state) rest out →
      Settles p h met (t :: rest) { out with waiting := t :: out.waiting }
  | goes {met t rest out ts} : ¬ Met met h.position t.state → p.onward? h t = some ts →
      Settles p h (meet met h.position t.state) (ts ++ rest) out → Settles p h met (t :: rest) out

variable {met : Array Nat} {threads : List Thread} {out : Settled}

/-- The states that were not met yet. -/
def unmet (position : Nat) (met : Array Nat) : Nat := met.countP (· ≠ position + 1)

/-- Meeting a state makes the record no longer. -/
theorem size_meet (met : Array Nat) (position s : Nat) : (meet met position s).size = met.size :=
  Array.size_setIfInBounds

/-- One more state is met. -/
theorem met_meet_iff {position s s' : Nat} (hs : s < met.size) :
    Met (meet met position s) position s' ↔ s' = s ∨ Met met position s' := by
  rw [Met, Met, meet, Array.getD_eq_getD_getElem?, Array.getD_eq_getD_getElem?, Array.getElem?_setIfInBounds]
  split
  · rename_i hss
    exact iff_of_true rfl (.inl hss.symm)
  · rename_i hss
    rw [or_iff_right (Ne.symm hss)]

/-- And one less is left. -/
theorem unmet_meet {position s : Nat} (hs : s < met.size) (h : ¬ Met met position s) :
    unmet position (meet met position s) + 1 = unmet position met := by
  rw [Met, Array.getD_eq_getD_getElem?, Array.getElem?_eq_getElem hs, Option.getD_some] at h
  have hpos : 0 < unmet position met := Array.countP_pos_iff.mpr ⟨met[s], Array.getElem_mem hs, by simpa using h⟩
  rw [unmet, meet, Array.setIfInBounds_def, dif_pos hs, Array.countP_set, if_pos (by simpa using h), if_neg (by simp)]
  rw [unmet] at hpos ⊢
  omega

/-- A state that does not accept is one of the program. -/
theorem Program.lt_of_at_ne (h : p.at s ≠ .accept) : s < p.states.size := by
  by_contra hs
  rw [Program.at, Array.getD_eq_getD_getElem?, Array.getElem?_eq_none (Nat.le_of_not_lt hs)] at h
  exact h rfl

theorem settle_goes (hmet : ¬ Met met h.position t.state) (hts : p.onward? h t = some ts) (fuel : Nat)
    (reversed rest : List Thread) :
    settle p h (fuel + 1) met reversed (t :: rest) =
      settle p h fuel (meet met h.position t.state) reversed (ts ++ rest) := by
  rw [Met] at hmet
  rw [Program.onward?, Program.at] at hts
  rw [settle, if_neg hmet]
  generalize p.states.getD t.state .accept = state at hts ⊢
  cases state with
  | accept => cases hts
  | char => cases hts
  | look l next =>
    cases hts
    show settle p h fuel _ reversed (if _ then _ else _) = _
    split <;> rfl
  | mark slot next =>
    cases hts
    rfl
  | choice first second =>
    cases hts
    rfl

/-- With enough fuel the function computes what the relation says. -/
theorem settle_eq (hsettles : Settles p h met threads out) (hsize : met.size = p.states.size) {fuel : Nat}
    (hfuel : threads.length + 2 * unmet h.position met < fuel) (reversed : List Thread) :
    settle p h fuel met reversed threads = { out with waiting := reversed.reverse ++ out.waiting } := by
  induction hsettles generalizing fuel reversed with
  | @done met =>
    obtain ⟨fuel, rfl⟩ : ∃ n, fuel = n + 1 := ⟨fuel - 1, by omega⟩
    rw [settle, List.append_nil]
    nofun
  | @met met t rest out hmet hsettles ih =>
    obtain ⟨fuel, rfl⟩ : ∃ n, fuel = n + 1 := ⟨fuel - 1, by omega⟩
    rw [List.length_cons] at hfuel
    rw [Met] at hmet
    rw [settle, if_pos hmet]
    exact ih hsize (by omega) reversed
  | @matched met t rest hmet hs =>
    obtain ⟨fuel, rfl⟩ : ∃ n, fuel = n + 1 := ⟨fuel - 1, by omega⟩
    rw [Met] at hmet
    rw [Program.at] at hs
    rw [settle, if_neg hmet, hs, List.append_nil, meet]
  | @waits met t rest out set next hmet hs hsettles ih =>
    obtain ⟨fuel, rfl⟩ : ∃ n, fuel = n + 1 := ⟨fuel - 1, by omega⟩
    have hlt : t.state < p.states.size := Program.lt_of_at_ne (by rw [hs]; nofun)
    have hunmet := unmet_meet (hsize ▸ hlt) hmet
    rw [List.length_cons] at hfuel
    rw [Met] at hmet
    rw [Program.at] at hs
    have hrest := @ih (by rw [size_meet, hsize]) fuel (by omega) (t :: reversed)
    rw [List.reverse_cons, List.append_assoc] at hrest
    rw [settle, if_neg hmet, hs]
    exact hrest
  | @goes met t rest out ts hmet hts hsettles ih =>
    obtain ⟨fuel, rfl⟩ : ∃ n, fuel = n + 1 := ⟨fuel - 1, by omega⟩
    have hlt := Program.lt_of_at_ne (Program.at_ne_accept_of_onward hts)
    have hunmet := unmet_meet (hsize ▸ hlt) hmet
    -- One state less is unmet, which pays for the two threads that come of this one.
    have hlength := Program.length_le_of_onward hts
    rw [List.length_cons] at hfuel
    rw [settle_goes hmet hts]
    exact ih (by rw [size_meet, hsize]) (by rw [List.length_append]; omega) reversed

/-- Threads always come to something. -/
theorem exists_settles (p : Program) (h : Here) {met : Array Nat} (hsize : met.size = p.states.size)
    (threads : List Thread) : ∃ out, Settles p h met threads out := by
  obtain ⟨n, hn⟩ : ∃ n, threads.length + 2 * unmet h.position met ≤ n := ⟨_, Nat.le_refl _⟩
  induction n generalizing met threads with
  | zero =>
    obtain rfl : threads = [] := List.length_eq_zero_iff.mp (by omega)
    exact ⟨_, .done⟩
  | succ n ih =>
    cases threads with
    | nil => exact ⟨_, .done⟩
    | cons t rest =>
      rw [List.length_cons] at hn
      by_cases hmet : Met met h.position t.state
      · obtain ⟨out, hout⟩ := ih hsize rest (by omega)
        exact ⟨out, .met hmet hout⟩
      by_cases hs : p.at t.state = .accept
      · exact ⟨_, .matched hmet hs⟩
      have hunmet := unmet_meet (hsize ▸ Program.lt_of_at_ne hs) hmet
      have hsize' : (meet met h.position t.state).size = p.states.size := by rw [size_meet, hsize]
      cases hts : p.onward? h t with
      | none =>
        obtain ⟨set, next, hchar⟩ := Program.char_of_onward_none hs hts
        obtain ⟨out, hout⟩ := ih hsize' rest (by omega)
        exact ⟨_, .waits hmet hchar hout⟩
      | some ts =>
        have hlength := Program.length_le_of_onward hts
        obtain ⟨out, hout⟩ := ih hsize' (ts ++ rest) (by rw [List.length_append]; omega)
        exact ⟨out, .goes hmet hts hout⟩

/-- What threads come to is what the function says. -/
theorem settled_eq (hsettles : Settles p h met threads out) (hsize : met.size = p.states.size) :
    p.settled h met threads = out := by
  have hunmet : unmet h.position met ≤ p.states.size := hsize ▸ Array.countP_le_size
  exact settle_eq hsettles hsize (by omega) []

/-! ## 4. No way is lost

A state that was met is not entered again, so a later thread may be dropped in it.  It is not lost: whatever it could
come to, the earlier thread comes to as well.  To say so the states that were met are followed as a whole (`Followed`);
the ways from each of them stay among them until they wait for a character. -/

theorem Settles.size_eq (hsettles : Settles p h met threads out) : out.met.size = met.size := by
  induction hsettles with
  | done => rfl
  | met _ _ ih => exact ih
  | matched => exact size_meet _ _ _
  | waits _ _ _ ih => exact ih.trans (size_meet _ _ _)
  | goes _ _ _ ih => exact ih.trans (size_meet _ _ _)

/-- Nothing was met at a later position. -/
def Early (met : Array Nat) (position : Nat) : Prop := ∀ s, met.getD s 0 ≤ position

theorem Early.not_met {position : Nat} (h : Early met position) (s : Nat) : ¬ Met met position s := fun hs =>
  absurd (h s) (by rw [hs]; omega)

theorem Early.succ {position : Nat} (h : Early met position) : Early met (position + 1) := fun s =>
  Nat.le_succ_of_le (h s)

theorem early_meet {position : Nat} (h : Early met (position + 1)) (s : Nat) :
    Early (meet met position s) (position + 1) := fun s' => by
  rw [meet, Array.getD_eq_getD_getElem?, Array.getElem?_setIfInBounds]
  have hs' := h s'
  rw [Array.getD_eq_getD_getElem?] at hs'
  split
  · split
    · exact Nat.le_refl _
    · exact Nat.zero_le _
  · exact hs'

theorem Settles.early (hsettles : Settles p h met threads out) (hearly : Early met (h.position + 1)) :
    Early out.met (h.position + 1) := by
  induction hsettles with
  | done => exact hearly
  | met _ _ ih => exact ih hearly
  | matched => exact early_meet hearly _
  | waits _ _ _ ih => exact ih (early_meet hearly _)
  | goes _ _ _ ih => exact ih (early_meet hearly _)

/-- The threads that wait, wait for a character. -/
theorem Settles.char_of_waiting (hsettles : Settles p h met threads out) :
    ∀ t ∈ out.waiting, ∃ set next, p.at t.state = .char set next := by
  induction hsettles with
  | done => nofun
  | met _ _ ih => exact ih
  | matched => nofun
  | waits _ hchar _ ih => exact List.forall_mem_cons.mpr ⟨⟨_, _, hchar⟩, ih⟩
  | goes _ _ _ ih => exact ih

/-- What threads come to comes of one of them. -/
theorem Settles.sound {position : Nat} (hsettles : Settles p (a.here position) met threads out)
    (haccepts : out.matched.isSome ∨ ∃ t ∈ out.waiting, p.Accepts t.state a) :
    ∃ t ∈ threads, p.Accepts t.state a := by
  induction hsettles with
  | done => rcases haccepts with h | ⟨t, ht, -⟩ <;> contradiction
  | met _ _ ih =>
    obtain ⟨t, ht, haccepts⟩ := ih haccepts
    exact ⟨t, List.mem_cons_of_mem _ ht, haccepts⟩
  | matched _ hs => exact ⟨_, List.mem_cons_self, Program.accepts_of_accept hs⟩
  | waits _ _ _ ih =>
    rcases haccepts with h | ⟨t, ht, haccepts⟩
    · obtain ⟨t, ht, haccepts⟩ := ih (.inl h)
      exact ⟨t, List.mem_cons_of_mem _ ht, haccepts⟩
    · rcases List.mem_cons.mp ht with rfl | ht
      · exact ⟨_, List.mem_cons_self, haccepts⟩
      · obtain ⟨t, ht, haccepts⟩ := ih (.inr ⟨t, ht, haccepts⟩)
        exact ⟨t, List.mem_cons_of_mem _ ht, haccepts⟩
  | goes _ hts _ ih =>
    obtain ⟨t, ht, haccepts⟩ := ih haccepts
    rcases List.mem_append.mp ht with ht | ht
    · exact ⟨_, List.mem_cons_self, (Program.accepts_iff_of_onward hts).mpr ⟨t, ht, haccepts⟩⟩
    · exact ⟨t, List.mem_cons_of_mem _ ht, haccepts⟩

/-- Nothing has matched and every way on from a state was taken: it waits, or all its next states were met. -/
structure Followed (p : Program) (a : Place) (position : Nat) (out : Settled) (s : Nat) : Prop where
  not_accept : p.at s ≠ .accept
  onward : (∃ t ∈ out.waiting, t.state = s) ∨ ∀ s' b, p.Step s a s' b → b = a ∧ Met out.met position s'

theorem Followed.waits {position : Nat} (hs : Followed p a position out s) (t : Thread) :
    Followed p a position { out with waiting := t :: out.waiting } s :=
  ⟨hs.not_accept, hs.onward.imp_left fun ⟨t, ht, hs⟩ => ⟨t, List.mem_cons_of_mem _ ht, hs⟩⟩

/-- As long as nothing has matched, what was met stays met, every thread is met, and what is met first is followed. -/
theorem Settles.closed {position : Nat} (hsettles : Settles p (a.here position) met threads out)
    (hsize : met.size = p.states.size) (hnone : out.matched = none) :
    (∀ s, Met met position s → Met out.met position s) ∧ (∀ t ∈ threads, Met out.met position t.state) ∧
      ∀ s, Met out.met position s → Met met position s ∨ Followed p a position out s := by
  induction hsettles with
  | done => exact ⟨fun _ h => h, nofun, fun _ h => .inl h⟩
  | met hmet _ ih =>
    obtain ⟨hstays, hthreads, hfollowed⟩ := ih hsize hnone
    exact ⟨hstays, List.forall_mem_cons.mpr ⟨hstays _ hmet, hthreads⟩, hfollowed⟩
  | matched => cases hnone
  | @waits met t rest out set next _ hchar _ ih =>
    have hne : p.at t.state ≠ .accept := by rw [hchar]; nofun
    have hlt : t.state < met.size := hsize ▸ Program.lt_of_at_ne hne
    obtain ⟨hstays, hthreads, hfollowed⟩ := ih (by rw [size_meet, hsize]) hnone
    refine ⟨fun s hs => hstays s ((met_meet_iff hlt).mpr (.inr hs)),
      List.forall_mem_cons.mpr ⟨hstays _ ((met_meet_iff hlt).mpr (.inl rfl)), hthreads⟩, fun s hs => ?_⟩
    rcases hfollowed s hs with hmet | hs
    · refine ((met_meet_iff hlt).mp hmet).symm.imp_right ?_
      rintro rfl
      exact ⟨hne, .inl ⟨t, List.mem_cons_self, rfl⟩⟩
    · exact .inr (hs.waits t)
  | @goes met t rest out ts _ hts _ ih =>
    have hne := Program.at_ne_accept_of_onward hts
    have hlt : t.state < met.size := hsize ▸ Program.lt_of_at_ne hne
    obtain ⟨hstays, hthreads, hfollowed⟩ := ih (by rw [size_meet, hsize]) hnone
    refine ⟨fun s hs => hstays s ((met_meet_iff hlt).mpr (.inr hs)),
      List.forall_mem_cons.mpr ⟨hstays _ ((met_meet_iff hlt).mpr (.inl rfl)),
        fun t ht => hthreads t (List.mem_append_right _ ht)⟩, fun s hs => ?_⟩
    rcases hfollowed s hs with hmet | hs
    · refine ((met_meet_iff hlt).mp hmet).symm.imp_right ?_
      rintro rfl
      -- The state is followed now: all that it leads to is among the threads that come of it.
      refine ⟨hne, .inr fun s' b hstep => ?_⟩
      obtain ⟨rfl, t', ht', rfl⟩ := (Program.step_iff_of_onward hts).mp hstep
      exact ⟨rfl, hthreads t' (List.mem_append_left _ ht')⟩
    · exact .inr hs

theorem waiting_of_followed {position n : Nat} (hfollowed : ∀ s, Met out.met position s → Followed p a position out s)
    (haccepts : p.AcceptsIn n s a) (hmet : Met out.met position s) : ∃ t ∈ out.waiting, p.Accepts t.state a := by
  induction n generalizing s with
  | zero =>
    obtain ⟨hs⟩ := haccepts
    exact absurd hs (hfollowed s hmet).not_accept
  | succ n ih =>
    obtain _ | ⟨hstep, haccepts⟩ := haccepts
    rcases (hfollowed s hmet).onward with ⟨t, ht, rfl⟩ | honward
    · exact ⟨t, ht, hstep.accepts ⟨n, haccepts⟩⟩
    · obtain ⟨rfl, hmet'⟩ := honward _ _ hstep
      exact ih haccepts hmet'

/-- Threads accept if and only if one has matched or one that waits accepts. -/
theorem Settles.accepts_iff {position : Nat} (hsettles : Settles p (a.here position) met threads out)
    (hsize : met.size = p.states.size) (hearly : Early met position) :
    (∃ t ∈ threads, p.Accepts t.state a) ↔ out.matched.isSome ∨ ∃ t ∈ out.waiting, p.Accepts t.state a := by
  refine ⟨?_, hsettles.sound⟩
  rintro ⟨t, ht, n, haccepts⟩
  cases hmatched : out.matched with
  | some slots => exact .inl rfl
  | none =>
    obtain ⟨-, hthreads, hfollowed⟩ := hsettles.closed hsize hmatched
    have hfollowed' (s : Nat) (hs : Met out.met position s) : Followed p a position out s :=
      (hfollowed s hs).resolve_left (hearly.not_met s)
    exact .inr (waiting_of_followed hfollowed' haccepts (hthreads t ht))

/-! ## 5. Following a text

At each position a new thread begins as long as nothing has matched.  So a text has a match exactly if some way leads
from the start of the program, at some place, to acceptance.  Which match is found first is not said here; see
`AnchoredPrograms` for what is needed of that. -/

/-- A thread that waits accepts if and only if it does so after the next character. -/
theorem Program.advance_iff {set : Unicode.CharSet} {next : Nat} (hchar : p.at t.state = .char set next)
    (before : Option Char) (c : Char) (rest : List Char) :
    p.Accepts t.state ⟨before, c :: rest⟩ ↔ ∃ t' ∈ p.advance? c t, p.Accepts t'.state ⟨some c, rest⟩ := by
  have hlt : t.state < p.states.size := lt_of_at_ne (by rw [hchar]; nofun)
  have hget : p.states[t.state]? = some (.char set next) := by
    rw [Array.getElem?_eq_getElem hlt, ← hchar, Program.at, Array.getD_eq_getD_getElem?, Array.getElem?_eq_getElem hlt]
    rfl
  rw [accepts_iff, advance?, hget, or_iff_right (by rw [hchar]; nofun)]
  constructor
  · rintro ⟨s', b, hstep, haccepts⟩
    rw [Step, hchar] at hstep
    obtain ⟨⟨d, hd, heq, hb⟩, rfl⟩ := hstep
    cases heq
    exact ⟨_, if_pos hd, hb ▸ haccepts⟩
  · rintro ⟨t', ht', haccepts⟩
    obtain ⟨hc, ht'⟩ := Option.ite_none_right_eq_some.mp ht'
    cases ht'
    exact ⟨next, ⟨some c, rest⟩, by rw [Step, hchar]; exact ⟨⟨c, hc, rfl, rfl⟩, rfl⟩, haccepts⟩

theorem Program.not_accepts_nil {set : Unicode.CharSet} {next : Nat} (hchar : p.at s = .char set next)
    (before : Option Char) : ¬ p.Accepts s ⟨before, []⟩ := fun h => by
  rw [accepts_iff, hchar, or_iff_right (by nofun)] at h
  obtain ⟨s', b, hstep, -⟩ := h
  rw [Step, hchar] at hstep
  obtain ⟨⟨c, -, heq, -⟩, -⟩ := hstep
  cases heq

theorem Settles.waiting_accepts_iff (hsettles : Settles p h met threads out) (before : Option Char) (c : Char)
    (rest : List Char) : (∃ t ∈ out.waiting, p.Accepts t.state ⟨before, c :: rest⟩) ↔
      ∃ t ∈ out.waiting.filterMap (p.advance? c), p.Accepts t.state ⟨some c, rest⟩ := by
  constructor
  · rintro ⟨t, ht, haccepts⟩
    obtain ⟨set, next, hchar⟩ := hsettles.char_of_waiting t ht
    obtain ⟨t', ht', haccepts⟩ := (Program.advance_iff hchar before c rest).mp haccepts
    exact ⟨t', List.mem_filterMap.mpr ⟨t, ht, ht'⟩, haccepts⟩
  · rintro ⟨t', ht', haccepts⟩
    obtain ⟨t, ht, ht'⟩ := List.mem_filterMap.mp ht'
    obtain ⟨set, next, hchar⟩ := hsettles.char_of_waiting t ht
    exact ⟨t, ht, (Program.advance_iff hchar before c rest).mpr ⟨t', ht', haccepts⟩⟩

/-- The program accepts from its start at a place or at a later one. -/
inductive Program.Meets (p : Program) : Option Char → List Char → Prop
  | here {before text} : p.Accepts p.start ⟨before, text⟩ → Meets p before text
  | later {before c rest} : Meets p (some c) rest → Meets p before (c :: rest)

theorem Program.meets_nil {before : Option Char} : p.Meets before [] ↔ p.Accepts p.start ⟨before, []⟩ :=
  ⟨fun h => by cases h; assumption, .here⟩

theorem Program.meets_cons {before : Option Char} {c : Char} {rest : List Char} :
    p.Meets before (c :: rest) ↔ p.Accepts p.start ⟨before, c :: rest⟩ ∨ p.Meets (some c) rest := by
  constructor
  · rintro (h | h)
    · exact .inl h
    · exact .inr h
  · rintro (h | h)
    · exact .here h
    · exact .later h

theorem Program.withStart_accepts :
    (∃ t ∈ p.withStart threads, p.Accepts t.state a) ↔ (∃ t ∈ threads, p.Accepts t.state a) ∨ p.Accepts p.start a := by
  rw [withStart]
  constructor
  · rintro ⟨t, ht, haccepts⟩
    rcases List.mem_append.mp ht with ht | ht
    · exact .inl ⟨t, ht, haccepts⟩
    · obtain rfl := List.mem_singleton.mp ht
      exact .inr haccepts
  · rintro (⟨t, ht, haccepts⟩ | haccepts)
    · exact ⟨t, List.mem_append_left _ ht, haccepts⟩
    · exact ⟨_, List.mem_append_right _ (List.mem_singleton_self _), haccepts⟩

/-- The threads at a position, with another that begins there as long as nothing has matched. -/
def Program.threadsAt (p : Program) (best : Option Slots) (threads : List Thread) : List Thread :=
  if best.isNone then p.withStart threads else threads

theorem Program.follow_nil {before : Option Char} {position : Nat} {best : Option Slots}
    (hsettles : Settles p (Place.here ⟨before, []⟩ position) met (p.threadsAt best threads) out)
    (hsize : met.size = p.states.size) : p.follow before position met threads best [] = out.matched.or best := by
  rw [← settled_eq hsettles hsize]
  rfl

theorem Program.follow_cons {before : Option Char} {position : Nat} {best : Option Slots} {c : Char} {rest : List Char}
    (hsettles : Settles p (Place.here ⟨before, c :: rest⟩ position) met (p.threadsAt best threads) out)
    (hsize : met.size = p.states.size) : p.follow before position met threads best (c :: rest) =
      p.follow (some c) (position + 1) out.met (out.waiting.filterMap (p.advance? c)) (out.matched.or best) rest := by
  rw [← settled_eq hsettles hsize]
  rfl

/-- What has matched stays matched. -/
theorem Program.follow_of_best {before : Option Char} {position : Nat} {best : Option Slots} (hbest : best.isSome)
    (text : List Char) : (p.follow before position met threads best text).isSome := by
  induction text generalizing before position met threads best with
  | nil =>
    rw [follow, Option.isSome_or, hbest, Bool.or_true]
  | cons c rest ih =>
    refine ih ?_
    rw [Option.isSome_or, hbest, Bool.or_true]

/-- A match is found if and only if a thread accepts, or the program does so here or later. -/
theorem Program.follow_isSome_iff {before : Option Char} {position : Nat} {text : List Char}
    (hsize : met.size = p.states.size) (hearly : Early met position) :
    (p.follow before position met threads none text).isSome ↔
      (∃ t ∈ threads, p.Accepts t.state ⟨before, text⟩) ∨ p.Meets before text := by
  induction text generalizing before position met threads with
  | nil =>
    obtain ⟨out, hout⟩ := exists_settles p (Place.here ⟨before, []⟩ position) hsize (p.withStart threads)
    have hwaiting : ¬ ∃ t ∈ out.waiting, p.Accepts t.state ⟨before, []⟩ := by
      rintro ⟨t, ht, h⟩
      obtain ⟨set, next, hchar⟩ := hout.char_of_waiting t ht
      exact not_accepts_nil hchar before h
    rw [follow_nil hout hsize, Option.or_none, meets_nil, ← withStart_accepts, hout.accepts_iff hsize hearly,
      or_iff_left hwaiting]
  | cons c rest ih =>
    obtain ⟨out, hout⟩ := exists_settles p (Place.here ⟨before, c :: rest⟩ position) hsize (p.withStart threads)
    rw [follow_cons hout hsize, Option.or_none, meets_cons, ← or_assoc, ← withStart_accepts,
      hout.accepts_iff hsize hearly, hout.waiting_accepts_iff before c rest]
    cases hmatched : out.matched with
    | some slots => exact iff_of_true (follow_of_best rfl rest) (.inl (.inl rfl))
    | none =>
      have hearly' : Early out.met (position + 1) := hout.early hearly.succ
      rw [ih (hout.size_eq.trans hsize) hearly', Option.isSome_none, or_iff_right Bool.false_ne_true]

theorem early_replicate (n position : Nat) : Early (Array.replicate n 0) position := fun s => by
  rw [Array.getD_eq_getD_getElem?, Array.getElem?_replicate]
  split <;> exact Nat.zero_le _

/-- A text has a match if and only if the program accepts at some place in it. -/
theorem Program.run_isSome_iff (p : Program) (text : List Char) : (p.run text).isSome ↔ p.Meets none text := by
  rw [run, follow_isSome_iff Array.size_replicate (early_replicate _ _), or_iff_right (by simp)]

end Regraft.Pattern
