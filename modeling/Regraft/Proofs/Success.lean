import Regraft.Edit
/-!
# What it takes for edits to succeed

An edit succeeds from `c` to `c'` when `f c = ⟨c', none⟩`.  This module says, for every way to combine
edits, what the success of the whole says about its parts.  Later proofs take a successful descent apart
with these lemmas and never unfold a combination.

The other half is about lists of results: `mapM` succeeds exactly if every member does, and edits that each
wait for a result succeed in sequence exactly if all results are there and the edits on them succeed.  That
is what lets the queries of a descent, which alternate with its edits, be asked beforehand.
-/

namespace Regraft

/-! ## 1. Results

Results are values of `Except`.  The lemmas say when a composed result is a value or an error, in the form in which
`obtain` takes it apart. -/

section Results

variable {ε α β γ : Type}

/-- A computation succeeds if its first part does, and then the rest. -/
theorem bind_ok {x : Except ε α} {f : α → Except ε β} {b : β} :
    (x >>= f) = .ok b ↔ ∃ a, x = .ok a ∧ f a = .ok b := by
  cases x with
  | error e => simp [bind, Except.bind]
  | ok a => simp [bind, Except.bind]

theorem map_ok {x : Except ε α} {f : α → β} {b : β} :
    x.map f = .ok b ↔ ∃ a, x = .ok a ∧ f a = b := by
  cases x with
  | error e => simp [Except.map]
  | ok a => simp [Except.map]

theorem bind_error {x : Except ε α} {f : α → Except ε β} {e : ε} :
    (x >>= f) = .error e ↔ x = .error e ∨ ∃ a, x = .ok a ∧ f a = .error e := by
  cases x with
  | error e' => simp [bind, Except.bind]
  | ok a => simp [bind, Except.bind]

theorem map_error {x : Except ε α} {f : α → β} {e : ε} : x.map f = .error e ↔ x = .error e := by
  cases x with
  | error e' => simp [Except.map]
  | ok a => simp [Except.map]

theorem mapError_ok {ε' : Type} {x : Except ε α} {f : ε → ε'} {a : α} :
    x.mapError f = .ok a ↔ x = .ok a := by
  cases x with
  | error e => exact ⟨nofun, nofun⟩
  | ok a => exact ⟨fun h => by cases h; rfl, fun h => by cases h; rfl⟩

theorem mapM_nil_ok {f : α → Except ε β} {bs : List β} : [].mapM f = .ok bs ↔ bs = [] := by
  rw [List.mapM_nil]
  exact ⟨fun h => (Except.ok.inj h).symm, fun h => by rw [h]; rfl⟩

theorem mapM_cons_ok {f : α → Except ε β} {a : α} {as : List α} {bs : List β} :
    (a :: as).mapM f = .ok bs ↔ ∃ b bs', f a = .ok b ∧ as.mapM f = .ok bs' ∧ bs = b :: bs' := by
  rw [List.mapM_cons, bind_ok]
  constructor
  · rintro ⟨b, hb, h⟩
    obtain ⟨bs', hbs, h⟩ := bind_ok.mp h
    exact ⟨b, bs', hb, hbs, (Except.ok.inj h).symm⟩
  · rintro ⟨b, bs', hb, hbs, rfl⟩
    exact ⟨b, hb, bind_ok.mpr ⟨bs', hbs, rfl⟩⟩

/-- An error of several results is the error of one of them. -/
theorem mapM_error {f : α → Except ε β} {as : List α} {e : ε} (h : as.mapM f = .error e) :
    ∃ a ∈ as, f a = .error e := by
  induction as with
  | nil => cases h
  | cons a as ih =>
    rw [List.mapM_cons] at h
    rcases bind_error.mp h with ha | ⟨b, -, h⟩
    · exact ⟨a, List.mem_cons_self, ha⟩
    · rcases bind_error.mp h with has | ⟨bs, -, h⟩
      · obtain ⟨a', ha', hf⟩ := ih has
        exact ⟨a', List.mem_cons_of_mem _ ha', hf⟩
      · cases h

/-- Results for two lists one after the other are results for each of them. -/
theorem mapM_append_ok {f : α → Except ε β} {as as' : List α} {bs : List β} :
    (as ++ as').mapM f = .ok bs ↔
      ∃ cs cs', as.mapM f = .ok cs ∧ as'.mapM f = .ok cs' ∧ bs = cs ++ cs' := by
  induction as generalizing bs with
  | nil =>
    simp only [List.nil_append, mapM_nil_ok]
    exact ⟨fun h => ⟨[], bs, rfl, h, rfl⟩, fun ⟨_, _, hcs, h, hbs⟩ => by rw [hbs, hcs]; exact h⟩
  | cons a as ih =>
    rw [List.cons_append, mapM_cons_ok]
    constructor
    · rintro ⟨b, bs', hb, hbs, rfl⟩
      obtain ⟨cs, cs', hcs, hcs', rfl⟩ := ih.mp hbs
      exact ⟨b :: cs, cs', mapM_cons_ok.mpr ⟨b, cs, hb, hcs, rfl⟩, hcs', rfl⟩
    · rintro ⟨cs, cs', hcs, hcs', rfl⟩
      obtain ⟨b, cs₁, hb, hcs₁, rfl⟩ := mapM_cons_ok.mp hcs
      exact ⟨b, cs₁ ++ cs', hb, ih.mpr ⟨cs₁, cs', hcs₁, hcs', rfl⟩, rfl⟩

end Results

/-! ## 2. Edits one after the other

An edit leaves a content and perhaps a fault.  If it has a fault, what it has done until then stays, and nothing after
it is done; that is why success and failure have lemmas of their own, and why there is `content_andThen` for what holds
in both cases. -/

namespace Edit

open Xml (Node)

variable {f g h : Edit} {c c' : List Node}

theorem andThen_eq_done : f.andThen g c = ⟨c', none⟩ ↔ ∃ c₁, f c = ⟨c₁, none⟩ ∧ g c₁ = ⟨c', none⟩ := by
  unfold andThen
  split
  · rename_i c₁ hf
    exact ⟨fun hg => ⟨c₁, hf, hg⟩, fun ⟨c₂, hf₂, hg⟩ => by
      rw [hf] at hf₂
      cases hf₂
      exact hg⟩
  · rename_i hstopped
    exact ⟨fun hf => (hstopped c' hf).elim, fun ⟨c₁, hf, _⟩ => (hstopped c₁ hf).elim⟩

theorem andThen_of_done {c₁ : List Node} (hf : f c = ⟨c₁, none⟩) : f.andThen g c = g c₁ := by
  unfold andThen
  rw [hf]

/-- Nothing is done after a fault. -/
theorem andThen_of_fault {c₁ : List Node} {e : Error} (hf : f c = ⟨c₁, some e⟩) :
    f.andThen g c = ⟨c₁, some e⟩ := by
  unfold andThen
  rw [hf]

/-- One edit after another leaves what the first leaves, or what the second makes of that. -/
theorem content_andThen (f g : Edit) (c : List Node) :
    (f.andThen g c).content = (f c).content ∨ (f.andThen g c).content = (g (f c).content).content := by
  match hf : f c with
  | ⟨c₁, none⟩ =>
    rw [andThen_of_done hf]
    exact .inr rfl
  | ⟨c₁, some e⟩ =>
    rw [andThen_of_fault hf]
    exact .inl rfl

theorem andThen_assoc : (f.andThen g).andThen h = f.andThen (g.andThen h) := by
  funext c
  match hf : f c with
  | ⟨c₁, none⟩ =>
    rw [andThen_of_done hf]
    match hg : g c₁ with
    | ⟨c₂, none⟩ =>
      rw [andThen_of_done hg]
      exact andThen_of_done ((andThen_of_done hf).trans hg)
    | ⟨c₂, some e⟩ =>
      rw [andThen_of_fault hg]
      exact andThen_of_fault ((andThen_of_done hf).trans hg)
  | ⟨c₁, some e⟩ =>
    rw [andThen_of_fault hf]
    exact andThen_of_fault (andThen_of_fault hf)

theorem sequence_append (fs gs : List Edit) :
    sequence (fs ++ gs) = (sequence fs).andThen (sequence gs) := by
  induction fs with
  | nil => rfl
  | cons f fs ih =>
    rw [List.cons_append, sequence, sequence, ih, andThen_assoc]

/-- Sequences in sequence are one sequence. -/
theorem sequence_map_flatten {α : Type} (k : α → Edit) (groups : List (List α)) :
    sequence (groups.map fun as => sequence (as.map k)) = sequence (groups.flatten.map k) := by
  induction groups with
  | nil => rfl
  | cons as groups ih =>
    rw [List.map_cons, sequence, ih, List.flatten_cons, List.map_append, sequence_append]

theorem sequence_nil_eq_done : sequence [] c = ⟨c', none⟩ ↔ c' = c :=
  ⟨fun hc => by cases hc; rfl, fun hc => by rw [hc]; rfl⟩

theorem sequence_cons_eq_done {fs : List Edit} :
    sequence (f :: fs) c = ⟨c', none⟩ ↔ ∃ c₁, f c = ⟨c₁, none⟩ ∧ sequence fs c₁ = ⟨c', none⟩ :=
  andThen_eq_done

/-- Edits in sequence succeed from one content to another if others do so that succeed less often. -/
theorem sequence_map_mono {α : Type} {k k' : α → Edit} {as : List α}
    (hk : ∀ a c c', k a c = ⟨c', none⟩ → k' a c = ⟨c', none⟩)
    (hc : sequence (as.map k) c = ⟨c', none⟩) : sequence (as.map k') c = ⟨c', none⟩ := by
  induction as generalizing c with
  | nil => exact hc
  | cons a as ih =>
    obtain ⟨c₁, ha, hc⟩ := sequence_cons_eq_done.mp hc
    exact sequence_cons_eq_done.mpr ⟨c₁, hk a c c₁ ha, ih hc⟩

/-- Edits in sequence are a fold if each of them is a change that fails as it does. -/
theorem sequence_map_eq_done {α : Type} {k : α → Edit} {g : List Node → α → Except Error (List Node)}
    {as : List α} (hk : ∀ a c c', k a c = ⟨c', none⟩ ↔ g c a = .ok c') :
    sequence (as.map k) c = ⟨c', none⟩ ↔ as.foldlM g c = .ok c' := by
  induction as generalizing c with
  | nil =>
    refine sequence_nil_eq_done.trans ?_
    exact ⟨fun h => by rw [h]; rfl, fun h => by cases h; rfl⟩
  | cons a as ih =>
    rw [List.map_cons, sequence_cons_eq_done, List.foldlM_cons, bind_ok]
    exact ⟨fun ⟨c₁, ha, hc⟩ => ⟨c₁, (hk a c c₁).mp ha, ih.mp hc⟩,
      fun ⟨c₁, ha, hc⟩ => ⟨c₁, (hk a c c₁).mpr ha, ih.mpr hc⟩⟩

theorem fail_ne_done {e : Error} : fail e c ≠ ⟨c', none⟩ := by
  intro hc
  cases hc

theorem whole_eq_done {change : List Node → Except Error (List Node)} :
    whole change c = ⟨c', none⟩ ↔ change c = .ok c' := by
  unfold whole
  split
  · rename_i c₁ hc
    rw [hc]
    exact ⟨fun h => by cases h; rfl, fun h => by cases h; rfl⟩
  · rename_i e hc
    rw [hc]
    exact ⟨fun h => (fail_ne_done (e := e) (c := c) h).elim, fun h => by cases h⟩

/-! ## 3. Edits that wait for results

A query that an edit waits for does not depend on the content that is edited.  So all queries of a sequence can be asked
before the first edit is made, as far as only success is concerned.  Where an error is concerned they cannot: the edits
before it have been made. -/

section Results

variable {α β : Type}

/-- An edit that waits for a result succeeds if the result is there and the edit on it succeeds. -/
theorem given_eq_done {r : Except Error α} {k : α → Edit} :
    given r k c = ⟨c', none⟩ ↔ ∃ a, r = .ok a ∧ k a c = ⟨c', none⟩ := by
  cases r with
  | ok a => exact ⟨fun hk => ⟨a, rfl, hk⟩, fun ⟨_, ha, hk⟩ => by cases ha; exact hk⟩
  | error e => exact ⟨fun hk => (fail_ne_done hk).elim, fun ⟨_, ha, _⟩ => by cases ha⟩

/-- The results that edits in sequence wait for may be asked beforehand. -/
theorem sequence_given_eq_done {r : α → Except Error β} {k : β → Edit} {as : List α} :
    sequence (as.map fun a => given (r a) k) c = ⟨c', none⟩ ↔
      ∃ bs, as.mapM r = .ok bs ∧ sequence (bs.map k) c = ⟨c', none⟩ := by
  induction as generalizing c with
  | nil =>
    exact ⟨fun hc => ⟨[], rfl, hc⟩, fun ⟨bs, hbs, hc⟩ => by rw [mapM_nil_ok.mp hbs] at hc; exact hc⟩
  | cons a as ih =>
    rw [List.map_cons, sequence_cons_eq_done]
    constructor
    · rintro ⟨c₁, ha, hc⟩
      obtain ⟨b, hb, hk⟩ := given_eq_done.mp ha
      obtain ⟨bs, hbs, hc⟩ := ih.mp hc
      exact ⟨b :: bs, mapM_cons_ok.mpr ⟨b, bs, hb, hbs, rfl⟩, sequence_cons_eq_done.mpr ⟨c₁, hk, hc⟩⟩
    · rintro ⟨bs, hbs, hc⟩
      obtain ⟨b, bs', hb, hbs', rfl⟩ := mapM_cons_ok.mp hbs
      obtain ⟨c₁, hk, hc⟩ := sequence_cons_eq_done.mp hc
      exact ⟨c₁, given_eq_done.mpr ⟨b, hb, hk⟩, ih.mpr ⟨bs', hbs', hc⟩⟩

/-- If all edits in sequence wait for the same result, it is there, unless there is no edit. -/
theorem sequence_given_const {r : Except Error β} {k : α → β → Edit} {as : List α} (has : as ≠ [])
    (hc : sequence (as.map fun a => given r (k a)) c = ⟨c', none⟩) :
    ∃ b, r = .ok b ∧ sequence (as.map fun a => k a b) c = ⟨c', none⟩ := by
  cases r with
  | ok b => exact ⟨b, rfl, hc⟩
  | error e =>
    cases as with
    | nil => exact absurd rfl has
    | cons a as =>
      obtain ⟨c₁, ha, -⟩ := sequence_cons_eq_done.mp hc
      exact (fail_ne_done ha).elim

end Results

end Edit

end Regraft
