import Regraft.Proofs.PathReading
/-!
# The texts that paths and steps remember

A path is read along with the text that it was read from, and so is every step and every path in a predicate, at any
depth.  The readers decide by what comes next, so it is not evident that a piece is read alike once it stands alone.
What settles it is that the grammar has no context: each piece has been read because its own text denotes it
(`AreSteps.denotes_innerPaths`), and whatever denotes a path is read as that path.

It also follows that two paths with a slash between them are one path (`AreSteps.append`).
-/

namespace Regraft

/-! ## 1. Paths in predicates

The paths in a path, at any depth: those in the predicates of its steps, and those in the predicates of these. -/

mutual

/-- All paths in the predicates of a path, and in theirs, at every depth. -/
def Path.innerPaths : Path → List Path
  | ⟨_, steps⟩ => pathsWithin steps

/-- All paths in the predicates of several steps. -/
def pathsWithin : List Step → List Path
  | [] => []
  | s :: rest => s.innerPaths ++ pathsWithin rest

/-- All paths in the predicates of a step. -/
def Step.innerPaths : Step → List Path
  | ⟨_, _, predicates⟩ => pathsWithinPredicates predicates

/-- All paths in several predicates. -/
def pathsWithinPredicates : List Predicate → List Path
  | [] => []
  | p :: rest => p.innerPaths ++ pathsWithinPredicates rest

/-- The path of a predicate, if it has one, and those in it. -/
def Predicate.innerPaths : Predicate → List Path
  | .position _ => []
  | .exists p | .equals p _ | .differs p _ => p :: p.innerPaths

end

theorem Path.innerPaths_eq (p : Path) : p.innerPaths = pathsWithin p.steps := by
  cases p
  rw [innerPaths]

namespace Path.Grammar

/-! ## 2. Pieces of what is denoted

By induction on what denotes what.  The grammar puts texts together from those of their parts, so the text of each part
is there, and it denotes the part. -/

variable {s t : List Char}

/-- A step remembers the text that denotes it. -/
theorem IsStep.raw_eq {x : Step} (h : IsStep s x) : x.raw = .ofList s := by
  cases h
  rfl

theorem AreSteps.ne_nil {xs : List Step} (h : AreSteps s xs) : xs ≠ [] := by
  cases h
  · exact List.cons_ne_nil _ _
  · exact List.cons_ne_nil _ _

/-- Every step of a path is denoted by its own text. -/
theorem AreSteps.isStep_of_mem : ∀ {s : List Char} {xs : List Step}, AreSteps s xs →
    ∀ x ∈ xs, IsStep x.raw.toList x
  | _, _, .one h, x, hx => by
    obtain rfl := List.mem_singleton.mp hx
    rwa [h.raw_eq, String.toList_ofList]
  | _, _, .more h hs, x, hx => by
    rcases List.mem_cons.mp hx with rfl | hx
    · rwa [h.raw_eq, String.toList_ofList]
    · exact hs.isStep_of_mem x hx

/-- The texts of the steps, with slashes between them, are the text. -/
theorem AreSteps.intercalate_raw : ∀ {s : List Char} {xs : List Step}, AreSteps s xs →
    "/".intercalate (xs.map Step.raw) = .ofList s
  | _, _, .one h => by rw [List.map_singleton, String.intercalate_singleton, h.raw_eq]
  | _, _, @AreSteps.more _ _ _ xs h hs => by
    have hne : xs.map Step.raw ≠ [] := List.map_eq_nil_iff.not.mpr hs.ne_nil
    rw [List.map_cons, String.intercalate_cons_of_ne_nil hne, hs.intercalate_raw, h.raw_eq]
    apply String.toList_injective
    simp

/-- Steps, a slash and further steps are steps. -/
theorem AreSteps.append : ∀ {s t : List Char} {xs ys : List Step}, AreSteps s xs → AreSteps t ys →
    AreSteps (s ++ '/' :: t) (xs ++ ys)
  | _, _, _, _, .one h, hys => .more h hys
  | _, _, _, _, .more h hs, hys => by
    rw [List.append_assoc, List.cons_append, List.cons_append]
    exact .more h (hs.append hys)

/-- The path that is compared is the one in the predicate. -/
theorem IsComparison.innerPaths_eq {q : Path} {p : Predicate} (h : IsComparison q t p) :
    p.innerPaths = q :: q.innerPaths := by
  cases h
  · rw [Predicate.innerPaths]
  · rw [Predicate.innerPaths]

mutual

/-- Every path in a predicate is denoted by its own text. -/
theorem AreSteps.denotes_innerPaths : ∀ {s : List Char} {xs : List Step}, AreSteps s xs →
    ∀ q ∈ pathsWithin xs, AreSteps q.raw.toList q.steps
  | _, _, .one h, q, hq => by
    rw [pathsWithin, pathsWithin, List.append_nil] at hq
    exact h.denotes_innerPaths q hq
  | _, _, .more h hs, q, hq => by
    rw [pathsWithin] at hq
    rcases List.mem_append.mp hq with hq | hq
    · exact h.denotes_innerPaths q hq
    · exact hs.denotes_innerPaths q hq

theorem IsStep.denotes_innerPaths : ∀ {s : List Char} {x : Step}, IsStep s x →
    ∀ q ∈ x.innerPaths, AreSteps q.raw.toList q.steps
  | _, _, .mk _ hs, q, hq => by
    rw [Step.innerPaths] at hq
    exact hs.denotes_innerPaths q hq

theorem ArePredicates.denotes_innerPaths : ∀ {s : List Char} {ps : List Predicate}, ArePredicates s ps →
    ∀ q ∈ pathsWithinPredicates ps, AreSteps q.raw.toList q.steps
  | _, _, .nil, q, hq => by
    rw [pathsWithinPredicates] at hq
    cases hq
  | _, _, .cons _ h _ hs, q, hq => by
    rw [pathsWithinPredicates] at hq
    rcases List.mem_append.mp hq with hq | hq
    · exact h.denotes_innerPaths q hq
    · exact hs.denotes_innerPaths q hq

theorem IsBody.denotes_innerPaths : ∀ {s : List Char} {p : Predicate}, IsBody s p →
    ∀ q ∈ p.innerPaths, AreSteps q.raw.toList q.steps
  | _, _, .position _ _ _, q, hq => by
    rw [Predicate.innerPaths] at hq
    cases hq
  | _, _, .exists h, q, hq => by
    rw [Predicate.innerPaths, Path.innerPaths] at hq
    rcases List.mem_cons.mp hq with rfl | hq
    · rwa [String.toList_ofList]
    · exact h.denotes_innerPaths q hq
  | _, _, .compare h _ ht, q, hq => by
    rw [ht.innerPaths_eq, Path.innerPaths] at hq
    rcases List.mem_cons.mp hq with rfl | hq
    · rwa [String.toList_ofList]
    · exact h.denotes_innerPaths q hq

end

end Path.Grammar

/-! ## 3. Pieces of what is read

With the parser in place of the grammar. -/

namespace Path

open Grammar

/-- A text that is not empty denotes one or more steps. -/
theorem areSteps_of_parse {text : String} {p : Path} (h : Path.parse text = .ok p) (hne : text ≠ "") :
    AreSteps text.toList p.steps := by
  cases parse_eq_ok_iff.mp h with
  | empty => exact absurd rfl hne
  | steps hsteps => exact hsteps

/-- Whatever is denoted by its own text is read from it. -/
theorem parse_raw {p : Path} (h : AreSteps p.raw.toList p.steps) : Path.parse p.raw = .ok p := by
  cases p
  exact parse_eq_ok_iff.mpr (.steps h)

/-- **Paths and steps remember the texts that they are read from.**  A path remembers the whole text, and in it and in
every path that stands in a predicate, at any depth, the texts of the steps with slashes between them are the text of
the path; each of these paths and steps is read alike when its text stands alone.  The other way round, two paths that
have steps are one path with a slash between them. -/
theorem raw_texts_faithful :
    (∀ text p, Path.parse text = .ok p → p.raw = text ∧
      ∀ q ∈ p :: p.innerPaths, "/".intercalate (q.steps.map Step.raw) = q.raw ∧ Path.parse q.raw = .ok q ∧
        ∀ t ∈ q.steps, Path.parse t.raw = .ok ⟨t.raw, [t]⟩) ∧
    ∀ a b p q, a ≠ "" → b ≠ "" → Path.parse a = .ok p → Path.parse b = .ok q →
      Path.parse (a ++ "/" ++ b) = .ok ⟨a ++ "/" ++ b, p.steps ++ q.steps⟩ := by
  constructor
  · intro text p hp
    have hpieces : ∀ q : Path, AreSteps q.raw.toList q.steps →
        "/".intercalate (q.steps.map Step.raw) = q.raw ∧ Path.parse q.raw = .ok q ∧
          ∀ t ∈ q.steps, Path.parse t.raw = .ok ⟨t.raw, [t]⟩ := fun q hq => by
      refine ⟨?_, parse_raw hq, fun t ht => parse_raw (p := ⟨t.raw, [t]⟩) (.one (hq.isStep_of_mem t ht))⟩
      rw [hq.intercalate_raw, String.ofList_toList]
    cases parse_eq_ok_iff.mp hp with
    | empty =>
      refine ⟨rfl, fun q hq => ?_⟩
      obtain rfl := List.mem_singleton.mp hq
      exact ⟨rfl, hp, nofun⟩
    | steps h =>
      refine ⟨rfl, fun q hq => hpieces q ?_⟩
      rcases List.mem_cons.mp hq with rfl | hq
      · exact h
      · rw [innerPaths] at hq
        exact h.denotes_innerPaths q hq
  · intro a b p q ha hb hp hq
    have htext : (a ++ "/" ++ b).toList = a.toList ++ '/' :: b.toList := by simp
    refine parse_raw (p := ⟨a ++ "/" ++ b, p.steps ++ q.steps⟩) ?_
    rw [htext]
    exact (areSteps_of_parse hp ha).append (areSteps_of_parse hq hb)

/-- A comparison inside a path in a predicate is read alike alone, and the whole goes on after a slash. -/
theorem nested_raw_texts :
    ∃ p, Path.parse "a[b[@c = 'x/]y']/text()][2]/.." = .ok p ∧
      p.steps.map Step.raw = ["a[b[@c = 'x/]y']/text()][2]", ".."] ∧
      p.innerPaths.map raw = ["b[@c = 'x/]y']/text()", "@c"] ∧
      (∀ q ∈ p.innerPaths, Path.parse q.raw = .ok q) ∧
      ∀ b q, b ≠ "" → Path.parse b = .ok q →
        Path.parse ("a[b[@c = 'x/]y']/text()][2]/.." ++ "/" ++ b) =
          .ok ⟨"a[b[@c = 'x/]y']/text()][2]/.." ++ "/" ++ b, p.steps ++ q.steps⟩ := by
  have hread : (Path.parse "a[b[@c = 'x/]y']/text()][2]/..").toOption.map
      (fun p => (p.steps.map Step.raw, p.innerPaths.map raw)) =
        some (["a[b[@c = 'x/]y']/text()][2]", ".."], ["b[@c = 'x/]y']/text()", "@c"]) := by decide +kernel
  cases hp : Path.parse "a[b[@c = 'x/]y']/text()][2]/.." with
  | error e =>
    rw [hp] at hread
    cases hread
  | ok p =>
    rw [hp] at hread
    obtain ⟨hsteps, hinner⟩ := Prod.mk.inj (Option.some.inj hread)
    obtain ⟨hpieces, hjoin⟩ := raw_texts_faithful
    refine ⟨p, rfl, hsteps, hinner, fun q hq => ?_, fun b q hb hq => hjoin _ b p q (by decide) hb hp hq⟩
    obtain ⟨-, halone, -⟩ := (hpieces _ p hp).2 q (List.mem_cons_of_mem p hq)
    exact halone

end Path

end Regraft
