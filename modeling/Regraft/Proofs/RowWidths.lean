import Mathlib.Data.List.Forall2
import Regraft.Proofs.ValuesInText
import Regraft.Proofs.WellConfigured
/-!
# Rows keep their width

A row has a value for each value path of its rule, since columns are cut off at the shortest and not filled up
(`Descent.length_of_mem_rows`).  Values and normalizers are paired, which would drop values if there were fewer
normalizers; but no rule is made with another number of them than it has value paths.  So a row that is normalized has
an entry for each value path (`Normalization.makes_of_apply`), and the one thing that can be wrong with its width is
that the template has another number of slots (`rows_keep_width`).
-/

namespace Regraft

open Xml (Address)

/-! ## 1. Results for all members of a list -/

/-- There are results exactly if there is one for each member. -/
theorem mapM_eq_ok {ε α β : Type} {f : α → Except ε β} {as : List α} {bs : List β} :
    as.mapM f = .ok bs ↔ List.Forall₂ (fun a b => f a = .ok b) as bs := by
  induction as generalizing bs with
  | nil => rw [mapM_nil_ok, List.forall₂_nil_left_iff]
  | cons a as ih =>
    rw [mapM_cons_ok, List.forall₂_cons_left_iff]
    simp only [ih]

/-! ## 2. Normalized rows

One entry for every value, made by the normalizer at the same place or kept.  The order is that of the values, and an
error is that of the first normalizer that fails. -/

namespace Normalization

theorem applyEach_eq_mapM (row : List String) (normalizers : List ValueNormalizer) :
    applyEach row normalizers = (row.zip normalizers).mapM fun p => p.2.apply p.1 := by
  induction row generalizing normalizers with
  | nil => cases normalizers <;> rfl
  | cons value row ih =>
    cases normalizers with
    | nil => rfl
    | cons n normalizers => rw [applyEach, ih, List.zip_cons_cons, List.mapM_cons]

/-- How the entry at a place of a normalized row is made: from the value at that place, unless the row was reshaped as a
whole. -/
def MakesAt (row : List String) (i : Nat) (entry : Option String) : Normalization → Prop
  | passThrough => ∃ value, row[i]? = some value ∧ entry = some value
  | wholeRow f => (f row)[i]? = some entry
  | perValue normalizers => ∃ (value : String) (n : ValueNormalizer), row[i]? = some value ∧ normalizers[i]? = some n ∧
      n.apply value = .ok entry

/-- Why a row cannot be normalized: it would get another width, or the normalizer of a value fails. -/
def FailsOn (row : List String) (e : Error) : Normalization → Prop
  | passThrough => False
  | wholeRow f => (f row).length ≠ row.length ∧ e = .normalizationArity row.length (f row).length row
  | perValue normalizers => ∃ (i : Nat) (value : String) (n : ValueNormalizer), row[i]? = some value ∧
      normalizers[i]? = some n ∧ n.apply value = .error e

variable {n : Normalization} {row : List String}

/-- A normalization that is made for rows of a width keeps it, and every entry is made at its place. -/
theorem makes_of_apply (hfits : n.fits row.length = true) {normalized : List (Option String)}
    (h : n.apply row = .ok normalized) :
    normalized.length = row.length ∧ ∀ i entry, normalized[i]? = some entry → n.MakesAt row i entry := by
  cases n with
  | passThrough =>
    cases h
    refine ⟨List.length_map _, fun i entry hentry => ?_⟩
    obtain ⟨value, hvalue, rfl⟩ := Option.map_eq_some_iff.mp (List.getElem?_map.symm.trans hentry)
    exact ⟨value, hvalue, rfl⟩
  | wholeRow f =>
    rw [apply] at h
    split at h
    · rename_i hlength
      cases h
      exact ⟨hlength, fun i entry hentry => hentry⟩
    · cases h
  | perValue normalizers =>
    rw [apply, applyEach_eq_mapM, mapM_eq_ok] at h
    have hcount : normalizers.length = row.length := beq_iff_eq.mp hfits
    have hlength : (row.zip normalizers).length = row.length := by rw [List.length_zip, hcount, Nat.min_self]
    refine ⟨h.length_eq.symm.trans hlength, fun i entry hentry => ?_⟩
    obtain ⟨hi, rfl⟩ := List.getElem?_eq_some_iff.mp hentry
    have hpair : i < (row.zip normalizers).length := by rwa [h.length_eq]
    have hmade := h.get hpair hi
    obtain ⟨hvalue, hn⟩ := List.getElem?_zip_eq_some.mp (List.getElem?_eq_getElem hpair)
    exact ⟨_, _, hvalue, hn, hmade⟩

theorem apply_eq_error {e : Error} (h : n.apply row = .error e) : n.FailsOn row e := by
  cases n with
  | passThrough => cases h
  | wholeRow f =>
    rw [apply] at h
    split at h
    · cases h
    · rename_i hlength
      cases h
      exact ⟨hlength, rfl⟩
  | perValue normalizers =>
    rw [apply, applyEach_eq_mapM] at h
    obtain ⟨p, hp, hfails⟩ := mapM_error h
    obtain ⟨i, hi⟩ := List.getElem?_of_mem hp
    obtain ⟨hvalue, hn⟩ := List.getElem?_zip_eq_some.mp hi
    exact ⟨i, p.1, p.2, hvalue, hn, hfails⟩

end Normalization

/-! ## 3. Rows of a rule

Rows come of columns, and columns of value paths, so the width of a row is the number of paths.  The constructor of a
rule refuses any other number of normalizers. -/

/-- Per-value normalizers are refused unless there is one for each value path. -/
theorem Rule.withNormalization_perValue (rule : Rule) {normalizers : List ValueNormalizer}
    (h : normalizers.length ≠ rule.values.length) :
    rule.withNormalization (.perValue normalizers) =
      .error (.normalizationArity rule.values.length normalizers.length (rule.values.map (·.raw))) := by
  have hfits : ¬ (Normalization.perValue normalizers).fits rule.values.length = true := fun hfits =>
    h (beq_iff_eq.mp hfits)
  rw [withNormalization, dif_neg hfits]

theorem Template.render_eq_error {t : Template} {values : List String} {e : Error} :
    t.render values = .error e ↔
      t.slots ≠ values.length ∧ e = .templateArity t.raw t.slots values.length values := by
  rw [render]
  split
  · rename_i hcount
    exact iff_of_false (fun h => by cases h) fun h => h.1 hcount.symm
  · rename_i hcount
    rw [Except.error.injEq]
    exact ⟨fun h => ⟨fun hsame => hcount hsame.symm, h.symm⟩, fun h => h.2.symm⟩

namespace Descent

variable {d : Descent} {context : Address} {rows : List (List String)} {row : List String}

/-- A row has a value for each value path. -/
theorem length_of_mem_rows (hrows : d.rows context = .ok rows) (hrow : row ∈ rows) :
    row.length = d.rule.values.length := by
  obtain ⟨columns, hcolumns, h⟩ := bind_ok.mp hrows
  cases h
  obtain ⟨items, hitems, rfl⟩ := List.mem_map.mp hrow
  rw [List.length_map, length_of_mem_rowsOf hitems]
  exact (mapM_eq_ok.mp hcolumns).length_eq.symm

/-- What the template makes of a row that is normalized and not filtered out fails only for its number of slots. -/
theorem renderRow_eq_error {values : List String} (h : d.rule.normalization.apply row = .ok (values.map some))
    {e : Error} :
    d.renderRow row = .error e ↔ d.rule.template.slots ≠ values.length ∧
      e = .templateArity d.rule.template.raw d.rule.template.slots values.length (values.map Text.escape) := by
  rw [renderRow_of_values h (mapM_map_some values), map_error, Template.render_eq_error, List.length_map]

end Descent

/-- **Rows keep the width that the rule gives them.**  Every row that is extracted has a value for each value path.
It is normalized to as many entries, each made from the value at its place, or it fails because a whole row would get
another width or the normalizer of one value fails; there is a normalizer for each, since no rule is made with
another number of them.  Once a row is normalized and not filtered out, it is rendered unless the template has
another number of slots than the rule has value paths, and the error tells both. -/
theorem rows_keep_width {d : Descent} {context : Address} {rows : List (List String)} {row : List String}
    (hrows : d.rows context = .ok rows) (hrow : row ∈ rows) :
    row.length = d.rule.values.length ∧
    (∀ normalized, d.rule.normalization.apply row = .ok normalized →
      normalized.length = d.rule.values.length ∧
        ∀ i entry, normalized[i]? = some entry → d.rule.normalization.MakesAt row i entry) ∧
    (∀ e, d.rule.normalization.apply row = .error e → d.rule.normalization.FailsOn row e) ∧
    (∀ normalizers, normalizers.length ≠ d.rule.values.length →
      d.rule.withNormalization (.perValue normalizers) = .error
        (.normalizationArity d.rule.values.length normalizers.length (d.rule.values.map (·.raw)))) ∧
    ∀ values : List String, d.rule.normalization.apply row = .ok (values.map some) → ∀ e,
      d.renderRow row = .error e ↔ d.rule.template.slots ≠ d.rule.values.length ∧
        e = .templateArity d.rule.template.raw d.rule.template.slots d.rule.values.length
          (values.map Text.escape) := by
  have hwidth := Descent.length_of_mem_rows hrows hrow
  have hfits : d.rule.normalization.fits row.length = true := by
    rw [hwidth]
    exact d.rule.fits
  refine ⟨hwidth, fun normalized h => ?_, fun e => Normalization.apply_eq_error,
    fun normalizers => d.rule.withNormalization_perValue, fun values h e => ?_⟩
  · obtain ⟨hlength, hmade⟩ := Normalization.makes_of_apply hfits h
    exact ⟨hlength.trans hwidth, hmade⟩
  · obtain ⟨hlength, -⟩ := Normalization.makes_of_apply hfits h
    rw [List.length_map] at hlength
    rw [Descent.renderRow_eq_error h, hlength, hwidth]

namespace Sample

/-- From `b` to `p`: the text of each `b` and, with a mark, that of each `c` in it; the template has one slot. -/
def marking : Rule :=
  { rule [⟨none, "p"⟩] [⟨none, "b"⟩] with
    values := [⟨".", [⟨".", .here, []⟩]⟩, ⟨"c", steps [⟨none, "c"⟩]⟩]
    template := .parse "<%s>"
    normalization := .perValue [.function some, .function fun value => some (value ++ "<")]
    fits := rfl }

end Sample

/-- The first `b` has one text, which is empty, and two `c`: the row is cut off after the first of them, and both of its
values come to the template, escaped. -/
theorem marked_row_refused :
    ((Sample.run []).descent Sample.marking).rows [0, 0] = .ok [["", "x"]] ∧ ["", "x"] ∈ [["", "x"]] ∧
      Sample.marking.normalization.apply ["", "x"] = .ok (["", "x<"].map some) ∧
      ((Sample.run []).descent Sample.marking).renderRow ["", "x"] =
        .error (.templateArity "<%s>" 1 2 ["", "x&lt;"]) := by
  have hrows : ((Sample.run []).descent Sample.marking).rows [0, 0] = .ok [["", "x"]] := by rfl
  have hnormalized : Sample.marking.normalization.apply ["", "x"] = .ok (["", "x<"].map some) := rfl
  have hescaped : ["", "x<"].map Text.escape = ["", "x&lt;"] := by decide
  obtain ⟨-, -, -, -, hrendered⟩ := rows_keep_width hrows List.mem_cons_self
  rw [← hescaped]
  exact ⟨hrows, List.mem_cons_self, hnormalized, (hrendered _ hnormalized _).mpr ⟨by decide, rfl⟩⟩

end Regraft
