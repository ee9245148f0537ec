/-!
# General categories

Every code point has exactly one general category.  The other character properties of this library are
unions of categories, extended by short lists.
-/

namespace Regraft.Unicode

/-- The thirty general categories: letters, marks, numbers, punctuation, symbols, separators, other. -/
inductive Category where
  | lu | ll | lt | lm | lo
  | mn | mc | me
  | nd | nl | no
  | pc | pd | ps | pe | pi | pf | po
  | sm | sc | sk | so
  | zs | zl | zp
  | cc | cf | cs | co | cn
  deriving DecidableEq, Repr

end Regraft.Unicode
