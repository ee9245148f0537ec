/-!
# JSON values

Values as they are written: members keep their order and may be repeated, numbers are digits, and a text with
an escape for half of a character has no value.  What of this matters is decided by who reads the value.
-/

namespace Regraft.Json

/-- A JSON number without its sign: a significand times a power of ten. -/
structure Number where
  significand : Nat
  exponent : Int
  deriving DecidableEq, Repr

/-- JSON values as written. -/
inductive Value where
  | null
  | bool (b : Bool)
  | number (n : Number)
  /-- A text; none if it has no value. -/
  | text (value : Option String)
  | array (elements : List Value)
  | object (members : List (Option String × Value))

namespace Number

/-- The number that digits spell after those of `n`, as far as it fits in sixty-four bits, and the digits that
are left. -/
def takeDigits (n : Nat) : List Nat → Nat × List Nat
  | [] => (n, [])
  | d :: rest => if 10 * n + d < 2 ^ 64 then takeDigits (10 * n + d) rest else (n, d :: rest)

/-- The number of digits before and after a point and an exponent.  Digits before the point that do not fit
in the significand count as zeros; those after it are dropped. -/
def ofDigits (whole fraction : List Nat) (exponent : Int) : Number :=
  let (n, uncounted) := takeDigits 0 whole
  let (m, dropped) := takeDigits n fraction
  ⟨m, exponent + uncounted.length - (fraction.length - dropped.length : Nat)⟩

/-- A number rounded to fifty-three significant bits, to the even neighbour from halfway between two. -/
def round (n : Nat) : Nat :=
  let unit := Nat.pow 2 (n.log2 + 1 - 53)
  let low := n / unit
  if 2 * (n % unit) < unit ∨ 2 * (n % unit) = unit ∧ low % 2 = 0 then low * unit else (low + 1) * unit

/-- The least product that is rounded beyond the largest number of fifty-three significant bits and a place
below the one thousand and twenty-fourth. -/
def limit : Nat := Nat.pow 2 1024 - Nat.pow 2 970

/-- Whether a number is in range.  Its significand and its power of ten are each rounded before they are
multiplied; no number is too small. -/
def inRange (n : Number) : Bool :=
  n.significand == 0 ||
    match n.exponent with
    | .ofNat e => e ≤ 308 && round n.significand * round (Nat.pow 10 e) < limit
    | .negSucc _ => true

end Number

/-- The deepest nesting of what is kept. -/
def maxDepth : Nat := 127

mutual

/-- Whether a value can be kept at a depth: its texts have values, its numbers are in range, and it is not
nested too deeply. -/
def Value.isKept (depth : Nat) : Value → Bool
  | .null | .bool _ => true
  | .number n => n.inRange
  | .text value => value.isSome
  | .array elements => depth < maxDepth && elementsKept (depth + 1) elements
  | .object members => depth < maxDepth && membersKept (depth + 1) members

/-- Whether all elements can be kept. -/
def elementsKept (depth : Nat) : List Value → Bool
  | [] => true
  | v :: rest => v.isKept depth && elementsKept depth rest

/-- Whether all members can be kept. -/
def membersKept (depth : Nat) : List (Option String × Value) → Bool
  | [] => true
  | (key, v) :: rest => key.isSome && v.isKept depth && membersKept depth rest

end

end Regraft.Json
