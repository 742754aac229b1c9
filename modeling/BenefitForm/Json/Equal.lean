import BenefitForm.Json

/-!
# Equality and order of JSON values

Two values are equal (`Json.equal`) when they are the same number whatever their
kind (`true`, `1` and `1.0` are one number), the same text, lists of equal items
or objects with equal members in any order. Not a number equals itself alone,
although it has no place in the order of numbers.

Validation tells truth values from numbers instead (`Json.sameConstant`).
-/

namespace BenefitForm

namespace Json

/-- The number a value stands for: truth values count as 0 and 1. -/
inductive Number where
  | exact (n : Int)
  | binary (x : Binary64)

namespace Number

/-- The order of two numbers; not a number has none. -/
def compare? : Number → Number → Option Ordering
  | .exact a, .exact b => some (Ord.compare a b)
  | .binary x, .exact b => x.compareRatio? (.ofInt b)
  | .exact a, .binary y => (y.compareRatio? (.ofInt a)).map Ordering.swap
  | .binary x, .binary y => x.compare? y

/-- Whether two numbers are equal; not a number is the same value wherever it stands. -/
def equal : Number → Number → Bool
  | .binary .nan, .binary .nan => true
  | a, b => a.compare? b == some .eq

end Number

/-- The number that the value is, truth values included. -/
def number? : Json → Option Number
  | .bool b => some (.exact (if b then 1 else 0))
  | .int n => some (.exact n)
  | .float x => some (.binary x)
  | _ => none

mutual

/-- Equality of values; see the head of the module. With `strict` set a truth value equals
no number. -/
def equalBy (strict : Bool) : Json → Json → Bool
  | .null, .null => true
  | .string s, .string t => s == t
  | .array xs, .array ys => equalItems strict xs ys
  | .object ms, .object ns => ms.length == ns.length && equalMembers strict ms ns
  | .bool a, .bool b => a == b
  | .bool a, b => !strict && (match b.number? with
      | some n => Number.equal (.exact (if a then 1 else 0)) n
      | none => false)
  | .int a, b => match b with
      | .bool c => !strict && a == (if c then 1 else 0)
      | b => match b.number? with
        | some n => Number.equal (.exact a) n
        | none => false
  | .float x, b => match b with
      | .bool c => !strict && Number.equal (.binary x) (.exact (if c then 1 else 0))
      | b => match b.number? with
        | some n => Number.equal (.binary x) n
        | none => false
  | _, _ => false

/-- Equality of lists, item by item. -/
def equalItems (strict : Bool) : List Json → List Json → Bool
  | [], [] => true
  | x :: xs, y :: ys => equalBy strict x y && equalItems strict xs ys
  | _, _ => false

/-- Whether each member has an equal one of the same key. -/
def equalMembers (strict : Bool) : List (Text × Json) → List (Text × Json) → Bool
  | [], _ => true
  | (k, v) :: ms, ns =>
    (match Members.get? ns k with
      | some w => equalBy strict v w
      | none => false) && equalMembers strict ms ns

end

/-- Equality of values, in which `true`, `1` and `1.0` are one number. -/
def equal (a b : Json) : Bool := equalBy false a b

/-- Equality of values that tells truth values from numbers. -/
def sameConstant (a b : Json) : Bool := equalBy true a b

instance : BEq Json := ⟨equal⟩

/-- Whether a value can serve as a key: lists and objects cannot. -/
def canBeKey : Json → Bool
  | .array _ => false
  | .object _ => false
  | _ => true

end Json

end BenefitForm
