import BenefitForm.Text.LetterCase
import BenefitForm.Text.Word
import Std.Data.HashSet

/-!
# Patterns

A `Pattern` describes texts; `Pattern.ends` lists the places where a stretch that
matches may end when it begins at a given place, those first that the pattern
prefers, and `Pattern.search` asks whether any stretch of a text matches. A place
is a `Cursor`, which keeps what lies before it for the anchors and where the
groups of the pattern began and ended for what refers to them.

The empty text has no place that is, or is not, at the edge of a word.
-/

namespace BenefitForm

/-- Which code points count as the same. -/
inductive CaseRule where
  | exact
  /-- The case of ASCII letters does not matter. -/
  | ascii
  /-- The case of no letter matters. -/
  | unicode
deriving DecidableEq

/-- A class of code points; the classes of digits, blanks and word characters are those of all
scripts or those of ASCII. -/
inductive PointClass where
  | single (c : CodePoint)
  | range (low high : CodePoint)
  | digit (ascii negated : Bool)
  | blank (ascii negated : Bool)
  | word (ascii negated : Bool)
deriving DecidableEq

/-- What one code point of a text may be. -/
inductive PointSet where
  | point (c : CodePoint)
  | notLineFeed
  | anyOf (negated : Bool) (classes : List PointClass)
deriving DecidableEq

/-- A condition on a place between code points. -/
inductive Anchor where
  | textStart
  /-- The start of the text, or after a line feed. -/
  | lineStart
  | textEnd
  /-- The end of the text, or before its final line feed. -/
  | lastLineEnd
  /-- The end of the text, or before a line feed. -/
  | lineEnd
  | wordBoundary (ascii negated : Bool)
deriving DecidableEq

/-- Which stretches a repetition prefers. -/
inductive Preference where
  | longest
  | shortest
  /-- The longest one, and no other. -/
  | only
deriving DecidableEq

/-- A description of texts. -/
inductive Pattern where
  | empty
  | one (s : PointSet) (rule : CaseRule)
  | anchor (a : Anchor)
  | sequence (p q : Pattern)
  | either (p q : Pattern)
  /-- The pattern at least `least` times, and at most `most?` times where that is given. -/
  | repeated (p : Pattern) (least : Nat) (most? : Option Nat) (preference : Preference)
  /-- A part that belongs together, with a number where it can be referred to. -/
  | group (number? : Option Nat) (p : Pattern)
  /-- The text of a group once more. -/
  | same (number : Nat) (rule : CaseRule)
  /-- The stretch that the pattern prefers, and no other. -/
  | atomic (p : Pattern)
  /-- What follows matches, or does not. -/
  | ahead (negated : Bool) (p : Pattern)
  /-- What precedes, so many code points, matches, or does not. -/
  | behind (width : Nat) (negated : Bool) (p : Pattern)
  /-- One pattern where a group has matched, another where it has not. -/
  | ifGroup (number : Nat) (p q : Pattern)
deriving DecidableEq

/-- Where a group began and ended last. -/
structure GroupMark where
  number : Nat
  start : Nat
  stop? : Option Nat
deriving DecidableEq, Hashable

/-- A place in a text. -/
structure Cursor where
  /-- How many code points lie before the place. -/
  position : Nat
  /-- The code points before the place, backwards. -/
  passed : Text
  /-- The text from the place on. -/
  rest : Text
  /-- Where the groups began and ended. -/
  marks : List GroupMark

namespace PointClass

/-- Whether a code point is in a class. Where case does not matter, a capital above `FFFF` beside
other members of its set stands for nothing, and a range that ends above `FFFF` holds each letter
whose capital begins within it. -/
def holds (rule : CaseRule) (alone : Bool) (c : CodePoint) : PointClass → Bool
  | .single d =>
    match rule with
    | .exact => c == d
    | .ascii => c.asciiUpper == d.asciiUpper
    | .unicode => if alone || d.val < 0x10000 then c.sameLetter d else c.small == d
  | .range low high =>
    let inside (n : Nat) : Bool := low.val ≤ n && n ≤ high.val
    match rule with
    | .exact => inside c.val
    | .ascii =>
      let small := if c.isAsciiUpper then CodePoint.ofNat (c.val + 0x20) else c
      inside small.val || inside c.asciiUpper.val || (high.val ≥ 0x10000 && inside small.capital)
    | .unicode => c.variants.any inside || (high.val ≥ 0x10000 && inside c.small.capital)
  | .digit ascii negated => (if ascii then c.isAsciiDigit else c.digit?.isSome) != negated
  | .blank ascii negated => (if ascii then c.isAsciiBlank else c.isBlank) != negated
  | .word ascii negated => (if ascii then c.isAsciiWord else c.isWord) != negated

end PointClass

namespace PointSet

/-- Whether a code point is one of those described. -/
def holds (rule : CaseRule) (c : CodePoint) : PointSet → Bool
  | .point d => PointClass.holds rule true c (.single d)
  | .notLineFeed => c.val ≠ 0x0A
  | .anyOf negated classes =>
    classes.any (PointClass.holds rule (classes.length ≤ 1) c) != negated

end PointSet

namespace Anchor

/-- Whether a place meets the condition. -/
def holds (c : Cursor) : Anchor → Bool
  | .textStart => c.passed.isEmpty
  | .lineStart => c.passed.head?.all (·.val = 0x0A)
  | .textEnd => c.rest.isEmpty
  | .lastLineEnd => c.rest.isEmpty || c.rest == [CodePoint.ofChar '\n']
  | .lineEnd => c.rest.head?.all (·.val = 0x0A)
  | .wordBoundary ascii negated =>
    let isWord (c : CodePoint) : Bool := if ascii then c.isAsciiWord else c.isWord
    !(c.passed.isEmpty && c.rest.isEmpty) &&
    (c.passed.head?.any isWord != c.rest.head?.any isWord) != negated

end Anchor

namespace Cursor

/-- The place at the beginning of a text. -/
def start (t : Text) : Cursor := ⟨0, [], t, []⟩

/-- The place after one code point that meets a condition. -/
def step? (c : Cursor) (ok : CodePoint → Bool) : Option Cursor :=
  match c.rest with
  | [] => none
  | d :: rest => if ok d then some ⟨c.position + 1, d :: c.passed, rest, c.marks⟩ else none

/-- The place after a text that the rest begins with, code point by code point. -/
def stepAll? (same : CodePoint → CodePoint → Bool) : Text → Cursor → Option Cursor
  | [], c => some c
  | d :: t, c => (c.step? (same d)).bind (stepAll? same t)

/-- The place some code points back, if there are as many. -/
def back? : Nat → Cursor → Option Cursor
  | 0, c => some c
  | n + 1, c =>
    match c.passed with
    | [] => none
    | d :: passed => back? n ⟨c.position - 1, passed, d :: c.rest, c.marks⟩

/-- What tells two places of one text apart. -/
def key (c : Cursor) : Nat × List GroupMark := (c.position, c.marks)

/-- The places without those that came before. -/
def distinct (cs : List Cursor) : List Cursor := go {} cs
where
  /-- The places that are neither seen nor come before. -/
  go (seen : Std.HashSet (Nat × List GroupMark)) : List Cursor → List Cursor
    | [] => []
    | c :: rest => if seen.contains c.key then go seen rest else c :: go (seen.insert c.key) rest

/-- Where a group began and ended. -/
def mark? (c : Cursor) (number : Nat) : Option GroupMark := c.marks.find? (·.number = number)

/-- The place where a group begins. Its last end stays until it ends again. -/
def opened (c : Cursor) (number : Nat) : Cursor :=
  { c with marks := ⟨number, c.position, (c.mark? number).bind (·.stop?)⟩
      :: c.marks.filter (·.number ≠ number) }

/-- The place where a group ends. -/
def closed (c : Cursor) (number : Nat) : Cursor :=
  { c with marks := c.marks.map fun m =>
      if m.number = number then { m with stop? := some c.position } else m }

/-- The text of a group, if it has matched. -/
def groupText? (c : Cursor) (number : Nat) : Option Text := do
  let m ← c.mark? number
  let stop ← m.stop?
  -- a group that has begun again keeps the end that it had, which may be before it
  if m.start ≤ stop then
    some ((c.passed.drop (c.position - stop)).take (stop - m.start)).reverse
  else none

/-- The places after no code point, one, two and so on that meet a condition, `n` at most. -/
def run (ok : CodePoint → Bool) : Nat → Cursor → List Cursor
  | 0, c => [c]
  | n + 1, c =>
    match c.step? ok with
    | some d => c :: run ok n d
    | none => [c]

/-- The places after exactly `n` moves. -/
def advance (move : Cursor → List Cursor) : Nat → List Cursor → List Cursor
  | 0, cs => cs
  | n + 1, cs => if cs.isEmpty then [] else advance move n (distinct (cs.flatMap move))

/-- The place after the first choice of each of at most `n` moves. A move that leads nowhere is
the last one. -/
def exhaust (move : Cursor → List Cursor) : Nat → Cursor → Cursor
  | 0, c => c
  | n + 1, c =>
    match move c with
    | [] => c
    | d :: _ => if d.position = c.position then d else exhaust move n d

/-- The places that moves have led to. -/
structure Reached where
  /-- The places in the order in which they are tried, backwards. -/
  places : List Cursor := []
  /-- The counts of moves and the places that have been tried. -/
  tried : Std.HashSet (Nat × Nat × List GroupMark) := {}

/-- One more place. -/
def Reached.add (r : Reached) (c : Cursor) : Reached := { r with places := c :: r.places }

/-- Add the places after at most `n` moves. A move that leads nowhere is the last one. `counted`
says that the count of moves matters, so that a place reached by other moves is not the same. -/
def explore (move : Cursor → List Cursor) (counted shortest : Bool) :
    Nat → Reached → Cursor → Reached
  | 0, r, c => r.add c
  | n + 1, r, c =>
    let trial := (if counted then n else 0, c.key)
    if r.tried.contains trial then r
    else
      let r := { r with tried := r.tried.insert trial }
      -- the place itself is tried before those that more moves lead to, or after them
      let r := if shortest then r.add c else r
      let r := (move c).foldl (fun r d =>
        if d.position = c.position then r.add d else explore move counted shortest n r d) r
      if shortest then r else r.add c

end Cursor

namespace Pattern

/-- The ends of a repetition of one code point: its places between the bounds. -/
def runEnds (ok : CodePoint → Bool) (least : Nat) (most? : Option Nat) (preference : Preference)
    (c : Cursor) : List Cursor :=
  -- no run is longer than what is left of the text
  let places := (c.run ok (min (most?.getD c.rest.length) c.rest.length)).drop least
  match preference with
  | .longest => places.reverse
  | .shortest => places
  | .only => places.getLast?.toList

/-- The ends of a repetition of moves. -/
def repeatedEnds (move : Cursor → List Cursor) (least : Nat) (most? : Option Nat)
    (preference : Preference) (c : Cursor) : List Cursor :=
  -- of more moves than there are code points left one leads nowhere
  let room := c.rest.length + 1
  let more := match most? with
    | some most => min (most - least) room
    | none => room
  match preference with
  | .only =>
    (Cursor.advance (fun c => (move c).take 1) least [c]).map (Cursor.exhaust move more)
  | preference =>
    let begun := Cursor.advance move least [c]
    let reached := begun.foldl
      (Cursor.explore move (more < room) (preference = .shortest) more) {}
    Cursor.distinct reached.places.reverse

/-- The places where a matching stretch may end that begins at a place. -/
def ends : Pattern → Cursor → List Cursor
  | .empty, c => [c]
  | .one s rule, c => (c.step? fun d => s.holds rule d).toList
  | .anchor a, c => if a.holds c then [c] else []
  | .sequence p q, c => Cursor.distinct ((p.ends c).flatMap q.ends)
  | .either p q, c => Cursor.distinct (p.ends c ++ q.ends c)
  | .repeated (.one s rule) least most? preference, c =>
    runEnds (fun d => s.holds rule d) least most? preference c
  | .repeated p least most? preference, c => repeatedEnds p.ends least most? preference c
  | .group none p, c => p.ends c
  | .group (some n) p, c => (p.ends (c.opened n)).map fun d => d.closed n
  | .same n rule, c =>
    match c.groupText? n with
    | some t => (c.stepAll? (fun d e => match rule with
        | .exact => d == e
        | .ascii => d.asciiUpper == e.asciiUpper
        | .unicode => d.small == e.small) t).toList
    | none => []
  | .atomic p, c => (p.ends c).take 1
  | .ahead negated p, c =>
    match p.ends c with
    | [] => if negated then [c] else []
    -- looking ahead leaves the place where it is, but not the groups
    | d :: _ => if negated then [] else [{ c with marks := d.marks }]
  | .behind width negated p, c =>
    match (c.back? width).map p.ends with
    | some (d :: _) => if negated then [] else [{ c with marks := d.marks }]
    | _ => if negated then [c] else []
  | .ifGroup n p q, c => if (c.groupText? n).isSome then p.ends c else q.ends c

/-- Whether a stretch that begins at the place or after it matches. -/
def searchFrom (p : Pattern) (position : Nat) (passed : Text) : Text → Bool
  | [] => !(p.ends ⟨position, passed, [], []⟩).isEmpty
  | c :: rest =>
    !(p.ends ⟨position, passed, c :: rest, []⟩).isEmpty
      || searchFrom p (position + 1) (c :: passed) rest

/-- Whether any stretch of a text matches. -/
def search (p : Pattern) (t : Text) : Bool := p.searchFrom 0 [] t

/-- The numbers of the groups that a pattern refers to. -/
def references : Pattern → List Nat
  | .same n _ => [n]
  | .ifGroup n p q => n :: (p.references ++ q.references)
  | .sequence p q | .either p q => p.references ++ q.references
  | .repeated p _ _ _ | .group _ p | .atomic p | .ahead _ p | .behind _ _ p => p.references
  | .empty | .one _ _ | .anchor _ => []

/-- The pattern without groups other than those with the numbers given. -/
def keeping (numbers : List Nat) : Pattern → Pattern
  | .group number? p =>
    if number?.any numbers.contains then .group number? (p.keeping numbers) else p.keeping numbers
  | .ifGroup n p q => .ifGroup n (p.keeping numbers) (q.keeping numbers)
  | .sequence p q => .sequence (p.keeping numbers) (q.keeping numbers)
  | .either p q => .either (p.keeping numbers) (q.keeping numbers)
  | .repeated p least most? preference => .repeated (p.keeping numbers) least most? preference
  | .atomic p => .atomic (p.keeping numbers)
  | .ahead negated p => .ahead negated (p.keeping numbers)
  | .behind width negated p => .behind width negated (p.keeping numbers)
  | p => p

/-- The pattern without the groups that nothing refers to, which change nothing. -/
def withoutIdleGroups (p : Pattern) : Pattern := p.keeping p.references

/-- Patterns one after another. -/
def ofSequence : List Pattern → Pattern
  | [] => .empty
  | p :: ps => ps.foldl .sequence p

/-- The most code points that a width can count. -/
def maxWidth : Nat := 18446744073709551616

/-- The least and the greatest length of the texts that a pattern describes, when those of the
groups are given. -/
def width (groups : List (Nat × Nat × Nat)) : Pattern → Nat × Nat
  | .empty | .anchor _ | .ahead _ _ | .behind _ _ _ => (0, 0)
  | .one _ _ => (1, 1)
  | .sequence p q =>
    let (a, b) := p.width groups
    let (c, d) := q.width groups
    (min (a + c) maxWidth, min (b + d) maxWidth)
  | .either p q | .ifGroup _ p q =>
    let (a, b) := p.width groups
    let (c, d) := q.width groups
    (min a c, max b d)
  | .repeated p least most? _ =>
    let (a, b) := p.width groups
    (min (a * least) maxWidth, min (match most? with
      | some most => b * most
      | none => b * maxWidth) maxWidth)
  | .group _ p | .atomic p => p.width groups
  | .same n _ => ((groups.find? (·.1 = n)).map (·.2)).getD (0, 0)

end Pattern

end BenefitForm
