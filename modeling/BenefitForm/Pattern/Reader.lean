import BenefitForm.Pattern.Escape
import BenefitForm.Text.Identifier
import BenefitForm.Text.Numeral

/-!
# Reading patterns

`Pattern.read` reads the usual notation of regular expressions: alternatives,
groups with numbers and names, references to them and conditions on them,
classes, anchors, looks ahead and behind, repetitions with their preferences,
flags and comments. A notation that is not well formed has no pattern: an open
bracket, a repetition of nothing or of a repetition, a range from a greater to a
smaller code point, an escape of a letter that means nothing, a look behind
without a fixed width.

A problem with a count is reported where it stands, before anything that follows
it; what concerns the pattern as a whole is looked at last.
-/

namespace BenefitForm

/-- A part of a sequence while it is read. -/
inductive PatternItem where
  | part (p : Pattern)
  /-- The parts of a group without a number or flags, which belong to the sequence around it. -/
  | bundle (parts : List Pattern)

namespace PatternItem

/-- The parts that an item adds to its sequence. -/
def parts : PatternItem → List Pattern
  | .part p => [p]
  | .bundle parts => parts

/-- The item as one pattern. -/
def toPattern (i : PatternItem) : Pattern := Pattern.ofSequence i.parts

/-- Whether an item may be repeated: anchors may not, nor may repetitions. -/
def isRepeatable : PatternItem → Bool
  | .part (.anchor _) | .part (.repeated ..) => false
  | _ => true

end PatternItem

namespace Pattern

open PatternReader

/-! ### Alternatives -/

/-- Whether a part is as simple as a code point, an anchor or a reference. -/
def isPlain : Pattern → Bool
  | .one _ _ | .anchor _ | .same _ _ => true
  | _ => false

/-- The plain parts with which every alternative begins, and what is left of the alternatives. -/
def sharedParts : List Pattern → List (List Pattern) → List Pattern × List (List Pattern)
  | [], others => ([], [] :: others)
  | p :: ps, others =>
    if p.isPlain && others.all (·.head? = some p) then
      let (shared, rest) := sharedParts ps (others.map (·.drop 1))
      (p :: shared, rest)
    else ([], (p :: ps) :: others)

/-- The classes of an alternative that is a code point or a set of some. -/
def classes? : List Pattern → Option (List PointClass × CaseRule)
  | [.one (.point c) rule] => some ([.single c], rule)
  | [.one (.anyOf false classes) rule] => some (classes, rule)
  | _ => none

/-- The set of a class. -/
def ofClasses (negated : Bool) (classes : List PointClass) : PointSet :=
  match negated, classes.eraseDups with
  | false, [.single c] => .point c
  | negated, classes => .anyOf negated classes

/-- One pattern after another, each an alternative. -/
def ofAlternatives : List (List Pattern) → Pattern
  | [] => .empty
  | [p] => ofSequence p
  | p :: ps => .either (ofSequence p) (ofAlternatives ps)

/-- The parts of a choice between alternatives. Alternatives of one code point are one set. -/
def choice : List (List Pattern) → List Pattern
  | [] => []
  | [p] => p
  | p :: ps =>
    let (shared, rest) := sharedParts p ps
    match rest.mapM classes? with
    | some ((classes, rule) :: others) =>
      shared ++ [.one (.anyOf false ((classes ++ others.flatMap (·.1)).eraseDups)) rule]
    | _ => shared ++ [ofAlternatives rest]

/-! ### Classes -/

/-- Read one member of a class that begins with a token. -/
def readMember (ascii : Bool) : PatternToken → PatternReader Escaped
  | .plain c => return .point c
  | .escaped c => Escaped.readInClass ascii c

/-- A member of a class. -/
def memberClass : Escaped → PatternReader PointClass
  | .point c => return .single c
  | .class k => return k
  | _ => malformed

/-- Read the members of a class up to its bracket; the first one may be the bracket itself. -/
def readMembers (ascii : Bool) : Nat → List PointClass → PatternReader (List PointClass)
  | 0, _ => malformed
  | fuel + 1, found => do
    let t ← need
    if t = .plain ']' && !found.isEmpty then return found.reverse
    let low ← readMember ascii t
    if ← accept '-' then
      let t ← need
      if t = .plain ']' then
        let k ← memberClass low
        return (.single '-' :: k :: found).reverse
      match low, ← readMember ascii t with
      | .point low, .point high =>
        if high.val < low.val then malformed
        readMembers ascii fuel (.range low high :: found)
      | _, _ => malformed
    else
      let k ← memberClass low
      readMembers ascii fuel (k :: found)

/-- Read a class after its opening bracket. -/
def readClass (f : PatternFlags) : PatternReader Pattern := do
  let negated ← accept '^'
  let classes ← readMembers f.ascii ((← get).tokens.length + 1) []
  return .one (ofClasses negated classes) f.caseRule

/-! ### Repetitions -/

/-- The least count that is too large for a repetition. -/
def maxCount : Nat := 4294967295

/-- The count of a repetition; nothing stands for the usual one. -/
def readCount (digits : Text) (usual : Option Nat) : PatternReader (Option Nat) := do
  if digits.isEmpty then return usual
  let n ← countOf digits
  if n ≥ maxCount then throw .tooLarge
  return some n

/-- Read the bounds of a repetition after its opening brace. A brace that begins nothing of the kind
is ordinary text. -/
def readBounds? : PatternReader (Option (Nat × Option Nat)) := do
  let s ← get
  if (← peek) = some (.plain '\x7d') then return none
  let low ← takeWhile (·.isAsciiDigit) s.tokens.length
  let apart ← accept ','
  let high ← if apart then takeWhile (·.isAsciiDigit) s.tokens.length else pure low
  if ← accept '\x7d' then
    let least := (← readCount low none).getD 0
    let most? ← readCount high none
    if most?.any (· < least) then malformed
    return some (least, most?)
  else
    set s
    return none

/-- Read the mark of a preference. -/
def readPreference : PatternReader Preference := do
  if ← accept '?' then return .shortest
  if ← accept '+' then return .only
  return .longest

/-- Repeat the last item. -/
def readRepetition (items : List PatternItem) (least : Nat) (most? : Option Nat) :
    PatternReader (List PatternItem) := do
  match items with
  | [] => malformed
  | item :: items =>
    if !item.isRepeatable then malformed
    let preference ← readPreference
    modify fun s => { s with repeats := true }
    return .part (.repeated item.toPattern least most? preference) :: items

/-! ### Groups -/

/-- Read letters of flags, which set or clear them, up to a mark that ends them. -/
def readLetters (on : Bool) (stops : Text) (first : CodePoint) (f : PatternFlags) :
    Nat → PatternReader (PatternFlags × CodePoint)
  | 0 => malformed
  | fuel + 1 => do
    match f.set? first with
    | none => malformed
    | some g =>
      if g.ascii && g.unicode || (!on && (first = 'a' || first = 'u')) then malformed
      match ← need with
      | .plain c => if stops.contains c then return (g, c) else readLetters on stops c g fuel
      | .escaped _ => malformed

/-- Read flags that begin with a letter or a hyphen. Returns the flags that are set and cleared for
one part, or nothing where they are those of the whole pattern. -/
def readFlags (first : CodePoint) : PatternReader (Option (PatternFlags × PatternFlags)) := do
  let fuel := (← get).tokens.length + 1
  let (on, stop) ← if first = '-' then pure ({}, first)
    else readLetters true (Text.ofString ")-:") first {} fuel
  if stop = ')' then
    modify fun s => { s with flags := s.flags.union on }
    return none
  if on.template then malformed
  if stop = ':' then return some (on, {})
  match ← need with
  | .escaped _ => malformed
  | .plain c =>
    let (off, _) ← readLetters false (Text.ofString ":") c {} fuel
    if off.template || on.overlaps off then malformed
    return some (on, off)

/-- Read a comment up to its closing bracket. -/
def skipComment : Nat → PatternReader Unit
  | 0 => malformed
  | fuel + 1 => do
    if (← need) ≠ .plain ')' then skipComment fuel

/-- Skip the rest of a line. -/
def skipLine : Nat → PatternReader Unit
  | 0 => return
  | fuel + 1 => do
    match ← next with
    | none => return
    | some t => if t ≠ .plain '\n' then skipLine fuel

/-- The greatest number that a condition may have, and one more. -/
def maxGroups : Nat := 1073741823

/-- The group that a condition asks for: a name, or a number in any of its forms. -/
def readCondition : PatternReader Nat := do
  let name ← takeUntil ')'
  let number ← if name.isIdentifier then
      match (← get).names.find? (·.1 = name) with
      | some entry => pure entry.2
      | none => malformed
    else
      match Text.readInt name with
      | .ok n =>
        if n ≤ 0 || n ≥ maxGroups then malformed
        else do
          modify fun s => { s with conditions := n.toNat :: s.conditions }
          pure n.toNat
      | .error _ => malformed
  checkLook number
  return number

/-- Read the name of a group. -/
def readName (stop : Char) : PatternReader Text := do
  let name ← takeUntil stop
  if name.isIdentifier then return name else malformed

/-- What a group is, by what follows its opening bracket. -/
inductive GroupKind where
  | numbered (name? : Option Text)
  | bundle
  | flagged (on off : PatternFlags)
  | atomic
  | ahead (negated : Bool)
  | behind (negated : Bool)
  | condition
  | reference (name : Text)
  | comment
  /-- Flags of the whole pattern. -/
  | global

/-- Read what a group is. -/
def readKind : PatternReader GroupKind := do
  if !(← accept '?') then return .numbered none
  match ← need with
  | .escaped _ => malformed
  | .plain c =>
    if c = 'P' then
      if ← accept '<' then return .numbered (some (← readName '>'))
      else if ← accept '=' then return .reference (← readName ')')
      else malformed
    else if c = ':' then return .bundle
    else if c = '#' then return .comment
    else if c = '=' then return .ahead false
    else if c = '!' then return .ahead true
    else if c = '<' then
      if ← accept '=' then return .behind false
      else if ← accept '!' then return .behind true
      else malformed
    else if c = '(' then return .condition
    else if c = '>' then return .atomic
    else
      match ← readFlags c with
      | none => return .global
      | some (on, off) => return .flagged on off

/-- Whether a code point means nothing in a notation with blanks. -/
def isSkipped (t : PatternToken) : Bool :=
  match t with
  | .plain c => c.isAsciiBlank
  | .escaped _ => false

/-- The least width of a look behind that is too large. -/
def maxLook : Nat := 4294967295

/-- A look behind; its width has to be fixed. -/
def lookBehind (negated : Bool) (p : Pattern) : PatternReader Pattern := do
  let (least, most) := p.width (← get).closed
  if least ≠ most || least > maxLook then modify fun s => { s with unboundedLook := true }
  return .behind least negated p

mutual

/-- Read alternatives up to a closing bracket or the end. `scope?` gives the flags of a group; the
whole pattern has those of the state. -/
def readAlternatives (scope? : Option PatternFlags) : Nat → PatternReader (List (List Pattern))
  | 0 => malformed
  | fuel + 1 => do
    let first ← readSequence scope? scope?.isNone fuel []
    let others ← readOthers scope? fuel
    return first :: others

/-- Read the alternatives after the first one. -/
def readOthers (scope? : Option PatternFlags) : Nat → PatternReader (List (List Pattern))
  | 0 => malformed
  | fuel + 1 => do
    if ← accept '|' then
      let p ← readSequence scope? false fuel []
      let others ← readOthers scope? fuel
      return p :: others
    else return []

/-- Read items one after another and add them to those found before, which are backwards. Flags of
the whole pattern may stand before the `first` items of all. -/
def readSequence (scope? : Option PatternFlags) (first : Bool) :
    Nat → List PatternItem → PatternReader (List Pattern)
  | 0, _ => malformed
  | fuel + 1, items => do
    let flags := scope?.getD (← get).flags
    let next? ← peek
    match next? with
    | none => return items.reverse.flatMap PatternItem.parts
    | some t =>
      if t = .plain '|' || t = .plain ')' then return items.reverse.flatMap PatternItem.parts
      let _ ← next
      let again (items : List PatternItem) : PatternReader (List Pattern) :=
        readSequence scope? first fuel items
      let add (p : Pattern) : PatternReader (List Pattern) := again (.part p :: items)
      if flags.verbose && isSkipped t then again items
      else if flags.verbose && t = .plain '#' then
        skipLine ((← get).tokens.length + 1)
        again items
      else match t with
        | .escaped c =>
          match ← Escaped.read flags.ascii c with
          | .point c => add (.one (.point c) flags.caseRule)
          | .class k => add (.one (.anyOf false [k]) flags.caseRule)
          | .anchor a => add (.anchor a)
          | .group n => add (.same n flags.caseRule)
        | .plain c =>
          if c = '[' then add (← readClass flags)
          else if c = '*' then again (← readRepetition items 0 none)
          else if c = '+' then again (← readRepetition items 1 none)
          else if c = '?' then again (← readRepetition items 0 (some 1))
          else if c = '\x7b' then
            match ← readBounds? with
            | some (least, most?) => again (← readRepetition items least most?)
            | none => add (.one (.point c) flags.caseRule)
          else if c = '.' then
            add (.one (if flags.dotAll then .anyOf true [] else .notLineFeed) flags.caseRule)
          else if c = '^' then add (.anchor (if flags.lines then .lineStart else .textStart))
          else if c = '$' then add (.anchor (if flags.lines then .lineEnd else .lastLineEnd))
          else if c = '(' then
            match ← readKind with
            | .comment =>
              skipComment ((← get).tokens.length + 1)
              again items
            | .global => if first && items.isEmpty then again items else malformed
            | .reference name =>
              match (← get).names.find? (·.1 = name) with
              | none => malformed
              | some entry =>
                checkGroup entry.2
                add (.same entry.2 flags.caseRule)
            | kind => again ((← readGroup flags kind fuel) :: items)
          else add (.one (.point c) flags.caseRule)

/-- Read the content of a group and its closing bracket. -/
def readGroup (flags : PatternFlags) (kind : GroupKind) : Nat → PatternReader PatternItem
  | 0 => malformed
  | fuel + 1 => do
    let content (flags : PatternFlags) : PatternReader (List Pattern) := nested 2 do
      let alternatives ← readAlternatives (some flags) fuel
      return choice alternatives
    match kind with
    | .numbered name? =>
      let number ← openGroup name?
      let p := ofSequence (← content flags)
      expect ')'
      closeGroup number p
      return .part (.group (some number) p)
    | .flagged on off =>
      let p := ofSequence (← content (flags.within on off))
      expect ')'
      if on = {} && off = {} then return .bundle [p] else return .part (.group none p)
    | .atomic =>
      let p := ofSequence (← content flags)
      expect ')'
      return .part (.atomic p)
    | .ahead negated =>
      let p := ofSequence (← content flags)
      expect ')'
      return .part (.ahead negated p)
    | .behind negated =>
      let before? := (← get).groupsBefore?
      modify fun s => { s with groupsBefore? := some (before?.getD s.groups) }
      let p := ofSequence (← content flags)
      modify fun s => { s with groupsBefore? := before? }
      expect ')'
      return .part (← lookBehind negated p)
    | .condition =>
      let number ← readCondition
      let p ← nested 1 (readSequence (some flags) false fuel [])
      let hasOther ← accept '|'
      let q ← if hasOther then nested 1 (readSequence (some flags) false fuel []) else pure []
      expect ')'
      return .part (.ifGroup number (ofSequence p) (ofSequence q))
    | _ =>
      let parts ← content flags
      expect ')'
      return .bundle parts

end

/-! ### The whole pattern -/

/-- A class with the other set of digits, blanks and word characters. -/
def classIn (ascii : Bool) : PointClass → PointClass
  | .digit _ negated => .digit ascii negated
  | .blank _ negated => .blank ascii negated
  | .word _ negated => .word ascii negated
  | k => k

/-- Whether a class holds letters with a case. -/
def hasCased : PointClass → Bool
  | .single c => c.isCased
  | .range low high => (List.range (high.val + 1 - low.val)).any fun n =>
      (CodePoint.ofNat (low.val + n)).isCased
  | _ => false

/-- The set with which a pattern begins, as the flags of the whole pattern would have it. -/
def leadingSet? (ascii : Bool) : Pattern → Option PointSet
  | .one (.anyOf negated classes) rule =>
    if classes.map (classIn ascii) = classes || (rule ≠ .exact && classes.any hasCased) then none
    else some (.anyOf negated (classes.map (classIn ascii)))
  | .sequence p _ => p.leadingSet? ascii
  | .group _ p => p.leadingSet? ascii
  | _ => none

/-- A pattern whose first code point has to be in the set of its class, as a part with flags of its
own has it, and in that which the flags of the whole pattern make of the class. -/
def guarded (ascii : Bool) (p : Pattern) : Pattern :=
  match p.leadingSet? ascii with
  | some s => .sequence (.ahead false (.one s .exact)) p
  | none => p

/-- Read a whole notation. -/
def readWhole (fuel : Nat) : PatternReader Pattern := do
  let alternatives ← readAlternatives none fuel
  let s ← get
  if s.flags.ascii && s.flags.unicode then throw .invalid
  if !s.tokens.isEmpty || s.conditions.any (· > s.groups) || s.unboundedLook
      || (s.flags.template && s.repeats) then malformed
  return ((ofSequence (choice alternatives)).guarded s.flags.ascii).withoutIdleGroups

/-- The pattern of a notation. -/
def read (t : Text) : Except PatternProblem Pattern :=
  let (tokens, unfinished) := PatternToken.ofText t
  if tokens.isEmpty && unfinished then .error .malformed
  else ((readWhole (3 * t.length + 6)).run { tokens, unfinished }).map (·.1)

/-- The pattern of a notation, where there is one. -/
def read? (t : Text) : Option Pattern := (read t).toOption

end Pattern

end BenefitForm
