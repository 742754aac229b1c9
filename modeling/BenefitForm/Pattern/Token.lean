import BenefitForm.Json.Reader
import BenefitForm.Pattern

/-!
# The tokens of a pattern's notation

A notation is a row of tokens: code points, and code points after a backslash.
`PatternReader` takes them one after another and keeps what is known of the groups
read so far. A notation that ends in a backslash is not well formed, and this is
noticed when the token before it is taken.
-/

namespace BenefitForm

/-- Why a notation has no pattern. -/
inductive PatternProblem where
  /-- The notation is not well formed. -/
  | malformed
  /-- A count or a code point is out of range. -/
  | tooLarge
  /-- A count has too many digits, or two marks of the whole pattern exclude one another. -/
  | invalid
  /-- Groups lie too deep within each other. -/
  | tooDeep
deriving DecidableEq

/-- A part of a notation. -/
inductive PatternToken where
  | plain (c : CodePoint)
  /-- A code point after a backslash. -/
  | escaped (c : CodePoint)
deriving DecidableEq

namespace PatternToken

/-- A token as it is written. -/
def toText : PatternToken → Text
  | .plain c => [c]
  | .escaped c => ['\\', c]

/-- The tokens of a notation, and whether a backslash is left over at its end. -/
def ofText : Text → List PatternToken × Bool
  | [] => ([], false)
  | c :: rest =>
    if c.val = 0x5C then
      match rest with
      | [] => ([], true)
      | d :: rest =>
        let (tokens, open?) := ofText rest
        (.escaped d :: tokens, open?)
    else
      let (tokens, open?) := ofText rest
      (.plain c :: tokens, open?)

end PatternToken

/-- The marks that change the meaning of a notation. -/
structure PatternFlags where
  /-- Case does not matter. -/
  ignoreCase : Bool := false
  /-- Anchors hold at every line. -/
  lines : Bool := false
  /-- A point stands for a line feed too. -/
  dotAll : Bool := false
  /-- Blanks and comments mean nothing. -/
  verbose : Bool := false
  /-- Classes and cases are those of ASCII. -/
  ascii : Bool := false
  /-- Classes and cases are said to be those of all scripts. -/
  unicode : Bool := false
  /-- Repetitions have no meaning. -/
  template : Bool := false
deriving DecidableEq

namespace PatternFlags

/-- Which code points count as the same. -/
def caseRule (f : PatternFlags) : CaseRule :=
  if !f.ignoreCase then .exact else if f.ascii then .ascii else .unicode

/-- The flags with that of a letter. -/
def set? (f : PatternFlags) (letter : CodePoint) : Option PatternFlags :=
  if letter = 'i' then some { f with ignoreCase := true }
  else if letter = 'm' then some { f with lines := true }
  else if letter = 's' then some { f with dotAll := true }
  else if letter = 'x' then some { f with verbose := true }
  else if letter = 'a' then some { f with ascii := true }
  else if letter = 'u' then some { f with unicode := true }
  else if letter = 't' then some { f with template := true }
  else none

/-- The flags that hold in a part with flags of its own, some set and some cleared. -/
def within (f on off : PatternFlags) : PatternFlags where
  ignoreCase := (f.ignoreCase || on.ignoreCase) && !off.ignoreCase
  lines := (f.lines || on.lines) && !off.lines
  dotAll := (f.dotAll || on.dotAll) && !off.dotAll
  verbose := (f.verbose || on.verbose) && !off.verbose
  ascii := on.ascii || (f.ascii && !on.unicode)
  unicode := f.unicode
  template := f.template

/-- Flags that are set in either of two. -/
def union (f g : PatternFlags) : PatternFlags where
  ignoreCase := f.ignoreCase || g.ignoreCase
  lines := f.lines || g.lines
  dotAll := f.dotAll || g.dotAll
  verbose := f.verbose || g.verbose
  ascii := f.ascii || g.ascii
  unicode := f.unicode || g.unicode
  template := f.template || g.template

/-- Whether two have a flag in common. -/
def overlaps (f g : PatternFlags) : Bool :=
  (f.ignoreCase && g.ignoreCase) || (f.lines && g.lines) || (f.dotAll && g.dotAll)
    || (f.verbose && g.verbose)

end PatternFlags

/-- What is known while a notation is read. -/
structure PatternState where
  /-- The tokens that are left. -/
  tokens : List PatternToken
  /-- Whether a backslash follows them. -/
  unfinished : Bool
  /-- The flags of the whole pattern. -/
  flags : PatternFlags := {}
  /-- How deep the groups that are open lie within each other, where a condition counts one and any
  other group two. -/
  depth : Nat := 0
  /-- How many groups with numbers have begun. -/
  groups : Nat := 0
  /-- The groups that have names. -/
  names : List (Text × Nat) := []
  /-- The least and the greatest length of the groups that have ended. -/
  closed : List (Nat × Nat × Nat) := []
  /-- How many groups there were when the outermost look behind began, within one. -/
  groupsBefore? : Option Nat := none
  /-- The numbers of the groups that conditions ask for. -/
  conditions : List Nat := []
  /-- Whether anything is repeated. -/
  repeats : Bool := false
  /-- Whether a look behind has no fixed width. -/
  unboundedLook : Bool := false

/-- Reading a notation. -/
abbrev PatternReader := StateT PatternState (Except PatternProblem)

namespace PatternReader

/-- The notation is not well formed. -/
def malformed {α : Type} : PatternReader α := throw .malformed

/-- The next token. -/
def peek : PatternReader (Option PatternToken) := do return (← get).tokens.head?

/-- Take the next token. -/
def next : PatternReader (Option PatternToken) := do
  let s ← get
  match s.tokens with
  | [] => return none
  | t :: rest =>
    if rest.isEmpty && s.unfinished then malformed
    set { s with tokens := rest }
    return some t

/-- Take a token that has to be there. -/
def need : PatternReader PatternToken := do
  match ← next with
  | some t => return t
  | none => malformed

/-- Whether the next token is a code point; it is taken then. -/
def accept (c : Char) : PatternReader Bool := do
  if (← peek) = some (.plain c) then
    let _ ← next
    return true
  else return false

/-- Take a code point that has to be there. -/
def expect (c : Char) : PatternReader Unit := do
  if !(← accept c) then malformed

/-- Take the code points that meet a condition, `most` at most. -/
def takeWhile (ok : CodePoint → Bool) : Nat → PatternReader Text
  | 0 => return []
  | most + 1 => do
    match ← peek with
    | some (.plain c) =>
      if ok c then
        let _ ← next
        let others ← takeWhile ok most
        return c :: others
      else return []
    | _ => return []

/-- Take what comes before a code point, and the code point; there has to be something. -/
def takeUntil (stop : Char) : PatternReader Text := do
  let text ← go (← get).tokens.length
  if text.isEmpty then malformed else return text
where
  go : Nat → PatternReader Text
    | 0 => malformed
    | fuel + 1 => do
      let t ← need
      if t = .plain stop then return []
      let others ← go fuel
      return t.toText ++ others

/-- The count that digits write. -/
def countOf (digits : Text) : PatternReader Nat :=
  if digits.length > maxDigits then throw .invalid else return Json.digitsValue digits

/-- The greatest depth of groups. -/
def maxDepth : Nat := 970

/-- Read what lies within a group. -/
def nested {α : Type} (levels : Nat) (content : PatternReader α) : PatternReader α := do
  let s ← get
  if s.depth + levels > maxDepth then throw .tooDeep
  set { s with depth := s.depth + levels }
  let a ← content
  modify fun t => { t with depth := s.depth }
  return a

/-- Begin a group with a number, and a name where it has one. -/
def openGroup (name? : Option Text) : PatternReader Nat := do
  let s ← get
  let number := s.groups + 1
  match name? with
  | none => set { s with groups := number }
  | some name =>
    if s.names.any (·.1 = name) then malformed
    set { s with groups := number, names := (name, number) :: s.names }
  return number

/-- End a group. -/
def closeGroup (number : Nat) (p : Pattern) : PatternReader Unit :=
  modify fun s => { s with closed := (number, p.width s.closed) :: s.closed }

/-- Refer to a group: within a look behind, to one that ended before it. -/
def checkLook (number : Nat) : PatternReader Unit := do
  let s ← get
  match s.groupsBefore? with
  | none => return
  | some before =>
    if !s.closed.any (·.1 = number) || number > before then malformed

/-- Refer to the text of a group, which has to have ended. -/
def checkGroup (number : Nat) : PatternReader Unit := do
  if !(← get).closed.any (·.1 = number) then malformed
  checkLook number

end PatternReader

end BenefitForm
