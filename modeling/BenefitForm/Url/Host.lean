import BenefitForm.Json.Reader
import BenefitForm.Text.LowerCase
import BenefitForm.Text.Percent
import BenefitForm.Url.Label

/-!
# Hosts

The host of a URL is an address of version 4, an address of version 6 in
brackets, or a name. `Host.normalize` checks addresses and writes names in ASCII:
small letters, escapes for what a name may not hold, and the ASCII form of an
international name (`HostName.encode`). `Host.nameProblem?` looks at what a name
in ASCII form stands for.
-/

namespace BenefitForm

namespace Host

/-- Whether a text is taken for an address of version 4: four numbers with points between them. -/
def resemblesAddress4 (t : Text) : Bool :=
  let parts := t.splitOn '.'
  parts.length = 4 && parts.all fun p => !p.isEmpty && p.all (·.isAsciiDigit)

/-- Whether a text is one of the four numbers of an address of version 4. -/
def isOctet (t : Text) : Bool :=
  !t.isEmpty && t.length ≤ 3 && t.all (·.isAsciiDigit)
    && (t.length = 1 || (t.head?.map (·.val)) ≠ some 0x30) && Json.digitsValue t ≤ 255

/-- Whether a text is an address of version 4. -/
def isAddress4 (t : Text) : Bool :=
  let parts := t.splitOn '.'
  parts.length = 4 && parts.all isOctet

/-- Whether a text is one group of an address of version 6. -/
def isGroup (t : Text) : Bool :=
  !t.isEmpty && t.length ≤ 4 && t.all fun c => (Json.hexValue? c).isSome

/-- The groups of an address of version 6, in which an address of version 4 at the end counts as
two groups. -/
def groups? (t : Text) : Option (List Text) :=
  let parts := t.splitOn ':'
  match parts.getLast? with
  | none => none
  | some last =>
    if last.any (·.val = 0x2E) then
      if isAddress4 last then some (parts.dropLast ++ [Text.ofString "0", Text.ofString "0"])
      else none
    else some parts

/-- Whether a text is an address of version 6: eight groups, or fewer around one gap. -/
def isAddress6 (t : Text) : Bool :=
  let address := t.takeWhile (·.val ≠ 0x25)
  let zone := t.drop (address.length + 1)
  let zoned := address.length < t.length
  if zoned && (zone.isEmpty || zone.any (·.val = 0x25)) || t.any (·.val = 0x2F) then false
  else match groups? address with
    | none => false
    | some groups =>
      let inner := (groups.drop 1).dropLast
      if groups.length < 3 || groups.length > 9 then false
      else match inner.findIdx? (·.isEmpty) with
        | none => groups.length = 8 && groups.all isGroup
        | some i =>
          let high := if groups.head? = some [] then groups.take (i + 1) |>.drop 1
            else groups.take (i + 1)
          let low := if groups.getLast? = some [] then (groups.drop (i + 2)).dropLast
            else groups.drop (i + 2)
          let highEmpty := groups.head? ≠ some [] || high.isEmpty
          let lowEmpty := groups.getLast? ≠ some [] || low.isEmpty
          highEmpty && lowEmpty && high.all isGroup && low.all isGroup
            && high.length + low.length ≤ 7

/-- The marks that a host name may hold. -/
def marks : Text := Text.ofString "-._~!$&'()*+,;=\"`\x7b\x7d%|\\"

/-- Whether a host name may hold a code point. -/
def isSafe (c : CodePoint) : Bool :=
  c.isAsciiLower || c.isAsciiUpper || c.isAsciiDigit || marks.contains c

/-- What is wrong with a host. -/
inductive Problem where
  | address4
  | address6
  | name
deriving DecidableEq

/-- A host as it is written, without the brackets of an address. -/
def normalize (host : Text) : Except Problem Text :=
  if host.isEmpty then .ok []
  else if resemblesAddress4 host then
    if isAddress4 host then .ok host else .error .address4
  else if (host.head?.map (·.val)) = some 0x5B && (host.getLast?.map (·.val)) = some 0x5D then
    let inner := (host.drop 1).dropLast
    if isAddress6 inner then .ok inner else .error .address6
  else if host.all (·.val < 0x80) then
    .ok (host.lower.flatMap fun c =>
      if isSafe c then [c] else Percent.encode [c.val.toUInt8])
  else match HostName.encode host.lower with
    | .ok name => .ok name
    | .error _ => .error .name

/-- Why a host in ASCII form stands for no international name. -/
def nameProblem? (host : Text) : Option NameProblem :=
  if Label.mark.isPrefixOf host then
    match HostName.decode host with
    | .ok _ => none
    | .error p => some p
  else none

end Host

end BenefitForm
