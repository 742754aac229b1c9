import BenefitForm.Text.Numeral
import BenefitForm.Url.Host

/-!
# URLs

`Url.parse` splits an address into its parts and writes each in ASCII; an address
without scheme or host is a reference into another one. `Url.toText` puts the
parts together again.

- `Url.under`: an address as a client with a base address asks for it.
- `Url.resolve`: what a reference means where it is met.
-/

namespace BenefitForm

/-- An address in its parts. -/
structure Url where
  /-- The scheme, in small letters. -/
  scheme : Text
  /-- Name and password, as they are written. -/
  userinfo : Text
  /-- The host, without the brackets of an address. -/
  host : Text
  /-- The port, unless it is the usual one of the scheme. -/
  port? : Option Int
  /-- The path. -/
  path : Text
  /-- The query, where a question mark announces it. -/
  query? : Option Text
  /-- The fragment, where a number sign announces it. -/
  fragment? : Option Text
deriving DecidableEq

/-- Why a text is no address. -/
inductive UrlProblem where
  | tooLong
  /-- A control character at a position. -/
  | control (c : CodePoint) (position : Nat)
  | host (p : Host.Problem) (t : Text)
  | port (t : Text)
  | relativePath
  | doubleSlash
  | leadingColon
  /-- The name of the host has no international form. -/
  | name (p : NameProblem)
  /-- A surrogate, which has no escape. -/
  | unencodable (e : EncodeError)
deriving DecidableEq

namespace UrlProblem

/-- The problem in words. -/
def message : UrlProblem → Text
  | .tooLong => Text.ofString "URL too long"
  | .control c position =>
    Text.ofString "Invalid non-printable ASCII character in URL, " ++ Text.quoted [c]
      ++ Text.ofString " at position " ++ Text.ofNat position ++ Text.ofString "."
  | .host .address4 t => Text.ofString "Invalid IPv4 address: " ++ t.quoted
  | .host .address6 t => Text.ofString "Invalid IPv6 address: " ++ t.quoted
  | .host .name t => Text.ofString "Invalid IDNA hostname: " ++ t.quoted
  | .port t => Text.ofString "Invalid port: " ++ t.quoted
  | .relativePath =>
    Text.ofString "For absolute URLs, path must be empty or begin with '/'"
  | .doubleSlash => Text.ofString "Relative URLs cannot have a path starting with '//'"
  | .leadingColon => Text.ofString "Relative URLs cannot have a path starting with ':'"
  | .name _ => []
  | .unencodable e => e.message

/-- The fault that the text is. -/
def fault : UrlProblem → Fault
  | .unencodable e => .unencodable e
  | .name p => .invalidName p
  | _ => .invalidUrl

end UrlProblem

namespace Url

/-- The most code points an address may have. -/
def maxLength : Nat := 65536

/-- What a query may not hold. -/
def queryReserved : Text := Text.ofString "\"#<>"

/-- What a path may not hold. -/
def pathReserved : Text := queryReserved ++ Text.ofString "?\x60\x7b\x7d"

/-- What name and password may not hold. -/
def userinfoReserved : Text := pathReserved ++ Text.ofString "/;=@[\\]^|"

/-- What a fragment may not hold. -/
def fragmentReserved : Text := Text.ofString "\"<>\x60"

/-- A part of an address with escapes for what it may not hold. A percent sign stays as it is. -/
def escaped (reserved : Text) : Text → Except EncodeError Text
  | [] => .ok []
  | c :: rest => do
    let shown ← if 0x20 < c.val && c.val < 0x7F && !reserved.contains c then .ok [c]
      else (Utf8.encode [c]).map fun bytes => bytes.flatMap fun b =>
        ['%', Percent.digit (b.toNat / 16), Percent.digit (b.toNat % 16)]
    let others ← escaped reserved rest
    return shown ++ others

/-- A text before and after the first occurrence of a code point. -/
def cut (c : CodePoint) (t : Text) : Text × Option Text :=
  let before := t.takeWhile (· ≠ c)
  if before.length < t.length then (before, some (t.drop (before.length + 1))) else (t, none)

/-- Whether a text may be a scheme. -/
def isScheme : Text → Bool
  | [] => true
  | c :: rest =>
    let letter (c : CodePoint) := c.isAsciiLower || c.isAsciiUpper
    letter c && rest.all fun c =>
      letter c || c.isAsciiDigit || c.val = 0x2B || c.val = 0x2E || c.val = 0x2D

/-- The parts of an address as they are written. -/
structure Parts where
  scheme : Text
  authority : Text
  path : Text
  query? : Option Text
  fragment? : Option Text

/-- Split an address at its delimiters. -/
def split (t : Text) : Parts :=
  let (scheme, rest) := match cut ':' t with
    | (scheme, some rest) => if isScheme scheme then (scheme, rest) else ([], t)
    | (_, none) => ([], t)
  let (rest, fragment?) := cut '#' rest
  let (rest, query?) := cut '?' rest
  match rest with
  | a :: b :: more =>
    if a.val = 0x2F && b.val = 0x2F then
      let authority := more.takeWhile (·.val ≠ 0x2F)
      ⟨scheme, authority, more.drop authority.length, query?, fragment?⟩
    else ⟨scheme, [], rest, query?, fragment?⟩
  | _ => ⟨scheme, [], rest, query?, fragment?⟩

/-- The parts of an authority: name and password, host, port. -/
def splitAuthority (t : Text) : Text × Text × Text :=
  let (userinfo, rest) : Text × Text :=
    if t.contains '@' then
      let host := (t.reverse.takeWhile (·.val ≠ 0x40)).reverse
      (t.take (t.length - host.length - 1), host)
    else ([], t)
  let host := match rest with
    | c :: _ =>
      if c.val = 0x5B && rest.contains ']' then
        (rest.reverse.dropWhile (·.val ≠ 0x5D)).reverse
      else rest.takeWhile (·.val ≠ 0x3A)
    | [] => []
  let after := rest.drop host.length
  (userinfo, host, match after with
    | c :: port => if c.val = 0x3A then port else after
    | [] => [])

/-- The usual port of a scheme. -/
def usualPort? (scheme : Text) : Option Int :=
  ([("ftp", 21), ("http", 80), ("https", 443), ("ws", 80), ("wss", 443)].find? fun
    (e : String × Int) => scheme = Text.ofString e.1).map (·.2)

/-- The port that a text is. -/
def readPort (scheme port : Text) : Except UrlProblem (Option Int) :=
  if port.isEmpty then .ok none
  else match Text.readInt port with
    | .ok n => .ok (if usualPort? scheme = some n then none else some n)
    | .error _ => .error (.port port)

/-- A path without its segments `.` and `..`. -/
def withoutDots (path : Text) : Text :=
  let segments := path.splitOn '/'
  if segments.any fun s => s = Text.ofString "." || s = Text.ofString ".." then
    Text.join (Text.ofString "/") ((segments.foldl (fun (out : List Text) (s : Text) =>
      if s = Text.ofString "." then out
      else if s = Text.ofString ".." then (if out = [[]] then out else out.drop 1)
      else s :: out) []).reverse)
  else path

/-- An address from its parts. -/
def ofParts (p : Parts) : Except UrlProblem Url := do
  let (userinfo, host, port) := splitAuthority p.authority
  let userinfo ← (escaped userinfoReserved userinfo).mapError .unencodable
  let shownHost ← (Host.normalize host).mapError fun problem => .host problem host
  let port? ← readPort p.scheme port
  let hasAuthority := !userinfo.isEmpty || !shownHost.isEmpty || port?.isSome
  if hasAuthority && !p.path.isEmpty && (p.path.head?.map (·.val)) ≠ some 0x2F then
    throw .relativePath
  if !hasAuthority && p.scheme.isEmpty && (Text.ofString "//").isPrefixOf p.path then
    throw .doubleSlash
  if !hasAuthority && p.scheme.isEmpty && (p.path.head?.map (·.val)) = some 0x3A then
    throw .leadingColon
  let path := if hasAuthority || !p.scheme.isEmpty then withoutDots p.path else p.path
  let path ← (escaped pathReserved path).mapError .unencodable
  let query? ← (p.query?.mapM (escaped queryReserved)).mapError .unencodable
  let fragment? ← (p.fragment?.mapM (escaped fragmentReserved)).mapError .unencodable
  return ⟨p.scheme.lower, userinfo, shownHost, port?, path, query?, fragment?⟩

/-- The first control character of an address. -/
def firstControl? (t : Text) : Option UrlProblem :=
  (t.findIdx? fun c => c.val < 0x20 || c.val = 0x7F).bind fun i =>
    t[i]?.map fun c => .control c i

/-- The address that a text is. -/
def parse (t : Text) : Except UrlProblem Url :=
  if t.length > maxLength then .error .tooLong
  else match firstControl? t with
    | some problem => .error problem
    | none => ofParts (split t)

/-- A host as it is written; one with colons stands in brackets. -/
def bracketed (host : Text) : Text :=
  if host.any (·.val = 0x3A) then Text.ofString "[" ++ host ++ Text.ofString "]" else host

/-- The authority as it is written. -/
def authority (u : Url) : Text :=
  (if u.userinfo.isEmpty then [] else u.userinfo ++ Text.ofString "@")
    ++ bracketed u.host
    ++ (match u.port? with
      | some n => Text.ofString ":" ++ Text.ofInt n
      | none => [])

/-- The address as it is written. -/
def toText (u : Url) : Text :=
  (if u.scheme.isEmpty then [] else u.scheme ++ Text.ofString ":")
    ++ (if u.authority.isEmpty then [] else Text.ofString "//" ++ u.authority)
    ++ u.path
    ++ (match u.query? with | some q => Text.ofString "?" ++ q | none => [])
    ++ (match u.fragment? with | some f => Text.ofString "#" ++ f | none => [])

/-- Whether an address has both a scheme and a host. -/
def isAbsolute (u : Url) : Bool := !u.scheme.isEmpty && !u.host.isEmpty

/-- Whether an address begins with a name and a colon, whatever the name. -/
def namesScheme (u : Url) : Bool :=
  let t := u.toText
  let name := t.takeWhile fun c => c.val ≠ 0x2F && c.val ≠ 0x3A
  !name.isEmpty && (t.drop name.length).head?.any (·.val = 0x3A)

/-- An address whose host can be asked. -/
def reachable (u : Url) : Except UrlProblem Url :=
  match Host.nameProblem? u.host with
  | some p => .error (.name p)
  | none => .ok u

/-- The parts of an address as they are written. -/
def parts (u : Url) : Parts := ⟨u.scheme, u.authority, u.path, u.query?, u.fragment?⟩

/-- The address of which nothing is known. -/
def blank : Url := ⟨[], [], [], none, [], none, none⟩

/-- An address as a client with a base address asks for it: an absolute one as it is, any other
with its path below that of the base. -/
def under (base u : Url) : Except UrlProblem Url :=
  if u.isAbsolute then .ok u
  else
    let whole (path : Text) : Text := if path.isEmpty then Text.ofString "/" else path
    let basePath := whole base.path
    let slashed := if basePath.getLast? = some (.ofChar '/') then basePath
      else basePath ++ Text.ofString "/"
    ofParts { base.parts with
      path := slashed ++ (whole u.path).dropWhile (·.val = 0x2F)
      query? := u.query? }

/-- The schemes whose addresses can be referred to by less than the whole. -/
def hierarchical : List Text :=
  ["ftp", "http", "gopher", "nntp", "imap", "wais", "file", "https", "shttp", "mms", "prospero",
    "rtsp", "rtsps", "rtspu", "sftp", "svn", "svn+ssh", "ws", "wss"].map Text.ofString

/-- A path, and the parameters of its last segment. -/
def splitParameters (path : Text) : Text × Text :=
  let last := (path.reverse.takeWhile (·.val ≠ 0x2F)).reverse
  let kept := last.takeWhile (·.val ≠ 0x3B)
  (path.take (path.length - last.length + kept.length), last.drop (kept.length + 1))

/-- A path with parameters after it. -/
def withParameters (path parameters : Text) : Text :=
  if parameters.isEmpty then path else path ++ Text.ofString ";" ++ parameters

/-- The path that a path refers to from another one. -/
def resolvePath (base path : Text) : Text :=
  let baseSegments := base.splitOn '/'
  let folder := if baseSegments.getLast? = some [] then baseSegments else baseSegments.dropLast
  let segments : List Text :=
    if (path.head?.map (·.val)) = some 0x2F then path.splitOn '/'
    else
      let all := folder ++ path.splitOn '/'
      all.take 1 ++ ((all.drop 1).dropLast.filter fun s => !s.isEmpty)
        ++ (if all.length > 1 then all.getLast?.toList else [])
  let kept := (segments.foldl (fun (out : List Text) (s : Text) =>
    if s = Text.ofString ".." then out.drop 1
    else if s = Text.ofString "." then out
    else s :: out) []).reverse
  let folderMeant := segments.getLast?.any fun s => s = Text.ofString "." || s = Text.ofString ".."
  let joined := Text.join (Text.ofString "/") (if folderMeant then kept ++ [[]] else kept)
  if (joined.head?.map (·.val)) = some 0x2F then joined else Text.ofString "/" ++ joined

/-- The part after a mark, where there is any of it. -/
def marked (t : Option Text) : Option Text := t.filter fun t => !t.isEmpty

/-- What a reference means from a base whose addresses can be referred to by less than the whole. -/
def joinParts (base reference : Url) : Except UrlProblem Url :=
  if !reference.authority.isEmpty then
    let (path, parameters) := splitParameters reference.path
    ofParts { reference.parts with
      scheme := base.scheme, path := withParameters path parameters
      query? := marked reference.query?, fragment? := marked reference.fragment? }
  else
    let (basePath, baseParameters) := splitParameters base.path
    let (path, parameters) := splitParameters reference.path
    if path.isEmpty && parameters.isEmpty then
      ofParts { base.parts with
        path := withParameters basePath baseParameters
        query? := (marked reference.query?).or (marked base.query?)
        fragment? := marked reference.fragment? }
    else
      ofParts { base.parts with
        path := withParameters (resolvePath basePath path) parameters
        query? := marked reference.query?
        fragment? := marked reference.fragment? }

/-- What a reference without a scheme means where it is met. The way in which it is written may
begin with a scheme all the same, and one other than that of the base makes it an address of its
own. -/
def join (base reference : Url) : Except UrlProblem Url := do
  if reference = blank then return base
  let written ← parse reference.toText
  if !hierarchical.contains base.scheme then return written
  else if !written.scheme.isEmpty && written.scheme ≠ base.scheme then return written
  else base.joinParts { written with scheme := [] }

/-- The address with a fragment. -/
def withFragment (u : Url) (fragment : Text) : Except UrlProblem Url :=
  match firstControl? fragment with
  | some problem => .error problem
  | none => ofParts { u.parts with fragment? := some fragment }

/-- What a reference means where it is met. A reference with a scheme and no host is meant on the
host of the base; the fragment of the base stays where the reference has none. -/
def resolve (base reference : Url) : Except UrlProblem Url := do
  let reference ← if !reference.scheme.isEmpty && reference.host.isEmpty then
      ofParts { reference.parts with authority := { reference with host := base.host }.authority }
    else pure reference
  let target ← if reference.isAbsolute then pure reference else base.join reference
  let fragment := Percent.unescape (base.fragment?.getD [])
  if fragment.isEmpty || !(target.fragment?.getD []).isEmpty then return target
  else target.withFragment fragment

end Url

end BenefitForm
