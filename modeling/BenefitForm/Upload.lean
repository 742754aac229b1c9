import BenefitForm.Json.Equal
import BenefitForm.Rule.ProofSet
import BenefitForm.Settings

/-!
# File uploads

Some document fields are submitted as raw files instead of document records. A
field is an upload when its name, in small letters, contains one of the upload
patterns (`Upload.isUploadName`); a property that records the decision is taken
at its word (`Upload.isUpload`).
-/

namespace BenefitForm

namespace Upload

/-- Whether a name contains one of the patterns. The empty name contains none. -/
def isUploadName (patterns : List Text) (name : Text) : Bool :=
  !name.isEmpty && patterns.any fun p => p.occursIn name.lower

/-- Whether one of the items of a value is a text within another, found before an item that is
no text. -/
def anyPatternIn (name : Text) : List Json → Except Fault Bool
  | [] => .ok false
  | .string p :: rest => if p.occursIn name then .ok true else anyPatternIn name rest
  | _ => .error .wrongKind

/-- `isUploadName` for a name and patterns of any shape; null stands for the settings' own
patterns. -/
def isUploadValue (settings : Settings) (name patterns : Json) : Except Fault Bool :=
  if !name.truthy then .ok false
  else match name with
    | .string t => do
      let items ← if patterns.isNull then
          Except.ok (settings.uploadPatterns.map Json.string)
        else patterns.iterate
      anyPatternIn t.lower items
    | _ => .error .noSuchMember

/-- The members of a value that has them; what counts as empty has none. -/
def membersOrEmpty (v : Json) : Except Fault Members :=
  if v.truthy then
    match v with
    | .object members => .ok members
    | _ => .error .noSuchMember
  else .ok []

/-- The flag that a property records about itself. -/
def recorded? (property : Members) : Option Bool :=
  match Json.member property "vcMeta" with
  | .object recorded => (Members.get? recorded (Text.ofString "isFileUpload")).map Json.truthy
  | _ => none

/-- Whether a property of a name is an upload. -/
def isUpload (settings : Settings) (name : Text) (property : Json) : Except Fault Bool := do
  let members ← membersOrEmpty property
  return (recorded? members).getD (isUploadName settings.uploadPatterns name)

/-- `isUpload` for a name of any shape. -/
def isUploadOf (settings : Settings) (name property : Json) : Except Fault Bool := do
  let members ← membersOrEmpty property
  match recorded? members with
  | some flag => return flag
  | none => isUploadValue settings name .null

end Upload

end BenefitForm
