import BenefitForm.Text.Encoding

/-!
# Failures

Values of any JSON shape reach every operation, so an operation may meet a value
that it cannot use. `Fault` says in which way; `Failure` adds the four failures
of the domain, each with a code and a message:

- a rule or field entry without its expected keys (`malformedRule`),
- a document value with no encoding (`encodingFailed`),
- a catalog answer without the item (`catalogParse`),
- a catalog look-up without a usable answer (`catalogFetch`).
-/

namespace BenefitForm

/-- What keeps a label of a host name from being valid. -/
inductive NameProblem where
  /-- The label is empty, too long, not composed, or has a hyphen or a mark in the wrong place. -/
  | form
  /-- The label mixes directions of writing. -/
  | direction
  /-- The label holds a code point that no label may hold. -/
  | codePoint
  /-- The label holds a code point that may only stand beside others. -/
  | context
deriving DecidableEq

/-- The way in which a value cannot be used. -/
inductive Fault where
  /-- The operation has no meaning for this kind of value. -/
  | wrongKind
  /-- The value has no such member or operation. -/
  | noSuchMember
  /-- No entry has this key. -/
  | missingKey
  /-- No item has this position. -/
  | missingPosition
  /-- The value is of the right kind but not one of those allowed. -/
  | invalidValue
  /-- The number is out of range. -/
  | tooLarge
  /-- The text has no encoding. -/
  | unencodable (e : EncodeError)
  /-- The bytes are no text. -/
  | undecodable (e : DecodeError)
  /-- The address is no URL. -/
  | invalidUrl
  /-- The host name of the address has no international form. -/
  | invalidName (p : NameProblem)
  /-- The document is nested too deeply. -/
  | tooDeep
  /-- The text would be longer than can be held. -/
  | noRoom
deriving DecidableEq

/-- Why an operation gives no result. -/
inductive Failure where
  | fault (f : Fault)
  | malformedRule (message : Text)
  | encodingFailed
  | catalogParse (message : Text)
  | catalogFetch (message : Text)
deriving DecidableEq

namespace Failure

/-- The code of a failure of the domain. -/
def code? : Failure → Option String
  | .fault _ => none
  | .malformedRule _ => some "MALFORMED_RULE"
  | .encodingFailed => some "ENCODING_FAILED"
  | .catalogParse _ => some "CATALOG_PARSE_FAILED"
  | .catalogFetch _ => some "CATALOG_FETCH_FAILED"

/-- The message of a failure of the domain. -/
def message : Failure → Text
  | .fault _ => []
  | .malformedRule m => m
  | .encodingFailed => Text.ofString "Failed to encode string to base64"
  | .catalogParse m => m
  | .catalogFetch m => m

end Failure

instance : MonadLift (Except Fault) (Except Failure) := ⟨Except.mapError Failure.fault⟩

end BenefitForm
