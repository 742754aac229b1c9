import BenefitForm.Json.Display

/-!
# Rules of a benefit

A benefit's rules are of two kinds. An eligibility `Criterion` is met by any one
of the proofs it allows; a `DocumentRule` asks for a document of some type. Both
arrive in one feed as JSON objects: an entry is a criterion when it names one,
under `criteria`, `criterionName` or, where no `documentType` is given, `name`.
-/

namespace BenefitForm

/-- The name of a kind of proof. -/
abbrev ProofType := Text

/-- An eligibility condition that any of its allowed proofs satisfies. -/
structure Criterion where
  /-- The name of the condition. -/
  name : Text
  /-- The proofs that satisfy it, as declared. -/
  allowedProofs : List ProofType
  /-- Whether the rule says that it is required; it may say nothing. -/
  isRequired? : Option Bool
deriving DecidableEq

/-- A rule that asks for a document of a type. -/
structure DocumentRule where
  /-- The type of the document. -/
  documentType : Text
  /-- The proofs that are documents of this type, as declared. -/
  allowedProofs : List ProofType
  /-- Whether the document is mandatory. -/
  isRequired : Bool
deriving DecidableEq

/-- One usable entry of a rule feed. -/
inductive Rule where
  | criterion (c : Criterion)
  | document (d : DocumentRule)
deriving DecidableEq

namespace Rule

/-- Refuse an entry, with the reason. -/
def malformed {α : Type} (reason : String) : Except Failure α :=
  .error (.malformedRule (Text.ofString reason))

/-- The non-empty text that a value is. -/
def name? : Json → Option Text
  | .string [] => none
  | .string t => some t
  | _ => none

/-- The non-empty list of non-empty texts under `allowedProofs`. -/
def allowedProofs (members : Members) : Except Failure (List ProofType) :=
  match Json.member members "allowedProofs" with
  | .array (p :: ps) =>
    match (p :: ps).mapM name? with
    | some proofs => .ok proofs
    | none => malformed "Rule 'allowedProofs' must contain only non-empty strings"
  | _ => malformed "Rule 'allowedProofs' must be a non-empty list"

/-- The name of the criterion in an entry. -/
def criterionName? (members : Members) : Option Text :=
  match Json.member members "criteria" with
  | .object criteria => name? (Json.member criteria "name")
  | .string t => name? (.string t)
  | _ =>
    let named := Json.member members "criterionName"
    name? (if named.truthy then named else Json.member members "name")

/-- Whether an entry is about a criterion. -/
def namesCriterion (members : Members) : Bool :=
  !(Json.member members "criteria").isNull || !(Json.member members "criterionName").isNull
    || (!(Json.member members "name").isNull && (Json.member members "documentType").isNull)

/-- Read one entry of a rule feed. -/
def ofJson : Json → Except Failure Rule
  | .object members =>
    if namesCriterion members then
      match criterionName? members with
      | none => malformed "Eligibility rule missing criterion name"
      | some name => do
        let proofs ← allowedProofs members
        return .criterion ⟨name, proofs, (Json.member members "isRequired").asBool?⟩
    else
      match name? (Json.member members "documentType") with
      | none => malformed "Document rule missing 'documentType'"
      | some type => do
        let proofs ← allowedProofs members
        return .document ⟨type, proofs, (Json.member members "isRequired").asBool? == some true⟩
  | entry => do
    let shown ← entry.display
    throw (.malformedRule (Text.ofString "Rule entry is not an object: " ++ shown))

end Rule

namespace Criterion

/-- The criterion as a JSON object. -/
def toJson (c : Criterion) : Json :=
  Json.record [("criterion_name", .string c.name), ("allowed_proofs", Json.ofTexts c.allowedProofs),
    ("is_required", match c.isRequired? with | some b => .bool b | none => .null)]

end Criterion

namespace DocumentRule

/-- The rule as a JSON object. -/
def toJson (d : DocumentRule) : Json :=
  Json.record [("document_type", .string d.documentType),
    ("allowed_proofs", Json.ofTexts d.allowedProofs), ("is_required", .bool d.isRequired)]

end DocumentRule

end BenefitForm
