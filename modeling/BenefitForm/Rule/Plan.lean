import BenefitForm.Rule.Feed
import BenefitForm.Rule.ProofSet

/-!
# Document plans

Criteria that accept the same proofs share a `ProofGroup`. A group becomes
document fields in the coarsest way its rules allow (`ProofGroup.plans`):

1. one field for the whole group, where a document rule backs every proof;
2. one field for a criterion that accepts several proofs;
3. one field for a criterion that accepts one proof, named after both.

Document rules then add a field for each of their proofs that no group has
absorbed (`DocumentRule.plans`), mandatory rules first.
-/

namespace BenefitForm

/-- The document type of a field that no single document rule backs. -/
def eligibilityDocumentType : Text := Text.ofString "eligibilityCriteria"

/-- Criteria that accept the same proofs. -/
structure ProofGroup where
  /-- The key of the proof set. -/
  key : Text
  /-- The names of the criteria, in feed order. -/
  criterionNames : List Text
  /-- The proofs, once each, as the first criterion lists them. -/
  allowedProofs : List ProofType
  /-- The criteria, in feed order. -/
  criteria : List Criterion
deriving DecidableEq

/-- A document field before the wallet is searched. -/
structure DocumentPlan where
  /-- The name of the field. -/
  name : Text
  /-- The title of the field without its proofs. -/
  title : Text
  /-- The proofs of which a document satisfies the field. -/
  proofs : List ProofType
  /-- The proofs as the title will show them. -/
  proofLabel : Text
  /-- Whether the form requires the field. -/
  required : Bool
  /-- The criteria or the document type that the field satisfies. -/
  submissionReasons : List Text
  /-- The document type that the field records. -/
  documentType : Text := eligibilityDocumentType
  /-- The proof that the field records. -/
  documentSubtype? : Option ProofType
deriving DecidableEq

namespace ProofGroup

/-- The group of one criterion. -/
def ofCriterion (c : Criterion) : ProofGroup where
  key := ProofSet.key c.allowedProofs
  criterionNames := [c.name]
  allowedProofs := ProofSet.distinct c.allowedProofs
  criteria := [c]

/-- Let a criterion join a group. -/
def join (group : ProofGroup) (c : Criterion) : ProofGroup :=
  { group with
    criterionNames := group.criterionNames ++ [c.name]
    criteria := group.criteria ++ [c] }

/-- Let a criterion join the group of its proof set, or found one at the end. -/
def place (groups : List ProofGroup) (c : Criterion) : List ProofGroup :=
  let key := ProofSet.key c.allowedProofs
  if groups.any fun g => g.key == key then
    groups.map fun g => if g.key = key then g.join c else g
  else groups ++ [ofCriterion c]

/-- The groups of a list of criteria, in order of first appearance. -/
def ofCriteria (criteria : List Criterion) : List ProofGroup := criteria.foldl place []

/-- The document type that backs each proof of the group, where every proof is backed. -/
def coverage? (group : ProofGroup) (rules : NormalizedRules) : Option (List Text) :=
  group.allowedProofs.mapM rules.documentType?

/-- The title that asks for a document for something. -/
def titleFor (subject : Text) : Text := Text.ofString "Choose document for " ++ subject

/-- The suffix of the names of fields that stand for criteria. -/
def nameSuffix : Text := Text.ofString "_doc"

/-- What stands between the proofs of a label. -/
def labelSeparator : Text := Text.ofString " / "

/-- The one field of a group whose proofs have the given document types. A group without
proofs has no such field. -/
def mergedPlan (group : ProofGroup) (types : List Text) : Except Fault DocumentPlan :=
  -- a group whose proofs are of several types has none of them
  let type := match ProofSet.distinct (types.filter fun t => !t.isEmpty) with
    | [t] => t
    | _ => eligibilityDocumentType
  let title := titleFor (Text.join (Text.ofString ", ") group.criterionNames)
  match group.allowedProofs with
  | [] => .error .missingPosition
  | first :: _ => .ok {
      name := Text.join (Text.ofString "_") group.criterionNames ++ nameSuffix
      title := if type = eligibilityDocumentType then title else title ++ Text.ofString ", " ++ type
      proofs := group.allowedProofs
      proofLabel := Text.join labelSeparator group.allowedProofs
      required := true
      submissionReasons := group.criterionNames
      documentType := type
      documentSubtype? := some first }

end ProofGroup

/-- The fields of a criterion of its own: one for all its proofs. -/
def Criterion.plans (c : Criterion) : List DocumentPlan :=
  match ProofSet.distinct c.allowedProofs with
  | [] => []
  | [proof] => [{
      name := c.name ++ Text.ofString "_" ++ proof ++ ProofGroup.nameSuffix
      title := ProofGroup.titleFor c.name
      proofs := [proof]
      proofLabel := proof
      required := true
      submissionReasons := [c.name]
      documentSubtype? := some proof }]
  | first :: second :: rest => [{
      name := c.name ++ ProofGroup.nameSuffix
      title := ProofGroup.titleFor c.name
      proofs := first :: second :: rest
      proofLabel := Text.join ProofGroup.labelSeparator (first :: second :: rest)
      required := true
      submissionReasons := [c.name]
      documentSubtype? := some first }]

/-- The fields of a group. -/
def ProofGroup.plans (group : ProofGroup) (rules : NormalizedRules) :
    Except Fault (List DocumentPlan) :=
  match group.coverage? rules with
  | some types =>
    if group.criterionNames.isEmpty then .ok (group.criteria.flatMap Criterion.plans)
    else (group.mergedPlan types).map ([·])
  | none => .ok (group.criteria.flatMap Criterion.plans)

namespace DocumentRule

/-- Whether the groups leave no field to a proof: one lists it and none lists it beside others. -/
def isAbsorbed (groups : List ProofGroup) (proof : ProofType) : Bool :=
  (groups.any fun g => g.allowedProofs.contains proof)
    && !(groups.any fun g => 1 < g.allowedProofs.length && g.allowedProofs.contains proof)

/-- The field of one proof of a document rule. -/
def planFor (d : DocumentRule) (proof : ProofType) : DocumentPlan where
  name := proof
  title := ProofGroup.titleFor d.documentType
  proofs := [proof]
  proofLabel := proof
  required := d.isRequired
  submissionReasons := [d.documentType]
  documentType := d.documentType
  documentSubtype? := some proof

/-- The rules with the mandatory ones first, otherwise in feed order. -/
def mandatoryFirst (rules : List DocumentRule) : List DocumentRule :=
  rules.filter (·.isRequired) ++ rules.filter (!·.isRequired)

/-- The fields of document rules beside those of the groups. -/
def plans (rules : List DocumentRule) (groups : List ProofGroup) : List DocumentPlan :=
  (mandatoryFirst rules).flatMap fun d =>
    (d.allowedProofs.filter fun proof => !isAbsorbed groups proof).map d.planFor

end DocumentRule

namespace ProofGroup

/-- The group as a JSON object. -/
def toJson (g : ProofGroup) : Json :=
  Json.record [("allowed_proofs_key", .string g.key),
    ("criterion_names", Json.ofTexts g.criterionNames),
    ("allowed_proofs", Json.ofTexts g.allowedProofs),
    ("criteria", .array (g.criteria.map Criterion.toJson))]

end ProofGroup

/-- The plan as a JSON object. -/
def DocumentPlan.toJson (p : DocumentPlan) : Json :=
  Json.record [("name", .string p.name), ("title", .string p.title),
    ("proofs", Json.ofTexts p.proofs), ("proof_label", .string p.proofLabel),
    ("required", .bool p.required), ("submission_reasons", Json.ofTexts p.submissionReasons),
    ("document_type", .string p.documentType),
    ("document_subtype", Json.ofText? p.documentSubtype?)]

end BenefitForm
