import BenefitForm.Rule
import BenefitForm.Warning

/-!
# Rule feeds

`RuleFeed.normalize` splits a feed into criteria and document rules and records,
for every proof, the type of the first document rule that lists it, apart for
mandatory and for optional rules. An entry that is no rule is left out with a
warning; the others are not disturbed by it.

- `NormalizedRules.documentType?`: the type of document that backs a proof,
  optional rules first.
-/

namespace BenefitForm

/-- For each proof the document type that backs it. -/
abbrev ProofIndex := List (ProofType × Text)

/-- Record the type of a document rule for its proofs; a proof keeps the type it has. -/
def ProofIndex.addRule (index : ProofIndex) (d : DocumentRule) : ProofIndex :=
  d.allowedProofs.foldl (fun index proof =>
    if Members.contains index proof then index else index ++ [(proof, d.documentType)]) index

/-- A rule feed, split and indexed. -/
structure NormalizedRules where
  /-- The criteria, in feed order. -/
  criteria : List Criterion := []
  /-- The document rules, in feed order. -/
  documentRules : List DocumentRule := []
  /-- The document types of the mandatory rules. -/
  mandatory : ProofIndex := []
  /-- The document types of the optional rules. -/
  optional : ProofIndex := []
  /-- What was left out. -/
  warnings : List CompilationWarning := []

namespace NormalizedRules

/-- The type of document that backs a proof: of an optional rule if one lists the proof, of a
mandatory one otherwise. -/
def documentType? (rules : NormalizedRules) (proof : ProofType) : Option Text :=
  match Members.get? rules.optional proof with
  | some type => some type
  | none => Members.get? rules.mandatory proof

/-- Whether some document rule lists the proof. -/
def isBacked (rules : NormalizedRules) (proof : ProofType) : Bool :=
  Members.contains rules.optional proof || Members.contains rules.mandatory proof

/-- Add a rule at the end. -/
def addRule (rules : NormalizedRules) : Rule → NormalizedRules
  | .criterion c => { rules with criteria := rules.criteria ++ [c] }
  | .document d =>
    let rules := { rules with documentRules := rules.documentRules ++ [d] }
    if d.isRequired then { rules with mandatory := rules.mandatory.addRule d }
    else { rules with optional := rules.optional.addRule d }

/-- Record what was left out. -/
def warn (rules : NormalizedRules) (w : CompilationWarning) : NormalizedRules :=
  { rules with warnings := rules.warnings ++ [w] }

end NormalizedRules

namespace RuleFeed

/-- The warning about an entry that is no rule. -/
def skipped (index : Nat) (reason : Text) : CompilationWarning where
  code := .malformedRule
  message := Text.ofString "Skipped malformed rule at index " ++ Text.ofNat index
    ++ Text.ofString ": " ++ reason
  index? := some index

/-- The warning about a feed that is no list. -/
def notAList (feed : Json) : CompilationWarning where
  code := .malformedRule
  message := Text.ofString "Rule feed is not a list: " ++ Text.ofString feed.typeName
  index? := none

/-- The log record of a warning about the feed. -/
def recordOf (w : CompilationWarning) : LogRecord := .plain .warning .rules w.message

/-- The log record that sums up a feed. -/
def summary (rules : NormalizedRules) : LogRecord :=
  .plain .debug .rules (Text.ofString "normalized rules criteria="
    ++ Text.ofNat rules.criteria.length ++ Text.ofString " required_docs="
    ++ Text.ofNat rules.documentRules.length ++ Text.ofString " skipped="
    ++ Text.ofNat rules.warnings.length)

/-- Add the entries of a feed, of which the first has the position `index`. -/
def addEntries (rules : NormalizedRules) (index : Nat) : List Json → Trace NormalizedRules
  | [] => pure rules
  | entry :: rest =>
    match Rule.ofJson entry with
    | .ok rule => addEntries (rules.addRule rule) (index + 1) rest
    | .error (.malformedRule reason) => do
      let w := skipped index reason
      Trace.note (recordOf w)
      addEntries (rules.warn w) (index + 1) rest
    -- only what is malformed is left out; any other fault ends the reading
    | .error e => Trace.ofExcept (.error e)

/-- Split and index a rule feed. A feed that is no list has no rules. -/
def normalize : Json → Trace NormalizedRules
  | .array entries => do
    let rules ← addEntries {} 0 entries
    Trace.note (summary rules)
    return rules
  | .null => pure {}
  | feed => do
    let w := notAList feed
    Trace.note (recordOf w)
    return NormalizedRules.warn {} w

end RuleFeed

end BenefitForm
