import BenefitForm.Json.Equal
import BenefitForm.Json.Items
import BenefitForm.Json.Writer
import BenefitForm.Rule

/-!
# Proof sets

Two lists of proofs accept the same documents when they list the same proofs, in
any order and with any repeats. `ProofSet.key` writes a list's proofs once each
and in order, as a JSON list, so equal sets have equal keys. `ProofSet.keyOf`
does so for the items of any value that has items.
-/

namespace BenefitForm

namespace ProofSet

/-- The first occurrence of each element. -/
def distinct {α : Type} [BEq α] (xs : List α) : List α :=
  xs.foldl (fun seen x => if seen.contains x then seen else seen ++ [x]) []

/-- The written form of texts in a JSON list. -/
def written (proofs : List Text) : Text :=
  Json.layOut .ascii 0 '[' ']' (proofs.map (Json.writeString true))

/-- The key of a list of proofs: each once, in order, as a JSON list. -/
def key (proofs : List ProofType) : Text :=
  written ((distinct proofs).mergeSort Text.le)

/-- Whether numbers are in order; used where every item is a number. -/
def numberLe (a b : Json) : Bool :=
  match a.number?, b.number? with
  | some m, some n => m.compare? n != some .gt
  | _, _ => true

/-- The items in order: texts with texts or numbers with numbers. -/
def sorted (items : List Json) : Except Fault (List Json) :=
  if items.length ≤ 1 then .ok items
  else match items.mapM Json.asText? with
    | some texts => .ok ((texts.mergeSort Text.le).map .string)
    | none =>
      if items.all fun v => v.number?.isSome then .ok (items.mergeSort numberLe)
      else .error .wrongKind

/-- The key of the items of a value. -/
def keyOf (v : Json) : Except Fault Text := do
  let items ← v.iterate
  if items.all Json.canBeKey then
    let items ← sorted (distinct items)
    Json.write .ascii (.array items)
  else throw .wrongKind

end ProofSet

end BenefitForm
