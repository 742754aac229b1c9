import BenefitForm.Proofs.Validation
import BenefitForm.Proofs.Writable

/-!
# Findings that can be put into words

The message about a finding shows the value and what the schema says about it, and
either may hold a whole number with too many digits. Where the schema and the value
can be written there is no such number in them, nor in any of the findings, so each
of these has its message. A message fails for no other reason.

- `Json.areWritable_findingsAt`: the findings about a part of a value, by recursion
  over the schema with one step for each kind of keyword.
- `exists_sortedReports`: all findings are put into words.
- `Report.ofFinding_eq_error`: the one fault of putting a finding into words.
-/

namespace BenefitForm

/-- Whether the values of entries can be written. -/
def Entries.AreWritable (entries : Entries) : Prop := ∀ e ∈ entries, e.2.isWritable = true

theorem Entries.AreWritable.of_get? {entries : Entries} (h : entries.AreWritable) {k : Key}
    {v : Json} (hv : Members.get? entries k = some v) : v.isWritable = true := by
  induction entries with
  | nil => cases hv
  | cons e entries ih =>
    obtain ⟨he, hrest⟩ := List.forall_mem_cons.mp h
    rw [Members.get?_cons] at hv
    split at hv
    · cases hv
      exact he
    · exact ih hrest hv

/-- Whether a subject can be written. -/
def Subject.IsWritable : Subject → Prop
  | .json v => v.isWritable = true
  | .keyed entries => entries.AreWritable

namespace Subject

/-- The values that a subject has can be written where the subject can. -/
theorem areWritable_entries {s : Subject} (h : s.IsWritable) {entries : Entries}
    (hs : s.entries? = some entries) : entries.AreWritable := by
  cases s with
  | keyed _ =>
    cases hs
    exact h
  | json v =>
    cases v with
    | object members =>
      cases hs
      intro e he
      obtain ⟨m, hm, rfl⟩ := List.mem_map.mp he
      exact Json.isWritable_object.mp h m hm
    | _ => cases hs

/-- A subject that can be written has a display form. -/
theorem exists_display {s : Subject} (h : s.IsWritable) : ∃ t, s.display = .ok t := by
  cases s with
  | json v => exact Json.exists_display v h
  | keyed entries =>
    have hshown : ∃ shown, (entries.mapM fun e => do
        let value ← e.2.display
        return e.1.display ++ Text.ofString ": " ++ value : Except Fault (List Text)) = .ok shown :=
      exists_mapM_eq_ok fun e he =>
        exists_bind_eq_ok (Json.exists_display e.2 (h e he)) fun _ _ => ⟨_, rfl⟩
    exact exists_bind_eq_ok hshown fun _ _ => ⟨_, rfl⟩

end Subject

namespace Violation

/-- Whether what a violation shows can be written. -/
def IsWritable : Violation → Prop
  | .refused v => v.IsWritable
  | .type v types => v.IsWritable ∧ (Json.array types).isWritable = true
  | .unlisted v allowed => v.IsWritable ∧ (Json.array allowed).isWritable = true
  | .constant expected => expected.isWritable = true
  | .tooSmall v bound | .tooGreat v bound => v.isWritable = true ∧ bound.isWritable = true
  | .pattern _ _ | .tooShort _ _ | .tooLong _ _ | .missing _ | .unexpected _ => True

/-- A violation that can be written has a message. -/
theorem exists_message {violation : Violation} (h : violation.IsWritable) :
    ∃ t, violation.message = .ok t := by
  cases violation with
  | refused v => exact exists_bind_eq_ok (Subject.exists_display h) fun _ _ => ⟨_, rfl⟩
  | type v types =>
    exact exists_bind_eq_ok (Subject.exists_display h.1) fun _ _ =>
      exists_bind_eq_ok (Json.exists_displayItems types h.2) fun _ _ => ⟨_, rfl⟩
  | unlisted v allowed =>
    exact exists_bind_eq_ok (Subject.exists_display h.1) fun _ _ =>
      exists_bind_eq_ok (Json.exists_display (.array allowed) h.2) fun _ _ => ⟨_, rfl⟩
  | constant expected => exact exists_bind_eq_ok (Json.exists_display _ h) fun _ _ => ⟨_, rfl⟩
  | tooSmall v bound | tooGreat v bound =>
    exact exists_bind_eq_ok (Json.exists_display v h.1) fun _ _ =>
      exists_bind_eq_ok (Json.exists_display bound h.2) fun _ _ => ⟨_, rfl⟩
  | _ => exact ⟨_, rfl⟩

end Violation

namespace Json

theorem isWritable_namedTypes {argument : Json} (ha : argument.isWritable = true) :
    (array (namedTypes argument)).isWritable = true := by
  cases argument with
  | array types => exact ha
  | _ => exact isWritable_array.mpr fun v hv => List.mem_singleton.mp hv ▸ ha

theorem isWritable_listed {argument : Json} (ha : argument.isWritable = true) :
    (array (argument.asArray?.getD [])).isWritable = true := by
  cases argument with
  | array items => exact ha
  | _ => rfl

/-- What a plain keyword does not allow shows its argument and the value alone. -/
theorem isWritable_violations {argument : Json} (ha : argument.isWritable = true) {s : Subject}
    (hs : s.IsWritable) (k : Assertion) :
    ∀ violation ∈ violations k argument s, violation.IsWritable := by
  intro violation hv
  cases mem_violations_iff.mp hv with
  | type => exact ⟨hs, isWritable_namedTypes ha⟩
  | enum => exact ⟨hs, isWritable_listed ha⟩
  | const => exact ha
  | minimum => exact ⟨hs, ha⟩
  | maximum => exact ⟨hs, ha⟩
  | pattern | minLength | maxLength | required => trivial

/-- The items of a list stand at its positions. -/
theorem mem_of_mem_positioned {n : Nat} {items : List Json} {i : Text × Json}
    (h : i ∈ positioned n items) : i.2 ∈ items := by
  induction items generalizing n with
  | nil => cases h
  | cons v items ih =>
    rcases List.mem_cons.mp h with rfl | hrest
    · exact List.mem_cons_self
    · exact List.mem_cons_of_mem v (ih hrest)

/-- Whether all that findings show can be written. -/
def AreWritable (findings : List Finding) : Prop := ∀ f ∈ findings, f.violation.IsWritable

theorem AreWritable.append {fs gs : List Finding} (hf : AreWritable fs) (hg : AreWritable gs) :
    AreWritable (fs ++ gs) := List.forall_mem_append.mpr ⟨hf, hg⟩

theorem AreWritable.flatMap {α : Type} {xs : List α} {fs : α → List Finding}
    (h : ∀ x ∈ xs, AreWritable (fs x)) : AreWritable (xs.flatMap fs) := by
  intro f hf
  obtain ⟨x, hx, hfx⟩ := List.mem_flatMap.mp hf
  exact h x hx f hfx

/-- The findings of one keyword can be written where those of the schemas in its argument can. -/
theorem areWritable_argumentFindings {siblings : Members} {name : Text} {argument : Json}
    (ha : argument.isWritable = true) {s : Subject} (hs : s.IsWritable)
    (hat : ∀ step v, v.isWritable = true → AreWritable (findingsAt argument step v))
    (hproperties : ∀ schemas ∈ argument.asObject?, ∀ entries : Entries, entries.AreWritable →
      AreWritable (propertyFindings schemas entries))
    (hleading : ∀ schemas ∈ argument.asArray?, ∀ items : List (Text × Json),
      (∀ i ∈ items, i.2.isWritable = true) → AreWritable (leadingFindings schemas items)) :
    AreWritable (argumentFindings siblings name argument s) := by
  unfold argumentFindings
  -- no keyword, the keywords of properties, of items and of further members, and the plain ones
  split
  case h_1 => nofun
  case h_2 =>
    split
    · rename_i schemas entries hentries
      exact hproperties schemas rfl entries (Subject.areWritable_entries hs hentries)
    · nofun
  case h_3 =>
    split
    · rename_i items
      have hitems : ∀ i ∈ positioned 0 items, i.2.isWritable = true :=
        fun i hi => isWritable_array.mp hs i.2 (mem_of_mem_positioned hi)
      -- the schemas for the first items, then the one for all
      refine AreWritable.append ?_ (.flatMap fun i hi => hat i.1 i.2 (hitems i hi))
      split
      · exact hleading _ rfl _ hitems
      · nofun
    · nofun
  case h_4 =>
    split
    · rename_i entries hentries
      -- what is not declared is among the entries
      have hextras : (undeclared siblings entries).AreWritable := by
        have hall := Subject.areWritable_entries hs hentries
        unfold undeclared
        split
        · exact fun e he => hall e (List.mem_of_mem_filter he)
        · exact hall
      split
      · dsimp only
        split
        · nofun
        · intro f hf
          rw [List.mem_singleton.mp hf]
          trivial
      · exact .flatMap fun e he => hat _ _ (hextras e he)
    · nofun
  case h_5 =>
    intro f hf
    obtain ⟨violation, hviolation, rfl⟩ := List.mem_map.mp hf
    exact isWritable_violations ha hs _ violation hviolation

theorem keywordFindings_cons (siblings : Members) (m : Text × Json) (rest : Members) (s : Subject) :
    keywordFindings siblings (m :: rest) s
      = argumentFindings siblings m.1 m.2 s ++ keywordFindings siblings rest s := by
  rw [keywordFindings_eq_flatMap, List.flatMap_cons, ← keywordFindings_eq_flatMap]

mutual

/-- The findings about a part of a value can be written where the schema and the part can. -/
theorem areWritable_findingsAt : ∀ (schema : Json) (step : Text) (v : Json),
    schema.isWritable = true → v.isWritable = true → AreWritable (findingsAt schema step v)
  | .bool true, _, _ => nofun
  | .bool false, _, v => fun _ hv f hf => by
    rw [List.mem_singleton.mp hf]
    exact hv
  | .object keywords, step, v => fun h hv f hf => by
    obtain ⟨g, hg, rfl⟩ := List.mem_map.mp hf
    exact areWritable_keywordFindings keywords keywords (.json v) h hv g hg
  | .null, _, _ | .int _, _, _ | .float _, _, _ | .string _, _, _ | .array _, _, _ =>
    fun _ _ _ hf => absurd hf List.not_mem_nil

theorem areWritable_keywordFindings (siblings : Members) : ∀ (keywords : List (Text × Json))
    (s : Subject), membersWritable keywords = true → s.IsWritable →
    AreWritable (keywordFindings siblings keywords s)
  | [], _ => nofun
  | (name, argument) :: rest, s => fun h hs => by
    obtain ⟨ha, hrest⟩ := Bool.and_eq_true_iff.mp h
    rw [keywordFindings_cons]
    refine AreWritable.append ?_ (areWritable_keywordFindings siblings rest s hrest hs)
    refine areWritable_argumentFindings ha hs
      (fun step v => areWritable_findingsAt argument step v ha) ?_ ?_
    · cases argument with
      | object schemas =>
        rintro _ ⟨⟩ entries
        exact areWritable_propertyFindings schemas entries ha
      | _ => nofun
    · cases argument with
      | array schemas =>
        rintro _ ⟨⟩ items
        exact areWritable_leadingFindings schemas items ha
      | _ => nofun

theorem areWritable_propertyFindings : ∀ (schemas : List (Text × Json)) (entries : Entries),
    membersWritable schemas = true → entries.AreWritable →
    AreWritable (propertyFindings schemas entries)
  | [], _ => nofun
  | (name, schema) :: rest, entries => fun h hs => by
    obtain ⟨hschema, hrest⟩ := Bool.and_eq_true_iff.mp h
    rw [propertyFindings]
    refine AreWritable.append ?_ (areWritable_propertyFindings rest entries hrest hs)
    cases hv : Members.get? entries (.text name) with
    | none => nofun
    | some v => exact areWritable_findingsAt schema name v hschema (hs.of_get? hv)

theorem areWritable_leadingFindings : ∀ (schemas : List Json) (items : List (Text × Json)),
    areWritable schemas = true → (∀ i ∈ items, i.2.isWritable = true) →
    AreWritable (leadingFindings schemas items)
  | [], _ => nofun
  | _ :: _, [] => nofun
  | schema :: schemas, (step, v) :: rest => fun h hi => by
    obtain ⟨hschema, hschemas⟩ := Bool.and_eq_true_iff.mp h
    obtain ⟨hv, hrest⟩ := List.forall_mem_cons.mp hi
    rw [leadingFindings]
    exact (areWritable_findingsAt schema step v hschema hv).append
      (areWritable_leadingFindings schemas rest hschemas hrest)

end

end Json

/-- Findings that can be written are all put into words. -/
theorem exists_sortedReports_of_areWritable {schema : Json} {s : Subject}
    (h : Json.AreWritable (schema.findings s)) :
    ∃ sorted, sortedReports schema s = .ok sorted := by
  have hreports : ∃ reports, (schema.findings s).mapM Report.ofFinding = .ok reports :=
    exists_mapM_eq_ok fun f hf =>
      exists_bind_eq_ok (Violation.exists_message (h f hf)) fun _ _ => ⟨_, rfl⟩
  exact exists_bind_eq_ok hreports fun _ _ => ⟨_, rfl⟩

/-- Whether a number with too many digits is all that a step can fail on. -/
def FailsOnDigits {α : Type} (r : Except Fault α) : Prop := ∀ e, r = .error e → e = .invalidValue

namespace FailsOnDigits

variable {α β : Type}

theorem ok (a : α) : FailsOnDigits (.ok a) := nofun

theorem bind {r : Except Fault α} {f : α → Except Fault β} (hr : FailsOnDigits r)
    (hf : ∀ a, FailsOnDigits (f a)) : FailsOnDigits (r >>= f) := by
  intro e h
  rcases bind_eq_error_iff.mp h with hr' | ⟨a, -, ha⟩
  · exact hr e hr'
  · exact hf a e ha

theorem mapM {f : α → Except Fault β} {xs : List α} (h : ∀ x ∈ xs, FailsOnDigits (f x)) :
    FailsOnDigits (xs.mapM f) := by
  intro e he
  obtain ⟨x, hx, hfx⟩ := exists_of_mapM_eq_error he
  exact h x hx e hfx

end FailsOnDigits

namespace Json

theorem failsOnDigits_ofBoundedInt (n : Int) : FailsOnDigits (Text.ofBoundedInt n) := by
  intro e h
  rw [Text.ofBoundedInt] at h
  split at h
  · cases h
  · cases h
    rfl

mutual

/-- A value has no display form for one reason only, a number with too many digits. -/
theorem failsOnDigits_display : ∀ v : Json, FailsOnDigits v.display
  | .null | .bool _ | .float _ | .string _ => nofun
  | .int n => failsOnDigits_ofBoundedInt n
  | .array items => by
    rw [display]
    exact (failsOnDigits_displayItems items).bind fun _ => .ok _
  | .object members => by
    rw [display]
    exact (failsOnDigits_displayMembers members).bind fun _ => .ok _

theorem failsOnDigits_displayItems : ∀ items : List Json, FailsOnDigits (displayItems items)
  | [] => nofun
  | v :: rest => by
    rw [displayItems]
    exact (failsOnDigits_display v).bind fun _ =>
      (failsOnDigits_displayItems rest).bind fun _ => .ok _

theorem failsOnDigits_displayMembers : ∀ members : List (Text × Json),
    FailsOnDigits (displayMembers members)
  | [] => nofun
  | (_, v) :: rest => by
    rw [displayMembers]
    exact (failsOnDigits_display v).bind fun _ =>
      (failsOnDigits_displayMembers rest).bind fun _ => .ok _

end

end Json

theorem Subject.failsOnDigits_display (s : Subject) : FailsOnDigits s.display := by
  cases s with
  | json v => exact Json.failsOnDigits_display v
  | keyed entries =>
    exact (FailsOnDigits.mapM fun e _ => (Json.failsOnDigits_display e.2).bind fun _ => .ok _).bind
      fun _ => .ok _

/-- The message about a violation is not there for that reason only. -/
theorem Violation.failsOnDigits_message (violation : Violation) :
    FailsOnDigits violation.message := by
  cases violation with
  | refused v => exact v.failsOnDigits_display.bind fun _ => .ok _
  | type v types =>
    exact v.failsOnDigits_display.bind fun _ =>
      (Json.failsOnDigits_displayItems types).bind fun _ => .ok _
  | unlisted v allowed =>
    exact v.failsOnDigits_display.bind fun _ =>
      (Json.failsOnDigits_display (.array allowed)).bind fun _ => .ok _
  | constant expected => exact (Json.failsOnDigits_display expected).bind fun _ => .ok _
  | tooSmall v bound | tooGreat v bound =>
    exact (Json.failsOnDigits_display v).bind fun _ =>
      (Json.failsOnDigits_display bound).bind fun _ => .ok _
  | _ => exact .ok _

/-- The one fault of putting a finding into words. -/
theorem Report.ofFinding_eq_error {f : Finding} {e : Fault} (h : ofFinding f = .error e) :
    e = .invalidValue :=
  f.violation.failsOnDigits_message.bind (fun _ => .ok _) e h

end BenefitForm
