import BenefitForm.Proofs.Refusal

/-!
# Grouped and flat field input

A field mapping is read group by group, but the positions of what it leaves out run
through all groups. It is therefore read as the list of all its entries is, one group
after the other (`FieldInput.placed`), and only the group that a field names differs: in
a mapping it is the one that holds the field, in a list the one that the field declares.

- `FieldInput.readGroups_eq_tagged`: what a mapping is read as, by induction on its
  groups.
- `FieldInput.grouped_agrees`: the fields, the failures and the warnings of both.
-/

namespace BenefitForm

/-- A field in the given group. -/
def DeclaredField.inGroup (name label : Json) (f : DeclaredField) : DeclaredField :=
  { f with groupName := name, groupLabel := label }

/-- An entry of a field mapping, with the name and the label of its group. -/
structure PlacedEntry where
  /-- The entry. -/
  entry : FieldEntry
  /-- The name of the group that holds it. -/
  groupName : Json
  /-- The label of that group. -/
  groupLabel : Json

namespace PlacedEntry

/-- A field as the group of the entry has it. -/
def place (p : PlacedEntry) : DeclaredField → DeclaredField :=
  DeclaredField.inGroup p.groupName p.groupLabel

/-- The field that the entry declares, if it is not refused. -/
def field? (p : PlacedEntry) : Option DeclaredField := p.entry.read.toOption

end PlacedEntry

/-- The entries of a mapping, one group after the other. -/
def FieldInput.placed : List (Json × FieldGroupEntry) → Except Fault (List PlacedEntry)
  | [] => .ok []
  | (name, group) :: rest => do
    let content ← group.contents
    let ps ← placed rest
    return match content with
      | none => ps
      | some (label, entries) => entries.map (⟨·, name, label⟩) ++ ps

namespace FieldReading

variable {place : DeclaredField → DeclaredField}

/-- A reading of entries, with the fields put into the groups of the entries. -/
def tagged (ps : List PlacedEntry) (r : FieldReading) : FieldReading :=
  ⟨List.zipWith (fun p e => e.map p.place) ps r.entries, r.failure?⟩

/-! ### What the groups of the entries leave alone -/

/-- No entry is read twice. -/
theorem length_entries_ofEntries (index : Nat) (entries : List FieldEntry) :
    (ofEntries place index entries).entries.length ≤ entries.length := by
  induction entries generalizing index with
  | nil => exact Nat.le_refl 0
  | cons entry rest ih =>
    rw [ofEntries_cons]
    have hrest := ih (index + 1)
    cases hread : entry.read with
    | ok f => simpa [ofEntry, append, hread] using hrest
    | error e => cases e <;> simp [ofEntry, append, hread, hrest]

/-- Fields may be put into other groups without a change to what is left out. -/
theorem skipped_tagged {ps : List PlacedEntry} {r : FieldReading}
    (h : r.entries.length ≤ ps.length) : (r.tagged ps).skipped = r.skipped := by
  obtain ⟨entries, failure⟩ := r
  show List.filterMap _ (List.zipWith _ ps entries) = List.filterMap _ entries
  induction entries generalizing ps with
  | nil => rw [List.zipWith_nil_right]
  | cons e entries ih =>
    cases ps with
    | nil => exact absurd h (Nat.not_succ_le_zero _)
    | cons p ps =>
      rw [List.zipWith_cons_cons, List.filterMap_cons, List.filterMap_cons,
        ih (Nat.le_of_succ_le_succ h)]
      cases e <;> rfl

/-- The fields of a list that is read to its end, each in the group of its entry. -/
theorem fields_tagged {ps : List PlacedEntry} {index : Nat}
    (h : (ofEntries id index (ps.map (·.entry))).failure? = none) :
    ((ofEntries id index (ps.map (·.entry))).tagged ps).fields
      = ps.filterMap fun p => p.field?.map p.place := by
  induction ps generalizing index with
  | nil => rfl
  | cons p ps ih =>
    rw [List.map_cons, ofEntries_cons] at h ⊢
    obtain ⟨hfirst, hrest⟩ := failure?_append_eq_none.mp h
    rw [fields, tagged, entries_append hfirst, List.filterMap_cons, PlacedEntry.field?, ← ih hrest]
    rw [ofEntry] at hfirst ⊢
    cases hread : p.entry.read with
    | ok f => rfl
    | error e =>
      rw [hread] at hfirst
      cases e with
      | malformedRule reason => rfl
      | _ => cases hfirst

theorem append_assoc (r₁ r₂ r₃ : FieldReading) :
    (r₁.append r₂).append r₃ = r₁.append (r₂.append r₃) := by
  obtain ⟨entries₁, _ | e₁⟩ := r₁
  · obtain ⟨entries₂, _ | e₂⟩ := r₂
    · exact congrArg (FieldReading.mk · _) (List.append_assoc entries₁ entries₂ _)
    · rfl
  · rfl

/-- A group is read as its part of the list of all entries. -/
theorem append_tagged (name label : Json) (index : Nat) (entries : List FieldEntry)
    (ps : List PlacedEntry) :
    (ofEntries (DeclaredField.inGroup name label) index entries).append
        ((ofEntries id (index + entries.length) (ps.map (·.entry))).tagged ps)
      = (ofEntries id index (entries ++ ps.map (·.entry))).tagged
          (entries.map (⟨·, name, label⟩) ++ ps) := by
  induction entries generalizing index with
  | nil => rfl
  | cons entry rest ih =>
    have hindex : index + (entry :: rest).length = index + 1 + rest.length := by
      rw [List.length_cons, Nat.add_right_comm, Nat.add_assoc]
    rw [hindex, ofEntries_cons, append_assoc, ih, List.cons_append, ofEntries_cons]
    -- the first entry ends the reading of both, or they go on in the same way
    cases hread : entry.read with
    | ok f => simp [ofEntry, hread, append, tagged, PlacedEntry.place, Except.map]
    | error e => cases e <;> simp [ofEntry, hread, append, tagged, Except.map]

end FieldReading

/-! ### Both ways to read -/

namespace FieldInput

variable {groups : List (Json × FieldGroupEntry)} {ps : List PlacedEntry}

/-- Where the groups can be gone through, a mapping is read as the list of its entries. -/
theorem readGroups_eq_tagged (h : placed groups = .ok ps) (index : Nat) :
    readGroups index groups
      = (FieldReading.ofEntries id index (ps.map (·.entry))).tagged ps := by
  induction groups generalizing ps index with
  | nil =>
    cases h
    rfl
  | cons m rest ih =>
    obtain ⟨name, group⟩ := m
    obtain ⟨content, hcontent, h⟩ := bind_eq_ok_iff.mp h
    obtain ⟨qs, hqs, h⟩ := bind_eq_ok_iff.mp h
    rw [readGroups, hcontent]
    cases content with
    | none =>
      cases h
      exact ih hqs index
    | some c =>
      cases h
      have hentries : (c.2.map (PlacedEntry.mk · name c.1)).map (·.entry) = c.2 := by
        rw [List.map_map]
        exact List.map_id c.2
      rw [List.map_append, hentries]
      show FieldReading.append _ (readGroups _ rest) = _
      rw [ih hqs]
      exact FieldReading.append_tagged name c.1 index c.2 qs

/-- A mapping that is read to its end has groups that can be gone through. -/
theorem exists_placed {index : Nat} (h : (readGroups index groups).failure? = none) :
    ∃ ps, placed groups = .ok ps := by
  induction groups generalizing index with
  | nil => exact ⟨[], rfl⟩
  | cons m rest ih =>
    obtain ⟨name, group⟩ := m
    rw [readGroups] at h
    cases hcontent : group.contents with
    | error e =>
      rw [hcontent] at h
      cases h
    | ok content =>
      rw [hcontent] at h
      cases content with
      | none =>
        obtain ⟨qs, hqs⟩ := ih h
        exact ⟨qs, by rw [placed, hcontent, ok_bind, hqs, ok_bind]; rfl⟩
      | some c =>
        obtain ⟨qs, hqs⟩ := ih (FieldReading.failure?_append_eq_none.mp h).2
        exact ⟨_, by rw [placed, hcontent, ok_bind, hqs, ok_bind]; rfl⟩

/-- A mapping and the list of its entries are read alike. -/
structure Agrees (ps : List PlacedEntry) (grouped flat : FieldReading) : Prop where
  /-- Both are read to the end, or the same failure ends both. -/
  failure : grouped.failure? = flat.failure?
  /-- Until then each entry is read alike, up to the group of its field. -/
  entries : grouped.entries = List.zipWith (fun p e => e.map p.place) ps flat.entries
  /-- The same entries are left out for the same reasons, at the same positions. -/
  warnings : grouped.warnings = flat.warnings
  /-- The log says so in the same words. -/
  records : grouped.records = flat.records
  /-- Where both are read to the end, the positions are those among all entries. -/
  positions : flat.failure? = none → flat.skipped
    = ps.zipIdx.filterMap fun e => (refusal? e.1.entry.read).map (·, e.2)
  /-- The list then holds the fields as the entries declare them, -/
  declared : flat.failure? = none → flat.fields = ps.filterMap PlacedEntry.field?
  /-- and the mapping holds the same fields, each in the group of its entry. -/
  placed : flat.failure? = none → grouped.fields = ps.filterMap fun p => p.field?.map p.place

/-- Every field mapping that is read to its end, and every one whose groups can be gone through, is
read as the list of its entries, but for the groups of the fields. -/
theorem grouped_agrees (groups : List (Json × FieldGroupEntry)) :
    ((grouped groups).read.failure? = none → ∃ ps, placed groups = .ok ps) ∧
      ∀ ps, placed groups = .ok ps →
        Agrees ps (grouped groups).read (flat (ps.map (·.entry))).read := by
  refine ⟨exists_placed, fun ps hps => ?_⟩
  have hread : (grouped groups).read = (flat (ps.map (·.entry))).read.tagged ps :=
    readGroups_eq_tagged hps 0
  have hskipped : (grouped groups).read.skipped = (flat (ps.map (·.entry))).read.skipped := by
    rw [hread]
    exact FieldReading.skipped_tagged
      ((FieldReading.length_entries_ofEntries 0 _).trans_eq (List.length_map _))
  constructor
  case failure => rw [hread, FieldReading.tagged]
  case entries => rw [hread, FieldReading.tagged]
  case warnings => rw [FieldReading.warnings, FieldReading.warnings, hskipped]
  case records => rw [FieldReading.records, FieldReading.records, hskipped]
  case positions =>
    intro hend
    rw [read, FieldReading.skipped_ofEntries hend, List.zipIdx_map, List.filterMap_map]
    rfl
  case declared =>
    intro hend
    rw [read, FieldReading.fields_ofEntries hend, List.filterMap_map, List.map_id]
    rfl
  case placed =>
    intro hend
    rw [hread]
    exact FieldReading.fields_tagged hend

/-- Groups with a field that names another group, an empty group, a value that is no group, and
entries that are refused before and after them. -/
def unevenGroups : List (Json × FieldGroupEntry) :=
  [(Json.text "a", .record (Json.record [("label", Json.text "A"),
      ("fields", .array [.null, Json.record [("name", Json.text "x"),
        ("groupName", Json.text "other")]])])),
    (Json.text "b", .record (Json.record [])),
    (Json.text "c", .record (Json.text "none")),
    (Json.text "d", .group (Json.text "D") [.record (Json.record []),
      .declared { name := Text.ofString "y" }])]

theorem grouped_agrees_of_uneven :
    ∃ ps, placed unevenGroups = .ok ps ∧ (grouped unevenGroups).read.failure? = none ∧
      Agrees ps (grouped unevenGroups).read (flat (ps.map (·.entry))).read := by
  have hend : (grouped unevenGroups).read.failure? = none := by decide +kernel
  obtain ⟨ps, hps⟩ := (grouped_agrees unevenGroups).1 hend
  exact ⟨ps, hps, hend, (grouped_agrees unevenGroups).2 ps hps⟩

/-- The refused entries are the first and the third of all four. -/
example : (grouped unevenGroups).read.skipped.map Prod.snd = [0, 2] := by decide +kernel

end FieldInput

end BenefitForm
