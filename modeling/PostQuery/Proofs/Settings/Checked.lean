import PostQuery.Proofs.Settings.Keys
import PostQuery.Settings.Environment
import PostQuery.Settings.File

/-!
# What settings have passed

All settings pass the same checks, wherever they come from: the term field is one of four texts,
both entity names count as true, and they are found to differ. The first check that fails is
reported, and of the three only the last one compares two values that may be anything; so it alone
can be an error that is no refusal.
-/

namespace PostQuery

namespace Settings

/-- The settings pass the checks. -/
structure IsSound (s : Settings) : Prop where
  termField : ∃ t ∈ termFields, s.termField = .text t
  metaEntity : s.metaEntity.truthy = true
  taxonomyEntity : s.taxonomyEntity.truthy = true
  differ : s.metaEntity.equal s.taxonomyEntity = .ok false

theorem any_termFields {v : Value} :
    (termFields.any fun name => v.eqv (.text name)) = true ↔ ∃ t ∈ termFields, v = .text t := by
  simp only [List.any_eq_true, Value.eqv_isText, Value.isText_iff]

/-- Settings pass the checks, they are refused, or their entity names cannot be compared, which is
tried only if nothing else is wrong with them. -/
theorem checked_cases (s : Settings) :
    (s.checked = .ok s ∧ s.IsSound)
      ∨ (∃ f, s.checked = .error f ∧ (FileFault.settings f).kind? = none)
      ∨ ∃ m, s.checked = .error (.misuse m) ∧ s.metaEntity.equal s.taxonomyEntity = .error m
          ∧ (∃ t ∈ termFields, s.termField = .text t) ∧ s.metaEntity.truthy = true
          ∧ s.taxonomyEntity.truthy = true := by
  rw [checked]
  split
  · exact .inr (.inl ⟨_, rfl, rfl⟩)
  · next hfield =>
      rw [Bool.not_eq_true, Bool.not_eq_false'] at hfield
      split
      · exact .inr (.inl ⟨_, rfl, rfl⟩)
      · next hentities =>
          rw [Bool.not_eq_true, Bool.or_eq_false_iff, Bool.not_eq_false', Bool.not_eq_false']
            at hentities
          obtain ⟨hmeta, htaxonomy⟩ := hentities
          split
          · next m hm => exact .inr (.inr ⟨m, rfl, hm, any_termFields.1 hfield, hmeta, htaxonomy⟩)
          · exact .inr (.inl ⟨_, rfl, rfl⟩)
          · next hdiffer =>
              exact .inl ⟨rfl, any_termFields.1 hfield, hmeta, htaxonomy, hdiffer⟩

theorem checked_of_isSound {s : Settings} (h : s.IsSound) : s.checked = .ok s := by
  rw [checked, any_termFields.2 h.termField, h.metaEntity, h.taxonomyEntity, h.differ]
  rfl

theorem checked_eq_ok {s s' : Settings} : s.checked = .ok s' ↔ s' = s ∧ s.IsSound := by
  constructor
  · intro h
    obtain ⟨hok, hsound⟩ | ⟨f, hf, -⟩ | ⟨m, hm, -⟩ := checked_cases s
    · rw [hok] at h
      cases h
      exact ⟨rfl, hsound⟩
    · rw [hf] at h
      cases h
    · rw [hm] at h
      cases h
  · rintro ⟨rfl, h⟩
    exact checked_of_isSound h

/-- The settings that a dictionary names, over the defaults and before they are checked. -/
def named (d : Dict) : Settings where
  metaEntity := (d.get? (.text "meta_entity")).getD (.text "meta")
  taxonomyEntity := (d.get? (.text "tax_entity")).getD (.text "tax")
  termField := (d.get? (.text "default_tax_field")).getD (.text "slug")
  explicitDefaults := (d.get? (.text "explicit_defaults")).getD (.bool false)

/-- All keys of the dictionary name settings. -/
def isKnownDict (d : Dict) : Bool := (d.map Prod.fst).all isKnown

theorem isKnownDict_iff {d : Dict} :
    isKnownDict d = true ↔ ∀ k ∈ d.map Prod.fst, isKnown k = true := List.all_eq_true

theorem ofDict_of_isKnownDict {d : Dict} (h : isKnownDict d = true) :
    ofDict d = (named d).checked := by
  rw [ofDict, unknownKeys_eq_nil.2 (isKnownDict_iff.1 h)]
  rfl

theorem ofDict_of_unknown {d : Dict} (h : isKnownDict d = false) :
    ofDict d = .error (unknownFault (unknownKeys d)) := by
  rw [ofDict]
  split
  · next hnil =>
      rw [isKnownDict_iff.2 (unknownKeys_eq_nil.1 hnil)] at h
      cases h
  · rfl

theorem ofDict_eq_ok {d : Dict} {s : Settings} :
    ofDict d = .ok s ↔ isKnownDict d = true ∧ s = named d ∧ s.IsSound := by
  cases h : isKnownDict d with
  | true =>
      rw [ofDict_of_isKnownDict h, checked_eq_ok]
      constructor
      · rintro ⟨rfl, hsound⟩
        exact ⟨rfl, rfl, hsound⟩
      · rintro ⟨-, rfl, hsound⟩
        exact ⟨rfl, hsound⟩
  | false =>
      rw [ofDict_of_unknown h]
      simp

/-- The entries of a document's section on settings, if it has a place for them; a section that is
missing or counts as false has none. -/
def documentSection? (d : Document) : Option Dict :=
  (d.entries? d.root).bind fun entries =>
    let builder? := (entries.find? fun e => e.1.eqv (.text "builder")).map Prod.snd
    ((builder?.map d.entries?).getD (some [])).map fun named =>
      named.map fun e => (e.1, d.value e.2)

theorem documentSection?_of_entries? {d : Document}
    {entries named : List (Value × NodeId)} {id : NodeId}
    (hroot : d.entries? d.root = some entries)
    (hbuilder : (entries.find? fun e => e.1.eqv (.text "builder")).map Prod.snd = some id)
    (hnamed : d.entries? id = some named) :
    documentSection? d = some (named.map fun e => (e.1, d.value e.2)) := by
  rw [documentSection?, hroot, Option.bind_some, hbuilder]
  simp only [Option.map_some, hnamed, Option.getD_some]

theorem ofDocument_of_section {d : Document} {entries : Dict}
    (h : documentSection? d = some entries) :
    ofDocument d = (ofDict (({} : Settings).toDict.update entries)).mapError .settings := by
  obtain ⟨all, hall, h⟩ := Option.bind_eq_some_iff.1 h
  obtain ⟨named, hnamed, rfl⟩ := Option.map_eq_some_iff.1 h
  rw [ofDocument, hall]
  simp only [hnamed]

theorem ofDocument_of_no_section {d : Document} (h : documentSection? d = none) :
    ∃ f, ofDocument d = .error f ∧ f.kind? = none := by
  rw [ofDocument]
  split
  · exact ⟨_, rfl, rfl⟩
  · next entries hentries =>
      simp only []
      split
      · exact ⟨_, rfl, rfl⟩
      · next named hnamed =>
          rw [documentSection?, hentries, Option.bind_some] at h
          simp only [hnamed] at h
          cases h

end Settings

end PostQuery
