import PostQuery.Proofs.Settings.File
import PostQuery.Settings.Environment

/-!
# The kinds of settings

Settings are meant to be of certain kinds: two different names, a term field and a flag. The term
field is one of four texts wherever it is handed out, since it is compared with them. Nothing else
is asked about kinds. An entity name has to count as true, and a number or a list may; the flag may
be anything. What stands there was given so, and with texts and a flag given all kinds are right. An
environment cannot give anything else.

What comes from a document is handed out spelled out. Of data that changes nothing, but a setting
that holds itself passes the checks and is not handed out.
-/

namespace PostQuery

namespace Value

/-- The value is a truth value. -/
def isFlag : Value → Bool
  | .bool _ => true
  | _ => false

end Value

namespace Settings

/-- Every setting is of the kind it is meant to be of. -/
structure IsWellTyped (s : Settings) : Prop where
  metaEntity : ∃ t, t ≠ "" ∧ s.metaEntity = .text t
  taxonomyEntity : ∃ t, t ≠ "" ∧ s.taxonomyEntity = .text t
  differ : s.metaEntity ≠ s.taxonomyEntity
  termField : ∃ t ∈ termFields, s.termField = .text t
  explicitDefaults : ∃ b, s.explicitDefaults = .bool b

theorem exists_nonempty_text {v : Value} (htext : v.isTextual = true) (h : v.truthy = true) :
    ∃ t, t ≠ "" ∧ v = .text t := by
  obtain ⟨t, rfl⟩ := Value.exists_text_of_isTextual htext
  exact ⟨t, bne_iff_ne.1 h, rfl⟩

/-- The entity names are texts, and the flag is one. -/
structure HasKinds (s : Settings) : Prop where
  metaEntity : s.metaEntity.isTextual = true
  taxonomyEntity : s.taxonomyEntity.isTextual = true
  explicitDefaults : s.explicitDefaults.isFlag = true

theorem IsWellTyped.hasKinds {s : Settings} (h : s.IsWellTyped) : s.HasKinds := by
  obtain ⟨⟨t, -, ht⟩, ⟨t', -, ht'⟩, -, -, b, hb⟩ := h
  refine ⟨?_, ?_, ?_⟩
  · rw [ht]
    rfl
  · rw [ht']
    rfl
  · rw [hb]
    rfl

/-- Of settings that pass the checks, those with texts for entities and a flag are well typed. -/
theorem IsSound.isWellTyped {s : Settings} (h : s.IsSound) (hkinds : s.HasKinds) :
    s.IsWellTyped := by
  refine ⟨exists_nonempty_text hkinds.metaEntity h.metaEntity,
    exists_nonempty_text hkinds.taxonomyEntity h.taxonomyEntity, fun hsame => ?_, h.termField, ?_⟩
  · obtain ⟨t, ht⟩ := Value.exists_text_of_isTextual hkinds.taxonomyEntity
    have hdiffer := h.differ
    rw [hsame, ht, Value.equal_text, Value.isText_iff.2 rfl] at hdiffer
    cases hdiffer
  · have hflag := hkinds.explicitDefaults
    cases hvalue : s.explicitDefaults with
    | bool b => exact ⟨b, rfl⟩
    | _ =>
        rw [hvalue] at hflag
        cases hflag

/-! ## Spelled out -/

theorem isAtomic_of_isTextual {v : Value} (h : v.isTextual = true) : v.isAtomic = true := by
  cases v <;> first | rfl | cases h

theorem isAtomic_of_isFlag {v : Value} (h : v.isFlag = true) : v.isAtomic = true := by
  cases v <;> first | rfl | cases h

/-- What is spelled out as a scalar is the scalar. -/
theorem eq_of_spelledOut {v w : Value} (h : v.spelledOut = .ok w) (hw : w.isAtomic = true) :
    v = w := by
  cases v with
  | list items | tuple items | dict items =>
      obtain ⟨_, -, rfl⟩ := map_eq_ok.1 h
      cases hw
  | again => cases h
  | literal v =>
      obtain ⟨_, -, h⟩ := bind_eq_ok.1 h
      cases h
      cases hw
  | «variable» k =>
      obtain ⟨_, -, h⟩ := bind_eq_ok.1 h
      cases h
      cases hw
  | field e n =>
      obtain ⟨_, -, h⟩ := bind_eq_ok.1 h
      obtain ⟨_, -, h⟩ := bind_eq_ok.1 h
      cases h
      cases hw
  | expr kind terms negated =>
      obtain ⟨_, -, h⟩ := bind_eq_ok.1 h
      obtain ⟨_, -, h⟩ := bind_eq_ok.1 h
      cases h
      cases hw
  | _ =>
      cases h
      rfl

theorem spelledOutEntries_text_cons {name : String} {v : Value} {es d : Dict} :
    Value.spelledOutEntries ((.text name, v) :: es) = .ok d ↔
      ∃ w, v.spelledOut = .ok w ∧ ∃ es', Value.spelledOutEntries es = .ok es' ∧
        d = (.text name, w) :: es' := by
  have hname : (Value.text name).spelledOut = .ok (.text name) := rfl
  have hkey : (Value.text name).asKey = .ok (.text name) := rfl
  rw [Value.spelledOutEntries, hname]
  simp only [bind_eq_ok, Except.ok.injEq, exists_eq_left', hkey]
  constructor
  · rintro ⟨w, hw, es', hes, h⟩
    cases h
    exact ⟨w, hw, es', hes, rfl⟩
  · rintro ⟨w, hw, es', hes, rfl⟩
    exact ⟨w, hw, es', hes, rfl⟩

/-- Each setting is spelled out on its own. -/
theorem plainDict_map_named {s t : Settings} :
    s.plainDict.map named = .ok t ↔
      List.Forall₂ (fun v w => v.spelledOut = .ok w) s.toList t.toList := by
  simp only [map_eq_ok, plainDict, toDict, toList, spelledOutEntries_text_cons,
    List.forall₂_cons, List.forall₂_nil_left_iff]
  constructor
  · rintro ⟨_, ⟨w, hw, _, ⟨x, hx, _, ⟨y, hy, _, ⟨z, hz, _, hnil, rfl⟩, rfl⟩, rfl⟩, rfl⟩, rfl⟩
    cases hnil
    have hnamed := named_toDict ⟨w, x, y, z⟩
    rw [toDict] at hnamed
    rw [hnamed]
    exact ⟨hw, hx, hy, hz, trivial⟩
  · rintro ⟨hmeta, htaxonomy, hfield, hflag, -⟩
    exact ⟨_, ⟨_, hmeta, _, ⟨_, htaxonomy, _, ⟨_, hfield, _, ⟨_, hflag, _, rfl, rfl⟩, rfl⟩, rfl⟩,
      rfl⟩, named_toDict t⟩

namespace Environment

theorem isTextual_named {env : Environment} {name t : String} :
    (((filled? env name).map Value.text).getD (.text t)).isTextual = true := by
  cases filled? env name <;> rfl

theorem isFlag_draft (env : Environment) : (draft env).explicitDefaults.isFlag = true := by
  rw [draft]
  simp only []
  split <;> rfl

end Environment

/-- Where settings come from. -/
inductive Source where
  | dict (d : Dict)
  | environment (env : Environment)
  | document (d : Document)

namespace Source

/-- The settings that pass the checks. -/
def passed : Source → Except FileFault Settings
  | .dict d => (ofDict d).mapError .settings
  | .environment env => (ofEnvironment env).mapError .settings
  | .document d => ofDocument d

/-- Settings in the form in which they are handed out: those of a document are spelled out. -/
def form : Source → Settings → Except Misuse Settings
  | .document _, s => s.plainDict.map named
  | _, s => .ok s

/-- The settings that are handed out. -/
def settings (source : Source) : Except FileFault Settings := do
  let s ← source.passed
  (source.form s).mapError fun m => .settings (.misuse m)

/-- The settings that a dictionary names, if it names nothing else. -/
def namedOnly? (d : Dict) : Option Settings := if isKnownDict d then some (named d) else none

/-- The settings that are named, over the defaults and before they are checked; there are none where
anything else is named. -/
def draft? : Source → Option Settings
  | .dict d => namedOnly? d
  | .environment env => some (Environment.draft env)
  | .document d => (documentSection? d).bind fun entries =>
      namedOnly? (({} : Settings).toDict.update entries)

theorem ofDict_of_namedOnly? {d : Dict} {s : Settings} (h : namedOnly? d = some s) :
    ofDict d = s.checked := by
  rw [namedOnly?] at h
  split at h
  · next hknown =>
      cases h
      exact ofDict_of_isKnownDict hknown
  · cases h

theorem namedOnly?_of_ofDict {d : Dict} {s : Settings} (h : ofDict d = .ok s) :
    namedOnly? d = some s := by
  obtain ⟨hknown, rfl, -⟩ := ofDict_eq_ok.1 h
  rw [namedOnly?, hknown]
  rfl

/-- What is named passes if it passes the checks. -/
theorem passed_of_draft? {source : Source} {s : Settings} (h : source.draft? = some s) :
    source.passed = s.checked.mapError .settings := by
  cases source with
  | dict d => rw [passed, ofDict_of_namedOnly? h]
  | environment env =>
      cases h
      rfl
  | document d =>
      obtain ⟨entries, hentries, h⟩ := Option.bind_eq_some_iff.1 h
      rw [passed, ofDocument_of_section hentries, ofDict_of_namedOnly? h]

theorem draft?_of_passed {source : Source} {s : Settings} (h : source.passed = .ok s) :
    source.draft? = some s := by
  cases source with
  | dict d => exact namedOnly?_of_ofDict (mapError_eq_ok.1 h)
  | environment env =>
      obtain ⟨rfl, -⟩ := checked_eq_ok.1 (mapError_eq_ok.1 h)
      rfl
  | document d =>
      rw [passed] at h
      cases hentries : documentSection? d with
      | none =>
          obtain ⟨f, hf, -⟩ := ofDocument_of_no_section hentries
          rw [hf] at h
          cases h
      | some entries =>
          rw [ofDocument_of_section hentries] at h
          rw [draft?, hentries]
          exact namedOnly?_of_ofDict (mapError_eq_ok.1 h)

theorem passed_eq_ok {source : Source} {s : Settings} :
    source.passed = .ok s ↔ source.draft? = some s ∧ s.IsSound := by
  constructor
  · intro h
    have hdraft := draft?_of_passed h
    rw [passed_of_draft? hdraft, mapError_eq_ok, checked_eq_ok] at h
    exact ⟨hdraft, h.2⟩
  · rintro ⟨hdraft, hsound⟩
    rw [passed_of_draft? hdraft, mapError_eq_ok, checked_eq_ok]
    exact ⟨rfl, hsound⟩

theorem settings_eq_ok {source : Source} {s : Settings} :
    source.settings = .ok s ↔
      ∃ s', source.draft? = some s' ∧ s'.IsSound ∧ source.form s' = .ok s := by
  simp only [settings, bind_eq_ok, passed_eq_ok, mapError_eq_ok, and_assoc]

/-- What fails a check that does not compare the entity names, or has equal ones, is refused. -/
theorem exists_refusal {source : Source} {s : Settings} (hdraft : source.draft? = some s)
    (h : (¬ ∃ t ∈ termFields, s.termField = .text t) ∨ s.metaEntity.truthy = false
      ∨ s.taxonomyEntity.truthy = false ∨ s.metaEntity.equal s.taxonomyEntity = .ok true) :
    ∃ f, source.settings = .error f ∧ f.kind? = none := by
  obtain ⟨-, hfield, hmeta, htaxonomy, hdiffer⟩ | ⟨f, hf, hkind⟩ |
    ⟨m, -, hdiffer, hfield, hmeta, htaxonomy⟩ := checked_cases s
  · simp [hfield, hmeta, htaxonomy, hdiffer] at h
  · refine ⟨.settings f, ?_, hkind⟩
    rw [settings, passed_of_draft? hdraft, hf]
    rfl
  · simp [hfield, hmeta, htaxonomy, hdiffer] at h

/-- Data is handed out as it stands, unless a setting holds itself. -/
theorem form_of_data {d : Document} {s : Settings} (hheld : AreHeld d.items)
    (h : (document d).draft? = some s) :
    (document d).form s
      = if s.toList.any Value.holdsItself then .error (.endless false) else .ok s := by
  obtain ⟨entries, hentries, h⟩ := Option.bind_eq_some_iff.1 h
  rw [namedOnly?] at h
  split at h
  · next hknown =>
      obtain ⟨s', hs', hdata, -⟩ := exists_overridden
        (fun e he => (isData_of_documentSection? hheld hentries e he).2)
        (isKnownDict_overridden.1 hknown)
      rw [overridden] at hs'
      rw [hs', named_toDict] at h
      cases h
      rw [form, plainDict_of_isData hdata]
      split
      · rfl
      · exact congrArg Except.ok (named_toDict s)
  · cases h

/-- With the right kinds in them, settings are handed out as they passed. -/
theorem eq_of_form {source : Source} {s s' : Settings} (h : source.form s' = .ok s)
    (hsound : s'.IsSound) (hkinds : s.HasKinds) : s' = s := by
  cases source with
  | document d =>
      simp only [form, plainDict_map_named, toList, List.forall₂_cons] at h
      obtain ⟨hmeta, htaxonomy, hfield, hflag, -⟩ := h
      obtain ⟨t, -, hterm⟩ := hsound.termField
      have hmeta := eq_of_spelledOut hmeta (isAtomic_of_isTextual hkinds.metaEntity)
      have htaxonomy := eq_of_spelledOut htaxonomy (isAtomic_of_isTextual hkinds.taxonomyEntity)
      have hflag := eq_of_spelledOut hflag (isAtomic_of_isFlag hkinds.explicitDefaults)
      have hfield : s'.termField = s.termField := by
        rw [hterm] at hfield ⊢
        exact Except.ok.inj hfield
      have hdict : s'.toDict = s.toDict := by
        rw [toDict, toDict, hmeta, htaxonomy, hfield, hflag]
      rw [← named_toDict s', hdict, named_toDict]
  | _ => exact Except.ok.inj h

theorem isWellTyped_iff_of_settings {source : Source} {s : Settings}
    (h : source.settings = .ok s) : s.IsWellTyped ↔ s.HasKinds := by
  refine ⟨IsWellTyped.hasKinds, fun hkinds => ?_⟩
  obtain ⟨s', -, hsound, hform⟩ := settings_eq_ok.1 h
  cases eq_of_form hform hsound hkinds
  exact hsound.isWellTyped hkinds

end Source

/-- Settings are handed out just if nothing else is named, what is named passes the checks and, where
it is from a document, can be spelled out. Of the data that documents hold only a setting that holds
itself cannot, and all other data is handed out as it is named. What is handed out is of the kinds it
is meant to be of if its entity names are texts and its flag is one, and else not, and the settings
of an environment always are. A term field of another kind and an entity name that counts as false
are refused, and so are equal entity names. -/
theorem settings_typed (source : Source) :
    (∀ s, source.settings = .ok s ↔
        ∃ s', source.draft? = some s' ∧ s'.IsSound ∧ source.form s' = .ok s)
      ∧ (∀ d s, source = .document d → AreHeld d.items → source.draft? = some s →
          source.form s
            = if s.toList.any Value.holdsItself then .error (.endless false) else .ok s)
      ∧ (∀ s, source.settings = .ok s →
          (s.IsWellTyped ↔ s.HasKinds))
      ∧ (∀ s, source.draft? = some s →
          ((¬ ∃ t ∈ termFields, s.termField = .text t) ∨ s.metaEntity.truthy = false
            ∨ s.taxonomyEntity.truthy = false ∨ s.metaEntity.equal s.taxonomyEntity = .ok true) →
          ∃ f, source.settings = .error f ∧ f.kind? = none)
      ∧ (∀ env s, source = .environment env → source.settings = .ok s → s.IsWellTyped) := by
  refine ⟨fun s => Source.settings_eq_ok, fun d s hdocument hheld hdraft => ?_, fun s h => ?_,
    fun s hdraft hbad => Source.exists_refusal hdraft hbad, fun env s henv h => ?_⟩
  · rw [hdocument] at hdraft ⊢
    exact Source.form_of_data hheld hdraft
  · exact Source.isWellTyped_iff_of_settings h
  · obtain ⟨s', hdraft, hsound, hform⟩ := Source.settings_eq_ok.1 h
    rw [henv] at hdraft hform
    cases hdraft
    cases hform
    exact hsound.isWellTyped ⟨Environment.isTextual_named, Environment.isTextual_named,
      Environment.isFlag_draft env⟩

/-- A list that holds itself passes the checks and cannot be spelled out, and a text is handed
out. -/
theorem settings_typed_of_alias :
    let held : Document := ⟨([.dict [(.text "builder", 1)], .dict [(.text "meta_entity", 2)],
      .list [2]].map some).toArray, 0⟩
    let source := Source.dict [(.text "meta_entity", .text "fields")]
    let s : Settings := { metaEntity := .text "fields" }
    (∃ t, (Source.document held).draft? = some t ∧ t.IsSound
        ∧ (Source.document held).form t = .error (.endless false))
      ∧ source.settings = .ok s ∧ s.IsWellTyped := by
  intro held source s
  have hheld : AreHeld held.items := areHeld_of_forall (by decide)
  have hdraft : (Source.document held).draft? = some { metaEntity := .list [.again 2 false] } := by
    cbv
  have hform := (settings_typed (.document held)).2.1 held _ rfl hheld hdraft
  have hsettings : source.settings = .ok s := by
    cbv
  have hkinds := (settings_typed source).2.2.1 s hsettings
  exact ⟨⟨_, hdraft, ⟨⟨"slug", by decide, rfl⟩, rfl, rfl, Value.equal_text _ "tax"⟩, hform⟩,
    hsettings, hkinds.2 ⟨rfl, rfl, rfl⟩⟩

/-- A number is taken for an entity name. -/
theorem not_settings_typed :
    let source := Source.dict [(.text "meta_entity", .int 5)]
    let s : Settings := { metaEntity := .int 5 }
    source.settings = .ok s ∧ ¬ s.IsWellTyped := by
  intro source s
  refine ⟨?_, fun h => ?_⟩
  · have hknown : isKnownDict [(.text "meta_entity", .int 5)] = true := by
      simp [isKnownDict, isKnown_iff, names]
    have hdraft : source.draft? = some s := by
      rw [Source.draft?, Source.namedOnly?, hknown]
      simp [named, s]
    rw [Source.settings_eq_ok]
    exact ⟨s, hdraft, ⟨⟨"slug", by decide, rfl⟩, rfl, rfl, Value.equal_text (.int 5) "tax"⟩, rfl⟩
  · obtain ⟨t, -, ht⟩ := h.metaEntity
    cases ht

end Settings

end PostQuery
