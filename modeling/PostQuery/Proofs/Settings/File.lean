import PostQuery.Proofs.Dict.Update
import PostQuery.Proofs.Document
import PostQuery.Proofs.Settings.Checked

/-!
# What becomes of a settings file

A file is handed out as the dictionary of its settings, it is refused, or it ends the reading in
some other way. What a safe loader makes of a file is data and nothing else, so what is handed out is
read back as it is. Beyond that nothing is asked of the loader.

Of the ways in which the reading can end otherwise, one is up to the loader, which may give up on a
file that it neither fails to read nor finds malformed, as on octets that are no text. Two are in the
settings themselves: a key that is no text, which can be found unknown but not reported, and a
setting that holds itself, which can be neither compared nor spelled out to an end.
-/

namespace PostQuery

namespace Value

/-- A text is the same as nothing but itself. -/
theorem eq_of_eqv_of_isTextual {j k : Value} (h : j.eqv k = true)
    (htext : j.isTextual = true ∨ k.isTextual = true) : j = k := by
  obtain hj | hk := htext
  · obtain ⟨t, rfl⟩ := exists_text_of_isTextual hj
    exact (eq_of_text_eqv h).symm
  · obtain ⟨t, rfl⟩ := exists_text_of_isTextual hk
    rwa [eqv_isText, isText_iff] at h

end Value

namespace Dict

/-- A property of keys that does not tell the same ones apart holds after an update just if it held
before and holds of what is put in. -/
theorem forall_keys_update {p : Value → Bool} (hp : ∀ j k, j.eqv k = true → p j = p k)
    (d e : Dict) :
    (∀ k ∈ (d.update e).map Prod.fst, p k = true) ↔
      (∀ k ∈ d.map Prod.fst, p k = true) ∧ ∀ k ∈ e.map Prod.fst, p k = true := by
  induction e generalizing d with
  | nil => simp
  | cons entry e ih =>
      obtain ⟨k, v⟩ := entry
      have hput : (∀ j ∈ (d.put k v).map Prod.fst, p j = true) ↔
          (∀ j ∈ d.map Prod.fst, p j = true) ∧ p k = true := by
        rw [keys_put]
        split
        · next hhas =>
            obtain ⟨j, hj, hsame⟩ := List.any_eq_true.1 hhas
            exact ⟨fun h => ⟨h, hp j k hsame ▸ h j hj⟩, fun h => h.1⟩
        · rw [List.forall_mem_append, List.forall_mem_singleton]
      rw [update_cons, ih, hput, List.map_cons, List.forall_mem_cons, and_assoc]

end Dict

namespace Settings

open Value

/-! ## Settings as a dictionary -/

theorem named_toDict (s : Settings) : named s.toDict = s := by
  simp [named, toDict]

theorem isKnownDict_toDict (s : Settings) : isKnownDict s.toDict = true := by
  simp [isKnownDict, toDict, isKnown_iff, names]

theorem keys_toDict (s : Settings) : s.toDict.map Prod.fst = names.map .text := rfl

/-- A setting replaced in the dictionary of all of them is replaced in them. -/
theorem exists_toDict_put (s : Settings) {k v : Value} (h : isKnown k = true) :
    ∃ s' : Settings, s.toDict.put k v = s'.toDict ∧
      ∀ P : Value → Prop, (∀ w ∈ s.toList, P w) → P v → ∀ w ∈ s'.toList, P w := by
  obtain ⟨name, hname, rfl⟩ := isKnown_iff.1 h
  simp only [names, List.mem_cons, List.not_mem_nil, or_false] at hname
  obtain rfl | rfl | rfl | rfl := hname
  · exact ⟨{ s with metaEntity := v }, by simp [toDict, Dict.put, eqv_text], by
      simp +contextual [toList]⟩
  · exact ⟨{ s with taxonomyEntity := v }, by simp [toDict, Dict.put, eqv_text], by
      simp +contextual [toList]⟩
  · exact ⟨{ s with termField := v }, by simp [toDict, Dict.put, eqv_text], by
      simp +contextual [toList]⟩
  · exact ⟨{ s with explicitDefaults := v }, by simp [toDict, Dict.put, eqv_text], by
      simp +contextual [toList]⟩

theorem exists_toDict_update (s : Settings) {e : Dict}
    (h : ∀ k ∈ e.map Prod.fst, isKnown k = true) :
    ∃ s' : Settings, s.toDict.update e = s'.toDict ∧
      ∀ P : Value → Prop, (∀ w ∈ s.toList, P w) → (∀ entry ∈ e, P entry.2) →
        ∀ w ∈ s'.toList, P w := by
  induction e generalizing s with
  | nil => exact ⟨s, rfl, fun P hs _ => hs⟩
  | cons entry e ih =>
      obtain ⟨k, v⟩ := entry
      obtain ⟨hk, he⟩ := List.forall_mem_cons.1 h
      obtain ⟨s', hput, hkeep⟩ := exists_toDict_put s (v := v) hk
      obtain ⟨s'', hupdate, hkeep'⟩ := ih s' he
      refine ⟨s'', by rw [Dict.update_cons, hput, hupdate], fun P hs hentries => ?_⟩
      obtain ⟨hv, hentries⟩ := List.forall_mem_cons.1 hentries
      exact hkeep' P (hkeep P hs hv) hentries

theorem isTextual_eq_of_eqv (j k : Value) (h : j.eqv k = true) : j.isTextual = k.isTextual := by
  by_cases htext : j.isTextual = true ∨ k.isTextual = true
  · rw [eq_of_eqv_of_isTextual h htext]
  · rw [not_or, Bool.not_eq_true, Bool.not_eq_true] at htext
    rw [htext.1, htext.2]

theorem isTextual_of_isKnown {k : Value} (h : isKnown k = true) : k.isTextual = true := by
  obtain ⟨name, -, rfl⟩ := isKnown_iff.1 h
  rfl

theorem isKnown_eq_of_eqv (j k : Value) (h : j.eqv k = true) : isKnown j = isKnown k := by
  by_cases htext : j.isTextual = true ∨ k.isTextual = true
  · rw [eq_of_eqv_of_isTextual h htext]
  · rw [not_or] at htext
    rw [Bool.eq_false_iff.2 (mt isTextual_of_isKnown htext.1),
      Bool.eq_false_iff.2 (mt isTextual_of_isKnown htext.2)]

/-! ## The section of a file -/

section

variable (load : Loader) (content : FileContent)

/-- The settings that a file names, if it has a place for them. -/
def sectionOf? : Option Dict :=
  match content with
  | .unreadable _ => none
  | .octets octets =>
    match load octets with
    | .error _ => none
    | .ok d => documentSection? d

/-- The loader makes no document of the file, and it neither fails to read it nor finds it
malformed. -/
def GivesUp : Prop :=
  ∃ octets kind reason, content = .octets octets ∧ load octets = .error (.other kind reason)

/-- What is handed out for settings: their dictionary, spelled out. -/
def spelled (s : Settings) : Except FileFault Dict :=
  s.plainDict.mapError fun m => .settings (.misuse m)

/-- What is handed out for a file. -/
def handOut : Except FileFault Dict := ofFile load content >>= spelled

end

/-- The defaults with the settings of a section put in. -/
def overridden (entries : Dict) : Dict := ({} : Settings).toDict.update entries

section

variable {load : Loader} {content : FileContent}

theorem exists_document_of_section {entries : Dict} (h : sectionOf? load content = some entries) :
    ∃ octets d, content = .octets octets ∧ load octets = .ok d
      ∧ documentSection? d = some entries := by
  cases content with
  | unreadable reason => cases h
  | octets octets =>
      rw [sectionOf?] at h
      split at h
      · cases h
      · next d hload => exact ⟨octets, d, rfl, hload, h⟩

theorem ofFile_of_load {octets : List UInt8} {d : Document} (h : load octets = .ok d) :
    ofFile load (.octets octets) = ofDocument d := by
  rw [ofFile, h]
  rfl

theorem handOut_of_section {entries : Dict} (h : sectionOf? load content = some entries) :
    handOut load content = (ofDict (overridden entries)).mapError .settings >>= spelled := by
  obtain ⟨octets, d, rfl, hload, hsection⟩ := exists_document_of_section h
  rw [handOut, ofFile_of_load hload, ofDocument_of_section hsection, overridden]

theorem not_givesUp_of_load {octets : List UInt8} {d : Document} (h : load octets = .ok d) :
    ¬ GivesUp load (.octets octets) := by
  rintro ⟨octets', kind, reason, hsame, hfault⟩
  cases hsame
  rw [h] at hfault
  cases hfault

theorem not_givesUp_of_section {entries : Dict} (h : sectionOf? load content = some entries) :
    ¬ GivesUp load content := by
  obtain ⟨octets, d, rfl, hload, -⟩ := exists_document_of_section h
  exact not_givesUp_of_load hload

/-- A file without a place for settings is refused, unless the loader gives up on it. -/
theorem handOut_of_no_section (h : sectionOf? load content = none) :
    ∃ f, handOut load content = .error f ∧ (f.kind? ≠ none ↔ GivesUp load content) := by
  cases content with
  | unreadable reason =>
      refine ⟨.load (.unreadable reason), rfl, iff_of_false (fun hkind => hkind rfl) ?_⟩
      rintro ⟨octets, kind, reason, hsame, -⟩
      cases hsame
  | octets octets =>
      rw [sectionOf?] at h
      cases hload : load octets with
      | ok d =>
          rw [hload] at h
          obtain ⟨f, hf, hkind⟩ := ofDocument_of_no_section h
          refine ⟨f, ?_, iff_of_false (fun hne => hne hkind) (not_givesUp_of_load hload)⟩
          rw [handOut, ofFile_of_load hload, hf]
          rfl
      | error f =>
          refine ⟨.load f, ?_, ?_⟩
          · rw [handOut, ofFile, hload]
            rfl
          · rw [GivesUp]
            cases f <;> simp [FileFault.kind?, hload]

end

/-- Of a document that holds data the section is data under scalars. -/
theorem isData_of_documentSection? {d : Document} {entries : Dict} (hheld : AreHeld d.items)
    (h : documentSection? d = some entries) :
    ∀ e ∈ entries, e.1.isAtomic = true ∧ e.2.isData = true := by
  have hkeys : ∀ {id : NodeId} {named}, d.entries? id = some named →
      ∀ e ∈ named, e.1.isAtomic = true := by
    intro id named hnamed
    rw [Document.entries?] at hnamed
    split at hnamed
    · next items hitem =>
        cases hnamed
        exact List.all_eq_true.1 (hheld id _ hitem)
    · split at hnamed <;> cases hnamed
      exact fun e he => nomatch he
  obtain ⟨all, -, h⟩ := Option.bind_eq_some_iff.1 h
  obtain ⟨named, hnamed, rfl⟩ := Option.map_eq_some_iff.1 h
  rw [List.forall_mem_map]
  intro e he
  refine ⟨?_, Document.isData_value hheld e.2⟩
  cases hbuilder : (all.find? fun e => e.1.eqv (.text "builder")).map Prod.snd with
  | none =>
      rw [hbuilder] at hnamed
      cases hnamed
      cases he
  | some id =>
      rw [hbuilder] at hnamed
      exact hkeys hnamed e he

theorem isData_of_section {load : Loader} {content : FileContent} {entries : Dict}
    (hload : load.IsSafe) (h : sectionOf? load content = some entries) :
    ∀ e ∈ entries, e.2.isData = true := by
  obtain ⟨octets, d, -, hread, hsection⟩ := exists_document_of_section h
  exact fun e he => (isData_of_documentSection? (hload octets d hread) hsection e he).2

theorem isKnownDict_overridden {entries : Dict} :
    isKnownDict (overridden entries) = true ↔ ∀ k ∈ entries.map Prod.fst, isKnown k = true := by
  rw [isKnownDict_iff, overridden, Dict.forall_keys_update isKnown_eq_of_eqv, and_iff_right]
  exact isKnownDict_iff.1 (isKnownDict_toDict {})

theorem isTextual_overridden {entries : Dict} :
    (∀ k ∈ (overridden entries).map Prod.fst, k.isTextual = true) ↔
      ∀ k ∈ entries.map Prod.fst, k.isTextual = true := by
  rw [overridden, Dict.forall_keys_update isTextual_eq_of_eqv, and_iff_right]
  exact fun k hk => isTextual_of_isKnown (isKnownDict_iff.1 (isKnownDict_toDict {}) k hk)

theorem plainDict_of_isData {s : Settings} (h : ∀ w ∈ s.toList, w.isData = true) :
    s.plainDict = if s.toList.any holdsItself then .error (.endless false)
      else .ok s.toDict := by
  have hself : someEntryHoldsItself s.toDict = s.toList.any holdsItself := by
    simp [someEntryHoldsItself, toDict, toList]
  rw [← hself]
  refine spelledOutEntries_of_areDataEntries s.toDict ?_
  simpa [areDataEntries, toDict, toList, isAtomic] using h

/-- The settings of a section are those named in it, over the defaults, and they are data. -/
theorem exists_overridden {entries : Dict} (hdata : ∀ e ∈ entries, e.2.isData = true)
    (hknown : ∀ k ∈ entries.map Prod.fst, isKnown k = true) :
    ∃ s : Settings, overridden entries = s.toDict ∧ (∀ w ∈ s.toList, w.isData = true)
      ∧ ((∀ e ∈ entries, e.2.holdsItself = false) → ∀ w ∈ s.toList, w.holdsItself = false) := by
  obtain ⟨s, hs, hkeep⟩ := exists_toDict_update {} hknown
  refine ⟨s, hs, hkeep (fun w => w.isData = true) ?_ hdata,
    hkeep (fun w => w.holdsItself = false) ?_⟩
  · simp [toList, isData, isAtomic]
  · simp [toList, holdsItself]

/-! ## What becomes of a section -/

section

variable {load : Loader} {content : FileContent} {entries : Dict}

/-- What is handed out is the defaults with the settings of the section put in, and it is read back
as it is. -/
theorem ofDict_of_handOut {d : Dict} (hload : load.IsSafe)
    (h : sectionOf? load content = some entries) (hout : handOut load content = .ok d) :
    d = overridden entries ∧ d.map Prod.fst = names.map .text
      ∧ ∃ s, ofDict d = .ok s ∧ s.plainDict = .ok d := by
  rw [handOut_of_section h] at hout
  obtain ⟨s, hs, hout⟩ := bind_eq_ok.1 hout
  rw [mapError_eq_ok] at hs
  obtain ⟨hknown, rfl, hsound⟩ := ofDict_eq_ok.1 hs
  obtain ⟨s, hs', hdata, -⟩ :=
    exists_overridden (isData_of_section hload h) (isKnownDict_overridden.1 hknown)
  rw [hs', named_toDict] at hout hs
  have hplain := mapError_eq_ok.1 hout
  have hd : d = s.toDict := by
    rw [plainDict_of_isData hdata] at hplain
    split at hplain <;> cases hplain
    rfl
  subst hd
  exact ⟨hs'.symm, keys_toDict s, s, hs, hplain⟩

theorem kind?_of_unknown {d : Dict} {f : FileFault} (hknown : isKnownDict d = false)
    (hkeys : ∀ k ∈ d.map Prod.fst, k.isTextual = true)
    (h : (ofDict d).mapError .settings >>= spelled = .error f) : f.kind? = none := by
  obtain ⟨names, hnames⟩ := unknownFault_isUnknown.2 (unknownKeys_isTextual.2 hkeys)
  rw [ofDict_of_unknown hknown, hnames] at h
  cases h
  rfl

/-- Data that does not hold itself is handed out or refused. -/
theorem kind?_of_isData {s : Settings} {f : FileFault} (hdata : ∀ w ∈ s.toList, w.isData = true)
    (hself : ∀ w ∈ s.toList, w.holdsItself = false)
    (h : s.checked.mapError .settings >>= spelled = .error f) : f.kind? = none := by
  have hplain : s.plainDict = .ok s.toDict := by
    rw [plainDict_of_isData hdata, if_neg]
    simpa using hself
  simp only [toList, List.forall_mem_cons] at hdata hself
  obtain ⟨b, hb⟩ := exists_equal (isCalm_of_isData _ hdata.1 hself.1)
    (isCalm_of_isData _ hdata.2.1 hself.2.1)
  obtain ⟨hok, -⟩ | ⟨f', hf, hkind⟩ | ⟨m, -, hm, -⟩ := checked_cases s
  · rw [hok] at h
    have hspelled : spelled s = .ok s.toDict := by rw [spelled, hplain]; rfl
    exact absurd (hspelled.symm.trans h) (by simp)
  · rw [hf] at h
    cases h
    exact hkind
  · rw [hb] at hm
    cases hm

/-- A section whose keys are texts and whose settings do not hold themselves is handed out or
refused. -/
theorem kind?_of_section {f : FileFault} (hload : load.IsSafe)
    (h : sectionOf? load content = some entries)
    (hkeys : ∀ k ∈ entries.map Prod.fst, k.isTextual = true)
    (hself : ∀ e ∈ entries, e.2.holdsItself = false) (hout : handOut load content = .error f) :
    f.kind? = none := by
  rw [handOut_of_section h] at hout
  cases hknown : isKnownDict (overridden entries) with
  | false =>
      exact kind?_of_unknown hknown (isTextual_overridden.2 hkeys) hout
  | true =>
      obtain ⟨s, hs, hdata, hself'⟩ :=
        exists_overridden (isData_of_section hload h) (isKnownDict_overridden.1 hknown)
      rw [hs] at hknown hout
      rw [ofDict_of_isKnownDict hknown, named_toDict] at hout
      exact kind?_of_isData hdata (hself' hself) hout

/-- A key that is no text ends the reading. -/
theorem exists_kind?_of_key (h : sectionOf? load content = some entries)
    (hkey : ∃ k ∈ entries.map Prod.fst, k.isTextual = false) :
    ∃ f, handOut load content = .error f ∧ f.kind? ≠ none := by
  obtain ⟨k, hk, htext⟩ := hkey
  have hkeys : ¬ ∀ k ∈ unknownKeys (overridden entries), k.isTextual = true := by
    rw [unknownKeys_isTextual, isTextual_overridden]
    intro hall
    rw [hall k hk] at htext
    cases htext
  have hknown : isKnownDict (overridden entries) = false := by
    rw [Bool.eq_false_iff, Ne, isKnownDict_overridden]
    intro hall
    rw [isTextual_of_isKnown (hall k hk)] at htext
    cases htext
  rw [handOut_of_section h, ofDict_of_unknown hknown]
  obtain hreported | ⟨m, hm⟩ := unknownFault_cases (unknownKeys (overridden entries))
  · exact absurd (unknownFault_isUnknown.1 hreported) hkeys
  · rw [hm]
    exact ⟨_, rfl, Option.some_ne_none _⟩

end

/-! ## All files -/

/-- With a safe loader a file is handed out as the defaults with its settings put in, which are read
back as they are, it is refused, or it is one of three others: the loader gives up on it, it has a
key that is no text, or it has a setting that holds itself. Of these the first two always end the
reading in another way. -/
theorem handOut_reports (load : Loader) (hload : load.IsSafe) (content : FileContent) :
    (∀ d, handOut load content = .ok d → ∃ entries, sectionOf? load content = some entries
        ∧ d = ({} : Settings).toDict.update entries ∧ d.map Prod.fst = names.map .text
        ∧ ∃ s, ofDict d = .ok s ∧ s.plainDict = .ok d)
      ∧ (∀ f, handOut load content = .error f → f.kind? ≠ none →
          GivesUp load content ∨ ∃ entries, sectionOf? load content = some entries
            ∧ ((∃ k ∈ entries.map Prod.fst, k.isTextual = false)
              ∨ ∃ e ∈ entries, e.2.holdsItself = true))
      ∧ ((GivesUp load content ∨ ∃ entries, sectionOf? load content = some entries
            ∧ ∃ k ∈ entries.map Prod.fst, k.isTextual = false) →
          ∃ f, handOut load content = .error f ∧ f.kind? ≠ none) := by
  cases hsection : sectionOf? load content with
  | none =>
      obtain ⟨f, hf, hkind⟩ := handOut_of_no_section hsection
      refine ⟨fun d hd => ?_, fun f' hf' hkind' => .inl ?_, fun h => ⟨f, hf, hkind.2 ?_⟩⟩
      · rw [hf] at hd
        cases hd
      · rw [hf] at hf'
        cases hf'
        exact hkind.1 hkind'
      · obtain h | ⟨_, hnone, -⟩ := h
        · exact h
        · cases hnone
  | some entries =>
      refine ⟨fun d hd => ⟨entries, rfl, ofDict_of_handOut hload hsection hd⟩,
        fun f hf hkind => .inr ?_, fun h => ?_⟩
      · refine ⟨entries, rfl, ?_⟩
        by_contra hnone
        rw [not_or] at hnone
        refine hkind (kind?_of_section hload hsection (fun k hk => ?_) (fun e he => ?_) hf)
        · rw [← Bool.not_eq_false]
          exact fun htext => hnone.1 ⟨k, hk, htext⟩
        · rw [← Bool.not_eq_true]
          exact fun hself => hnone.2 ⟨e, he, hself⟩
      · obtain h | ⟨entries', hsame, hkey⟩ := h
        · exact absurd h (not_givesUp_of_section hsection)
        · cases hsame
          exact exists_kind?_of_key hsection hkey

/-- A loader that knows a single file, with the items of its document, the outermost one first. -/
def onlyLoader (octets : List UInt8) (items : List Item) : Loader := fun given =>
  if given = octets then .ok ⟨(items.map some).toArray, 0⟩ else .error (.malformed "not that one")

theorem isSafe_onlyLoader {octets : List UInt8} {items : List Item}
    (h : ∀ item ∈ items, item.isHeld = true) : (onlyLoader octets items).IsSafe := by
  intro given d hload
  rw [onlyLoader] at hload
  split at hload
  · cases hload
    exact areHeld_of_forall h
  · cases hload

theorem sectionOf?_onlyLoader (octets : List UInt8) (named : List (Value × NodeId))
    (rest : List Item) :
    let items := .dict [(.text "builder", 1)] :: .dict named :: rest
    sectionOf? (onlyLoader octets items) (.octets octets) =
      some (named.map fun e => (e.1, Document.value ⟨(items.map some).toArray, 0⟩ e.2)) := by
  intro items
  have hbuilder : (List.find? (fun e : Value × NodeId => e.1.eqv (.text "builder"))
      [(.text "builder", 1)]).map Prod.snd = some 1 := by
    simp [eqv_text]
  simp only [sectionOf?, onlyLoader, if_pos]
  exact documentSection?_of_entries? rfl hbuilder rfl

/-- A file with a name for one of the entities. -/
theorem handOut_reports_of_name :
    let octets := "builder: {meta_entity: fields}\n".toUTF8.toList
    let load := onlyLoader octets [.dict [(.text "builder", 1)],
      .dict [(.text "meta_entity", 2)], .value (.text "fields")]
    let d : Dict := [(.text "meta_entity", .text "fields"), (.text "tax_entity", .text "tax"),
      (.text "default_tax_field", .text "slug"), (.text "explicit_defaults", .bool false)]
    load.IsSafe ∧ handOut load (.octets octets) = .ok d
      ∧ ∃ s, ofDict d = .ok s ∧ s.plainDict = .ok d := by
  intro octets load d
  have hsafe : load.IsSafe := isSafe_onlyLoader (by decide)
  have hsection : sectionOf? load (.octets octets) = some [(.text "meta_entity", .text "fields")] :=
    sectionOf?_onlyLoader octets _ _
  have hout : handOut load (.octets octets) = .ok d := by
    rw [handOut_of_section hsection]
    cbv
  obtain ⟨-, -, -, -, hback⟩ := (handOut_reports load hsafe (.octets octets)).1 d hout
  exact ⟨hsafe, hout, hback⟩

/-- A number for a key is found unknown but not reported. -/
theorem not_handOut_reports :
    let octets := "builder: {1: x}\n".toUTF8.toList
    let load := onlyLoader octets [.dict [(.text "builder", 1)], .dict [(.int 1, 2)],
      .value (.text "x")]
    load.IsSafe ∧ ∃ f, handOut load (.octets octets) = .error f ∧ f.kind? ≠ none := by
  intro octets load
  have hsection : sectionOf? load (.octets octets) = some [(.int 1, .text "x")] :=
    sectionOf?_onlyLoader octets _ _
  exact ⟨isSafe_onlyLoader (by decide),
    exists_kind?_of_key hsection ⟨.int 1, List.mem_singleton_self _, rfl⟩⟩

end Settings

end PostQuery
