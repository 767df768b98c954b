import PostQuery.Proofs.Dict
import PostQuery.Proofs.Tree.Meaning
import PostQuery.Proofs.Value.Normal

/-!
# What a plain comparison keeps

A plain comparison makes at most two entries, and they share a dictionary: its value stands under a
key that the caller chose, and its operator under a key that nobody chose. So there is one key with
which a comparison gets in its own way. A variable called `compare` loses its value to the operator
as soon as the operator is written out, and without an operator it looks like one.

`compare_keeps_value_iff` says that this is all that can go wrong. Whatever the operator, the
settings and the literal are, any other key holds the value, with the items of a list in their
order.
-/

namespace PostQuery

/-- The value that an operator has of a literal: the scalars of its items, in their order, if it
takes a list, and the normal form otherwise. -/
def IsOperandOf (token : Token) (raw value : Value) : Prop :=
  if token.takesList then
    ∃ scalars, value = .list scalars ∧
      List.Forall₂ (fun item w => item.scalar = .ok w) raw.asList scalars
  else raw.normal = .ok value

/-- The value stands under its key, the operator under its own if it is not the assumed one or is
asked for, and there is nothing else. -/
structure KeepsValue (s : Settings) (key : String) (value : Value) (token : Token) (d : Dict) :
    Prop where
  value : d.get? (.text key) = some value
  operator : d.get? (.text "compare") = some (.text token.text) ↔
    token.text ≠ "=" ∨ s.spellsDefaults = true
  keys : ∀ k ∈ d.map Prod.fst, k = .text key ∨
    k = .text "compare" ∧ (token.text ≠ "=" ∨ s.spellsDefaults = true)

/-! ## The value -/

theorem Value.scalars_of_normal {raw w : Value} (h : raw.normal = .ok w) :
    List.Forall₂ (fun item w => item.scalar = .ok w) raw.asList w.asList := by
  rw [asList, asList]
  cases hraw : raw.sequence? with
  | some items =>
      rw [normal, hraw] at h
      obtain ⟨ws, hws, rfl⟩ := map_eq_ok.1 h
      exact mapM_eq_ok.1 hws
  | none =>
      have hscalar := scalar_of_normal hraw h
      rw [sequence?_of_isStored (isStored_of_scalar hscalar)]
      exact .cons hscalar .nil

theorem isOperandOf_of_normal {raw w : Value} (token : Token) (h : raw.normal = .ok w) :
    IsOperandOf token raw (if token.takesList then .list w.asList else w) := by
  rw [IsOperandOf]
  split
  · exact ⟨w.asList, rfl, Value.scalars_of_normal h⟩
  · exact h

/-! ## The two entries -/

namespace Builder

variable {b : Builder}

theorem writes_compare {token : Token} :
    b.writes .compare token = true ↔ token.text ≠ "=" ∨ b.settings.spellsDefaults = true := by
  rw [writes, Context.isDefault, Context.default, Token.text]
  by_cases h : token.text = "=" <;> simp [h]

/-- With a key of its own the operator comes second, and with the same key it comes instead. -/
theorem update_written (b : Builder) (key : String) (value : Value) (token : Token) :
    Dict.update [(.text key, value)] (b.written .compare "compare" token) =
      if key = "compare" then
        [(.text key, if b.writes .compare token then .text token.text else value)]
      else (.text key, value) :: b.written .compare "compare" token := by
  rw [written]
  by_cases hwrites : b.writes .compare token
  · by_cases hkey : key = "compare" <;>
      simp [hwrites, hkey, Dict.put, Value.eqv_text]
  · simp [hwrites]

/-- The three demands come down to one: whatever stands under the operator's key, it has to be the
operator exactly if that is written out. -/
theorem keepsValue_iff (key : String) (value : Value) (token : Token) :
    KeepsValue b.settings key value token
        (Dict.update [(.text key, value)] (b.written .compare "compare" token)) ↔
      key ≠ "compare" ∨
        (value = .text token.text ↔ token.text ≠ "=" ∨ b.settings.spellsDefaults = true) := by
  rw [update_written, written]
  have hwrites : b.writes .compare token = true ↔ _ := writes_compare
  by_cases hkey : key = "compare"
  · subst hkey
    by_cases hw : b.writes .compare token
    · have hoperator := hwrites.1 hw
      simp only [hw, hoperator, if_true, ne_eq, not_true_eq_false, false_or, iff_true]
      constructor
      · intro h
        simpa [eq_comm] using h.value
      · rintro rfl
        constructor <;> simp [hoperator]
    · have hoperator := mt hwrites.2 hw
      simp only [hw, hoperator, if_true, if_false, ne_eq, not_true_eq_false, false_or, iff_false,
        Bool.false_eq_true]
      constructor
      · intro h heq
        exact hoperator (h.operator.1 (by simp [heq]))
      · intro hne
        constructor <;> simp [hoperator, hne]
  · refine iff_of_true ?_ (.inl hkey)
    simp only [hkey, if_false]
    by_cases hw : b.writes .compare token
    · have hoperator := hwrites.1 hw
      constructor <;> simp [hw, hkey, hoperator]
    · have hoperator := mt hwrites.2 hw
      constructor <;> simp [hw, hkey, hoperator]

end Builder

/-! ## Comparisons -/

/-- What a comparison of a variable builds has the value of its literal under the variable's key,
its operator under `compare` exactly if that is not assumed or is asked for, and no other key. Only
a variable called `compare` gets in the way of this, unless its value happens to be its operator
where the operator is written, or to differ from it where it is not. -/
theorem compare_keeps_value_iff (b : Builder) (kind : Value) (terms : List Value) (negated : Bool)
    (key : String) (raw : Value) (d : Dict)
    (hterms : AreOperands (.variable (.text key)) terms (some raw))
    (h : b.clause .compare (.expr kind terms negated) = .ok d) :
    ∃ token value, Context.compare.resolve kind negated = .ok token ∧
      IsOperandOf token raw value ∧
      (KeepsValue b.settings key value token d ↔
        key ≠ "compare" ∨
          (value = .text token.text ↔ token.text ≠ "=" ∨ b.settings.spellsDefaults = true)) := by
  obtain ⟨token, key', raw', w, htoken, hkey, hliteral, hnormal, rfl⟩ :=
    Builder.compareClause_eq_ok h
  have hname : terms.findSome? Value.variableName? = some (.text key) :=
    hterms.findSome?_name rfl fun _ => rfl
  rw [hname] at hkey
  rw [hterms.findSome?_literal rfl] at hliteral
  cases hkey
  cases hliteral
  exact ⟨token, _, Builder.context_resolve_of_resolve htoken, isOperandOf_of_normal token hnormal,
    Builder.keepsValue_iff key _ token⟩

/-- Authors that are not among two, with the literal in front: the list is kept in its order, beside
the operator. -/
theorem compare_keeps_value_iff_of_author :
    let raw := Value.tuple [.int 2, .int 1]
    let x := Value.expr (.comparison .among) [.literal raw, .variable (.text "author")] true
    let kept := Value.list [.int 2, .int 1]
    let d : Dict := [(.text "author", kept), (.text "compare", .text "NOT IN")]
    let b : Builder := {}
    b.clause .compare x = .ok d ∧ KeepsValue b.settings "author" kept .notAmong d := by
  intro raw x kept d b
  have hbuilt : b.clause .compare x = .ok d := by
    refine Builder.compare_eq_ok.2 ⟨Value.isJunctionKind_comparison _, .text "author", kept,
      .notAmong, ?_, ?_⟩ <;> cbv
  obtain ⟨token, value, htoken, hvalue, hkeeps⟩ :=
    compare_keeps_value_iff b _ _ true "author" raw d (.after raw) hbuilt
  cases htoken
  obtain ⟨scalars, rfl, hscalars⟩ := hvalue
  change List.Forall₂ _ [Value.int 2, .int 1] scalars at hscalars
  cases hscalars with
  | cons htwo hrest =>
      cases hrest with
      | cons hone hnil =>
          cases htwo
          cases hone
          cases hnil
          exact ⟨hbuilt, hkeeps.2 (.inl (by decide))⟩

/-- A variable called `compare` that is not five: of its value nothing is left. -/
theorem not_compare_keeps_value :
    ¬ ∀ (b : Builder) (kind : Value) (terms : List Value) (negated : Bool) (key : String)
      (raw : Value) (d : Dict), AreOperands (.variable (.text key)) terms (some raw) →
        b.clause .compare (.expr kind terms negated) = .ok d →
          ∃ token value, Context.compare.resolve kind negated = .ok token ∧
            IsOperandOf token raw value ∧ KeepsValue b.settings key value token d := by
  intro h
  have hbuilt : ({} : Builder).clause .compare (.expr (.comparison .notEqual)
      [.variable (.text "compare"), .literal (.int 5)] false)
        = .ok [(.text "compare", .text "!=")] := by
    refine Builder.compare_eq_ok.2 ⟨Value.isJunctionKind_comparison _, .text "compare", .int 5,
      .notEqual, ?_, ?_⟩ <;> cbv
  obtain ⟨token, value, htoken, hvalue, hkeeps⟩ := h {} _ _ false "compare" _ _ (.before _) hbuilt
  cases htoken
  cases hvalue
  simpa using hkeeps.value

end PostQuery
