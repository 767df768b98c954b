import PostQuery.Arguments
import PostQuery.Proofs.Tree.Meaning

/-!
# Trees of one form

There is more than one way to write the same condition. A kind is the member of a vocabulary or a
text in any case and between any blanks; the terms of a comparison stand in any order, since they
are told apart by what they are; and a negated comparison is the one with the opposite kind.
`SameForm` holds of two trees that differ in nothing else, at whichever nodes.
-/

namespace PostQuery

/-! ## Kinds -/

/-- The kind is a member with the word for its text, or a text that is the word but for blanks
around it and the case of its letters. -/
inductive IsSpelled (word : String) : Value → Prop
  | junction {j : Junction} (h : j.text = word) : IsSpelled word (.junction j)
  | comparison {c : Comparison} (h : c.text = word) : IsSpelled word (.comparison c)
  | text {s : String} (h : Value.keyForm s = word) : IsSpelled word (.text s)

namespace IsSpelled

variable {word : String} {kind : Value}

/-- Operators are looked up under the word. -/
theorem key (h : IsSpelled word kind) : Context.key kind = .ok word := by
  cases h with
  | @junction j h =>
      subst h
      cases j <;> rfl
  | @comparison c h =>
      subst h
      cases c <;> rfl
  | text h => exact congrArg Except.ok h

/-- Nodes are told apart by the word. -/
theorem kindKey (h : IsSpelled word kind) : kind.kindKey = word := by
  cases h with
  | @junction j h =>
      subst h
      cases j <;> rfl
  | @comparison c h =>
      subst h
      cases c <;> rfl
  | text h => exact h

theorem isJunctionKind (h : IsSpelled word kind) :
    kind.isJunctionKind = (Junction.ofText? word).isSome := by
  rw [Value.isJunctionKind, h.kindKey]

theorem isJunctionKind_eq {kind' : Value} (h : IsSpelled word kind) (h' : IsSpelled word kind') :
    kind'.isJunctionKind = kind.isJunctionKind := by
  rw [h.isJunctionKind, h'.isJunctionKind]

end IsSpelled

/-- Blanks are dropped up to the first character that is none. -/
theorem dropWhile_blanks {blanks word : List Char} (rest : List Char) (hne : word ≠ [])
    (hblanks : ∀ c ∈ blanks, Text.isBlank c = true)
    (hword : ∀ c ∈ word, Text.isBlank c = false) :
    (blanks ++ (word ++ rest)).dropWhile Text.isBlank = word ++ rest := by
  rw [List.dropWhile_append_of_pos hblanks]
  cases word with
  | nil => exact absurd rfl hne
  | cons c cs =>
      have hc : ¬ Text.isBlank c = true := by
        rw [hword c List.mem_cons_self]
        exact Bool.false_ne_true
      rw [List.cons_append, List.dropWhile_cons_of_neg hc]

theorem trimChars_of_blanks {before word after : List Char} (hne : word ≠ [])
    (hbefore : ∀ c ∈ before, Text.isBlank c = true) (hword : ∀ c ∈ word, Text.isBlank c = false)
    (hafter : ∀ c ∈ after, Text.isBlank c = true) :
    Text.trimChars (before ++ (word ++ after)) = word := by
  have hend : (after.reverse ++ (word.reverse ++ [])).dropWhile Text.isBlank
      = word.reverse ++ [] :=
    dropWhile_blanks [] (by simpa using hne) (by simpa using hafter) (by simpa using hword)
  rw [List.append_nil] at hend
  rw [Text.trimChars, dropWhile_blanks after hne hbefore hword, List.reverse_append, hend,
    List.reverse_reverse]

theorem lowerFrom_of_ascii {word : List Char} (h : ∀ c ∈ word, c.toNat < 0x80)
    (before : List Char) : Text.lowerFrom before word = word.map Char.toLower := by
  induction word generalizing before with
  | nil => rfl
  | cons c rest ih =>
      obtain ⟨hc, hrest⟩ := List.forall_mem_cons.1 h
      have hsigma : c ≠ Text.capitalSigma := by
        rintro rfl
        exact absurd hc (by decide)
      have hdotted : c.toNat ≠ 0x130 := by
        omega
      rw [Text.lowerFrom, if_neg hsigma, if_neg hdotted, ih hrest, Text.lowerChar, if_pos hc]
      rfl

/-- Any case of a word's letters and any blanks around it spell the word. -/
theorem isSpelled_of_case {word : String} {before variant after : List Char}
    (hne : variant ≠ []) (hbefore : ∀ c ∈ before, Text.isBlank c = true)
    (hvariant : ∀ c ∈ variant, c.toNat < 0x80 ∧ Text.isBlank c = false)
    (hafter : ∀ c ∈ after, Text.isBlank c = true)
    (hcase : variant.map Char.toLower = word.toList) :
    IsSpelled word (.text (String.ofList (before ++ (variant ++ after)))) := by
  have htrimmed := trimChars_of_blanks hne hbefore (fun c hc => (hvariant c hc).2) hafter
  refine .text ?_
  rw [Value.keyForm, Text.trim, Text.lower, String.toList_ofList, String.toList_ofList, htrimmed,
    lowerFrom_of_ascii (fun c hc => (hvariant c hc).1), hcase, String.ofList_toList]

/-! ## Conditions -/

/-- The comparison that holds where the given one does not, if there is one. -/
def Comparison.opposite? : Comparison → Option Comparison
  | .equal => some .notEqual
  | .notEqual => some .equal
  | .greater => some .lessEqual
  | .lessEqual => some .greater
  | .greaterEqual => some .less
  | .less => some .greaterEqual
  | .among => some .notAmong
  | .notAmong => some .among
  | _ => none

theorem Comparison.ofText?_text (c : Comparison) : ofText? c.text = some c := by
  cases c <;> decide

/-- The columns of the tables are mirror images: what a context has for a comparison it has, the
other way around, for the opposite, and it has neither if it lacks one. -/
theorem Context.pair?_opposite {c c' : Comparison} (h : c.opposite? = some c') (ctx : Context) :
    (ctx.pair? c.text = none ∧ ctx.pair? c'.text = none) ∨
      ∃ plain opposite, ctx.pair? c.text = some ⟨plain, some opposite⟩ ∧
        ctx.pair? c'.text = some ⟨opposite, some plain⟩ := by
  cases ctx with
  | relation =>
      have hjunction : ∀ c : Comparison, relation.pair? c.text = none := by
        intro c
        rw [pair?, Junction.ofText?_eq_none (Comparison.ofText?_text c), Option.map_none]
      exact .inl ⟨hjunction c, hjunction c'⟩
  | _ =>
      simp only [pair?, Comparison.ofText?_text, Option.bind_some]
      cases c <;> cases h <;> simp [comparePair?, metaPair?, taxonomyPair?]

/-- The two kinds, each negated or not, are one condition: the same word, or opposite words of which
one is negated. -/
inductive SameCondition : Value → Bool → Value → Bool → Prop
  | respelled {word : String} {kind kind' : Value} {negated : Bool} (h : IsSpelled word kind)
      (h' : IsSpelled word kind') : SameCondition kind negated kind' negated
  | opposite {c c' : Comparison} {kind kind' : Value} {negated : Bool}
      (hopposite : c.opposite? = some c') (h : IsSpelled c.text kind)
      (h' : IsSpelled c'.text kind') : SameCondition kind negated kind' (!negated)

namespace SameCondition

variable {kind kind' : Value} {negated negated' : Bool}

theorem isJunctionKind_eq (h : SameCondition kind negated kind' negated') :
    kind'.isJunctionKind = kind.isJunctionKind := by
  cases h with
  | respelled h h' => exact h.isJunctionKind_eq h'
  | opposite _ h h' =>
      rw [h.isJunctionKind, h'.isJunctionKind, Junction.ofText?_eq_none (Comparison.ofText?_text _),
        Junction.ofText?_eq_none (Comparison.ofText?_text _)]

/-- A comparison by the key of its kind is none of the junctions that the kind could stand for. -/
theorem junction?_eq_none (h : SameCondition kind negated kind' negated')
    (hkind : kind.isJunctionKind = false) : kind.junction? = none := by
  have hword : ∀ {word : String}, IsSpelled word kind → kind.junction? = none := by
    intro word hword
    rw [hword.isJunctionKind, Option.isSome_eq_false_iff, Option.isNone_iff_eq_none] at hkind
    rw [Value.junction?, hword.key]
    exact hkind
  cases h with
  | respelled h _ => exact hword h
  | opposite _ h _ => exact hword h

/-- In every context, an operator that can be had for a condition is the same however the condition
is written. -/
theorem resolve (h : SameCondition kind negated kind' negated') (ctx : Context) :
    (∃ token, ctx.resolve kind negated = .ok token ∧ ctx.resolve kind' negated' = .ok token) ∨
      ∃ f f', ctx.resolve kind negated = .error f ∧ ctx.resolve kind' negated' = .error f' := by
  cases h with
  | respelled h h' =>
      have hsame : ctx.resolve kind negated = ctx.resolve kind' negated := by
        rw [Context.resolve, Context.resolve, h.key, h'.key]
      rw [hsame]
      cases ctx.resolve kind' negated with
      | ok token => exact .inl ⟨token, rfl, rfl⟩
      | error f => exact .inr ⟨f, f, rfl, rfl⟩
  | opposite hopposite h h' =>
      simp only [Context.resolve, h.key, h'.key]
      obtain ⟨hnone, hnone'⟩ | ⟨plain, opposite, hpair, hpair'⟩ :=
        Context.pair?_opposite hopposite ctx
      · rw [hnone, hnone']
        exact .inr ⟨_, _, rfl, rfl⟩
      · rw [hpair, hpair']
        cases negated with
        | false => exact .inl ⟨plain, rfl, rfl⟩
        | true => exact .inl ⟨opposite, rfl, rfl⟩

end SameCondition

/-! ## Trees -/

/-- The two trees have one form: node by node the conditions are the same, the terms of groups are
in the same order, and those of comparisons in any order. -/
inductive SameForm : Value → Value → Prop
  | refl (x : Value) : SameForm x x
  | group {word : String} {kind kind' : Value} {terms terms' : List Value} {negated : Bool}
      (h : IsSpelled word kind) (h' : IsSpelled word kind') (hkind : kind.isJunctionKind = true)
      (hterms : List.Forall₂ SameForm terms terms') :
      SameForm (.expr kind terms negated) (.expr kind' terms' negated)
  | comparison {kind kind' : Value} {terms moved terms' : List Value} {negated negated' : Bool}
      (h : SameCondition kind negated kind' negated') (hkind : kind.isJunctionKind = false)
      (horder : terms.Perm moved) (hterms : List.Forall₂ SameForm moved terms') :
      SameForm (.expr kind terms negated) (.expr kind' terms' negated')

theorem Value.isRoot_of_not_isJunctionKind {kind : Value} {terms : List Value} {negated : Bool}
    (h : kind.isJunctionKind = false) : (Value.expr kind terms negated).isRoot = false := by
  have hne : kind.kindKey ≠ Junction.and.text := by
    intro hand
    rw [isJunctionKind, hand] at h
    exact absurd h (by decide)
  simp [isRoot, hne]

theorem SameForm.isExpr_eq {x y : Value} (h : SameForm x y) : x.isExpr = y.isExpr := by
  cases h <;> rfl

/-- What is no node has one form only. -/
theorem SameForm.eq_of_not_isExpr {x y : Value} (h : SameForm x y) (hx : x.isExpr = false) :
    x = y := by
  cases h with
  | refl => rfl
  | group => cases hx
  | comparison => cases hx

/-- Both trees are roots or neither is: no comparison is one. -/
theorem SameForm.isRoot_eq {x y : Value} (h : SameForm x y) : x.isRoot = y.isRoot := by
  cases h with
  | refl => rfl
  | group h h' _ _ => rw [Value.isRoot, Value.isRoot, h.kindKey, h'.kindKey]
  | comparison h hkind _ _ =>
      have hkind' := h.isJunctionKind_eq.trans hkind
      rw [Value.isRoot_of_not_isJunctionKind hkind, Value.isRoot_of_not_isJunctionKind hkind']

end PostQuery
