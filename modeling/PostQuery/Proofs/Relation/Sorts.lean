import PostQuery.Arguments
import PostQuery.Proofs.Relation.Built
import PostQuery.Proofs.Value.Normal

/-!
# Two ways to tell a group

Whether a node is a group is asked twice, and each time of another text. A builder that is handed
the node looks its kind up as an operator, by the normal text. Whoever meets the node as a term of a
group, or wants to take it for a root, goes by the key of the kind, which is displayed. The two
texts part where the normal text has no words for a value, and there the displayed one shows a
bracket, a quote or a point, with which no junction is spelled.

What remains are objects and enumerations. An object with no text of its own is displayed in
whatever way its class has it shown, and that may be as a junction is spelled. A normal text opens
the member of an enumeration as often as it takes, and a key opens it once, so a member whose value
is a member again may be a group to the one and no group to the other. Of no other kinds can that be
said: `groups_agree`.
-/

namespace PostQuery

/-! ## Characters that no junction is spelled with -/

namespace Text

theorem mem_trimChars {c : Char} {cs : List Char} (h : c ∈ cs) (hc : isBlank c = false) :
    c ∈ trimChars cs := by
  have hdrop : ∀ ds : List Char, c ∈ ds → c ∈ ds.dropWhile isBlank := by
    intro ds hds
    rw [← List.takeWhile_append_dropWhile (p := isBlank) (l := ds), List.mem_append] at hds
    rcases hds with htaken | hleft
    · rw [List.mem_takeWhile_imp htaken] at hc
      cases hc
    · exact hleft
  rw [trimChars, List.mem_reverse]
  exact hdrop _ (List.mem_reverse.2 (hdrop _ h))

theorem toLower_mem_lowerFrom {c : Char} {cs : List Char} (h : c ∈ cs) (hc : c.toNat < 0x80)
    (before : List Char) : c.toLower ∈ lowerFrom before cs := by
  induction cs generalizing before with
  | nil => cases h
  | cons d rest ih =>
      rw [lowerFrom, List.mem_append]
      rcases List.mem_cons.1 h with rfl | hrest
      · have hsigma : c ≠ capitalSigma := by
          rintro rfl
          exact absurd hc (by decide)
        have hdotted : c.toNat ≠ 0x130 := by omega
        simp [hsigma, hdotted, lowerChar, hc]
      · exact .inr (ih hrest _)

end Text

/-- A bracket, a quote or a point. -/
def marks : List Char := ['(', '[', '\x7b', '.', '\'', '"']

/-- Trimming and lowering keep a character that is not blank and has no other lower case. -/
theorem Value.mem_keyForm {c : Char} {s : String} (h : c ∈ s.toList)
    (hblank : Text.isBlank c = false) (hsmall : c.toNat < 0x80) (hlower : c.toLower = c) :
    c ∈ (keyForm s).toList := by
  rw [keyForm, Text.lower, Text.trim, String.toList_ofList, String.toList_ofList]
  have hlowered := Text.toLower_mem_lowerFrom (Text.mem_trimChars h hblank) hsmall []
  rwa [hlower] at hlowered

theorem ofText?_keyForm_eq_none {c : Char} {s : String} (hc : c ∈ marks) (h : c ∈ s.toList) :
    Junction.ofText? (Value.keyForm s) = none := by
  obtain ⟨hblank, hsmall, hlower⟩ :
      Text.isBlank c = false ∧ c.toNat < 0x80 ∧ c.toLower = c := by
    rw [marks] at hc
    fin_cases hc <;> decide
  have hwords : ∀ j ∈ Junction.all, c ∉ j.text.toList := by
    rw [marks] at hc
    fin_cases hc <;> simp [Junction.all, Junction.text]
  have hkey := Value.mem_keyForm h hblank hsmall hlower
  rw [Junction.ofText?, List.find?_eq_none]
  intro j hj heq
  rw [← eq_of_beq heq] at hkey
  exact hwords j hj hkey

namespace Value

/-- The value is a member of an enumeration. -/
def isMember : Value → Bool
  | .junction _ | .comparison _ | .mode _ | .context _ | .member .. => true
  | _ => false

/-- The value is a member of an enumeration whose value is a member again. -/
def isNested (v : Value) : Bool := v.opened.isMember

/-- The value is an object of a class that is not the library's own. -/
def isObject : Value → Bool
  | .object _ => true
  | _ => false

/-- The junction that an object with no text of its own is shown as. -/
def shownJunction? : Value → Option Junction
  | .object o => if o.text.isNone then Junction.ofText? (keyForm o.shown) else none
  | _ => none

/-! ## The displayed text

What has no text of its own is displayed with a mark, with null and objects for the only exceptions,
and so is a member of an enumeration. -/

theorem exists_mark_quoteOctets (escaped : Char → Char) (octets : List UInt8) :
    ∃ c ∈ marks, c ∈ (Text.quoteOctets escaped octets).toList := by
  refine ⟨Text.quoteFor (octets.map Text.charOfByte), ?_, ?_⟩
  · rw [Text.quoteFor]
    split <;> decide
  · simp [Text.quoteOctets]

/-- A node is shown with the key of its kind. -/
theorem inspect_expr (kind : Value) (terms : List Value) (negated : Bool) :
    (Value.expr kind terms negated).inspect =
      (if negated then "NOT " else "") ++ kind.kindKey ++ "(" ++ commas (inspectAll terms)
        ++ ")" := by
  cases kind <;> rfl

theorem exists_mark_inspect {v : Value} (h : v.isScalar = false) (hmember : v.isMember = false)
    (hnull : v ≠ .null) (hobject : v.isObject = false) : ∃ c ∈ marks, c ∈ v.inspect.toList := by
  have hround : '(' ∈ marks := by decide
  have hsquare : '[' ∈ marks := by decide
  have hcurly : '\x7b' ∈ marks := by decide
  cases v with
  | null => exact absurd rfl hnull
  | bytes octets => exact exists_mark_quoteOctets _ octets
  | buffer octets =>
      show ∃ c ∈ marks, c ∈ ("bytearray(" ++ Text.quoteBuffer octets ++ ")").toList
      exact ⟨'(', hround, by simp⟩
  | list items =>
      show ∃ c ∈ marks, c ∈ ("[" ++ commas (inspectAll items) ++ "]").toList
      exact ⟨'[', hsquare, by simp⟩
  | tuple items =>
      refine ⟨'(', hround, ?_⟩
      rcases items with _ | ⟨one, _ | ⟨two, rest⟩⟩
      · show '(' ∈ ("(" ++ commas (inspectAll []) ++ ")").toList
        simp
      · show '(' ∈ ("(" ++ inspect one ++ ",)").toList
        simp
      · show '(' ∈ ("(" ++ commas (inspectAll (one :: two :: rest)) ++ ")").toList
        simp
  | set items =>
      show ∃ c ∈ marks, c ∈
        (if items.isEmpty then "set()" else braced (commas (inspectAll items))).toList
      split
      · exact ⟨'(', hround, by simp⟩
      · exact ⟨'\x7b', hcurly, by simp [braced]⟩
  | fixedSet items =>
      show ∃ c ∈ marks, c ∈ (if items.isEmpty then "frozenset()"
        else "frozenset(" ++ braced (commas (inspectAll items)) ++ ")").toList
      refine ⟨'(', hround, ?_⟩
      split <;> simp
  | dict entries =>
      show ∃ c ∈ marks, c ∈ (braced (commas (inspectEntries entries))).toList
      exact ⟨'\x7b', hcurly, by simp [braced]⟩
  | again mark isDict =>
      show ∃ c ∈ marks, c ∈ (if isDict then braced "..." else "[...]").toList
      split
      · exact ⟨'\x7b', hcurly, by simp [braced]⟩
      · exact ⟨'[', hsquare, by simp⟩
  | literal w =>
      show ∃ c ∈ marks, c ∈ ("lit(" ++ inspect w ++ ")").toList
      exact ⟨'(', hround, by simp⟩
  | «variable» key =>
      show ∃ c ∈ marks, c ∈ ("var(" ++ (plain? key).getD (inspect key) ++ ")").toList
      exact ⟨'(', hround, by simp⟩
  | field e n =>
      show ∃ c ∈ marks, c ∈
        ((plain? e).getD (inspect e) ++ "." ++ (plain? n).getD (inspect n)).toList
      exact ⟨'.', by decide, by simp⟩
  | expr kind terms negated =>
      rw [inspect_expr]
      exact ⟨'(', hround, by simp⟩
  | member => cases hmember
  | object => cases hobject
  | _ => cases h

theorem exists_mark_display_of_isMember {v : Value} (h : v.isMember = true) :
    ∃ c ∈ marks, c ∈ v.display.toList := by
  have hpoint : ∀ before after : String, '.' ∈ (before ++ "." ++ after).toList := by simp
  refine ⟨'.', by decide, ?_⟩
  cases v with
  | junction j => exact hpoint "BooleanType" j.name
  | comparison c => exact hpoint "RelationalType" c.name
  | mode m => exact hpoint "RelationMode" m.name
  | context c => exact hpoint "OperatorContext" c.name
  | member enumeration name _ => exact hpoint enumeration.name name
  | _ => cases h

theorem exists_mark_display {v : Value} (h : v.isScalar = false) (hnull : v ≠ .null)
    (hobject : v.isObject = false) : ∃ c ∈ marks, c ∈ v.display.toList := by
  cases hmember : v.isMember with
  | true => exact exists_mark_display_of_isMember hmember
  | false =>
      have hinspect := exists_mark_inspect h hmember hnull hobject
      cases v with
      | text | decimal | dateTime | date | time => cases h
      | junction | comparison | mode | context | member => cases hmember
      | object => cases hobject
      | _ => exact hinspect

/-! ## The two texts of a kind -/

theorem normalText_opened (v : Value) : v.opened.normalText = v.normalText := by
  cases v <;> rfl

/-- The displayed text is the normal one, or shows a mark where that is missing; and truth values are
no junctions in either way. -/
theorem ofText?_display {v : Value} (h : v.isMember = false) (hobject : v.isObject = false) :
    Junction.ofText? (keyForm v.display) = v.junction? := by
  cases hscalar : v.isScalar with
  | false =>
      have hnone : Junction.ofText? (keyForm v.display) = none := by
        by_cases hnull : v = .null
        · rw [hnull]
          rfl
        · obtain ⟨c, hc, hmem⟩ := exists_mark_display hscalar hnull hobject
          exact ofText?_keyForm_eq_none hc hmem
      have htext : ¬ ∃ s, v.normalText = .ok s := by
        rw [exists_normalText, hscalar]
        exact Bool.false_ne_true
      rw [hnone, junction?, Context.key]
      cases hv : v.normalText with
      | ok s => exact absurd ⟨s, hv⟩ htext
      | error w => rfl
  | true =>
      cases v with
      | bool b => cases b <;> rfl
      | junction | comparison | mode | context | member => cases h
      | object => cases hobject
      | text | int | float | decimal | dateTime | date | time => rfl
      | _ => cases hscalar

/-- An object is found by its own text in both ways, or by the shown one in one of them. -/
theorem ofText?_display_object (o : Object) :
    Junction.ofText? (keyForm (Value.object o).display) =
      (Value.object o).junction?.or (Value.object o).shownJunction? := by
  have hdisplay : (Value.object o).display = o.text.getD o.shown := rfl
  have htext : (Value.object o).normalText = o.text.elim (.error (.object o)) .ok := rfl
  rw [hdisplay, junction?, Context.key, htext, shownJunction?]
  cases o.text with
  | none =>
      simp only [Option.getD_none, Option.elim_none, Except.map, Option.none_or,
        Option.isNone_none, if_pos]
  | some s =>
      simp only [Option.getD_some, Option.elim_some, Except.map, Option.isNone_some,
        Bool.false_eq_true, if_false, Option.or_none]

theorem shownJunction?_of_not_isObject {v : Value} (h : v.isObject = false) :
    v.shownJunction? = none := by
  cases v <;> first | rfl | cases h

theorem ofText?_kindKey {kind : Value} (h : kind.isNested = false) :
    Junction.ofText? kind.kindKey = kind.junction?.or kind.opened.shownJunction? := by
  have hjunction : kind.junction? = kind.opened.junction? := by
    rw [junction?, junction?, Context.key, Context.key, normalText_opened]
  rw [kindKey, hjunction]
  rw [isNested] at h
  generalize kind.opened = v at h
  cases hobject : v.isObject with
  | false => rw [ofText?_display h hobject, shownJunction?_of_not_isObject hobject, Option.or_none]
  | true =>
      cases v with
      | object o => exact ofText?_display_object o
      | _ => cases hobject

theorem ofText?_kindKey_of_isNested {kind : Value} (h : kind.isNested = true) :
    Junction.ofText? kind.kindKey = none := by
  obtain ⟨c, hc, hmem⟩ := exists_mark_display_of_isMember h
  exact ofText?_keyForm_eq_none hc hmem

/-- A nested member is no object, and an object that is shown as a junction has no normal text. -/
theorem shownJunction?_eq_some {kind : Value} {j : Junction}
    (h : kind.opened.shownJunction? = some j) : kind.isNested = false ∧ kind.junction? = none := by
  rw [isNested, junction?, Context.key, ← normalText_opened]
  generalize kind.opened = v at h
  cases v with
  | object o =>
      rw [shownJunction?] at h
      split at h
      · next hnone => simp [isMember, normalText, Option.isNone_iff_eq_none.1 hnone, Except.map]
      · cases h
  | _ => cases h

/-- A key finds the junctions that the normal text finds, if the kind is no nested member, and those
that objects are shown as. -/
theorem ofText?_kindKey_eq_some {kind : Value} {j : Junction} :
    Junction.ofText? kind.kindKey = some j ↔
      kind.junction? = some j ∧ kind.isNested = false ∨ kind.opened.shownJunction? = some j := by
  cases hnested : kind.isNested with
  | true =>
      rw [ofText?_kindKey_of_isNested hnested]
      refine iff_of_false nofun ?_
      rintro (⟨-, hfalse⟩ | hshown)
      · cases hfalse
      · rw [(shownJunction?_eq_some hshown).1] at hnested
        cases hnested
  | false =>
      rw [ofText?_kindKey hnested, Option.or_eq_some_iff]
      refine or_congr (by simp) (and_iff_right_of_imp fun hshown => ?_)
      exact (shownJunction?_eq_some hshown).2

end Value

theorem Junction.ofText?_eq_some {s : String} {j : Junction} : ofText? s = some j ↔ j.text = s := by
  constructor
  · intro h
    exact eq_of_beq (List.find?_some (p := fun j : Junction => j.text == s) h)
  · rintro rfl
    cases j <;> rfl

theorem supports_relation (kind : Value) :
    Context.relation.supports kind = kind.junction?.isSome := by
  rw [Context.supports, Value.junction?]
  cases Context.key kind with
  | error v => rfl
  | ok k => cases hj : Junction.ofText? k <;> simp [Context.pair?, hj]

theorem isJunctionKind_iff {kind : Value} :
    kind.isJunctionKind = true ↔
      Context.relation.supports kind = true ∧ kind.isNested = false ∨
        kind.opened.shownJunction?.isSome = true := by
  rw [Value.isJunctionKind, supports_relation, Option.isSome_iff_exists, Option.isSome_iff_exists,
    Option.isSome_iff_exists]
  simp only [Value.ofText?_kindKey_eq_some, exists_or, exists_and_right]

/-- A nested member is never taken for a group. -/
theorem isJunctionKind_of_isNested {kind : Value} (h : kind.isNested = true) :
    kind.isJunctionKind = false := by
  rw [Value.isJunctionKind, Value.ofText?_kindKey_of_isNested h, Option.isSome_none]

theorem isRoot_iff {x : Value} :
    x.isRoot = true ↔ ∃ kind terms negated, x = .expr kind terms negated ∧
      (Context.relation.resolve kind negated = .ok .and ∧ kind.isNested = false ∨
        kind.opened.shownJunction? = some .and ∧ negated = false) := by
  have hand : ∀ j, (Context.relationPair j).plain = Token.and ↔ j = .and := by
    intro j
    cases j <;> decide
  have hroot : ∀ kind terms negated, (Value.expr kind terms negated).isRoot = true ↔
      (Context.relation.resolve kind negated = .ok .and ∧ kind.isNested = false ∨
        kind.opened.shownJunction? = some .and ∧ negated = false) := by
    intro kind terms negated
    rw [Value.isRoot, Bool.and_eq_true, beq_iff_eq, eq_comm, ← Junction.ofText?_eq_some,
      Value.ofText?_kindKey_eq_some, Context.resolve_relation_eq_ok]
    simp only [hand, exists_eq_right, Bool.not_eq_true']
    tauto
  constructor
  · intro h
    cases x with
    | expr kind terms negated => exact ⟨kind, terms, negated, rfl, (hroot kind terms negated).1 h⟩
    | _ => cases h
  · rintro ⟨kind, terms, negated, rfl, h⟩
    exact (hroot kind terms negated).2 h

/-! ## Groups in groups -/

section

variable {b : Builder} {mode : Mode} {kind : Value} {terms : List Value} {negated : Bool} {d : Dict}

/-- Wherever it stands among terms that have their parts, the term has the part in the block of
every group. -/
def Builder.IsPartAnywhere (b : Builder) (mode : Mode) (x : Value) (part : Dict) : Prop :=
  ∀ kind before after token ds es, b.resolve .relation kind false = .ok token →
    b.relationTerms (b.leaf .standard mode) before = .ok ds →
    b.relationTerms (b.leaf .standard mode) after = .ok es →
      b.standardRelation mode (.expr kind (before ++ x :: after) false)
        = .ok (Builder.block token (ds ++ part :: es))

theorem isPartAnywhere_of_part {x : Value} (h : b.part (b.leaf .standard mode) x = .ok d) :
    b.IsPartAnywhere mode x d := by
  intro kind before after token ds es htoken hbefore hafter
  refine relation_expr_eq_ok.2 ⟨token, _, htoken, ?_, rfl⟩
  rw [relationTerms_eq_ok] at hbefore hafter ⊢
  exact List.rel_append hbefore (.cons (part_eq_ok.1 h) hafter)

/-- What is spelled as a junction makes no clause: if it is a part, then as a group. -/
theorem isJunctionKind_of_part {token : Token}
    (hresolve : b.resolve .relation kind negated = .ok token)
    (h : b.part (b.leaf .standard mode) (.expr kind terms negated) = .ok d) :
    kind.isJunctionKind = true := by
  cases part_eq_ok.1 h with
  | group hkind _ => exact hkind
  | comparison _ hleaf =>
      obtain ⟨-, j, hj, -⟩ :=
        Context.resolve_relation_eq_ok.1 (Builder.context_resolve_of_resolve hresolve)
      obtain ⟨htoken, -, -, -, -⟩ := (leaf_eq_ok.1 hleaf).2
      have hmode := Mode.resolve_context_eq_ok.1 (Builder.context_resolve_of_resolve htoken)
      rw [Mode.token?, Option.bind_assoc] at hmode
      obtain ⟨c, hc, -⟩ := Option.bind_eq_some_iff.1 hmode
      rw [Value.junction?_eq_none hc] at hj
      cases hj

/-- No group that the node is a term of has a block. -/
def Builder.IsPartNowhere (b : Builder) (mode : Mode) (x : Value) : Prop :=
  ∀ kind terms negated d, x ∈ terms → b.standardRelation mode (.expr kind terms negated) ≠ .ok d

theorem isPartAnywhere_of_standardRelation (hnested : kind.isNested = false)
    (h : b.standardRelation mode (.expr kind terms negated) = .ok d) :
    b.IsPartAnywhere mode (.expr kind terms negated) d := by
  obtain ⟨token, _, hresolve, -, -⟩ := relation_expr_eq_ok.1 h
  obtain ⟨-, j, hj, -⟩ :=
    Context.resolve_relation_eq_ok.1 (Builder.context_resolve_of_resolve hresolve)
  have hkind : kind.isJunctionKind = true := by
    rw [isJunctionKind_iff, supports_relation, hj]
    exact .inl ⟨rfl, hnested⟩
  refine isPartAnywhere_of_part ?_
  rw [Builder.part, if_pos hkind]
  exact h

theorem isPartNowhere_of_standardRelation (hnested : kind.isNested = true)
    (h : b.standardRelation mode (.expr kind terms negated) = .ok d) :
    b.IsPartNowhere mode (.expr kind terms negated) := by
  intro kind' terms' negated' d' hmem hgroup
  obtain ⟨token, _, hresolve, -, -⟩ := relation_expr_eq_ok.1 h
  obtain ⟨-, parts, -, hparts, -⟩ := relation_expr_eq_ok.1 hgroup
  obtain ⟨part, hpart⟩ := exists_forall₂_iff.1 ⟨parts, relationTerms_eq_ok.1 hparts⟩ _ hmem
  have hkind := isJunctionKind_of_part hresolve (part_eq_ok.2 hpart)
  rw [isJunctionKind_of_isNested hnested] at hkind
  cases hkind

end

/-! ## The two sorts -/

/-- A node is taken for a group if relations have an operator for its kind, and for a root if that
operator is the conjunction, and the block that it has on its own is its part in any group. There are
two exceptions. For nested members none of the three is true, and an object with no text of its own
is taken for the junction that it is shown as, though no operator is found for it. -/
theorem groups_agree (b : Builder) (mode : Mode) (x kind : Value) (terms : List Value)
    (negated : Bool) :
    (kind.isJunctionKind = true ↔
      Context.relation.supports kind = true ∧ kind.isNested = false ∨
        kind.opened.shownJunction?.isSome = true) ∧
    (x.isRoot = true ↔ ∃ kind terms negated, x = .expr kind terms negated ∧
      (Context.relation.resolve kind negated = .ok .and ∧ kind.isNested = false ∨
        kind.opened.shownJunction? = some .and ∧ negated = false)) ∧
    ∀ d : Dict, b.standardRelation mode (.expr kind terms negated) = .ok d →
      (kind.isNested = false → b.IsPartAnywhere mode (.expr kind terms negated) d) ∧
      (kind.isNested = true → b.IsPartNowhere mode (.expr kind terms negated)) :=
  ⟨isJunctionKind_iff, isRoot_iff, fun _ h =>
    ⟨fun hnested => isPartAnywhere_of_standardRelation hnested h,
      fun hnested => isPartNowhere_of_standardRelation hnested h⟩⟩

/-- A group whose kind is a member for the text of a junction, in a group of its own. -/
theorem groups_agree_of_member :
    let price := Value.expr (.comparison .greater)
      [.field (.text "meta") (.text "price"), .literal (.int 5)] false
    let x := Value.expr (.member ⟨"Kind", 0⟩ "ANY" (.text " Or ")) [price] false
    let clause : Dict := [(.text "key", .text "price"), (.text "value", .int 5),
      (.text "type", .text "NUMERIC"), (.text "compare", .text ">")]
    let block : Dict := [(.text "relation", .text "OR"), (.int 0, .dict clause)]
    let b : Builder := {}
    b.standardRelation .postMeta x = .ok block ∧
      b.standardRelation .postMeta (.expr (.junction .and) [x] false)
        = .ok [(.text "relation", .text "AND"), (.int 0, .dict block)] := by
  intro price x clause block b
  have hprice : b.leaf .standard .postMeta price = .ok clause := by
    refine leaf_eq_ok.2 ⟨Value.isJunctionKind_comparison _, Builder.metaClause_eq_ok.1 ?_⟩
    cbv
  have hx : b.standardRelation .postMeta x = .ok block :=
    relation_expr_eq_ok.2 ⟨.or, _, by cbv, relationTerms_eq_ok.2
      (.cons (.comparison (Value.isJunctionKind_comparison _) hprice) .nil), rfl⟩
  have hany := ((groups_agree b .postMeta x _ _ _).2.2 block hx).1 rfl
  exact ⟨hx, hany (.junction .and) [] [] .and [] [] rfl rfl rfl⟩

/-- A member whose value is the conjunction has the operator of the conjunction and a block of its
own, but it is neither taken for a root nor for a group, and is refused inside of one. -/
theorem not_groups_agree :
    let kind := Value.member ⟨"Kind", 0⟩ "GROUP" (.junction .and)
    let x := Value.expr kind [] false
    let b : Builder := {}
    (Context.relation.supports kind = true ∧ kind.isJunctionKind = false) ∧
      (Context.relation.resolve kind false = .ok .and ∧ x.isRoot = false) ∧
      b.standardRelation .postMeta x = .ok [(.text "relation", .text "AND")] ∧
        ∀ d, b.standardRelation .postMeta (.expr (.junction .and) [x] false) ≠ .ok d := by
  intro kind x b
  have hbuilt : b.standardRelation .postMeta x = .ok [(.text "relation", .text "AND")] :=
    relation_expr_eq_ok.2 ⟨.and, [], rfl, rfl, rfl⟩
  have hnowhere := isPartNowhere_of_standardRelation (b := b) rfl hbuilt
  refine ⟨⟨rfl, isJunctionKind_of_isNested rfl⟩, ⟨rfl, ?_⟩, hbuilt,
    fun d => hnowhere _ [x] _ d (List.mem_singleton_self _)⟩
  rw [Bool.eq_false_iff, Ne, isRoot_iff]
  rintro ⟨_, _, _, hx, hkind⟩
  injection hx with hsame
  rw [← hsame] at hkind
  obtain ⟨-, hkind⟩ | ⟨hkind, -⟩ := hkind <;> cases hkind

end PostQuery
