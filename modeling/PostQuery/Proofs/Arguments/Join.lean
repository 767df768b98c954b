import PostQuery.Proofs.Arguments.Order
import PostQuery.Proofs.Dict.Update

/-!
# Roots put together

The terms of a root are built one after the other, and none of them sees what the others have made.
So a root can be cut anywhere: the arguments of both parts are those of the first part updated with
those of the second, and what stops a part stops the whole.

Each term makes a dictionary of its own, which goes into the arguments as it is. What is left of it
in the end depends on the keys of the others only.
-/

namespace PostQuery.Builder

variable {b : Builder} {ss : List Strategy} {x : Value} {e : Dict}

/-! ## The entries of one term -/

theorem isProper_of_compare (h : b.clause .compare x = .ok e) : e.IsProper := by
  cases x with
  | expr kind terms negated =>
      obtain ⟨-, key, value, token, -, h⟩ := compare_eq_ok.1 h
      rw [compareEntries, bind_eq_ok] at h
      obtain ⟨key', hkey, h⟩ := h
      rw [bind_eq_ok] at h
      obtain ⟨operator, hoperator, h⟩ := h
      cases h
      rw [unbroken, mapError_eq_ok, Value.asKey_eq_ok] at hkey
      obtain ⟨hisKey, rfl⟩ := hkey
      refine (Dict.isProper_singleton hisKey).update ?_
      rw [operatorEntry_eq_ok hoperator, written]
      split
      · exact List.forall_mem_singleton.2 (Value.isKey_text _)
      · intro k hk
        cases hk
  | _ => exact absurd h refuseWith_ne_ok

theorem isProper_of_attempt {s : Strategy} (h : s.attempt b x = .ok e) : e.IsProper := by
  cases s with
  | compare => exact isProper_of_compare h
  | metaQuery | taxonomyQuery =>
      obtain ⟨block, -, rfl⟩ := map_eq_ok.1 h
      exact Dict.isProper_singleton (Value.isKey_text _)

theorem isProper_of_rootTerm (h : b.rootTerm ss x = .ok e) : e.IsProper := by
  rw [rootTerm] at h
  split at h
  · obtain ⟨s, -, hs⟩ := exists_attempt_of_firstSuccess h
    exact isProper_of_attempt hs
  · exact absurd h refuseWith_ne_ok

/-! ## The entries of all terms -/

theorem rootTerms_eq_mapM (terms : List Value) (d : Dict) :
    b.rootTerms ss terms d =
      (terms.mapM (b.rootTerm ss)).map fun es => d.update es.flatten := by
  induction terms generalizing d with
  | nil => rfl
  | cons x terms ih =>
      rw [rootTerms, List.mapM_cons]
      cases b.rootTerm ss x with
      | error o => rfl
      | ok e =>
          change b.rootTerms ss terms (d.update e) = _
          rw [ih]
          cases terms.mapM (b.rootTerm ss) with
          | error o => rfl
          | ok es => exact congrArg Except.ok (Dict.update_append d e es.flatten).symm

/-- The terms make the entries, each of them its own. -/
def TermsEmit (b : Builder) (ss : List Strategy) (terms : List Value) (es : List Dict) : Prop :=
  List.Forall₂ (fun x e => b.rootTerm ss x = .ok e) terms es

section

variable {terms terms' : List Value} {es es' : List Dict} {d : Dict}

theorem TermsEmit.isProper (h : b.TermsEmit ss terms es) : ∀ e ∈ es, e.IsProper :=
  forall_mem_of_forall₂ h fun _ _ => isProper_of_rootTerm

theorem TermsEmit.isKey (h : b.TermsEmit ss terms es) :
    ∀ k ∈ es.flatten.map Prod.fst, k.IsKey := by
  intro k hk
  rw [List.map_flatten, List.mem_flatten] at hk
  obtain ⟨ks, hks, hk⟩ := hk
  obtain ⟨e, he, rfl⟩ := List.mem_map.1 hks
  exact (h.isProper e he).keys k hk

variable {kind : Value}

theorem isRoot_of_kindKey (hkind : kind.kindKey = Junction.and.text) (terms : List Value) :
    (Value.expr kind terms false).isRoot = true := by
  rw [Value.isRoot, hkind]
  rfl

theorem exists_of_isRoot (h : x.isRoot = true) :
    ∃ kind terms, x = .expr kind terms false ∧ kind.kindKey = Junction.and.text := by
  cases x with
  | expr kind terms negated =>
      rw [Value.isRoot, Bool.and_eq_true, Bool.not_eq_true'] at h
      obtain ⟨hkind, rfl⟩ := h
      exact ⟨kind, terms, rfl, eq_of_beq hkind⟩
  | _ => cases h

theorem arguments_eq_mapM (hkind : kind.kindKey = Junction.and.text) (terms : List Value) :
    b.arguments ss (.expr kind terms false) =
      (terms.mapM (b.rootTerm ss)).map fun es => Dict.ofEntries es.flatten := by
  rw [arguments.eq_def, if_pos (isRoot_of_kindKey hkind terms)]
  exact rootTerms_eq_mapM terms []

theorem arguments_eq_ok_iff (hkind : kind.kindKey = Junction.and.text) :
    b.arguments ss (.expr kind terms false) = .ok d ↔
      ∃ es, b.TermsEmit ss terms es ∧ Dict.ofEntries es.flatten = d := by
  rw [arguments_eq_mapM hkind, map_eq_ok]
  simp only [mapM_eq_ok, TermsEmit]

theorem arguments_join (hkind : kind.kindKey = Junction.and.text) (xs ys : List Value) :
    b.arguments ss (.expr kind (xs ++ ys) false) =
      (do
        let d ← b.arguments ss (.expr kind xs false)
        let e ← b.arguments ss (.expr kind ys false)
        pure (d.update e)) := by
  rw [arguments_eq_mapM hkind, arguments_eq_mapM hkind, arguments_eq_mapM hkind, List.mapM_append]
  cases hxs : xs.mapM (b.rootTerm ss) with
  | error o => rfl
  | ok es =>
      cases hys : ys.mapM (b.rootTerm ss) with
      | error o => rfl
      | ok fs =>
          have hes : b.TermsEmit ss xs es := mapM_eq_ok.1 hxs
          have hfs : b.TermsEmit ss ys fs := mapM_eq_ok.1 hys
          have hd : (Dict.ofEntries es.flatten).IsProper := Dict.isProper_nil.update hes.isKey
          change Except.ok (Dict.ofEntries (es ++ fs).flatten) =
            .ok ((Dict.ofEntries es.flatten).update (Dict.ofEntries fs.flatten))
          rw [Dict.ofEntries.eq_def fs.flatten, Dict.update_update hd Dict.isProper_nil hfs.isKey,
            Dict.ofEntries, List.flatten_append, Dict.update_append]
          rfl

/-- Terms that have no key in common make the same entries in any order. -/
theorem arguments_perm (hkind : kind.kindKey = Junction.and.text)
    (h : b.TermsEmit ss terms es)
    (hapart : es.Pairwise fun e f => ∀ k ∈ e.map Prod.fst, ∀ j ∈ f.map Prod.fst, k.eqv j = false)
    (hperm : terms.Perm terms') :
    ∃ d', b.arguments ss (.expr kind terms' false) = .ok d' ∧
      (Dict.ofEntries es.flatten).Perm d' := by
  obtain ⟨es', h', hperm'⟩ := List.perm_comp_forall₂ hperm.symm h
  have hdistinct : (es.flatten.map Prod.fst).Pairwise fun k j => k.eqv j = false := by
    rw [List.map_flatten, List.pairwise_flatten, List.pairwise_map]
    refine ⟨fun ks hks => ?_, hapart⟩
    obtain ⟨e, he, rfl⟩ := List.mem_map.1 hks
    exact (h.isProper e he).distinct
  have hentries : es.flatten.Perm es'.flatten := hperm'.symm.flatten
  have hdistinct' : (es'.flatten.map Prod.fst).Pairwise fun k j => k.eqv j = false := by
    have hkeys : (es.flatten.map Prod.fst).Pairwise fun k j =>
        k.IsKey ∧ j.IsKey ∧ k.eqv j = false :=
      hdistinct.imp_of_mem fun hk hj hne => ⟨h.isKey _ hk, h.isKey _ hj, hne⟩
    have hkeys' := hkeys.perm (hentries.map Prod.fst) fun ⟨hk, hj, hne⟩ =>
      ⟨hj, hk, (Value.eqv_comm hj hk).trans hne⟩
    exact hkeys'.imp fun ⟨_, _, hne⟩ => hne
  refine ⟨_, (arguments_eq_ok_iff hkind).2 ⟨es', h', rfl⟩, ?_⟩
  rw [Dict.ofEntries_eq_self hdistinct, Dict.ofEntries_eq_self hdistinct']
  exact hentries

end

/-- A root can be cut anywhere: its arguments are those of the first terms updated with those of the
others, and if either of them are not built it fails in the same way. So the keys of the arguments
are those that the terms emit, where they come first, and each has the value of the last term that
emits it. If no two terms emit the same key, their order is only that of the entries. -/
theorem arguments_append (b : Builder) (ss : List Strategy) (kind : Value)
    (hkind : kind.kindKey = Junction.and.text) :
    (∀ xs ys, b.arguments ss (.expr kind (xs ++ ys) false) =
      (do
        let d ← b.arguments ss (.expr kind xs false)
        let e ← b.arguments ss (.expr kind ys false)
        pure (d.update e))) ∧
    ∀ xs d, b.arguments ss (.expr kind xs false) = .ok d →
      ∃ es, b.TermsEmit ss xs es ∧ (∀ e ∈ es, e.IsProper) ∧
        d.map Prod.fst = Dict.firsts (es.flatten.map Prod.fst) ∧
        (∀ k v, (k, v) ∈ d → ∃ before e after, es = before ++ e :: after ∧ e.Emits k v ∧
          ∀ f ∈ after, ∀ j ∈ f.map Prod.fst, k.eqv j = false) ∧
        ((es.Pairwise fun e f =>
            ∀ k ∈ e.map Prod.fst, ∀ j ∈ f.map Prod.fst, k.eqv j = false) →
          ∀ xs', xs.Perm xs' →
            ∃ d', b.arguments ss (.expr kind xs' false) = .ok d' ∧ d.Perm d') := by
  refine ⟨arguments_join hkind, fun xs d hd => ?_⟩
  obtain ⟨es, hes, rfl⟩ := (arguments_eq_ok_iff hkind).1 hd
  refine ⟨es, hes, hes.isProper, Dict.keys_ofEntries _, fun k v hkv => ?_, ?_⟩
  · obtain hlast | ⟨hnone, -⟩ := Dict.last_emits_or_mem Dict.isProper_nil hes.isProper hkv
    · exact hlast
    · cases hnone
  · exact fun hapart xs' hperm => arguments_perm hkind hes hapart hperm

/-- Two comparisons of one variable: the second value stands where the first one was put. Without
the second one there are two keys, and the terms may change places. -/
theorem arguments_append_of_same_key :
    let first := Value.expr (.comparison .equal) [.variable (.text "a"), .literal (.int 1)] false
    let other := Value.expr (.comparison .equal) [.variable (.text "b"), .literal (.int 2)] false
    let second := Value.expr (.comparison .greater) [.variable (.text "a"), .literal (.int 3)] false
    let root := fun terms => Value.expr (.junction .and) terms false
    let b : Builder := {}
    b.arguments Strategy.standard (root ([first, other] ++ [second]))
        = .ok [(.text "a", .int 3), (.text "b", .int 2), (.text "compare", .text ">")] ∧
      ∃ d, b.arguments Strategy.standard (root [other, first]) = .ok d ∧
        List.Perm [(.text "a", .int 1), (.text "b", .int 2)] d := by
  intro first other second root b
  have hfirst : b.Makes first ⟨"a", .int 1, .equal⟩ := makes_of_resolve rfl rfl
  have hother : b.Makes other ⟨"b", .int 2, .equal⟩ := makes_of_resolve rfl rfl
  have hsecond : b.Makes second ⟨"a", .int 3, .greater⟩ := makes_of_resolve rfl rfl
  have hkind : (Value.junction .and).kindKey = Junction.and.text := by
    decide +kernel
  have hbuilt : ∀ xs ps, List.Forall₂ b.Makes xs ps →
      b.arguments Strategy.standard (root xs) = .ok (b.run ps []) := by
    intro xs ps h
    obtain hok | ⟨hcatalog, -⟩ := arguments_of_makes (isRoot_of_kindKey hkind xs) h
    · exact hok
    · exact absurd rfl hcatalog
  have hemits : ∀ {x p e}, b.Makes x p → b.rootTerm Strategy.standard x = .ok e →
      e = b.entries p := by
    intro x p e hmakes he
    obtain hok | ⟨hcatalog, -⟩ := rootTerm_of_makes hmakes
    · rw [hok] at he
      cases he
      rfl
    · exact absurd rfl hcatalog
  obtain ⟨hjoin, hterms⟩ := arguments_append b Strategy.standard (.junction .and) hkind
  have hfront : b.arguments Strategy.standard (root [first, other])
      = .ok [(.text "a", .int 1), (.text "b", .int 2)] := by
    rw [hbuilt _ _ (.cons hfirst (.cons hother .nil))]
    cbv
  constructor
  · rw [hjoin, hfront, hbuilt _ _ (.cons hsecond .nil)]
    cbv
  · obtain ⟨es, hes, -, -, -, hperm⟩ := hterms _ _ hfront
    cases hes with
    | cons he hrest =>
        cases hrest with
        | cons he' hnil =>
            cases hnil
            rw [hemits hfirst he, hemits hother he'] at hperm
            refine hperm ?_ _ (.swap other first [])
            refine List.pairwise_pair.2 fun k hk j hj => ?_
            rw [List.mem_singleton.1 hk, List.mem_singleton.1 hj, Value.eqv_text]
            decide

end PostQuery.Builder
