import PostQuery.Proofs.Arguments.Join
import PostQuery.Proofs.Relation.Path

/-!
# What a root is refused for

A root is gone through up to the first term that nothing can be done with, and the refusal is about
that term and no other: terms after it are never looked at, and those before it leave no trace. The
refusal of a term that was tried is a list of what each strategy had to say, in their order, and it
is their own words: trying a term with others before makes no difference to a strategy.

A strategy that breaks ends everything, and nothing is found out about the term or those after it.
So a root is refused exactly if one of its terms is, as long as none of them breaks.
-/

namespace PostQuery

/-- The terms of a node. -/
def Value.nodeTerms : Value → List Value
  | .expr _ terms _ => terms
  | _ => []

/-- The failure is the refusal of the value. -/
def Failure.IsAbout (y : Value) (f : Failure) : Prop :=
  ∃ message cause causes, f = .unsupported message y cause causes

namespace Builder

variable {b : Builder} {ss : List Strategy} {x y : Value} {f : Failure} {m : Misuse}

/-- The value is a node that some of the strategies build. -/
def IsAccepted (b : Builder) (ss : List Strategy) (y : Value) : Prop :=
  y.isExpr = true ∧ ∃ s ∈ ss, ∃ d, s.attempt b y = .ok d

/-- The failure is what the strategy itself says of the value, and it is about that value. -/
def Objects (b : Builder) (y : Value) (s : Strategy) (f : Failure) : Prop :=
  s.attempt b y = .error (.refused f) ∧ f.IsAbout y

/-- The failure says what is wrong with the root: with the root itself, or with the first of its
terms that is no node or that no strategy builds. -/
inductive IsDiagnosis (b : Builder) (ss : List Strategy) : Value → Failure → Prop
  | root {x : Value} (hroot : x.isRoot = false) :
      IsDiagnosis b ss x (.unsupported (b.catalog.reword Complaint.root.text) x none [])
  | noNode {kind : Value} {before : List Value} {y : Value} {after : List Value}
      (hroot : (Value.expr kind (before ++ y :: after) false).isRoot = true)
      (hbefore : ∀ z ∈ before, b.IsAccepted ss z) (hy : y.isExpr = false) :
      IsDiagnosis b ss (.expr kind (before ++ y :: after) false)
        (.unsupported (b.catalog.reword Complaint.rootTerm.text) y none [])
  | noStrategy {kind : Value} {before : List Value} {y : Value} {after : List Value}
      {fs : List Failure}
      (hroot : (Value.expr kind (before ++ y :: after) false).isRoot = true)
      (hbefore : ∀ z ∈ before, b.IsAccepted ss z) (hy : y.isExpr = true)
      (hfs : List.Forall₂ (b.Objects y) ss fs) :
      IsDiagnosis b ss (.expr kind (before ++ y :: after) false)
        (.unsupported (b.catalog.reword Complaint.noStrategy.text) y none fs)

/-- The root breaks at one of its terms, whose turn comes because all terms before it are built, at
one of the strategies, whose turn comes because all strategies before it refuse the term. -/
inductive BreaksWith (b : Builder) (ss : List Strategy) : Value → Misuse → Prop
  | strategy {kind : Value} {before : List Value} {y : Value} {after : List Value}
      {tried : List Strategy} {s : Strategy} {rest : List Strategy} {m : Misuse}
      (hroot : (Value.expr kind (before ++ y :: after) false).isRoot = true)
      (hbefore : ∀ z ∈ before, ∃ e, b.rootTerm ss z = .ok e) (hy : y.isExpr = true)
      (hss : ss = tried ++ s :: rest)
      (htried : ∀ t ∈ tried, ∃ g, t.attempt b y = .error (.refused g))
      (hbroken : s.attempt b y = .error (.broken m)) :
      BreaksWith b ss (.expr kind (before ++ y :: after) false) m

/-! ## One term -/

theorem refusesOnlyBy_refuseWith (c : Complaint) (cause : Option Failure)
    (causes : List Failure) :
    RefusesOnlyBy (Failure.IsAbout y) (b.refuseWith c y cause causes : Attempt Dict) :=
  fun _ h => ⟨_, _, _, refuseWith_eq_refused h⟩

theorem refusesOnlyBy_relation (leaf : Value → Attempt Dict) :
    RefusesOnlyBy (Failure.IsAbout y) (b.relation leaf y) := by
  cases y with
  | expr kind terms negated =>
      intro f h
      obtain ⟨g, rfl, -⟩ := relation_eq_refused h
      exact ⟨_, _, _, rfl⟩
  | _ =>
      rw [relation.eq_def]
      exact refusesOnlyBy_refuseWith _ _ _

theorem refusesOnlyBy_compare : RefusesOnlyBy (Failure.IsAbout y) (b.clause .compare y) := by
  cases y with
  | expr kind terms negated =>
      rw [compare_expr]
      split
      · exact refusesOnlyBy_refuseWith _ _ _
      · refine .bind (fun f h => ?_) fun (key, value, token) => ?_
        · obtain ⟨g, -, rfl⟩ := within_eq_refused h
          exact ⟨_, _, _, rfl⟩
        · exact refusesOnlyBy_compareEntries _ _ _
  | _ => exact refusesOnlyBy_refuseWith _ _ _

theorem refusesOnlyBy_attempt (s : Strategy) :
    RefusesOnlyBy (Failure.IsAbout y) (s.attempt b y) := by
  cases s with
  | metaQuery | taxonomyQuery => exact (refusesOnlyBy_relation _).map _
  | compare => exact refusesOnlyBy_compare

/-- After the last strategy the refusals of all of them are there, in their order. -/
theorem firstSuccess_eq_refused {failures : List Failure}
    (h : b.firstSuccess y ss failures = .error (.refused f)) :
    ∃ fs, List.Forall₂ (b.Objects y) ss fs ∧
      f = .unsupported (b.catalog.reword Complaint.noStrategy.text) y none (failures ++ fs) := by
  induction ss generalizing failures with
  | nil =>
      refine ⟨[], .nil, ?_⟩
      rw [List.append_nil]
      exact refuseWith_eq_refused h
  | cons s rest ih =>
      rw [firstSuccess] at h
      split at h
      · cases h
      · next g hg =>
          obtain ⟨fs, hfs, rfl⟩ := ih h
          refine ⟨g :: fs, .cons ⟨hg, refusesOnlyBy_attempt s g hg⟩ hfs, ?_⟩
          rw [List.append_assoc, List.singleton_append]
      · cases h

/-- A strategy that breaks is found exactly if those before it refuse. -/
theorem firstSuccess_eq_broken (hcatalog : b.standIns.catalog = none) {failures : List Failure} :
    b.firstSuccess y ss failures = .error (.broken m) ↔
      ∃ tried s rest, ss = tried ++ s :: rest ∧
        (∀ t ∈ tried, ∃ g, t.attempt b y = .error (.refused g)) ∧
        s.attempt b y = .error (.broken m) := by
  induction ss generalizing failures with
  | nil =>
      constructor
      · intro h
        rw [firstSuccess, refuseWith, hcatalog] at h
        cases h
      · rintro ⟨tried, s, rest, hsplit, -⟩
        simp at hsplit
  | cons s rest ih =>
      constructor
      · intro h
        rw [firstSuccess] at h
        split at h
        · cases h
        · next g hg =>
            obtain ⟨tried, t, rest, rfl, htried, ht⟩ := ih.1 h
            exact ⟨s :: tried, t, rest, rfl, List.forall_mem_cons.2 ⟨⟨g, hg⟩, htried⟩, ht⟩
        · next hs =>
            cases h
            exact ⟨[], s, rest, rfl, by simp, hs⟩
      · rintro ⟨tried, t, after, hsplit, htried, ht⟩
        cases tried with
        | nil =>
            cases hsplit
            exact firstSuccess_of_broken ht _ _
        | cons u tried =>
            cases hsplit
            obtain ⟨⟨g, hg⟩, htried⟩ := List.forall_mem_cons.1 htried
            rw [firstSuccess_of_refused hg]
            exact ih.2 ⟨tried, t, after, rfl, htried, ht⟩

theorem isAccepted_of_rootTerm {e : Dict} (h : b.rootTerm ss y = .ok e) :
    b.IsAccepted ss y := by
  rw [rootTerm] at h
  split at h
  · next hy =>
      obtain ⟨s, hs, hattempt⟩ := exists_attempt_of_firstSuccess h
      exact ⟨hy, s, hs, e, hattempt⟩
  · exact absurd h refuseWith_ne_ok

/-! ## All terms -/

theorem arguments_eq_error {kind : Value} {terms : List Value} {o : Obstacle}
    (hkind : kind.kindKey = Junction.and.text) :
    b.arguments ss (.expr kind terms false) = .error o ↔
      ∃ before y after, terms = before ++ y :: after ∧
        (∀ z ∈ before, ∃ e, b.rootTerm ss z = .ok e) ∧ b.rootTerm ss y = .error o := by
  rw [arguments_eq_mapM hkind, map_eq_error, mapM_eq_error]

theorem isDiagnosis_of_arguments (h : b.arguments ss x = .error (.refused f)) :
    b.IsDiagnosis ss x f := by
  cases hroot : x.isRoot with
  | false =>
      rw [arguments.eq_def, hroot, if_neg Bool.false_ne_true] at h
      rw [refuseWith_eq_refused h]
      exact .root hroot
  | true =>
      obtain ⟨kind, terms, rfl, hkind⟩ := exists_of_isRoot hroot
      obtain ⟨before, y, after, rfl, hbefore, hy⟩ := (arguments_eq_error hkind).1 h
      have haccepted : ∀ z ∈ before, b.IsAccepted ss z := by
        intro z hz
        obtain ⟨e, he⟩ := hbefore z hz
        exact isAccepted_of_rootTerm he
      rw [rootTerm] at hy
      split at hy
      · next hexpr =>
          obtain ⟨fs, hfs, rfl⟩ := firstSuccess_eq_refused hy
          exact .noStrategy hroot haccepted hexpr hfs
      · next hexpr =>
          rw [refuseWith_eq_refused hy]
          exact .noNode hroot haccepted (Bool.eq_false_iff.2 hexpr)

theorem breaksWith_iff (hcatalog : b.standIns.catalog = none) :
    b.arguments ss x = .error (.broken m) ↔ b.BreaksWith ss x m := by
  constructor
  · intro h
    cases hroot : x.isRoot with
    | false =>
        rw [arguments.eq_def, hroot, if_neg Bool.false_ne_true, refuse, refuseWith, hcatalog] at h
        cases h
    | true =>
        obtain ⟨kind, terms, rfl, hkind⟩ := exists_of_isRoot hroot
        obtain ⟨before, y, after, rfl, hbefore, hy⟩ := (arguments_eq_error hkind).1 h
        rw [rootTerm] at hy
        split at hy
        · next hexpr =>
            obtain ⟨tried, s, rest, hss, htried, hs⟩ := (firstSuccess_eq_broken hcatalog).1 hy
            exact .strategy hroot hbefore hexpr hss htried hs
        · rw [refuse, refuseWith, hcatalog] at hy
          cases hy
  · intro h
    cases h with
    | @strategy kind before y after tried s rest _ hroot hbefore hy hss htried hbroken =>
        obtain ⟨kind', terms, hsame, hkind⟩ := exists_of_isRoot hroot
        cases hsame
        refine (arguments_eq_error hkind).2 ⟨before, y, after, rfl, hbefore, ?_⟩
        rw [rootTerm, if_pos hy]
        exact (firstSuccess_eq_broken hcatalog).2 ⟨tried, s, rest, hss, htried, hbroken⟩

/-- What is no root, or has a term that is refused, is not built. -/
theorem isAccepted_of_arguments {d : Dict} (h : b.arguments ss x = .ok d) :
    x.isRoot = true ∧ ∀ y ∈ x.nodeTerms, b.IsAccepted ss y := by
  cases hroot : x.isRoot with
  | false =>
      rw [arguments.eq_def, hroot, if_neg Bool.false_ne_true] at h
      exact absurd h refuseWith_ne_ok
  | true =>
      refine ⟨rfl, fun y hy => ?_⟩
      obtain ⟨kind, terms, rfl, hkind⟩ := exists_of_isRoot hroot
      obtain ⟨es, hes, -⟩ := (arguments_eq_ok_iff hkind).1 h
      obtain ⟨e, he⟩ := exists_forall₂_iff.1 ⟨es, hes⟩ y hy
      exact isAccepted_of_rootTerm he

theorem IsDiagnosis.offends (h : b.IsDiagnosis ss x f) :
    x.isRoot = false ∨ (∃ y ∈ x.nodeTerms, y.isExpr = false) ∨
      ∃ y ∈ x.nodeTerms, ∀ s ∈ ss, ∀ d, s.attempt b y ≠ .ok d := by
  cases h with
  | root hroot => exact .inl hroot
  | @noNode _ _ y _ _ _ hy => exact .inr (.inl ⟨y, by simp [Value.nodeTerms], hy⟩)
  | @noStrategy _ _ y _ fs _ _ _ hfs =>
      refine .inr (.inr ⟨y, by simp [Value.nodeTerms], fun s hs d hd => ?_⟩)
      obtain ⟨g, hg, -⟩ := exists_forall₂_iff.1 ⟨fs, hfs⟩ s hs
      rw [hd] at hg
      cases hg

/-- Where a root has an outcome, it fails exactly if it is no root, or has a term that is no node,
or has a term that none of the strategies builds. Then nothing is built beside the failure, it is
the diagnosis, and it is what a caller is stopped by. Where a root has no outcome, a strategy has
none on one of the terms. -/
theorem arguments_diagnosed (b : Builder) (ss : List Strategy) (x : Value) :
    (∀ o, Outcome.ofAttempt (b.arguments ss x) = .ok o →
      (o.isOk = false ↔ x.isRoot = false ∨ (∃ y ∈ x.nodeTerms, y.isExpr = false) ∨
        ∃ y ∈ x.nodeTerms, ∀ s ∈ ss, ∀ d, s.attempt b y ≠ .ok d) ∧
      ∀ f, o.error = some f → o.value = none ∧ b.IsDiagnosis ss x f ∧
        Outcome.build (b.arguments ss x) = .error (.refused f)) ∧
    (b.standIns.catalog = none →
      ∀ m, Outcome.ofAttempt (b.arguments ss x) = .error m ↔ b.BreaksWith ss x m) := by
  refine ⟨fun o ho => ⟨?_, fun f hf => ?_⟩, fun hcatalog m => ?_⟩
  · cases hattempt : b.arguments ss x with
    | ok d =>
        obtain ⟨hroot, hterms⟩ := isAccepted_of_arguments hattempt
        rw [hattempt] at ho
        cases ho
        refine iff_of_false (by simp [Outcome.isOk]) ?_
        rintro (hno | ⟨y, hy, hno⟩ | ⟨y, hy, hno⟩)
        · rw [hroot] at hno
          cases hno
        · rw [(hterms y hy).1] at hno
          cases hno
        · obtain ⟨-, s, hs, d, hd⟩ := hterms y hy
          exact hno s hs d hd
    | error obstacle =>
        cases obstacle with
        | refused f =>
            rw [hattempt] at ho
            cases ho
            exact iff_of_true rfl (isDiagnosis_of_arguments hattempt).offends
        | broken m =>
            rw [hattempt] at ho
            cases ho
  · obtain ⟨hvalue, hrefused⟩ := Outcome.of_error ho hf
    refine ⟨hvalue, isDiagnosis_of_arguments hrefused, ?_⟩
    rw [hrefused]
    rfl
  · rw [← breaksWith_iff hcatalog]
    cases b.arguments ss x with
    | ok d => constructor <;> intro h <;> cases h
    | error obstacle =>
        cases obstacle with
        | refused f => constructor <;> intro h <;> cases h
        | broken m' => constructor <;> intro h <;> cases h <;> rfl

/-- A comparison that no plain one knows, after one that builds: what is wrong with it is said once
for each time that it is tried. -/
theorem arguments_diagnosed_of_like :
    let equal := Value.expr (.comparison .equal) [.variable (.text "a"), .literal (.int 1)] false
    let like := Value.expr (.comparison .like) [.variable (.text "s"), .literal (.text "n")] false
    let x := Value.expr (.junction .and) [equal, like, .int 3] false
    let ss := [Strategy.compare, .compare]
    let b : Builder := {}
    ∃ f, Outcome.build (b.arguments ss x) = .error (.refused f) ∧ b.IsDiagnosis ss x f ∧
      ∀ m, ¬ b.BreaksWith ss x m := by
  intro equal like x ss b
  have hequal : b.Makes equal ⟨"a", .int 1, .equal⟩ := makes_of_resolve rfl rfl
  have hlike : ∃ g, Strategy.compare.attempt b like = .error (.refused g) := by
    rw [Strategy.attempt, compare_expr, Value.isJunctionKind_comparison,
      if_neg Bool.false_ne_true]
    exact ⟨_, rfl⟩
  obtain ⟨g, hg⟩ := hlike
  have hfirst : b.rootTerm ss equal = .ok (b.entries ⟨"a", .int 1, .equal⟩) := by
    change b.firstSuccess equal ss [] = _
    rw [firstSuccess, Strategy.attempt, hequal.clause]
  have hsecond : ∃ f, b.rootTerm ss like = .error (.refused f) := by
    change ∃ f, b.firstSuccess like ss [] = _
    rw [firstSuccess_of_refused hg, firstSuccess_of_refused hg]
    exact ⟨_, rfl⟩
  obtain ⟨f, hf⟩ := hsecond
  have hrefused : b.arguments ss x = .error (.refused f) := by
    refine (arguments_eq_error (by decide +kernel)).2 ⟨[equal], like, [.int 3], rfl, ?_, hf⟩
    exact List.forall_mem_singleton.2 ⟨_, hfirst⟩
  have houtcome : Outcome.ofAttempt (b.arguments ss x) = .ok { error := some f } := by
    rw [hrefused]
    rfl
  obtain ⟨hfails, hbreaks⟩ := arguments_diagnosed b ss x
  obtain ⟨-, hdiagnosis, hbuild⟩ := (hfails _ houtcome).2 f rfl
  refine ⟨f, hbuild, hdiagnosis, fun m hm => ?_⟩
  rw [← hbreaks rfl m, houtcome] at hm
  cases hm

/-- A variable that goes by a list: none of the strategies builds the term, and yet the root does
not fail. It has no outcome. -/
theorem not_arguments_diagnosed :
    ¬ ∀ (b : Builder) (ss : List Strategy) (x : Value), b.standIns = {} →
      b.settings.checked = .ok b.settings →
      ((∃ o, Outcome.ofAttempt (b.arguments ss x) = .ok o ∧ o.isOk = false) ↔
        x.isRoot = false ∨ (∃ y ∈ x.nodeTerms, y.isExpr = false) ∨
          ∃ y ∈ x.nodeTerms, ∀ s ∈ ss, ∀ d, s.attempt b y ≠ .ok d) := by
  intro hfails
  let b : Builder := {}
  let unkeyed := Value.expr (.comparison .equal)
    [.variable (.list [.int 1]), .literal (.int 1)] false
  have hbroken : ∃ m, Strategy.compare.attempt b unkeyed = .error (.broken m) := by
    rw [Strategy.attempt, compare_expr, Value.isJunctionKind_comparison,
      if_neg Bool.false_ne_true]
    exact ⟨_, rfl⟩
  obtain ⟨m, hm⟩ := hbroken
  have harguments : b.arguments [.compare] (.expr (.junction .and) [unkeyed] false)
      = .error (.broken m) := by
    refine (arguments_eq_error (by decide +kernel)).2 ⟨[], unkeyed, [], rfl, by simp, ?_⟩
    exact firstSuccess_of_broken hm [] []
  have hchecked : b.settings.checked = .ok b.settings := by
    cbv
  have hnone : ∀ s ∈ [Strategy.compare], ∀ d, s.attempt b unkeyed ≠ .ok d := by
    intro s hs d hd
    rw [List.mem_singleton.1 hs, hm] at hd
    cases hd
  obtain ⟨o, ho, -⟩ := (hfails b [.compare] (.expr (.junction .and) [unkeyed] false) rfl
    hchecked).2 (.inr (.inr ⟨unkeyed, List.mem_singleton.2 rfl, hnone⟩))
  rw [harguments] at ho
  cases ho

end Builder

end PostQuery
