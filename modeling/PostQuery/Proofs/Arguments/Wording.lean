import PostQuery.Proofs.Arguments.Plain
import PostQuery.Proofs.Relation.Path
import PostQuery.Template

/-!
# What a catalog changes

A builder asks its catalog for nothing but the message of a refusal, and looks at no message again
once it is there. So two builders that differ in their catalogs take every step alike. They build
the same, break alike, and refuse the same things for the same causes; only the messages are
others.

`reworded` puts other messages into a refusal that is finished, down through all of its causes. The
proof takes it along the builder's own steps. A message is worded where its refusal is made, so that
what comes up from below to be a cause is in the words of the catalog already, and is not worded
again. What the steps of a clause find wrong has a message of its own, which no catalog is asked
for.
-/

namespace PostQuery

/-- The builder with another catalog. -/
def Builder.wording (b : Builder) (c : Catalog) : Builder := { b with catalog := c }

/-- The catalog that lists texts, each as the template for another. -/
def Catalog.ofTexts (templates : List (String × String)) : Catalog :=
  ⟨templates.map fun e => (.text e.1, .text e.2)⟩

/-! ## Refusals in other words -/

namespace Failure

mutual

/-- The failure with another message in each refusal of a tree or of a part of one, and nothing
else changed. -/
def reworded (say : String → String) : Failure → Failure
  | .unsupported message subject cause causes =>
    .unsupported (say message) subject (rewordedCause say cause) (rewordedCauses say causes)
  | .operator name context negated cause =>
    .operator name context negated (rewordedCause say cause)
  | .value subject => .value subject
  | .operands fault => .operands fault

def rewordedCause (say : String → String) : Option Failure → Option Failure
  | none => none
  | some f => some (reworded say f)

def rewordedCauses (say : String → String) : List Failure → List Failure
  | [] => []
  | f :: fs => reworded say f :: rewordedCauses say fs

end

theorem rewordedCause_eq_map (say : String → String) (cause : Option Failure) :
    rewordedCause say cause = cause.map (reworded say) := by
  cases cause <;> rfl

theorem rewordedCauses_eq_map (say : String → String) (causes : List Failure) :
    rewordedCauses say causes = causes.map (reworded say) := by
  induction causes with
  | nil => rfl
  | cons f fs ih => rw [rewordedCauses, ih, List.map_cons]

/-- The steps of a clause find nothing that a catalog has words for. -/
theorem IsFound.reworded_eq {f : Failure} (h : f.IsFound) (say : String → String) :
    f.reworded say = f := by
  rw [IsFound.eq_def] at h
  split at h
  · rfl
  · rfl
  · rfl
  · rfl
  · exact h.elim

end Failure

/-- What stops an attempt, in other words if it is a refusal. -/
def Obstacle.reworded (say : String → String) : Obstacle → Obstacle
  | .refused f => .refused (f.reworded say)
  | .broken m => .broken m

/-- The attempt with its refusal, if it ends in one, in other words. -/
def reworded {α : Type} (say : String → String) (a : Attempt α) : Attempt α :=
  a.mapError (Obstacle.reworded say)

section

variable {α β : Type} {say : String → String}

theorem reworded_bind (a : Attempt α) (g : α → Attempt β) :
    reworded say (a >>= g) = reworded say a >>= fun y => reworded say (g y) := by
  cases a <;> rfl

theorem reworded_map (a : Attempt α) (g : α → β) :
    reworded say (a.map g) = (reworded say a).map g := by
  cases a <;> rfl

theorem reworded_of_found {a : Attempt α} (h : RefusesOnlyBy Failure.IsFound a) :
    reworded say a = a := by
  match a with
  | .ok y => rfl
  | .error (.refused f) =>
      have hf : f.reworded say = f := (h f rfl).reworded_eq say
      exact congrArg (fun g => Except.error (Obstacle.refused g)) hf
  | .error (.broken m) => rfl

end

/-! ## Where a refusal is worded -/

namespace Catalog

theorem reword_nil (message : String) : ({} : Catalog).reword message = message := rfl

theorem lookup_ofTexts (templates : List (String × String)) (message : String) :
    (ofTexts templates).lookup message = .text ((templates.lookup message).getD message) := by
  rw [lookup, ofTexts]
  induction templates with
  | nil => rfl
  | cons e rest ih =>
      rw [List.map_cons, Dict.get?_cons_text, List.lookup_cons, BEq.comm]
      cases message == e.1 with
      | true => rfl
      | false => exact ih

end Catalog

namespace Builder

variable {α : Type} (b : Builder) (c : Catalog)

theorem refuseWith_wording (complaint : Complaint) (x : Value) (cause : Option Failure)
    (causes : List Failure) :
    (b.wording c).refuseWith complaint x (cause.map (Failure.reworded c.reword))
        (causes.map (Failure.reworded c.reword))
      = (reworded c.reword ((b.wording {}).refuseWith complaint x cause causes) : Attempt α) := by
  rw [refuseWith, refuseWith]
  cases hcatalog : b.standIns.catalog with
  | none =>
      simp only [wording, hcatalog, reworded, Except.mapError, Obstacle.reworded, Failure.reworded,
        Failure.rewordedCause_eq_map, Failure.rewordedCauses_eq_map, Catalog.reword_nil]
  | some v =>
      simp only [wording, hcatalog, reworded, Except.mapError, Obstacle.reworded]

theorem refuse_wording (complaint : Complaint) (x : Value) :
    (b.wording c).refuse complaint x
      = (reworded c.reword ((b.wording {}).refuse complaint x) : Attempt α) :=
  refuseWith_wording b c complaint x none []

theorem within_wording (complaint : Complaint) (x : Value) (a : Attempt α) :
    (b.wording c).within complaint x (reworded c.reword a)
      = reworded c.reword ((b.wording {}).within complaint x a) := by
  match a with
  | .ok y => rfl
  | .error (.refused f) => exact refuseWith_wording b c complaint x (some f) []
  | .error (.broken m) => rfl

end Builder

/-! ## Blocks -/

section

variable (b : Builder) (c : Catalog)

theorem resolve_wording (ctx : Context) (kind : Value) (negated : Bool) :
    (b.wording c).resolve ctx kind negated
      = reworded c.reword ((b.wording {}).resolve ctx kind negated) := by
  have hfound : RefusesOnlyBy Failure.IsFound ((b.wording {}).resolve ctx kind negated) :=
    fun f h => (refusesOnlyBy_resolve ctx kind negated f h).2
  rw [reworded_of_found hfound]
  rfl

theorem leaf_wording (mode : Mode) (x : Value) :
    (b.wording c).leaf .standard mode x
      = reworded c.reword ((b.wording {}).leaf .standard mode x) := by
  cases x with
  | expr kind terms negated =>
      have hclause : (b.wording c).clauseIn mode kind terms negated
          = reworded c.reword ((b.wording {}).clauseIn mode kind terms negated) := by
        rw [reworded_of_found (refusesOnlyBy_clauseIn _ _ _ _)]
        rfl
      rw [leaf_expr, leaf_expr, hclause]
      split
      · exact Builder.refuse_wording b c _ _
      · exact Builder.within_wording b c _ _ _
  | _ =>
      rw [leaf_standard, leaf_standard]
      exact Builder.refuse_wording b c _ _

mutual

theorem relation_wording (mode : Mode) (x : Value) :
    (b.wording c).standardRelation mode x
      = reworded c.reword ((b.wording {}).standardRelation mode x) := by
  cases x with
  | expr kind terms negated =>
      -- The refusal of the group is worded around that of its term, which is worded already.
      rw [Builder.standardRelation, Builder.standardRelation, relation_expr, relation_expr,
        ← Builder.within_wording, reworded_bind, resolve_wording]
      simp only [reworded_map, relationTerms_wording mode terms]
  | _ => exact Builder.refuse_wording b c _ _

theorem relationTerms_wording (mode : Mode) (terms : List Value) :
    (b.wording c).relationTerms ((b.wording c).leaf .standard mode) terms
      = reworded c.reword
          ((b.wording {}).relationTerms ((b.wording {}).leaf .standard mode) terms) := by
  match terms with
  | [] => rfl
  | term :: rest =>
      have hpart : (b.wording c).part ((b.wording c).leaf .standard mode) term
          = reworded c.reword ((b.wording {}).part ((b.wording {}).leaf .standard mode) term) := by
        cases term with
        | expr kind terms negated =>
            rw [Builder.part, Builder.part]
            split
            · exact relation_wording mode (.expr kind terms negated)
            · exact leaf_wording b c mode _
        | _ => exact Builder.refuse_wording b c _ _
      rw [relationTerms_cons, relationTerms_cons, hpart, relationTerms_wording mode rest,
        reworded_bind]
      simp only [reworded_bind]
      rfl

end

end

/-! ## Arguments -/

namespace Builder

variable (b : Builder) (c : Catalog)

theorem refusesOnlyBy_compareParts (kind : Value) (terms : List Value) (negated : Bool) :
    RefusesOnlyBy Failure.IsFound (b.compareParts kind terms negated) := by
  have hkey : ∀ term, RefusesOnlyBy Failure.IsFound (variableKey? term) := by
    intro term
    rw [variableKey?.eq_def]
    split <;> exact .ok _
  refine .bind (fun f h => (refusesOnlyBy_resolve _ _ _ f h).2) fun token => ?_
  refine .bind (refusesOnlyBy_operands hkey _ _) fun (key, literal) => ?_
  exact .bind (refusesBy_normalValue _).only fun value => .ok _

theorem compare_wording (x : Value) :
    (b.wording c).clause .compare x
      = reworded c.reword ((b.wording {}).clause .compare x) := by
  cases x with
  | expr kind terms negated =>
      have hparts : (b.wording c).compareParts kind terms negated
          = reworded c.reword ((b.wording {}).compareParts kind terms negated) := by
        rw [reworded_of_found (refusesOnlyBy_compareParts _ _ _ _)]
        rfl
      have hentries : ∀ key value token, (b.wording c).compareEntries key value token
          = reworded c.reword ((b.wording {}).compareEntries key value token) := by
        intro key value token
        rw [reworded_of_found (refusesOnlyBy_compareEntries _ _ _)]
        rfl
      rw [compare_expr, compare_expr, hparts]
      split
      · exact refuse_wording b c _ _
      · rw [within_wording, reworded_bind]
        simp only [hentries]
  | _ => exact refuse_wording b c _ _

theorem attempt_wording (s : Strategy) (x : Value) :
    s.attempt (b.wording c) x = reworded c.reword (s.attempt (b.wording {}) x) := by
  cases s with
  | metaQuery | taxonomyQuery =>
      rw [Strategy.attempt, Strategy.attempt, reworded_map, relation_wording]
  | compare => exact compare_wording b c x

/-- The refusals so far are in the words of the catalog, each from its own strategy. -/
theorem firstSuccess_wording (x : Value) (ss : List Strategy) (failures : List Failure) :
    (b.wording c).firstSuccess x ss (failures.map (Failure.reworded c.reword))
      = reworded c.reword ((b.wording {}).firstSuccess x ss failures) := by
  -- On the strategies that are left, since each that refuses adds to the refusals so far.
  induction ss generalizing failures with
  | nil => exact refuseWith_wording b c .noStrategy x none failures
  | cons s rest ih =>
      have hattempt := attempt_wording b c s x
      cases hs : s.attempt (b.wording {}) x with
      | ok d =>
          rw [hs] at hattempt
          rw [firstSuccess, firstSuccess, hs, hattempt]
          rfl
      | error o =>
          rw [hs] at hattempt
          cases o with
          | refused f =>
              rw [firstSuccess_of_refused hs, firstSuccess_of_refused hattempt, ← ih,
                List.map_append, List.map_singleton]
          | broken m =>
              rw [firstSuccess_of_broken hs, firstSuccess_of_broken hattempt]
              rfl

theorem rootTerms_wording (ss : List Strategy) (terms : List Value) (made : Dict) :
    (b.wording c).rootTerms ss terms made
      = reworded c.reword ((b.wording {}).rootTerms ss terms made) := by
  induction terms generalizing made with
  | nil => rfl
  | cons x rest ih =>
      have hterm : (b.wording c).rootTerm ss x
          = reworded c.reword ((b.wording {}).rootTerm ss x) := by
        rw [rootTerm, rootTerm]
        split
        · exact firstSuccess_wording b c x ss []
        · exact refuse_wording b c _ _
      rw [rootTerms, rootTerms, hterm, reworded_bind]
      simp only [ih]

theorem arguments_wording (ss : List Strategy) (x : Value) :
    (b.wording c).arguments ss x = reworded c.reword ((b.wording {}).arguments ss x) := by
  rw [arguments.eq_def, arguments.eq_def]
  split
  · split
    · exact rootTerms_wording b c ss _ []
    · exact refuse_wording b c _ _
  · exact refuse_wording b c _ _

end Builder

/-- With a catalog of texts a builder comes to what it comes to without one, and a refusal is the
same but for its messages: each of them, and each in its causes, is the template listed for it, or
itself where none is listed. Without arguments a template is not filled in, whatever it looks
like. -/
theorem catalog_only_rewords (b : Builder) (templates : List (String × String))
    (ss : List Strategy) (x : Value) :
    let say := fun message => (templates.lookup message).getD message
    (b.wording (.ofTexts templates)).arguments ss x
        = reworded say ((b.wording {}).arguments ss x) ∧
      ∀ message, (Catalog.ofTexts templates).render message .null = .ok (.text (say message)) := by
  intro say
  have hlookup : ∀ message, (Catalog.ofTexts templates).lookup message = .text (say message) :=
    Catalog.lookup_ofTexts templates
  constructor
  · have hsay : (Catalog.ofTexts templates).reword = say := by
      funext message
      rw [Catalog.reword, hlookup]
      rfl
    rw [b.arguments_wording (.ofTexts templates) ss x, hsay]
  · intro message
    rw [Catalog.render.eq_def, hlookup]
    rfl

/-- A template with signs for arguments, which are left as they are. -/
example :
    let templates := [("Expression is not supported", "%s is not 100% supported")]
    (({} : Builder).wording (.ofTexts templates)).arguments Strategy.standard .null
      = .error (.refused (.unsupported "%s is not 100% supported" .null none [])) := by
  intro templates
  have hsay : (Catalog.ofTexts templates).reword "Expression is not supported"
      = "%s is not 100% supported" := by
    rw [Catalog.reword, Catalog.lookup_ofTexts]
    rfl
  rw [← hsay]
  rfl

end PostQuery
