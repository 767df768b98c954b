import PostQuery.Proofs.Filter.Meaning

/-!
# Where negation within a field goes wrong

What a reader makes of a filter is known exactly: its tree has the truth value that `reads` gives.
So whether reading keeps the meaning is a question about two formulas, and this file answers it.

They agree where every dictionary that a field negates has a single operator (`negatesSingly`). How
often a field is negated counts, and not where: two of its negations cancel, so a dictionary under
an even number of them may have as many operators as it likes.

They also agree nowhere else, as far as that can be seen from the shape of a filter. A filter that
names an atom twice can be right by accident, and so can one with an empty group, next to which
nothing matters. For a filter with neither, both formulas are made of parts over atoms of their own,
which can be given any truth values independently. `Contrasts` is what such a part guarantees, and
one lemma for each connective hands it up to the whole.
-/

namespace PostQuery.Filter

/-! ## The shape that is read right -/

mutual

/-- Wherever the value of a field is negated an odd number of times, it is a single operator. -/
def operandNegatesSingly : Value → Bool → Bool
  | .dict entries, negated =>
    isPlain entries ||
      ((!negated || entries.length == 1) && operatorsNegateSingly entries negated)
  | _, _ => true

def operatorsNegateSingly : List (Value × Value) → Bool → Bool
  | [], _ => true
  | (operator, value) :: rest, negated =>
    (match operator with
      | .text name => !(name == negation) || operandNegatesSingly value (!negated)
      | _ => true)
      && operatorsNegateSingly rest negated

end

mutual

/-- No field of a filter negates several operators at once. -/
def negatesSingly : List (Value × Value) → Bool
  | [] => true
  | (key, value) :: rest =>
    (match key with
      | .text name => entryNegatesSingly name value
      | _ => true)
      && negatesSingly rest

def entryNegatesSingly (name : String) (value : Value) : Bool :=
  match junction? name with
  | some _ =>
    match value with
    | .list items => itemsNegateSingly items
    | _ => true
  | none =>
    if name == negation then
      match value with
      | .dict entries => negatesSingly entries
      | _ => true
    else operandNegatesSingly value false

def itemsNegateSingly : List Value → Bool
  | [] => true
  | item :: rest =>
    (match item with
      | .dict entries => negatesSingly entries
      | _ => true)
      && itemsNegateSingly rest

end

/-! ## There the meanings agree -/

theorem operatorsHold_negation (A : Atom → Bool) (key : String) {name : String}
    (h : (name == negation) = true) (value : Value) (rest : List (Value × Value)) :
    operatorsHold A key ((.text name, value) :: rest)
      = (!operandHolds A key value && operatorsHold A key rest) := by
  rw [operatorsHold, h]
  rfl

theorem operatorsRead_negation (A : Atom → Bool) (key : String) {name : String}
    (h : (name == negation) = true) (value : Value) (rest : List (Value × Value))
    (negated : Bool) :
    operatorsRead A key ((.text name, value) :: rest) negated
      = (operandReads A key value (!negated) && operatorsRead A key rest negated) := by
  rw [operatorsRead, h]
  rfl

theorem operatorsHold_comparison (A : Atom → Bool) (key : String) {name : String}
    {c : Comparison} (h : (name == negation) = false) (hc : comparison? name = some c)
    (value : Value) (rest : List (Value × Value)) :
    operatorsHold A key ((.text name, value) :: rest)
      = (conditionHolds A key c value && operatorsHold A key rest) := by
  rw [operatorsHold, h, hc]
  rfl

theorem operatorsRead_comparison (A : Atom → Bool) (key : String) {name : String}
    {c : Comparison} (h : (name == negation) = false) (hc : comparison? name = some c)
    (value : Value) (rest : List (Value × Value)) (negated : Bool) :
    operatorsRead A key ((.text name, value) :: rest) negated
      = ((negated ^^ conditionHolds A key c value) && operatorsRead A key rest negated) := by
  rw [operatorsRead, h, hc]
  rfl

mutual

theorem operandReads_eq {A : Atom → Bool} {key : String} (value : Value) (negated : Bool)
    (hlegal : isOperand value = true) (hsingle : operandNegatesSingly value negated = true) :
    operandReads A key value negated = (negated ^^ operandHolds A key value) := by
  cases value with
  | dict entries =>
      rw [operandReads, operandHolds]
      rw [operandNegatesSingly] at hsingle
      rw [isOperand] at hlegal
      cases hplain : isPlain entries with
      | true => rfl
      | false =>
          rw [hplain, Bool.false_or, Bool.and_eq_true] at hsingle
          rw [hplain, Bool.false_or] at hlegal
          refine operatorsRead_eq entries negated hlegal hsingle.2 fun hn => ?_
          rw [hn] at hsingle
          exact eq_of_beq hsingle.1
  | _ => rfl

theorem operatorsRead_eq {A : Atom → Bool} {key : String} (entries : List (Value × Value))
    (negated : Bool) (hlegal : areOperators entries = true)
    (hsingle : operatorsNegateSingly entries negated = true)
    (hone : negated = true → entries.length = 1) :
    operatorsRead A key entries negated = (negated ^^ operatorsHold A key entries) := by
  match entries with
  | [] =>
      cases negated with
      | true => cases hone rfl
      | false => rfl
  | (operator, value) :: rest =>
      cases operator with
      | text name =>
          rw [areOperators, Bool.and_eq_true] at hlegal
          rw [operatorsNegateSingly, Bool.and_eq_true] at hsingle
          have hstep : ∀ f g, f = (negated ^^ g) →
              (f && operatorsRead A key rest negated)
                = (negated ^^ (g && operatorsHold A key rest)) := by
            intro f g hfg
            cases negated with
            | false =>
                rw [hfg, operatorsRead_eq rest false hlegal.2 hsingle.2 fun h => Bool.noConfusion h,
                  Bool.false_xor, Bool.false_xor, Bool.false_xor]
            | true =>
                have hnil : rest = [] := List.length_eq_zero_iff.1 (Nat.succ.inj (hone rfl))
                rw [hfg, hnil, operatorsRead, operatorsHold, Bool.and_true, Bool.and_true]
          obtain ⟨hfirst, -⟩ := hlegal
          obtain ⟨hsingle, -⟩ := hsingle
          cases hneg : name == negation with
          | true =>
              rw [hneg, if_pos rfl, Bool.and_eq_true] at hfirst
              rw [hneg, Bool.not_true, Bool.false_or] at hsingle
              rw [operatorsRead_negation A key hneg, operatorsHold_negation A key hneg]
              refine hstep _ _ ?_
              rw [operandReads_eq value (!negated) hfirst.2 hsingle, Bool.not_xor, Bool.xor_not]
          | false =>
              rw [hneg] at hfirst
              cases hc : comparison? name with
              | none =>
                  rw [hc] at hfirst
                  cases hfirst
              | some c =>
                  rw [operatorsRead_comparison A key hneg hc,
                    operatorsHold_comparison A key hneg hc]
                  exact hstep _ _ rfl
      | _ => cases hlegal

end

mutual

theorem means_reads_eq {A : Atom → Bool} (entries : List (Value × Value))
    (hlegal : grammatical entries = true) (hsingle : negatesSingly entries = true) :
    means (fun key value => operandReads A key value false) entries
      = means (operandHolds A) entries := by
  match entries with
  | [] => rfl
  | (key, value) :: rest =>
      cases key with
      | text name =>
          rw [grammatical, Bool.and_eq_true] at hlegal
          rw [negatesSingly, Bool.and_eq_true] at hsingle
          rw [means, means, means_reads_eq rest hlegal.2 hsingle.2]
          congr 1
          exact entryMeans_reads_eq name value hlegal.1 hsingle.1
      | _ => cases hlegal

theorem entryMeans_reads_eq {A : Atom → Bool} (name : String) (value : Value)
    (hlegal : isEntry name value = true) (hsingle : entryNegatesSingly name value = true) :
    entryMeans (fun key value => operandReads A key value false) name value
      = entryMeans (operandHolds A) name value := by
  rw [isEntry.eq_def] at hlegal
  rw [entryNegatesSingly.eq_def] at hsingle
  rw [entryMeans.eq_def, entryMeans.eq_def]
  cases hj : junction? name with
  | some j =>
      rw [hj] at hlegal hsingle
      cases value with
      | list items => exact congrArg j.joins (itemsMean_reads_eq items hlegal hsingle)
      | _ => rfl
  | none =>
      rw [hj] at hlegal hsingle
      cases hneg : name == negation with
      | true =>
          rw [hneg] at hlegal hsingle
          cases value with
          | dict inner => exact congrArg not (means_reads_eq inner hlegal hsingle)
          | _ => rfl
      | false =>
          simp only [hneg, Bool.false_eq_true, if_false, Bool.and_eq_true] at hlegal hsingle ⊢
          rw [operandReads_eq value false hlegal.2 hsingle, Bool.false_xor]

theorem itemsMean_reads_eq {A : Atom → Bool} (items : List Value)
    (hlegal : areFilters items = true) (hsingle : itemsNegateSingly items = true) :
    itemsMean (fun key value => operandReads A key value false) items
      = itemsMean (operandHolds A) items := by
  match items with
  | [] => rfl
  | item :: rest =>
      cases item with
      | dict inner =>
          rw [areFilters, Bool.and_eq_true] at hlegal
          rw [itemsNegateSingly, Bool.and_eq_true] at hsingle
          rw [itemsMean, itemsMean, itemsMean_reads_eq rest hlegal.2 hsingle.2]
          congr 1
          exact means_reads_eq inner hlegal.1 hsingle.1
      | _ => cases hlegal

end

/-! ## Formulas over atoms of their own

The meaning of a part of a filter and what the reader makes of it, as functions of the truth values
of atoms. Both depend on the atoms of the part alone, both can be brought to either truth value by
the same assignment, and unless they are the `same` some assignment tells them apart. -/

structure Contrasts (atoms : List Atom) (f g : (Atom → Bool) → Bool) (same : Bool) : Prop where
  congr : ∀ A B : Atom → Bool, (∀ a ∈ atoms, A a = B a) → f A = f B ∧ g A = g B
  attains : ∀ b, ∃ A, f A = b ∧ g A = b
  differs : same = false → ∃ A, f A ≠ g A

/-- The lists have no atom in common. -/
def Apart (S T : List Atom) : Prop := ∀ a ∈ S, ∀ b ∈ T, a ≠ b

theorem nodup_append {S T : List Atom} : (S ++ T).Nodup ↔ S.Nodup ∧ T.Nodup ∧ Apart S T :=
  List.nodup_append

/-- Assignments to distinct atoms are parts of a single one. -/
theorem exists_joint {S T : List Atom} (h : Apart S T) (A B : Atom → Bool) :
    ∃ C : Atom → Bool, (∀ a ∈ S, C a = A a) ∧ ∀ a ∈ T, C a = B a := by
  classical
  refine ⟨fun a => if a ∈ S then A a else B a, fun a ha => if_pos ha, fun a ha => if_neg ?_⟩
  exact fun hin => h a hin a ha rfl

namespace Contrasts

variable {S T : List Atom} {f g f' g' : (Atom → Bool) → Bool} {same same' : Bool}

/-- Two parts over distinct atoms take any pair of values that they take on their own. -/
theorem joint (h : Contrasts S f g same) (h' : Contrasts T f' g' same') (hd : Apart S T)
    (A B : Atom → Bool) :
    ∃ C, f C = f A ∧ g C = g A ∧ f' C = f' B ∧ g' C = g' B := by
  obtain ⟨C, hS, hT⟩ := exists_joint hd A B
  obtain ⟨hf, hg⟩ := h.congr C A hS
  obtain ⟨hf', hg'⟩ := h'.congr C B hT
  exact ⟨C, hf, hg, hf', hg'⟩

/-- A single atom, as it is or negated, reads as it means. -/
theorem literal (a : Atom) (n : Bool) :
    Contrasts [a] (fun A => n ^^ A a) (fun A => n ^^ A a) true := by
  refine ⟨fun A B h => ?_, fun b => ⟨fun _ => n ^^ b, ?_⟩, fun h => Bool.noConfusion h⟩
  · rw [h a (List.mem_singleton_self a)]
    exact ⟨rfl, rfl⟩
  · cases n <;> cases b <;> exact ⟨rfl, rfl⟩

theorem complement (h : Contrasts S f g same) :
    Contrasts S (fun A => !f A) (fun A => !g A) same := by
  refine ⟨fun A B hAB => ?_, fun b => ?_, fun hs => ?_⟩
  · obtain ⟨hf, hg⟩ := h.congr A B hAB
    rw [hf, hg]
    exact ⟨rfl, rfl⟩
  · obtain ⟨A, hf, hg⟩ := h.attains (!b)
    exact ⟨A, by rw [hf, Bool.not_not], by rw [hg, Bool.not_not]⟩
  · obtain ⟨A, hA⟩ := h.differs hs
    exact ⟨A, fun heq => hA (Bool.not_inj heq)⟩

/-- Two parts over distinct atoms, put together in one way for the one formula and in another for
the other. Only what tells them apart depends on the ways. -/
theorem pair (h : Contrasts S f g same) (h' : Contrasts T f' g' same') (hd : Apart S T)
    {u v : Bool → Bool → Bool} (hu : ∀ b, u b b = b) (hv : ∀ b, v b b = b) {both : Bool}
    (hdiffers : both = false → ∃ A B, u (f A) (f' B) ≠ v (g A) (g' B)) :
    Contrasts (S ++ T) (fun A => u (f A) (f' A)) (fun A => v (g A) (g' A)) both := by
  refine ⟨fun A B hAB => ?_, fun b => ?_, fun hs => ?_⟩
  · obtain ⟨hf, hg⟩ := h.congr A B fun a ha => hAB a (List.mem_append_left T ha)
    obtain ⟨hf', hg'⟩ := h'.congr A B fun a ha => hAB a (List.mem_append_right S ha)
    rw [hf, hg, hf', hg']
    exact ⟨rfl, rfl⟩
  · obtain ⟨A, hA⟩ := h.attains b
    obtain ⟨B, hB⟩ := h'.attains b
    obtain ⟨C, hf, hg, hf', hg'⟩ := h.joint h' hd A B
    refine ⟨C, ?_⟩
    rw [hf, hg, hf', hg', hA.1, hA.2, hB.1, hB.2]
    exact ⟨hu b, hv b⟩
  · obtain ⟨A, B, hne⟩ := hdiffers hs
    obtain ⟨C, hf, hg, hf', hg'⟩ := h.joint h' hd A B
    refine ⟨C, ?_⟩
    rw [hf, hg, hf', hg']
    exact hne

/-- A junction differs as soon as one part does, since the other one can be made not to matter. -/
theorem combine (j : Junction) (h : Contrasts S f g same) (h' : Contrasts T f' g' same')
    (hd : Apart S T) :
    Contrasts (S ++ T) (fun A => j.combine (f A) (f' A)) (fun A => j.combine (g A) (g' A))
      (same && same') := by
  refine h.pair h' hd j.combine_self j.combine_self fun hs => ?_
  obtain hs | hs := Bool.and_eq_false_iff.1 hs
  · obtain ⟨A, hA⟩ := h.differs hs
    obtain ⟨B, hB⟩ := h'.attains (j.joins [])
    refine ⟨A, B, ?_⟩
    rw [hB.1, hB.2, Junction.combine_unit, Junction.combine_unit]
    exact hA
  · obtain ⟨A, hA⟩ := h.attains (j.joins [])
    obtain ⟨B, hB⟩ := h'.differs hs
    refine ⟨A, B, ?_⟩
    rw [hA.1, hA.2, Junction.unit_combine, Junction.unit_combine]
    exact hB

/-- The complement of a conjunction, read as the conjunction of the complements, always differs. -/
theorem split (h : Contrasts S f g same) (h' : Contrasts T f' g' same') (hd : Apart S T) :
    Contrasts (S ++ T) (fun A => f A && f' A) (fun A => g A || g' A) false := by
  refine h.pair h' hd Bool.and_self Bool.or_self fun _ => ?_
  obtain ⟨A, hA⟩ := h.attains false
  obtain ⟨B, hB⟩ := h'.attains true
  refine ⟨A, B, ?_⟩
  rw [hA.1, hB.2, Bool.or_true, Bool.false_and]
  exact Bool.false_ne_true

/-- Two parts of a field under so many negations: only an even number of them keeps what both
parts are. -/
theorem operators {n : Bool} (h : Contrasts S f (fun A => n ^^ g A) same)
    (h' : Contrasts T f' (fun A => n ^^ g' A) same') (hd : Apart S T) :
    Contrasts (S ++ T) (fun A => f A && f' A) (fun A => n ^^ (g A && g' A))
      (!n && (same && same')) := by
  cases n with
  | false =>
      simp only [Bool.false_xor] at h h' ⊢
      exact h.combine .and h' hd
  | true =>
      simp only [Bool.true_xor, Bool.not_and] at h h' ⊢
      exact h.split h' hd

end Contrasts

/-! ## The atoms of a filter -/

/-- The atom that a condition is about. -/
def conditionAtom (key : String) (c : Comparison) (operand : Value) : Atom :=
  match c with
  | .present => ⟨key, .present, none⟩
  | _ => ⟨key, c, some operand⟩

mutual

/-- The atoms that the value of a field names, one for each time it names it. -/
def operandAtoms (key : String) : Value → List Atom
  | .dict entries =>
    if isPlain entries then [⟨key, .equal, some (.dict entries)⟩] else operatorsAtoms key entries
  | v => [⟨key, .equal, some v⟩]

def operatorsAtoms (key : String) : List (Value × Value) → List Atom
  | [] => []
  | (operator, value) :: rest =>
    (match operator with
      | .text name =>
        if name == negation then operandAtoms key value
        else match comparison? name with
          | some c => [conditionAtom key c value]
          | none => []
      | _ => [])
      ++ operatorsAtoms key rest

end

mutual

/-- The atoms that a filter names, one for each time it names it. -/
def atoms : List (Value × Value) → List Atom
  | [] => []
  | (key, value) :: rest =>
    (match key with
      | .text name => entryAtoms name value
      | _ => [])
      ++ atoms rest

def entryAtoms (name : String) (value : Value) : List Atom :=
  match junction? name with
  | some _ =>
    match value with
    | .list items => itemsAtoms items
    | _ => []
  | none =>
    if name == negation then
      match value with
      | .dict entries => atoms entries
      | _ => []
    else operandAtoms name value

def itemsAtoms : List Value → List Atom
  | [] => []
  | item :: rest =>
    (match item with
      | .dict entries => atoms entries
      | _ => [])
      ++ itemsAtoms rest

end

mutual

/-- No group in a filter is empty. -/
def isFilled : List (Value × Value) → Bool
  | [] => true
  | (key, value) :: rest =>
    (match key with
      | .text name => isFilledEntry name value
      | _ => true)
      && isFilled rest

def isFilledEntry (name : String) (value : Value) : Bool :=
  match junction? name with
  | some _ =>
    match value with
    | .list items => !items.isEmpty && areFilled items
    | _ => true
  | none =>
    if name == negation then
      match value with
      | .dict entries => !entries.isEmpty && isFilled entries
      | _ => true
    else true

def areFilled : List Value → Bool
  | [] => true
  | item :: rest =>
    (match item with
      | .dict entries => !entries.isEmpty && isFilled entries
      | _ => true)
      && areFilled rest

end

/-! ## Elsewhere they differ -/

theorem condition_contrasts (key : String) (c : Comparison) (operand : Value) (negated : Bool) :
    Contrasts [conditionAtom key c operand] (fun A => negated ^^ conditionHolds A key c operand)
      (fun A => negated ^^ conditionHolds A key c operand) true := by
  cases c with
  | present =>
      cases htrue : operand.truthy with
      | true =>
          simp only [conditionHolds, htrue, if_true]
          exact .literal _ negated
      | false =>
          simp only [conditionHolds, htrue, Bool.false_eq_true, if_false, Bool.xor_not,
            ← Bool.not_xor]
          exact .literal _ (!negated)
  | _ => exact .literal _ negated

/-- An operator and those after it, of which there may be none. -/
theorem Contrasts.first {S : List Atom} {f g : (Atom → Bool) → Bool} {same : Bool} {key : String}
    {rest : List (Value × Value)} {negated : Bool}
    (h : Contrasts S f (fun A => negated ^^ g A) same)
    (hrest : rest ≠ [] → Contrasts (operatorsAtoms key rest)
      (fun A => operatorsRead A key rest negated)
      (fun A => negated ^^ operatorsHold A key rest)
      ((!negated || rest.length == 1) && operatorsNegateSingly rest negated))
    (hd : Apart S (operatorsAtoms key rest)) :
    Contrasts (S ++ operatorsAtoms key rest) (fun A => f A && operatorsRead A key rest negated)
      (fun A => negated ^^ (g A && operatorsHold A key rest))
      ((!negated || rest.length + 1 == 1) && (same && operatorsNegateSingly rest negated)) := by
  cases rest with
  | nil =>
      simp only [operatorsAtoms, operatorsRead, operatorsHold, operatorsNegateSingly,
        List.append_nil, Bool.and_true, List.length_nil, BEq.rfl, Bool.or_true, Bool.true_and]
      exact h
  | cons e es =>
      have hboth := h.operators (hrest (List.cons_ne_nil e es)) hd
      have hlong : (!negated || (e :: es).length + 1 == 1) = !negated := by simp
      rw [hlong]
      cases negated with
      | false => exact hboth
      | true => exact hboth

mutual

theorem operand_contrasts (key : String) (value : Value) (negated : Bool)
    (hlegal : isOperand value = true) (hdistinct : (operandAtoms key value).Nodup) :
    Contrasts (operandAtoms key value) (fun A => operandReads A key value negated)
      (fun A => negated ^^ operandHolds A key value) (operandNegatesSingly value negated) := by
  cases value with
  | dict entries =>
      rw [operandNegatesSingly]
      rw [operandAtoms] at hdistinct ⊢
      rw [isOperand] at hlegal
      simp only [operandReads, operandHolds]
      cases hplain : isPlain entries with
      | true => exact .literal _ negated
      | false =>
          rw [hplain] at hdistinct hlegal
          have hne : entries ≠ [] := fun h => by rw [h] at hplain; cases hplain
          exact operators_contrast key entries negated hlegal hne hdistinct
  | _ => exact .literal _ negated

theorem operators_contrast (key : String) (entries : List (Value × Value)) (negated : Bool)
    (hlegal : areOperators entries = true) (hne : entries ≠ [])
    (hdistinct : (operatorsAtoms key entries).Nodup) :
    Contrasts (operatorsAtoms key entries) (fun A => operatorsRead A key entries negated)
      (fun A => negated ^^ operatorsHold A key entries)
      ((!negated || entries.length == 1) && operatorsNegateSingly entries negated) := by
  match entries with
  | [] => exact absurd rfl hne
  | (operator, value) :: rest =>
      cases operator with
      | text name =>
          rw [areOperators, Bool.and_eq_true] at hlegal
          rw [operatorsAtoms] at hdistinct ⊢
          rw [operatorsNegateSingly]
          obtain ⟨hdistinct, hdistinct', hd⟩ := nodup_append.1 hdistinct
          have hrest := fun hne => operators_contrast key rest negated hlegal.2 hne hdistinct'
          obtain ⟨hfirst, -⟩ := hlegal
          cases hneg : name == negation with
          | true =>
              rw [hneg] at hfirst hdistinct hd
              rw [if_pos rfl, Bool.and_eq_true] at hfirst
              simp only [operatorsRead_negation _ key hneg, operatorsHold_negation _ key hneg]
              have h := operand_contrasts key value (!negated) hfirst.2 hdistinct
              simp only [Bool.not_xor, ← Bool.xor_not] at h
              exact h.first hrest hd
          | false =>
              rw [hneg] at hfirst hd
              cases hc : comparison? name with
              | none =>
                  rw [hc] at hfirst
                  cases hfirst
              | some c =>
                  rw [hc] at hd
                  simp only [operatorsRead_comparison _ key hneg hc,
                    operatorsHold_comparison _ key hneg hc]
                  exact (condition_contrasts key c value negated).first hrest hd
      | _ => cases hlegal

end

mutual

theorem filter_contrasts (entries : List (Value × Value)) (hlegal : grammatical entries = true)
    (hfilled : isFilled entries = true) (hne : entries ≠ []) (hdistinct : (atoms entries).Nodup) :
    Contrasts (atoms entries)
      (fun A => means (fun key value => operandReads A key value false) entries)
      (fun A => means (operandHolds A) entries) (negatesSingly entries) := by
  match entries with
  | [] => exact absurd rfl hne
  | (key, value) :: rest =>
      cases key with
      | text name =>
          rw [grammatical, Bool.and_eq_true] at hlegal
          rw [isFilled, Bool.and_eq_true] at hfilled
          rw [atoms] at hdistinct ⊢
          rw [negatesSingly]
          simp only [means]
          obtain ⟨hdistinct, hdistinct', hd⟩ := nodup_append.1 hdistinct
          have hentry := entry_contrasts name value hlegal.1 hfilled.1 hdistinct
          have hrest := fun hne => filter_contrasts rest hlegal.2 hfilled.2 hne hdistinct'
          cases rest with
          | nil =>
              simp only [atoms, means, negatesSingly, List.append_nil, Bool.and_true]
              exact hentry
          | cons e es => exact hentry.combine .and (hrest (List.cons_ne_nil e es)) hd
      | _ => cases hlegal

theorem entry_contrasts (name : String) (value : Value) (hlegal : isEntry name value = true)
    (hfilled : isFilledEntry name value = true) (hdistinct : (entryAtoms name value).Nodup) :
    Contrasts (entryAtoms name value)
      (fun A => entryMeans (fun key value => operandReads A key value false) name value)
      (fun A => entryMeans (operandHolds A) name value) (entryNegatesSingly name value) := by
  rw [isEntry.eq_def] at hlegal
  rw [isFilledEntry.eq_def] at hfilled
  rw [entryAtoms.eq_def] at hdistinct ⊢
  rw [entryNegatesSingly.eq_def]
  simp only [entryMeans.eq_def]
  cases hj : junction? name with
  | some j =>
      rw [hj] at hlegal hfilled hdistinct
      cases value with
      | list items =>
          rw [Bool.and_eq_true, Bool.not_eq_true', List.isEmpty_eq_false_iff] at hfilled
          exact items_contrast j items hlegal hfilled.2 hfilled.1 hdistinct
      | _ => cases hlegal
  | none =>
      rw [hj] at hlegal hfilled hdistinct
      cases hneg : name == negation with
      | true =>
          rw [hneg] at hlegal hfilled hdistinct
          cases value with
          | dict inner =>
              rw [if_pos rfl, Bool.and_eq_true, Bool.not_eq_true', List.isEmpty_eq_false_iff]
                at hfilled
              exact (filter_contrasts inner hlegal hfilled.2 hfilled.1 hdistinct).complement
          | _ => cases hlegal
      | false =>
          rw [hneg] at hlegal hdistinct
          rw [if_neg Bool.false_ne_true, Bool.and_eq_true] at hlegal
          have h := operand_contrasts name value false hlegal.2 hdistinct
          simp only [Bool.false_xor] at h
          exact h

theorem items_contrast (j : Junction) (items : List Value) (hlegal : areFilters items = true)
    (hfilled : areFilled items = true) (hne : items ≠ []) (hdistinct : (itemsAtoms items).Nodup) :
    Contrasts (itemsAtoms items)
      (fun A => j.joins (itemsMean (fun key value => operandReads A key value false) items))
      (fun A => j.joins (itemsMean (operandHolds A) items)) (itemsNegateSingly items) := by
  match items with
  | [] => exact absurd rfl hne
  | item :: rest =>
      cases item with
      | dict inner =>
          rw [areFilters, Bool.and_eq_true] at hlegal
          rw [areFilled, Bool.and_eq_true, Bool.and_eq_true, Bool.not_eq_true',
            List.isEmpty_eq_false_iff] at hfilled
          rw [itemsAtoms] at hdistinct ⊢
          rw [itemsNegateSingly]
          simp only [itemsMean, Junction.joins_cons]
          obtain ⟨hdistinct, hdistinct', hd⟩ := nodup_append.1 hdistinct
          have hitem := filter_contrasts inner hlegal.1 hfilled.1.2 hfilled.1.1 hdistinct
          have hrest := fun hne => items_contrast j rest hlegal.2 hfilled.2 hne hdistinct'
          cases rest with
          | nil =>
              simp only [itemsAtoms, itemsMean, itemsNegateSingly, Junction.combine_unit,
                List.append_nil, Bool.and_true]
              exact hitem
          | cons x xs => exact hitem.combine j (hrest (List.cons_ne_nil x xs)) hd
      | _ => cases hlegal

end

/-! ## The account of a reading -/

/-- No field of the filter, if it is one, negates several operators at once. -/
def isNegatedSingly : Value → Bool
  | .dict entries => negatesSingly entries
  | _ => true

/-- The value is a filter that names no atom twice and has no empty group. -/
def ReadOnce (v : Value) : Prop :=
  ∃ entries, v = .dict entries ∧ entries ≠ [] ∧ isFilled entries = true ∧ (atoms entries).Nodup

theorem reads_eq_holds {limit : Int} {v : Value} (h : Acceptable limit v)
    (hsingle : isNegatedSingly v = true) (A : Atom → Bool) : reads A v = holds A v := by
  obtain hfalse | ⟨entries, rfl, hlegal, -⟩ := h
  · cases v with
    | dict entries =>
        rw [eq_nil_of_falsy hfalse]
        rfl
    | _ => rfl
  · exact means_reads_eq entries hlegal hsingle

theorem exists_reads_ne_holds {limit : Int} {v : Value} (h : Acceptable limit v)
    (honce : ReadOnce v) (hsingle : isNegatedSingly v = false) : ∃ A, reads A v ≠ holds A v := by
  obtain ⟨entries, rfl, hne, hfilled, hdistinct⟩ := honce
  obtain hfalse | ⟨_, heq, hlegal, -⟩ := h
  · exact absurd (eq_nil_of_falsy hfalse) hne
  · cases heq
    exact (filter_contrasts entries hlegal hfilled hne hdistinct).differs hsingle

/-- The tree of every filter has the truth value `reads` under every assignment. That is what the
filter means where no field negates several operators at once and, for filters that name no atom
twice and have no empty group, nowhere else. -/
theorem read_means_exactly (r : Reader) (v t : Value) (h : (r.read v).1 = .ok t) :
    (∀ A, t.holds (Atom.leaf A) = reads A v) ∧
      (isNegatedSingly v = true → ∀ A, t.holds (Atom.leaf A) = holds A v) ∧
      (ReadOnce v →
        ((∀ A, t.holds (Atom.leaf A) = holds A v) ↔ isNegatedSingly v = true)) := by
  obtain ⟨hacc, rfl⟩ := read_eq_ok.1 h
  have hreads : ∀ A, (tree r.settings v).holds (Atom.leaf A) = reads A v := fun A =>
    holds_tree r.settings hacc
  have hsingly : isNegatedSingly v = true →
      ∀ A, (tree r.settings v).holds (Atom.leaf A) = holds A v := fun hsingle A => by
    rw [hreads, reads_eq_holds hacc hsingle]
  refine ⟨hreads, hsingly, fun honce => ⟨fun hall => ?_, hsingly⟩⟩
  cases hsingle : isNegatedSingly v with
  | true => rfl
  | false =>
      obtain ⟨A, hA⟩ := exists_reads_ne_holds hacc honce hsingle
      exact absurd (hreads A ▸ hall A) hA

/-- A field that negates one operator is read as it is meant, and one that negates two is not. -/
theorem read_means_exactly_of_one_not_two :
    let not operators := Value.dict [(.text "price", .dict [(.text "$not", .dict operators)])]
    let one := not [(.text "$gt", .int 5)]
    let two := not [(.text "$gt", .int 5), (.text "$lt", .int 10)]
    (∃ t, (({} : Reader).read one).1 = .ok t ∧
        ∀ A, t.holds (Atom.leaf A) = holds A one) ∧
      ∃ t, (({} : Reader).read two).1 = .ok t ∧
        ¬∀ A, t.holds (Atom.leaf A) = holds A two := by
  intro not one two
  have htwo : ReadOnce two := by
    refine ⟨_, rfl, List.cons_ne_nil _ _, by decide, ?_⟩
    change [Atom.mk "price" .greater (some (.int 5)), ⟨"price", .less, some (.int 10)⟩].Nodup
    simp
  refine ⟨⟨_, rfl, (read_means_exactly {} one _ rfl).2.1 (by decide)⟩, ⟨_, rfl, fun hall => ?_⟩⟩
  exact absurd (((read_means_exactly {} two _ rfl).2.2 htwo).1 hall) (by decide)

/-- At a price above five and not below ten, "not both above five and below ten" holds, and the
tree that it is read into does not. -/
theorem not_read_means :
    ¬∀ (r : Reader) (v t : Value) (A : Atom → Bool), (r.read v).1 = .ok t →
      t.holds (Atom.leaf A) = holds A v := by
  intro h
  have hprice := h {} (.dict [(.text "price", .dict [(.text "$not",
    .dict [(.text "$gt", .int 5), (.text "$lt", .int 10)])])]) _
    (fun a => a.comparison == .greater) rfl
  exact absurd hprice (by decide)

end PostQuery.Filter
