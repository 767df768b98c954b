import PostQuery.Proofs.Clause.Built
import PostQuery.Proofs.Dict

/-!
# Equality among keys

Which entry of a dictionary a key finds is a question of `eqv`, and this is not equality. A number
is the same key whatever its kind, an instant whatever its offset, and what is not a number is no key
that could be found again. But among the values that can be keys it is symmetric and transitive,
which is all that putting entries into a dictionary needs.

A key is an atom, or it is made of keys. Two atoms are the same key if they denote the same thing,
and two keys that are made of keys if they are made alike. `MadeAlike` says so for one level, and
the two laws go down from there.
-/

namespace PostQuery

namespace Value

/-- The value can be a key. -/
def IsKey (v : Value) : Prop := v.keyFault? = none

theorem keyFaults?_eq_none {vs : List Value} : keyFaults? vs = none ↔ ∀ v ∈ vs, v.IsKey := by
  induction vs with
  | nil => simp [keyFaults?]
  | cons v vs ih =>
      rw [keyFaults?, List.forall_mem_cons, ← ih, IsKey]
      cases v.keyFault? <;> simp [firstSome]

theorem isKey_text (s : String) : (Value.text s).IsKey := rfl

theorem isKey_tuple {items : List Value} :
    (Value.tuple items).IsKey ↔ ∀ v ∈ items, v.IsKey := keyFaults?_eq_none

theorem isKey_fixedSet {items : List Value} :
    (Value.fixedSet items).IsKey ↔ ∀ v ∈ items, v.IsKey := keyFaults?_eq_none

theorem isKey_field {e n : Value} : (Value.field e n).IsKey ↔ e.IsKey ∧ n.IsKey := by
  rw [IsKey, keyFault?, IsKey, IsKey]
  cases e.keyFault? <;> simp [firstSome]

theorem isKey_expr {kind : Value} {terms : List Value} {negated : Bool} :
    (Value.expr kind terms negated).IsKey ↔ kind.IsKey ∧ ∀ v ∈ terms, v.IsKey := by
  rw [IsKey, keyFault?, ← keyFaults?_eq_none, IsKey]
  cases kind.keyFault? <;> simp [firstSome]

theorem asKey_eq_ok {v w : Value} : v.asKey = .ok w ↔ v.IsKey ∧ v = w := by
  rw [asKey, IsKey]
  cases v.keyFault? <;> simp

/-! ## Atoms -/

/-- What a key denotes that is not made of other keys. -/
inductive Atom where
  | null
  | number (m : Magnitude)
  | marked (x : Number.Binary64)
  | text (s : String)
  | bytes (octets : List UInt8)
  | moment (d : Date) (t : Clock)
  | instant (fields : List Int)
  | date (d : Date)
  | time (t : Clock)
  | junction (j : Junction)
  | comparison (c : Comparison)
  | mode (m : Mode)
  | context (c : Context)
  | member (enumeration : Enumeration) (name : String) (value : Value)
  | object (o : Object)

/-- The atom that a key denotes; what is not a number denotes one only with a mark. -/
def atom? : Value → Option Atom
  | .null => some .null
  | .text s => some (.text s)
  | .bytes octets => some (.bytes octets)
  | .dateTime d t none => some (.moment d t)
  | .dateTime d t (some o) => some (.instant (PostQuery.instant d t o))
  | .date d => some (.date d)
  | .time t => some (.time t)
  | .junction j => some (.junction j)
  | .comparison c => some (.comparison c)
  | .mode m => some (.mode m)
  | .context c => some (.context c)
  | .member e n v => some (.member e n v)
  | .object o => some (.object o)
  | .float x => if x.isMarkedNan then some (.marked x) else (Value.float x).number?.map .number
  | v => v.number?.map .number

theorem number?_of_isMarkedNan {x : Number.Binary64} (h : x.isMarkedNan = true) :
    (Value.float x).number? = none := by
  rw [Number.Binary64.isMarkedNan, Bool.and_eq_true, Number.Binary64.isNan] at h
  rw [number?, eq_of_beq h.1]

theorem atom?_of_number? {v : Value} {m : Magnitude} (h : v.number? = some m) :
    v.atom? = some (.number m) := by
  cases v with
  | float x =>
      cases hmarked : x.isMarkedNan with
      | true =>
          rw [number?_of_isMarkedNan hmarked] at h
          cases h
      | false => rw [atom?, hmarked, if_neg Bool.false_ne_true, h, Option.map_some]
  | bool b => rw [atom?, h, Option.map_some] <;> simp
  | int n => rw [atom?, h, Option.map_some] <;> simp
  | decimal d => rw [atom?, h, Option.map_some] <;> simp
  | _ => cases h

/-- A number denotes itself, and what is not a number only itself with its mark. -/
theorem atom?_of_isNumeric {v : Value} {a : Atom} (hv : v.isNumeric = true)
    (h : v.atom? = some a) :
    (∃ m, v.number? = some m ∧ a = .number m) ∨
      ∃ x, v = .float x ∧ x.isMarkedNan = true ∧ a = .marked x := by
  have hnumber : v.number?.map .number = some a → ∃ m, v.number? = some m ∧ a = .number m := by
    intro hmapped
    obtain ⟨m, hm, rfl⟩ := Option.map_eq_some_iff.1 hmapped
    exact ⟨m, hm, rfl⟩
  cases v with
  | float x =>
      rw [atom?] at h
      split at h
      · next hmarked =>
          cases h
          exact .inr ⟨x, rfl, hmarked, rfl⟩
      · exact .inl (hnumber h)
  | bool | int | decimal =>
      rw [atom?] at h
      · exact .inl (hnumber h)
      all_goals simp
  | _ => cases hv

theorem number?_of_atom? {v : Value} {m : Magnitude} (h : v.atom? = some (.number m)) :
    v.number? = some m := by
  cases v with
  | dateTime d t o => cases o <;> cases h
  | float | bool | int | decimal =>
      obtain ⟨m', hm, hsame⟩ | ⟨x, -, -, hsame⟩ := atom?_of_isNumeric rfl h
      · cases hsame
        exact hm
      · cases hsame
  | _ => cases h

/-! ## One level -/

theorem eqv_eq_true {v w : Value} : v.eqv w = true ↔ same v w = .ok true := by
  rw [eqv]
  cases same v w <;> simp

theorem passes_same (v w : Value) : passes (same v w) = v.eqv w := by
  rw [eqv]
  cases same v w <;> rfl

/-- The second comparison is made only where the first one finds its two equal. -/
theorem both_eq_ok {p q : Except Misuse Bool} :
    (p >>= fun b => if b = true then q else pure false) = .ok true ↔
      p = .ok true ∧ q = .ok true := by
  rw [bind_eq_ok]
  constructor
  · rintro ⟨b, hp, hq⟩
    cases b with
    | true => exact ⟨hp, hq⟩
    | false => cases hq
  · rintro ⟨hp, hq⟩
    exact ⟨true, hp, hq⟩

theorem equalAll_eq_ok {xs ys : List Value} :
    equalAll xs ys = .ok true ↔ List.Forall₂ (fun x y => x.eqv y = true) xs ys := by
  induction xs generalizing ys with
  | nil => cases ys <;> simp [equalAll]
  | cons x xs ih =>
      cases ys with
      | nil => simp [equalAll]
      | cons y ys =>
          rw [List.forall₂_cons, ← ih, eqv_eq_true, equalAll]
          exact both_eq_ok

theorem equalWithin_eq_true {xs ys : List Value} :
    equalWithin xs ys = true ↔ ∀ x ∈ xs, ∃ y ∈ ys, x.eqv y = true := by
  induction xs with
  | nil => simp [equalWithin]
  | cons x xs ih =>
      rw [equalWithin, Bool.and_eq_true, ih, List.any_eq_true, List.forall_mem_cons]
      change (∃ y ∈ ys, passes (same x y) = true) ∧ _ ↔ _
      simp only [passes_same]

theorem equalSome_eq_true {xs : List Value} {y : Value} :
    equalSome xs y = true ↔ ∃ x ∈ xs, x.eqv y = true := by
  induction xs with
  | nil => simp [equalSome]
  | cons x xs ih =>
      rw [equalSome, Bool.or_eq_true, ih, List.exists_mem_cons_iff]
      change passes (same x y) = true ∨ _ ↔ _
      rw [passes_same]

/-- The two keys denote the same atom, or they are made alike of keys that are the same. -/
inductive MadeAlike : Value → Value → Prop
  | atom {v w : Value} {a : Atom} (hv : v.atom? = some a) (hw : w.atom? = some a) : MadeAlike v w
  | tuple {xs ys : List Value} (h : List.Forall₂ (fun x y => x.eqv y = true) xs ys) :
      MadeAlike (.tuple xs) (.tuple ys)
  | fixedSet {xs ys : List Value} (hlength : xs.length = ys.length)
      (hxs : ∀ x ∈ xs, ∃ y ∈ ys, x.eqv y = true) (hys : ∀ y ∈ ys, ∃ x ∈ xs, x.eqv y = true) :
      MadeAlike (.fixedSet xs) (.fixedSet ys)
  | literal {v w : Value} (h : v.eqv w = true) : MadeAlike (.literal v) (.literal w)
  | variable {v w : Value} (h : v.eqv w = true) : MadeAlike (.variable v) (.variable w)
  | field {e e' n n' : Value} (he : e.eqv e' = true) (hn : n.eqv n' = true) :
      MadeAlike (.field e n) (.field e' n')
  | expr {kind kind' : Value} {terms terms' : List Value} {negated : Bool}
      (hkind : kind.eqv kind' = true)
      (hterms : List.Forall₂ (fun x y => x.eqv y = true) terms terms') :
      MadeAlike (.expr kind terms negated) (.expr kind' terms' negated)

theorem sameMoment_eq_true {d d' : Date} {t t' : Clock} {o o' : Option Offset} :
    sameMoment d t o d' t' o' = true ↔
      (Value.dateTime d t o).atom? = (Value.dateTime d' t' o').atom? := by
  cases o <;> cases o' <;> simp [sameMoment, atom?]

theorem exists_number?_of_sameNumeric {v w : Value} (h : sameNumeric v w = .ok true) :
    ∃ m, v.number? = some m ∧ w.number? = some m := by
  rw [sameNumeric] at h
  split at h
  · cases h
  · rw [Except.ok.injEq, sameNumber.eq_def] at h
    split at h
    · next m m' hv hw => exact ⟨m, hv, by rw [hw, of_decide_eq_true h]⟩
    · cases h

theorem madeAlike_of_equal {v w : Value} (hv : v.IsKey) (hw : w.IsKey)
    (h : equal v w = .ok true) : MadeAlike v w := by
  rw [equal.eq_def] at h
  split at h
  -- What can change is no key, which leaves one kind of bytes and one of sets.
  · exact .atom rfl rfl
  · next s t =>
      cases eq_of_beq (Except.ok.inj h)
      exact .atom rfl rfl
  · next a b =>
      cases eq_of_beq (Except.ok.inj h)
      exact .atom rfl rfl
  · exact absurd hw (Option.some_ne_none _)
  · exact absurd hv (Option.some_ne_none _)
  · exact absurd hv (Option.some_ne_none _)
  · next d t o d' t' o' =>
      have hatom := sameMoment_eq_true.1 (Except.ok.inj h)
      cases o <;> exact .atom rfl hatom.symm
  · next d d' =>
      cases of_decide_eq_true (Except.ok.inj h)
      exact .atom rfl rfl
  · next t t' =>
      cases of_decide_eq_true (Except.ok.inj h)
      exact .atom rfl rfl
  · exact absurd hv (Option.some_ne_none _)
  · exact .tuple (equalAll_eq_ok.1 h)
  · exact absurd hv (Option.some_ne_none _)
  · exact absurd hv (Option.some_ne_none _)
  · exact absurd hw (Option.some_ne_none _)
  · next xs ys =>
      rw [Except.ok.injEq, Bool.and_eq_true, Bool.and_eq_true, equalWithin_eq_true,
        List.all_eq_true] at h
      obtain ⟨⟨hlength, hxs⟩, hys⟩ := h
      exact .fixedSet (eq_of_beq hlength) hxs fun y hy => equalSome_eq_true.1 (hys y hy)
  · exact absurd hv (Option.some_ne_none _)
  · next j j' =>
      cases of_decide_eq_true (Except.ok.inj h)
      exact .atom rfl rfl
  · next c c' =>
      cases of_decide_eq_true (Except.ok.inj h)
      exact .atom rfl rfl
  · next m m' =>
      cases of_decide_eq_true (Except.ok.inj h)
      exact .atom rfl rfl
  · next c c' =>
      cases of_decide_eq_true (Except.ok.inj h)
      exact .atom rfl rfl
  · next e n v e' n' v' =>
      obtain ⟨rfl, rfl, rfl⟩ := of_decide_eq_true (Except.ok.inj h)
      exact .atom rfl rfl
  · next o o' =>
      cases of_decide_eq_true (Except.ok.inj h)
      exact .atom rfl rfl
  · exact .literal (eqv_eq_true.2 h)
  · exact .variable (eqv_eq_true.2 h)
  · obtain ⟨he, hn⟩ := both_eq_ok.1 h
    exact .field (eqv_eq_true.2 he) (eqv_eq_true.2 hn)
  · obtain ⟨hkind, hrest⟩ := both_eq_ok.1 h
    obtain ⟨hterms, hnegated⟩ := both_eq_ok.1 hrest
    cases eq_of_beq (Except.ok.inj hnegated)
    exact .expr (eqv_eq_true.2 hkind) (equalAll_eq_ok.1 hterms)
  · split at h
    · cases h
    · obtain ⟨m, hm, hm'⟩ := exists_number?_of_sameNumeric h
      exact .atom (atom?_of_number? hm) (atom?_of_number? hm')

theorem madeAlike_of_eqv {v w : Value} (hv : v.IsKey) (hw : w.IsKey) (h : v.eqv w = true) :
    MadeAlike v w := by
  rw [eqv_eq_true, same] at h
  split at h
  · next hshared =>
      rw [isShared.eq_def] at hshared
      split at hshared
      · next x y =>
          rw [Bool.and_eq_true] at hshared
          cases eq_of_beq hshared.2
          have hatom : (Value.float x).atom? = some (.marked x) := by
            rw [atom?, hshared.1, if_pos rfl]
          exact .atom hatom hatom
      · exact absurd hv (Option.some_ne_none _)
      · cases hshared
  · exact madeAlike_of_equal hv hw h

/-- The value that denotes an atom, if no other value does. -/
def Atom.value? : Atom → Option Value
  | .null => some .null
  | .number _ => none
  | .marked x => some (.float x)
  | .text s => some (.text s)
  | .bytes octets => some (.bytes octets)
  | .moment d t => some (.dateTime d t none)
  | .instant _ => none
  | .date d => some (.date d)
  | .time t => some (.time t)
  | .junction j => some (.junction j)
  | .comparison c => some (.comparison c)
  | .mode m => some (.mode m)
  | .context c => some (.context c)
  | .member e n v => some (.member e n v)
  | .object o => some (.object o)

theorem eq_of_atom? {v w : Value} {a : Atom} (h : v.atom? = some a) (hw : a.value? = some w) :
    v = w := by
  cases v with
  | float | bool | int | decimal =>
      obtain ⟨m, -, rfl⟩ | ⟨x, hx, -, rfl⟩ := atom?_of_isNumeric rfl h
      · cases hw
      · cases hw
        exact hx
  | dateTime d t o =>
      cases o with
      | none =>
          cases h
          cases hw
          rfl
      | some o =>
          cases h
          cases hw
  | null | text | bytes | date | time | junction | comparison | mode | context | member | object =>
      cases h
      cases hw
      rfl
  | _ => cases h

theorem isNumeric_of_number? {v : Value} {m : Magnitude} (h : v.number? = some m) :
    v.isNumeric = true ∧ v.isSignaling = false := by
  cases v with
  | decimal d =>
      cases d with
      | nan _ _ _ => cases h
      | _ => exact ⟨rfl, rfl⟩
  | bool | int | float => exact ⟨rfl, rfl⟩
  | _ => cases h

theorem equal_of_isNumeric {v w : Value} (hv : v.isNumeric = true) (hw : w.isNumeric = true) :
    equal v w = sameNumeric v w := by
  cases v with
  | bool | int | float | decimal =>
      cases w with
      | bool | int | float | decimal => simp [equal, meetsItself]
      | _ => cases hw
  | _ => cases hv

theorem eqv_of_number? {v w : Value} {m : Magnitude} (hv : v.number? = some m)
    (hw : w.number? = some m) : v.eqv w = true := by
  obtain ⟨hnumeric, hsilent⟩ := isNumeric_of_number? hv
  obtain ⟨hnumeric', hsilent'⟩ := isNumeric_of_number? hw
  rw [eqv_eq_true, same]
  split
  · rfl
  · rw [equal_of_isNumeric hnumeric hnumeric', sameNumeric, hsilent, hsilent', hv, hw]
    simp [sameNumber]

theorem eqv_of_equal {v w : Value} (h : equal v w = .ok true) : v.eqv w = true := by
  rw [eqv_eq_true, same]
  split
  · rfl
  · exact h

theorem exists_of_atom?_instant {v : Value} {fields : List Int}
    (h : v.atom? = some (.instant fields)) :
    ∃ d t o, v = .dateTime d t (some o) ∧ PostQuery.instant d t o = fields := by
  cases v with
  | dateTime d t o =>
      cases o with
      | none => cases h
      | some o =>
          cases h
          exact ⟨d, t, o, rfl, rfl⟩
  | float | bool | int | decimal =>
      obtain ⟨m, -, hsame⟩ | ⟨x, -, -, hsame⟩ := atom?_of_isNumeric rfl h <;> cases hsame
  | _ => cases h

/-- What denotes an atom is the same as whatever else denotes it. -/
theorem eqv_of_atom? {v w : Value} {a : Atom} (hv : v.atom? = some a) (hw : w.atom? = some a) :
    v.eqv w = true := by
  cases hvalue : a.value? with
  | some u =>
      cases eq_of_atom? hv hvalue
      cases eq_of_atom? hw hvalue
      cases a with
      | number m | instant fields => cases hvalue
      | marked x =>
          cases hvalue
          obtain ⟨m, -, hsame⟩ | ⟨y, -, hmarked, hsame⟩ := atom?_of_isNumeric rfl hv
          · cases hsame
          · cases hsame
            rw [eqv_eq_true, same, isShared, hmarked, BEq.rfl]
            rfl
      | _ =>
          cases hvalue
          exact eqv_of_equal (by simp [equal, sameMoment])
  | none =>
      cases a with
      | number m => exact eqv_of_number? (number?_of_atom? hv) (number?_of_atom? hw)
      | instant fields =>
          obtain ⟨d, t, o, rfl, h⟩ := exists_of_atom?_instant hv
          obtain ⟨d', t', o', rfl, h'⟩ := exists_of_atom?_instant hw
          exact eqv_of_equal (by simp [equal, sameMoment, h, h'])
      | _ => cases hvalue

theorem eqv_of_madeAlike {v w : Value} (h : MadeAlike v w) : v.eqv w = true := by
  cases h with
  | atom hv hw => exact eqv_of_atom? hv hw
  | tuple h =>
      refine eqv_of_equal ?_
      rw [equal]
      exact equalAll_eq_ok.2 h
  | fixedSet hlength hxs hys =>
      refine eqv_of_equal ?_
      rw [equal, Except.ok.injEq, Bool.and_eq_true, Bool.and_eq_true, equalWithin_eq_true,
        List.all_eq_true]
      exact ⟨⟨beq_iff_eq.2 hlength, hxs⟩, fun y hy => equalSome_eq_true.2 (hys y hy)⟩
  | literal h =>
      refine eqv_of_equal ?_
      rw [equal]
      exact eqv_eq_true.1 h
  | «variable» h =>
      refine eqv_of_equal ?_
      rw [equal]
      exact eqv_eq_true.1 h
  | field he hn =>
      refine eqv_of_equal ?_
      rw [equal]
      exact both_eq_ok.2 ⟨eqv_eq_true.1 he, eqv_eq_true.1 hn⟩
  | expr hkind hterms =>
      refine eqv_of_equal ?_
      rw [equal]
      refine both_eq_ok.2 ⟨eqv_eq_true.1 hkind, ?_⟩
      exact both_eq_ok.2 ⟨equalAll_eq_ok.2 hterms, congrArg Except.ok BEq.rfl⟩

/-! ## The two laws -/

/-- The keys that a key is made of. -/
def parts : Value → List Value
  | .tuple items | .fixedSet items => items
  | .literal v | .variable v => [v]
  | .field e n => [e, n]
  | .expr kind terms _ => kind :: terms
  | _ => []

theorem sizeOf_part {v part : Value} (h : part ∈ v.parts) : sizeOf part < sizeOf v := by
  cases v with
  | tuple items | fixedSet items =>
      have hsize := List.sizeOf_lt_of_mem h
      simp only [parts, tuple.sizeOf_spec, fixedSet.sizeOf_spec] at hsize ⊢
      omega
  | literal | «variable» =>
      cases List.mem_singleton.1 h
      simp
  | field e n =>
      simp only [parts, List.mem_cons, List.not_mem_nil, or_false] at h
      obtain rfl | rfl := h <;> simp only [field.sizeOf_spec] <;> omega
  | expr kind terms negated =>
      rw [expr.sizeOf_spec]
      obtain rfl | h := List.mem_cons.1 h
      · omega
      · have hsize := List.sizeOf_lt_of_mem h
        omega
  | _ => cases h

theorem IsKey.part {v part : Value} (h : v.IsKey) (hpart : part ∈ v.parts) : part.IsKey := by
  cases v with
  | tuple items => exact isKey_tuple.1 h part hpart
  | fixedSet items => exact isKey_fixedSet.1 h part hpart
  | literal | «variable» =>
      cases List.mem_singleton.1 hpart
      exact h
  | field e n =>
      obtain ⟨he, hn⟩ := isKey_field.1 h
      simp only [parts, List.mem_cons, List.not_mem_nil, or_false] at hpart
      obtain rfl | rfl := hpart
      · exact he
      · exact hn
  | expr kind terms negated => exact List.forall_mem_cons.2 (isKey_expr.1 h) part hpart
  | _ => cases hpart

theorem forall₂_symm_of_mem {α : Type} {R : α → α → Prop} {xs ys : List α}
    (h : List.Forall₂ R xs ys) (hsymm : ∀ x ∈ xs, ∀ y ∈ ys, R x y → R y x) :
    List.Forall₂ R ys xs := by
  induction h with
  | nil => exact .nil
  | cons hxy _ ih =>
      refine .cons (hsymm _ List.mem_cons_self _ List.mem_cons_self hxy) (ih fun x hx y hy => ?_)
      exact hsymm x (List.mem_cons_of_mem _ hx) y (List.mem_cons_of_mem _ hy)

theorem forall₂_trans_of_mem {α : Type} {R : α → α → Prop} {xs ys zs : List α}
    (h : List.Forall₂ R xs ys) (h' : List.Forall₂ R ys zs)
    (htrans : ∀ x ∈ xs, ∀ y ∈ ys, ∀ z ∈ zs, R x y → R y z → R x z) : List.Forall₂ R xs zs := by
  induction h generalizing zs with
  | nil =>
      cases h'
      exact .nil
  | cons hxy _ ih =>
      cases h' with
      | cons hyz hrest =>
          refine .cons ?_ (ih hrest fun x hx y hy z hz => ?_)
          · exact htrans _ List.mem_cons_self _ List.mem_cons_self _ List.mem_cons_self hxy hyz
          · exact htrans x (List.mem_cons_of_mem _ hx) y (List.mem_cons_of_mem _ hy) z
              (List.mem_cons_of_mem _ hz)

theorem MadeAlike.symm {v w : Value} (h : MadeAlike v w)
    (hparts : ∀ x ∈ v.parts, ∀ y ∈ w.parts, x.eqv y = true → y.eqv x = true) :
    MadeAlike w v := by
  cases h with
  | atom hv hw => exact .atom hw hv
  | tuple h => exact .tuple (forall₂_symm_of_mem h hparts)
  | fixedSet hlength hxs hys =>
      refine .fixedSet hlength.symm (fun y hy => ?_) fun x hx => ?_
      · obtain ⟨x, hx, hxy⟩ := hys y hy
        exact ⟨x, hx, hparts x hx y hy hxy⟩
      · obtain ⟨y, hy, hxy⟩ := hxs x hx
        exact ⟨y, hy, hparts x hx y hy hxy⟩
  | literal h => exact .literal (hparts _ List.mem_cons_self _ List.mem_cons_self h)
  | «variable» h => exact .variable (hparts _ List.mem_cons_self _ List.mem_cons_self h)
  | field he hn =>
      refine .field (hparts _ List.mem_cons_self _ List.mem_cons_self he) ?_
      exact hparts _ (by simp [parts]) _ (by simp [parts]) hn
  | expr hkind hterms =>
      refine .expr (hparts _ List.mem_cons_self _ List.mem_cons_self hkind) ?_
      refine forall₂_symm_of_mem hterms fun x hx y hy => ?_
      exact hparts x (List.mem_cons_of_mem _ hx) y (List.mem_cons_of_mem _ hy)

theorem MadeAlike.trans {u v w : Value} (h : MadeAlike u v) (h' : MadeAlike v w)
    (hparts : ∀ x ∈ u.parts, ∀ y ∈ v.parts, ∀ z ∈ w.parts, x.eqv y = true → y.eqv z = true →
      x.eqv z = true) : MadeAlike u w := by
  cases h with
  | atom hu hv =>
      cases h' with
      | atom hv' hw =>
          cases hv.symm.trans hv'
          exact .atom hu hw
      | _ => cases hv
  | tuple h =>
      cases h' with
      | atom hv _ => cases hv
      | tuple h' => exact .tuple (forall₂_trans_of_mem h h' hparts)
  | fixedSet hlength hxs hys =>
      cases h' with
      | atom hv _ => cases hv
      | fixedSet hlength' hys' hzs =>
          refine .fixedSet (hlength.trans hlength') (fun x hx => ?_) fun z hz => ?_
          · obtain ⟨y, hy, hxy⟩ := hxs x hx
            obtain ⟨z, hz, hyz⟩ := hys' y hy
            exact ⟨z, hz, hparts x hx y hy z hz hxy hyz⟩
          · obtain ⟨y, hy, hyz⟩ := hzs z hz
            obtain ⟨x, hx, hxy⟩ := hys y hy
            exact ⟨x, hx, hparts x hx y hy z hz hxy hyz⟩
  | literal h =>
      cases h' with
      | atom hv _ => cases hv
      | literal h' =>
          exact .literal
            (hparts _ List.mem_cons_self _ List.mem_cons_self _ List.mem_cons_self h h')
  | «variable» h =>
      cases h' with
      | atom hv _ => cases hv
      | «variable» h' =>
          exact .variable
            (hparts _ List.mem_cons_self _ List.mem_cons_self _ List.mem_cons_self h h')
  | field he hn =>
      cases h' with
      | atom hv _ => cases hv
      | field he' hn' =>
          refine .field
            (hparts _ List.mem_cons_self _ List.mem_cons_self _ List.mem_cons_self he he') ?_
          exact hparts _ (by simp [parts]) _ (by simp [parts]) _ (by simp [parts]) hn hn'
  | expr hkind hterms =>
      cases h' with
      | atom hv _ => cases hv
      | expr hkind' hterms' =>
          refine .expr
            (hparts _ List.mem_cons_self _ List.mem_cons_self _ List.mem_cons_self hkind hkind') ?_
          refine forall₂_trans_of_mem hterms hterms' fun x hx y hy z hz => ?_
          exact hparts x (List.mem_cons_of_mem _ hx) y (List.mem_cons_of_mem _ hy) z
            (List.mem_cons_of_mem _ hz)

theorem eqv_symm {v w : Value} (hv : v.IsKey) (hw : w.IsKey) (h : v.eqv w = true) :
    w.eqv v = true :=
  eqv_of_madeAlike ((madeAlike_of_eqv hv hw h).symm fun _ hx _ hy hxy =>
    eqv_symm (hv.part hx) (hw.part hy) hxy)
termination_by sizeOf v
decreasing_by exact sizeOf_part hx

theorem eqv_trans {u v w : Value} (hu : u.IsKey) (hv : v.IsKey) (hw : w.IsKey)
    (h : u.eqv v = true) (h' : v.eqv w = true) : u.eqv w = true :=
  eqv_of_madeAlike ((madeAlike_of_eqv hu hv h).trans (madeAlike_of_eqv hv hw h')
    fun _ hx _ hy _ hz hxy hyz => eqv_trans (hu.part hx) (hv.part hy) (hw.part hz) hxy hyz)
termination_by sizeOf u
decreasing_by exact sizeOf_part hx

theorem eqv_comm {v w : Value} (hv : v.IsKey) (hw : w.IsKey) : v.eqv w = w.eqv v :=
  Bool.eq_iff_iff.2 ⟨eqv_symm hv hw, eqv_symm hw hv⟩

end Value

end PostQuery
