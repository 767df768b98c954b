import PostQuery.Proofs.Document
import PostQuery.Yaml.Document

/-!
# YAML documents hold data

Whatever is written in a YAML document, it denotes data, so that its loader is safe. This is so of
every item while items are made: each step of the assembly keeps it, and so does the whole of it.
-/

namespace PostQuery

namespace Yaml

open Value

/-! ## Scalars -/

/-- The reading of a value gives nothing but scalars. -/
def GivesAtoms (x : Except Fault Value) : Prop := ∀ v, x = .ok v → v.isAtomic = true

theorem givesAtoms_error (f : Fault) : GivesAtoms (.error f) := fun _ h => nomatch h

theorem givesAtoms_pure {v : Value} (h : v.isAtomic = true) : GivesAtoms (pure v) := by
  intro w hw
  cases hw
  exact h

theorem givesAtoms_bind {α : Type} {x : Except Fault α} {f : α → Except Fault Value}
    (h : ∀ a, GivesAtoms (f a)) : GivesAtoms (x >>= f) := by
  intro v hv
  obtain ⟨a, -, ha⟩ := bind_eq_ok.1 hv
  exact h a v ha

theorem givesAtoms_booleanOf (s : String) : GivesAtoms (booleanOf s) := by
  rw [booleanOf]
  split
  · exact givesAtoms_pure rfl
  · exact givesAtoms_error _

theorem givesAtoms_integerOf (s : String) : GivesAtoms (integerOf s) := by
  rw [integerOf]
  simp only []
  have hint : ∀ n : Int, GivesAtoms (pure (.int n)) := fun n => givesAtoms_pure rfl
  split
  case h_6 =>
      split
      · exact givesAtoms_bind fun parts => givesAtoms_bind fun n => hint _
      · exact givesAtoms_bind fun n => hint _
  all_goals exact givesAtoms_bind fun n => hint _

theorem givesAtoms_floatOf (node : NodeId) (s : String) : GivesAtoms (floatOf node s) := by
  rw [floatOf]
  simp only []
  -- Every way of writing a number ends in these steps.
  have hend : ∀ (negative : Bool) (x : Number.Binary64), GivesAtoms
      (if x.isMarkedNan = true then pure (.float x)
        else if x.isNan = true then pure (.float (Number.Binary64.markedNan (node + 2)))
        else pure (.float (if negative = true then x.neg else x))) := by
    intro negative x
    split
    · exact givesAtoms_pure rfl
    · split <;> exact givesAtoms_pure rfl
  split
  · exact givesAtoms_error _
  · split
    · exact givesAtoms_bind fun x => hend _ x
    · exact givesAtoms_bind fun x => hend _ x
    · split
      · exact givesAtoms_bind fun parts => givesAtoms_bind fun x => hend _ x
      · exact givesAtoms_bind fun x => hend _ x

theorem givesAtoms_timestampOf (s : String) : GivesAtoms (timestampOf s) := by
  rw [timestampOf]
  simp only []
  split
  · exact givesAtoms_error _
  · split
    · exact givesAtoms_error _
    · refine givesAtoms_bind fun date => ?_
      split
      · exact givesAtoms_pure rfl
      · exact givesAtoms_bind fun clock => givesAtoms_pure rfl

theorem givesAtoms_binaryOf (s : String) : GivesAtoms (binaryOf s) := by
  rw [binaryOf]
  simp only []
  split
  · exact givesAtoms_error _
  · split
    · exact givesAtoms_pure rfl
    · exact givesAtoms_error _

/-- A node without parts denotes a scalar. -/
theorem givesAtoms_scalarOf (node : NodeId) (kind : Kind) (s : String) :
    GivesAtoms (scalarOf node kind s) := by
  rw [scalarOf.eq_def]
  split
  · exact givesAtoms_pure rfl
  · exact givesAtoms_booleanOf s
  · exact givesAtoms_integerOf s
  · exact givesAtoms_floatOf node s
  · exact givesAtoms_timestampOf s
  · exact givesAtoms_pure rfl
  · exact givesAtoms_binaryOf s
  · exact givesAtoms_error _

theorem givesAtoms_scalarValue (nodes : Nodes) (id : NodeId) (kind : Kind) :
    GivesAtoms (Assembly.scalarValue nodes id kind) := by
  rw [Assembly.scalarValue]
  refine givesAtoms_bind fun text => ?_
  split
  · exact givesAtoms_error _
  · exact givesAtoms_scalarOf id _ text

/-! ## Items -/

/-- What each step keeps is kept by all of them. -/
theorem foldlM_keeps {α β ε : Type} {P : β → Prop} {f : β → α → Except ε β}
    (hstep : ∀ b x b', P b → f b x = .ok b' → P b') {xs : List α} {b b' : β} (hb : P b)
    (h : xs.foldlM f b = .ok b') : P b' := by
  induction xs generalizing b with
  | nil =>
      cases h
      exact hb
  | cons x xs ih =>
      rw [List.foldlM_cons] at h
      obtain ⟨c, hc, h⟩ := bind_eq_ok.1 h
      exact ih (hstep b x c hb hc) h

namespace Assembly

variable {a b : Assembly} {id : NodeId}

theorem areHeld_put (ha : AreHeld a.items) {item : Item} (hitem : item.isHeld = true) :
    AreHeld (a.put id item).items := ha.set id hitem

theorem areHeld_start (ha : AreHeld a.items) (h : a.start id = .ok b) : AreHeld b.items := by
  rw [start] at h
  split at h
  · cases h
    exact ha
  · split at h
    case h_9 =>
        obtain ⟨v, hv, h⟩ := bind_eq_ok.1 h
        cases h
        exact areHeld_put ha (givesAtoms_scalarValue _ _ _ v hv)
    all_goals
      cases h
    all_goals exact areHeld_put ha rfl

theorem areHeld_startEntry {entry : NodeId × NodeId} (ha : AreHeld a.items)
    (h : a.startEntry entry = .ok b) : AreHeld b.items := by
  obtain ⟨c, hc, h⟩ := bind_eq_ok.1 h
  exact areHeld_start (areHeld_start ha hc) h

theorem isAtomic_of_key {k : Value} (ha : AreHeld a.items) (h : a.key id = .ok k) :
    k.isAtomic = true := by
  rw [key] at h
  split at h
  · next v hv =>
      cases h
      exact ha id _ hv
  · cases h

theorem isHeld_withEntry {entries : List (Value × NodeId)} {k : Value}
    (h : (Item.dict entries).isHeld = true) (hk : k.isAtomic = true) :
    (Item.dict (withEntry entries k id)).isHeld = true := by
  induction entries with
  | nil => simp [withEntry, Item.isHeld, hk]
  | cons e entries ih =>
      obtain ⟨k', id'⟩ := e
      rw [Item.isHeld, List.all_cons, Bool.and_eq_true] at h
      rw [withEntry]
      split
      · rw [Item.isHeld, List.all_cons, Bool.and_eq_true]
        exact h
      · rw [Item.isHeld, List.all_cons, Bool.and_eq_true]
        exact ⟨h.1, ih h.2⟩

theorem areHeld_entriesOf {entries : List (NodeId × NodeId)}
    {made made' : List (Value × NodeId)} (ha : AreHeld a.items)
    (hmade : (Item.dict made).isHeld = true) (h : a.entriesOf entries made = .ok (made', b)) :
    (Item.dict made').isHeld = true ∧ AreHeld b.items := by
  induction entries generalizing a made with
  | nil =>
      cases h
      exact ⟨hmade, ha⟩
  | cons entry rest ih =>
      rw [entriesOf] at h
      obtain ⟨c, hc, h⟩ := bind_eq_ok.1 h
      obtain ⟨k, hk, h⟩ := bind_eq_ok.1 h
      obtain ⟨c', hc', h⟩ := bind_eq_ok.1 h
      have hkeys := areHeld_start ha hc
      exact ih (areHeld_start hkeys hc') (isHeld_withEntry hmade (isAtomic_of_key hkeys hk)) h

theorem areHeld_mappingEntries {entries : List (Value × NodeId)} (ha : AreHeld a.items)
    (h : a.mappingEntries id = .ok (entries, b)) :
    (Item.dict entries).isHeld = true ∧ AreHeld b.items := by
  rw [mappingEntries] at h
  split at h
  · obtain ⟨nodes, -, h⟩ := bind_eq_ok.1 h
    have hnodes : AreHeld ({ a with nodes } : Assembly).items := ha
    exact areHeld_entriesOf hnodes (show (Item.dict []).isHeld = true from rfl) h
  · cases h

theorem areHeld_pairsOf {ids : List NodeId} {pairs : List (NodeId × NodeId)}
    (ha : AreHeld a.items) (h : a.pairsOf ids = .ok (pairs, b)) : AreHeld b.items := by
  induction ids generalizing a pairs with
  | nil =>
      cases h
      exact ha
  | cons id rest ih =>
      rw [pairsOf] at h
      split at h
      · obtain ⟨c, hc, h⟩ := bind_eq_ok.1 h
        obtain ⟨⟨pairs', c'⟩, hpairs, h⟩ := bind_eq_ok.1 h
        cases h
        exact ih (areHeld_startEntry ha hc) hpairs
      · cases h

/-- Looking at the parts of a collection makes items that are held as well. -/
theorem areHeld_complete (ha : AreHeld a.items) (h : a.complete id = .ok b) :
    AreHeld b.items := by
  rw [complete] at h
  simp only [] at h
  split at h
  · obtain ⟨c, hc, h⟩ := bind_eq_ok.1 h
    cases h
    refine areHeld_put (foldlM_keeps (P := fun a => AreHeld a.items) ?_ ha hc) rfl
    exact fun a id b ha h => areHeld_start ha h
  · obtain ⟨⟨pairs, c⟩, hpairs, h⟩ := bind_eq_ok.1 h
    cases h
    exact areHeld_put (areHeld_pairsOf ha hpairs) rfl
  · obtain ⟨⟨pairs, c⟩, hpairs, h⟩ := bind_eq_ok.1 h
    cases h
    exact areHeld_put (areHeld_pairsOf ha hpairs) rfl
  · obtain ⟨⟨entries, c⟩, hentries, h⟩ := bind_eq_ok.1 h
    cases h
    obtain ⟨hitem, hc⟩ := areHeld_mappingEntries ha hentries
    exact areHeld_put hc hitem
  · obtain ⟨⟨entries, c⟩, hentries, h⟩ := bind_eq_ok.1 h
    cases h
    obtain ⟨hitem, hc⟩ := areHeld_mappingEntries ha hentries
    refine areHeld_put hc ?_
    rw [Item.isHeld, List.all_map]
    exact hitem
  · cases h

/-- So does going through all levels. -/
theorem areHeld_finish {fuel : Nat} (ha : AreHeld a.items) (h : a.finish fuel = .ok b) :
    AreHeld b.items := by
  induction fuel generalizing a with
  | zero =>
      cases h
      exact ha
  | succ fuel ih =>
      rw [finish] at h
      obtain ⟨c, hc, h⟩ := bind_eq_ok.1 h
      have hlevel : AreHeld c.items :=
        foldlM_keeps (P := fun a => AreHeld a.items) (fun a id b => areHeld_complete) ha hc
      split at h
      · cases h
        exact hlevel
      · exact ih hlevel h

end Assembly

theorem areHeld_documentOf {tree : Node.Tree} {d : Document} (h : documentOf tree = .ok d) :
    AreHeld d.items := by
  rw [documentOf] at h
  obtain ⟨a, ha, h⟩ := bind_eq_ok.1 h
  obtain ⟨b, hb, h⟩ := bind_eq_ok.1 h
  cases h
  exact Assembly.areHeld_finish (Assembly.areHeld_start (areHeld_replicate _) ha) hb

/-- The items of a document that was read are held by it. -/
theorem areHeld_read {cs : List Char} {d : Document} (h : read cs = .ok d) : AreHeld d.items := by
  rw [read] at h
  split at h
  · cases h
  · obtain ⟨tree?, -, h⟩ := bind_eq_ok.1 h
    split at h
    · exact areHeld_documentOf h
    · cases h
      have hnull : (Item.value .null).isHeld = true := rfl
      exact (areHeld_replicate 1).set 0 hnull

/-- The loader of YAML documents is safe. -/
theorem isSafe_load : Loader.IsSafe load := by
  intro octets d h
  rw [load] at h
  split at h
  · exact areHeld_read (mapError_eq_ok.1 h)
  · cases h

end Yaml

end PostQuery
