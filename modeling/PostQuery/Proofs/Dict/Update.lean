import PostQuery.Proofs.Value.Keys

/-!
# Putting entries into a dictionary

An entry goes to the place where its key is already, or to the end. So the keys of an update stand
where they were put first and its values are those that were put last, and it does not matter
whether the entries come one by one or are a dictionary of their own before they are put in.

All of this asks whether two keys are the same, which is an equivalence among values that can be
keys only.
-/

namespace PostQuery.Dict

variable {d e : Dict} {k j v w : Value}

/-- The dictionary has an entry under the key. -/
def has (d : Dict) (k : Value) : Bool := (d.map Prod.fst).any fun j => j.eqv k

/-- No two keys of the dictionary are the same, and all of them can be keys. -/
structure IsProper (d : Dict) : Prop where
  keys : ∀ k ∈ d.map Prod.fst, k.IsKey
  distinct : (d.map Prod.fst).Pairwise fun k j => k.eqv j = false

/-- The dictionary has the value under the key, or under one that is the same. -/
def Emits (d : Dict) (k v : Value) : Prop := ∃ j, (k = j ∨ k.eqv j = true) ∧ (j, v) ∈ d

/-- The keys in the order in which they come first. -/
def firsts (ks : List Value) : List Value := ks.eraseDupsBy fun k j => j.eqv k

theorem has_cons : has ((j, w) :: d) k = (j.eqv k || d.has k) := rfl

theorem put_of_has (h : d.has k = true) (v : Value) :
    (d.put k v).map Prod.fst = d.map Prod.fst := by
  induction d with
  | nil => cases h
  | cons entry d ih =>
      obtain ⟨j, w⟩ := entry
      rw [put]
      split
      · rfl
      · next hne =>
          rw [has_cons, Bool.eq_false_iff.2 hne, Bool.false_or] at h
          rw [List.map_cons, List.map_cons, ih h]

theorem put_of_not_has (h : d.has k = false) (v : Value) : d.put k v = d ++ [(k, v)] := by
  induction d with
  | nil => rfl
  | cons entry d ih =>
      obtain ⟨j, w⟩ := entry
      rw [has_cons, Bool.or_eq_false_iff] at h
      rw [put, h.1, if_neg Bool.false_ne_true, ih h.2, List.cons_append]

theorem keys_put (d : Dict) (k v : Value) :
    (d.put k v).map Prod.fst =
      if d.has k then d.map Prod.fst else d.map Prod.fst ++ [k] := by
  cases h : d.has k with
  | true => rw [put_of_has h, if_pos rfl]
  | false => rw [put_of_not_has h, if_neg Bool.false_ne_true, List.map_append]; rfl

theorem has_put (h : d.has k = true) (j w : Value) : (d.put j w).has k = true := by
  rw [has, keys_put]
  split
  · exact h
  · rw [List.any_append]
    exact Bool.or_eq_true_iff.2 (.inl h)

theorem isProper_nil : IsProper [] := ⟨by simp, .nil⟩

theorem isProper_singleton (hk : k.IsKey) : IsProper [(k, v)] := ⟨by simpa using hk, by simp⟩

theorem IsProper.put (h : d.IsProper) (hk : k.IsKey) (v : Value) : (d.put k v).IsProper := by
  cases hhas : d.has k with
  | true =>
      have hkeys := put_of_has hhas v
      exact ⟨hkeys ▸ h.keys, hkeys ▸ h.distinct⟩
  | false =>
      have hnew : ∀ j ∈ d.map Prod.fst, j.eqv k = false := by
        simpa [has] using hhas
      rw [put_of_not_has hhas]
      constructor
      · rw [List.map_append, List.forall_mem_append]
        exact ⟨h.keys, (isProper_singleton hk).keys⟩
      · rw [List.map_append, List.pairwise_append]
        refine ⟨h.distinct, List.pairwise_singleton _ _, fun j hj i hi => ?_⟩
        rw [List.mem_singleton.1 hi]
        exact hnew j hj

theorem IsProper.update (h : d.IsProper) (he : ∀ k ∈ e.map Prod.fst, k.IsKey) :
    (d.update e).IsProper := by
  induction e generalizing d with
  | nil => exact h
  | cons entry e ih =>
      obtain ⟨hk, he⟩ := List.forall_mem_cons.1 he
      exact ih (h.put hk entry.2) he

theorem isProper_cons : IsProper ((k, v) :: d) ↔
    k.IsKey ∧ (∀ j ∈ d.map Prod.fst, k.eqv j = false) ∧ d.IsProper := by
  constructor
  · rintro ⟨hkeys, hdistinct⟩
    obtain ⟨hk, hkeys⟩ := List.forall_mem_cons.1 hkeys
    obtain ⟨hk', hdistinct⟩ := List.pairwise_cons.1 hdistinct
    exact ⟨hk, hk', hkeys, hdistinct⟩
  · rintro ⟨hk, hk', hkeys, hdistinct⟩
    exact ⟨List.forall_mem_cons.2 ⟨hk, hkeys⟩, List.pairwise_cons.2 ⟨hk', hdistinct⟩⟩

/-! ## Two entries -/

/-- A value that is put under the same key again replaces the first one. -/
theorem put_put_same (hd : ∀ i ∈ d.map Prod.fst, i.IsKey) (hk : k.IsKey) (hj : j.IsKey)
    (hsame : j.eqv k = true) : (d.put j w).put k v = d.put j v := by
  induction d with
  | nil => rw [put_nil, put_nil, put, hsame, if_pos rfl]
  | cons entry d ih =>
      obtain ⟨i, u⟩ := entry
      obtain ⟨hi, hd⟩ := List.forall_mem_cons.1 hd
      rw [put, put]
      cases hij : i.eqv j with
      | true =>
          rw [if_pos rfl, if_pos rfl, put, Value.eqv_trans hi hj hk hij hsame, if_pos rfl]
      | false =>
          have hik : i.eqv k = false := by
            rw [Bool.eq_false_iff]
            intro hik
            rw [Value.eqv_trans hi hk hj hik (Value.eqv_symm hj hk hsame)] at hij
            cases hij
          rw [if_neg Bool.false_ne_true, if_neg Bool.false_ne_true, put, hik,
            if_neg Bool.false_ne_true, ih hd]

/-- Of two entries under different keys, one whose key is there already can be put in first or
last. -/
theorem put_comm (hd : ∀ i ∈ d.map Prod.fst, i.IsKey) (hk : k.IsKey) (hj : j.IsKey)
    (hhas : d.has k = true) (hne : k.eqv j = false) :
    (d.put j w).put k v = (d.put k v).put j w := by
  induction d with
  | nil => cases hhas
  | cons entry d ih =>
      obtain ⟨i, u⟩ := entry
      obtain ⟨hi, hd⟩ := List.forall_mem_cons.1 hd
      cases hik : i.eqv k with
      | true =>
          have hij : i.eqv j = false := by
            rw [Bool.eq_false_iff]
            intro hij
            rw [Value.eqv_trans hk hi hj (Value.eqv_symm hi hk hik) hij] at hne
            cases hne
          simp only [put, hik, hij, if_true, Bool.false_eq_true, if_false]
      | false =>
          rw [has_cons, hik, Bool.false_or] at hhas
          cases hij : i.eqv j with
          | true => simp only [put, hik, hij, if_true, Bool.false_eq_true, if_false]
          | false =>
              simp only [put, hik, hij, Bool.false_eq_true, if_false]
              rw [ih hd hhas]

/-! ## A dictionary of its own -/

theorem put_update (hd : d.IsProper) (hc : e.IsProper) (hk : k.IsKey) (hhas : d.has k = true)
    (hne : ∀ j ∈ e.map Prod.fst, k.eqv j = false) (v : Value) :
    (d.update e).put k v = (d.put k v).update e := by
  induction e generalizing d with
  | nil => rfl
  | cons entry e ih =>
      obtain ⟨j, w⟩ := entry
      obtain ⟨hj, -, hc⟩ := isProper_cons.1 hc
      obtain ⟨hkj, hne⟩ := List.forall_mem_cons.1 hne
      rw [update_cons, update_cons, ih (hd.put hj w) hc (has_put hhas j w) hne,
        put_comm hd.keys hk hj hhas hkj]

theorem has_put_same (hd : d.IsProper) (hk : k.IsKey) (hj : j.IsKey) (hsame : j.eqv k = true)
    (w : Value) : (d.put j w).has k = true := by
  cases hhas : d.has j with
  | true =>
      rw [has, put_of_has hhas, List.any_eq_true]
      obtain ⟨i, hi, hij⟩ := List.any_eq_true.1 hhas
      exact ⟨i, hi, Value.eqv_trans (hd.keys i hi) hj hk hij hsame⟩
  | false =>
      rw [put_of_not_has hhas, has, List.map_append, List.any_append, Bool.or_eq_true]
      exact .inr (by simpa using hsame)

theorem update_put (hd : d.IsProper) (he : e.IsProper) (hk : k.IsKey) (v : Value) :
    d.update (e.put k v) = (d.update e).put k v := by
  induction e generalizing d with
  | nil => rfl
  | cons entry e ih =>
      obtain ⟨j, w⟩ := entry
      obtain ⟨hj, hjs, he⟩ := isProper_cons.1 he
      rw [put]
      split
      · next hsame =>
          have hne : ∀ i ∈ e.map Prod.fst, k.eqv i = false := by
            intro i hi
            rw [Bool.eq_false_iff]
            intro hki
            have hji := hjs i hi
            rw [Value.eqv_trans hj hk (he.keys i hi) hsame hki] at hji
            cases hji
          rw [update_cons, update_cons,
            put_update (hd.put hj w) he hk (has_put_same hd hk hj hsame w) hne,
            put_put_same hd.keys hk hj hsame]
      · rw [update_cons, update_cons, ih (hd.put hj w) he]

theorem update_update (hd : d.IsProper) (he : e.IsProper) {f : Dict}
    (hf : ∀ k ∈ f.map Prod.fst, k.IsKey) : d.update (e.update f) = (d.update e).update f := by
  induction f generalizing e with
  | nil => rfl
  | cons entry f ih =>
      obtain ⟨k, v⟩ := entry
      obtain ⟨hk, hf⟩ := List.forall_mem_cons.1 hf
      rw [update_cons, update_cons, ih (he.put hk v) hf, update_put hd he hk]

/-! ## What there is afterwards -/

theorem keys_update (d e : Dict) :
    (d.update e).map Prod.fst = List.eraseDupsBy.loop (fun k j => j.eqv k) (e.map Prod.fst)
      (d.map Prod.fst).reverse := by
  induction e generalizing d with
  | nil => rw [update_nil, List.map_nil, List.eraseDupsBy.loop, List.reverse_reverse]
  | cons entry e ih =>
      obtain ⟨k, v⟩ := entry
      rw [update_cons, ih, List.map_cons, List.eraseDupsBy.loop, List.any_reverse, ← has, keys_put]
      cases d.has k with
      | true => rw [if_pos rfl]
      | false => rw [if_neg Bool.false_ne_true, List.reverse_append]; rfl

theorem keys_ofEntries (e : Dict) : (ofEntries e).map Prod.fst = firsts (e.map Prod.fst) :=
  keys_update [] e

theorem emits_or_mem_of_put (hd : d.IsProper) (hj : j.IsKey) (h : (k, v) ∈ d.put j w) :
    (k = j ∨ k.eqv j = true) ∧ v = w ∨ (k, v) ∈ d ∧ k.eqv j = false := by
  induction d with
  | nil =>
      cases List.mem_singleton.1 h
      exact .inl ⟨.inl rfl, rfl⟩
  | cons entry d ih =>
      obtain ⟨i, u⟩ := entry
      obtain ⟨hi, his, hd⟩ := isProper_cons.1 hd
      rw [put] at h
      split at h
      · next hij =>
          obtain h | h := List.mem_cons.1 h
          · cases h
            exact .inl ⟨.inr hij, rfl⟩
          · refine .inr ⟨List.mem_cons_of_mem _ h, Bool.eq_false_iff.2 fun hkj => ?_⟩
            -- Then `k` were the same as the key whose place it is.
            have hk := List.mem_map_of_mem (f := Prod.fst) h
            have hik := his k hk
            rw [Value.eqv_trans hi hj (hd.keys k hk) hij
              (Value.eqv_symm (hd.keys k hk) hj hkj)] at hik
            cases hik
      · next hij =>
          obtain h | h := List.mem_cons.1 h
          · cases h
            exact .inr ⟨List.mem_cons_self, Bool.eq_false_iff.2 hij⟩
          · obtain hnew | ⟨hold, hkj⟩ := ih hd h
            · exact .inl hnew
            · exact .inr ⟨List.mem_cons_of_mem _ hold, hkj⟩

/-- What is there after an update was put in by it, or it was there and the update has no such
key. -/
theorem emits_or_mem_of_update (hd : d.IsProper) (he : ∀ k ∈ e.map Prod.fst, k.IsKey)
    (h : (k, v) ∈ d.update e) :
    e.Emits k v ∨ (k, v) ∈ d ∧ ∀ j ∈ e.map Prod.fst, k.eqv j = false := by
  induction e generalizing d with
  | nil => exact .inr ⟨h, fun j hj => nomatch hj⟩
  | cons entry e ih =>
      obtain ⟨j, w⟩ := entry
      obtain ⟨hj, he⟩ := List.forall_mem_cons.1 he
      obtain ⟨i, hsame, hi⟩ | ⟨hput, hne⟩ := ih (hd.put hj w) he h
      · exact .inl ⟨i, hsame, List.mem_cons_of_mem _ hi⟩
      · obtain ⟨hsame, rfl⟩ | ⟨hold, hkj⟩ := emits_or_mem_of_put hd hj hput
        · exact .inl ⟨j, hsame, List.mem_cons_self⟩
        · exact .inr ⟨hold, List.forall_mem_cons.2 ⟨hkj, hne⟩⟩

/-- Of several dictionaries that are put in, the last one that has a key decides on its value. -/
theorem last_emits_or_mem {es : List Dict} (hd : d.IsProper) (hes : ∀ e ∈ es, e.IsProper)
    (h : (k, v) ∈ d.update es.flatten) :
    (∃ before e after, es = before ++ e :: after ∧ e.Emits k v ∧
        ∀ f ∈ after, ∀ j ∈ f.map Prod.fst, k.eqv j = false) ∨
      (k, v) ∈ d ∧ ∀ f ∈ es, ∀ j ∈ f.map Prod.fst, k.eqv j = false := by
  induction es generalizing d with
  | nil => exact .inr ⟨h, fun f hf => nomatch hf⟩
  | cons e es ih =>
      obtain ⟨he, hes⟩ := List.forall_mem_cons.1 hes
      rw [List.flatten_cons, update_append] at h
      obtain ⟨before, f, after, rfl, hf, hafter⟩ | ⟨hmem, hnone⟩ := ih (hd.update he.keys) hes h
      · exact .inl ⟨e :: before, f, after, rfl, hf, hafter⟩
      · obtain hemits | ⟨hold, hkeep⟩ := emits_or_mem_of_update hd he.keys hmem
        · exact .inl ⟨[], e, es, rfl, hemits, hnone⟩
        · exact .inr ⟨hold, List.forall_mem_cons.2 ⟨hkeep, hnone⟩⟩

/-- Entries whose keys are all different just follow one another. -/
theorem update_eq_append
    (h : ((d ++ e).map Prod.fst).Pairwise fun k j => k.eqv j = false) : d.update e = d ++ e := by
  induction e generalizing d with
  | nil => rw [update_nil, List.append_nil]
  | cons entry e ih =>
      obtain ⟨k, v⟩ := entry
      have hsplit : d ++ (k, v) :: e = d ++ [(k, v)] ++ e := by simp
      have hnew : d.has k = false := by
        rw [List.map_append, List.pairwise_append] at h
        rw [has, List.any_eq_false]
        intro j hj
        rw [h.2.2 j hj k List.mem_cons_self]
        exact Bool.false_ne_true
      rw [update_cons, put_of_not_has hnew, ih (hsplit ▸ h), hsplit]

theorem ofEntries_eq_self (h : (e.map Prod.fst).Pairwise fun k j => k.eqv j = false) :
    ofEntries e = e := update_eq_append h

end PostQuery.Dict
