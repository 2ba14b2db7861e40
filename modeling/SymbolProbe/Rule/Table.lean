/-!
# Tables of named entries

A table maps names to entries. Its entries are kept in the order of their names, each name once,
so two tables with the same look-ups are equal (`Table.ext_find?`). Inserting an entry replaces
the one of the same name (`Table.find?_insert`), and in a list of pairs the last one of a name
wins (`Table.find?_ofList`).
-/

namespace SymbolProbe

/-- The entries are in strictly ascending order of their names. -/
def NamesAscend {α : Type} (entries : List (String × α)) : Prop :=
  entries.Pairwise fun e f => e.1 < f.1

/-- A finite map from names to entries. -/
structure Table (α : Type) where
  entries : List (String × α)
  ascend : NamesAscend entries

namespace Table

variable {α : Type}

/-! ### Operations -/

/-- The table without entries. -/
def empty : Table α := ⟨[], List.Pairwise.nil⟩

instance : Inhabited (Table α) := ⟨empty⟩

/-- Put an entry in its place among entries in order. -/
def insertEntry (k : String) (v : α) : List (String × α) → List (String × α)
  | [] => [(k, v)]
  | e :: es =>
    if k < e.1 then (k, v) :: e :: es
    else if k = e.1 then (k, v) :: es
    else e :: insertEntry k v es

theorem mem_insertEntry {k : String} {v : α} {es : List (String × α)} {e : String × α}
    (h : e ∈ insertEntry k v es) : e = (k, v) ∨ e ∈ es := by
  induction es with
  | nil => simpa [insertEntry] using h
  | cons d es ih =>
    rw [insertEntry] at h
    split at h
    · simpa using h
    · split at h
      · rcases List.mem_cons.1 h with h | h
        · exact .inl h
        · exact .inr (by simp [h])
      · rcases List.mem_cons.1 h with h | h
        · exact .inr (by simp [h])
        · rcases ih h with h | h
          · exact .inl h
          · exact .inr (by simp [h])

theorem ascend_insertEntry (k : String) (v : α) {es : List (String × α)} (h : NamesAscend es) :
    NamesAscend (insertEntry k v es) := by
  induction es with
  | nil => simp [insertEntry, NamesAscend]
  | cons e es ih =>
    obtain ⟨he, hes⟩ := List.pairwise_cons.1 h
    rw [insertEntry]
    split
    · next hk =>
      refine List.pairwise_cons.2 ⟨fun d hd => ?_, h⟩
      rcases List.mem_cons.1 hd with rfl | hd
      · exact hk
      · exact String.lt_trans hk (he d hd)
    · next hk =>
      split
      · next heq =>
        subst heq
        exact List.pairwise_cons.2 ⟨he, hes⟩
      · next hne =>
        refine List.pairwise_cons.2 ⟨fun d hd => ?_, ih hes⟩
        rcases mem_insertEntry hd with rfl | hd
        · exact String.not_le.1 fun hle => hne (String.le_antisymm hle (String.not_lt.1 hk))
        · exact he d hd

/-- Put an entry in the table, in place of any other of its name. -/
def insert (t : Table α) (k : String) (v : α) : Table α :=
  ⟨insertEntry k v t.entries, ascend_insertEntry k v t.ascend⟩

/-- The entry of a name. -/
def find? (t : Table α) (k : String) : Option α :=
  (t.entries.find? fun e => e.1 == k).map Prod.snd

/-- The table that a list of pairs describes when the last pair of a name counts. -/
def ofList (es : List (String × α)) : Table α :=
  es.foldl (fun t e => t.insert e.1 e.2) empty

/-- Add the entries of a second table over those of the first. -/
def extend (t u : Table α) : Table α :=
  u.entries.foldl (fun t e => t.insert e.1 e.2) t

/-- The number of entries. -/
def size (t : Table α) : Nat := t.entries.length

/-! ### Look-ups -/

@[simp] theorem find?_empty (k : String) : (empty : Table α).find? k = none := rfl

theorem find?_insert (t : Table α) (k : String) (v : α) (n : String) :
    (t.insert k v).find? n = if n = k then some v else t.find? n := by
  obtain ⟨es, h⟩ := t
  simp only [insert, find?]
  clear h
  induction es with
  | nil =>
    by_cases hn : k = n
    · simp [insertEntry, hn]
    · simp [insertEntry, hn, Ne.symm hn]
  | cons e es ih =>
    rw [insertEntry]
    split
    · by_cases hn : k = n
      · simp [hn]
      · simp [List.find?_cons, hn, Ne.symm hn]
    · split
      · next heq =>
        by_cases hn : k = n
        · simp [hn]
        · simp [hn, Ne.symm hn, ← heq]
      · next hne =>
        by_cases hn : n = k
        · subst hn
          simpa [List.find?_cons, beq_false_of_ne (Ne.symm hne)] using ih
        · cases he : e.1 == n with
          | true => simp [he, hn]
          | false => simpa [List.find?_cons, he, hn] using ih

/-- Adding pairs one by one lets the last pair of a name win over the table. -/
theorem find?_foldl_insert (es : List (String × α)) (t : Table α) (n : String) :
    (es.foldl (fun t e => t.insert e.1 e.2) t).find? n =
      ((es.reverse.find? fun e => e.1 == n).map Prod.snd).or (t.find? n) := by
  induction es generalizing t with
  | nil => simp
  | cons e es ih =>
    simp only [List.foldl_cons, ih, find?_insert, List.reverse_cons, List.find?_append]
    by_cases hn : e.1 = n
    · cases es.reverse.find? fun e => e.1 == n <;> simp [hn]
    · cases es.reverse.find? fun e => e.1 == n <;> simp [hn, Ne.symm hn]

theorem find?_ofList (es : List (String × α)) (n : String) :
    (ofList es).find? n = (es.reverse.find? fun e => e.1 == n).map Prod.snd := by
  simp [ofList, find?_foldl_insert]

/-- A name has at most one entry, so a pair is an entry exactly when it is found by its name. -/
theorem find?_eq_some_iff {t : Table α} {k : String} {v : α} :
    t.find? k = some v ↔ (k, v) ∈ t.entries := by
  obtain ⟨es, h⟩ := t
  simp only [find?]
  induction es with
  | nil => simp
  | cons e es ih =>
    obtain ⟨he, hes⟩ := List.pairwise_cons.1 h
    by_cases hk : e.1 = k
    · have hnot : (k, v) ∉ es := fun hm => String.lt_irrefl _ (hk ▸ he (k, v) hm)
      obtain ⟨a, b⟩ := e
      simp only at hk
      subst hk
      simp [hnot, eq_comm]
    · have hne : (k, v) ≠ e := fun h => hk (by rw [← h])
      simpa [List.find?_cons, beq_false_of_ne hk, hne] using ih hes

/-- A table laid over another shadows its entries. -/
theorem find?_extend (t u : Table α) (n : String) :
    (t.extend u).find? n = (u.find? n).or (t.find? n) := by
  rw [extend, find?_foldl_insert]
  congr 1
  have hmem : ∀ v, (u.entries.reverse.find? fun e => e.1 == n).map Prod.snd = some v →
      u.find? n = some v := by
    intro v hv
    obtain ⟨⟨a, b⟩, hab, rfl⟩ := Option.map_eq_some_iff.1 hv
    have ha : a = n := by simpa using List.find?_some hab
    subst ha
    exact find?_eq_some_iff.2 (List.mem_reverse.1 (List.mem_of_find?_eq_some hab))
  cases hr : (u.entries.reverse.find? fun e => e.1 == n) with
  | some e => rw [hmem e.2 (by simp [hr])]; rfl
  | none =>
    rw [List.find?_eq_none] at hr
    simp only [find?, Option.map_none]
    rw [List.find?_eq_none.2 fun e he => hr e (List.mem_reverse.2 he)]
    rfl

/-! ### Equality -/

/-- Entries in ascending order are determined by the pairs among them. -/
theorem eq_of_mem_iff {es fs : List (String × α)} (he : NamesAscend es) (hf : NamesAscend fs)
    (h : ∀ p, p ∈ es ↔ p ∈ fs) : es = fs := by
  induction es generalizing fs with
  | nil =>
    cases fs with
    | nil => rfl
    | cons f fs => exact absurd ((h f).2 (by simp)) (by simp)
  | cons e es ih =>
    cases fs with
    | nil => exact absurd ((h e).1 (by simp)) (by simp)
    | cons f fs =>
      obtain ⟨he1, he2⟩ := List.pairwise_cons.1 he
      obtain ⟨hf1, hf2⟩ := List.pairwise_cons.1 hf
      have hef : e = f := by
        rcases List.mem_cons.1 ((h e).1 (by simp)) with heq | hm
        · exact heq
        · rcases List.mem_cons.1 ((h f).2 (by simp)) with heq | hm'
          · exact heq.symm
          · exact absurd (String.lt_trans (he1 f hm') (hf1 e hm)) (String.lt_irrefl _)
      subst hef
      congr 1
      refine ih he2 hf2 fun p => ⟨fun hp => ?_, fun hp => ?_⟩
      · rcases List.mem_cons.1 ((h p).1 (by simp [hp])) with rfl | hm
        · exact absurd (he1 p hp) (String.lt_irrefl _)
        · exact hm
      · rcases List.mem_cons.1 ((h p).2 (by simp [hp])) with rfl | hm
        · exact absurd (hf1 p hp) (String.lt_irrefl _)
        · exact hm

/-- Two tables with the same look-ups are equal. -/
theorem ext_find? {t u : Table α} (h : ∀ k, t.find? k = u.find? k) : t = u := by
  have hmem : t.entries = u.entries := by
    refine eq_of_mem_iff t.ascend u.ascend fun p => ?_
    rw [← find?_eq_some_iff (t := t), ← find?_eq_some_iff (t := u), h]
  cases t
  cases u
  simpa using hmem

end Table

end SymbolProbe
