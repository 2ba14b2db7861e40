import SymbolProbe.Proofs.Layout

/-!
# Reading records

However its entries are ordered, a record is read by filling in the fields that are written, each
once (`Reading.fillAll`). If every field that is filled in comes to agree with a wanted record, and
every other field agrees from the start, then the wanted record is read
(`Reading.Fillings.finish_fillAll`).
From this follow the three ways in which a record is read: directly from a mapping
(`Reading.record_eq`), and through an untyped value from entries or from a list of all fields.
-/

namespace SymbolProbe.Yaml

open Reading (Field Draft)

variable {α β : Type}

namespace Reading

/-! ### Lists -/

/-- What is read item by item from a list. -/
lemma mapM_eq_of_forall₂ {read : β → Reading α} {xs : List β} {as : List α}
    (h : List.Forall₂ (fun x a => read x = pure a) xs as) : xs.mapM read = pure as := by
  induction h with
  | nil => rfl
  | cons hx _ ih => rw [List.mapM_cons, hx, pure_bind, ih, pure_bind]

/-! ### Filling in fields -/

/-- Reading what is written for a field makes the record agree in that field, and leaves the fields
of other names in agreement. -/
def Field.Reads (agrees : String → α → Prop) (f : Field β α) (x : β) : Prop :=
  ∀ a, ∃ b, f.read x a = pure b ∧ agrees f.name b ∧ ∀ n, n ≠ f.name → agrees n a → agrees n b

/-- Fill in fields one after the other. -/
def fillAll (rs : List (Field β α × β)) (d : Draft α) : Reading (Draft α) :=
  rs.foldlM (fun d r => r.1.fill r.2 d) d

variable {agrees : String → α → Prop}

lemma Field.Reads.exists_fill {f : Field β α} {x : β} (h : f.Reads agrees x) {d : Draft α}
    (hseen : f.name ∉ d.seen) :
    ∃ a, f.fill x d = pure ⟨f.name :: d.seen, a⟩ ∧ agrees f.name a ∧
      ∀ n, n ≠ f.name → agrees n d.record → agrees n a := by
  obtain ⟨a, hread, hfield, hothers⟩ := h d.record
  refine ⟨a, ?_, hfield, hothers⟩
  have hnew : d.seen.contains f.name = false := by simpa using hseen
  rw [Field.fill, hnew, hread]
  rfl

/-- Fields of different names are filled in, whatever their order is. -/
lemma exists_fillAll {rs : List (Field β α × β)} (hreads : ∀ r ∈ rs, r.1.Reads agrees r.2)
    (hnodup : (rs.map fun r => r.1.name).Nodup) {d : Draft α}
    (hseen : ∀ r ∈ rs, r.1.name ∉ d.seen) :
    ∃ d', fillAll rs d = pure d' ∧
      (∀ n, n ∈ d'.seen ↔ n ∈ d.seen ∨ n ∈ rs.map (fun r => r.1.name)) ∧
      ∀ n, n ∈ rs.map (fun r => r.1.name) ∨ agrees n d.record → agrees n d'.record := by
  -- What is filled in agrees from then on, since the fields to come have other names.
  induction rs generalizing d with
  | nil => exact ⟨d, rfl, by simp, by simp⟩
  | cons r rs ih =>
    obtain ⟨f, x⟩ := r
    obtain ⟨hf, hrest⟩ := List.nodup_cons.1 hnodup
    obtain ⟨a, hfill, hfield, hothers⟩ :=
      (hreads (f, x) (by simp)).exists_fill (hseen (f, x) (by simp))
    have hnext : ∀ r ∈ rs, r.1.name ∉ f.name :: d.seen := by
      intro r hr
      have hold := hseen r (by simp [hr])
      have hne : r.1.name ≠ f.name := fun he => hf (List.mem_map.2 ⟨r, hr, he⟩)
      simp [hold, hne]
    obtain ⟨d', hall, hseen', hagrees⟩ :=
      ih (d := ⟨f.name :: d.seen, a⟩) (fun r hr => hreads r (by simp [hr])) hrest hnext
    refine ⟨d', ?_, ?_, ?_⟩
    · rw [fillAll, List.foldlM_cons]
      show (f.fill x d >>= fun d => fillAll rs d) = _
      rw [hfill, pure_bind, hall]
    · intro n
      rw [hseen' n]
      simp only [List.map_cons, List.mem_cons]
      tauto
    · intro n hn
      refine hagrees n ?_
      by_cases hname : n = f.name
      · exact .inr (hname ▸ hfield)
      · simp only [List.map_cons, List.mem_cons, hname, false_or] at hn
        exact hn.imp_right (hothers n hname)

lemma finish_eq {fields : List (Field β α)} {d : Draft α}
    (h : ∀ f ∈ fields, f.isRequired = true → f.name ∈ d.seen) :
    finish fields d = pure d.record := by
  have hnone : (fields.find? fun f => f.isRequired && !d.seen.contains f.name) = none := by
    rw [List.find?_eq_none]
    intro f hf
    cases hrequired : f.isRequired with
    | false => simp
    | true => simp [h f hf hrequired]
  rw [finish, hnone]

/-- Fields that determine a record, and what is known of them at the start. -/
structure Determines (fields : List (Field β α)) (start wanted : α)
    (agrees : String → α → Prop) : Prop where
  nodup : (fields.map Field.name).Nodup
  unique : ∀ a, (∀ f ∈ fields, agrees f.name a) → a = wanted

/-- The wanted record is read when the fields that are not filled in agree from the start. -/
lemma Determines.finish_fillAll {fields : List (Field β α)} {start wanted : α}
    (h : Determines fields start wanted agrees) {rs : List (Field β α × β)}
    (hreads : ∀ r ∈ rs, r.1.Reads agrees r.2) (hnodup : (rs.map fun r => r.1.name).Nodup)
    (hfields : ∀ f ∈ fields, f.name ∈ rs.map (fun r => r.1.name) ∨
      f.isRequired = false ∧ agrees f.name start) :
    (do finish fields (← fillAll rs ⟨[], start⟩)) = pure wanted := by
  obtain ⟨d, hfill, hseen, hagrees⟩ := exists_fillAll hreads hnodup (d := ⟨[], start⟩) (by simp)
  have hrequired : ∀ f ∈ fields, f.isRequired = true → f.name ∈ d.seen := by
    intro f hf hr
    obtain hmem | ⟨hoptional, -⟩ := hfields f hf
    · exact (hseen _).2 (.inr hmem)
    · simp [hr] at hoptional
  have hwanted : d.record = wanted :=
    h.unique _ fun f hf => hagrees _ ((hfields f hf).imp_right And.right)
  rw [hfill, pure_bind, finish_eq hrequired, hwanted]

/-! ### Written fields -/

/-- A field is written in a form: what is written stands for something that is read, and a field
that may be left out agrees from the start. -/
structure Fits (stands : Node → β → Prop) (agrees : String → α → Prop) (start : α)
    (f : Field β α) (form : FieldForm) : Prop where
  name : form.name = f.name
  lack : form.mayLack → f.isRequired = false ∧ agrees f.name start
  written : ∀ x, form.isWritten x → ∃ y, stands x y ∧ f.Reads agrees y

variable {stands : Node → β → Prop} {start wanted : α} {fields : List (Field β α)}
  {forms : List FieldForm}

/-- A field whose part of the record is read by a reader of its own. -/
lemma Fits.of_reader {γ : Type} {f : Field β α} {form : FieldForm} (reader : β → Reading γ)
    (set : γ → α → α) (c : γ) (hname : form.name = f.name)
    (hread : ∀ y a, f.read y a = do return set (← reader y) a)
    (hlack : form.mayLack → f.isRequired = false ∧ agrees f.name start)
    (hwritten : ∀ x, form.isWritten x → ∃ y, stands x y ∧ reader y = pure c)
    (hset : ∀ a, agrees f.name (set c a) ∧
      ∀ n, n ≠ f.name → agrees n a → agrees n (set c a)) : Fits stands agrees start f form where
  name := hname
  lack := hlack
  written := by
    intro x hx
    obtain ⟨y, hy, hc⟩ := hwritten x hx
    refine ⟨y, hy, fun a => ⟨set c a, ?_, hset a⟩⟩
    rw [hread, hc, pure_bind]

/-- A field of a record that is read directly. -/
lemma Fits.of_node {γ : Type} {f : Field Node α} {form : FieldForm} {reader : Node → Reading γ}
    (set : γ → α → α) (c : γ) (hwritten : ∀ x, form.isWritten x → reader x = pure c)
    (hlack : form.mayLack → f.isRequired = false ∧ agrees f.name start)
    (hset : ∀ a, agrees f.name (set c a) ∧ ∀ n, n ≠ f.name → agrees n a → agrees n (set c a))
    (hname : form.name = f.name := by rfl)
    (hread : ∀ y a, f.read y a = do return set (← reader y) a := by exact fun _ _ => rfl) :
    Fits (fun x y => x = y) agrees start f form :=
  .of_reader reader set c hname hread hlack (fun x hx => ⟨x, rfl, hwritten x hx⟩) hset

lemma map_name_of_fits (h : List.Forall₂ (Fits stands agrees start) fields forms) :
    fields.map Field.name = forms.map FieldForm.name := by
  induction h with
  | nil => rfl
  | cons hf _ ih => rw [List.map_cons, List.map_cons, hf.name, ih]

/-- What entries are written for: fields, each once, in an order of their own. -/
structure Fillings (stands : Node → β → Prop) (agrees : String → α → Prop) (start : α)
    (fields : List (Field β α)) (es : List (Node × Node)) (rs : List (Field β α × β)) : Prop where
  entries : List.Forall₂ (fun e r => e.1.IsWord r.1.name ∧ stands e.2 r.2) es rs
  sublist : (rs.map Prod.fst).Sublist fields
  reads : ∀ r ∈ rs, r.1.Reads agrees r.2
  complete : ∀ f ∈ fields, f ∈ rs.map Prod.fst ∨ f.isRequired = false ∧ agrees f.name start

lemma Fillings.mem {es : List (Node × Node)} {rs : List (Field β α × β)}
    (h : Fillings stands agrees start fields es rs) : ∀ r ∈ rs, r.1 ∈ fields := fun r hr =>
  h.sublist.subset (List.mem_map.2 ⟨r, hr, rfl⟩)

lemma exists_fillings (h : List.Forall₂ (Fits stands agrees start) fields forms)
    {es : List (Node × Node)} (hes : WritesFields forms es) :
    ∃ rs, Fillings stands agrees start fields es rs := by
  induction h generalizing es with
  | nil =>
    cases hes
    exact ⟨[], .nil, .refl _, by simp, by simp⟩
  | @cons f form fields forms hf _ ih =>
    cases hes with
    | lack hlack hes =>
      obtain ⟨rs, hrs⟩ := ih hes
      refine ⟨rs, hrs.entries, hrs.sublist.cons f, hrs.reads, ?_⟩
      exact List.forall_mem_cons.2 ⟨.inr (hf.lack hlack), hrs.complete⟩
    | @entry _ _ k x es hk hx hes =>
      obtain ⟨rs, hrs⟩ := ih hes
      obtain ⟨y, hy, hread⟩ := hf.written x hx
      refine ⟨(f, y) :: rs, .cons ⟨hf.name ▸ hk, hy⟩ hrs.entries, hrs.sublist.cons_cons f,
        List.forall_mem_cons.2 ⟨hread, hrs.reads⟩, ?_⟩
      refine List.forall_mem_cons.2 ⟨.inl (by simp), fun g hg => ?_⟩
      exact (hrs.complete g hg).imp_left fun hmem => by simp [hmem]

/-- The order in which the fields are filled in does not matter. -/
lemma Fillings.finish_fillAll {es : List (Node × Node)} {rs ts : List (Field β α × β)}
    (h : Fillings stands agrees start fields es rs) (hd : Determines fields start wanted agrees)
    (hperm : ts.Perm rs) : (do finish fields (← fillAll ts ⟨[], start⟩)) = pure wanted := by
  have hnames : (ts.map fun r => r.1.name).Perm (rs.map fun r => r.1.name) := hperm.map _
  have hsublist : (rs.map fun r => r.1.name).Sublist (fields.map Field.name) := by
    simpa [Function.comp_def] using h.sublist.map Field.name
  refine hd.finish_fillAll (fun r hr => h.reads r (hperm.mem_iff.1 hr))
    (hnames.nodup_iff.2 (hsublist.nodup hd.nodup)) fun f hf => ?_
  refine (h.complete f hf).imp_left fun hmem => hnames.mem_iff.2 ?_
  obtain ⟨r, hr, rfl⟩ := List.mem_map.1 hmem
  exact List.mem_map.2 ⟨r, hr, rfl⟩

/-- An entry fills in a field, or it passes for something else. -/
def FilledBy (stands : Node → β → Prop) (fields : List (Field β α)) (passes : Node × Node → Prop)
    (e : Node × Node) : Option (Field β α × β) → Prop
  | some r => e.1.IsWord r.1.name ∧ stands e.2 r.2 ∧ r.1 ∈ fields
  | none => passes e

/-- In whatever order the entries of a record stand, those that do not pass for something else fill
in its fields. -/
lemma exists_filledBy {passes : Node × Node → Prop}
    (hfits : List.Forall₂ (Fits stands agrees start) fields forms)
    {es known others : List (Node × Node)} (hperm : es.Perm (known ++ others))
    (hknown : WritesFields forms known) (hothers : ∀ e ∈ others, passes e) :
    ∃ rs os, Fillings stands agrees start fields known rs ∧
      List.Forall₂ (FilledBy stands fields passes) es os ∧ (os.filterMap id).Perm rs ∧
      os.countP Option.isNone = others.length := by
  obtain ⟨rs, hrs⟩ := exists_fillings hfits hknown
  have hall : List.Forall₂ (FilledBy stands fields passes) (known ++ others)
      (rs.map some ++ others.map fun _ => none) := by
    refine List.rel_append ?_ ?_
    · have hentries := ((List.forall₂_and_left _ _).2 ⟨hrs.mem, hrs.entries.flip⟩).flip
      exact List.forall₂_map_right_iff.2 (hentries.imp fun _ _ h => ⟨h.2.1, h.2.2, h.1⟩)
    · exact List.forall₂_map_right_iff.2 (List.forall₂_same.2 hothers)
  obtain ⟨os, hos, hosPerm⟩ := List.perm_comp_forall₂ hperm hall
  refine ⟨rs, os, hrs, hos, ?_, ?_⟩
  · simpa [List.filterMap_map] using hosPerm.filterMap id
  · rw [hosPerm.countP_eq, List.countP_append, List.countP_map, List.countP_map]
    simp [Function.comp_def]

/-! ### Records in mappings -/

lemma text_scalar (p : Properties) (t : String) (isPlain : Bool) :
    text (.scalar p t isPlain) = pure t := rfl

/-- A name leads to the field that has it. -/
lemma find?_field (hnodup : (fields.map Field.name).Nodup) {f : Field β α} (hf : f ∈ fields) :
    fields.find? (fun g => g.name == f.name) = some f := by
  induction fields with
  | nil => cases hf
  | cons g fields ih =>
    obtain ⟨hg, hrest⟩ := List.nodup_cons.1 hnodup
    obtain rfl | hf := List.mem_cons.1 hf
    · simp
    · have hne : g.name ≠ f.name := fun he => hg (List.mem_map.2 ⟨f, hf, he.symm⟩)
      rw [List.find?_cons_of_neg (by simpa using hne)]
      exact ih hrest hf

/-- An entry is written for a field, or for none. -/
def WrittenFor (fields : List (Field Node α)) (e : Node × Node) :
    Option (Field Node α × Node) → Prop
  | some r => e.1.IsWord r.1.name ∧ e.2 = r.2 ∧ r.1 ∈ fields
  | none => (∃ q t isPlain, e.1 = .scalar q t isPlain ∧ ∀ f ∈ fields, f.name ≠ t) ∧
      e.2.isWhole = true

lemma writtenFor_none {fields : List (Field Node α)}
    (hnames : fields.map Field.name = forms.map FieldForm.name) {e : Node × Node}
    (h : (∃ q t isPlain, e.1 = .scalar q t isPlain ∧ ∀ f ∈ forms, f.name ≠ t) ∧
      e.2.isWhole = true) : WrittenFor fields e none := by
  obtain ⟨⟨q, t, isPlain, hkey, hne⟩, hwhole⟩ := h
  refine ⟨⟨q, t, isPlain, hkey, fun f hf => ?_⟩, hwhole⟩
  have hform : f.name ∈ forms.map FieldForm.name := hnames ▸ List.mem_map.2 ⟨f, hf, rfl⟩
  obtain ⟨form, hform, hname⟩ := List.mem_map.1 hform
  exact hname ▸ hne form hform

lemma writtenFor_of_filledBy {fields : List (Field Node α)} {es : List (Node × Node)}
    {os : List (Option (Field Node α × Node))}
    (h : List.Forall₂ (FilledBy (fun x y => x = y) fields fun e => WrittenFor fields e none) es
      os) : List.Forall₂ (WrittenFor fields) es os := by
  refine h.imp fun e o h => ?_
  cases o <;> exact h

/-- The entries of unknown names are passed over. -/
lemma foldlM_entry {fields : List (Field Node α)} (hnodup : (fields.map Field.name).Nodup)
    {es : List (Node × Node)} {os : List (Option (Field Node α × Node))}
    (h : List.Forall₂ (WrittenFor fields) es os) (d : Draft α) :
    es.foldlM (entry fields) d = fillAll (os.filterMap id) d := by
  induction h generalizing d with
  | nil => rfl
  | @cons e o es os he _ ih =>
    obtain ⟨k, x⟩ := e
    cases o with
    | some r =>
      obtain ⟨⟨p, isPlain, rfl, -⟩, rfl, hf⟩ := he
      have hentry : entry fields d (.scalar p r.1.name isPlain, r.2) = r.1.fill r.2 d := by
        rw [entry, text_scalar, pure_bind, find?_field hnodup hf]
      rw [List.foldlM_cons, hentry, List.filterMap_cons_some (f := id) rfl, fillAll,
        List.foldlM_cons]
      exact bind_congr fun d => ih d
    | none =>
      obtain ⟨⟨q, t, isPlain, rfl, hunknown⟩, hwhole⟩ := he
      have hnone : fields.find? (fun f => f.name == t) = none := by
        rw [List.find?_eq_none]
        simpa using hunknown
      have hentry : entry fields d (.scalar q t isPlain, x) = pure d := by
        rw [entry, text_scalar, pure_bind, hnone]
        simp only [ignore, hwhole, if_true, pure_bind]
      rw [List.foldlM_cons, hentry, pure_bind, List.filterMap_cons_none (f := id) rfl]
      exact ih d

lemma record_mapping (fields : List (Field Node α)) (start : α) (p : Properties)
    (es : List (Node × Node)) :
    record fields start (.mapping p es) =
      (do finish fields (← es.foldlM (entry fields) ⟨[], start⟩)) := rfl

/-- A record is read from a mapping in any layout. -/
lemma record_eq {fields : List (Field Node α)} (hd : Determines fields start wanted agrees)
    (hfits : List.Forall₂ (Fits (fun x y => x = y) agrees start) fields forms) {x : Node}
    (hx : x.IsRecord forms) : record fields start x = pure wanted := by
  obtain ⟨p, es, known, unknown, rfl, -, hperm, hknown, hunknown⟩ := hx
  have hpasses : ∀ e ∈ unknown, WrittenFor fields e none := fun e he =>
    writtenFor_none (map_name_of_fits hfits) (hunknown e he)
  obtain ⟨rs, os, hrs, hos, hts, -⟩ := exists_filledBy hfits hperm hknown hpasses
  rw [record_mapping, foldlM_entry hd.nodup (writtenFor_of_filledBy hos)]
  exact hrs.finish_fillAll hd hts

end Reading

/-! ### Untyped values -/

namespace Value

open Reading (Determines Fits Fillings fillAll finish)

/-- A node stands for the value that it is turned into, with collections nested as deep as given. -/
def StandsFor (depth : Nat) (x : Node) (v : Value) : Prop := ofNode depth x = pure v

-- `ofNode` recurses below a binding and has no equations, so it is opened by `delta`.
lemma standsFor_quoted (depth : Nat) {t : String} {x : Node} (h : x.IsQuoted t) :
    StandsFor depth x (.text t) := by
  obtain ⟨⟨anchor, tag⟩, rfl, rfl⟩ := h
  cases depth <;>
  · delta StandsFor ofNode
    rfl

/-- A word that is no number and no constant stands for itself. -/
lemma standsFor_word (depth : Nat) {t : String} {x : Node} (h : x.IsWord t)
    (ht : ofPlain t = .ok (.text t)) : StandsFor depth x (.text t) := by
  obtain ⟨⟨anchor, tag⟩, isPlain, rfl, rfl⟩ := h
  cases isPlain with
  | false => exact standsFor_quoted depth ⟨⟨anchor, none⟩, rfl, rfl⟩
  | true =>
    have hplain : ofNode depth (.scalar ⟨anchor, none⟩ t true) = liftM (ofPlain t) := by
      cases depth <;>
      · delta ofNode
        rfl
    rw [StandsFor, hplain, ht]
    rfl

lemma ofNode_sequence (depth : Nat) {p : Properties} (hp : p.tag = none) (xs : List Node) :
    ofNode (depth + 1) (.sequence p xs) = do return .list (← xs.mapM (ofNode depth)) := by
  obtain ⟨anchor, tag⟩ := p
  obtain rfl : tag = none := hp
  delta ofNode
  rfl

lemma ofNode_mapping (depth : Nat) {p : Properties} (hp : p.tag = none)
    (es : List (Node × Node)) :
    ofNode (depth + 1) (.mapping p es) = do
      return .record (← es.mapM fun e => do return (← ofNode depth e.1, ← ofNode depth e.2)) := by
  obtain ⟨anchor, tag⟩ := p
  obtain rfl : tag = none := hp
  delta ofNode
  rfl

lemma mapM_ofNode {depth : Nat} {xs : List Node} {vs : List Value}
    (h : List.Forall₂ (StandsFor depth) xs vs) : xs.mapM (ofNode depth) = pure vs :=
  Reading.mapM_eq_of_forall₂ h

lemma standsFor_sequence {depth : Nat} {p : Properties} (hp : p.tag = none) {xs : List Node}
    {vs : List Value} (h : List.Forall₂ (StandsFor depth) xs vs) :
    StandsFor (depth + 1) (.sequence p xs) (.list vs) := by
  rw [StandsFor, ofNode_sequence depth hp, mapM_ofNode h, pure_bind]

variable {α : Type} {depth : Nat} {agrees : String → α → Prop} {start wanted : α}
  {fields : List (Field Value α)} {forms : List FieldForm}

/-- An entry of a mapping stands for a named value. -/
def EntryStandsFor (depth : Nat) (e : Node × Node) (named : String × Value) : Prop :=
  e.1.IsWord named.1 ∧ ofPlain named.1 = .ok (.text named.1) ∧ StandsFor depth e.2 named.2

/-- The entries of an untyped record. -/
def namedEntries (ps : List (String × Value)) : List (Value × Value) :=
  ps.map fun p => (.text p.1, p.2)

lemma standsFor_mapping {p : Properties} (hp : p.tag = none) {es : List (Node × Node)}
    {ps : List (String × Value)} (h : List.Forall₂ (EntryStandsFor depth) es ps) :
    StandsFor (depth + 1) (.mapping p es) (.record (namedEntries ps)) := by
  have hentries : es.mapM (fun e => do return (← ofNode depth e.1, ← ofNode depth e.2)) =
      (pure (namedEntries ps) : Reading _) := by
    refine Reading.mapM_eq_of_forall₂ (List.forall₂_map_right_iff.2 (h.imp fun e named he => ?_))
    have hkey : ofNode depth e.1 = pure (.text named.1) := standsFor_word depth he.1 he.2.1
    have hvalue : ofNode depth e.2 = pure named.2 := he.2.2
    rw [hkey, pure_bind, hvalue, pure_bind]
  rw [StandsFor, ofNode_mapping depth hp, hentries, pure_bind]

/-- Entries that bear the names of fields are filled in. -/
lemma asRecord_record (hnodup : (fields.map Field.name).Nodup) {rs : List (Field Value α × Value)}
    (hmem : ∀ r ∈ rs, r.1 ∈ fields) (start : α) :
    asRecord fields start (.record (namedEntries (rs.map fun r => (r.1.name, r.2)))) =
      (do finish fields (← fillAll rs ⟨[], start⟩)) := by
  have hfold : ∀ d, (namedEntries (rs.map fun r => (r.1.name, r.2))).foldlM (entry fields) d =
      fillAll rs d := by
    induction rs with
    | nil => exact fun d => rfl
    | cons r rs ih =>
      intro d
      have hentry : entry fields d (.text r.1.name, r.2) = r.1.fill r.2 d := by
        rw [entry, field?, pure_bind, Reading.find?_field hnodup (hmem r (by simp))]
      have hcons : namedEntries ((r :: rs).map fun r => (r.1.name, r.2)) =
          (.text r.1.name, r.2) :: namedEntries (rs.map fun r => (r.1.name, r.2)) := rfl
      rw [hcons, List.foldlM_cons, hentry, fillAll, List.foldlM_cons]
      exact bind_congr fun d => ih (fun t ht => hmem t (by simp [ht])) d
  rw [asRecord, hfold]

/-- A list of all fields is read in their order. -/
lemma positional_eq {fields : List (Field Value α)} (hnodup : (fields.map Field.name).Nodup)
    {vs : List Value} (h : List.Forall₂ (fun f v => Reading.Field.Reads agrees f v) fields vs)
    (a : α) :
    ∃ b, positional fields vs a = pure b ∧ (∀ f ∈ fields, agrees f.name b) ∧
      ∀ n, n ∉ fields.map Field.name → agrees n a → agrees n b := by
  induction h generalizing a with
  | nil => exact ⟨a, rfl, by simp, by simp⟩
  | @cons f v fields vs hf _ ih =>
    obtain ⟨hname, hrest⟩ := List.nodup_cons.1 hnodup
    obtain ⟨b, hread, hfield, hothers⟩ := hf a
    obtain ⟨c, hpositional, hfields, hkept⟩ := ih hrest b
    refine ⟨c, ?_, List.forall_mem_cons.2 ⟨hkept _ hname hfield, hfields⟩, fun n hn ha => ?_⟩
    · rw [positional, hread, pure_bind, hpositional]
    · simp only [List.map_cons, List.mem_cons, not_or] at hn
      exact hkept n hn.2 (hothers n hn.1 ha)

/-- Items that write all fields stand for what the fields are read from. -/
lemma exists_items (hfits : List.Forall₂ (Fits (StandsFor depth) agrees start) fields forms)
    {xs : List Node} (hxs : List.Forall₂ FieldForm.isWritten forms xs) :
    ∃ vs, List.Forall₂ (StandsFor depth) xs vs ∧
      List.Forall₂ (fun f v => Reading.Field.Reads agrees f v) fields vs := by
  induction hfits generalizing xs with
  | nil =>
    cases hxs
    exact ⟨[], .nil, .nil⟩
  | cons hf _ ih =>
    cases hxs with
    | cons hx hxs =>
      obtain ⟨v, hv, hread⟩ := hf.written _ hx
      obtain ⟨vs, hvs, hreads⟩ := ih hxs
      exact ⟨v :: vs, .cons hv hvs, .cons hread hreads⟩

/-- Whatever way a record is laid out in, it stands for a value from which it is read. -/
structure ReadsLayouts (depth : Nat) (forms : List FieldForm) (read : Value → Reading α)
    (wanted : α) : Prop where
  entries : ∀ es, WritesFields forms es → ∃ ps,
    List.Forall₂ (EntryStandsFor depth) es ps ∧ (∀ p ∈ ps, p.1 ∈ forms.map FieldForm.name) ∧
      ∀ qs : List (String × Value), qs.Perm ps → read (.record (namedEntries qs)) = pure wanted
  items : ∀ xs, List.Forall₂ FieldForm.isWritten forms xs → ∃ vs,
    List.Forall₂ (StandsFor depth) xs vs ∧ read (.list vs) = pure wanted

lemma readsLayouts_asRecord (hd : Determines fields start wanted agrees)
    (hfits : List.Forall₂ (Fits (StandsFor depth) agrees start) fields forms)
    (hplain : ∀ f ∈ fields, ofPlain f.name = .ok (.text f.name)) :
    ReadsLayouts depth forms (asRecord fields start) wanted where
  entries := by
    intro es hes
    obtain ⟨rs, hrs⟩ := Reading.exists_fillings hfits hes
    refine ⟨rs.map fun r => (r.1.name, r.2), ?_, ?_, fun qs hqs => ?_⟩
    · have hentries := ((List.forall₂_and_left _ _).2 ⟨hrs.mem, hrs.entries.flip⟩).flip
      exact List.forall₂_map_right_iff.2
        (hentries.imp fun _ _ h => ⟨h.2.1, hplain _ h.1, h.2.2⟩)
    · intro p hp
      obtain ⟨r, hr, rfl⟩ := List.mem_map.1 hp
      rw [← Reading.map_name_of_fits hfits]
      exact List.mem_map.2 ⟨r.1, hrs.mem r hr, rfl⟩
    · -- The named values are those of fields in another order.
      have hnamed : List.Forall₂ (fun q r => q = (r.1.name, r.2))
          (rs.map fun r => (r.1.name, r.2)) rs :=
        List.forall₂_map_left_iff.2 (List.forall₂_same.2 fun _ _ => rfl)
      obtain ⟨ts, hts, htsPerm⟩ := List.perm_comp_forall₂ hqs hnamed
      have heq : qs = ts.map fun r => (r.1.name, r.2) :=
        List.forall₂_eq_eq_eq ▸ List.forall₂_map_right_iff.2 hts
      have hmem : ∀ r ∈ ts, r.1 ∈ fields := fun r hr => hrs.mem r (htsPerm.mem_iff.1 hr)
      rw [heq, asRecord_record hd.nodup hmem]
      exact hrs.finish_fillAll hd htsPerm
  items := by
    intro xs hxs
    obtain ⟨vs, hvs, hreads⟩ := exists_items hfits hxs
    obtain ⟨a, hread, hfields, -⟩ := positional_eq hd.nodup hreads start
    refine ⟨vs, hvs, ?_⟩
    rw [asRecord, hread, hd.unique a hfields]

/-- A record that is written as a mapping or as a list stands for a value that it is read from. -/
lemma ReadsLayouts.exists_value {read : Value → Reading α}
    (h : ReadsLayouts depth forms read wanted) {x : Node} (hx : x.IsVariant forms) :
    ∃ v, StandsFor (depth + 1) x v ∧ read v = pure wanted := by
  obtain ⟨p, es, known, rfl, hp, hperm, hknown⟩ | ⟨p, xs, rfl, hp, hxs⟩ := hx
  · obtain ⟨ps, hps, -, hread⟩ := h.entries known hknown
    obtain ⟨qs, hqs, hqsPerm⟩ := List.perm_comp_forall₂ hperm hps
    exact ⟨_, standsFor_mapping hp hqs, hread qs hqsPerm⟩
  · obtain ⟨vs, hvs, hread⟩ := h.items xs hxs
    exact ⟨_, standsFor_sequence hp hvs, hread⟩

end Value

end SymbolProbe.Yaml
