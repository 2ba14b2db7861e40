import Mathlib.Data.List.Nodup
import SymbolProbe.Proofs.RecordReading
import SymbolProbe.Proofs.SingleFaults

/-!
# Reading spoilt records

The entries of a record fill in fields, each once. A record that is spoilt at one place is read up
to that place as before, and there the fault shows: at the end of the mapping when a required field
is missing, at the second of two entries of one field, and where what is written for a field cannot
be read (`Reading.HoldsRecord.exists_filled`). Which entries come before does not matter.
-/

namespace SymbolProbe.Yaml

open Reading (Field Draft)

variable {α β : Type}

/-! ### Entries and their names -/

lemma Node.IsWord.unique {x : Node} {t u : String} (ht : x.IsWord t) (hu : x.IsWord u) : t = u := by
  obtain ⟨_, _, rfl, -⟩ := ht
  obtain ⟨_, _, hx, -⟩ := hu
  exact (Node.scalar.inj hx).2.1

lemma WritesFields.exists_of_mem {forms : List FieldForm} {es : List (Node × Node)}
    (h : WritesFields forms es) {e : Node × Node} (he : e ∈ es) :
    ∃ form ∈ forms, e.1.IsWord form.name ∧ form.isWritten e.2 := by
  induction h with
  | nil => cases he
  | lack _ _ ih =>
    obtain ⟨form, hform, hwritten⟩ := ih he
    exact ⟨form, by simp [hform], hwritten⟩
  | entry hk hx _ ih =>
    obtain rfl | he := List.mem_cons.1 he
    · exact ⟨_, by simp, hk, hx⟩
    · obtain ⟨form, hform, hwritten⟩ := ih he
      exact ⟨form, by simp [hform], hwritten⟩

section

variable {s : FieldShape} {shapes shapes' : List FieldShape} {fault : Fault}
  {es es' : List (Node × Node)}

/-- Only the shapes whose names are there count. -/
lemma SpoilsEntries.of_names (h : SpoilsEntries shapes fault es es')
    (hnames : ∀ s ∈ shapes, (∃ e ∈ es, e.1.IsWord s.name) → s ∈ shapes') :
    SpoilsEntries shapes' fault es es' := by
  have hmem : ∀ {es₁ es₂ : List (Node × Node)} {e}, e ∈ es₁ ++ e :: es₂ := by simp
  cases h with
  | missing hs hrequired hk => exact .missing (hnames _ hs ⟨_, hmem, hk⟩) hrequired hk
  | repeated hs hmem hk hk' hx' => exact .repeated (hnames _ hs ⟨_, hmem, hk⟩) hmem hk hk' hx'
  | inside hs hk hx => exact .inside (hnames _ hs ⟨_, hmem, hk⟩) hk hx

lemma SpoilsEntries.head_or_tail (h : SpoilsEntries (s :: shapes) fault es es') :
    SpoilsEntries [s] fault es es' ∨ SpoilsEntries shapes fault es es' := by
  have hmem : ∀ {t}, t ∈ s :: shapes → t ∈ [s] ∨ t ∈ shapes := by simp
  cases h with
  | missing hs hrequired hk =>
    exact (hmem hs).imp (fun hs => .missing hs hrequired hk) fun hs => .missing hs hrequired hk
  | repeated hs hmem' hk hk' hx' =>
    exact (hmem hs).imp (fun hs => .repeated hs hmem' hk hk' hx') fun hs =>
      .repeated hs hmem' hk hk' hx'
  | inside hs hk hx => exact (hmem hs).imp (fun hs => .inside hs hk hx) fun hs => .inside hs hk hx

/-- Of the shapes of a record those count that its forms have the names of. -/
lemma Node.SpoilsRecord.of_forms {forms : List FieldForm} {x x' : Node}
    (h : SpoilsRecord shapes fault x x') (hx : x.IsVariant forms)
    (hshapes : ∀ s ∈ shapes, s.name ∈ forms.map FieldForm.name → s ∈ shapes') :
    SpoilsRecord shapes' fault x x' := by
  cases h with
  | intro h =>
    obtain ⟨p, es, known, heq, -, hperm, hknown⟩ | ⟨_, _, heq, -⟩ := hx
    · obtain ⟨rfl, rfl⟩ := Node.mapping.inj heq
      refine .intro (h.of_names fun s hs ⟨e, he, hword⟩ => hshapes s hs ?_)
      obtain ⟨form, hform, hname, -⟩ := hknown.exists_of_mem (hperm.mem_iff.1 he)
      exact List.mem_map.2 ⟨form, hform, hname.unique hword⟩
    · cases heq

end

/-! ### Lists side by side -/

section

variable {R : α → β → Prop} {a : α} {as as₁ as₂ : List α} {bs : List β}

lemma exists_append_of_forall₂ (h : List.Forall₂ R (as₁ ++ as₂) bs) :
    ∃ bs₁ bs₂, bs = bs₁ ++ bs₂ ∧ List.Forall₂ R as₁ bs₁ ∧ List.Forall₂ R as₂ bs₂ :=
  ⟨_, _, (List.take_append_drop as₁.length bs).symm,
    (List.forall₂_take_append bs as₁ as₂ h.flip).flip,
    (List.forall₂_drop_append bs as₁ as₂ h.flip).flip⟩

lemma exists_cons_of_forall₂ (h : List.Forall₂ R (as₁ ++ a :: as₂) bs) :
    ∃ bs₁ b bs₂, bs = bs₁ ++ b :: bs₂ ∧ List.Forall₂ R as₁ bs₁ ∧ R a b ∧
      List.Forall₂ R as₂ bs₂ := by
  obtain ⟨bs₁, bs, rfl, h₁, h⟩ := exists_append_of_forall₂ h
  obtain ⟨b, bs₂, hb, h₂, rfl⟩ := List.forall₂_cons_left_iff.1 h
  exact ⟨bs₁, b, bs₂, rfl, h₁, hb, h₂⟩

lemma exists_mem_of_forall₂ (h : List.Forall₂ R as bs) (ha : a ∈ as) : ∃ b ∈ bs, R a b := by
  obtain ⟨as₁, as₂, rfl⟩ := List.append_of_mem ha
  obtain ⟨bs₁, b, bs₂, rfl, -, hb, -⟩ := exists_cons_of_forall₂ h
  exact ⟨b, by simp, hb⟩

end

namespace Reading

lemma throw_bind (fault : Fault) (k : α → Reading β) :
    ((throw fault : Reading α) >>= k) = throw fault := rfl

/-- The first item that cannot be read decides. -/
lemma mapM_eq_throw {read : β → Reading α} {xs ys : List β} {y : β} {as : List α} {fault : Fault}
    (hxs : List.Forall₂ (fun x a => read x = pure a) xs as) (hy : read y = throw fault) :
    (xs ++ y :: ys).mapM read = throw fault := by
  rw [List.mapM_append, mapM_eq_of_forall₂ hxs, pure_bind, List.mapM_cons, hy]
  rfl

/-! ### Fields that are filled in or not -/

/-- What is written for a field is read, whatever was read before. -/
abbrev Field.Accepts (f : Field β α) (y : β) : Prop := f.Reads (fun _ _ => True) y

/-- What is written for a field cannot be read. -/
def Field.Refuses (f : Field β α) (y : β) (fault : Fault) : Prop := ∀ a, f.read y a = throw fault

variable {fields : List (Field β α)} {f : Field β α} {y : β} {d : Draft α} {fault : Fault}
  {rs rs₁ rs₂ : List (Field β α × β)} {start : α}

lemma Field.fill_of_mem (h : f.name ∈ d.seen) (y : β) :
    f.fill y d = throw (.duplicateField f.name) := by
  have hseen : d.seen.contains f.name = true := by simpa using h
  rw [Field.fill, hseen]
  rfl

lemma Field.Refuses.fill_eq (h : f.Refuses y fault) (hseen : f.name ∉ d.seen) :
    f.fill y d = throw fault := by
  have hnew : d.seen.contains f.name = false := by simpa using hseen
  rw [Field.fill, hnew, h]
  rfl

lemma fillAll_cons (r : Field β α × β) (rs : List (Field β α × β)) (d : Draft α) :
    fillAll (r :: rs) d = r.1.fill r.2 d >>= fillAll rs := List.foldlM_cons

lemma fillAll_append (rs₁ rs₂ : List (Field β α × β)) (d : Draft α) :
    fillAll (rs₁ ++ rs₂) d = fillAll rs₁ d >>= fillAll rs₂ := List.foldlM_append

/-- The names of the fields that are filled in. -/
abbrev names (rs : List (Field β α × β)) : List String := rs.map fun r => r.1.name

/-- All required fields are filled in, and no field twice. -/
structure IsComplete (fields : List (Field β α)) (rs : List (Field β α × β)) : Prop where
  accepts : ∀ r ∈ rs, r.1.Accepts r.2
  nodup : (names rs).Nodup
  required : ∀ f ∈ fields, f.isRequired = true → f.name ∈ names rs

/-- At the end of a record, the one required field that was not filled in is named. -/
lemma finish_fillAll_missing (hnodup : (fields.map Field.name).Nodup)
    (h : IsComplete fields (rs₁ ++ (f, y) :: rs₂)) (hf : f ∈ fields)
    (hrequired : f.isRequired = true) :
    (do finish fields (← fillAll (rs₁ ++ rs₂) ⟨[], start⟩)) = throw (.missingField f.name) := by
  have hnames : f.name ∉ names (rs₁ ++ rs₂) ∧ (names (rs₁ ++ rs₂)).Nodup := by
    have hperm : (names (rs₁ ++ (f, y) :: rs₂)).Perm (f.name :: names (rs₁ ++ rs₂)) :=
      List.perm_middle.map _
    exact List.nodup_cons.1 (hperm.nodup_iff.1 h.nodup)
  have haccepts : ∀ r ∈ rs₁ ++ rs₂, r.1.Accepts r.2 := by
    intro r hr
    refine h.accepts r ?_
    simp only [List.mem_append, List.mem_cons] at hr ⊢
    tauto
  obtain ⟨d, hfill, hseen, -⟩ := exists_fillAll haccepts hnames.2 (d := ⟨[], start⟩) (by simp)
  have hmem : ∀ n, n ∈ d.seen ↔ n ∈ names (rs₁ ++ rs₂) := by
    intro n
    rw [hseen]
    simp
  have hfind : (fields.find? fun g => g.isRequired && !d.seen.contains g.name) = some f := by
    cases hg : fields.find? fun g => g.isRequired && !d.seen.contains g.name with
    | none =>
      have hlacks : f.name ∉ d.seen := fun hseen => hnames.1 ((hmem _).1 hseen)
      have hf := List.find?_eq_none.1 hg f hf
      simp [hrequired, hlacks] at hf
    | some g =>
      -- The field that is found was filled in before, so it is the one that was left out.
      have hfields := List.mem_of_find?_eq_some hg
      have hlacks := List.find?_some hg
      simp only [Bool.and_eq_true, Bool.not_eq_true', List.contains_eq_mem, decide_eq_false_iff_not,
        hmem] at hlacks
      have hname := h.required g hfields hlacks.1
      simp only [names, List.map_append, List.map_cons, List.mem_append, List.mem_cons]
        at hname hlacks
      have heq : g.name = f.name := by tauto
      rw [List.inj_on_of_nodup_map hnodup hfields hf heq]
  rw [hfill, pure_bind, finish, hfind]

/-- When one name is repeated, the field of this name is found to be filled in. -/
lemma fillAll_repeated {n : String} {ns : List String} (haccepts : ∀ r ∈ rs, r.1.Accepts r.2)
    (hseen : d.seen.Nodup) (hperm : (names rs ++ d.seen).Perm (n :: ns)) (hnodup : ns.Nodup)
    (hn : n ∈ ns) : fillAll rs d = throw (.duplicateField n) := by
  -- The names to come and those that were seen are together the same ones all along.
  induction rs generalizing d with
  | nil =>
    have hcons := hperm.nodup_iff.1 hseen
    exact absurd hn (List.nodup_cons.1 hcons).1
  | cons r rs ih =>
    rw [fillAll_cons]
    by_cases hr : r.1.name ∈ d.seen
    · have hcount := hperm.count_eq r.1.name
      have htwice : 2 ≤ (names (r :: rs) ++ d.seen).count r.1.name := by
        have := List.count_pos_iff.2 hr
        simp only [names, List.map_cons, List.cons_append, List.count_cons_self, List.count_append]
        omega
      obtain rfl : n = r.1.name := by
        by_contra hne
        have := List.nodup_iff_count_le_one.1 hnodup r.1.name
        rw [hcount, List.count_cons_of_ne hne] at htwice
        omega
      rw [Field.fill_of_mem hr, throw_bind]
    · obtain ⟨a, hfill, -⟩ := (haccepts r (by simp)).exists_fill hr
      rw [hfill, pure_bind]
      refine ih (fun r hr => haccepts r (by simp [hr])) (List.nodup_cons.2 ⟨hr, hseen⟩) ?_
      exact List.perm_middle.trans hperm

/-- A field that cannot be read is reached when those in front of it are filled in. -/
lemma fillAll_inside (haccepts : ∀ r ∈ rs₁, r.1.Accepts r.2)
    (hnodup : (names (rs₁ ++ (f, y) :: rs₂)).Nodup) {y' : β} (h : f.Refuses y' fault) :
    fillAll (rs₁ ++ (f, y') :: rs₂) ⟨[], start⟩ = throw fault := by
  rw [names, List.map_append, List.map_cons] at hnodup
  obtain ⟨hfront, -, hdisjoint⟩ := List.nodup_append.1 hnodup
  obtain ⟨d, hfill, hseen, -⟩ := exists_fillAll haccepts hfront (d := ⟨[], start⟩) (by simp)
  have hnew : f.name ∉ d.seen := by
    rw [hseen]
    rintro (hmem | hmem)
    · simp at hmem
    · exact hdisjoint _ hmem _ (by simp) rfl
  rw [fillAll_append, hfill, pure_bind, fillAll_cons, h.fill_eq hnew, throw_bind]

/-! ### Spoilt entries -/

variable {stands : Node → β → Prop} {passes : Node × Node → Prop} {shapes : List FieldShape}
  {forms : List FieldForm} {es es' : List (Node × Node)} {os : List (Option (Field β α × β))}

/-- A field is read from what is written in a shape, and where that is spoilt the fault shows. -/
structure Suits (stands : Node → β → Prop) (f : Field β α) (s : FieldShape) : Prop where
  required : s.isRequired = true → f.isRequired = true
  written : ∀ x, s.isWritten x → ∃ y, stands x y ∧ f.Accepts y
  spoilt : ∀ fault x x', s.isWritten x → s.spoils fault x x' →
    ∃ y, stands x' y ∧ f.Refuses y fault

lemma field_mem_of_filledBy (h : List.Forall₂ (FilledBy stands fields passes) es os) :
    ∀ r ∈ os.filterMap id, r.1 ∈ fields := by
  intro r hr
  obtain ⟨o, ho, heq⟩ := List.mem_filterMap.1 hr
  obtain ⟨e, -, hfilled⟩ := exists_mem_of_forall₂ h.flip (heq ▸ ho : some r ∈ os)
  exact hfilled.2.2

/-- The entries of a record whose fields have shapes. -/
structure HoldsRecord (stands : Node → β → Prop) (fields : List (Field β α))
    (passes : Node × Node → Prop) (shapes : List FieldShape) (es : List (Node × Node))
    (os : List (Option (Field β α × β))) : Prop where
  filled : List.Forall₂ (FilledBy stands fields passes) es os
  complete : IsComplete fields (os.filterMap id)
  written : ∀ e ∈ es, ∀ s ∈ shapes, e.1.IsWord s.name → s.isWritten e.2
  suits : ∀ f ∈ fields, ∀ s ∈ shapes, s.name = f.name → Suits stands f s
  passes : ∀ e, passes e → ∀ s ∈ shapes, ¬ e.1.IsWord s.name
  nodup : (fields.map Field.name).Nodup

lemma HoldsRecord.exists_field (h : HoldsRecord stands fields passes shapes es os) {s : FieldShape}
    (hs : s ∈ shapes) {e : Node × Node} (hk : e.1.IsWord s.name) {o : Option (Field β α × β)}
    (ho : FilledBy stands fields passes e o) :
    ∃ f y, o = some (f, y) ∧ f ∈ fields ∧ s.name = f.name ∧ Suits stands f s := by
  cases o with
  | none => exact absurd hk (h.passes e ho s hs)
  | some r =>
    obtain ⟨hname, -, hf⟩ := ho
    have heq : s.name = r.1.name := hk.unique hname
    exact ⟨r.1, r.2, rfl, hf, heq, h.suits r.1 hf s hs heq⟩

/-- However the entries of a record are spoilt, they fill in fields still, but the record is not
read. -/
lemma HoldsRecord.exists_filled (h : HoldsRecord stands fields passes shapes es os)
    (hspoils : SpoilsEntries shapes fault es es') :
    ∃ os', List.Forall₂ (FilledBy stands fields passes) es' os' ∧
      os'.countP Option.isNone = os.countP Option.isNone ∧
      ∀ start, (do finish fields (← fillAll (os'.filterMap id) ⟨[], start⟩)) = throw fault := by
  obtain ⟨hos, hcomplete, hwritten, -, -, hnodup⟩ := id h
  cases hspoils with
  | missing hs hrequired hk =>
    obtain ⟨os₁, o, os₂, rfl, h₁, ho, h₂⟩ := exists_cons_of_forall₂ hos
    obtain ⟨f, y, rfl, hf, hname, hsuits⟩ := h.exists_field hs hk ho
    refine ⟨os₁ ++ os₂, List.rel_append h₁ h₂, by simp, fun start => ?_⟩
    rw [List.filterMap_append, List.filterMap_cons_some (f := id) rfl] at hcomplete
    rw [List.filterMap_append, hname]
    exact finish_fillAll_missing hnodup hcomplete hf (hsuits.required hrequired)
  | @repeated s es₁ es₂ k x k' x' hs hmem hk hk' hx' =>
    obtain ⟨o, hmem, ho⟩ := exists_mem_of_forall₂ hos hmem
    obtain ⟨f, y, rfl, hf, hname, hsuits⟩ := h.exists_field hs hk ho
    obtain ⟨y', hy', haccepts⟩ := hsuits.written x' hx'
    have hfilled : f.name ∈ names (os.filterMap id) :=
      List.mem_map.2 ⟨(f, y), List.mem_filterMap.2 ⟨_, hmem, rfl⟩, rfl⟩
    obtain ⟨os₁, os₂, rfl, h₁, h₂⟩ := exists_append_of_forall₂ hos
    refine ⟨os₁ ++ some (f, y') :: os₂, List.rel_append h₁ (.cons ⟨hname ▸ hk', hy', hf⟩ h₂),
      by simp, fun start => ?_⟩
    rw [List.filterMap_append] at hcomplete hfilled
    rw [List.filterMap_append, List.filterMap_cons_some (f := id) rfl, hname]
    have hperm : (os₁.filterMap id ++ (f, y') :: os₂.filterMap id).Perm
        ((f, y') :: (os₁.filterMap id ++ os₂.filterMap id)) := List.perm_middle
    have hall : ∀ r ∈ os₁.filterMap id ++ (f, y') :: os₂.filterMap id, r.1.Accepts r.2 := by
      intro r hr
      obtain rfl | hr := List.mem_cons.1 (hperm.mem_iff.1 hr)
      · exact haccepts
      · exact hcomplete.accepts r hr
    rw [fillAll_repeated hall List.nodup_nil (by simp)
      hcomplete.nodup hfilled, throw_bind]
  | @inside s es₁ es₂ k x x' _ hs hk hx =>
    obtain ⟨os₁, o, os₂, rfl, h₁, ho, h₂⟩ := exists_cons_of_forall₂ hos
    obtain ⟨f, y, rfl, hf, hname, hsuits⟩ := h.exists_field hs hk ho
    obtain ⟨y', hy', hrefuses⟩ := hsuits.spoilt _ _ _ (hwritten (k, x) (by simp) s hs hk) hx
    refine ⟨os₁ ++ some (f, y') :: os₂, List.rel_append h₁ (.cons ⟨ho.1, hy', hf⟩ h₂), by simp,
      fun start => ?_⟩
    rw [List.filterMap_append, List.filterMap_cons_some (f := id) rfl] at hcomplete
    rw [List.filterMap_append, List.filterMap_cons_some (f := id) rfl,
      fillAll_inside (fun r hr => hcomplete.accepts r (List.mem_append_left _ hr)) hcomplete.nodup
        hrefuses, throw_bind]

/-! ### Records in mappings -/

/-- A field, the form in which it is written for a record, and the shape of all its forms. -/
structure IsDescribed (stands : Node → β → Prop) (f : Field β α) (form : FieldForm)
    (s : FieldShape) : Prop where
  form_name : form.name = f.name
  shape_name : s.name = f.name
  lack : form.mayLack → f.isRequired = false
  written : ∀ x, form.isWritten x → s.isWritten x
  suits : Suits stands f s

/-- A field whose part of the record is read by a reader of its own. -/
lemma IsDescribed.of_reader {γ : Type} {form : FieldForm} {s : FieldShape} (reader : β → Reading γ)
    (set : γ → α → α) (hwritten : ∀ x, form.isWritten x → s.isWritten x)
    (hreads : ∀ x, s.isWritten x → ∃ y, stands x y ∧ ∃ c, reader y = pure c)
    (hspoilt : ∀ fault x x', s.isWritten x → s.spoils fault x x' →
      ∃ y, stands x' y ∧ reader y = throw fault)
    (hlack : form.mayLack → f.isRequired = false) (hform : form.name = f.name := by rfl)
    (hshape : s.name = f.name := by rfl) (hrequired : s.isRequired = f.isRequired := by rfl)
    (hread : ∀ y a, f.read y a = do return set (← reader y) a := by exact fun _ _ => rfl) :
    IsDescribed stands f form s := by
  refine ⟨hform, hshape, hlack, hwritten, ?_, ?_, ?_⟩
  · intro hs
    rwa [← hrequired]
  · intro x hx
    obtain ⟨y, hy, c, hc⟩ := hreads x hx
    refine ⟨y, hy, fun a => ⟨set c a, ?_, trivial, fun _ _ _ => trivial⟩⟩
    rw [hread, hc, pure_bind]
  · intro fault x x' hx hspoils
    obtain ⟨y, hy, hthrow⟩ := hspoilt fault x x' hx hspoils
    refine ⟨y, hy, fun a => ?_⟩
    rw [hread, hthrow, throw_bind]

/-- A field of a record that is read directly. -/
lemma IsDescribed.of_node {γ : Type} {f : Field Node α} {form : FieldForm} {s : FieldShape}
    {reader : Node → Reading γ} (set : γ → α → α)
    (hwritten : ∀ x, form.isWritten x → s.isWritten x)
    (hreads : ∀ x, s.isWritten x → ∃ c, reader x = pure c)
    (hspoilt : ∀ fault x x', s.isWritten x → s.spoils fault x x' → reader x' = throw fault)
    (hlack : form.mayLack → f.isRequired = false) (hform : form.name = f.name := by rfl)
    (hshape : s.name = f.name := by rfl) (hrequired : s.isRequired = f.isRequired := by rfl)
    (hread : ∀ y a, f.read y a = do return set (← reader y) a := by exact fun _ _ => rfl) :
    IsDescribed (fun x y => x = y) f form s :=
  .of_reader reader set hwritten (fun x hx => ⟨x, rfl, hreads x hx⟩)
    (fun fault x x' hx hspoils => ⟨x', rfl, hspoilt fault x x' hx hspoils⟩) hlack hform hshape
    hrequired hread

/-- The fields of a record with their forms and their shapes, in one order. -/
inductive Describes (stands : Node → β → Prop) :
    List (Field β α) → List FieldForm → List FieldShape → Prop
  | nil : Describes stands [] [] []
  | cons {f : Field β α} {form : FieldForm} {s : FieldShape} {fields : List (Field β α)}
      {forms : List FieldForm} {shapes : List FieldShape} (h : IsDescribed stands f form s)
      (hs : Describes stands fields forms shapes) :
      Describes stands (f :: fields) (form :: forms) (s :: shapes)

namespace Describes

lemma exists_of_mem (h : Describes stands fields forms shapes) {s : FieldShape}
    (hs : s ∈ shapes) : ∃ f ∈ fields, ∃ form ∈ forms, IsDescribed stands f form s := by
  induction h with
  | nil => cases hs
  | cons h _ ih =>
    obtain rfl | hs := List.mem_cons.1 hs
    · exact ⟨_, by simp, _, by simp, h⟩
    · obtain ⟨f, hf, form, hform, hall⟩ := ih hs
      exact ⟨f, by simp [hf], form, by simp [hform], hall⟩

lemma fits (h : Describes stands fields forms shapes) (start : α) :
    List.Forall₂ (Fits stands (fun _ _ => True) start) fields forms := by
  induction h with
  | nil => exact .nil
  | cons h _ ih =>
    refine .cons ⟨h.form_name, fun hlack => ⟨h.lack hlack, trivial⟩, fun x hx => ?_⟩ ih
    exact h.suits.written x (h.written x hx)

lemma map_form_name (h : Describes stands fields forms shapes) :
    forms.map FieldForm.name = fields.map Field.name := by
  induction h with
  | nil => rfl
  | cons h _ ih => rw [List.map_cons, List.map_cons, h.form_name, ih]

lemma suits (h : Describes stands fields forms shapes) (hnodup : (fields.map Field.name).Nodup) :
    ∀ f ∈ fields, ∀ s ∈ shapes, s.name = f.name → Suits stands f s := by
  intro f hf s hs hname
  obtain ⟨g, hg, _, _, hall⟩ := h.exists_of_mem hs
  have hsame : g = f := List.inj_on_of_nodup_map hnodup hg hf (hall.shape_name.symm.trans hname)
  exact hsame ▸ hall.suits

/-- What is written for a field is of the shape of that field. -/
lemma written (h : Describes stands fields forms shapes) (hnodup : (fields.map Field.name).Nodup)
    (hes : WritesFields forms es) {e : Node × Node} (he : e ∈ es) {s : FieldShape} (hs : s ∈ shapes)
    (hk : e.1.IsWord s.name) : s.isWritten e.2 := by
  obtain ⟨form, hform, hname, hx⟩ := hes.exists_of_mem he
  obtain ⟨f, -, g, hg, hall⟩ := h.exists_of_mem hs
  have hsame : form = g := by
    refine List.inj_on_of_nodup_map (h.map_form_name ▸ hnodup) hform hg ?_
    rw [hall.form_name, ← hall.shape_name]
    exact hname.unique hk
  exact hall.written _ (hsame ▸ hx)

lemma shape_name_mem (h : Describes stands fields forms shapes) {s : FieldShape}
    (hs : s ∈ shapes) : s.name ∈ fields.map Field.name := by
  obtain ⟨f, hf, _, _, hall⟩ := h.exists_of_mem hs
  exact List.mem_map.2 ⟨f, hf, hall.shape_name.symm⟩

end Describes

lemma Fillings.isComplete (hnodup : (fields.map Field.name).Nodup) {ts : List (Field β α × β)}
    (h : Fillings stands (fun _ _ => True) start fields es rs) (hperm : ts.Perm rs) :
    IsComplete fields ts := by
  have hnames : (names ts).Perm (names rs) := hperm.map _
  have hsublist : (names rs).Sublist (fields.map Field.name) := by
    simpa [Function.comp_def] using h.sublist.map Field.name
  constructor
  case accepts => exact fun r hr => h.reads r (hperm.mem_iff.1 hr)
  case nodup => exact hnames.nodup_iff.2 (hsublist.nodup hnodup)
  case required =>
    intro f hf hrequired
    refine hnames.mem_iff.2 ?_
    obtain hmem | ⟨hoptional, -⟩ := h.complete f hf
    · obtain ⟨r, hr, rfl⟩ := List.mem_map.1 hmem
      exact List.mem_map.2 ⟨r, hr, rfl⟩
    · simp [hrequired] at hoptional

/-- In whatever layout a record is written, its entries hold it. -/
lemma Describes.exists_holds (hd : Describes stands fields forms shapes) (start : α)
    (hnodup : (fields.map Field.name).Nodup) {known others : List (Node × Node)}
    (hperm : es.Perm (known ++ others)) (hknown : WritesFields forms known)
    (hothers : ∀ e ∈ others, passes e)
    (hpasses : ∀ e, passes e → ∀ s ∈ shapes, ¬ e.1.IsWord s.name) :
    ∃ os, HoldsRecord stands fields passes shapes es os ∧
      os.countP Option.isNone = others.length := by
  obtain ⟨rs, os, hrs, hos, hts, hcount⟩ :=
    exists_filledBy (hd.fits start) hperm hknown hothers
  refine ⟨os, ⟨hos, hrs.isComplete hnodup hts, ?_, hd.suits hnodup, hpasses, hnodup⟩, hcount⟩
  intro e he s hs hk
  obtain he | he := List.mem_append.1 (hperm.mem_iff.1 he)
  · exact hd.written hnodup hknown he hs hk
  · exact absurd hk (hpasses e (hothers e he) s hs)

/-- A record that is spoilt is not read. -/
lemma record_eq_throw {fields : List (Field Node α)}
    (hd : Describes (fun x y => x = y) fields forms shapes)
    (hnodup : (fields.map Field.name).Nodup) {x x' : Node} (hx : x.IsRecord forms)
    (h : Node.SpoilsRecord shapes fault x x') : record fields start x' = throw fault := by
  obtain ⟨p, es, known, unknown, rfl, -, hperm, hknown, hunknown⟩ := hx
  have hothers : ∀ e ∈ unknown, WrittenFor fields e none := fun e he =>
    writtenFor_none hd.map_form_name.symm (hunknown e he)
  have hpasses : ∀ e, WrittenFor fields e none → ∀ s ∈ shapes, ¬ e.1.IsWord s.name := by
    rintro e ⟨⟨q, t, isPlain, hkey, hne⟩, -⟩ s hs ⟨_, _, hword, -⟩
    obtain ⟨f, hf, hname⟩ := List.mem_map.1 (hd.shape_name_mem hs)
    exact hne f hf (hname.trans (Node.scalar.inj (hword.symm.trans hkey)).2.1)
  obtain ⟨os, hholds, -⟩ := hd.exists_holds start hnodup hperm hknown hothers hpasses
  cases h with
  | intro h =>
    obtain ⟨os', hos', -, hthrow⟩ := hholds.exists_filled h
    rw [record_mapping, foldlM_entry hnodup (writtenFor_of_filledBy hos')]
    exact hthrow start

end Reading

/-! ### Records in untyped values -/

namespace Value

open Reading (Describes FilledBy)

variable {depth : Nat} {fields : List (Field Value α)} {forms : List FieldForm}
  {shapes : List FieldShape} {fault : Fault}

lemma entriesStandFor_of_filledBy (hplain : ∀ f ∈ fields, ofPlain f.name = .ok (.text f.name))
    {es : List (Node × Node)} {os : List (Option (Field Value α × Value))}
    (h : List.Forall₂ (FilledBy (StandsFor depth) fields fun _ => False) es os) :
    List.Forall₂ (EntryStandsFor depth) es ((os.filterMap id).map fun r => (r.1.name, r.2)) := by
  induction h with
  | nil => exact .nil
  | @cons e o es os h _ ih =>
    cases o with
    | none => exact h.elim
    | some r =>
      rw [List.filterMap_cons_some (f := id) rfl, List.map_cons]
      exact .cons ⟨h.1, hplain _ h.2.2, h.2.1⟩ ih

/-- A record that is spoilt stands for a value still, but it is not read. -/
lemma exists_asRecord_eq_throw {start : α} (hd : Describes (StandsFor depth) fields forms shapes)
    (hnodup : (fields.map Field.name).Nodup)
    (hplain : ∀ f ∈ fields, ofPlain f.name = .ok (.text f.name)) {x x' : Node}
    (hx : x.IsVariant forms) (h : Node.SpoilsRecord shapes fault x x') :
    ∃ v, StandsFor (depth + 1) x' v ∧ asRecord fields start v = throw fault := by
  obtain ⟨p, es, known, rfl, hp, hperm, hknown⟩ | ⟨p, xs, rfl, -, -⟩ := hx
  · have hothers : ∀ e ∈ ([] : List (Node × Node)), False := by simp
    obtain ⟨os, hholds, -⟩ :=
      hd.exists_holds start hnodup (by simpa using hperm) hknown hothers (by simp)
    cases h with
    | intro h =>
      obtain ⟨os', hos', -, hthrow⟩ := hholds.exists_filled h
      refine ⟨_, standsFor_mapping hp (entriesStandFor_of_filledBy hplain hos'), ?_⟩
      rw [asRecord_record hnodup (Reading.field_mem_of_filledBy hos')]
      exact hthrow start
  · cases h

end Value

end SymbolProbe.Yaml
