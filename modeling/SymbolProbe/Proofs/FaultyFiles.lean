import SymbolProbe.Proofs.RepeatedNames

/-!
# Reading spoilt rule files

A rule file with one fault is refused, and the fault that is told names the field, wherever it lies
in the file (`RuleFile.ofDocument_of_change`). Each record, list and table passes the fault of its
part on. A function rule or a signature with a fault can be turned into an untyped value still, so
that the fault shows when the value is read.
-/

namespace SymbolProbe

open Yaml
open Yaml.Node
open Yaml.Reading (Field Draft Describes IsDescribed)

/-! ### Lists and tables -/

namespace Yaml.Reading

variable {α : Type} {read : Node → Reading α} {write : α → Node → Prop}
  {spoils : Fault → Node → Node → Prop} {fault : Fault} {x x' : Node}

lemma list_eq_throw (hread : ∀ a x, write a x → read x = pure a)
    (hspoilt : ∀ a x x', write a x → spoils fault x x' → read x' = throw fault) {as : List α}
    (hx : x.IsListOf write as) (h : SpoilsItem spoils fault x x') : list read x' = throw fault := by
  obtain ⟨p, xs, rfl, -, hxs⟩ := hx
  cases h with
  | @intro _ ys zs y y' hy =>
    obtain ⟨bs, b, cs, rfl, hys, hb, -⟩ := exists_cons_of_forall₂ hxs.flip
    exact mapM_eq_throw (hys.imp fun x a h => hread a x h) (hspoilt b y y' hb hy)

lemma table_eq_throw (hread : ∀ a x, write a x → read x = pure a)
    (hspoilt : ∀ a x x', write a x → spoils fault x x' → read x' = throw fault) {t : Table α}
    (hx : x.IsTableOf write t) (h : SpoilsValue spoils fault x x') :
    table read x' = throw fault := by
  obtain ⟨p, es, named, rfl, -, -, hes⟩ := hx
  cases h with
  | @intro _ es₁ es₂ k y y' hy =>
    obtain ⟨named₁, a, named₂, rfl, hfront, ha, -⟩ := exists_cons_of_forall₂ hes.flip
    have hthrow := hspoilt a.2 y y' ha.2 hy
    rw [table_mapping, List.foldlM_append, foldlM_addEntry hread hfront.flip, pure_bind,
      List.foldlM_cons, addEntry, text_eq ha.1, pure_bind, hthrow, throw_bind, throw_bind]

end Yaml.Reading

namespace Yaml.Value

variable {α : Type} {depth : Nat} {fault : Fault}

/-- A list of which one item is spoilt stands for a value still, but it is not read. -/
lemma exists_asList_eq_throw {item : Value → Reading α} {write : α → Node → Prop}
    {spoils : Fault → Node → Node → Prop}
    (hitem : ∀ a x, write a x → ∃ v, StandsFor depth x v ∧ item v = pure a)
    (hspoilt : ∀ a x x', write a x → spoils fault x x' →
      ∃ v, StandsFor depth x' v ∧ item v = throw fault) {as : List α} {x x' : Node}
    (hx : x.IsListOf write as) (h : Node.SpoilsItem spoils fault x x') :
    ∃ v, StandsFor (depth + 1) x' v ∧ asList item v = throw fault := by
  obtain ⟨p, xs, rfl, hp, hxs⟩ := hx
  cases h with
  | @intro _ ys zs y y' hy =>
    obtain ⟨bs, b, cs, rfl, hys, hb, hzs⟩ := exists_cons_of_forall₂ hxs.flip
    obtain ⟨vs, hvs, hreads⟩ := exists_values hitem hys.flip
    obtain ⟨ws, hws, -⟩ := exists_values hitem hzs.flip
    obtain ⟨w, hw, hthrow⟩ := hspoilt b y y' hb hy
    refine ⟨_, standsFor_sequence hp (List.rel_append hvs (.cons hw hws)), ?_⟩
    exact Reading.mapM_eq_throw hreads hthrow

lemma optional_eq_throw {read : Node → Reading α} {forms : α → List FieldForm}
    {shapes : List FieldShape}
    (hspoilt : ∀ a x x', x.IsRecord (forms a) → SpoilsRecord shapes fault x x' →
      read x' = throw fault) {o : Option α} {x x' : Node}
    (hx : IsOptionOf (fun a => IsRecord (forms a)) o x) (h : SpoilsRecord shapes fault x x') :
    optional read x' = throw fault := by
  cases o with
  | none =>
    obtain ⟨_, _, rfl, -⟩ := hx
    cases h
  | some a =>
    have hthrow := hspoilt a x x' hx h
    cases h with
    | @intro p es es' _ =>
      show (do return some (← read (.mapping p es')) : Reading (Option α)) = _
      rw [hthrow]
      rfl

end Yaml.Value

/-! ### Rules of classes and templates -/

section

variable {α : Type} {f : Field Node α} {name : String} {mayLack : Prop} {isRequired : Bool}

/-- A field that holds texts cannot be spoilt inside. -/
lemma isDescribed_texts {ts : List String} (set : List String → α → α)
    (hlack : mayLack → f.isRequired = false) (hname : name = f.name := by rfl)
    (hrequired : isRequired = f.isRequired := by rfl)
    (hread : ∀ y a, f.read y a = do return set (← textsOfNode y) a := by exact fun _ _ => rfl) :
    IsDescribed (fun x y => x = y) f ⟨name, mayLack, IsTexts ts⟩
      { name := name, isRequired := isRequired, isWritten := WritesTexts } :=
  .of_node set (fun _ hx => ⟨ts, hx⟩) (fun _ ⟨us, hx⟩ => ⟨us, textsOfNode_eq hx⟩)
    (fun _ _ _ _ => False.elim) hlack hname hname hrequired hread

/-- A field that holds a text cannot be spoilt inside. -/
lemma isDescribed_text {t : String} (set : String → α → α)
    (hlack : mayLack → f.isRequired = false) (hname : name = f.name := by rfl)
    (hrequired : isRequired = f.isRequired := by rfl)
    (hread : ∀ y a, f.read y a = do return set (← Reading.text y) a := by exact fun _ _ => rfl) :
    IsDescribed (fun x y => x = y) f ⟨name, mayLack, IsQuoted t⟩
      { name := name, isRequired := isRequired, isWritten := WritesText } :=
  .of_node set (fun _ hx => ⟨t, hx⟩) (fun _ ⟨u, hx⟩ => ⟨u, Reading.text_eq hx⟩)
    (fun _ _ _ _ => False.elim) hlack hname hname hrequired hread

/-- A field that holds a table is spoilt where one of its values is. -/
lemma isDescribed_table {γ : Type} {value : Node → Reading γ} {write : γ → Node → Prop}
    {spoils : Fault → Node → Node → Prop} {t : Table γ} (set : Table γ → α → α)
    (hvalue : ∀ c x, write c x → value x = pure c)
    (hspoilt : ∀ fault c x x', write c x → spoils fault x x' → value x' = throw fault)
    (hlack : mayLack → f.isRequired = false) (hname : name = f.name := by rfl)
    (hrequired : isRequired = f.isRequired := by rfl)
    (hread : ∀ y a, f.read y a = do return set (← Reading.table value y) a := by
      exact fun _ _ => rfl) :
    IsDescribed (fun x y => x = y) f ⟨name, mayLack, IsTableOf write t⟩
      { name := name, isRequired := isRequired, isWritten := fun x => ∃ t, IsTableOf write t x
        spoils := SpoilsValue spoils } :=
  .of_node set (fun _ hx => ⟨t, hx⟩) (fun _ ⟨u, hx⟩ => ⟨u, Reading.table_eq hvalue hx⟩)
    (fun fault _ _ ⟨_, hx⟩ => Reading.table_eq_throw hvalue (hspoilt fault) hx) hlack hname hname
    hrequired hread

/-- A field that holds a list is spoilt where one of its items is. -/
lemma isDescribed_list {γ : Type} {item : Node → Reading γ} {write : γ → Node → Prop}
    {spoils : Fault → Node → Node → Prop} {cs : List γ} (set : List γ → α → α)
    (hitem : ∀ c x, write c x → item x = pure c)
    (hspoilt : ∀ fault c x x', write c x → spoils fault x x' → item x' = throw fault)
    (hlack : mayLack → f.isRequired = false) (hname : name = f.name := by rfl)
    (hrequired : isRequired = f.isRequired := by rfl)
    (hread : ∀ y a, f.read y a = do return set (← Reading.list item y) a := by
      exact fun _ _ => rfl) :
    IsDescribed (fun x y => x = y) f ⟨name, mayLack, IsListOf write cs⟩
      { name := name, isRequired := isRequired, isWritten := fun x => ∃ cs, IsListOf write cs x
        spoils := SpoilsItem spoils } :=
  .of_node set (fun _ hx => ⟨cs, hx⟩) (fun _ ⟨ds, hx⟩ => ⟨ds, Reading.list_eq hitem hx⟩)
    (fun fault _ _ ⟨_, hx⟩ => Reading.list_eq_throw hitem (hspoilt fault) hx) hlack hname hname
    hrequired hread

end

variable {fault : Fault} {x x' : Node}

lemma ClassRule.ofNode_eq_throw {r : ClassRule} (h : r.IsLaidOutAs x)
    (hspoils : ClassRule.Spoils fault x x') : ClassRule.ofNode x' = throw fault := by
  refine Reading.record_eq_throw (.cons ?prelude (.cons ?args .nil)) (by decide) h hspoils
  case prelude => exact isDescribed_texts (fun c a => { a with prelude := c }) fun _ => rfl
  case args => exact isDescribed_texts (fun c a => { a with args := c }) fun _ => rfl

lemma TemplateRule.ofNode_eq_throw {r : TemplateRule} (h : r.IsLaidOutAs x)
    (hspoils : TemplateRule.Spoils fault x x') : TemplateRule.ofNode x' = throw fault := by
  refine Reading.record_eq_throw (.cons ?params (.cons ?prelude (.cons ?args .nil))) (by decide) h
    hspoils
  case params => exact isDescribed_texts (fun c a => { a with params := c }) False.elim
  case prelude => exact isDescribed_texts (fun c a => { a with prelude := c }) fun _ => rfl
  case args => exact isDescribed_texts (fun c a => { a with args := c }) fun _ => rfl

lemma TemplateDefaults.ofNode_eq_throw {d : TemplateDefaults} (h : d.IsLaidOutAs x)
    (hspoils : TemplateDefaults.Spoils fault x x') : TemplateDefaults.ofNode x' = throw fault := by
  refine Reading.record_eq_throw (.cons ?valueType (.cons ?associativeMarker (.cons ?elementMarker
    (.cons ?elementValue (.cons ?elementKey .nil))))) (by decide) h hspoils
  case valueType => exact isDescribed_text (fun c a => { a with valueType := c }) fun _ => rfl
  case associativeMarker =>
    exact isDescribed_text (fun c a => { a with associativeMarker := c }) fun _ => rfl
  case elementMarker =>
    exact isDescribed_text (fun c a => { a with elementMarker := c }) fun _ => rfl
  case elementValue =>
    exact isDescribed_text (fun c a => { a with elementValue := c }) fun _ => rfl
  case elementKey => exact isDescribed_text (fun c a => { a with elementKey := c }) fun _ => rfl

/-! ### Signatures -/

open Yaml.Value (StandsFor exists_asText_eq exists_asList_eq)

lemma Signature.exists_ofValue_eq_throw (depth : Nat) {s : Signature} (h : s.IsLaidOutAs x)
    (hspoils : Signature.Spoils fault x x') :
    ∃ v, StandsFor (depth + 2) x' v ∧ Signature.ofValue v = throw fault := by
  refine Value.exists_asRecord_eq_throw (.cons ?returns (.cons ?params .nil)) ?nodup ?plain h
    hspoils
  case nodup => decide
  case returns =>
    refine .of_reader Value.asText (fun c a => { a with returns := c }) (fun _ hx => ⟨_, hx⟩) ?_
      (fun _ _ _ _ => False.elim) False.elim
    rintro y ⟨t, hy⟩
    obtain ⟨v, hv, ht⟩ := exists_asText_eq _ hy
    exact ⟨v, hv, t, ht⟩
  case params =>
    refine .of_reader textsOfValue (fun c a => { a with params := c }) (fun _ hx => ⟨_, hx⟩) ?_
      (fun _ _ _ _ => False.elim) fun _ => rfl
    rintro y ⟨ts, hy⟩
    obtain ⟨v, hv, hts⟩ := exists_asList_eq (fun _ _ => exists_asText_eq _) hy
    exact ⟨v, hv, ts, hts⟩
  case plain =>
    simp only [List.mem_cons, List.not_mem_nil, or_false, forall_eq_or_imp, forall_eq]
    exact ⟨rfl, rfl⟩

/-! ### Function rules -/

namespace FunctionRule

lemma add_repeated {depth : Nat} {kind : FunctionRuleKind} {e : Node × Node}
    (h : EntryStates depth kind e none) {s : Entries} (hs : s.kind.isSome = true) :
    Entries.add depth s e = throw (.duplicateField "kind") := by
  have hk : Value.ofNode depth e.1 = pure (.text "kind") :=
    Value.standsFor_word depth h.1 rfl
  rw [Entries.add, hk, pure_bind]
  show (do
    if s.kind.isSome then throw (.duplicateField "kind")
    return { s with kind := some (← FunctionRuleKind.ofNode e.2) } : Reading Entries) = _
  rw [hs]
  rfl

/-- The second of two kinds is told, whatever kinds they are. -/
lemma foldlM_add_repeated {depth : Nat} {es : List (Node × Node)}
    {os : List (Option (String × Value))}
    (h : List.Forall₂ (fun e o => ∃ kind, EntryStates depth kind e o) es os) {s : Entries}
    (hcount : 2 ≤ os.countP Option.isNone + s.kind.isSome.toNat) :
    es.foldlM (Entries.add depth) s = throw (.duplicateField "kind") := by
  induction h generalizing s with
  | nil => cases hs : s.kind <;> simp [hs] at hcount
  | @cons e o es os he _ ih =>
    obtain ⟨kind, he⟩ := he
    cases o with
    | some p =>
      rw [List.foldlM_cons, add_other he, pure_bind]
      exact ih (by simpa using hcount)
    | none =>
      cases hs : s.kind with
      | some k => rw [List.foldlM_cons, add_repeated he (by simp [hs]), Reading.throw_bind]
      | none =>
        rw [List.foldlM_cons, add_kind he hs, pure_bind]
        exact ih (by simpa [hs] using hcount)

variable {depth : Nat} {kind : FunctionRuleKind} {fields : List (Field Value FunctionRule)}
  {forms : List FieldForm} {shapes : List FieldShape} {start : FunctionRule}

/-- The name and the value of a field that is filled in. -/
def named (r : Field Value FunctionRule × Value) : String × Value := (r.1.name, r.2)

lemma entryStates_of_filledBy (hplain : ∀ f ∈ fields, Value.ofPlain f.name = .ok (.text f.name))
    (hkind : ∀ f ∈ fields, f.name ≠ "kind") {es : List (Node × Node)}
    {os : List (Option (Field Value FunctionRule × Value))}
    (h : List.Forall₂ (Reading.FilledBy (StandsFor depth) fields fun e =>
      EntryStates depth kind e none) es os) :
    List.Forall₂ (EntryStates depth kind) es (os.map (Option.map named)) := by
  refine List.forall₂_map_right_iff.2 (h.imp fun e o ho => ?_)
  cases o with
  | none => exact ho
  | some r => exact ⟨⟨ho.1, hplain _ ho.2.2, ho.2.1⟩, hkind _ ho.2.2⟩

lemma eq_none_of_entryStates {e : Node × Node} {o : Option (String × Value)}
    (h : EntryStates depth kind e o) (hk : e.1.IsWord "kind") : o = none := by
  cases o with
  | none => rfl
  | some p => exact absurd (h.1.1.unique hk) h.2

/-- A kind that is missing or repeated is told. -/
lemma ofNode_eq_throw_of_kind {p : Properties} (hp : p.tag = none) {es es' : List (Node × Node)}
    {os : List (Option (String × Value))} (hos : List.Forall₂ (EntryStates depth kind) es os)
    (hcount : os.countP Option.isNone = 1) (h : SpoilsEntries [kindShape] fault es es') :
    ofNode depth (.mapping p es') = throw fault := by
  cases h with
  | missing hs _ hk =>
    obtain rfl := List.mem_singleton.1 hs
    obtain ⟨os₁, o, os₂, rfl, h₁, ho, h₂⟩ := exists_cons_of_forall₂ hos
    obtain rfl := eq_none_of_entryStates ho hk
    have hnone : (os₁ ++ os₂).countP Option.isNone = 0 := by
      simp only [List.countP_append, List.countP_cons] at hcount ⊢
      simp at hcount
      omega
    obtain ⟨t, hfold, -, hkind⟩ :=
      exists_foldlM_add (List.rel_append h₁ h₂) (s := {}) (by simp [hnone])
    have hany : ¬ (os₁ ++ os₂).any Option.isNone = true := by
      rw [List.any_eq_true]
      rintro ⟨o, ho, hisNone⟩
      exact List.countP_eq_zero.1 hnone o ho hisNone
    rw [ofNode_mapping hp, hfold, pure_bind]
    exact ofEntries_none (hkind.trans (if_neg hany))
  | @repeated _ es₁ es₂ _ _ k' y' hs hmem hk hk' hy' =>
    obtain rfl := List.mem_singleton.1 hs
    obtain ⟨os₁, os₂, rfl, h₁, h₂⟩ := exists_append_of_forall₂ hos
    obtain ⟨kind', hy'⟩ := hy'
    have hstates : List.Forall₂ (fun e o => ∃ kind, EntryStates depth kind e o)
        (es₁ ++ (k', y') :: es₂) (os₁ ++ none :: os₂) :=
      List.rel_append (h₁.imp fun _ _ h => ⟨kind, h⟩)
        (.cons ⟨kind', hk', hy'⟩ (h₂.imp fun _ _ h => ⟨kind, h⟩))
    have htwo : 2 ≤ (os₁ ++ none :: os₂).countP Option.isNone +
        ({} : Entries).kind.isSome.toNat := by
      rw [List.countP_append] at hcount ⊢
      simp
      omega
    rw [ofNode_mapping hp, foldlM_add_repeated hstates htwo, Reading.throw_bind]
    rfl
  | inside hs _ hx =>
    obtain rfl := List.mem_singleton.1 hs
    exact hx.elim

/-- A rule that is spoilt is refused, given the fields that it has besides its kind. -/
lemma ofNode_eq_throw_of_content
    (hcontent : ∀ ps, ofContent kind (.record (Value.namedEntries ps)) =
      Value.asRecord fields start (.record (Value.namedEntries ps)))
    (hd : Describes (StandsFor depth) fields forms shapes) (hnodup : (fields.map Field.name).Nodup)
    (hplain : ∀ f ∈ fields, Value.ofPlain f.name = .ok (.text f.name))
    (hkind : ∀ f ∈ fields, f.name ≠ "kind")
    (hx : x.IsVariant ({ name := "kind", isWritten := IsWord (kindName kind) } :: forms))
    (h : SpoilsRecord (kindShape :: shapes) fault x x') : ofNode depth x' = throw fault := by
  obtain ⟨p, es, known, rfl, hp, hperm, hknown⟩ | ⟨_, _, rfl, -, -⟩ := hx
  · cases hknown with
    | lack hlack => exact hlack.elim
    | @entry _ _ k y rest hk hy hrest =>
      have hothers : ∀ e ∈ [(k, y)], EntryStates depth kind e none := by
        intro e he
        obtain rfl := List.mem_singleton.1 he
        exact ⟨hk, hy⟩
      have hpasses : ∀ e, EntryStates depth kind e none → ∀ s ∈ shapes, ¬ e.1.IsWord s.name := by
        intro e he s hs hword
        obtain ⟨f, hf, hname⟩ := List.mem_map.1 (hd.shape_name_mem hs)
        exact hkind f hf (hname.trans (hword.unique he.1))
      obtain ⟨os, hholds, hcount⟩ := hd.exists_holds start hnodup
        (hperm.trans (List.perm_append_singleton (k, y) rest).symm) hrest hothers hpasses
      have hone : os.countP Option.isNone = 1 := hcount
      cases h with
      | intro h =>
        obtain h | h := h.head_or_tail
        · exact ofNode_eq_throw_of_kind hp (entryStates_of_filledBy hplain hkind hholds.filled)
            (by simpa [List.countP_map, Function.comp_def] using hone) h
        · obtain ⟨os', hos', hcount', hthrow⟩ := hholds.exists_filled h
          have hcount' : (os'.map (Option.map named)).countP Option.isNone = 1 := by
            simpa [List.countP_map, Function.comp_def] using hcount'.trans hone
          have hnamed : (os'.map (Option.map named)).filterMap id =
              (os'.filterMap id).map named := by
            rw [List.filterMap_map, List.map_filterMap]
            rfl
          rw [ofNode_mapping_eq hp (entryStates_of_filledBy hplain hkind hos') hcount', hnamed,
            hcontent]
          exact (Value.asRecord_record hnodup (Reading.field_mem_of_filledBy hos') start).trans
            (hthrow start)
  · cases h

lemma asRecord_nil (ps : List (String × Value)) (r : FunctionRule) :
    Value.asRecord [] r (.record (Value.namedEntries ps)) = pure r := by
  have hfold : ∀ d : Draft FunctionRule,
      (Value.namedEntries ps).foldlM (Value.entry []) d = (pure d : Reading _) := by
    induction ps with
    | nil => exact fun d => rfl
    | cons p ps ih => exact ih
  rw [Value.asRecord, hfold]
  rfl

/-- A rule that is spoilt is refused. -/
lemma ofNode_eq_throw (depth : Nat) {r : FunctionRule} (h : r.IsLaidOutAs x)
    (hspoils : FunctionRule.Spoils fault x x') : ofNode (depth + 3) x' = throw fault := by
  cases r with
  | address =>
    have hcontent : ∀ ps, ofContent .address (.record (Value.namedEntries ps)) =
        Value.asRecord [] .address (.record (Value.namedEntries ps)) := fun ps =>
      (asRecord_nil ps .address).symm
    have hspoils : SpoilsRecord [kindShape] fault x x' :=
      hspoils.of_forms h (by simp [contentShapes, contentForms, kindShape])
    exact ofNode_eq_throw_of_content hcontent .nil List.nodup_nil (by simp) (by simp) h hspoils
  | instantiate args =>
    have hspoils : SpoilsRecord [kindShape, contentShapes[0]] fault x x' :=
      hspoils.of_forms h (by simp [contentShapes, contentForms, kindShape])
    refine ofNode_eq_throw_of_content (fun _ => rfl) (.cons ?args .nil) (by decide)
      (List.forall_mem_singleton.2 rfl) (List.forall_mem_singleton.2 (by decide)) h hspoils
    refine .of_reader Value.asText (fun c _ => .instantiate c) (fun _ hx => ⟨_, hx⟩) ?_
      (fun _ _ _ _ => False.elim) False.elim
    rintro y ⟨t, hy⟩
    obtain ⟨v, hv, ht⟩ := exists_asText_eq _ hy
    exact ⟨v, hv, t, ht⟩
  | overloads signatures =>
    have hspoils : SpoilsRecord [kindShape, contentShapes[1]] fault x x' :=
      hspoils.of_forms h (by simp [contentShapes, contentForms, kindShape])
    refine ofNode_eq_throw_of_content (fun _ => rfl) (.cons ?signatures .nil) (by decide)
      (List.forall_mem_singleton.2 rfl) (List.forall_mem_singleton.2 (by decide)) h hspoils
    refine .of_reader (Value.asList Signature.ofValue) (fun c _ => .overloads c)
      (fun _ hx => ⟨_, hx⟩) ?_ ?_ False.elim
    · rintro y ⟨ss, hy⟩
      obtain ⟨v, hv, hss⟩ := exists_asList_eq (fun s _ => (s.readsLayouts depth).exists_value) hy
      exact ⟨v, hv, ss, hss⟩
    · rintro fault y y' ⟨ss, hy⟩ hspoils
      exact Value.exists_asList_eq_throw (fun s _ => (s.readsLayouts depth).exists_value)
        (fun s _ _ hs => s.exists_ofValue_eq_throw depth hs) hy hspoils

end FunctionRule

/-! ### Files -/

lemma PatternEntry.ofNode_eq_throw {e : PatternEntry} (h : e.IsLaidOutAs x)
    (hspoils : PatternEntry.Spoils fault x x') : PatternEntry.ofNode x' = throw fault := by
  refine Reading.record_eq_throw (.cons ?pattern (.cons ?rule .nil)) (by decide) h hspoils
  case pattern => exact isDescribed_text (fun c a => { a with pattern := c }) False.elim
  case rule =>
    have hread : ∀ r y, FunctionRule.IsLaidOutAs r y →
        FunctionRule.ofNode (documentDepth - 4) y = pure r := fun _ _ =>
      FunctionRule.ofNode_eq (documentDepth - 7)
    have hthrow : ∀ fault r y y', FunctionRule.IsLaidOutAs r y → FunctionRule.Spoils fault y y' →
        FunctionRule.ofNode (documentDepth - 4) y' = throw fault := fun _ _ _ _ =>
      FunctionRule.ofNode_eq_throw (documentDepth - 7)
    exact .of_node (fun c a => { a with rule := c }) (fun _ hx => ⟨_, hx⟩)
      (fun _ ⟨r, hx⟩ => ⟨r, hread r _ hx⟩) (fun _ _ _ ⟨r, hx⟩ => hthrow _ r _ _ hx) False.elim

namespace RuleFile

lemma ofNode_eq_throw {f : RuleFile} (h : f.IsLaidOutAs x) (hspoils : Spoils fault x x') :
    ofNode x' = throw fault := by
  refine Reading.record_eq_throw (.cons ?classes (.cons ?templates (.cons ?functions
    (.cons ?patterns (.cons ?templateDefaults .nil))))) (by decide) h hspoils
  case classes =>
    exact isDescribed_table (fun c a => { a with classes := c }) (fun _ _ => ClassRule.ofNode_eq)
      (fun _ _ _ _ => ClassRule.ofNode_eq_throw) fun _ => rfl
  case templates =>
    exact isDescribed_table (fun c a => { a with templates := c })
      (fun _ _ => TemplateRule.ofNode_eq) (fun _ _ _ _ => TemplateRule.ofNode_eq_throw) fun _ => rfl
  case functions =>
    exact isDescribed_table (fun c a => { a with functions := c })
      (fun _ _ => FunctionRule.ofNode_eq (documentDepth - 6))
      (fun _ _ _ _ => FunctionRule.ofNode_eq_throw (documentDepth - 6)) fun _ => rfl
  case patterns =>
    exact isDescribed_list (fun c a => { a with patterns := c }) (fun _ _ => PatternEntry.ofNode_eq)
      (fun _ _ _ _ => PatternEntry.ofNode_eq_throw) fun _ => rfl
  case templateDefaults =>
    have hread : ∀ o y, IsOptionOf TemplateDefaults.IsLaidOutAs o y →
        Value.optional TemplateDefaults.ofNode y = pure o := fun _ _ =>
      Value.optional_eq fun _ _ => TemplateDefaults.ofNode_eq
    have hthrow : ∀ fault o y y', IsOptionOf TemplateDefaults.IsLaidOutAs o y →
        TemplateDefaults.Spoils fault y y' →
          Value.optional TemplateDefaults.ofNode y' = throw fault := fun _ _ _ _ =>
      Value.optional_eq_throw fun _ _ _ => TemplateDefaults.ofNode_eq_throw
    exact .of_node (fun c a => { a with templateDefaults := c }) (fun _ hx => ⟨_, hx⟩)
      (fun _ ⟨o, hx⟩ => ⟨o, hread o _ hx⟩) (fun _ _ _ ⟨o, hx⟩ => hthrow _ o _ _ hx) fun _ => rfl

/-- Any one change to a file in any layout tells. When a required entry is left out or an entry of a
field is repeated, at whatever depth, the file is refused and the field is named; when the name of a
rule is repeated in its table, the file is read with the later rule. -/
theorem ofDocument_of_change {f : RuleFile} {x : Node} (h : f.IsLaidOutAs x) :
    (∀ fault (d : Document), Spoils fault x d.root → ofDocument d = .error fault) ∧
      ∀ g (d : Document), f.RepeatsRule g x d.root → d.isSound = true → ofDocument d = .ok g := by
  constructor
  · intro fault d hspoils
    rw [ofDocument, Reading.ofDocument, ofNode_eq_throw h hspoils]
    rfl
  · intro g d hrepeats hsound
    rw [ofDocument, Reading.ofDocument, ofNode_eq_of_repeatsRule h hrepeats]
    exact if_pos hsound

/-- A layout of a file with one template and one function, given the templates and the entries of
the function. -/
def smallLayout (templates function : List (Node × Node)) : Node :=
  .mapping {} [(.text "templates", .mapping {} templates),
    (.text "functions", .mapping {} [(.text "g", .mapping {} function)])]

/-- What `smallLayout` lays out, given the parameter of the template. -/
def smallFile (param : String) : RuleFile where
  templates := ⟨[("TMap", ⟨[param], [], []⟩)], List.pairwise_singleton _ _⟩
  functions := ⟨[("g", .instantiate "int")], List.pairwise_singleton _ _⟩

theorem ofDocument_smallLayout_changed :
    let template (param : String) : Node × Node :=
      (.text "TMap", .mapping {} [(.text "params", .sequence {} [.text param])])
    let args : Node × Node := (.text "args", .text "int")
    let kind : Node × Node := (.text "kind", .text "instantiate")
    (smallFile "int").IsLaidOutAs (smallLayout [template "int"] [args, kind]) ∧
      ofDocument ⟨smallLayout [(.text "TMap", .mapping {} [])] [args, kind], true⟩ =
        .error (.missingField "params") ∧
      ofDocument ⟨smallLayout [template "int"] [kind, args, kind], true⟩ =
        .error (.duplicateField "kind") ∧
      ofDocument ⟨smallLayout [template "int", template "long"] [args, kind], true⟩ =
        .ok (smallFile "long") := by
  intro template args kind
  have hquoted : ∀ t, (Node.text t).IsQuoted t := fun t => ⟨{}, rfl, rfl⟩
  have hword : ∀ t, (Node.text t).IsWord t := fun t => ⟨{}, false, rfl, rfl⟩
  have htemplate : ∀ param, TemplateRule.IsLaidOutAs ⟨[param], [], []⟩ (template param).2 :=
    fun param => ⟨{}, _, [_], [], rfl, rfl, .refl _, .entry (hword _)
      ⟨{}, _, rfl, rfl, .cons (hquoted param) .nil⟩ (.lack rfl (.lack rfl .nil)), by simp⟩
  have hfunction : FunctionRule.IsLaidOutAs (.instantiate "int") (.mapping {} [args, kind]) :=
    .inl ⟨_, _, _, rfl, rfl, .swap _ _ _,
      .entry (hword _) (hword _) (.entry (hword _) (hquoted _) .nil)⟩
  have hlaid : (smallFile "int").IsLaidOutAs (smallLayout [template "int"] [args, kind]) := by
    refine ⟨{}, _, [_, _], [], rfl, rfl, .refl _, .lack rfl (.entry (hword _) ?templates
      (.entry (hword _) ?functions (.lack rfl (.lack rfl .nil)))), by simp⟩
    case templates =>
      exact ⟨{}, _, [("TMap", ⟨["int"], [], []⟩)], rfl, rfl, .refl _,
        .cons ⟨hquoted _, htemplate _⟩ .nil⟩
    case functions =>
      exact ⟨{}, _, [("g", .instantiate "int")], rfl, rfl, .refl _,
        .cons ⟨hquoted _, hfunction⟩ .nil⟩
  obtain ⟨hspoilt, hrepeated⟩ := ofDocument_of_change hlaid
  refine ⟨hlaid, hspoilt _ _ ?missing, hspoilt _ _ ?repeated, hrepeated _ _ ?later rfl⟩
  case missing =>
    have hrule : TemplateRule.Spoils (.missingField "params") (template "int").2 (.mapping {} []) :=
      .intro (@SpoilsEntries.missing TemplateRule.shapes TemplateRule.shapes[0] [] [] _ _
        (List.getElem_mem _) rfl (hword _))
    exact .intro (@SpoilsEntries.inside shapes shapes[1] [] [_] _ _ _ _ (List.getElem_mem _)
      (hword _) (@SpoilsValue.intro _ _ {} [] [] _ _ _ hrule))
  case repeated =>
    have hrule : FunctionRule.Spoils (.duplicateField "kind") (.mapping {} [args, kind])
        (.mapping {} [kind, args, kind]) :=
      .intro (@SpoilsEntries.repeated _ FunctionRule.kindShape [] [args, kind] _ _ _ _ (by simp)
        (List.mem_cons_of_mem _ List.mem_cons_self) (hword _) (hword _) ⟨.instantiate, hword _⟩)
    exact .intro (@SpoilsEntries.inside shapes shapes[2] [_] [] _ _ _ _ (List.getElem_mem _)
      (hword _) (@SpoilsValue.intro _ _ {} [] [] _ _ _ hrule))
  case later =>
    have htable : RepeatsName TemplateRule.IsLaidOutAs (smallFile "int").templates
        (smallFile "long").templates (.mapping {} [template "int"])
        (.mapping {} [template "int", template "long"]) := by
      refine @RepeatsName.behind _ _ _ {} [template "int"] [] _ _ _ _ "TMap" _ _
        List.mem_cons_self (hquoted _) (hquoted _) (htemplate "long") fun m => ?_
      by_cases hm : m = "TMap"
      · simp [smallFile, Table.find?, hm]
      · simp [smallFile, Table.find?, hm, Ne.symm hm]
    exact .templates (@ChangesEntry.intro _ _ {} [] [_] _ _ _ (hword _) htable)

end RuleFile

end SymbolProbe
