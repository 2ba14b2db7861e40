import SymbolProbe.Proofs.RecordReading

/-!
# Rule files in any layout

A rule file that is laid out in any way is read as what it is (`RuleFile.ofDocument_eq`). The
records that are read directly, the tables and the lists are taken from the node as they stand; a
function rule is turned into an untyped value first, from which its kind and its other fields are
taken.
-/

namespace SymbolProbe

open Yaml
open Yaml.Node
open Yaml.Reading (Field Draft)

/-! ### Tables and lists -/

/-- The entries of a table make the table again, whatever their order is. -/
lemma Table.ofList_eq_of_perm {α : Type} {t : Table α} {es : List (String × α)}
    (h : es.Perm t.entries) : ofList es = t := by
  refine ext_find? fun k => ?_
  rw [find?_ofList]
  cases hfind : es.reverse.find? fun e => e.1 == k with
  | some e =>
    have hmem : e ∈ t.entries :=
      h.mem_iff.1 (List.mem_reverse.1 (List.mem_of_find?_eq_some hfind))
    have hname : e.1 = k := by simpa using List.find?_some hfind
    exact (find?_eq_some_iff.2 (hname ▸ hmem)).symm
  | none =>
    have hnone : ∀ e ∈ t.entries, ¬(e.1 == k) = true := fun e he =>
      List.find?_eq_none.1 hfind e (List.mem_reverse.2 (h.mem_iff.2 he))
    rw [find?, List.find?_eq_none.2 hnone]

namespace Yaml.Reading

variable {α : Type}

/-- A list is read item by item. -/
lemma list_eq {read : Node → Reading α} {as : List α} {x : Node} {write : α → Node → Prop}
    (hread : ∀ a x, write a x → read x = pure a) (hx : x.IsListOf write as) :
    list read x = pure as := by
  obtain ⟨p, xs, rfl, -, hxs⟩ := hx
  exact mapM_eq_of_forall₂ (hxs.flip.imp fun x a h => hread a x h)

lemma text_eq {t : String} {x : Node} (h : x.IsQuoted t) : text x = pure t := by
  obtain ⟨p, rfl, -⟩ := h
  rfl

/-- Read one more entry of a table. -/
def addEntry (value : Node → Reading α) (t : Table α) (e : Node × Node) : Reading (Table α) := do
  let name ← text e.1
  return t.insert name (← value e.2)

lemma table_mapping (value : Node → Reading α) (p : Properties) (es : List (Node × Node)) :
    table value (.mapping p es) = es.foldlM (addEntry value) Table.empty := rfl

/-- The entries of a table are inserted in their order. -/
lemma foldlM_addEntry {read : Node → Reading α} {write : α → Node → Prop}
    (hread : ∀ a x, write a x → read x = pure a) {named : List (String × α)}
    {es : List (Node × Node)}
    (hes : List.Forall₂ (fun a e => IsQuoted a.1 e.1 ∧ write a.2 e.2) named es) (t : Table α) :
    es.foldlM (addEntry read) t = pure (named.foldl (fun t e => t.insert e.1 e.2) t) := by
  induction hes generalizing t with
  | nil => rfl
  | @cons a e named es he _ ih =>
    rw [List.foldlM_cons, addEntry, text_eq he.1, pure_bind, hread _ _ he.2, pure_bind, pure_bind]
    exact ih _

/-- Of the entries of one name the last one counts. -/
lemma table_eq_ofList {read : Node → Reading α} {write : α → Node → Prop}
    (hread : ∀ a x, write a x → read x = pure a) {named : List (String × α)}
    {es : List (Node × Node)}
    (hes : List.Forall₂ (fun a e => IsQuoted a.1 e.1 ∧ write a.2 e.2) named es) (p : Properties) :
    table read (.mapping p es) = pure (Table.ofList named) := by
  rw [table_mapping, foldlM_addEntry hread hes]
  rfl

/-- A table is read entry by entry, in any order. -/
lemma table_eq {read : Node → Reading α} {t : Table α} {x : Node} {write : α → Node → Prop}
    (hread : ∀ a x, write a x → read x = pure a) (hx : x.IsTableOf write t) :
    table read x = pure t := by
  obtain ⟨p, es, named, rfl, -, hperm, hes⟩ := hx
  rw [table_eq_ofList hread hes, Table.ofList_eq_of_perm hperm]

end Yaml.Reading

lemma textsOfNode_eq {ts : List String} {x : Node} (h : x.IsTexts ts) :
    textsOfNode x = pure ts :=
  Reading.list_eq (fun _ _ => Reading.text_eq) h

/-! ### Rules of classes and templates -/

/-- The part of a name is that of a wanted rule. -/
def ClassRule.Agrees (r : ClassRule) (n : String) (a : ClassRule) : Prop :=
  (n = "prelude" → a.prelude = r.prelude) ∧ (n = "args" → a.args = r.args)

lemma ClassRule.ofNode_eq {r : ClassRule} {x : Node} (h : r.IsLaidOutAs x) :
    ClassRule.ofNode x = pure r := by
  refine Reading.record_eq (?determines : Reading.Determines _ _ r r.Agrees)
    (.cons ?prelude (.cons ?args .nil)) h
  case determines =>
    refine ⟨by decide, fun a ha => ?_⟩
    obtain ⟨_, _⟩ := a
    obtain ⟨_, _⟩ := r
    simpa [Agrees] using ha
  case prelude =>
    exact .of_node (fun c a => { a with prelude := c }) r.prelude (fun _ => textsOfNode_eq)
      (by simp +contextual [Agrees]) (by simp +contextual [Agrees])
  case args =>
    exact .of_node (fun c a => { a with args := c }) r.args (fun _ => textsOfNode_eq)
      (by simp +contextual [Agrees]) (by simp +contextual [Agrees])

/-- The part of a name is that of a wanted rule. -/
def TemplateRule.Agrees (r : TemplateRule) (n : String) (a : TemplateRule) : Prop :=
  (n = "params" → a.params = r.params) ∧ (n = "prelude" → a.prelude = r.prelude) ∧
    (n = "args" → a.args = r.args)

lemma TemplateRule.ofNode_eq {r : TemplateRule} {x : Node} (h : r.IsLaidOutAs x) :
    TemplateRule.ofNode x = pure r := by
  refine Reading.record_eq (?determines : Reading.Determines _ _ r r.Agrees)
    (.cons ?params (.cons ?prelude (.cons ?args .nil))) h
  case determines =>
    refine ⟨by decide, fun a ha => ?_⟩
    obtain ⟨_, _, _⟩ := a
    obtain ⟨_, _, _⟩ := r
    simpa [Agrees] using ha
  case params =>
    exact .of_node (fun c a => { a with params := c }) r.params (fun _ => textsOfNode_eq) False.elim
      (by simp +contextual [Agrees])
  case prelude =>
    exact .of_node (fun c a => { a with prelude := c }) r.prelude (fun _ => textsOfNode_eq)
      (by simp +contextual [Agrees]) (by simp +contextual [Agrees])
  case args =>
    exact .of_node (fun c a => { a with args := c }) r.args (fun _ => textsOfNode_eq)
      (by simp +contextual [Agrees]) (by simp +contextual [Agrees])

/-- The part of a name is that of wanted defaults. -/
def TemplateDefaults.Agrees (d : TemplateDefaults) (n : String) (a : TemplateDefaults) : Prop :=
  (n = "value_type" → a.valueType = d.valueType) ∧
    (n = "associative_marker" → a.associativeMarker = d.associativeMarker) ∧
    (n = "element_marker" → a.elementMarker = d.elementMarker) ∧
    (n = "element_value" → a.elementValue = d.elementValue) ∧
    (n = "element_key" → a.elementKey = d.elementKey)

lemma TemplateDefaults.ofNode_eq {d : TemplateDefaults} {x : Node} (h : d.IsLaidOutAs x) :
    TemplateDefaults.ofNode x = pure d := by
  refine Reading.record_eq (?determines : Reading.Determines _ _ d d.Agrees)
    (.cons ?valueType (.cons ?associativeMarker (.cons ?elementMarker (.cons ?elementValue
      (.cons ?elementKey .nil))))) h
  case determines =>
    refine ⟨by decide, fun a ha => ?_⟩
    obtain ⟨_, _, _, _, _⟩ := a
    obtain ⟨_, _, _, _, _⟩ := d
    simpa [Agrees] using ha
  case valueType =>
    exact .of_node (fun c a => { a with valueType := c }) d.valueType (fun _ => Reading.text_eq)
      (by simp +contextual [Agrees]) (by simp +contextual [Agrees])
  case associativeMarker =>
    exact .of_node (fun c a => { a with associativeMarker := c }) d.associativeMarker
      (fun _ => Reading.text_eq) (by simp +contextual [Agrees]) (by simp +contextual [Agrees])
  case elementMarker =>
    exact .of_node (fun c a => { a with elementMarker := c }) d.elementMarker
      (fun _ => Reading.text_eq) (by simp +contextual [Agrees]) (by simp +contextual [Agrees])
  case elementValue =>
    exact .of_node (fun c a => { a with elementValue := c }) d.elementValue
      (fun _ => Reading.text_eq) (by simp +contextual [Agrees]) (by simp +contextual [Agrees])
  case elementKey =>
    exact .of_node (fun c a => { a with elementKey := c }) d.elementKey (fun _ => Reading.text_eq)
      (by simp +contextual [Agrees]) (by simp +contextual [Agrees])

/-! ### Signatures -/

namespace Yaml.Value

/-- The items of a list stand for values that they are read from. -/
lemma exists_values {α : Type} {depth : Nat} {item : Value → Reading α} {write : α → Node → Prop}
    (hitem : ∀ a x, write a x → ∃ v, StandsFor depth x v ∧ item v = pure a) {as : List α}
    {xs : List Node} (hxs : List.Forall₂ write as xs) :
    ∃ vs, List.Forall₂ (StandsFor depth) xs vs ∧
      List.Forall₂ (fun v a => item v = pure a) vs as := by
  induction hxs with
  | nil => exact ⟨[], .nil, .nil⟩
  | cons hx _ ih =>
    obtain ⟨v, hv, ha⟩ := hitem _ _ hx
    obtain ⟨vs, hvs, has⟩ := ih
    exact ⟨v :: vs, .cons hv hvs, .cons ha has⟩

/-- A list stands for a value that it is read from item by item. -/
lemma exists_asList_eq {α : Type} {depth : Nat} {item : Value → Reading α}
    {write : α → Node → Prop}
    (hitem : ∀ a x, write a x → ∃ v, StandsFor depth x v ∧ item v = pure a) {as : List α}
    {x : Node} (hx : x.IsListOf write as) :
    ∃ v, StandsFor (depth + 1) x v ∧ asList item v = pure as := by
  obtain ⟨p, xs, rfl, hp, hxs⟩ := hx
  obtain ⟨vs, hvs, hread⟩ := exists_values hitem hxs
  exact ⟨.list vs, standsFor_sequence hp hvs, Reading.mapM_eq_of_forall₂ hread⟩

lemma exists_asText_eq (depth : Nat) {t : String} {x : Node} (hx : x.IsQuoted t) :
    ∃ v, StandsFor depth x v ∧ asText v = pure t :=
  ⟨.text t, standsFor_quoted depth hx, rfl⟩

end Yaml.Value

open Yaml.Value (StandsFor exists_asList_eq exists_asText_eq)

/-- The part of a name is that of a wanted signature. -/
def Signature.Agrees (s : Signature) (n : String) (a : Signature) : Prop :=
  (n = "returns" → a.returns = s.returns) ∧ (n = "params" → a.params = s.params)

lemma Signature.readsLayouts (depth : Nat) (s : Signature) :
    Value.ReadsLayouts (depth + 1) s.forms Signature.ofValue s := by
  refine Value.readsLayouts_asRecord (?determines : Reading.Determines _ _ s s.Agrees)
    (.cons ?returns (.cons ?params .nil)) ?plain
  case determines =>
    refine ⟨by decide, fun a ha => ?_⟩
    obtain ⟨_, _⟩ := a
    obtain ⟨_, _⟩ := s
    simpa [Agrees] using ha
  case returns =>
    exact .of_reader Value.asText (fun c a => { a with returns := c }) s.returns rfl
      (fun _ _ => rfl) False.elim (fun x hx => exists_asText_eq _ hx) (by simp +contextual [Agrees])
  case params =>
    exact .of_reader textsOfValue (fun c a => { a with params := c }) s.params rfl
      (fun _ _ => rfl) (by simp +contextual [Agrees])
      (fun x hx => exists_asList_eq (fun _ _ => exists_asText_eq _) hx)
      (by simp +contextual [Agrees])
  case plain =>
    simp only [List.mem_cons, List.not_mem_nil, or_false, forall_eq_or_imp, forall_eq]
    exact ⟨rfl, rfl⟩

/-! ### Function rules -/

namespace FunctionRule

lemma kind_ofNode_eq {kind : FunctionRuleKind} {x : Node} (h : x.IsWord (kindName kind)) :
    FunctionRuleKind.ofNode x = pure kind := by
  obtain ⟨p, isPlain, rfl, -⟩ := h
  cases kind <;> rfl

/-- An entry of a rule stands for a named value, or it states the kind. -/
def EntryStates (depth : Nat) (kind : FunctionRuleKind) (e : Node × Node) :
    Option (String × Value) → Prop
  | some p => Value.EntryStandsFor depth e p ∧ p.1 ≠ "kind"
  | none => e.1.IsWord "kind" ∧ e.2.IsWord (kindName kind)

lemma add_other {depth : Nat} {kind : FunctionRuleKind} {e : Node × Node} {p : String × Value}
    (h : EntryStates depth kind e (some p)) (s : Entries) :
    Entries.add depth s e = pure { s with others := (.text p.1, p.2) :: s.others } := by
  obtain ⟨⟨hkey, hplain, hvalue⟩, hne⟩ := h
  have hk : Value.ofNode depth e.1 = pure (.text p.1) := Value.standsFor_word depth hkey hplain
  have hv : Value.ofNode depth e.2 = pure p.2 := hvalue
  rw [Entries.add, hk, pure_bind]
  split
  · rename_i heq
    exact absurd (Value.text.inj heq) hne
  · rw [hv, pure_bind]

lemma add_kind {depth : Nat} {kind : FunctionRuleKind} {e : Node × Node}
    (h : EntryStates depth kind e none) {s : Entries} (hs : s.kind = none) :
    Entries.add depth s e = pure { s with kind := some kind } := by
  have hk : Value.ofNode depth e.1 = pure (.text "kind") :=
    Value.standsFor_word depth h.1 rfl
  rw [Entries.add, hk, pure_bind]
  show (do
    if s.kind.isSome then throw (.duplicateField "kind")
    return { s with kind := some (← FunctionRuleKind.ofNode e.2) } : Reading Entries) = _
  rw [hs, kind_ofNode_eq h.2]
  rfl

/-- The kind is found in any place, and the other entries are kept in order. -/
lemma exists_foldlM_add {depth : Nat} {kind : FunctionRuleKind} {es : List (Node × Node)}
    {os : List (Option (String × Value))} (h : List.Forall₂ (EntryStates depth kind) es os)
    {s : Entries} (hcount : os.countP Option.isNone + s.kind.isSome.toNat ≤ 1) :
    ∃ t, es.foldlM (Entries.add depth) s = pure t ∧
      t.others = (Value.namedEntries (os.filterMap id)).reverse ++ s.others ∧
      t.kind = if os.any Option.isNone then some kind else s.kind := by
  induction h generalizing s with
  | nil => exact ⟨s, rfl, by simp [Value.namedEntries], by simp⟩
  | @cons e o es os he _ ih =>
    cases o with
    | some p =>
      obtain ⟨t, hfold, hothers, hkind⟩ :=
        ih (s := { s with others := (.text p.1, p.2) :: s.others }) (by simpa using hcount)
      refine ⟨t, ?_, ?_, ?_⟩
      · rw [List.foldlM_cons, add_other he, pure_bind, hfold]
      · simp [hothers, Value.namedEntries]
      · exact hkind
    | none =>
      -- The kind is stated once, so it was not seen before and is not seen again.
      have hs : s.kind = none := by
        cases hk : s.kind with
        | none => rfl
        | some k => simp [hk] at hcount
      have hrest : os.countP Option.isNone = 0 := by
        simpa [hs] using hcount
      obtain ⟨t, hfold, hothers, hkind⟩ := ih (s := { s with kind := some kind }) (by simp [hrest])
      refine ⟨t, ?_, ?_, ?_⟩
      · rw [List.foldlM_cons, add_kind he hs, pure_bind, hfold]
      · simpa using hothers
      · simpa using hkind

/-- What a rule holds besides its kind is read in any layout. -/
lemma readsLayouts_content (depth : Nat) (r : FunctionRule) :
    Value.ReadsLayouts (depth + 3) r.contentForms (ofContent r.kind) r := by
  cases r with
  | address =>
    refine ⟨fun es hes => ?_, fun xs hxs => ?_⟩
    · cases hes
      exact ⟨[], .nil, by simp, fun qs _ => rfl⟩
    · cases hxs
      exact ⟨[], .nil, rfl⟩
  | instantiate args =>
    refine Value.readsLayouts_asRecord
      (?determines : Reading.Determines _ _ _ fun _ a => a = .instantiate args) (.cons ?args .nil)
      (List.forall_mem_singleton.2 rfl)
    case determines => exact ⟨by decide, fun a ha => ha _ (List.mem_singleton.2 rfl)⟩
    case args =>
      exact .of_reader Value.asText (fun c _ => .instantiate c) args rfl (fun _ _ => rfl) False.elim
        (fun x hx => exists_asText_eq _ hx) (by simp)
  | overloads signatures =>
    refine Value.readsLayouts_asRecord
      (?determines : Reading.Determines _ _ _ fun _ a => a = .overloads signatures)
      (.cons ?signatures .nil) (List.forall_mem_singleton.2 rfl)
    case determines => exact ⟨by decide, fun a ha => ha _ (List.mem_singleton.2 rfl)⟩
    case signatures =>
      exact .of_reader (Value.asList Signature.ofValue) (fun c _ => .overloads c) signatures rfl
        (fun _ _ => rfl) False.elim
        (fun x hx => exists_asList_eq (fun s _ => (s.readsLayouts depth).exists_value) hx) (by simp)

lemma name_ne_kind {r : FunctionRule} : ∀ n ∈ r.contentForms.map FieldForm.name, n ≠ "kind" := by
  cases r <;> simp [contentForms]

/-- Read a rule whose kind was told from its other entries. -/
def ofEntries (es : Entries) : Reading FunctionRule :=
  match es.kind with
  | some kind => ofContent kind (.record es.others.reverse)
  | none => throw (.missingField "kind")

lemma ofEntries_some {es : Entries} {kind : FunctionRuleKind} (h : es.kind = some kind) :
    ofEntries es = ofContent kind (.record es.others.reverse) := by
  rw [ofEntries, h]

lemma ofEntries_none {es : Entries} (h : es.kind = none) :
    ofEntries es = throw (.missingField "kind") := by
  rw [ofEntries, h]

lemma ofNode_mapping {depth : Nat} {p : Properties} (hp : p.tag = none)
    (es : List (Node × Node)) :
    ofNode depth (.mapping p es) = es.foldlM (Entries.add depth) {} >>= ofEntries := by
  have hown : Value.asksForOwnType (.mapping p es) = false := by
    simp [Value.asksForOwnType, Node.properties, hp]
  simp only [ofNode, Reading.follow, pure_bind, hown, Bool.false_eq_true, if_false]
  rfl

/-- A mapping that states the kind once is read by kind from its other entries. -/
lemma ofNode_mapping_eq {depth : Nat} {kind : FunctionRuleKind} {p : Properties}
    (hp : p.tag = none) {es : List (Node × Node)} {os : List (Option (String × Value))}
    (h : List.Forall₂ (EntryStates depth kind) es os) (hcount : os.countP Option.isNone = 1) :
    ofNode depth (.mapping p es) =
      ofContent kind (.record (Value.namedEntries (os.filterMap id))) := by
  have hle : os.countP Option.isNone + (none : Option FunctionRuleKind).isSome.toNat ≤ 1 := by
    simp [hcount]
  have hany : os.any Option.isNone = true :=
    List.any_eq_true.2 (List.countP_pos_iff.1 (hcount ▸ Nat.one_pos))
  obtain ⟨t, hfold, hothers, hkind⟩ := exists_foldlM_add h (s := {}) hle
  have hentries : t.others.reverse = Value.namedEntries (os.filterMap id) := by
    simp [hothers]
  rw [ofNode_mapping hp, hfold, pure_bind, ofEntries_some (hkind.trans (if_pos hany)), hentries]

/-- A sequence is read by the kind that its first item states. -/
lemma ofNode_sequence_eq {depth : Nat} {kind : FunctionRuleKind} {p : Properties}
    (hp : p.tag = none) {k : Node} (hk : k.IsWord (kindName kind)) {xs : List Node}
    {vs : List Value} (h : List.Forall₂ (Value.StandsFor depth) xs vs) :
    ofNode depth (.sequence p (k :: xs)) = ofContent kind (.list vs) := by
  have hown : Value.asksForOwnType (.sequence p (k :: xs)) = false := by
    simp [Value.asksForOwnType, Node.properties, hp]
  simp only [ofNode, Reading.follow, pure_bind, hown, Bool.false_eq_true, if_false,
    kind_ofNode_eq hk, Value.mapM_ofNode h]

/-- A rule in any layout is read as what it is. -/
lemma ofNode_eq (depth : Nat) {r : FunctionRule} {x : Node} (h : r.IsLaidOutAs x) :
    ofNode (depth + 3) x = pure r := by
  have hcontent := readsLayouts_content depth r
  obtain ⟨p, es, known, rfl, hp, hperm, hknown⟩ | ⟨p, xs, rfl, hp, hxs⟩ := h
  · cases hknown with
    | lack hlack => exact hlack.elim
    | @entry _ _ k y rest hk hy hrest =>
      -- Besides the kind, the entries stand for named values, and they may be permuted with it.
      obtain ⟨ps, hps, hnames, hread⟩ := hcontent.entries rest hrest
      have hall : List.Forall₂ (EntryStates (depth + 3) r.kind) ((k, y) :: rest)
          (none :: ps.map some) := by
        have hentries := ((List.forall₂_and_left _ _).2 ⟨hnames, hps.flip⟩).flip
        refine .cons ⟨hk, hy⟩ (List.forall₂_map_right_iff.2 (hentries.imp fun _ _ h => ?_))
        exact ⟨h.2, name_ne_kind _ h.1⟩
      obtain ⟨os, hos, hosPerm⟩ := List.perm_comp_forall₂ hperm hall
      have hcount : os.countP Option.isNone = 1 := by
        rw [hosPerm.countP_eq]
        simp [List.countP_map]
      have hothers : (os.filterMap id).Perm ps := by
        simpa [List.filterMap_map] using hosPerm.filterMap id
      rw [ofNode_mapping_eq hp hos hcount]
      exact hread _ hothers
  · cases hxs with
    | @cons _ k _ xs hk hxs =>
      obtain ⟨vs, hvs, hread⟩ := hcontent.items xs hxs
      rw [ofNode_sequence_eq hp hk hvs, hread]

end FunctionRule

/-! ### Files -/

/-- The part of a name is that of a wanted entry. -/
def PatternEntry.Agrees (e : PatternEntry) (n : String) (a : PatternEntry) : Prop :=
  (n = "pattern" → a.pattern = e.pattern) ∧ (n = "rule" → a.rule = e.rule)

lemma PatternEntry.ofNode_eq {e : PatternEntry} {x : Node} (h : e.IsLaidOutAs x) :
    PatternEntry.ofNode x = pure e := by
  refine Reading.record_eq (?determines : Reading.Determines _ _ e e.Agrees)
    (.cons ?pattern (.cons ?rule .nil)) h
  case determines =>
    refine ⟨by decide, fun a ha => ?_⟩
    obtain ⟨_, _⟩ := a
    obtain ⟨_, _⟩ := e
    simpa [Agrees] using ha
  case pattern =>
    exact .of_node (fun c a => { a with pattern := c }) e.pattern (fun _ => Reading.text_eq)
      False.elim (by simp +contextual [Agrees])
  case rule =>
    exact .of_node (fun c a => { a with rule := c }) e.rule
      (fun _ => FunctionRule.ofNode_eq (documentDepth - 7)) False.elim
      (by simp +contextual [Agrees])

/-- An option is read from a mapping, or from a null without quotes. -/
lemma Yaml.Value.optional_eq {α : Type} {read : Node → Reading α} {forms : α → List FieldForm}
    (hread : ∀ a x, x.IsRecord (forms a) → read x = pure a) {o : Option α} {x : Node}
    (hx : IsOptionOf (fun a => IsRecord (forms a)) o x) : Value.optional read x = pure o := by
  cases o with
  | some a =>
    have hrecord := hread a x hx
    obtain ⟨p, es, _, _, rfl, -⟩ := hx
    show (do return some (← read (.mapping p es)) : Reading (Option α)) = _
    rw [hrecord, pure_bind]
  | none =>
    obtain ⟨⟨anchor, tag⟩, t, rfl, rfl, hnull⟩ := hx
    have hoptional : Value.optional read (.scalar ⟨anchor, none⟩ t true) =
        if (t.isEmpty || isNullText t) = true then pure none
        else do return some (← read (.scalar ⟨anchor, none⟩ t true)) := rfl
    rw [hoptional, if_pos hnull]

namespace RuleFile

/-- The part of a name is that of a wanted file. -/
def Agrees (f : RuleFile) (n : String) (a : RuleFile) : Prop :=
  (n = "classes" → a.classes = f.classes) ∧ (n = "templates" → a.templates = f.templates) ∧
    (n = "functions" → a.functions = f.functions) ∧ (n = "patterns" → a.patterns = f.patterns) ∧
    (n = "template_defaults" → a.templateDefaults = f.templateDefaults)

/-- How the fields of a file are written, given the nodes that write its tables. -/
def formsWith (f : RuleFile) (classes templates functions : Node → Prop) : List FieldForm := [
  { name := "classes", mayLack := f.classes = Table.empty, isWritten := classes },
  { name := "templates", mayLack := f.templates = Table.empty, isWritten := templates },
  { name := "functions", mayLack := f.functions = Table.empty, isWritten := functions },
  { name := "patterns", mayLack := f.patterns = [],
    isWritten := IsListOf PatternEntry.IsLaidOutAs f.patterns },
  { name := "template_defaults", mayLack := f.templateDefaults = none,
    isWritten := IsOptionOf TemplateDefaults.IsLaidOutAs f.templateDefaults }]

/-- How the fields of a file are written in a layout. -/
def forms (f : RuleFile) : List FieldForm :=
  f.formsWith (IsTableOf ClassRule.IsLaidOutAs f.classes)
    (IsTableOf TemplateRule.IsLaidOutAs f.templates)
    (IsTableOf FunctionRule.IsLaidOutAs f.functions)

/-- A file is read when its tables are, whatever they are written like. -/
lemma ofNode_eq_of_tables {f : RuleFile} {classes templates functions : Node → Prop}
    (hclasses : ∀ x, classes x → Reading.table ClassRule.ofNode x = pure f.classes)
    (htemplates : ∀ x, templates x → Reading.table TemplateRule.ofNode x = pure f.templates)
    (hfunctions : ∀ x, functions x →
      Reading.table (FunctionRule.ofNode (documentDepth - 3)) x = pure f.functions)
    {x : Node} (h : x.IsRecord (f.formsWith classes templates functions)) : ofNode x = pure f := by
  refine Reading.record_eq (?determines : Reading.Determines _ _ f f.Agrees)
    (.cons ?classes (.cons ?templates (.cons ?functions (.cons ?patterns
      (.cons ?templateDefaults .nil))))) h
  case determines =>
    refine ⟨by decide, fun a ha => ?_⟩
    obtain ⟨_, _, _, _, _⟩ := a
    obtain ⟨_, _, _, _, _⟩ := f
    simpa [Agrees] using ha
  case classes =>
    exact .of_node (fun c a => { a with classes := c }) f.classes hclasses
      (by simp +contextual [Agrees]) (by simp +contextual [Agrees])
  case templates =>
    exact .of_node (fun c a => { a with templates := c }) f.templates htemplates
      (by simp +contextual [Agrees]) (by simp +contextual [Agrees])
  case functions =>
    exact .of_node (fun c a => { a with functions := c }) f.functions hfunctions
      (by simp +contextual [Agrees]) (by simp +contextual [Agrees])
  case patterns =>
    exact .of_node (fun c a => { a with patterns := c }) f.patterns
      (fun _ => Reading.list_eq fun _ _ => PatternEntry.ofNode_eq) (by simp +contextual [Agrees])
      (by simp +contextual [Agrees])
  case templateDefaults =>
    exact .of_node (fun c a => { a with templateDefaults := c }) f.templateDefaults
      (fun _ => Value.optional_eq fun _ _ => TemplateDefaults.ofNode_eq)
      (by simp +contextual [Agrees]) (by simp +contextual [Agrees])

lemma ofNode_eq {f : RuleFile} {x : Node} (h : f.IsLaidOutAs x) : ofNode x = pure f :=
  ofNode_eq_of_tables (fun _ => Reading.table_eq fun _ _ => ClassRule.ofNode_eq)
    (fun _ => Reading.table_eq fun _ _ => TemplateRule.ofNode_eq)
    (fun _ => Reading.table_eq fun _ _ => FunctionRule.ofNode_eq (documentDepth - 6)) h

/-- A rule file in any layout is read as what it is. -/
theorem ofDocument_eq {f : RuleFile} {x : Node} (h : f.IsLaidOutAs x) :
    ofDocument ⟨x, true⟩ = .ok f := by
  rw [ofDocument, Reading.ofDocument, ofNode_eq h]
  rfl

/-- A layout with its fields in reverse order, an entry of an unknown name, function rules and
signatures of both ways, and fields that are left out. -/
def mixedLayout : Node :=
  .mapping {} [
    (.text "note", .sequence {} [.scalar {} "1" true, .mapping {} [(.text "x", .alias 3)]]),
    (.scalar {} "patterns" true, .sequence {} [.mapping {} [
      (.text "rule", .sequence {} [.text "overloads", .sequence {} [
        .sequence {} [.text "int", .sequence {} []],
        .mapping {} [(.text "params", .sequence {} [.text "long"]),
          (.text "returns", .text "void")]]]),
      (.text "pattern", .text "^f$")]]),
    (.text "functions", .mapping {} [
      (.text "g", .mapping {} [(.text "args", .text "int"),
        (.text "kind", .scalar {} "instantiate" true)]),
      (.text "f", .sequence {} [.text "address"])])]

/-- What `mixedLayout` lays out. -/
def mixedFile : RuleFile where
  functions := ⟨[("f", .address), ("g", .instantiate "int")], List.pairwise_pair.2 (by decide)⟩
  patterns := [⟨"^f$", .overloads [⟨"int", []⟩, ⟨"void", ["long"]⟩]⟩]

theorem ofDocument_mixedLayout : mixedFile.IsLaidOutAs mixedLayout ∧
    ofDocument ⟨mixedLayout, true⟩ = .ok mixedFile := by
  have hquoted : ∀ t, (Node.text t).IsQuoted t := fun t => ⟨{}, rfl, rfl⟩
  have hword : ∀ t, (Node.text t).IsWord t := fun t => ⟨{}, false, rfl, rfl⟩
  have hplain : ∀ t, (Node.scalar {} t true).IsWord t := fun t => ⟨{}, true, rfl, rfl⟩
  have hfirst : Signature.IsLaidOutAs ⟨"int", []⟩
      (.sequence {} [.text "int", .sequence {} []]) :=
    .inr ⟨_, _, rfl, rfl, .cons (hquoted _) (.cons ⟨_, _, rfl, rfl, .nil⟩ .nil)⟩
  have hsecond : Signature.IsLaidOutAs ⟨"void", ["long"]⟩
      (.mapping {} [(.text "params", .sequence {} [.text "long"]),
        (.text "returns", .text "void")]) :=
    .inl ⟨_, _, _, rfl, rfl, .swap _ _ _, .entry (hword _) (hquoted _)
      (.entry (hword _) ⟨_, _, rfl, rfl, .cons (hquoted _) .nil⟩ .nil)⟩
  have hlast : FunctionRule.IsLaidOutAs (.instantiate "int") (.mapping {} [
      (.text "args", .text "int"), (.text "kind", .scalar {} "instantiate" true)]) :=
    .inl ⟨_, _, _, rfl, rfl, .swap _ _ _,
      .entry (hword _) (hplain _) (.entry (hword _) (hquoted _) .nil)⟩
  have haddress : FunctionRule.IsLaidOutAs .address (.sequence {} [.text "address"]) :=
    .inr ⟨_, _, rfl, rfl, .cons (hword _) .nil⟩
  have hlaid : mixedFile.IsLaidOutAs mixedLayout := by
    refine ⟨{}, _, [_, _], [_], rfl, rfl, List.reverse_perm [_, _, _],
      .lack rfl (.lack rfl (.entry (hword _) ?functions (.entry (hplain _) ?patterns
        (.lack rfl .nil)))), ?unknown⟩
    case functions =>
      exact ⟨{}, _, [("g", .instantiate "int"), ("f", .address)], rfl, rfl, .swap _ _ _,
        .cons ⟨hquoted _, hlast⟩ (.cons ⟨hquoted _, haddress⟩ .nil)⟩
    case patterns =>
      refine ⟨{}, _, rfl, rfl, .cons ⟨{}, _, _, [], rfl, rfl, .swap _ _ _, .entry (hword _)
        (hquoted _) (.entry (hword _) ?rule .nil), by simp⟩ .nil⟩
      exact .inr ⟨{}, _, rfl, rfl, .cons (hword _)
        (.cons ⟨{}, _, rfl, rfl, .cons hfirst (.cons hsecond .nil)⟩ .nil)⟩
    case unknown =>
      exact List.forall_mem_singleton.2 ⟨⟨{}, "note", false, rfl, by decide⟩, by decide⟩
  exact ⟨hlaid, ofDocument_eq hlaid⟩

end RuleFile

end SymbolProbe
