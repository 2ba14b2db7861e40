import SymbolProbe.Proofs.FaultyRecords
import SymbolProbe.Proofs.LayoutReading

/-!
# Repeated names of rules

In a table of a rule file a name may be repeated, and the later rule is in the table
(`Reading.table_eq_of_repeatsName`). The rest of the file is read as before
(`RuleFile.ofNode_eq_of_repeatsRule`): to change one entry of a record is to change the form of that
entry.
-/

namespace SymbolProbe

open Yaml
open Yaml.Node

namespace Yaml

/-! ### Records with one entry changed -/

/-- A form that is kept, unless it is that of a name. There, what is written may be another node. -/
structure FieldForm.Changes (name : String) (x x' : Node) (form form' : FieldForm) : Prop where
  name_eq : form'.name = form.name
  written : form.name = name → form.isWritten x → form'.isWritten x'
  same : form.name ≠ name → form' = form

variable {name : String} {x x' : Node} {forms forms' : List FieldForm}

lemma eq_of_changes (h : List.Forall₂ (FieldForm.Changes name x x') forms forms')
    (hname : name ∉ forms.map FieldForm.name) : forms' = forms := by
  induction h with
  | nil => rfl
  | cons h _ ih =>
    rw [List.map_cons, List.mem_cons, not_or] at hname
    rw [h.same (Ne.symm hname.1), ih hname.2]

lemma map_name_of_changes (h : List.Forall₂ (FieldForm.Changes name x x') forms forms') :
    forms'.map FieldForm.name = forms.map FieldForm.name := by
  induction h with
  | nil => rfl
  | cons h _ ih => rw [List.map_cons, List.map_cons, h.name_eq, ih]

/-- What is written in the entry of a name may be changed together with the form of that name. -/
lemma WritesFields.change {k : Node} (hk : k.IsWord name)
    (hforms : List.Forall₂ (FieldForm.Changes name x x') forms forms')
    (hnodup : (forms.map FieldForm.name).Nodup) {es₁ es₂ : List (Node × Node)}
    (h : WritesFields forms (es₁ ++ (k, x) :: es₂)) :
    WritesFields forms' (es₁ ++ (k, x') :: es₂) := by
  induction hforms generalizing es₁ with
  | nil =>
    obtain ⟨_, hmem, -⟩ := h.exists_of_mem (e := (k, x)) (by simp)
    cases hmem
  | @cons form form' forms forms' hform hrest ih =>
    obtain ⟨hnew, hnodup⟩ := List.nodup_cons.1 hnodup
    -- The name is that of the first form only if no other entry has it.
    have hlater : ∀ {es₁}, WritesFields forms (es₁ ++ (k, x) :: es₂) → form.name ≠ name := by
      rintro es₁ hes rfl
      obtain ⟨g, hg, hname, -⟩ := hes.exists_of_mem (e := (k, x)) (by simp)
      exact hnew (List.mem_map.2 ⟨g, hg, hname.unique hk⟩)
    generalize hes : es₁ ++ (k, x) :: es₂ = es at h
    cases h with
    | lack hlack hs =>
      subst hes
      rw [hform.same (hlater hs)]
      exact .lack hlack (ih hnodup hs)
    | entry hk' hx hs =>
      cases es₁ with
      | nil =>
        obtain ⟨hentry, rfl⟩ := List.cons.inj hes
        obtain ⟨rfl, rfl⟩ := Prod.mk.inj hentry
        have hname : form.name = name := hk'.unique hk
        rw [eq_of_changes hrest (hname ▸ hnew)]
        exact .entry (hform.name_eq ▸ hk') (hform.written hname hx) hs
      | cons e es₁ =>
        obtain ⟨rfl, rfl⟩ := List.cons.inj hes
        rw [hform.same (hlater hs)]
        exact .entry hk' hx (ih hnodup hs)

lemma Node.IsRecord.change {changes : Node → Node → Prop} {y y' : Node} (h : y.IsRecord forms)
    (hchanges : ChangesEntry name changes y y')
    (hforms : ∀ x x', changes x x' → List.Forall₂ (FieldForm.Changes name x x') forms forms')
    (hnodup : (forms.map FieldForm.name).Nodup) (hname : name ∈ forms.map FieldForm.name) :
    y'.IsRecord forms' := by
  cases hchanges with
  | @intro p es₁ es₂ k x x' hk hx =>
    obtain ⟨_, es, known, unknown, heq, hp, hperm, hknown, hunknown⟩ := h
    obtain ⟨rfl, rfl⟩ := Node.mapping.inj heq
    have hmem : (k, x) ∈ known := by
      obtain hmem | hmem := List.mem_append.1 (hperm.mem_iff.1 (by simp : (k, x) ∈ _))
      · exact hmem
      · obtain ⟨⟨q, t, isPlain, hkey, hne⟩, -⟩ := hunknown _ hmem
        obtain ⟨form, hform, rfl⟩ := List.mem_map.1 hname
        obtain ⟨_, _, hword, -⟩ := hk
        exact absurd (Node.scalar.inj (hword.symm.trans hkey)).2.1 (hne form hform)
    obtain ⟨known₁, known₂, rfl⟩ := List.append_of_mem hmem
    refine ⟨p, _, known₁ ++ (k, x') :: known₂, unknown, rfl, hp, ?_,
      hknown.change hk (hforms x x' hx) hnodup, ?_⟩
    · rw [List.append_assoc, List.cons_append] at hperm ⊢
      have hrest : (es₁ ++ es₂).Perm (known₁ ++ (known₂ ++ unknown)) :=
        (List.perm_cons (k, x)).1 (List.perm_middle.symm.trans (hperm.trans List.perm_middle))
      exact List.perm_middle.trans ((hrest.cons _).trans List.perm_middle.symm)
    · intro e he
      obtain ⟨⟨q, t, isPlain, hkey, hne⟩, hwhole⟩ := hunknown e he
      refine ⟨⟨q, t, isPlain, hkey, fun form hform => ?_⟩, hwhole⟩
      have hmem : form.name ∈ forms.map FieldForm.name :=
        map_name_of_changes (hforms x x' hx) ▸ List.mem_map.2 ⟨form, hform, rfl⟩
      obtain ⟨form', hform', heq⟩ := List.mem_map.1 hmem
      exact heq ▸ hne form' hform'

end Yaml

/-! ### Repeated names -/

namespace Table

variable {α : Type} {es₁ es₂ : List (String × α)} {n : String}

lemma find?_ofList_append (es₁ es₂ : List (String × α)) (m : String) :
    (ofList (es₁ ++ es₂)).find? m =
      ((es₂.reverse.find? fun e => e.1 == m).map Prod.snd).or ((ofList es₁).find? m) := by
  rw [ofList, List.foldl_append, find?_foldl_insert]
  rfl

lemma find?_ofList_middle (es₁ es₂ : List (String × α)) (n m : String) (a : α) :
    (ofList (es₁ ++ (n, a) :: es₂)).find? m =
      ((es₂.reverse.find? fun e => e.1 == m).map Prod.snd).or
        (if m = n then some a else (ofList es₁).find? m) := by
  rw [ofList, List.foldl_append, List.foldl_cons, find?_foldl_insert, find?_insert]
  rfl

/-- A name that is repeated behind its entry gets another one. -/
lemma find?_ofList_behind (hnodup : ((es₁ ++ es₂).map Prod.fst).Nodup)
    (hn : n ∈ es₁.map Prod.fst) (a : α) (m : String) :
    (ofList (es₁ ++ (n, a) :: es₂)).find? m =
      if m = n then some a else (ofList (es₁ ++ es₂)).find? m := by
  rw [find?_ofList_middle, find?_ofList_append]
  by_cases hm : m = n
  · have hnone : es₂.reverse.find? (fun e => e.1 == n) = none := by
      rw [List.map_append, List.nodup_append] at hnodup
      refine List.find?_eq_none.2 fun e he heq => ?_
      have hmem : e.1 ∈ es₂.map Prod.fst := List.mem_map.2 ⟨e, List.mem_reverse.1 he, rfl⟩
      exact hnodup.2.2 n hn e.1 hmem (by simpa using Eq.symm (beq_iff_eq.1 heq))
    rw [if_pos hm, if_pos hm, hm, hnone]
    rfl
  · rw [if_neg hm, if_neg hm]

/-- A name that is repeated in front of its entry keeps that. -/
lemma ofList_ahead (hn : n ∈ es₂.map Prod.fst) (a : α) :
    ofList (es₁ ++ (n, a) :: es₂) = ofList (es₁ ++ es₂) := by
  refine ext_find? fun m => ?_
  rw [find?_ofList_middle, find?_ofList_append]
  by_cases hm : m = n
  · obtain ⟨e, he, rfl⟩ := List.mem_map.1 hn
    have hsome : (es₂.reverse.find? fun d => d.1 == e.1).isSome = true :=
      List.find?_isSome.2 ⟨e, List.mem_reverse.2 he, by simp⟩
    obtain ⟨d, hd⟩ := Option.isSome_iff_exists.1 hsome
    rw [hm, hd]
    rfl
  · rw [if_neg hm]

lemma nodup_names (t : Table α) : (t.entries.map Prod.fst).Nodup := by
  refine List.pairwise_map.2 (t.ascend.imp ?_)
  intro d e hlt heq
  exact String.lt_irrefl e.1 (heq ▸ hlt)

end Table

lemma Yaml.Node.IsQuoted.unique {x : Node} {t u : String} (ht : x.IsQuoted t)
    (hu : x.IsQuoted u) : t = u := by
  obtain ⟨_, rfl, -⟩ := ht
  obtain ⟨_, hx, -⟩ := hu
  exact (Node.scalar.inj hx).2.1

namespace Yaml.Reading

variable {α : Type} {read : Node → Reading α} {write : α → Node → Prop} {x x' : Node}

/-- Of two entries of one name the later one is in the table. -/
lemma table_eq_of_repeatsName (hread : ∀ a x, write a x → read x = pure a) {t t' : Table α}
    (hx : x.IsTableOf write t) (h : RepeatsName write t t' x x') : table read x' = pure t' := by
  obtain ⟨p, es, named, rfl, -, hperm, hes⟩ := hx
  have ht : Table.ofList named = t := Table.ofList_eq_of_perm hperm
  have hnodup : (named.map Prod.fst).Nodup := (hperm.map Prod.fst).nodup_iff.2 t.nodup_names
  have hname : ∀ {es named k y n},
      List.Forall₂ (fun e a => IsQuoted a.1 e.1 ∧ write a.2 e.2) es named → (k, y) ∈ es →
        k.IsQuoted n → n ∈ named.map Prod.fst := by
    intro es named k y n hes hmem hk
    obtain ⟨a, ha, hkey, -⟩ := exists_mem_of_forall₂ hes hmem
    exact List.mem_map.2 ⟨a, ha, hkey.unique hk⟩
  cases h with
  | behind hmem hk hk' hy' ht' =>
    obtain ⟨named₁, named₂, rfl, h₁, h₂⟩ := exists_append_of_forall₂ hes.flip
    rw [table_eq_ofList hread (List.rel_append h₁.flip (.cons (a := (_, _)) ⟨hk', hy'⟩ h₂.flip))]
    congr 1
    refine Table.ext_find? fun m => ?_
    rw [Table.find?_ofList_behind hnodup (hname h₁ hmem hk), ht, ht']
  | ahead hmem hk hk' hy' =>
    obtain ⟨named₁, named₂, rfl, h₁, h₂⟩ := exists_append_of_forall₂ hes.flip
    rw [table_eq_ofList hread (List.rel_append h₁.flip (.cons (a := (_, _)) ⟨hk', hy'⟩ h₂.flip)),
      Table.ofList_ahead (hname h₂ hmem hk), ht]

end Yaml.Reading

namespace RuleFile

lemma forms_names (f : RuleFile) : f.forms.map FieldForm.name =
    ["classes", "templates", "functions", "patterns", "template_defaults"] := rfl

lemma changes_same {name : String} {y y' : Node} {form : FieldForm} (h : form.name ≠ name) :
    FieldForm.Changes name y y' form form :=
  ⟨rfl, fun heq => absurd heq h, fun _ => rfl⟩

/-- A file in which the name of a rule is repeated is read with the later rule. -/
lemma ofNode_eq_of_repeatsRule {f g : RuleFile} {x x' : Node} (h : f.IsLaidOutAs x)
    (hrepeats : f.RepeatsRule g x x') : ofNode x' = pure g := by
  have hnodup : (f.forms.map FieldForm.name).Nodup := by
    rw [forms_names]
    decide
  have hclass : ∀ r y, ClassRule.IsLaidOutAs r y → ClassRule.ofNode y = pure r := fun _ _ =>
    ClassRule.ofNode_eq
  have htemplate : ∀ r y, TemplateRule.IsLaidOutAs r y → TemplateRule.ofNode y = pure r :=
    fun _ _ => TemplateRule.ofNode_eq
  have hfunction : ∀ r y, FunctionRule.IsLaidOutAs r y →
      FunctionRule.ofNode (documentDepth - 3) y = pure r := fun _ _ =>
    FunctionRule.ofNode_eq (documentDepth - 6)
  -- The table that changes may be written as anything that is read as the new table.
  cases hrepeats with
  | @classes t _ _ hchanges =>
    have hrecord : x'.IsRecord (formsWith { f with classes := t }
        (fun y => Reading.table ClassRule.ofNode y = pure t)
        (IsTableOf TemplateRule.IsLaidOutAs f.templates)
        (IsTableOf FunctionRule.IsLaidOutAs f.functions)) := by
      refine Node.IsRecord.change h hchanges (fun y y' hy => ?_) hnodup (by simp)
      have hwritten (hx : IsTableOf ClassRule.IsLaidOutAs f.classes y) :
          Reading.table ClassRule.ofNode y' = pure t :=
        Reading.table_eq_of_repeatsName hclass hx hy
      exact .cons ⟨rfl, fun _ => hwritten, fun hne => absurd rfl hne⟩
        (.cons (changes_same (by simp)) (.cons (changes_same (by simp))
          (.cons (changes_same (by simp)) (.cons (changes_same (by simp)) .nil))))
    exact ofNode_eq_of_tables (fun _ => id) (fun _ => Reading.table_eq htemplate)
      (fun _ => Reading.table_eq hfunction) hrecord
  | @templates t _ _ hchanges =>
    have hrecord : x'.IsRecord (formsWith { f with templates := t }
        (IsTableOf ClassRule.IsLaidOutAs f.classes)
        (fun y => Reading.table TemplateRule.ofNode y = pure t)
        (IsTableOf FunctionRule.IsLaidOutAs f.functions)) := by
      refine Node.IsRecord.change h hchanges (fun y y' hy => ?_) hnodup (by simp)
      have hwritten (hx : IsTableOf TemplateRule.IsLaidOutAs f.templates y) :
          Reading.table TemplateRule.ofNode y' = pure t :=
        Reading.table_eq_of_repeatsName htemplate hx hy
      exact .cons (changes_same (by simp))
        (.cons ⟨rfl, fun _ => hwritten, fun hne => absurd rfl hne⟩
          (.cons (changes_same (by simp)) (.cons (changes_same (by simp))
            (.cons (changes_same (by simp)) .nil))))
    exact ofNode_eq_of_tables (fun _ => Reading.table_eq hclass) (fun _ => id)
      (fun _ => Reading.table_eq hfunction) hrecord
  | @functions t _ _ hchanges =>
    have hrecord : x'.IsRecord (formsWith { f with functions := t }
        (IsTableOf ClassRule.IsLaidOutAs f.classes)
        (IsTableOf TemplateRule.IsLaidOutAs f.templates)
        (fun y => Reading.table (FunctionRule.ofNode (documentDepth - 3)) y = pure t)) := by
      refine Node.IsRecord.change h hchanges (fun y y' hy => ?_) hnodup (by simp)
      have hwritten (hx : IsTableOf FunctionRule.IsLaidOutAs f.functions y) :
          Reading.table (FunctionRule.ofNode (documentDepth - 3)) y' = pure t :=
        Reading.table_eq_of_repeatsName hfunction hx hy
      exact .cons (changes_same (by simp)) (.cons (changes_same (by simp))
        (.cons ⟨rfl, fun _ => hwritten, fun hne => absurd rfl hne⟩ (.cons (changes_same (by simp))
          (.cons (changes_same (by simp)) .nil))))
    exact ofNode_eq_of_tables (fun _ => Reading.table_eq hclass)
      (fun _ => Reading.table_eq htemplate) (fun _ => id) hrecord

end RuleFile

end SymbolProbe
