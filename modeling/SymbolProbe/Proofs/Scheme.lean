import Mathlib.Tactic.Lemma
import SymbolProbe.Symbol.Basic
import SymbolProbe.Text.Affix

/-!
# Texts with holes

A scheme is a text in which the namespace is left open: pieces of text with holes between them. A
text that is made from a namespace is uniform if one scheme gives it for all namespaces
(`IsUniform`). Uniform texts are put together from fixed texts and qualified names, so in their
schemes `::` stands behind every hole and nowhere else.
-/

namespace SymbolProbe

/-! ### Schemes -/

/-- A piece of a text in which the namespace is left open. -/
inductive Piece
  /-- A fixed text. -/
  | text (t : String)
  /-- The place of the namespace. -/
  | hole
deriving DecidableEq, Repr

/-- A piece with the namespace filled in. -/
def Piece.fill (scope : String) : Piece → String
  | .text t => t
  | .hole => scope

/-- A text in which the namespace is left open. -/
abbrev Scheme := List Piece

/-- A fixed text without `::`. -/
def IsUnqualified (t : String) : Prop := Text.occursIn [':', ':'] t.toList = false

instance (t : String) : Decidable (IsUnqualified t) := inferInstanceAs (Decidable (_ = _))

namespace Scheme

/-- The text for a namespace: every hole is filled with it. -/
def fill (s : Scheme) (scope : String) : String := String.join (s.map (Piece.fill scope))

/-- A scheme whose holes are the qualifiers: `::` follows every hole, and stands nowhere else. -/
inductive Qualifies : Scheme → Prop
  | nil : Qualifies []
  | text {t : String} {s : Scheme} (ht : IsUnqualified t) (hs : Qualifies s) :
      Qualifies (.text t :: s)
  | hole {s : Scheme} (hs : Qualifies s) : Qualifies (.hole :: .text "::" :: s)

lemma Qualifies.append {s t : Scheme} (hs : s.Qualifies) (ht : t.Qualifies) :
    Scheme.Qualifies (s ++ t) := by
  induction hs with
  | nil => exact ht
  | text h _ ih => exact .text h ih
  | hole _ ih => exact .hole ih

lemma fill_text_cons (t : String) (s : Scheme) (scope : String) :
    fill (.text t :: s) scope = t ++ s.fill scope := by
  simp [fill, Piece.fill, String.join_cons]

lemma fill_append (s t : Scheme) (scope : String) :
    fill (s ++ t) scope = s.fill scope ++ t.fill scope := by
  simp [fill, String.join_append]

end Scheme

/-! ### Uniform texts -/

/-- One scheme gives the text for every namespace. -/
def IsUniform (f : String → String) : Prop :=
  ∃ s : Scheme, s.Qualifies ∧ ∀ scope, f scope = s.fill scope

/-- One list of schemes gives the texts for every namespace. -/
def AreUniform (f : String → List String) : Prop :=
  ∃ ss : List Scheme, (∀ s ∈ ss, s.Qualifies) ∧ ∀ scope, f scope = ss.map (·.fill scope)

namespace IsUniform

lemma const {t : String} (h : IsUnqualified t) : IsUniform fun _ => t :=
  ⟨[.text t], .text h .nil, fun scope => by simp [Scheme.fill, Piece.fill, String.join]⟩

variable {f g : String → String}

lemma append (hf : IsUniform f) (hg : IsUniform g) : IsUniform fun scope => f scope ++ g scope := by
  obtain ⟨s, hs, hfill⟩ := hf
  obtain ⟨t, ht, hgill⟩ := hg
  refine ⟨s ++ t, hs.append ht, fun scope => ?_⟩
  simp only [hfill, hgill, Scheme.fill_append]

/-- A fixed text in front of a uniform one. -/
lemma append_left (h : IsUniform f) {t : String} (ht : IsUnqualified t) :
    IsUniform fun scope => t ++ f scope :=
  (const ht).append h

/-- A fixed text behind a uniform one. -/
lemma append_right (h : IsUniform f) {t : String} (ht : IsUnqualified t) :
    IsUniform fun scope => f scope ++ t :=
  h.append (const ht)

/-- A qualified name leaves a hole for its namespace. -/
lemma qualify {name : String} (h : IsUnqualified name) :
    IsUniform fun scope => qualify scope name := by
  refine ⟨[.hole, .text "::", .text name], .hole (.text h .nil), fun scope => ?_⟩
  simp [SymbolProbe.qualify, Scheme.fill, Piece.fill, String.join]

end IsUniform

/-! ### Lists of uniform texts -/

namespace AreUniform

lemma nil : AreUniform fun _ => [] := ⟨[], by simp, fun _ => rfl⟩

variable {f g : String → List String}

lemma cons {u : String → String} (hu : IsUniform u) (hf : AreUniform f) :
    AreUniform fun scope => u scope :: f scope := by
  obtain ⟨s, hs, hu⟩ := hu
  obtain ⟨ss, hss, hf⟩ := hf
  refine ⟨s :: ss, List.forall_mem_cons.2 ⟨hs, hss⟩, fun scope => ?_⟩
  simp only [hu, hf, List.map_cons]

lemma append (hf : AreUniform f) (hg : AreUniform g) :
    AreUniform fun scope => f scope ++ g scope := by
  obtain ⟨ss, hss, hf⟩ := hf
  obtain ⟨ts, hts, hg⟩ := hg
  refine ⟨ss ++ ts, ?_, fun scope => by simp only [hf, hg, List.map_append]⟩
  intro s hs
  obtain hs | hs := List.mem_append.1 hs
  · exact hss s hs
  · exact hts s hs

lemma const {ts : List String} (h : ∀ t ∈ ts, IsUnqualified t) : AreUniform fun _ => ts := by
  induction ts with
  | nil => exact nil
  | cons t ts ih => exact cons (.const (h t (by simp))) (ih fun u hu => h u (by simp [hu]))

/-- The texts that are made uniformly of uniform ones. -/
lemma map {make : String → String} (hf : AreUniform f)
    (h : ∀ u, IsUniform u → IsUniform fun scope => make (u scope)) :
    AreUniform fun scope => (f scope).map make := by
  obtain ⟨ss, hss, hf⟩ := hf
  simp only [hf]
  clear hf
  induction ss with
  | nil => exact nil
  | cons s ss ih =>
    have hs : IsUniform fun scope => make (s.fill scope) :=
      h _ ⟨s, hss s (by simp), fun _ => rfl⟩
    exact cons hs (ih fun t ht => hss t (by simp [ht]))

/-- Uniform texts for each element of a fixed list. -/
lemma flatMap {α : Type} {make : String → α → List String} {xs : List α}
    (h : ∀ x ∈ xs, AreUniform fun scope => make scope x) :
    AreUniform fun scope => xs.flatMap (make scope) := by
  induction xs with
  | nil => exact nil
  | cons x xs ih =>
    simp only [List.flatMap_cons]
    exact (h x (by simp)).append (ih fun y hy => h y (by simp [hy]))

lemma replicate {u : String → String} (hu : IsUniform u) (n : Nat) :
    AreUniform fun scope => List.replicate n (u scope) := by
  induction n with
  | zero => exact nil
  | succ n ih => exact cons hu ih

lemma join (h : AreUniform f) : IsUniform fun scope => String.join (f scope) := by
  obtain ⟨ss, hss, hf⟩ := h
  simp only [hf]
  clear hf
  induction ss with
  | nil => exact .const (by decide)
  | cons s ss ih =>
    simp only [List.map_cons, String.join_cons]
    exact IsUniform.append ⟨s, hss s (by simp), fun _ => rfl⟩ (ih fun t ht => hss t (by simp [ht]))

lemma intercalate {sep : String} (hsep : IsUnqualified sep) (h : AreUniform f) :
    IsUniform fun scope => sep.intercalate (f scope) := by
  obtain ⟨ss, hss, hf⟩ := h
  simp only [hf]
  clear hf
  induction ss with
  | nil => exact .const (by decide)
  | cons s ss ih =>
    have hs : IsUniform (s.fill ·) := ⟨s, hss s (by simp), fun _ => rfl⟩
    have hrest := ih fun t ht => hss t (by simp [ht])
    cases ss with
    | nil => simpa using hs
    | cons t ss =>
      simp only [List.map_cons, String.intercalate_cons_cons] at hrest ⊢
      exact (hs.append_right hsep).append hrest

/-- There are as many texts for every namespace. -/
lemma length_eq (h : AreUniform f) (scope scope' : String) :
    (f scope).length = (f scope').length := by
  obtain ⟨ss, -, hf⟩ := h
  rw [hf, hf, List.length_map, List.length_map]

end AreUniform

end SymbolProbe
