import Mathlib.Tactic.Lemma

/-!
# Outcomes

Steps that may fail are chained by the bind of `Except`.  The laws here take such chains apart.
-/

namespace MerkleLog

variable {ε α β : Type} {x : Except ε α} {f : α → Except ε β} {b : β} {cause : ε}

@[simp] lemma ok_bind (a : α) (f : α → Except ε β) : (Except.ok a >>= f) = f a := rfl

@[simp] lemma error_bind (cause : ε) (f : α → Except ε β) :
    (Except.error cause >>= f) = .error cause := rfl

@[simp] lemma throw_eq_error (cause : ε) : (throw cause : Except ε α) = .error cause := rfl

@[simp] lemma pure_eq_ok (a : α) : (pure a : Except ε α) = .ok a := rfl

/-- A chain succeeds if its first step does, and the rest from there. -/
lemma bind_eq_ok : x >>= f = .ok b ↔ ∃ a, x = .ok a ∧ f a = .ok b := by
  cases x with
  | error cause => simp
  | ok a => simp

/-- A chain fails if its first step does, or the rest from there. -/
lemma bind_eq_error : x >>= f = .error cause ↔
    x = .error cause ∨ ∃ a, x = .ok a ∧ f a = .error cause := by
  cases x with
  | error cause' => simp
  | ok a => simp

/-- Steps that all succeed, one for each of a list, succeed together. -/
lemma mapM_eq_ok {l : List α} {f : α → Except ε β} {g : α → β} (hf : ∀ a ∈ l, f a = .ok (g a)) :
    l.mapM f = .ok (l.map g) := by
  induction l with
  | nil => rfl
  | cons a l ih =>
    rw [List.mapM_cons, hf a List.mem_cons_self, ok_bind,
      ih fun b hb => hf b (List.mem_cons_of_mem _ hb)]
    rfl

/-- If steps succeed together, each of them does. -/
lemma exists_of_mapM_eq_ok {l : List α} {f : α → Except ε β} {bs : List β}
    (hl : l.mapM f = .ok bs) : ∀ a ∈ l, ∃ b ∈ bs, f a = .ok b := by
  induction l generalizing bs with
  | nil => exact nofun
  | cons a l ih =>
    rw [List.mapM_cons, bind_eq_ok] at hl
    obtain ⟨b, hb, hl⟩ := hl
    obtain ⟨rest, hrest, hl⟩ := bind_eq_ok.1 hl
    obtain rfl := Except.ok.inj hl
    rw [List.forall_mem_cons]
    refine ⟨⟨b, List.mem_cons_self, hb⟩, fun c hc => ?_⟩
    obtain ⟨e, he, hfe⟩ := ih hrest c hc
    exact ⟨e, List.mem_cons_of_mem _ he, hfe⟩

/-- Of several steps, the first that fails is the outcome. -/
lemma mapM_append_eq_error {before after : List α} {a : α} {f : α → Except ε β}
    (hbefore : ∀ c ∈ before, ∃ b, f c = .ok b) (ha : f a = .error cause) :
    (before ++ a :: after).mapM f = .error cause := by
  induction before with
  | nil => rw [List.nil_append, List.mapM_cons, ha, error_bind]
  | cons c before ih =>
    rw [List.forall_mem_cons] at hbefore
    obtain ⟨⟨b, hb⟩, hrest⟩ := hbefore
    rw [List.cons_append, List.mapM_cons, hb, ok_bind, ih hrest, error_bind]

/-- Steps that succeed on every element of a list, with results that lead back to it. -/
lemma exists_mapM {l : List α} {f : α → Except ε β} {g : β → α}
    (hf : ∀ a ∈ l, ∃ b, f a = .ok b ∧ g b = a) : ∃ bs, l.mapM f = .ok bs ∧ bs.map g = l := by
  induction l with
  | nil => exact ⟨[], rfl, rfl⟩
  | cons a l ih =>
    obtain ⟨b, hb, hback⟩ := hf a List.mem_cons_self
    obtain ⟨bs, hbs, hbacks⟩ := ih fun c hc => hf c (List.mem_cons_of_mem _ hc)
    refine ⟨b :: bs, ?_, by rw [List.map_cons, hback, hbacks]⟩
    rw [List.mapM_cons, hb, ok_bind, hbs]
    rfl

end MerkleLog
