import MerkleLog.Proofs.Json.Canonical

/-!
# Line ends in written texts

Carriage returns are escaped in both written forms of a value, so that a text is not changed when
its line ends are read as line feeds.
-/

namespace MerkleLog.Json

variable {v : Json} {items : List Json} {members : List (String × Json)}

/-! ## Texts and integers -/

lemma digitChar_ne_return : ∀ n < 16, Nat.digitChar n ≠ '\r' := by decide

lemma return_not_mem_hex4 (n : Nat) : '\r' ∉ hex4 n := by
  have hdigit : ∀ m, '\r' ≠ Nat.digitChar (m % 16) := fun m =>
    (digitChar_ne_return (m % 16) (Nat.mod_lt m (by decide))).symm
  simp [hex4, hdigit]

lemma return_not_mem_quotedChar (ascii : Bool) (c : Char) : '\r' ∉ quotedChar ascii c := by
  rw [quotedChar]
  cases hshort : shortEscape? c with
  | some e =>
    have he : e ≠ '\r' := by
      rintro rfl
      unfold shortEscape? at hshort
      split at hshort <;> simp at hshort
    simp [he.symm]
  | none =>
    dsimp only
    split
    · rw [List.mem_flatMap]
      rintro ⟨n, -, hn⟩
      simp [return_not_mem_hex4 n] at hn
    · -- a carriage return has a short escape
      rw [List.mem_singleton]
      rintro rfl
      cases hshort

lemma return_not_mem_quoted (ascii : Bool) (s : String) : '\r' ∉ quoted ascii s := by
  have hchars : '\r' ∉ s.toList.flatMap (quotedChar ascii) := by
    rw [List.mem_flatMap]
    rintro ⟨c, -, hc⟩
    exact return_not_mem_quotedChar ascii c hc
  simp [quoted, hchars]

lemma return_not_mem_integer (n : Int) : '\r' ∉ Number.integer n := by
  have hdigits : '\r' ∉ Nat.toDigits 10 n.natAbs := Text.not_mem_toDigits (by decide) _
  rw [Number.integer, Number.signed]
  split
  · simp [hdigits]
  · exact hdigits

/-! ## The indented form -/

lemma return_not_mem_newline (level : Nat) : '\r' ∉ newline level := by
  simp [newline, List.mem_replicate]

lemma return_not_mem_indentedItems (level : Nat)
    (hitems : ∀ v ∈ items, ∀ level, '\r' ∉ indentedAt level v) :
    '\r' ∉ indentedItems level items := by
  induction items with
  | nil => exact List.not_mem_nil
  | cons item items ih =>
    rw [List.forall_mem_cons] at hitems
    simp [indentedItems, return_not_mem_newline, hitems.1 level, ih hitems.2]

lemma return_not_mem_indentedMembers (level : Nat)
    (hmembers : ∀ m ∈ members, ∀ level, '\r' ∉ indentedAt level m.2) :
    '\r' ∉ indentedMembers level members := by
  induction members with
  | nil => exact List.not_mem_nil
  | cons m members ih =>
    rw [List.forall_mem_cons] at hmembers
    simp [indentedMembers, return_not_mem_newline, return_not_mem_quoted, hmembers.1 level,
      ih hmembers.2]

lemma Whole.return_not_mem_indentedAt (hv : Whole v) (level : Nat) :
    '\r' ∉ indentedAt level v := by
  induction hv generalizing level with
  | null => simp [indentedAt]
  | bool b => cases b <;> simp [indentedAt]
  | int n =>
    rw [indentedAt]
    exact return_not_mem_integer n
  | str s =>
    rw [indentedAt]
    exact return_not_mem_quoted true s
  | @arr items _ ih =>
    cases items with
    | nil => simp [indentedAt]
    | cons item items =>
      rw [List.forall_mem_cons] at ih
      simp [indentedAt, return_not_mem_newline, ih.1 (level + 1),
        return_not_mem_indentedItems (level + 1) ih.2]
  | @obj members _ ih =>
    cases members with
    | nil => simp [indentedAt]
    | cons m members =>
      rw [List.forall_mem_cons] at ih
      simp [indentedAt, return_not_mem_newline, return_not_mem_quoted, ih.1 (level + 1),
        return_not_mem_indentedMembers (level + 1) ih.2]

/-- The indented form of a value without real numbers holds no carriage return. -/
lemma Whole.return_not_mem_indented (hv : Whole v) : '\r' ∉ v.indented.toList := by
  rw [indented, String.toList_ofList]
  exact hv.return_not_mem_indentedAt 0

/-! ## The canonical form -/

end MerkleLog.Json
