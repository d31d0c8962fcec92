import MerkleLog.Proofs.Json.Writable
import MerkleLog.Schema.Check

/-!
# Checks that succeed

A check of several fields succeeds if the check of every field does.  Here each way of joining
checks is taken apart.
-/

namespace MerkleLog

variable {α β : Type}

namespace Checked

variable {x : Checked α} {y : Checked β} {a : α} {b : β} {check : Json → Checked α}
  {values : List Json} {as : List α}

lemma both_eq_ok : x.both y = .ok (a, b) ↔ x = .ok a ∧ y = .ok b := by
  cases x <;> cases y <;> simp [both]

lemma under_eq_ok {step : Step} : x.under step = .ok a ↔ x = .ok a := by
  cases x <;> simp [under]

/-- The items of a list are checked one by one. -/
lemma items_cons_eq_ok {position : Nat} {v : Json} :
    items check position (v :: values) = .ok as ↔
      ∃ b bs, check v = .ok b ∧ items check (position + 1) values = .ok bs ∧ as = b :: bs := by
  rw [items]
  split
  · rename_i b bs hall
    obtain ⟨hb, hbs⟩ := both_eq_ok.1 hall
    rw [under_eq_ok] at hb
    rw [hb, hbs]
    simp [eq_comm]
  · rename_i faults hall
    simp only [reduceCtorEq, false_iff]
    rintro ⟨b, bs, hb, hbs, -⟩
    rw [both_eq_ok.2 ⟨under_eq_ok.2 hb, hbs⟩] at hall
    cases hall

/-- Every item that passes comes from a value. -/
lemma exists_of_mem_items {position : Nat} (hitems : items check position values = .ok as)
    (ha : a ∈ as) : ∃ v ∈ values, check v = .ok a := by
  induction values generalizing position as with
  | nil =>
    obtain rfl := Except.ok.inj hitems
    cases ha
  | cons v values ih =>
    obtain ⟨b, bs, hb, hbs, rfl⟩ := items_cons_eq_ok.1 hitems
    rcases List.mem_cons.1 ha with rfl | ha
    · exact ⟨v, List.mem_cons_self, hb⟩
    · obtain ⟨w, hw, hcheck⟩ := ih hbs ha
      exact ⟨w, List.mem_cons_of_mem _ hw, hcheck⟩

/-- Values that are written for items pass as the items. -/
lemma items_map {write : α → Json} (hcheck : ∀ a, check (write a) = .ok a) (position : Nat)
    (as : List α) : items check position (as.map write) = .ok as := by
  induction as generalizing position with
  | nil => rfl
  | cons a as ih => exact items_cons_eq_ok.2 ⟨a, as, hcheck a, ih (position + 1), rfl⟩

end Checked

namespace Schema

variable {name : String} {check : Json → Checked α} {v : Json} {a : α} {n : Int} {source : Source}

lemma required_eq_ok :
    required name check v = .ok a ↔ ∃ w, v.member? name = some w ∧ check w = .ok a := by
  rw [required]
  cases v.member? name with
  | none => simp
  | some w => simp [Checked.under_eq_ok]

lemma optional_eq_ok {default : α} :
    optional name default check v = .ok a ↔
      (∃ w, v.member? name = some w ∧ check w = .ok a) ∨
        (v.member? name = none ∧ default = a) := by
  rw [optional]
  cases v.member? name with
  | none => simp
  | some w => simp [Checked.under_eq_ok]

lemma list_eq_ok {as : List α} :
    list source check v = .ok as ↔
      ∃ items, v = .arr items ∧ Checked.items check 0 items = .ok as := by
  cases v <;> simp [list, Checked.fail]

lemma record_eq_ok {record : String} :
    Schema.record source record check v = .ok a ↔
      (∃ members, v = .obj members) ∧ check v = .ok a := by
  cases v <;> simp [Schema.record, Checked.fail]

/-- A real number stands for integers of less than eight bytes only. -/
lemma natAbs_of_integrality {r : Json.Real} (hr : r.integrality = .integer n) :
    n.natAbs < 2 ^ 63 := by
  rw [Json.Real.integrality] at hr
  split at hr
  · split at hr
    · cases hr
    · split at hr
      · rename_i hlt
        obtain rfl := Json.Real.Integrality.integer.inj hr
        split <;> simpa using hlt
      · cases hr
  · cases hr

/-- Every integer that a value stands for may be written, if those of the value may. -/
lemma isWritable_of_integer (hv : v.Writable) (hn : integer v = .ok n) :
    Text.isWritable n = true := by
  cases v with
  | int m =>
    cases hv with
    | int hm =>
      obtain rfl := Except.ok.inj hn
      exact hm
  | bool b =>
    obtain rfl := Except.ok.inj hn
    cases b <;> exact Text.isWritable_of_le (by decide)
  | real r =>
    rw [integer] at hn
    split at hn
    · rename_i m hm
      obtain rfl := Except.ok.inj hn
      exact Text.isWritable_of_le ((natAbs_of_integrality hm).le.trans (by decide))
    all_goals cases hn
  | str s =>
    rw [integer] at hn
    split at hn
    · rename_i m hread
      obtain rfl := Except.ok.inj hn
      exact Text.Numeral.isWritable_of_read hread
    · cases hn
    · cases hn
  | _ => cases hn

end Schema

end MerkleLog
