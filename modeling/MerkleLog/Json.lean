/-!
# JSON values

Integers are kept apart from numbers that are written with a fraction or an exponent, and are not
bounded.  The members of an object have different names.
-/

namespace MerkleLog

/-- A number written with a fraction or an exponent, or one of the three that are not finite. -/
inductive Json.Real where
  /-- The number `mantissa * 10 ^ exponent`, or its opposite. -/
  | finite (negative : Bool) (mantissa : Nat) (exponent : Int)
  | infinite (negative : Bool)
  | notANumber
deriving DecidableEq

/-- A JSON value. -/
inductive Json where
  | null
  | bool (b : Bool)
  | int (n : Int)
  | real (r : Json.Real)
  | str (s : String)
  | arr (items : List Json)
  | obj (members : List (String × Json))

namespace Json

/-! ## Equality -/

mutual

/-- Whether two values are equal. -/
def decEq : (v w : Json) → Decidable (v = w)
  | null, null => isTrue rfl
  | bool a, bool b => decidable_of_iff (a = b) (by simp)
  | int a, int b => decidable_of_iff (a = b) (by simp)
  | real a, real b => decidable_of_iff (a = b) (by simp)
  | str a, str b => decidable_of_iff (a = b) (by simp)
  | arr as, arr bs => @decidable_of_iff _ (as = bs) (by simp) (decEqItems as bs)
  | obj as, obj bs => @decidable_of_iff _ (as = bs) (by simp) (decEqMembers as bs)
  | null, bool _ | null, int _ | null, real _ | null, str _ | null, arr _ | null, obj _ =>
    isFalse nofun
  | bool _, null | bool _, int _ | bool _, real _ | bool _, str _ | bool _, arr _
  | bool _, obj _ => isFalse nofun
  | int _, null | int _, bool _ | int _, real _ | int _, str _ | int _, arr _ | int _, obj _ =>
    isFalse nofun
  | real _, null | real _, bool _ | real _, int _ | real _, str _ | real _, arr _
  | real _, obj _ => isFalse nofun
  | str _, null | str _, bool _ | str _, int _ | str _, real _ | str _, arr _ | str _, obj _ =>
    isFalse nofun
  | arr _, null | arr _, bool _ | arr _, int _ | arr _, real _ | arr _, str _ | arr _, obj _ =>
    isFalse nofun
  | obj _, null | obj _, bool _ | obj _, int _ | obj _, real _ | obj _, str _ | obj _, arr _ =>
    isFalse nofun

/-- Whether two lists of items are equal. -/
def decEqItems : (as bs : List Json) → Decidable (as = bs)
  | [], [] => isTrue rfl
  | [], _ :: _ => isFalse nofun
  | _ :: _, [] => isFalse nofun
  | a :: as, b :: bs =>
    @decidable_of_iff _ (a = b ∧ as = bs) (by simp)
      (@instDecidableAnd _ _ (decEq a b) (decEqItems as bs))

/-- Whether two lists of members are equal. -/
def decEqMembers : (as bs : List (String × Json)) → Decidable (as = bs)
  | [], [] => isTrue rfl
  | [], _ :: _ => isFalse nofun
  | _ :: _, [] => isFalse nofun
  | (n, a) :: as, (m, b) :: bs =>
    @decidable_of_iff _ ((n = m ∧ a = b) ∧ as = bs) (by simp)
      (@instDecidableAnd _ _ (@instDecidableAnd _ _ _ (decEq a b)) (decEqMembers as bs))

end

instance : DecidableEq Json := decEq

/-! ## Members -/

/-- Set a member of an object, in place of an earlier one of the same name. -/
def setMember (name : String) (value : Json) : List (String × Json) → List (String × Json)
  | [] => [(name, value)]
  | (n, v) :: rest =>
    if n = name then (name, value) :: rest else (n, v) :: setMember name value rest

/-- The member of an object with a name; nothing in other values. -/
def member? (name : String) : Json → Option Json
  | obj members => members.lookup name
  | _ => none

end Json

end MerkleLog
