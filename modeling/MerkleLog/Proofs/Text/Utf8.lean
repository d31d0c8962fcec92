import Mathlib.Data.String.Basic
import MerkleLog.Proofs.Outcome
import MerkleLog.Text.Utf8

/-!
# Texts and their bytes

The bytes of a text are read as the text, and all other bytes are refused.  What is known of a
character that has begun is fixed by the bytes that were read of it; so a character is read from the
bytes that it is written in, and from no others.  Before the bytes that a fault tells of there
stands a text.
-/

namespace MerkleLog

open String (utf8EncodeChar)

/-- The bytes of a text are those of its characters. -/
lemma Bytes.utf8_eq (s : String) : utf8 s = s.toList.flatMap utf8EncodeChar := by
  have hlist (cs : List Char) : utf8 (String.ofList cs) = cs.flatMap utf8EncodeChar :=
    List.toList_data_toByteArray
  rw [← hlist, String.ofList_toList]

namespace Utf8

variable {b : UInt8} {bs seen : Bytes} {c : Char} {n r v missing low high place : Nat}
  {q : Begun} {step : Step} {f : Fault}

/-! ## The bytes of a character -/

lemma encode_eq (c : Char) :
    utf8EncodeChar c =
      if c.toNat ≤ 0x7f then [.ofNat c.toNat]
      else if c.toNat ≤ 0x7ff then [.ofNat (c.toNat / 64 % 32 + 0xc0), .ofNat (c.toNat % 64 + 0x80)]
      else if c.toNat ≤ 0xffff then
        [.ofNat (c.toNat / 4096 % 16 + 0xe0), .ofNat (c.toNat / 64 % 64 + 0x80),
          .ofNat (c.toNat % 64 + 0x80)]
      else
        [.ofNat (c.toNat / 262144 % 8 + 0xf0), .ofNat (c.toNat / 4096 % 64 + 0x80),
          .ofNat (c.toNat / 64 % 64 + 0x80), .ofNat (c.toNat % 64 + 0x80)] := rfl

lemma toNat_lt (c : Char) : c.toNat < 0x110000 := by
  rcases c.valid with hc | ⟨-, hc⟩
  · exact Nat.lt_trans hc (by decide)
  · exact hc

lemma encode_one (hc : c.toNat < 0x80) : utf8EncodeChar c = [.ofNat c.toNat] := by
  rw [encode_eq, if_pos (by omega)]

lemma encode_two (hlow : 0x80 ≤ c.toNat) (hhigh : c.toNat < 0x800) :
    utf8EncodeChar c = [.ofNat (c.toNat / 64 + 0xc0), .ofNat (c.toNat % 64 + 0x80)] := by
  have hlead : c.toNat / 64 % 32 = c.toNat / 64 := by omega
  rw [encode_eq, if_neg (by omega), if_pos (by omega), hlead]

lemma encode_three (hlow : 0x800 ≤ c.toNat) (hhigh : c.toNat < 0x10000) :
    utf8EncodeChar c = [.ofNat (c.toNat / 4096 + 0xe0), .ofNat (c.toNat / 64 % 64 + 0x80),
      .ofNat (c.toNat % 64 + 0x80)] := by
  have hlead : c.toNat / 4096 % 16 = c.toNat / 4096 := by omega
  rw [encode_eq, if_neg (by omega), if_neg (by omega), if_pos (by omega), hlead]

lemma encode_four (hlow : 0x10000 ≤ c.toNat) :
    utf8EncodeChar c = [.ofNat (c.toNat / 262144 + 0xf0), .ofNat (c.toNat / 4096 % 64 + 0x80),
      .ofNat (c.toNat / 64 % 64 + 0x80), .ofNat (c.toNat % 64 + 0x80)] := by
  have hmax := toNat_lt c
  have hlead : c.toNat / 262144 % 8 = c.toNat / 262144 := by omega
  rw [encode_eq, if_neg (by omega), if_neg (by omega), if_neg (by omega), hlead]

/-! ## Reading a character -/

lemma toNat_ofNat (hn : n < 256) : (UInt8.ofNat n).toNat = n :=
  UInt8.toNat_ofNat_of_lt hn

lemma first?_one (hv : v < 0x80) : first? (.ofNat v) = some (.done (.ofNat v)) := by
  rw [first?, toNat_ofNat (by omega)]
  exact if_pos hv

lemma first?_two (hlow : 2 ≤ v) (hhigh : v < 32) :
    first? (.ofNat (v + 0xc0)) = some (.begun ⟨[.ofNat (v + 0xc0)], v, 1, 0x80, 0xbf⟩) := by
  rw [first?, toNat_ofNat (by omega)]
  dsimp only
  rw [if_neg (by omega), if_neg (by omega), if_pos (by omega), Nat.add_sub_cancel]

lemma first?_three (hv : v < 16) :
    first? (.ofNat (v + 0xe0)) = some (.begun ⟨[.ofNat (v + 0xe0)], v, 2,
      if v = 0 then 0xa0 else 0x80, if v = 13 then 0x9f else 0xbf⟩) := by
  rw [first?, toNat_ofNat (by omega)]
  dsimp only
  rw [if_neg (by omega), if_neg (by omega), if_neg (by omega), if_pos (by omega),
    Nat.add_sub_cancel]
  have hlow : v + 0xe0 = 0xe0 ↔ v = 0 := by omega
  have hhigh : v + 0xe0 = 0xed ↔ v = 13 := by omega
  simp only [hlow, hhigh]

lemma first?_four (hv : v < 5) :
    first? (.ofNat (v + 0xf0)) = some (.begun ⟨[.ofNat (v + 0xf0)], v, 3,
      if v = 0 then 0x90 else 0x80, if v = 4 then 0x8f else 0xbf⟩) := by
  rw [first?, toNat_ofNat (by omega)]
  dsimp only
  rw [if_neg (by omega), if_neg (by omega), if_neg (by omega), if_neg (by omega),
    if_pos (by omega), Nat.add_sub_cancel]
  have hlow : v + 0xf0 = 0xf0 ↔ v = 0 := by omega
  have hhigh : v + 0xf0 = 0xf4 ↔ v = 4 := by omega
  simp only [hlow, hhigh]

lemma next?_done (hr : r < 64) (hlow : low ≤ r + 0x80) (hhigh : r + 0x80 ≤ high)
    (hc : 64 * v + r = c.toNat) :
    Begun.next? ⟨seen, v, 1, low, high⟩ (.ofNat (r + 0x80)) = some (.done c) := by
  rw [Begun.next?, toNat_ofNat (by omega)]
  dsimp only
  rw [if_pos ⟨hlow, hhigh⟩, if_pos rfl, Nat.add_sub_cancel, hc, Char.ofNat_toNat]

lemma next?_begun (hr : r < 64) (hlow : low ≤ r + 0x80) (hhigh : r + 0x80 ≤ high)
    (hmissing : missing ≠ 1) :
    Begun.next? ⟨seen, v, missing, low, high⟩ (.ofNat (r + 0x80)) = some (.begun
      ⟨seen ++ [.ofNat (r + 0x80)], 64 * v + r, missing - 1, 0x80, 0xbf⟩) := by
  rw [Begun.next?, toNat_ofNat (by omega)]
  dsimp only
  rw [if_pos ⟨hlow, hhigh⟩, if_neg hmissing, Nat.add_sub_cancel]

/-- The bytes of a character are read as the character. -/
lemma decodeFrom_encode (c : Char) (place : Nat) (rest : Bytes) :
    decodeFrom place none (utf8EncodeChar c ++ rest)
      = (decodeFrom (place + (utf8EncodeChar c).length) none rest).map (c :: ·) := by
  have hmax := toNat_lt c
  have hvalid : c.toNat < 0xd800 ∨ 0xdfff < c.toNat := c.valid.imp_right And.left
  by_cases hone : c.toNat < 0x80
  · rw [encode_one hone, List.singleton_append, decodeFrom, first?_one hone, Char.ofNat_toNat]
    rfl
  by_cases htwo : c.toNat < 0x800
  · rw [encode_two (Nat.not_lt.1 hone) htwo]
    simp only [List.cons_append, List.nil_append]
    rw [decodeFrom, first?_two (by omega) (by omega)]
    dsimp only
    rw [decodeFrom, next?_done (c := c) (by omega) (by omega) (by omega) (by omega)]
    rfl
  by_cases hthree : c.toNat < 0x10000
  · rw [encode_three (Nat.not_lt.1 htwo) hthree]
    simp only [List.cons_append, List.nil_append]
    rw [decodeFrom, first?_three (by omega)]
    dsimp only
    rw [decodeFrom, next?_begun (by omega) (by split <;> omega) (by split <;> omega) (by omega)]
    dsimp only
    rw [decodeFrom, next?_done (c := c) (by omega) (by omega) (by omega) (by omega)]
    rfl
  · rw [encode_four (Nat.not_lt.1 hthree)]
    simp only [List.cons_append, List.nil_append]
    rw [decodeFrom, first?_four (by omega)]
    dsimp only
    rw [decodeFrom, next?_begun (by omega) (by split <;> omega) (by split <;> omega) (by omega)]
    dsimp only
    rw [decodeFrom, next?_begun (by omega) (by omega) (by omega) (by omega)]
    dsimp only
    rw [decodeFrom, next?_done (c := c) (by omega) (by omega) (by omega) (by omega)]
    rfl

lemma decodeFrom_flatMap (cs : List Char) (place : Nat) :
    decodeFrom place none (cs.flatMap utf8EncodeChar) = .ok cs := by
  induction cs generalizing place with
  | nil => rfl
  | cons c cs ih =>
    rw [List.flatMap_cons, decodeFrom_encode, ih]
    rfl

/-! ## What is known of a character that has begun -/

/-- The states that the first bytes of characters lead to. -/
inductive Begun.Valid : Begun → Prop
  | two {v : Nat} (hlow : 2 ≤ v) (hhigh : v < 32) : Valid ⟨[.ofNat (v + 0xc0)], v, 1, 0x80, 0xbf⟩
  | three {v : Nat} (hv : v < 16) :
    Valid ⟨[.ofNat (v + 0xe0)], v, 2, if v = 0 then 0xa0 else 0x80, if v = 13 then 0x9f else 0xbf⟩
  | threeLast {v : Nat} (hlow : 0x20 ≤ v) (hhigh : v < 0x400) (hv : v < 0x360 ∨ 0x380 ≤ v) :
    Valid ⟨[.ofNat (v / 64 + 0xe0), .ofNat (v % 64 + 0x80)], v, 1, 0x80, 0xbf⟩
  | four {v : Nat} (hv : v < 5) :
    Valid ⟨[.ofNat (v + 0xf0)], v, 3, if v = 0 then 0x90 else 0x80, if v = 4 then 0x8f else 0xbf⟩
  | fourMiddle {v : Nat} (hlow : 0x10 ≤ v) (hhigh : v < 0x110) :
    Valid ⟨[.ofNat (v / 64 + 0xf0), .ofNat (v % 64 + 0x80)], v, 2, 0x80, 0xbf⟩
  | fourLast {v : Nat} (hlow : 0x400 ≤ v) (hhigh : v < 0x4400) :
    Valid ⟨[.ofNat (v / 4096 + 0xf0), .ofNat (v / 64 % 64 + 0x80), .ofNat (v % 64 + 0x80)], v, 1,
      0x80, 0xbf⟩

/-- What a byte leads to comes of the bytes seen: they are those of the character, or of a character
that has begun. -/
def Step.Follows (seen : Bytes) : Step → Prop
  | .done c => utf8EncodeChar c = seen
  | .begun q => q.Valid ∧ q.seen = seen

lemma toNat_charOfNat (hn : n < 0xd800 ∨ 0xdfff < n ∧ n < 0x110000) :
    (Char.ofNat n).toNat = n := by
  have haux : Char.ofNat n = Char.ofNatAux n hn := dif_pos hn
  rw [haux]
  rfl

lemma first?_none (hn : n < 256) (hlead : 0x80 ≤ n ∧ n < 0xc2 ∨ 0xf5 ≤ n) :
    first? (.ofNat n) = none := by
  rw [first?, toNat_ofNat hn]
  dsimp only
  rw [if_neg (by omega)]
  by_cases hlow : n < 0xc2
  · rw [if_pos hlow]
  · rw [if_neg hlow, if_neg (by omega), if_neg (by omega), if_neg (by omega)]

lemma follows_of_first? (hstep : first? b = some step) : step.Follows [b] := by
  obtain ⟨n, hn, rfl⟩ : ∃ n < 256, b = .ofNat n := ⟨b.toNat, b.toNat_lt, UInt8.ofNat_toNat.symm⟩
  by_cases hone : n < 0x80
  · have hc := toNat_charOfNat (n := n) (by omega)
    rw [first?_one hone] at hstep
    obtain rfl := Option.some.inj hstep
    rw [Step.Follows, encode_one (by omega), hc]
  by_cases hnone : n < 0xc2 ∨ 0xf5 ≤ n
  · rw [first?_none hn (by omega)] at hstep
    cases hstep
  by_cases htwo : n < 0xe0
  · obtain ⟨v, rfl⟩ := Nat.exists_eq_add_of_le' (show 0xc0 ≤ n by omega)
    rw [first?_two (by omega) (by omega)] at hstep
    obtain rfl := Option.some.inj hstep
    exact ⟨.two (by omega) (by omega), rfl⟩
  by_cases hthree : n < 0xf0
  · obtain ⟨v, rfl⟩ := Nat.exists_eq_add_of_le' (Nat.not_lt.1 htwo)
    rw [first?_three (by omega)] at hstep
    obtain rfl := Option.some.inj hstep
    exact ⟨.three (by omega), rfl⟩
  · obtain ⟨v, rfl⟩ := Nat.exists_eq_add_of_le' (Nat.not_lt.1 hthree)
    rw [first?_four (by omega)] at hstep
    obtain rfl := Option.some.inj hstep
    exact ⟨.four (by omega), rfl⟩

/-- A character goes on with a byte of six bits. -/
lemma Begun.Valid.exists_of_next? (hq : q.Valid) (hstep : q.next? b = some step) :
    ∃ r < 64, b = .ofNat (r + 0x80) ∧ q.low ≤ r + 0x80 ∧ r + 0x80 ≤ q.high := by
  have hrange : 0x80 ≤ q.low ∧ q.high ≤ 0xbf := by
    cases hq with
    | three | four => dsimp only; split_ifs <;> decide
    | two | threeLast | fourMiddle | fourLast => exact ⟨Nat.le_refl _, Nat.le_refl _⟩
  rw [next?] at hstep
  dsimp only at hstep
  split at hstep
  · rename_i hb
    obtain ⟨r, hr⟩ := Nat.exists_eq_add_of_le' (hrange.1.trans hb.1)
    rw [hr] at hb
    refine ⟨r, by omega, ?_, hb⟩
    rw [← hr, UInt8.ofNat_toNat]
  · cases hstep

lemma Begun.Valid.follows_of_next? (hq : q.Valid) (hstep : q.next? b = some step) :
    step.Follows (q.seen ++ [b]) := by
  obtain ⟨r, hr, rfl, hlow, hhigh⟩ := hq.exists_of_next? hstep
  have hvalue (v : Nat) : (64 * v + r) / 64 = v ∧ (64 * v + r) % 64 = r := by omega
  cases hq with
  | @two v hmin hmax =>
    have hc := toNat_charOfNat (n := 64 * v + r) (by omega)
    rw [next?_done hr hlow hhigh hc.symm] at hstep
    obtain rfl := Option.some.inj hstep
    rw [Step.Follows, encode_two (by omega) (by omega), hc, (hvalue v).1, (hvalue v).2]
    rfl
  | @three v hv =>
    rw [next?_begun hr hlow hhigh (by decide)] at hstep
    obtain rfl := Option.some.inj hstep
    dsimp only at hlow hhigh
    have hvalid := Begun.Valid.threeLast (v := 64 * v + r) (by split at hlow <;> omega) (by omega)
      (by split at hhigh <;> omega)
    rw [(hvalue v).1, (hvalue v).2] at hvalid
    exact ⟨hvalid, rfl⟩
  | @threeLast v hmin hmax hv =>
    have hc := toNat_charOfNat (n := 64 * v + r) (by omega)
    rw [next?_done hr hlow hhigh hc.symm] at hstep
    obtain rfl := Option.some.inj hstep
    have hlead : (64 * v + r) / 4096 = v / 64 := by omega
    rw [Step.Follows, encode_three (by omega) (by omega), hc, hlead, (hvalue v).1, (hvalue v).2]
    rfl
  | @four v hv =>
    rw [next?_begun hr hlow hhigh (by decide)] at hstep
    obtain rfl := Option.some.inj hstep
    dsimp only at hlow hhigh
    have hvalid := Begun.Valid.fourMiddle (v := 64 * v + r) (by split at hlow <;> omega)
      (by split at hhigh <;> omega)
    rw [(hvalue v).1, (hvalue v).2] at hvalid
    exact ⟨hvalid, rfl⟩
  | @fourMiddle v hmin hmax =>
    rw [next?_begun hr hlow hhigh (by decide)] at hstep
    obtain rfl := Option.some.inj hstep
    have hvalid := Begun.Valid.fourLast (v := 64 * v + r) (by omega) (by omega)
    have hlead : (64 * v + r) / 4096 = v / 64 := by omega
    rw [hlead, (hvalue v).1, (hvalue v).2] at hvalid
    exact ⟨hvalid, rfl⟩
  | @fourLast v hmin hmax =>
    have hc := toNat_charOfNat (n := 64 * v + r) (by omega)
    rw [next?_done hr hlow hhigh hc.symm] at hstep
    obtain rfl := Option.some.inj hstep
    have hlead : (64 * v + r) / 262144 = v / 4096 := by omega
    have hmiddle : (64 * v + r) / 4096 % 64 = v / 64 % 64 := by omega
    rw [Step.Follows, encode_four (by omega), hc, hlead, hmiddle, (hvalue v).1, (hvalue v).2]
    rfl

/-! ## Reading a text -/

/-- The bytes read of the character that has begun. -/
def seenOf : Option Begun → Bytes
  | none => []
  | some q => q.seen

/-- What is read of the bytes from a place on is the text that they are.  A fault stands behind a
text. -/
def Tells (place : Nat) (bs : Bytes) : Except Fault (List Char) → Prop
  | .ok cs => bs = cs.flatMap utf8EncodeChar
  | .error f => ∃ (cs : List Char) (rest : Bytes),
    bs = cs.flatMap utf8EncodeChar ++ f.bytes ++ rest ∧
      f.place = place + (cs.flatMap utf8EncodeChar).length

lemma Tells.cons {outcome : Except Fault (List Char)}
    (hrest : Tells (place + seen.length) bs outcome) (hc : utf8EncodeChar c = seen) :
    Tells place (seen ++ bs) (outcome.map (c :: ·)) := by
  subst hc
  cases outcome with
  | ok cs =>
    obtain rfl : bs = cs.flatMap utf8EncodeChar := hrest
    exact List.flatMap_cons.symm
  | error f =>
    obtain ⟨cs, rest, rfl, hplace⟩ := hrest
    refine ⟨c :: cs, rest, ?_, ?_⟩
    · simp only [List.flatMap_cons, List.append_assoc]
    · rw [hplace, List.flatMap_cons, List.length_append, Nat.add_assoc]

lemma tells_decodeFrom (begun : Option Begun) (hbegun : ∀ q ∈ begun, q.Valid) (bs : Bytes)
    (place : Nat) : Tells place (seenOf begun ++ bs) (decodeFrom place begun bs) := by
  induction bs generalizing begun place with
  | nil =>
    cases begun with
    | none => exact rfl
    | some q => exact ⟨[], [], rfl, rfl⟩
  | cons b bs ih =>
    have hempty : ∀ q ∈ (none : Option Begun), q.Valid := nofun
    cases begun with
    | none =>
      rw [decodeFrom]
      cases hstep : first? b with
      | none => exact ⟨[], bs, rfl, rfl⟩
      | some step =>
        have hfollows := follows_of_first? hstep
        cases step with
        | done c =>
          have hcons : Tells place ([b] ++ bs) _ := Tells.cons (ih none hempty (place + 1)) hfollows
          exact hcons
        | begun q =>
          obtain ⟨hq, hseen⟩ := hfollows
          have hrest := ih (some q) (by rintro _ ⟨⟩; exact hq) place
          rwa [seenOf, hseen] at hrest
    | some q =>
      have hq := hbegun q rfl
      rw [decodeFrom]
      cases hstep : q.next? b with
      | none => exact ⟨[], b :: bs, rfl, rfl⟩
      | some step =>
        have hfollows := hq.follows_of_next? hstep
        have hsplit : seenOf (some q) ++ b :: bs = (q.seen ++ [b]) ++ bs := by
          rw [List.append_assoc]
          rfl
        rw [hsplit]
        cases step with
        | done c =>
          refine Tells.cons ?_ hfollows
          rw [List.length_append, ← Nat.add_assoc]
          exact ih none hempty _
        | begun next =>
          obtain ⟨hnext, hseen⟩ := hfollows
          have hrest := ih (some next) (by rintro _ ⟨⟩; exact hnext) place
          rwa [seenOf, hseen] at hrest

/-- The bytes of a text are read as the text. -/
lemma decode_utf8 (s : String) : decode (Bytes.utf8 s) = .ok s := by
  rw [decode, Bytes.utf8_eq, decodeFrom_flatMap]
  exact congrArg Except.ok String.ofList_toList

/-- Only the bytes of a text are read as the text. -/
lemma decode_eq_ok {s : String} : decode bs = .ok s ↔ bs = Bytes.utf8 s := by
  constructor
  · intro hbs
    have htells := tells_decodeFrom none nofun bs 0
    cases hread : decodeFrom 0 none bs with
    | error f =>
      rw [decode, hread] at hbs
      cases hbs
    | ok cs =>
      rw [decode, hread] at hbs
      rw [hread] at htells
      obtain rfl : String.ofList cs = s := Except.ok.inj hbs
      rw [Bytes.utf8_eq, String.toList_ofList]
      exact htells
  · rintro rfl
    exact decode_utf8 s

/-- A fault tells of bytes that stand behind a text, and of their place. -/
lemma of_decode_eq_error (hbs : decode bs = .error f) :
    ∃ s rest, bs = Bytes.utf8 s ++ f.bytes ++ rest ∧ f.place = (Bytes.utf8 s).length := by
  have htells := tells_decodeFrom none nofun bs 0
  cases hread : decodeFrom 0 none bs with
  | ok cs =>
    rw [decode, hread] at hbs
    cases hbs
  | error fault =>
    rw [decode, hread] at hbs
    rw [hread] at htells
    obtain rfl : fault = f := Except.error.inj hbs
    obtain ⟨cs, rest, hsplit, hplace⟩ := htells
    refine ⟨String.ofList cs, rest, ?_, ?_⟩
    · rw [Bytes.utf8_eq, String.toList_ofList]
      exact hsplit
    · rw [Bytes.utf8_eq, String.toList_ofList, hplace, Nat.zero_add]

end Utf8

end MerkleLog
