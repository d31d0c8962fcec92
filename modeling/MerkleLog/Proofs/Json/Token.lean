import MerkleLog.Json.Printer
import MerkleLog.Json.Token
import MerkleLog.Proofs.Text.Numeral

/-!
# Scanning what was written

A text is scanned piece by piece: a blank, a punctuation character, a word that is followed by one
of them, or a quoted text at its front adds its own token, and the rest is scanned on.
-/

namespace MerkleLog.Json

namespace Token

variable {d : Dialect} {tokens : List Token} {c : Char} {cs rest : List Char} {ns : List Nat}

/-- The tokens of a text that follows some tokens, which are given last first. -/
def scanFrom (d : Dialect) (tokens : List Token) (cs : List Char) : List Token :=
  (cs.foldl (Scanner.step d) ⟨.between, tokens⟩).finish d

/-- Whether a text may follow a word: its first character, if there is one, ends the word. -/
def EndsWord (cs : List Char) : Prop :=
  ∀ c ∈ cs.head?, Scanner.endsWord c = true

lemma scanFrom_nil (tokens : List Token) : scanFrom d tokens [] = tokens.reverse := rfl

/-! ## Blanks, punctuation and words -/

lemma scanFrom_space (hc : isSpace c = true) :
    scanFrom d tokens (c :: cs) = scanFrom d tokens cs := by
  rw [scanFrom, List.foldl_cons, Scanner.step, Scanner.start, if_pos hc, scanFrom]

lemma scanFrom_spaces (hspaces : ∀ c ∈ cs, isSpace c = true) :
    scanFrom d tokens (cs ++ rest) = scanFrom d tokens rest := by
  induction cs with
  | nil => rfl
  | cons c cs ih =>
    rw [List.cons_append, scanFrom_space (hspaces c List.mem_cons_self),
      ih fun c hc => hspaces c (List.mem_cons_of_mem _ hc)]

lemma punctuation?_cases {t : Token} (hc : punctuation? c = some t) :
    c = '[' ∨ c = ']' ∨ c = '\x7b' ∨ c = '\x7d' ∨ c = ',' ∨ c = ':' := by
  unfold punctuation? at hc
  split at hc <;> simp_all

lemma scanFrom_punctuation {t : Token} (hc : punctuation? c = some t) :
    scanFrom d tokens (c :: cs) = scanFrom d (t :: tokens) cs := by
  have hother : isSpace c = false ∧ c ≠ '"' := by
    rcases punctuation?_cases hc with rfl | rfl | rfl | rfl | rfl | rfl <;> decide
  rw [scanFrom, List.foldl_cons, Scanner.step, Scanner.start, hother.1, if_neg (by simp),
    if_neg hother.2, hc, scanFrom]

lemma step_word (chars : List Char) (c : Char) :
    Scanner.step d ⟨.word chars, tokens⟩ c
      = if Scanner.endsWord c then Scanner.start (ofWord d chars.reverse :: tokens) c
        else ⟨.word (c :: chars), tokens⟩ := rfl

/-- A scanner in the middle of a word goes on with the rest of it. -/
lemma finish_word {word : List Char} (hword : ∀ c ∈ word, Scanner.endsWord c = false)
    (hrest : EndsWord rest) (chars : List Char) :
    ((word ++ rest).foldl (Scanner.step d) ⟨.word chars, tokens⟩).finish d
      = scanFrom d (ofWord d (chars.reverse ++ word) :: tokens) rest := by
  induction word generalizing chars with
  | nil =>
    rw [List.nil_append, List.append_nil]
    cases rest with
    | nil => rfl
    | cons c rest =>
      have hc : Scanner.endsWord c = true := hrest c rfl
      rw [List.foldl_cons, step_word, if_pos hc]
      rfl
  | cons c word ih =>
    have hc := hword c List.mem_cons_self
    rw [List.cons_append, List.foldl_cons, step_word, hc, if_neg (by simp),
      ih fun c hc => hword c (List.mem_cons_of_mem _ hc), List.reverse_cons, List.append_assoc,
      List.singleton_append]

lemma scanFrom_word {word : List Char} (hne : word ≠ [])
    (hword : ∀ c ∈ word, Scanner.endsWord c = false) (hrest : EndsWord rest) :
    scanFrom d tokens (word ++ rest) = scanFrom d (ofWord d word :: tokens) rest := by
  -- the first character starts the word, since it is no blank, no quote and no punctuation
  obtain ⟨c, word, rfl⟩ := List.exists_cons_of_ne_nil hne
  have hc := hword c List.mem_cons_self
  simp only [Scanner.endsWord, Bool.or_eq_false_iff, beq_eq_false_iff_ne,
    Option.isSome_eq_false_iff, Option.isNone_iff_eq_none] at hc
  obtain ⟨⟨hspace, hquote⟩, hpunctuation⟩ := hc
  have hword' : ∀ c ∈ word, Scanner.endsWord c = false := fun c hc =>
    hword c (List.mem_cons_of_mem _ hc)
  rw [scanFrom, List.cons_append, List.foldl_cons, Scanner.step, Scanner.start, hspace,
    if_neg (by simp), if_neg hquote, hpunctuation]
  exact finish_word hword' hrest [c]

/-! ## Quoted texts -/

/-- The pieces that a written character is read as. -/
def piecesOf (ascii : Bool) (c : Char) : List Piece :=
  if (shortEscape? c).isNone && (c.toNat < 0x20 || (ascii && 0x7f ≤ c.toNat)) then
    (units c).map .unit
  else [.char c]

lemma escaped?_shortEscape? {e : Char} (he : shortEscape? c = some e) :
    e ≠ 'u' ∧ escaped? e = some c := by
  unfold shortEscape? at he
  split at he
  case h_8 => cases he
  all_goals
    obtain rfl := Option.some.inj he
    exact ⟨by decide, rfl⟩

lemma hexValue?_digitChar : ∀ n < 16, Bytes.hexValue? (Nat.digitChar n) = some n := by decide

/-- The four digits of an escape are read as the unit that they were written for. -/
lemma foldl_hex4 {n : Nat} (hn : n < 0x10000) (pieces : List Piece) :
    ('\\' :: 'u' :: hex4 n ++ rest).foldl (Scanner.step d) ⟨.quoted pieces, tokens⟩
      = rest.foldl (Scanner.step d) ⟨.quoted (.unit n :: pieces), tokens⟩ := by
  have hdigit : ∀ k, Bytes.hexValue? (Nat.digitChar (k % 16)) = some (k % 16) := fun k =>
    hexValue?_digitChar _ (Nat.mod_lt _ (by decide))
  have hunit : 16 * (16 * (16 * (n / 4096 % 16) + n / 256 % 16) + n / 16 % 16) + n % 16 = n := by
    omega
  simp only [hex4, List.cons_append, List.nil_append, List.foldl_cons, Scanner.step, hdigit]
  simp [hunit]

lemma foldl_units (hunits : ∀ n ∈ ns, n < 0x10000) (pieces : List Piece) :
    (ns.flatMap (fun n => '\\' :: 'u' :: hex4 n) ++ rest).foldl (Scanner.step d)
        ⟨.quoted pieces, tokens⟩
      = rest.foldl (Scanner.step d) ⟨.quoted ((ns.map .unit).reverse ++ pieces), tokens⟩ := by
  induction ns generalizing pieces with
  | nil => rfl
  | cons n ns ih =>
    rw [List.flatMap_cons, List.append_assoc, foldl_hex4 (hunits n List.mem_cons_self),
      ih fun m hm => hunits m (List.mem_cons_of_mem _ hm)]
    simp

lemma toNat_valid (c : Char) :
    c.toNat < 0xd800 ∨ (0xdfff < c.toNat ∧ c.toNat < 0x110000) := c.valid

lemma units_lt (c : Char) : ∀ n ∈ units c, n < 0x10000 := by
  have hc := toNat_valid c
  unfold units
  split <;> simp <;> omega

/-- A written character adds its pieces to a quoted text. -/
lemma foldl_quotedChar (ascii : Bool) (c : Char) (pieces : List Piece) :
    (quotedChar ascii c ++ rest).foldl (Scanner.step d) ⟨.quoted pieces, tokens⟩
      = rest.foldl (Scanner.step d) ⟨.quoted ((piecesOf ascii c).reverse ++ pieces), tokens⟩ := by
  rw [quotedChar, piecesOf]
  cases hshort : shortEscape? c with
  | some e =>
    obtain ⟨hu, hescaped⟩ := escaped?_shortEscape? hshort
    simp [Scanner.step, hu, hescaped]
  | none =>
    have hquote : c ≠ '"' := by rintro rfl; cases hshort
    have hslash : c ≠ '\\' := by rintro rfl; cases hshort
    rw [Option.isNone_none, Bool.true_and]
    dsimp only
    by_cases hescape : (decide (c.toNat < 0x20) || (ascii && decide (0x7f ≤ c.toNat))) = true
    · rw [if_pos hescape, if_pos hescape]
      exact foldl_units (units_lt c) pieces
    · have hlow : ¬c.toNat < 0x20 := fun hlow => hescape (by simp [hlow])
      rw [if_neg hescape, if_neg hescape]
      simp [Scanner.step, hquote, hslash, hlow]

/-- A unit that is no half of a surrogate pair is a character. -/
lemma join?_unit {n : Nat} {pieces : List Piece} (hhigh : isHigh n = false)
    (hlow : isLow n = false) :
    join? d (.unit n :: pieces) = (join? d pieces).map (Char.ofNat n :: ·) := by
  rw [join?.eq_def]
  split
  · simp_all
  · simp_all
  · simp_all
  · simp_all

/-- Pieces that were written for characters stand for them. -/
lemma join?_piecesOf (ascii : Bool) (c : Char) (pieces : List Piece) :
    join? d (piecesOf ascii c ++ pieces) = (join? d pieces).map (c :: ·) := by
  rw [piecesOf]
  split
  case isFalse => rfl
  case isTrue =>
    have hc := toNat_valid c
    rw [units]
    split
    case isTrue hone =>
      have hhigh : isHigh c.toNat = false := by simp [isHigh]; omega
      have hlow : isLow c.toNat = false := by simp [isLow]; omega
      rw [List.map_singleton, List.singleton_append, join?_unit hhigh hlow, Char.ofNat_toNat]
    case isFalse htwo =>
      -- a character beyond the first plane is written as a surrogate pair
      have hhigh : isHigh (0xd800 + (c.toNat - 0x10000) / 0x400) = true := by simp [isHigh]; omega
      have hlow : isLow (0xdc00 + (c.toNat - 0x10000) % 0x400) = true := by simp [isLow]; omega
      have hpair : 0x10000 + (0xd800 + (c.toNat - 0x10000) / 0x400 - 0xd800) * 0x400
          + (0xdc00 + (c.toNat - 0x10000) % 0x400 - 0xdc00) = c.toNat := by omega
      simp only [List.map_cons, List.map_nil, List.cons_append, List.nil_append, join?, hhigh, hlow,
        Bool.and_self, if_true, hpair, Char.ofNat_toNat]

lemma join?_flatMap_piecesOf (ascii : Bool) (cs : List Char) :
    join? d (cs.flatMap (piecesOf ascii)) = some cs := by
  induction cs with
  | nil => rfl
  | cons c cs ih => rw [List.flatMap_cons, join?_piecesOf, ih, Option.map_some]

lemma foldl_quotedChars (ascii : Bool) (cs : List Char) (pieces : List Piece) :
    (cs.flatMap (quotedChar ascii) ++ rest).foldl (Scanner.step d) ⟨.quoted pieces, tokens⟩
      = rest.foldl (Scanner.step d)
          ⟨.quoted ((cs.flatMap (piecesOf ascii)).reverse ++ pieces), tokens⟩ := by
  induction cs generalizing pieces with
  | nil => rfl
  | cons c cs ih =>
    rw [List.flatMap_cons, List.append_assoc, foldl_quotedChar, ih, List.flatMap_cons,
      List.reverse_append, List.append_assoc]

/-- A text in quotes is one token. -/
lemma scanFrom_quoted (ascii : Bool) (s : String) :
    scanFrom d tokens (quoted ascii s ++ rest) = scanFrom d (.str s :: tokens) rest := by
  have hopen : Scanner.step d ⟨.between, tokens⟩ '"' = ⟨.quoted [], tokens⟩ := by
    simp [Scanner.step, Scanner.start, isSpace]
  have hclose : Scanner.step d
      ⟨.quoted ((s.toList.flatMap (piecesOf ascii)).reverse ++ []), tokens⟩ '"'
        = ⟨.between, .str s :: tokens⟩ := by
    simp [Scanner.step, join?_flatMap_piecesOf]
  rw [scanFrom, quoted, List.cons_append, List.cons_append, List.foldl_cons, hopen,
    List.append_assoc,
    foldl_quotedChars, List.singleton_append, List.foldl_cons, hclose, scanFrom]

/-! ## Integers -/

lemma spanDigits_of_all (hcs : ∀ c ∈ cs, Text.isAsciiDigit c = true) :
    spanDigits cs = (cs, []) := by
  rw [spanDigits, Text.span_isAsciiDigit hcs]

lemma whole?_toDigits (m : Nat) : whole? (Nat.toDigits 10 m) = some (Nat.toDigits 10 m, []) := by
  have hdigits : ∀ c ∈ Nat.toDigits 10 m, Text.isAsciiDigit c = true :=
    fun c hc => Text.isAsciiDigit_toDigits hc
  obtain ⟨c, cs, hcs⟩ := List.exists_cons_of_ne_nil (Nat.toDigits_ne_nil (b := 10) (n := m))
  by_cases hc : c = '0'
  · subst hc
    obtain rfl := Text.eq_nil_of_toDigits hcs
    rw [hcs]
    rfl
  · rw [hcs] at hdigits ⊢
    rw [whole?.eq_def]
    split
    · rename_i heq
      exact absurd (List.cons.inj heq).1 hc
    · rw [spanDigits_of_all hdigits]
      rfl

lemma number_toDigits {m : Nat} (hm : m < 10 ^ Text.maxDigits) (negative : Bool) :
    number d negative (Nat.toDigits 10 m) = .int (if negative then -(m : Int) else m) := by
  have hlength : (Nat.toDigits 10 m).length ≤ Text.maxDigits :=
    (Nat.length_toDigits_le_iff (by decide) (by decide)).2 hm
  rw [number, whole?_toDigits]
  simp only [fraction?, exponent?, Option.getD_none, List.isEmpty_nil, Option.isNone_none,
    Bool.and_self, if_true, Bool.not_true, Bool.false_eq_true, if_false, Text.valueOf_toDigits,
    if_neg hlength.not_gt]

lemma ofWord_digit (hc : Text.isAsciiDigit c = true) :
    ofWord d (c :: cs) = number d false (c :: cs) := by
  unfold ofWord
  split <;> simp_all [Text.isAsciiDigit, Text.asciiDigit?]

lemma ofWord_minus (hc : Text.isAsciiDigit c = true) :
    ofWord d ('-' :: c :: cs) = number d true (c :: cs) := by
  unfold ofWord
  split <;> simp_all [Text.isAsciiDigit, Text.asciiDigit?]

/-- The digits of an integer that may be written are read as the integer. -/
lemma ofWord_integer {n : Int} (hn : Text.isWritable n = true) :
    ofWord d (Number.integer n) = .int n := by
  rw [Text.isWritable, decide_eq_true_eq] at hn
  obtain ⟨c, cs, hcs⟩ := List.exists_cons_of_ne_nil (Nat.toDigits_ne_nil (b := 10) (n := n.natAbs))
  have hc : Text.isAsciiDigit c = true :=
    Text.isAsciiDigit_toDigits (m := n.natAbs) (by rw [hcs]; exact List.mem_cons_self)
  rw [Number.integer, Number.signed, hcs]
  by_cases hneg : n < 0
  · rw [decide_eq_true hneg, if_pos rfl, ofWord_minus hc, ← hcs, number_toDigits hn, if_pos rfl]
    congr 1
    omega
  · rw [decide_eq_false hneg, if_neg (by simp), ofWord_digit hc, ← hcs, number_toDigits hn,
      if_neg (by simp)]
    congr 1
    omega

lemma integer_ne_nil (n : Int) : Number.integer n ≠ [] := by
  rw [Number.integer, Number.signed]
  split
  · exact List.cons_ne_nil _ _
  · exact Nat.toDigits_ne_nil

lemma endsWord_digit (hc : Text.isAsciiDigit c = true) : Scanner.endsWord c = false := by
  rw [← Bool.not_eq_true]
  intro hends
  simp only [Scanner.endsWord, isSpace, Bool.or_eq_true, beq_iff_eq,
    Option.isSome_iff_exists] at hends
  rcases hends with ((((rfl | rfl) | rfl) | rfl) | rfl) | ⟨t, ht⟩
  case inr =>
    rcases punctuation?_cases ht with rfl | rfl | rfl | rfl | rfl | rfl <;> cases hc
  all_goals cases hc

lemma endsWord_integer (n : Int) : ∀ c ∈ Number.integer n, Scanner.endsWord c = false := by
  have hdigits : ∀ c ∈ Nat.toDigits 10 n.natAbs, Scanner.endsWord c = false :=
    fun c hc => endsWord_digit (Text.isAsciiDigit_toDigits hc)
  rw [Number.integer, Number.signed]
  split
  · rw [List.forall_mem_cons]
    exact ⟨by decide, hdigits⟩
  · exact hdigits

end Token

end MerkleLog.Json
