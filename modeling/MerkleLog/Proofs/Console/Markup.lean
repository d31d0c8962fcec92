import Mathlib.Data.List.TakeDrop
import MerkleLog.Console.Markup
import MerkleLog.Proofs.Outcome

/-!
# Confirmations are shown

The commands confirm what they did in a green text.  If the text itself has no opening bracket, the
tags around it are the only ones, and it is shown; the closing tag is taken for text where the text
ends in a backslash.
-/

namespace MerkleLog.Console.Markup

variable {body inner cs : List Char} {c : Char} {count : Nat}
  {opened styles : List Opened} {ps : List Piece}

/-- The name of the tag that makes a text green. -/
def green : List Char := ['g', 'r', 'e', 'e', 'n']

/-- A text with a tag before and the closing tag after it. -/
def greenText (body : List Char) : List Char :=
  '[' :: (green ++ ']' :: (body ++ '[' :: '/' :: (green ++ [']'])))

/-! ## Pieces -/

/-- What stands between brackets, up to the first that closes. -/
lemma tag?_eq (hc : startsTag c = true) (hinner : inner.all (fun c => c != '[' && c != ']'))
    (rest : List Char) : tag? (c :: (inner ++ ']' :: rest)) = some (c :: inner, rest) := by
  rw [List.all_eq_true] at hinner
  have hspan : (inner ++ ']' :: rest).span (fun c => c != '[' && c != ']')
      = (inner, ']' :: rest) := by
    rw [List.span_eq_takeWhile_dropWhile, List.takeWhile_append_of_pos hinner,
      List.dropWhile_append_of_pos hinner]
    simp
  rw [tag?, if_pos hc, hspan]
  rfl

lemma tag?_green (rest : List Char) : tag? (green ++ ']' :: rest) = some (green, rest) :=
  tag?_eq (by decide) (by decide) rest

lemma tag?_slash_green : tag? ('/' :: (green ++ [']'])) = some ('/' :: green, []) :=
  tag?_eq (by decide) (by decide) []

/-- What becomes of a text from which the closing tag is left: texts, with the tag among them or
taken for one. -/
def Closing (ps : List Piece) : Prop :=
  ∃ s t u here, ps = [.text s, .text t, here, .text u] ∧
    (here = .tag ⟨'/' :: green, none⟩ ∨ ∃ s', here = .text s')

/-- The last piece is a text. -/
lemma exists_piecesIn_nil (count : Nat) : ∃ s, piecesIn count 0 [] [] = [.text s] := by
  cases count with
  | zero => exact ⟨_, rfl⟩
  | succ count => exact ⟨_, rfl⟩

/-- Up to an opening bracket, nothing is a tag. -/
lemma closing_piecesIn (hbody : '[' ∉ body) (hcount : body.length < count) (escapes : Nat)
    (text : List Char) :
    Closing (piecesIn count escapes text (body ++ '[' :: '/' :: (green ++ [']']))) := by
  obtain ⟨count, rfl⟩ := Nat.exists_eq_succ_of_ne_zero (Nat.ne_zero_of_lt hcount)
  induction body generalizing count escapes text with
  | nil =>
    obtain ⟨u, hu⟩ := exists_piecesIn_nil count
    rw [List.nil_append, piecesIn, tag?_slash_green]
    dsimp only
    rw [hu]
    refine ⟨_, _, u, _, rfl, ?_⟩
    split
    · exact Or.inr ⟨_, rfl⟩
    · exact Or.inl rfl
  | cons c body ih =>
    rw [List.mem_cons, not_or] at hbody
    rw [List.length_cons, Nat.succ_lt_succ_iff] at hcount
    obtain ⟨count, rfl⟩ := Nat.exists_eq_succ_of_ne_zero (Nat.ne_zero_of_lt hcount)
    rw [List.cons_append]
    by_cases hslash : c = '\\'
    · rw [hslash, piecesIn]
      exact ih hbody.2 _ _ _ hcount
    · rw [piecesIn]
      · exact ih hbody.2 _ _ _ hcount
      · exact hslash
      · exact fun hc => hbody.1 hc.symm

/-- A green text opens with its tag. -/
lemma pieces_greenText (hbody : '[' ∉ body) :
    ∃ s t ps, pieces (greenText body) = .text s :: .text t :: .tag ⟨green, none⟩ :: ps ∧
      Closing ps := by
  have hcount : body.length < (greenText body).length := by
    simp only [greenText, List.length_cons, List.length_append]
    omega
  have hclosing := closing_piecesIn hbody hcount 0 []
  rw [pieces]
  generalize (greenText body).length = length at hclosing ⊢
  rw [greenText, piecesIn, tag?_green]
  exact ⟨_, _, _, rfl, hclosing⟩

/-! ## What is seen -/

/-- The green tag, opened. -/
def Opened.green : Opened := ⟨"green", none⟩

lemma nameOf_green : nameOf green = .ok "green" := by decide +kernel

lemma closingName_green : closingName green = .ok (some "green") := by decide +kernel

lemma isAction_green : Opened.green.isAction = false := by decide +kernel

lemma checkStyle_green : [Opened.green].forM checkStyle = .ok () := by decide +kernel

lemma collect_text (s : List Char) (hps : collect opened ps = .ok (cs, styles)) :
    collect opened (.text s :: ps) = .ok (Emoji.replace s ++ cs, styles) := by
  rw [collect, hps]
  rfl

/-- Whether the tag is closed or stays open, its style is the only one. -/
lemma Closing.exists_collect (hps : Closing ps) :
    ∃ cs, collect [.green] ps = .ok (cs, [.green]) := by
  have hopen : collect [.green] [] = .ok ([], [.green]) := by decide +kernel
  have hclosed : collect [] [] = .ok ([], []) := by decide +kernel
  obtain ⟨s, t, u, here, rfl, rfl | ⟨s', rfl⟩⟩ := hps
  · have htag : collect [.green] [.tag ⟨'/' :: green, none⟩, .text u]
        = .ok (Emoji.replace u ++ [], [.green]) := by
      have hclose : close (some "green") [.green] = some (.green, []) := by decide +kernel
      rw [collect, closingName_green, ok_bind, hclose]
      dsimp only
      rw [collect_text u hclosed, isAction_green]
      rfl
    exact ⟨_, collect_text s (collect_text t htag)⟩
  · exact ⟨_, collect_text s (collect_text t (collect_text s' (collect_text u hopen)))⟩

/-- A green text is shown if its body has no opening bracket. -/
lemma exists_render_green (body : String) {markup : String}
    (hmarkup : markup.toList = greenText body.toList) (hbody : '[' ∉ body.toList) :
    ∃ cs, render markup = .ok cs := by
  obtain ⟨s, t, ps, hpieces, hps⟩ := pieces_greenText hbody
  obtain ⟨cs, hcs⟩ := hps.exists_collect
  have hall : collect [] (pieces markup.toList)
      = .ok (Emoji.replace s ++ (Emoji.replace t ++ cs), [.green]) := by
    rw [hmarkup, hpieces]
    refine collect_text s (collect_text t ?_)
    rw [collect, nameOf_green, ok_bind]
    · exact hcs
    · exact nofun
  rw [render, hall, ok_bind]
  dsimp only
  rw [checkStyle_green]
  exact ⟨_, rfl⟩

end MerkleLog.Console.Markup
