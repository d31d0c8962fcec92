import MerkleLog.Json.Reader
import MerkleLog.Proofs.Outcome
import MerkleLog.Proofs.Text.Numeral

/-!
# Integers that are read may be written

A reader refuses integers of too many digits, so that every integer of a value that was read can be
written again.  Both the scanner and the machine that puts tokens together keep this up.
-/

namespace MerkleLog.Json

variable {d : Dialect}

/-! ## Tokens -/

namespace Token

/-- Whether a token is no integer, or one that may be written. -/
def Writable (t : Token) : Prop :=
  ∀ n, t = .int n → Text.isWritable n = true

lemma writable_number (d : Dialect) (negative : Bool) (cs : List Char) :
    (number d negative cs).Writable := by
  intro n hn
  rw [number] at hn
  split at hn
  · cases hn
  · rename_i whole rest _
    dsimp only at hn
    -- whatever the exponent is
    split at hn
    all_goals
      split at hn
      · split at hn
        · cases hn
        · rename_i hlong
          split at hn
          · cases hn
          · obtain rfl := Token.int.inj hn
            exact Text.isWritable_signed (Text.valueOf_lt (not_lt.1 hlong)) negative
      · split at hn
        · cases hn
        · cases hn

lemma writable_ofWord (d : Dialect) (cs : List Char) : (ofWord d cs).Writable := by
  unfold ofWord
  split
  case h_7 => exact writable_number d true _
  case h_8 => exact writable_number d false _
  all_goals
    intro n hn
    cases hn

/-- A scanner with tokens that may be written. -/
def Scanner.Writable (s : Scanner) : Prop := ∀ t ∈ s.tokens, t.Writable

namespace Scanner

lemma writable_cons {mode : Mode} {tokens : List Token} {t : Token}
    (htokens : ∀ t ∈ tokens, t.Writable) (ht : t.Writable) : Writable ⟨mode, t :: tokens⟩ := by
  rw [Writable, List.forall_mem_cons]
  exact ⟨ht, htokens⟩

lemma writable_start {tokens : List Token} (htokens : ∀ t ∈ tokens, t.Writable) (c : Char) :
    (start tokens c).Writable := by
  rw [start]
  split
  · exact htokens
  · split
    · exact htokens
    · split
      · rename_i t ht
        refine writable_cons htokens fun n hn => ?_
        unfold punctuation? at ht
        split at ht <;> simp_all
      · exact htokens

lemma writable_giveUp {s : Scanner} (hs : s.Writable) : s.giveUp.Writable :=
  writable_cons hs nofun

lemma writable_step {s : Scanner} (hs : s.Writable) (c : Char) : (step d s c).Writable := by
  rw [step]
  split
  · exact writable_start hs c
  · split
    · exact writable_start (List.forall_mem_cons.2 ⟨writable_ofWord d _, hs⟩) c
    · exact hs
  · split
    · split
      · exact writable_cons hs nofun
      · exact writable_giveUp hs
    · split
      · exact hs
      · split
        · exact writable_giveUp hs
        · exact hs
  · split
    · exact hs
    · split
      · exact hs
      · exact writable_giveUp hs
  · split
    · exact writable_giveUp hs
    · split
      · exact hs
      · exact hs

end Scanner

/-- Every token of a text may be written. -/
lemma writable_scan (cs : List Char) : ∀ t ∈ scan d cs, t.Writable := by
  have hfold : ∀ s : Scanner, s.Writable → (cs.foldl (Scanner.step d) s).Writable := by
    induction cs with
    | nil => exact fun s hs => hs
    | cons c cs ih => exact fun s hs => ih _ (Scanner.writable_step hs c)
  have hs := hfold ⟨.between, []⟩ nofun
  intro t ht
  rw [scan, Scanner.finish] at ht
  split at ht
  · exact hs t (List.mem_reverse.1 ht)
  · rcases List.mem_cons.1 (List.mem_reverse.1 ht) with rfl | ht
    · exact writable_ofWord d _
    · exact hs t ht
  · exact Scanner.writable_giveUp hs t (List.mem_reverse.1 ht)

end Token

/-! ## Values -/

/-- A value whose integers may all be written. -/
inductive Writable : Json → Prop
  | null : Writable .null
  | bool (b : Bool) : Writable (.bool b)
  | int {n : Int} (hn : Text.isWritable n = true) : Writable (.int n)
  | real (r : Real) : Writable (.real r)
  | str (s : String) : Writable (.str s)
  | arr {items : List Json} (hitems : ∀ v ∈ items, Writable v) : Writable (.arr items)
  | obj {members : List (String × Json)} (hmembers : ∀ m ∈ members, Writable m.2) :
      Writable (.obj members)

variable {v : Json} {name : String} {members : List (String × Json)}

lemma writable_setMember (hv : Writable v) (hmembers : ∀ m ∈ members, Writable m.2) :
    ∀ m ∈ setMember name v members, Writable m.2 := by
  induction members with
  | nil =>
    rw [setMember, List.forall_mem_singleton]
    exact hv
  | cons m members ih =>
    obtain ⟨n, w⟩ := m
    rw [List.forall_mem_cons] at hmembers
    rw [setMember]
    split
    · rw [List.forall_mem_cons]
      exact ⟨hv, hmembers.2⟩
    · rw [List.forall_mem_cons]
      exact ⟨hmembers.1, ih hmembers.2⟩

lemma Writable.member? (hv : Writable v) {w : Json} (hw : v.member? name = some w) :
    Writable w := by
  cases hv with
  | @obj members hmembers =>
    obtain ⟨front, back, hmember, -⟩ := List.lookup_eq_some_iff.1 hw
    exact hmembers (name, w) (by rw [hmember]; simp)
  | _ => cases hw

/-- A container whose values may be written. -/
def Frame.Writable : Frame → Prop
  | .array items => ∀ v ∈ items, Json.Writable v
  | .object members | .member members _ => ∀ m ∈ members, Json.Writable m.2

namespace Reader

/-- A machine whose values may be written. -/
def Writable : Reader → Prop
  | .within frames _ => ∀ f ∈ frames, f.Writable
  | .done v => Json.Writable v

variable {frames : List Frame} {r r' : Reader} {t : Token}

lemma writable_place (hframes : ∀ f ∈ frames, f.Writable) (hv : Json.Writable v)
    (hr : place v frames = .ok r) : r.Writable := by
  cases frames with
  | nil =>
    obtain rfl := Except.ok.inj hr
    exact hv
  | cons f frames =>
    rw [List.forall_mem_cons] at hframes
    obtain ⟨hf, hrest⟩ := hframes
    cases f with
    | array items =>
      obtain rfl := Except.ok.inj hr
      rw [Writable, List.forall_mem_cons]
      exact ⟨List.forall_mem_cons.2 ⟨hv, hf⟩, hrest⟩
    | object members => cases hr
    | member members name =>
      obtain rfl := Except.ok.inj hr
      rw [Writable, List.forall_mem_cons]
      exact ⟨writable_setMember hv hf, hrest⟩

lemma writable_openFrame {f : Frame} (hframes : ∀ f ∈ frames, f.Writable) (hf : f.Writable)
    {expected : Expected} (hr : openFrame d (f :: frames) expected = .ok r) : r.Writable := by
  have hall : Writable (.within (f :: frames) expected) := List.forall_mem_cons.2 ⟨hf, hframes⟩
  rw [openFrame] at hr
  split at hr
  · rw [bind_eq_ok] at hr
    obtain ⟨_, _, hr⟩ := hr
    obtain rfl := Except.ok.inj hr
    exact hall
  · obtain rfl := Except.ok.inj hr
    exact hall

lemma writable_value (hframes : ∀ f ∈ frames, f.Writable) (ht : t.Writable)
    (hr : value d frames t = .ok r) : r.Writable := by
  cases t with
  | beginArray => exact writable_openFrame hframes (f := .array []) nofun hr
  | beginObject => exact writable_openFrame hframes (f := .object []) nofun hr
  | null => exact writable_place hframes .null hr
  | bool b => exact writable_place hframes (.bool b) hr
  | int n => exact writable_place hframes (.int (ht n rfl)) hr
  | real x => exact writable_place hframes (.real x) hr
  | str s => exact writable_place hframes (.str s) hr
  | _ => cases hr

lemma writable_name (hframes : ∀ f ∈ frames, f.Writable) (hr : Reader.name frames t = .ok r) :
    r.Writable := by
  unfold Reader.name at hr
  split at hr
  · obtain rfl := Except.ok.inj hr
    rw [List.forall_mem_cons] at hframes
    exact List.forall_mem_cons.2 hframes
  · cases hr

lemma writable_endArray {items : List Json}
    (hframes : ∀ f ∈ Frame.array items :: frames, f.Writable)
    (hr : place (.arr items.reverse) frames = .ok r) : r.Writable := by
  rw [List.forall_mem_cons] at hframes
  exact writable_place hframes.2 (.arr fun v hv => hframes.1 v (List.mem_reverse.1 hv)) hr

lemma writable_endObject (hframes : ∀ f ∈ Frame.object members :: frames, f.Writable)
    (hr : place (.obj members) frames = .ok r) : r.Writable := by
  rw [List.forall_mem_cons] at hframes
  exact writable_place hframes.2 (.obj hframes.1) hr

lemma writable_step (hr : r.Writable) (ht : t.Writable) (hstep : step d r t = .ok r') :
    r'.Writable := by
  cases r with
  | done v => cases hstep
  | within frames expected =>
    simp only [step] at hstep
    split at hstep
    case h_1 | h_10 => exact writable_endArray hr hstep
    case h_3 | h_11 => exact writable_endObject hr hstep
    case h_2 =>
      obtain ⟨-, -, hstep⟩ := bind_eq_ok.1 hstep
      exact writable_value hr ht hstep
    case h_4 =>
      obtain ⟨-, -, hstep⟩ := bind_eq_ok.1 hstep
      exact writable_name hr hstep
    case h_5 => exact writable_value hr ht hstep
    case h_6 => exact writable_name hr hstep
    case h_7 | h_8 | h_9 =>
      obtain rfl := Except.ok.inj hstep
      exact hr
    case h_12 => cases hstep

lemma writable_run {ts : List Token} (hr : r.Writable) (hts : ∀ t ∈ ts, t.Writable)
    (hrun : ts.foldlM (step d) r = .ok r') : r'.Writable := by
  induction ts generalizing r with
  | nil =>
    obtain rfl := Except.ok.inj hrun
    exact hr
  | cons t ts ih =>
    rw [List.forall_mem_cons] at hts
    rw [List.foldlM_cons, bind_eq_ok] at hrun
    obtain ⟨next, hstep, hrun⟩ := hrun
    exact ih (writable_step hr hts.1 hstep) hts.2 hrun

end Reader

/-- What was read may be written. -/
theorem writable_of_parse {text : String} (hv : parse d text = .ok v) : Writable v := by
  rw [parse, bind_eq_ok] at hv
  obtain ⟨r, hrun, hv⟩ := hv
  have hinitial : Reader.initial.Writable := fun f hf => absurd hf List.not_mem_nil
  have hr := Reader.writable_run hinitial (Token.writable_scan _) hrun
  cases r with
  | done w =>
    obtain rfl := Except.ok.inj hv
    exact hr
  | within => cases hv

end MerkleLog.Json
