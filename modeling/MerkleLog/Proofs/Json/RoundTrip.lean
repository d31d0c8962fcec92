import MerkleLog.Json.Reader
import MerkleLog.Proofs.Json.Token
import MerkleLog.Proofs.Outcome

/-!
# Reading what was written

The indented form of a value is scanned as the tokens of the value, and those are put together as
the value again.  This needs integers that are not too long to be read, members with different
names, and containers that are not nested too deep; real numbers are left out, since they are taken
for binary numbers when they are written.
-/

namespace MerkleLog.Json

/-- A value without real numbers, with integers that may be written and members with different
names, whose containers are nested no deeper than a given depth. -/
inductive Plain : Nat → Json → Prop
  | null (depth : Nat) : Plain depth .null
  | bool (depth : Nat) (b : Bool) : Plain depth (.bool b)
  | int (depth : Nat) {n : Int} (hn : Text.isWritable n = true) : Plain depth (.int n)
  | str (depth : Nat) (s : String) : Plain depth (.str s)
  | arr {depth : Nat} {items : List Json} (hitems : ∀ v ∈ items, Plain depth v) :
      Plain (depth + 1) (.arr items)
  | obj {depth : Nat} {members : List (String × Json)} (hnames : (members.map (·.1)).Nodup)
      (hmembers : ∀ m ∈ members, Plain depth m.2) : Plain (depth + 1) (.obj members)

mutual

/-- The tokens of a value. -/
def tokens : Json → List Token
  | null => [.null]
  | bool b => [.bool b]
  | int n => [.int n]
  | real r => [.real r]
  | str s => [.str s]
  | arr [] => [.beginArray, .endArray]
  | arr (item :: items) => .beginArray :: (tokens item ++ itemTokens items ++ [.endArray])
  | obj [] => [.beginObject, .endObject]
  | obj ((name, value) :: members) =>
    .beginObject :: .str name :: .colon
      :: (tokens value ++ memberTokens members ++ [.endObject])

/-- The tokens of the items of an array after the first. -/
def itemTokens : List Json → List Token
  | [] => []
  | item :: items => .comma :: (tokens item ++ itemTokens items)

/-- The tokens of the members of an object after the first. -/
def memberTokens : List (String × Json) → List Token
  | [] => []
  | (name, value) :: members =>
    .comma :: .str name :: .colon :: (tokens value ++ memberTokens members)

end

variable {d : Dialect} {v : Json} {depth level : Nat} {items : List Json}
  {members : List (String × Json)}

/-! ## Integers -/

lemma mem_integersOfItems {n : Int} :
    n ∈ integersOfItems items ↔ ∃ v ∈ items, n ∈ integers v := by
  induction items with
  | nil => simp [integersOfItems]
  | cons item items ih => simp [integersOfItems, ih]

lemma mem_integersOfMembers {n : Int} :
    n ∈ integersOfMembers members ↔ ∃ m ∈ members, n ∈ integers m.2 := by
  induction members with
  | nil => simp [integersOfMembers]
  | cons m members ih => simp [integersOfMembers, ih]

lemma oversized?_eq_none : v.oversized? = none ↔ ∀ n ∈ v.integers, Text.isWritable n = true := by
  simp [oversized?, List.find?_eq_none]

lemma Plain.oversized? (hv : Plain depth v) : v.oversized? = none := by
  rw [oversized?_eq_none]
  intro n hn
  induction hv with
  | null | bool | str => simp [integers] at hn
  | int _ hwritable =>
    rw [integers, List.mem_singleton] at hn
    exact hn ▸ hwritable
  | arr _ ih =>
    rw [integers, mem_integersOfItems] at hn
    obtain ⟨w, hw, hn⟩ := hn
    exact ih w hw hn
  | obj _ _ ih =>
    rw [integers, mem_integersOfMembers] at hn
    obtain ⟨m, hm, hn⟩ := hn
    exact ih m hm hn

/-! ## Scanning -/

namespace Token

/-- A text that is scanned as some tokens, whatever stands before and after it. -/
def Scans (d : Dialect) (cs : List Char) (ts : List Token) : Prop :=
  ∀ tokens rest, EndsWord rest →
    scanFrom d tokens (cs ++ rest) = scanFrom d (ts.reverse ++ tokens) rest

variable {cs cs' : List Char} {ts ts' : List Token} {c : Char}

lemma endsWord_nil : EndsWord [] := by
  intro c hc
  cases hc

lemma endsWord_cons (hc : Scanner.endsWord c = true) (cs : List Char) : EndsWord (c :: cs) := by
  intro c' hc'
  obtain rfl := Option.some.inj hc'
  exact hc

lemma EndsWord.append (hcs : EndsWord cs) (hcs' : EndsWord cs') : EndsWord (cs ++ cs') := by
  cases cs with
  | nil => exact hcs'
  | cons c cs => exact endsWord_cons (hcs c rfl) _

namespace Scans

lemma nil : Scans d [] [] := fun _ _ _ => rfl

/-- Texts are scanned one after the other if the second cannot go on with a word of the first. -/
lemma append (h : Scans d cs ts) (h' : Scans d cs' ts') (hends : EndsWord cs') :
    Scans d (cs ++ cs') (ts ++ ts') := by
  intro tokens rest hrest
  rw [List.append_assoc, h tokens _ (hends.append hrest), h' _ rest hrest, List.reverse_append,
    List.append_assoc]

lemma punctuation {t : Token} (hc : punctuation? c = some t) (h : Scans d cs ts) :
    Scans d (c :: cs) (t :: ts) := by
  intro tokens rest hrest
  rw [List.cons_append, scanFrom_punctuation hc, h _ rest hrest, List.reverse_cons,
    List.append_assoc, List.singleton_append]

lemma space (hc : isSpace c = true) (h : Scans d cs ts) : Scans d (c :: cs) ts := by
  intro tokens rest hrest
  rw [List.cons_append, scanFrom_space hc, h _ rest hrest]

lemma newline (level : Nat) (h : Scans d cs ts) : Scans d (newline level ++ cs) ts := by
  have hspaces : ∀ c ∈ Json.newline level, isSpace c = true := by
    intro c hc
    rcases List.mem_cons.1 hc with rfl | hc
    · rfl
    · rw [List.eq_of_mem_replicate hc]
      rfl
  intro tokens rest hrest
  rw [List.append_assoc, scanFrom_spaces hspaces, h _ rest hrest]

lemma word {t : Token} (hne : cs ≠ []) (hcs : ∀ c ∈ cs, Scanner.endsWord c = false)
    (ht : ofWord d cs = t) : Scans d cs [t] := by
  intro tokens rest hrest
  rw [scanFrom_word hne hcs hrest, ht]
  rfl

lemma keyword {t : Token} (hne : cs ≠ []) (hcs : cs.any Scanner.endsWord = false)
    (ht : ofWord d cs = t) : Scans d cs [t] := by
  refine word hne (fun c hc => ?_) ht
  exact Bool.eq_false_iff.2 (List.any_eq_false.1 hcs c hc)

lemma quoted (ascii : Bool) (s : String) : Scans d (quoted ascii s) [.str s] := by
  intro tokens rest _
  rw [scanFrom_quoted]
  rfl

lemma scan_eq (h : Scans d cs ts) : scan d cs = ts := by
  have hscan := h [] [] endsWord_nil
  rw [List.append_nil, List.append_nil, scanFrom_nil, List.reverse_reverse] at hscan
  exact hscan

end Scans

end Token

open Token

lemma endsWord_newline (level : Nat) (cs : List Char) : EndsWord (newline level ++ cs) :=
  endsWord_cons (by decide) _

lemma endsWord_indentedItems (level : Nat) (items : List Json) :
    EndsWord (indentedItems level items) := by
  cases items with
  | nil => exact endsWord_nil
  | cons item items =>
    rw [indentedItems]
    exact endsWord_cons (by decide) _

lemma endsWord_indentedMembers (level : Nat) (members : List (String × Json)) :
    EndsWord (indentedMembers level members) := by
  cases members with
  | nil => exact endsWord_nil
  | cons m members =>
    rw [indentedMembers]
    exact endsWord_cons (by decide) _

lemma scans_indentedItems (hitems : ∀ v ∈ items, Scans d (indentedAt level v) (tokens v)) :
    Scans d (indentedItems level items) (itemTokens items) := by
  induction items with
  | nil => exact Scans.nil
  | cons item items ih =>
    have hrest := ih fun v hv => hitems v (List.mem_cons_of_mem _ hv)
    have hitem := hitems item List.mem_cons_self
    rw [indentedItems, itemTokens, List.cons_append, List.cons_append, List.append_assoc]
    exact Scans.punctuation rfl
      (Scans.newline level (hitem.append hrest (endsWord_indentedItems level items)))

/-- A member of an object. -/
lemma scans_member (name : String) (hvalue : Scans d (indentedAt level v) (tokens v)) :
    Scans d (quoted true name ++ ':' :: ' ' :: indentedAt level v)
      (.str name :: .colon :: tokens v) :=
  (Scans.quoted true name).append (Scans.punctuation rfl (Scans.space rfl hvalue))
    (endsWord_cons (by decide) _)

lemma scans_indentedMembers
    (hmembers : ∀ m ∈ members, Scans d (indentedAt level m.2) (tokens m.2)) :
    Scans d (indentedMembers level members) (memberTokens members) := by
  induction members with
  | nil => exact Scans.nil
  | cons m members ih =>
    obtain ⟨name, value⟩ := m
    have hrest := ih fun m hm => hmembers m (List.mem_cons_of_mem _ hm)
    have hmember := scans_member name (hmembers (name, value) List.mem_cons_self)
    have hnext := hmember.append hrest (endsWord_indentedMembers level members)
    have := Scans.punctuation (c := ',') rfl (Scans.newline level hnext)
    simpa only [indentedMembers, memberTokens, List.cons_append, List.append_assoc] using this

lemma scans_arr (level : Nat)
    (hitems : ∀ v ∈ items, ∀ level, Scans d (indentedAt level v) (tokens v)) :
    Scans d (indentedAt level (.arr items)) (tokens (.arr items)) := by
  cases items with
  | nil =>
    rw [indentedAt, tokens]
    exact Scans.punctuation rfl (Scans.punctuation rfl Scans.nil)
  | cons item items =>
    have hitem := hitems item List.mem_cons_self (level + 1)
    have hrest : Scans d (indentedItems (level + 1) items) (itemTokens items) :=
      scans_indentedItems fun v hv => hitems v (List.mem_cons_of_mem _ hv) (level + 1)
    have hclose : Scans d (newline level ++ [']']) [.endArray] :=
      Scans.newline level (Scans.punctuation rfl Scans.nil)
    have hall := (hitem.append hrest (endsWord_indentedItems _ _)).append hclose
      (endsWord_newline level _)
    have := Scans.punctuation (c := '[') rfl (Scans.newline (level + 1) hall)
    simpa only [indentedAt, tokens, List.cons_append, List.append_assoc] using this

lemma scans_obj (level : Nat)
    (hmembers : ∀ m ∈ members, ∀ level, Scans d (indentedAt level m.2) (tokens m.2)) :
    Scans d (indentedAt level (.obj members)) (tokens (.obj members)) := by
  cases members with
  | nil =>
    rw [indentedAt, tokens]
    exact Scans.punctuation rfl (Scans.punctuation rfl Scans.nil)
  | cons m members =>
    obtain ⟨name, value⟩ := m
    have hmember := scans_member name (hmembers (name, value) List.mem_cons_self (level + 1))
    have hrest : Scans d (indentedMembers (level + 1) members) (memberTokens members) :=
      scans_indentedMembers fun m hm => hmembers m (List.mem_cons_of_mem _ hm) (level + 1)
    have hclose : Scans d (newline level ++ ['\x7d']) [.endObject] :=
      Scans.newline level (Scans.punctuation rfl Scans.nil)
    have hall := (hmember.append hrest (endsWord_indentedMembers _ _)).append hclose
      (endsWord_newline level _)
    have := Scans.punctuation (c := '\x7b') rfl (Scans.newline (level + 1) hall)
    simpa only [indentedAt, tokens, List.cons_append, List.append_assoc] using this

/-- The indented form of a value is scanned as its tokens. -/
lemma scans_indentedAt (hv : Plain depth v) (level : Nat) :
    Scans d (indentedAt level v) (tokens v) := by
  induction hv generalizing level with
  | null =>
    rw [indentedAt, tokens]
    exact Scans.keyword (by decide) (by decide) rfl
  | bool _ b =>
    rw [indentedAt, tokens]
    cases b
    · exact Scans.keyword (by decide) (by decide) rfl
    · exact Scans.keyword (by decide) (by decide) rfl
  | int _ hn =>
    rw [indentedAt, tokens]
    exact Scans.word (integer_ne_nil _) (endsWord_integer _) (ofWord_integer hn)
  | str _ s =>
    rw [indentedAt, tokens]
    exact Scans.quoted true s
  | arr _ ih => exact scans_arr level ih
  | obj _ _ ih => exact scans_obj level ih

/-! ## Putting tokens together -/

namespace Reader

variable {frames : List Frame}

/-- Take some tokens. -/
def run (d : Dialect) (r : Reader) (ts : List Token) : Except Unreadable Reader :=
  ts.foldlM (step d) r

lemma run_cons (r : Reader) (t : Token) (ts : List Token) :
    run d r (t :: ts) = (step d r t >>= fun r => run d r ts) := rfl

lemma run_append (r : Reader) (ts ts' : List Token) :
    run d r (ts ++ ts') = (run d r ts >>= fun r => run d r ts') :=
  List.foldlM_append

lemma run_singleton (r : Reader) (t : Token) : run d r [t] = step d r t :=
  bind_pure _

/-- The tokens of a value put it where a value is expected. -/
def Places (d : Dialect) (frames : List Frame) (v : Json) : Prop :=
  run d (.within frames .value) (tokens v) = place v frames

lemma setMember_of_not_mem {name : String} (hname : name ∉ members.map (·.1)) :
    setMember name v members = members ++ [(name, v)] := by
  induction members with
  | nil => rfl
  | cons m members ih =>
    obtain ⟨n, w⟩ := m
    rw [List.map_cons, List.mem_cons, not_or] at hname
    rw [setMember, if_neg (Ne.symm hname.1), ih hname.2]
    rfl

/-- The first token of a value does not end an array. -/
lemma exists_tokens (v : Json) : ∃ t ts, tokens v = t :: ts ∧ t ≠ .endArray := by
  unfold tokens
  split <;> exact ⟨_, _, rfl, by simp⟩

lemma checkDepth_eq (hdepth : frames.length ≤ d.depth) : checkDepth d frames = .ok () :=
  if_pos hdepth

lemma openFrame_eq (hdepth : frames.length ≤ d.depth) (expected : Expected) :
    openFrame d frames expected = .ok (.within frames expected) := by
  rw [openFrame, checkDepth_eq hdepth]
  split <;> rfl

/-- What does not end an array is taken for its first item. -/
lemma run_firstItem (hdepth : frames.length ≤ d.depth) (v : Json) (ts : List Token) :
    run d (.within frames .firstItem) (tokens v ++ ts)
      = run d (.within frames .value) (tokens v ++ ts) := by
  obtain ⟨t, us, htokens, ht⟩ := exists_tokens v
  have hstep : step d (.within frames .firstItem) t = step d (.within frames .value) t := by
    cases t <;> simp_all [step, checkDepth]
  rw [htokens, List.cons_append, run_cons, run_cons, hstep]

lemma run_itemTokens (hitems : ∀ v ∈ items, ∀ done, Places d (.array done :: frames) v)
    (done : List Json) :
    run d (.within (.array done :: frames) .next) (itemTokens items)
      = .ok (.within (.array (items.reverse ++ done) :: frames) .next) := by
  induction items generalizing done with
  | nil => rfl
  | cons item items ih =>
    have hcomma : step d (.within (.array done :: frames) .next) .comma
        = .ok (.within (.array done :: frames) .value) := rfl
    have hitem : run d (.within (.array done :: frames) .value) (tokens item)
        = .ok (.within (.array (item :: done) :: frames) .next) :=
      hitems item List.mem_cons_self done
    rw [itemTokens, run_cons, hcomma, ok_bind, run_append, hitem, ok_bind,
      ih fun v hv => hitems v (List.mem_cons_of_mem _ hv), List.reverse_cons, List.append_assoc,
      List.singleton_append]

lemma run_member (done : List (String × Json)) {name : String}
    (hname : name ∉ done.map (·.1)) (hvalue : Places d (.member done name :: frames) v) :
    run d (.within (.object done :: frames) .name) (.str name :: .colon :: tokens v)
      = .ok (.within (.object (done ++ [(name, v)]) :: frames) .next) := by
  have hstr : step d (.within (.object done :: frames) .name) (.str name)
      = .ok (.within (.member done name :: frames) .colon) := rfl
  have hcolon : step d (.within (.member done name :: frames) .colon) .colon
      = .ok (.within (.member done name :: frames) .value) := rfl
  rw [run_cons, hstr, ok_bind, run_cons, hcolon, ok_bind, hvalue, place,
    setMember_of_not_mem hname]

lemma run_memberTokens (done : List (String × Json))
    (hnames : ((done ++ members).map (·.1)).Nodup)
    (hmembers : ∀ m ∈ members, ∀ done, Places d (.member done m.1 :: frames) m.2) :
    run d (.within (.object done :: frames) .next) (memberTokens members)
      = .ok (.within (.object (done ++ members) :: frames) .next) := by
  induction members generalizing done with
  | nil => rw [List.append_nil]; rfl
  | cons m members ih =>
    obtain ⟨name, value⟩ := m
    have hcomma : step d (.within (.object done :: frames) .next) .comma
        = .ok (.within (.object done :: frames) .name) := rfl
    -- a name that came before would replace the value there
    have hname : name ∉ done.map (·.1) := by
      rw [List.map_append, List.nodup_append] at hnames
      exact fun hmem => hnames.2.2 name hmem name List.mem_cons_self rfl
    have hmember := run_member done hname (hmembers (name, value) List.mem_cons_self done)
    have hsplit : done ++ (name, value) :: members = done ++ [(name, value)] ++ members := by simp
    rw [hsplit] at hnames ⊢
    rw [memberTokens, run_cons, hcomma, ok_bind, ← List.cons_append, ← List.cons_append, run_append,
      hmember, ok_bind, ih _ hnames fun m hm => hmembers m (List.mem_cons_of_mem _ hm)]

/-- An array is put where a value is expected if its items are put into it. -/
lemma places_arr (hdepth : frames.length < d.depth)
    (hitems : ∀ v ∈ items, ∀ done, Places d (.array done :: frames) v) :
    Places d frames (.arr items) := by
  have hlength : (Frame.array [] :: frames).length ≤ d.depth := hdepth
  have hopen : step d (.within frames .value) .beginArray
      = .ok (.within (.array [] :: frames) .firstItem) := openFrame_eq hlength _
  have hclose : ∀ done, step d (.within (.array done :: frames) .next) .endArray
      = place (.arr done.reverse) frames := fun _ => rfl
  rw [Places]
  cases items with
  | nil =>
    rw [tokens, run_cons, hopen, ok_bind, run_singleton]
    rfl
  | cons item items =>
    have hitem : run d (.within (.array [] :: frames) .value) (tokens item)
        = .ok (.within (.array [item] :: frames) .next) := hitems item List.mem_cons_self []
    have hrest := run_itemTokens (fun v hv => hitems v (List.mem_cons_of_mem _ hv)) [item]
    rw [tokens, run_cons, hopen, ok_bind, List.append_assoc, run_firstItem hlength, run_append,
      hitem, ok_bind, run_append, hrest, ok_bind, run_singleton, hclose, List.reverse_append,
      List.reverse_reverse]
    rfl

/-- An object is put where a value is expected if the values of its members are put into it. -/
lemma places_obj (hdepth : frames.length < d.depth) (hnames : (members.map (·.1)).Nodup)
    (hmembers : ∀ m ∈ members, ∀ done, Places d (.member done m.1 :: frames) m.2) :
    Places d frames (.obj members) := by
  have hlength : (Frame.object [] :: frames).length ≤ d.depth := hdepth
  have hopen : step d (.within frames .value) .beginObject
      = .ok (.within (.object [] :: frames) .firstName) := openFrame_eq hlength _
  have hclose : ∀ done, step d (.within (.object done :: frames) .next) .endObject
      = place (.obj done) frames := fun _ => rfl
  rw [Places]
  cases members with
  | nil =>
    rw [tokens, run_cons, hopen, ok_bind, run_singleton]
    rfl
  | cons m members =>
    obtain ⟨name, value⟩ := m
    have hfirst : step d (.within (.object [] :: frames) .firstName) (.str name)
        = step d (.within (.object [] :: frames) .name) (.str name) := by
      simp [step, checkDepth_eq hlength]
    have hmember := run_member [] List.not_mem_nil
      (hmembers (name, value) List.mem_cons_self [])
    have hrest := run_memberTokens [(name, value)] hnames
      fun m hm => hmembers m (List.mem_cons_of_mem _ hm)
    have hsplit :
        Token.str name :: .colon :: (tokens value ++ memberTokens members ++ [.endObject])
          = (.str name :: .colon :: tokens value) ++ (memberTokens members ++ [.endObject]) := by
      simp
    rw [tokens, run_cons, hopen, ok_bind, run_cons, hfirst, ← run_cons, hsplit, run_append,
      hmember, ok_bind, run_append, List.nil_append, hrest, ok_bind, run_singleton, hclose]
    rfl

/-- The tokens of a value are put together as the value. -/
lemma places (hv : Plain depth v) (hdepth : frames.length + depth ≤ d.depth) :
    Places d frames v := by
  induction hv generalizing frames with
  | null | bool | int | str => exact run_singleton _ _
  | arr _ ih =>
    refine places_arr (by omega) fun v hv done => ih v hv ?_
    rw [List.length_cons]
    omega
  | obj hnames _ ih =>
    refine places_obj (by omega) hnames fun m hm done => ih m hm ?_
    rw [List.length_cons]
    omega

end Reader

/-- The indented form of a value is read as the value. -/
theorem parse_indented (hv : Plain d.depth v) : parse d (indented v) = .ok v := by
  have hscan : Token.scan d (indented v).toList = tokens v := by
    rw [indented, String.toList_ofList]
    exact (scans_indentedAt hv 0).scan_eq
  have hrun : (tokens v).foldlM (Reader.step d) Reader.initial = .ok (.done v) :=
    Reader.places hv (by simp)
  rw [parse, hscan, hrun]
  rfl

end MerkleLog.Json
