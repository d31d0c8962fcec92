import Mathlib.Data.String.Basic
import MerkleLog.Console.Files
import MerkleLog.Proofs.Outcome
import MerkleLog.Proofs.Text.Utf8

/-!
# Files that were written are read

A path that leads to a file, or to a place where one may be put, leads to the same place when it is
written without needless slashes and names, and it still does after a file was put there.  A file is
read exactly if its bytes are those of a text.
-/

namespace MerkleLog.Console

variable {f : Files} {here place : Location} {name s text : String} {names : List String}
  {path : Path} {content : Bytes}

/-! ## The names of a path -/

namespace Path

/-- No part between separators holds one. -/
lemma not_mem_of_mem_splitOn {c : Char} {cs part : List Char} (hpart : part ∈ cs.splitOn c) :
    c ∉ part := by
  induction cs generalizing part with
  | nil =>
    rw [List.splitOn_nil, List.mem_singleton] at hpart
    exact hpart ▸ List.not_mem_nil
  | cons d cs ih =>
    obtain ⟨first, rest, hsplit⟩ := List.exists_cons_of_ne_nil (List.splitOn_ne_nil c cs)
    rw [hsplit] at ih
    rw [List.splitOn_cons_eq_if_modifyHead, hsplit] at hpart
    split at hpart
    · rcases List.mem_cons.1 hpart with rfl | hpart
      · exact List.not_mem_nil
      · exact ih hpart
    · rename_i hd
      rcases List.mem_cons.1 hpart with rfl | hpart
      · rw [List.mem_cons, not_or]
        exact ⟨fun hc => hd (beq_iff_eq.2 hc.symm), ih List.mem_cons_self⟩
      · exact ih (List.mem_cons_of_mem _ hpart)

lemma slash_not_mem_of_mem_parts (hname : name ∈ parts s) : '/' ∉ name.toList := by
  obtain ⟨part, hpart, rfl⟩ := List.mem_map.1 hname
  rw [String.toList_ofList]
  exact not_mem_of_mem_splitOn hpart

/-- Names that are joined by slashes are the parts of the text that they make. -/
lemma parts_intercalate (hne : names ≠ []) (hnames : ∀ name ∈ names, '/' ∉ name.toList) :
    parts ("/".intercalate names) = names := by
  have hslash : "/".toList = ['/'] := by simp
  have hsplit : (['/'].intercalate (names.map String.toList)).splitOn '/'
      = names.map String.toList :=
    List.splitOn_intercalate '/' (List.forall_mem_map.2 hnames) (by simpa using hne)
  rw [parts, String.toList_intercalate, hslash, hsplit, List.map_map]
  simp [Function.comp_def]

lemma parts_slash (s : String) : parts ("/" ++ s) = "" :: parts s := by
  simp [parts, List.splitOn_cons_eq_if_modifyHead]

/-- The parts of a text, joined by slashes, are the text. -/
lemma intercalate_parts (s : String) : "/".intercalate (parts s) = s := by
  have hslash : "/".toList = ['/'] := by simp
  refine String.toList_inj.1 ?_
  rw [String.toList_intercalate, hslash, parts, List.map_map]
  simp [Function.comp_def, List.intercalate_splitOn]

/-- Some of the parts of a text make up some of its characters. -/
lemma sublist_intercalate (p : String → Bool) :
    ("/".intercalate (names.filter p)).toList.Sublist ("/".intercalate names).toList := by
  induction names with
  | nil => exact List.Sublist.refl _
  | cons name names ih =>
    cases names with
    | nil =>
      rw [List.filter_cons]
      split <;> simp
    | cons next names =>
      have hjoin : ("/".intercalate (name :: next :: names)).toList
          = name.toList ++ '/' :: ("/".intercalate (next :: names)).toList := by
        simp [String.toList_intercalate]
      rw [List.filter_cons, hjoin]
      split
      · cases hrest : (next :: names).filter p with
        | nil => simp
        | cons first rest =>
          have hjoin' : ("/".intercalate (name :: first :: rest)).toList
              = name.toList ++ '/' :: ("/".intercalate (first :: rest)).toList := by
            simp [String.toList_intercalate]
          rw [hjoin', ← hrest]
          exact (ih.cons_cons _).append_left _
      · exact (ih.cons _).trans (List.sublist_append_right _ _)

/-- The names that are kept when a path is written without needless ones. -/
def kept (s : String) : List String :=
  (parts s).filter fun name => name ≠ "" && name ≠ "."

lemma text_ofString (hkept : kept s ≠ []) :
    (ofString s).text = (if s.startsWith "/" then "/" else "") ++ "/".intercalate (kept s) := by
  have hempty : (kept s).isEmpty = false := by simpa using hkept
  rw [kept] at hempty ⊢
  rw [ofString, hempty]
  split
  · rfl
  · simp

/-- A kept name neither is empty nor holds a slash. -/
lemma of_mem_kept (hname : name ∈ kept s) : name ≠ "" ∧ name ≠ "." ∧ '/' ∉ name.toList := by
  obtain ⟨hparts, hname⟩ := List.mem_filter.1 hname
  rw [Bool.and_eq_true, decide_eq_true_eq, decide_eq_true_eq] at hname
  exact ⟨hname.1, hname.2, slash_not_mem_of_mem_parts hparts⟩

lemma kept_slash (s : String) : kept ("/" ++ s) = kept s := by
  rw [kept, parts_slash]
  rfl

lemma exists_eq_slash (hs : s.startsWith "/" = true) : ∃ t, s = "/" ++ t := by
  obtain ⟨rest, hrest⟩ := String.startsWith_string_iff.1 hs
  refine ⟨String.ofList rest, String.toList_inj.1 ?_⟩
  simp [← hrest]

/-- The kept names are those of the shorter path. -/
lemma names_ofString (hkept : kept s ≠ []) : (ofString s).names = kept s := by
  have hjoined : parts ("/".intercalate (kept s)) = kept s :=
    parts_intercalate hkept fun name hname => (of_mem_kept hname).2.2
  have hnonempty : ∀ name ∈ kept s, name ≠ "" := fun name hname => (of_mem_kept hname).1
  have hparts : parts (ofString s).text = kept s ∨ parts (ofString s).text = "" :: kept s := by
    rw [text_ofString hkept]
    split
    · exact Or.inr (by rw [parts_slash, hjoined])
    · exact Or.inl (by rw [String.empty_append, hjoined])
  obtain ⟨first, rest, hcons⟩ := List.exists_cons_of_ne_nil hkept
  have hlast : (first :: rest).getLast? ≠ some "" := fun hlast =>
    hnonempty "" (hcons ▸ List.mem_of_getLast? hlast) rfl
  rw [hcons] at hparts hnonempty ⊢
  rcases hparts with hparts | hparts
  · simpa [Path.names, hparts, hlast] using hnonempty
  · simpa [Path.names, hparts, hlast] using hnonempty

/-- Besides the kept names, the names of a path denote the directory that they stand in. -/
lemma kept_eq (s : String) : (Path.names ⟨s⟩).filter (· ≠ ".") = kept s := by
  rw [Path.names, kept]
  dsimp only
  split
  · simp [List.filter_filter, Bool.and_comm]
  · simp [List.filter_filter, Bool.and_comm]

lemma isAbsolute_ofString (hkept : kept s ≠ []) :
    (ofString s).isAbsolute = isAbsolute ⟨s⟩ := by
  rw [isAbsolute, isAbsolute, text_ofString hkept]
  cases hs : s.startsWith "/" with
  | true => simp [String.startsWith_string_iff]
  | false =>
    -- the first name is not empty and has no slash
    obtain ⟨first, rest, hcons⟩ := List.exists_cons_of_ne_nil hkept
    obtain ⟨hfirst, -, hslash⟩ := of_mem_kept (hcons ▸ List.mem_cons_self : first ∈ kept s)
    obtain ⟨c, cs, hchars⟩ := List.exists_cons_of_ne_nil (by simpa using hfirst : first.toList ≠ [])
    rw [hchars, List.mem_cons, not_or] at hslash
    have hhead : ∃ cs', ("/".intercalate (kept s)).toList = c :: cs' := by
      cases rest with
      | nil => exact ⟨cs, by simp [hcons, hchars]⟩
      | cons next rest => exact ⟨_, by simp [hcons, String.toList_intercalate, hchars]; rfl⟩
    obtain ⟨cs', hhead⟩ := hhead
    rw [← Bool.not_eq_true, String.startsWith_string_iff]
    simpa [hhead] using hslash.1

/-- The shorter path has some of the characters of the path. -/
lemma sublist_ofString (hkept : kept s ≠ []) :
    (ofString s).text.toList.Sublist s.toList := by
  have hkeep : ∀ t, ("/".intercalate (kept t)).toList.Sublist t.toList := by
    intro t
    conv_rhs => rw [← intercalate_parts t]
    exact sublist_intercalate _
  rw [text_ofString hkept]
  split
  · rename_i hs
    obtain ⟨t, rfl⟩ := exists_eq_slash hs
    rw [kept_slash, String.toList_append, String.toList_append]
    exact (hkeep t).append_left _
  · rw [String.empty_append]
    exact hkeep s

end Path

/-! ## What names lead to -/

namespace Files

/-- The way along some names to a place where a file is or may be put. -/
inductive Route (f : Files) (place : Location) : Location → List String → Prop
  | last {here : Location} {name : String} (hname : name.utf8ByteSize ≤ maxName)
      (hplace : here.step name = place) (hentry : f.lookup? place ≠ some .directory) :
      Route f place here [name]
  | step {here : Location} {name : String} {names : List String}
      (hname : name.utf8ByteSize ≤ maxName)
      (hentry : f.lookup? (here.step name) = some .directory)
      (hrest : Route f place (here.step name) names) :
      Route f place here (name :: names)

/-- What is at the end of a route. -/
def targetAt (f : Files) (place : Location) : Target :=
  match f.lookup? place with
  | some entry => .found place entry
  | none => .free place

lemma Route.walk_eq (hroute : f.Route place here names) :
    f.walk here names = .ok (f.targetAt place) := by
  induction hroute with
  | @last here name hname hplace hentry =>
    rw [walk, if_neg (not_lt.2 hname), hplace, targetAt]
    dsimp only
    cases hat : f.lookup? place with
    | none => rfl
    | some entry =>
      cases entry with
      | file content => rfl
      | directory => exact absurd hat hentry
  | step hname hentry hrest ih =>
    rw [walk, if_neg (not_lt.2 hname)]
    dsimp only
    rw [hentry]
    exact ih

/-- Where a file is or may be put, there is a route. -/
lemma exists_route {target : Target} (hwalk : f.walk here names = .ok target)
    (hfile : ∀ place, target ≠ .found place .directory) : ∃ place, f.Route place here names := by
  induction names generalizing here with
  | nil => exact absurd (Except.ok.inj hwalk).symm (hfile here)
  | cons name names ih =>
    rw [walk] at hwalk
    split at hwalk
    · cases hwalk
    · rename_i hname
      rw [not_lt] at hname
      dsimp only at hwalk
      cases hentry : f.lookup? (here.step name) with
      | some entry =>
        cases entry with
        | directory =>
          rw [hentry] at hwalk
          obtain ⟨place, hroute⟩ := ih hwalk
          exact ⟨place, .step hname hentry hroute⟩
        | file content =>
          cases names with
          | nil => exact ⟨_, .last hname rfl (by rw [hentry]; exact nofun)⟩
          | cons => rw [hentry] at hwalk; cases hwalk
      | none =>
        cases names with
        | nil => exact ⟨_, .last hname rfl (by rw [hentry]; exact nofun)⟩
        | cons => rw [hentry] at hwalk; cases hwalk

/-- Names that denote the directory they stand in can be left out. -/
lemma Route.filter (hroute : f.Route place here names) (hhere : f.lookup? here = some .directory) :
    f.Route place here (names.filter (· ≠ ".")) := by
  induction hroute with
  | @last here name hname hplace hentry =>
    have hdot : name ≠ "." := by
      rintro rfl
      rw [Location.step, if_pos rfl] at hplace
      exact hentry (hplace ▸ hhere)
    have hfilter : [name].filter (· ≠ ".") = [name] := by simp [hdot]
    rw [hfilter]
    exact .last hname hplace hentry
  | @step here name names hname hentry hrest ih =>
    by_cases hdot : name = "."
    · rw [List.filter_cons_of_neg (by simpa using hdot)]
      rw [hdot, Location.step, if_pos rfl] at ih
      exact ih hhere
    · have hfilter : (name :: names).filter (· ≠ ".") = name :: names.filter (· ≠ ".") := by
        simp [hdot]
      rw [hfilter]
      exact .step hname hentry (ih hentry)

/-- The disk with a file at a place. -/
def put (f : Files) (place : Location) (content : Bytes) : Files :=
  { f with entries := (place, .file content) :: f.entries }

/-- A file changes what is found at its place alone. -/
lemma lookup?_put (hplace : f.lookup? place ≠ some .directory) (there : Location)
    (content : Bytes) :
    (f.put place content).lookup? there
      = if there = place then some (.file content) else f.lookup? there := by
  rw [lookup?] at hplace
  rw [lookup?, lookup?, put]
  dsimp only
  by_cases hthere : there = place
  · rw [hthere, if_pos rfl]
    split
    · rename_i habove
      rw [if_pos habove] at hplace
      exact absurd rfl hplace
    · exact List.lookup_cons_self
  · rw [if_neg hthere, List.lookup_cons, beq_false_of_ne hthere]

lemma Route.lookup?_ne (hroute : f.Route place here names) :
    f.lookup? place ≠ some .directory := by
  induction hroute with
  | last _ _ hentry => exact hentry
  | step _ _ _ ih => exact ih

/-- A file changes no route where there was no directory before. -/
lemma Route.put {there : Location} (hroute : f.Route place here names)
    (hthere : f.lookup? there ≠ some .directory) (content : Bytes) :
    (f.put there content).Route place here names := by
  have hput := lookup?_put hthere
  have hend : (f.put there content).lookup? place ≠ some .directory := by
    rw [hput]
    split
    · exact nofun
    · exact hroute.lookup?_ne
  induction hroute with
  | last hname hplace => exact .last hname hplace hend
  | @step here name names hname hentry hrest ih =>
    refine .step hname ?_ ih
    rw [hput, if_neg, hentry]
    rintro heq
    exact hthere (heq ▸ hentry)

/-! ## What a path leads to -/

/-- A path that leads to a place where a file is or may be put. -/
structure Opens (f : Files) (path : Path) (place : Location) : Prop where
  null : '\x00' ∉ path.text.toList
  nonempty : path.text ≠ ""
  short : path.text.utf8ByteSize ≤ maxPath
  route : f.Route place (f.start path) path.names

lemma Opens.resolve_eq (hpath : f.Opens path place) : f.resolve path = .ok (f.targetAt place) := by
  rw [resolve, if_neg (by simpa using hpath.null), if_neg hpath.nonempty,
    if_neg (not_lt.2 hpath.short), hpath.route.walk_eq]

lemma exists_opens {target : Target} (hresolve : f.resolve path = .ok target)
    (hfile : ∀ place, target ≠ .found place .directory) : ∃ place, f.Opens path place := by
  rw [resolve] at hresolve
  split at hresolve
  · cases hresolve
  · rename_i hnull
    split at hresolve
    · cases hresolve
    · rename_i hempty
      split at hresolve
      · cases hresolve
      · rename_i hshort
        obtain ⟨place, hroute⟩ := exists_route hresolve hfile
        exact ⟨place, by simpa using hnull, hempty, not_lt.1 hshort, hroute⟩

/-- The directory in which a path starts is there. -/
lemma lookup?_start (f : Files) (path : Path) : f.lookup? (f.start path) = some .directory := by
  rw [start, lookup?]
  split
  · simp
  · simp

/-- A path leads to the same place when it is written without needless slashes and names. -/
lemma Opens.ofString (hpath : f.Opens ⟨s⟩ place) : f.Opens (Path.ofString s) place := by
  have hroute := hpath.route.filter (lookup?_start f ⟨s⟩)
  rw [Path.kept_eq] at hroute
  have hkept : Path.kept s ≠ [] := by
    intro hnil
    rw [hnil] at hroute
    cases hroute
  have hsublist := Path.sublist_ofString hkept
  refine ⟨fun hnull => hpath.null (hsublist.mem hnull), ?_, ?_, ?_⟩
  · intro hempty
    have hnames := Path.names_ofString hkept
    rw [Path.names, hempty] at hnames
    exact hkept hnames.symm
  · have hsize := String.utf8Len_le_of_sublist hsublist
    rw [← String.utf8ByteSize_ofList, ← String.utf8ByteSize_ofList, String.ofList_toList,
      String.ofList_toList] at hsize
    exact hsize.trans hpath.short
  · rw [start, Path.isAbsolute_ofString hkept, Path.names_ofString hkept]
    exact hroute

lemma Opens.write_eq (hpath : f.Opens path place) (content : Bytes) :
    f.write path content = .ok (f.put place content) := by
  rw [write, hpath.resolve_eq, targetAt]
  cases hentry : f.lookup? place with
  | none => rfl
  | some entry =>
    cases entry with
    | file => rfl
    | directory => exact absurd hentry hpath.route.lookup?_ne

/-- What is written is put to where the path leads. -/
lemma exists_opens_of_write {f' : Files} (hwrite : f.write path content = .ok f') :
    ∃ place, f.Opens path place ∧ f' = f.put place content := by
  obtain ⟨target, hresolve, -⟩ := bind_eq_ok.1 hwrite
  have hfile : ∀ place, target ≠ .found place .directory := by
    rintro place rfl
    rw [write, hresolve, ok_bind] at hwrite
    cases hwrite
  obtain ⟨place, hopens⟩ := exists_opens hresolve hfile
  exact ⟨place, hopens, Except.ok.inj (hwrite.symm.trans (hopens.write_eq content))⟩

lemma Opens.put {there : Location} (hpath : f.Opens path place)
    (hthere : f.lookup? there ≠ some .directory) (content : Bytes) :
    (f.put there content).Opens path place where
  null := hpath.null
  nonempty := hpath.nonempty
  short := hpath.short
  route := hpath.route.put hthere content

lemma Opens.resolve_put (hpath : f.Opens path place) (content : Bytes) :
    (f.put place content).resolve path = .ok (.found place (.file content)) := by
  have hentry := hpath.route.lookup?_ne
  rw [(hpath.put hentry content).resolve_eq, targetAt, lookup?_put hentry, if_pos rfl]

/-- A path at which a file is or may be put. -/
def Writable (f : Files) (path : Path) : Prop :=
  ∃ target, f.resolve path = .ok target ∧ ∀ place, target ≠ .found place .directory

lemma Writable.exists_opens (hpath : f.Writable path) : ∃ place, f.Opens path place := by
  obtain ⟨target, hresolve, hfile⟩ := hpath
  exact Files.exists_opens hresolve hfile

lemma Opens.writable (hpath : f.Opens path place) : f.Writable path := by
  refine ⟨_, hpath.resolve_eq, fun there hthere => hpath.route.lookup?_ne ?_⟩
  rw [targetAt] at hthere
  cases hentry : f.lookup? place with
  | none => rw [hentry] at hthere; cases hthere
  | some entry =>
    rw [hentry] at hthere
    obtain ⟨-, rfl⟩ := Target.found.inj hthere
    rfl

end Files

/-! ## Reading -/

/-- A text without carriage returns is read as it stands. -/
lemma unifyLineEnds_eq_self {cs : List Char} (hcs : '\r' ∉ cs) : Text.unifyLineEnds cs = cs := by
  induction cs with
  | nil => rfl
  | cons c cs ih =>
    rw [List.mem_cons, not_or] at hcs
    rw [Text.unifyLineEnds, ih hcs.2]
    · rintro rest rfl
      exact absurd rfl hcs.1
    · rintro rfl
      exact absurd rfl hcs.1

namespace Files

lemma bytes_eq_ok :
    f.bytes path = .ok content ↔ ∃ place, f.resolve path = .ok (.found place (.file content)) := by
  rw [bytes, bind_eq_ok]
  constructor
  · rintro ⟨target, hresolve, hcontent⟩
    cases target with
    | free place => cases hcontent
    | found place entry =>
      cases entry with
      | directory => cases hcontent
      | file found =>
        obtain rfl := Except.ok.inj hcontent
        exact ⟨place, hresolve⟩
  · rintro ⟨place, hresolve⟩
    exact ⟨_, hresolve, rfl⟩

/-- A file is read exactly if it holds the bytes of a text; every line end in it counts as a line
feed. -/
lemma read_eq_ok :
    f.read path = .ok text ↔ ∃ place written,
      f.resolve path = .ok (.found place (.file (Bytes.utf8 written))) ∧
        text = String.ofList (Text.unifyLineEnds written.toList) := by
  rw [read, bind_eq_ok]
  constructor
  · rintro ⟨content, hcontent, hread⟩
    obtain ⟨place, hresolve⟩ := bytes_eq_ok.1 hcontent
    cases hdecode : Utf8.decode content with
    | error fault =>
      rw [hdecode] at hread
      cases hread
    | ok written =>
      rw [hdecode] at hread
      rw [Utf8.decode_eq_ok.1 hdecode] at hresolve
      exact ⟨place, written, hresolve, (Except.ok.inj hread).symm⟩
  · rintro ⟨place, written, hresolve, rfl⟩
    refine ⟨_, bytes_eq_ok.2 ⟨place, hresolve⟩, ?_⟩
    rw [Utf8.decode_utf8]
    rfl

/-- A text without carriage returns is read as it was written. -/
lemma read_eq (hresolve : f.resolve path = .ok (.found place (.file (Bytes.utf8 text))))
    (htext : '\r' ∉ text.toList) : f.read path = .ok text := by
  refine read_eq_ok.2 ⟨place, text, hresolve, ?_⟩
  rw [unifyLineEnds_eq_self htext, String.ofList_toList]

/-- A file that is there is read as the text whose bytes it holds.  Where these are the bytes of no
text, the refusal tells of the first that belong to none, and before them stands a text. -/
theorem read_or_undecodable (hcontent : f.bytes path = .ok content) :
    (∃ written, content = Bytes.utf8 written ∧
      f.read path = .ok (String.ofList (Text.unifyLineEnds written.toList))) ∨
    ∃ fault s rest, f.read path = .error (.undecodable fault) ∧
      content = Bytes.utf8 s ++ fault.bytes ++ rest ∧ fault.place = (Bytes.utf8 s).length := by
  rw [read, hcontent, ok_bind]
  cases hdecode : Utf8.decode content with
  | ok written => exact Or.inl ⟨written, Utf8.decode_eq_ok.1 hdecode, rfl⟩
  | error fault =>
    obtain ⟨s, rest, hsplit, hplace⟩ := Utf8.of_decode_eq_error hdecode
    exact Or.inr ⟨fault, s, rest, rfl, hsplit, hplace⟩

end Files

end MerkleLog.Console
