import MerkleLog.Console.Run
import MerkleLog.Proofs.Console.Arguments

/-!
# How actions end

What an action comes to depends on the files alone, and so do the files that it leaves and the text
that it prints; the journal only decides what is logged.  Actions are put together by the law of
their chaining.
-/

namespace MerkleLog.Console

variable {α β : Type} {files files' files'' : Files} {printed printed' : String} {stop : Stop}

namespace Action

/-- From some files on, an action has an outcome, leaves files and prints a text. -/
def Ends (x : Action α) (files : Files) (outcome : Except Stop α) (files' : Files)
    (printed : String) : Prop :=
  ∀ s : Session, s.files = files →
    ∃ s', x.run s = (outcome, s') ∧ s'.files = files' ∧ s'.output = s.output ++ printed

variable {x : Action α} {f : α → Action β} {a : α}

namespace Ends

lemma pure (a : α) : Ends (Pure.pure a) files (.ok a) files "" :=
  fun s hs => ⟨s, rfl, hs, String.append_empty.symm⟩

lemma throw (stop : Stop) : Ends (MonadExcept.throw stop : Action α) files (.error stop) files "" :=
  fun s hs => ⟨s, rfl, hs, String.append_empty.symm⟩

/-- What follows a step goes on from where the step ended. -/
lemma bind {outcome : Except Stop β} (hx : Ends x files (.ok a) files' printed)
    (hf : Ends (f a) files' outcome files'' printed') :
    Ends (x >>= f) files outcome files'' (printed ++ printed') := by
  intro s hs
  obtain ⟨s', hrun, hfiles, houtput⟩ := hx s hs
  obtain ⟨s'', hrun', hfiles', houtput'⟩ := hf s' hfiles
  refine ⟨s'', ?_, hfiles', ?_⟩
  · rw [← hrun']
    change (ExceptT.bindCont f (x.run s).1) (x.run s).2 = _
    rw [hrun]
    rfl
  · rw [houtput', houtput, String.append_assoc]

/-- What follows a step that stops is not done. -/
lemma bind_error (hx : Ends x files (.error stop) files' printed) :
    Ends (x >>= f) files (.error stop) files' printed := by
  intro s hs
  obtain ⟨s', hrun, hfiles, houtput⟩ := hx s hs
  refine ⟨s', ?_, hfiles, houtput⟩
  change (ExceptT.bindCont f (x.run s).1) (x.run s).2 = _
  rw [hrun]
  rfl

/-- A step that prints nothing can be passed over. -/
lemma bind_silent {outcome : Except Stop β} (hx : Ends x files (.ok a) files' "")
    (hf : Ends (f a) files' outcome files'' printed') :
    Ends (x >>= f) files outcome files'' printed' := by
  simpa using hx.bind hf

lemma log (notices : List Notice) : Ends (Action.log notices) files (.ok ()) files "" :=
  fun _ hs => ⟨_, rfl, hs, String.append_empty.symm⟩

lemma print (line : String) : Ends (Action.print line) files (.ok ()) files (line ++ "\n") :=
  fun _ hs => ⟨_, rfl, hs, String.append_assoc⟩

lemma say {markup : String} {cs : List Char} (hmarkup : Markup.render markup = .ok cs) :
    Ends (Action.say markup) files (.ok ()) files (Layout.layOut cs ++ "\n") := by
  rw [Action.say, hmarkup]
  exact print _

/-- A text whose markup is faulty ends the program. -/
lemma say_error {markup : String} {cause : Markup.Fault}
    (hmarkup : Markup.render markup = .error cause) :
    Ends (Action.say markup) files (.error (.failure (.markup cause))) files "" := by
  rw [Action.say, hmarkup]
  exact throw _

lemma ofExcept {e : Except Error α} (he : e = .ok a) :
    Ends (Action.ofExcept e) files (.ok a) files "" := by
  rw [he]
  exact pure a

lemma onFiles {e : Except FileError α} (he : e = .ok a) :
    Ends (Action.onFiles e) files (.ok a) files "" := by
  rw [he]
  exact pure a

lemma ofExcept_error {e : Except Error α} {cause : Error} (he : e = .error cause) :
    Ends (Action.ofExcept e) files (.error (.failure (.log cause))) files "" := by
  rw [he]
  exact throw _

lemma onFiles_error {e : Except FileError α} {cause : FileError} (he : e = .error cause) :
    Ends (Action.onFiles e) files (.error (.failure (.file cause))) files "" := by
  rw [he]
  exact throw _

/-- A step that looks at what was done so far knows the files. -/
lemma get_bind {g : Session → Action β} {outcome : Except Stop β}
    (hg : ∀ s : Session, s.files = files → Ends (g s) files outcome files' printed) :
    Ends (get >>= g) files outcome files' printed :=
  fun s hs => hg s hs s hs

/-- What follows the question whether a path leads to something goes on with the answer. -/
lemma contains_bind {path : Path} {found : Bool} {g : Bool → Action β}
    {outcome : Except Stop β} (hcontains : files.contains path = .ok found)
    (hg : Ends (g found) files outcome files' printed) :
    Ends (do g (← Action.onFiles ((← get).files.contains path))) files outcome files' printed :=
  get_bind fun _ hs => (onFiles (hs ▸ hcontains)).bind_silent hg

lemma read {path : Path} {text : String} (hread : files.read path = .ok text) :
    Ends (Action.read path) files (.ok text) files "" :=
  get_bind fun _ hs => onFiles (hs ▸ hread)

lemma write {path : Path} {text : String}
    (hwrite : files.write path (Bytes.utf8 text) = .ok files') :
    Ends (Action.write path text) files (.ok ()) files' "" := by
  have hmodify : Ends (modify fun s => { s with files := files' }) files (.ok ()) files' "" :=
    fun s _ => ⟨_, rfl, rfl, String.append_empty.symm⟩
  exact get_bind fun _ hs => (onFiles (hs ▸ hwrite)).bind_silent hmodify

end Ends

/-! ## Refusals -/

/-- From some files on, an action stops before it is done, and leaves the files as they are. -/
def Refuses (x : Action α) (files : Files) : Prop :=
  ∃ stop printed, stop ≠ .exit 0 ∧ Ends x files (.error stop) files printed

lemma Ends.refuses (hx : Ends x files (.error stop) files printed) (hstop : stop ≠ .exit 0) :
    Refuses x files :=
  ⟨stop, printed, hstop, hx⟩

namespace Refuses

lemma throw (hstop : stop ≠ .exit 0) : Refuses (MonadExcept.throw stop : Action α) files :=
  (Ends.throw stop).refuses hstop

/-- What follows a refusal is not done. -/
lemma bind (hx : Refuses x files) : Refuses (x >>= f) files := by
  obtain ⟨stop, printed, hstop, hx⟩ := hx
  exact ⟨stop, printed, hstop, hx.bind_error⟩

/-- After a step that leaves the files as they are, a refusal is one of the whole. -/
lemma after (hx : Ends x files (.ok a) files printed) (hf : Refuses (f a) files) :
    Refuses (x >>= f) files := by
  obtain ⟨stop, printed', hstop, hf⟩ := hf
  exact ⟨stop, printed ++ printed', hstop, hx.bind hf⟩

/-- What the files alone decide is refused if it is refused for them. -/
lemma get_bind {g : Session → Action β} {y : Action β}
    (hg : ∀ s : Session, s.files = files → g s = y) (hy : Refuses y files) :
    Refuses (get >>= g) files := by
  obtain ⟨stop, printed, hstop, hy⟩ := hy
  exact ⟨stop, printed, hstop, Ends.get_bind fun s hs => hg s hs ▸ hy⟩

lemma contains_bind {path : Path} {found : Bool} {g : Bool → Action β}
    (hcontains : files.contains path = .ok found) (hg : Refuses (g found) files) :
    Refuses (do g (← Action.onFiles ((← get).files.contains path))) files := by
  obtain ⟨stop, printed, hstop, hg⟩ := hg
  exact ⟨stop, printed, hstop, Ends.contains_bind hcontains hg⟩

/-- What is said before a stop may be faulty, and then stops the run itself. -/
lemma say (markup : String) (hstop : stop ≠ .exit 0) :
    Refuses (do Action.say markup; MonadExcept.throw stop : Action α) files := by
  cases hmarkup : Markup.render markup with
  | error cause => exact bind ((Ends.say_error hmarkup).refuses nofun)
  | ok cs => exact after (Ends.say hmarkup) (throw hstop)

end Refuses

/-- From some files on, an action refuses, or it has an outcome and leaves files as described. -/
def RefusesOr (x : Action α) (files : Files) (done : Except Stop α → Files → Prop) : Prop :=
  Refuses x files ∨
    ∃ outcome files' printed, done outcome files' ∧ Ends x files outcome files' printed

/-- After a step that leaves the files as they are, the whole comes to what the rest comes to. -/
lemma RefusesOr.after {done : Except Stop β → Files → Prop}
    (hx : Ends x files (.ok a) files printed) (hf : RefusesOr (f a) files done) :
    RefusesOr (x >>= f) files done := by
  rcases hf with href | ⟨outcome, files', printed', hdone, hf⟩
  · exact Or.inl (Refuses.after hx href)
  · exact Or.inr ⟨outcome, files', printed ++ printed', hdone, hx.bind hf⟩

lemma refuses_or_ofExcept (e : Except Error α) (files : Files) :
    Refuses (Action.ofExcept e) files ∨ ∃ a, e = .ok a := by
  cases e with
  | error cause => exact Or.inl ((Ends.ofExcept_error rfl).refuses nofun)
  | ok a => exact Or.inr ⟨a, rfl⟩

lemma refuses_or_read (files : Files) (path : Path) :
    Refuses (Action.read path) files ∨ ∃ text, files.read path = .ok text := by
  cases hread : files.read path with
  | error cause =>
    have hends : Ends (Action.read path) files (.error (.failure (.file cause))) files "" :=
      Ends.get_bind fun _ hs => Ends.onFiles_error (hs ▸ hread)
    exact Or.inl (hends.refuses nofun)
  | ok text => exact Or.inr ⟨text, rfl⟩

lemma refuses_or_write (files : Files) (path : Path) (text : String) :
    Refuses (Action.write path text) files ∨
      ∃ files', files.write path (Bytes.utf8 text) = .ok files' := by
  cases hwrite : files.write path (Bytes.utf8 text) with
  | error cause =>
    have hends : Ends (Action.write path text) files (.error (.failure (.file cause))) files "" :=
      Ends.get_bind fun _ hs => (Ends.onFiles_error (hs ▸ hwrite)).bind_error
    exact Or.inl (hends.refuses nofun)
  | ok files' => exact Or.inr ⟨files', rfl⟩

end Action

/-! ## Commands from the command line -/

/-- How a run stops whose command has an outcome. -/
def Stop.ofOutcome : Except Stop Unit → Stop
  | .ok () => .exit 0
  | .error stop => stop

/-- A run ends as what the command line asks for does. -/
lemma run_eq_of_fulfil {settings : Settings} {h : Hash} {args : List String} {request : Request}
    {outcome : Except Stop Unit} (hrequest : Request.ofArguments? args = some request)
    (hfulfil : (fulfil settings h request).Ends files outcome files' printed) :
    (run settings h args files).stop = Stop.ofOutcome outcome ∧
      (run settings h args files).session.files = files' ∧
      (run settings h args files).session.output = printed := by
  obtain ⟨s, hrun, hfiles, houtput⟩ := hfulfil ⟨files, .initial, "", []⟩ rfl
  have hreport : run settings h args files = ⟨Stop.ofOutcome outcome, s⟩ := by
    simp only [run, hrequest, hrun]
    cases outcome <;> rfl
  rw [hreport]
  exact ⟨rfl, hfiles, by simpa using houtput⟩

lemma ends_openJournal {settings : Settings} {verbose : Bool} {level : Level}
    (hlevel : (if verbose then .ok .debug else Level.ofSetting settings.logLevel) = .ok level) :
    (openJournal settings verbose).Ends files (.ok ()) files "" := by
  rw [openJournal, hlevel]
  exact fun s hs => ⟨_, rfl, hs, String.append_empty.symm⟩

/-- The journal may be set up to no known level. -/
lemma refuses_or_openJournal (settings : Settings) (verbose : Bool) (files : Files) :
    (openJournal settings verbose).Refuses files ∨
      (openJournal settings verbose).Ends files (.ok ()) files "" := by
  cases hlevel : (if verbose then .ok .debug else Level.ofSetting settings.logLevel) with
  | error cause =>
    rw [openJournal, hlevel]
    exact Or.inl (Action.Refuses.throw nofun)
  | ok level => exact Or.inr (ends_openJournal hlevel)

section Command

variable {settings : Settings} {h : Hash} {args words : List String} {command : Command}
  {verbose : Bool} {name : CommandName} {level : Level} {outcome : Except Stop Unit}

/-- Once the journal is set up, the command is carried out. -/
lemma ends_fulfil (hjournal : (openJournal settings verbose).Ends files (.ok ()) files "")
    (herrand : name.errand? words = some (.run command))
    (hact : (command.act settings h).Ends files outcome files' printed) :
    (fulfil settings h (.invoke verbose name words)).Ends files outcome files' printed := by
  rw [fulfil]
  refine hjournal.bind_silent ?_
  rw [herrand]
  exact hact

/-- A run that asks for a command ends as the command does. -/
lemma run_eq (hlevel : Level.ofSetting settings.logLevel = .ok level) (hargs : Asks args command)
    (hact : (command.act settings h).Ends files outcome files' printed) :
    (run settings h args files).stop = Stop.ofOutcome outcome ∧
      (run settings h args files).session.files = files' ∧
      (run settings h args files).session.output = printed := by
  obtain ⟨verbose, name, words, hrequest, herrand⟩ := hargs
  have hjournal : (openJournal settings verbose).Ends files (.ok ()) files "" := by
    cases verbose
    · exact ends_openJournal hlevel
    · exact ends_openJournal rfl
  exact run_eq_of_fulfil hrequest (ends_fulfil hjournal herrand hact)

/-- A run that asks for a command refuses, if only to set up the journal, or comes to what the
command comes to. -/
lemma run_refuses_or {done : Except Stop Unit → Files → Prop} (hargs : Asks args command)
    (hact : (command.act settings h).RefusesOr files done) :
    ((run settings h args files).stop ≠ .exit 0 ∧
      (run settings h args files).session.files = files) ∨
    ∃ outcome, (run settings h args files).stop = Stop.ofOutcome outcome ∧
      done outcome (run settings h args files).session.files := by
  obtain ⟨verbose, name, words, hrequest, herrand⟩ := hargs
  have hrefused : (fulfil settings h (.invoke verbose name words)).Refuses files →
      (run settings h args files).stop ≠ .exit 0 ∧
        (run settings h args files).session.files = files := by
    rintro ⟨stop, printed, hstop, hends⟩
    obtain ⟨hrun, hfiles, -⟩ := run_eq_of_fulfil hrequest hends
    exact ⟨hrun ▸ hstop, hfiles⟩
  rcases refuses_or_openJournal settings verbose files with href | hjournal
  · exact Or.inl (hrefused href.bind)
  · rcases hact with ⟨stop, printed, hstop, hact⟩ | ⟨outcome, files', printed, hdone, hact⟩
    · exact Or.inl (hrefused ⟨stop, printed, hstop, ends_fulfil hjournal herrand hact⟩)
    · obtain ⟨hrun, hfiles, -⟩ := run_eq_of_fulfil hrequest (ends_fulfil hjournal herrand hact)
      exact Or.inr ⟨outcome, hrun, hfiles ▸ hdone⟩

end Command

end MerkleLog.Console
