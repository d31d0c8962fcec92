import MerkleLog.Console.Arguments
import MerkleLog.Proofs.Text.Numeral

/-!
# What command lines ask for

A word that names an option takes the next word as its value, whatever that looks like, and what
follows a double dash is an operand.  So a command can be asked for with any paths.
-/

namespace MerkleLog.Console

variable {valued plain rest : List String} {name value word : String}

/-- A command line that asks for a command. -/
def Asks (args : List String) (command : Command) : Prop :=
  ∃ verbose name words, Request.ofArguments? args = some (.invoke verbose name words) ∧
    name.errand? words = some (.run command)

/-! ## Words -/

/-- A word that is the name of an option without a value in it. -/
def NamesOption (name : String) : Prop :=
  name ≠ "--" ∧ isOption name = true ∧ splitOption name = (name, none)

instance (name : String) : Decidable (NamesOption name) :=
  inferInstanceAs (Decidable (_ ∧ _ ∧ _))

lemma words?_option (hname : NamesOption name) (hvalued : valued.contains name = true) :
    words? valued plain none (name :: value :: rest)
      = (words? valued plain none rest).map (·.addOption name value) := by
  obtain ⟨hdash, hoption, hsplit⟩ := hname
  rw [words?, if_neg hdash, if_pos hoption, hsplit]
  dsimp only
  rw [if_pos hvalued, words?]

lemma words?_dashes (operands : List String) :
    words? valued plain none ("--" :: operands) = some ⟨[], operands⟩ := by
  rw [words?]
  exact if_pos rfl

/-- A word that is the name of a command. -/
def NamesCommand (word : String) (name : CommandName) : Prop :=
  word ≠ "--" ∧ isVerbose word = false ∧ word ≠ "--help" ∧ isOption word = false ∧
    CommandName.ofString? word = some name

instance (word : String) (name : CommandName) : Decidable (NamesCommand word name) :=
  inferInstanceAs (Decidable (_ ∧ _ ∧ _ ∧ _ ∧ _))

lemma ofArguments?_command {name : CommandName} (hword : NamesCommand word name)
    (words : List String) :
    Request.ofArguments? (word :: words) = some (.invoke false name words) := by
  obtain ⟨hdash, hverbose, hhelp, hoption, hname⟩ := hword
  rw [Request.ofArguments?, requestAfter?, if_neg hdash, if_neg (by simp [hverbose]),
    if_neg hhelp, if_neg (by simp [hoption]), if_neg (by decide), requestOf?, hname]
  rfl

lemma asks_accumulate (leaves store : String) :
    Asks ["accumulate", "--store", store, "--", leaves] (.accumulate leaves store false) := by
  refine ⟨false, .accumulate, _, ofArguments?_command (by decide +kernel) _, ?_⟩
  have hwords : words? ["--store"] ["--help", "--hex"] none ["--store", store, "--", leaves]
      = some ⟨[("--store", store)], [leaves]⟩ := by
    rw [words?_option (by decide +kernel) (by decide), words?_dashes]
    rfl
  rw [CommandName.errand?, errand?, hwords]
  simp [Words.has, Words.value?, Words.store]

end MerkleLog.Console
