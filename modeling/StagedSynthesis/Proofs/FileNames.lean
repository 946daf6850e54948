import StagedSynthesis.Proofs.Conversation
import StagedSynthesis.Proofs.Destinations
import StagedSynthesis.Proofs.SyncReset

/-!
# File names in commands

A tool reads a command as a sequence of arguments. Blanks separate them, except that an argument
which starts with a double quote runs to the next one and stands for the text between the two.
`Text.tokens` reads a command in this way, and `Text.tokens_joined` says that parts which are joined
by spaces are read one after the other. The main theorem, `file_names_are_single_arguments`, says of
every command that names a file of the caller that the tool reads this name, and nothing else, as
its last argument.
-/

namespace StagedSynthesis

/-! ## Reading arguments -/

namespace Text

/-- Where a reader is in a command: between two arguments, in a plain one, or in a quoted one, with
the letters of it that were read. -/
inductive Reading where
  | between
  | plain (letters : List Char)
  | quoted (letters : List Char)

/-- The arguments that are read from here on. -/
def readArguments : Reading → List Char → List String
  | .between, [] => []
  | .plain letters, [] => [String.ofList letters]
  | .quoted letters, [] => [String.ofList letters]
  | .between, c :: rest =>
      if isBlank c then readArguments .between rest
      else if c = '"' then readArguments (.quoted []) rest
      else readArguments (.plain [c]) rest
  | .plain letters, c :: rest =>
      if isBlank c then String.ofList letters :: readArguments .between rest
      else readArguments (.plain (letters ++ [c])) rest
  | .quoted letters, c :: rest =>
      if c = '"' then String.ofList letters :: readArguments .between rest
      else readArguments (.quoted (letters ++ [c])) rest

/-- The operation of a command and its arguments, as a tool reads them. -/
def tokens (command : String) : List String :=
  readArguments .between command.toList

/-- Letters that are not blank go on with an argument without quotes. -/
theorem read_plain {more : List Char} (hmore : ∀ c ∈ more, isBlank c = false)
    (letters rest : List Char) :
    readArguments (.plain letters) (more ++ rest) =
      readArguments (.plain (letters ++ more)) rest := by
  induction more generalizing letters with
  | nil => rw [List.nil_append, List.append_nil]
  | cons c others ih =>
      obtain ⟨hc, hothers⟩ := List.forall_mem_cons.mp hmore
      rw [List.cons_append, readArguments, hc, if_neg Bool.false_ne_true, ih hothers,
        List.append_assoc]
      rfl

/-- Letters other than a quote go on with an argument in quotes. -/
theorem read_quoted {more : List Char} (hmore : '"' ∉ more) (letters rest : List Char) :
    readArguments (.quoted letters) (more ++ rest) =
      readArguments (.quoted (letters ++ more)) rest := by
  induction more generalizing letters with
  | nil => rw [List.nil_append, List.append_nil]
  | cons c others ih =>
      obtain ⟨hc, hothers⟩ := not_or.mp (mt List.mem_cons.mpr hmore)
      rw [List.cons_append, readArguments, if_neg (Ne.symm hc), ih hothers, List.append_assoc]
      rfl

/-- A blank behind letters without a quote ends what they are read as. -/
theorem read_append_blank {blank : Char} (hblank : isBlank blank = true) {letters : List Char}
    (hletters : '"' ∉ letters) (rest : List Char) :
    readArguments .between (letters ++ blank :: rest) =
        readArguments .between letters ++ readArguments .between rest ∧
      ∀ front, readArguments (.plain front) (letters ++ blank :: rest) =
        readArguments (.plain front) letters ++ readArguments .between rest := by
  induction letters with
  | nil => simp [readArguments, hblank]
  | cons c others ih =>
      obtain ⟨hc, hothers⟩ := not_or.mp (mt List.mem_cons.mpr hletters)
      obtain ⟨hbetween, hplain⟩ := ih hothers
      cases hseparates : isBlank c <;>
        simp [readArguments, hseparates, Ne.symm hc, hbetween, hplain]

/-- A space behind a text without quotes ends its last argument. -/
theorem tokens_append_space {front : String} (hfront : '"' ∉ front.toList) (back : String) :
    tokens (front ++ " " ++ back) = tokens front ++ tokens back := by
  rw [tokens, String.toList_append, String.toList_append, List.append_assoc]
  exact (read_append_blank (by decide) hfront back.toList).1

/-- Parts that are joined by spaces are read one after the other. Only the last may have a quote in
it. -/
theorem tokens_joined {parts : List String} (hparts : ∀ part ∈ parts, '"' ∉ part.toList)
    (last : String) :
    tokens (joined " " (parts ++ [last])) = parts.flatMap tokens ++ tokens last := by
  induction parts with
  | nil => rfl
  | cons part rest ih =>
      obtain ⟨hpart, hrest⟩ := List.forall_mem_cons.mp hparts
      obtain ⟨next, others, hnext⟩ := List.exists_cons_of_ne_nil
        (List.append_ne_nil_of_right_ne_nil rest (List.cons_ne_nil last []))
      rw [List.cons_append, hnext, joined_cons_cons, ← hnext, tokens_append_space hpart, ih hrest,
        List.flatMap_cons, List.append_assoc]

/-- A text that is one argument as it stands. -/
def IsWord (text : String) : Prop :=
  text ≠ "" ∧ ∀ c ∈ text.toList, isBlank c = false ∧ c ≠ '"'

instance (text : String) : Decidable (IsWord text) :=
  @instDecidableAnd _ _ inferInstance
    (List.decidableBAll (fun c => isBlank c = false ∧ c ≠ '"') text.toList)

/-- A word has no quotes. -/
theorem IsWord.quote_not_mem {text : String} (h : IsWord text) : '"' ∉ text.toList :=
  fun hquote => (h.2 _ hquote).2 rfl

/-- A word is read as one argument. -/
theorem tokens_of_word {text : String} (h : IsWord text) : tokens text = [text] := by
  obtain ⟨hempty, hletters⟩ := h
  obtain ⟨c, others, hlist⟩ := List.exists_cons_of_ne_nil (mt String.toList_eq_nil_iff.mp hempty)
  rw [hlist] at hletters
  obtain ⟨⟨hblank, hquote⟩, hothers⟩ := List.forall_mem_cons.mp hletters
  have hread := read_plain (fun d hd => (hothers d hd).1) [c] []
  rw [List.append_nil] at hread
  rw [tokens, hlist, readArguments, hblank, if_neg Bool.false_ne_true, if_neg hquote, hread,
    readArguments, List.singleton_append, ← hlist, String.ofList_toList]

/-- A text in quotes is read as one argument, without the quotes. -/
theorem tokens_in_quotes {text : String} (h : '"' ∉ text.toList) :
    tokens ("\"" ++ text ++ "\"") = [text] := by
  have hletters : ("\"" ++ text ++ "\"").toList = '"' :: (text.toList ++ ['"']) := by
    simp
  rw [tokens, hletters, readArguments, if_neg (by decide), if_pos rfl, read_quoted h,
    List.nil_append, readArguments, if_pos rfl, readArguments, String.ofList_toList]

/-! ## File names -/

/-- A text that a caller can mean as the name of a file: it is not empty, and it has no double quote
in it. -/
def IsFileName (path : String) : Prop :=
  path ≠ "" ∧ '"' ∉ path.toList

instance (path : String) : Decidable (IsFileName path) :=
  inferInstanceAs (Decidable (_ ∧ _))

/-- A file name is read back as one argument, with or without blanks. -/
theorem tokens_file_argument {path : String} (h : IsFileName path) :
    tokens (fileArgument path) = [path] := by
  unfold fileArgument
  split
  · exact tokens_in_quotes h.2
  · next hblank =>
    refine tokens_of_word ⟨h.1, ?_⟩
    intro c hc
    refine ⟨?_, fun hquote => h.2 (hquote ▸ hc)⟩
    simp only [List.any_eq_true, not_exists, not_and, Bool.not_eq_true] at hblank
    exact hblank c hc

/-- An argument has a blank in it exactly if the file name has one. -/
theorem any_blank_file_argument (path : String) :
    (fileArgument path).toList.any isBlank = path.toList.any isBlank := by
  unfold fileArgument
  split
  · next hblank => simp [hblank]
  · rfl

/-- Different texts are given as different arguments, whatever letters they have. -/
theorem file_argument_injective : Function.Injective fileArgument := by
  intro one other h
  have hblank : one.toList.any isBlank = other.toList.any isBlank := by
    rw [← any_blank_file_argument, h, any_blank_file_argument]
  unfold fileArgument at h
  rw [hblank] at h
  split at h
  · rwa [String.append_left_inj, String.append_right_inj] at h
  · exact h

/-- A command with a file name behind plain arguments is read as these arguments and the name. -/
theorem tokens_file_command {name : String} (front : List String)
    (hwords : ∀ part ∈ name :: front, IsWord part) {path : String} (hpath : IsFileName path) :
    tokens (commandLine name (front ++ [fileArgument path])) = name :: front ++ [path] := by
  have hread : (name :: front).flatMap tokens = name :: front := by
    rw [List.flatMap_congr (fun part hpart => tokens_of_word (hwords part hpart)),
      List.flatMap_singleton']
  rw [commandLine, ← List.cons_append,
    tokens_joined (fun part hpart => (hwords part hpart).quote_not_mem), hread,
    tokens_file_argument hpath]

end Text

/-! ## Commands that name a file -/

/-- An input file is one argument of the command that reads it. -/
theorem tokens_read_command {input : String} (h : Text.IsFileName input) :
    Text.tokens (readCommand input) = ["read_verilog", input] :=
  Text.tokens_file_command [] (by decide) h

namespace Session

variable {τ : Type}

/-- A checkpoint is one argument of the command that restores it. -/
theorem tokens_restore_command {path : String} (h : Text.IsFileName path) :
    Text.tokens (restoreCommand path) = ["read_rtlil", path] :=
  Text.tokens_file_command [] (by decide) h

/-- A checkpoint is one argument of the command that saves it. -/
theorem tokens_save_command {path : String} (h : Text.IsFileName path) :
    Text.tokens (saveCommand path) = ["write_rtlil", path] :=
  Text.tokens_file_command [] (by decide) h

/-- Inputs are read in order, all of them or up to one that cannot be read. -/
theorem sent_read_inputs (tool : Tool τ) {session : Session τ} (hintact : session.broken = none)
    (inputs : List String) :
    ∃ attempted, attempted <+: inputs ∧
      (attempted = inputs ∨ ∃ input cause, attempted.getLast? = some input ∧
        (session.readInputs tool inputs).2 = .error (.readingInput input cause)) ∧
      Sent tool session (attempted.map readCommand) (session.readInputs tool inputs).1 := by
  rcases sends_read_each tool inputs hintact with ⟨after, hread, hsends⟩ | hfails
  · refine ⟨inputs, List.prefix_rfl, .inl rfl, ?_⟩
    simp only [readInputs, hread]
    exact ⟨hsends.sent.heard, hsends.sent.count⟩
  · obtain ⟨earlier, input, rest, cause, after, rfl, hread, hsends⟩ := hfails
    refine ⟨earlier ++ [input], ⟨rest, by simp⟩, .inr ⟨input, cause, List.getLast?_concat, ?_⟩, ?_⟩
    · simp only [readInputs, hread]
    · simp only [readInputs, hread]
      exact hsends.sent

/-- An intact session that writes a checkpoint sends exactly the command that saves it. -/
theorem sent_write_checkpoint (tool : Tool τ) {session : Session τ}
    (hintact : session.broken = none) (path : String) :
    Sent tool session [saveCommand path] (session.writeCheckpoint tool path).1 := by
  have hsent := sent_execute hintact tool (saveCommand path)
  rcases hexecute : session.execute tool (saveCommand path) with ⟨after, _ | _⟩ <;>
    rw [hexecute] at hsent <;> rw [writeCheckpoint, ← saveCommand, hexecute] <;> exact hsent

end Session

namespace OutputFormat

/-- The operation of a writer and its fixed arguments are single words. -/
theorem is_word_writer (format : OutputFormat) :
    ∀ part ∈ format.writer :: format.writerArguments, Text.IsWord part := by
  cases format <;> decide

/-- A format is written by the operation of its writer. -/
theorem operation_write_command (format : OutputFormat) (path : String) :
    Text.operation (format.writeCommand path) = format.writer :=
  Text.operation_command_line (by cases format <;> decide) _

/-- What is run before a format is written does not call its writer. -/
theorem operation_preparation (format : OutputFormat) :
    ∀ command ∈ format.preparation, Text.operation command ≠ format.writer := by
  cases format <;> decide

end OutputFormat

/-- A script calls a writer once if its format has a destination, and otherwise never. -/
theorem Script.writer_commands {configuration : Configuration}
    (hmode : configuration.mode = .execute) (format : OutputFormat) :
    ((build configuration).callsOf format.writer).map Invocation.command =
      (configuration.output format).toList.map format.writeCommand := by
  have hstages : ((Flow.plan configuration).filter fun entry =>
        format.writer ∈ Flow.operationsOf entry.1) =
      [(format.optionName, format.recipe configuration)] := by
    cases format <;> rfl
  rw [commands_calling hmode, hstages, List.flatMap_singleton, Recipe.calling,
    ← Recipe.map_command_entered _ _ [], OutputFormat.entered_recipe]
  cases configuration.output format with
  | none => rfl
  | some path =>
      have hpreparation : format.preparation.filter (fun command =>
          Text.operation command ∈ [format.writer]) = [] := by
        simpa using format.operation_preparation
      simp only [OutputFormat.writing, List.map_map, Function.comp_def, List.map_id',
        List.filter_append, hpreparation]
      simp [format.operation_write_command]

/-- Every file name is read as the one argument that it was given as, and different texts are given
as different arguments. Each command by which a session or a script file reads the inputs, by which
a session restores or saves a design, and by which a script writes the design to a destination is
read as fixed arguments and, behind them, the name of the file. -/
theorem file_names_are_single_arguments :
    Function.Injective Text.fileArgument ∧
      (∀ path, Text.IsFileName path → Text.tokens (Text.fileArgument path) = [path]) ∧
      (∀ (τ : Type) (tool : Tool τ) (session : Session τ), session.broken = none →
        (∀ inputs, (∀ input ∈ inputs, Text.IsFileName input) →
          ∃ attempted, attempted <+: inputs ∧
            (attempted = inputs ∨ ∃ input cause, attempted.getLast? = some input ∧
              (session.readInputs tool inputs).2 = .error (.readingInput input cause)) ∧
            Session.Sent tool session (attempted.map readCommand)
              (session.readInputs tool inputs).1 ∧
            ∀ input ∈ attempted, Text.tokens (readCommand input) = ["read_verilog", input]) ∧
        ∀ path, Text.IsFileName path →
          Session.Sent tool session [Session.restoreCommand path]
              (session.readCheckpoint tool path).1 ∧
            Text.tokens (Session.restoreCommand path) = ["read_rtlil", path] ∧
          Session.Sent tool session [Session.saveCommand path]
              (session.writeCheckpoint tool path).1 ∧
            Text.tokens (Session.saveCommand path) = ["write_rtlil", path]) ∧
      (∀ (file : ScriptFile) (header : String),
        (∀ input ∈ file.inputs, Text.IsFileName input) →
        ∃ reads, file.text header =
            Text.lines (("# " ++ header) :: reads ++ file.commands.toList) ∧
          reads.map Text.tokens = file.inputs.map fun input => ["read_verilog", input]) ∧
      ∀ configuration : Configuration, configuration.mode = .execute →
        ∀ (format : OutputFormat) (path : String), configuration.output format = some path →
          Text.IsFileName path →
          ((Script.build configuration).callsOf format.writer).map
              (fun invocation => Text.tokens invocation.command) =
            [format.writer :: format.writerArguments ++ [path]] := by
  refine ⟨Text.file_argument_injective, fun path hpath => Text.tokens_file_argument hpath,
    ?sessions, ?files, ?writers⟩
  case sessions =>
    intro τ tool session hintact
    refine ⟨?_, ?_⟩
    · intro inputs hinputs
      obtain ⟨attempted, hattempted, hstops, hsent⟩ :=
        Session.sent_read_inputs tool hintact inputs
      refine ⟨attempted, hattempted, hstops, hsent, ?_⟩
      intro input hinput
      exact tokens_read_command (hinputs input (hattempted.subset hinput))
    · intro path hpath
      exact ⟨(Session.loads_read_checkpoint tool hintact path).sent,
        Session.tokens_restore_command hpath, Session.sent_write_checkpoint tool hintact path,
        Session.tokens_save_command hpath⟩
  case files =>
    intro file header hinputs
    refine ⟨file.inputs.map readCommand, rfl, ?_⟩
    rw [List.map_map]
    exact List.map_congr_left fun input hinput => tokens_read_command (hinputs input hinput)
  case writers =>
    intro configuration hmode format path hdestination hpath
    have hcommands := Script.writer_commands hmode format
    rw [hdestination] at hcommands
    have htokens := congrArg (List.map Text.tokens) hcommands
    rw [List.map_map] at htokens
    refine htokens.trans ?_
    rw [← Text.tokens_file_command _ format.is_word_writer hpath]
    rfl

/-- A name with two kinds of blanks, as an input, as a checkpoint and as a destination. -/
theorem file_names_are_single_arguments_with_blanks :
    let path := "my\u00a0dir/top level.il"
    let tool := CommandLine.remembering 0
    let session := Session.start ([["qlsynth-ack-1"], ["qlsynth-ack-2"]].map Session.output, [])
    let file : ScriptFile := { inputs := ["a.v", path], commands := #["proc"] }
    let configuration := Options.configure { outputs := { edif := some path } } .pp3
    Text.IsFileName path ∧ session.broken = none ∧ configuration.mode = .execute ∧
      configuration.output .edif = some path ∧
      Text.tokens (Text.fileArgument path) = [path] ∧
      (∃ attempted, attempted <+: [path, "b.v"] ∧
        (attempted = [path, "b.v"] ∨ ∃ input cause, attempted.getLast? = some input ∧
          (session.readInputs tool [path, "b.v"]).2 = .error (.readingInput input cause)) ∧
        Session.Sent tool session (attempted.map readCommand)
          (session.readInputs tool [path, "b.v"]).1 ∧
        ∀ input ∈ attempted, Text.tokens (readCommand input) = ["read_verilog", input]) ∧
      Session.Sent tool session [Session.restoreCommand path]
        (session.readCheckpoint tool path).1 ∧
      Text.tokens (Session.restoreCommand path) = ["read_rtlil", path] ∧
      Session.Sent tool session [Session.saveCommand path]
        (session.writeCheckpoint tool path).1 ∧
      Text.tokens (Session.saveCommand path) = ["write_rtlil", path] ∧
      (∃ reads, file.text "all" = Text.lines ("# all" :: reads ++ ["proc"]) ∧
        reads.map Text.tokens = [["read_verilog", "a.v"], ["read_verilog", path]]) ∧
      ((Script.build configuration).callsOf "write_ql_edif").map
          (fun invocation => Text.tokens invocation.command) =
        [["write_ql_edif", "-nogndvcc", "-attrprop", "-pvector", "par", path]] := by
  intro path tool session file configuration
  obtain ⟨-, hargument, hsessions, hfiles, hwriters⟩ := file_names_are_single_arguments
  have hpath : Text.IsFileName path := by decide
  obtain ⟨hinputs, hcheckpoint⟩ := hsessions _ tool session rfl
  obtain ⟨hrestored, hrestore, hsaved, hsave⟩ := hcheckpoint path hpath
  exact ⟨hpath, rfl, rfl, rfl, hargument path hpath, hinputs _ (by decide), hrestored, hrestore,
    hsaved, hsave, hfiles file "all" (by decide),
    hwriters configuration rfl .edif path rfl hpath⟩

end StagedSynthesis
