import Mathlib.Algebra.Order.BigOperators.Group.List
import Mathlib.Algebra.Order.Group.Nat
import Mathlib.Algebra.Ring.Nat
import StagedSynthesis.Proofs.FileNames
import StagedSynthesis.Proofs.Retyping
import StagedSynthesis.Proofs.Session.Line

/-!
# Library files in commands

A file of the cell library is named in a command by the library path and its name below it, joined
as they are, whereas the files of a caller are quoted where they have blanks. A library path with a
blank between other letters therefore makes several arguments of each file, while blanks in front
of it are only lost (`Text.two_le_length_tokens`, `Text.tokens_below_root`). The main theorem,
`library_files_stay_whole_iff`, compares the script of a configuration with the one for the default
library, command by command. No argument below the default library may stay where it is for another
library, which is seen from the letter `+` that almost no other argument has.
-/

namespace StagedSynthesis

/-! ## Reading a file below a root -/

namespace Text

open Session (Blank blank_append_iff exists_blank_append_trim_start trim_start_eq_nil_iff)

/-- Blanks between arguments are skipped. -/
theorem read_blank_append {blanks : List Char} (hblanks : Blank blanks) (rest : List Char) :
    readArguments .between (blanks ++ rest) = readArguments .between rest := by
  induction blanks with
  | nil => rfl
  | cons c others ih =>
      obtain ⟨hc, hothers⟩ := List.forall_mem_cons.mp hblanks
      rw [List.cons_append, readArguments, if_pos hc, ih hothers]

/-- An argument that was begun is read. -/
theorem read_begun_ne_nil (letters : List Char) :
    (∀ front, readArguments (.plain front) letters ≠ []) ∧
      ∀ front, readArguments (.quoted front) letters ≠ [] := by
  induction letters with
  | nil => simp [readArguments]
  | cons c rest ih =>
      refine ⟨?_, ?_⟩ <;> intro front <;> rw [readArguments] <;> split <;> simp [ih]

/-- A text with a letter that is not blank has an argument. -/
theorem read_ne_nil {letters : List Char} (h : ¬ Blank letters) :
    readArguments .between letters ≠ [] := by
  obtain ⟨blanks, hblanks, hletters⟩ := exists_blank_append_trim_start letters
  have hread := read_blank_append hblanks (trimStart letters)
  rw [← hletters] at hread
  obtain ⟨c, rest, htrimmed⟩ := List.exists_cons_of_ne_nil (mt trim_start_eq_nil_iff.mp h)
  have hc : isBlank c = false := by
    have hhead := List.head?_dropWhile_not isBlank letters
    rwa [← trimStart, htrimmed] at hhead
  rw [hread, htrimmed, readArguments, hc, if_neg Bool.false_ne_true]
  split
  · exact (read_begun_ne_nil rest).2 _
  · exact (read_begun_ne_nil rest).1 _

/-- The text without the blanks in front of its other letters. -/
def leftTrimmed (text : String) : String :=
  String.ofList (trimStart text.toList)

/-- Blanks of a text stand only in front of its other letters. -/
def BlanksInFront (text : String) : Prop :=
  ∀ c ∈ (leftTrimmed text).toList, isBlank c = false

instance (text : String) : Decidable (BlanksInFront text) :=
  List.decidableBAll (isBlank · = false) (leftTrimmed text).toList

/-- Two words next to each other are one word. -/
theorem IsWord.append {first second : String} (hfirst : IsWord first) (hsecond : IsWord second) :
    IsWord (first ++ second) := by
  refine ⟨fun hempty => hsecond.1 (String.append_eq_empty_iff.mp hempty).2, ?_⟩
  rw [String.toList_append]
  exact List.forall_mem_append.mpr ⟨hfirst.2, hsecond.2⟩

/-- A word has a letter that is not blank. -/
theorem IsWord.not_blank {text : String} (h : IsWord text) : ¬ Blank text.toList := by
  obtain ⟨hempty, hletters⟩ := h
  obtain ⟨c, others, hlist⟩ := List.exists_cons_of_ne_nil (mt String.toList_eq_nil_iff.mp hempty)
  intro hblank
  have hc : c ∈ text.toList := by simp [hlist]
  have hboth := (hletters c hc).1
  rw [hblank c hc] at hboth
  cases hboth

/-- A file below a root with blanks in front only is one argument, without these blanks. -/
theorem tokens_below_root {root file : String} (hroot : BlanksInFront root)
    (hquote : '"' ∉ root.toList) (hfile : IsWord file) :
    tokens (root ++ file) = [leftTrimmed root ++ file] := by
  obtain ⟨blanks, hblanks, hletters⟩ := exists_blank_append_trim_start root.toList
  have hword : IsWord (leftTrimmed root ++ file) := by
    refine ⟨fun hempty => hfile.1 (String.append_eq_empty_iff.mp hempty).2, ?_⟩
    rw [String.toList_append, List.forall_mem_append]
    refine ⟨?_, hfile.2⟩
    intro c hc
    refine ⟨hroot c hc, ?_⟩
    rintro rfl
    rw [leftTrimmed, String.toList_ofList] at hc
    exact hquote (hletters ▸ List.mem_append_right blanks hc)
  have hread : (root ++ file).toList = blanks ++ (leftTrimmed root ++ file).toList := by
    rw [String.toList_append, String.toList_append, leftTrimmed, String.toList_ofList,
      ← List.append_assoc, ← hletters]
  rw [tokens, hread, read_blank_append hblanks]
  exact tokens_of_word hword

/-- A file below a root with blanks between other letters is several arguments. -/
theorem two_le_length_tokens {root file : String} (hroot : ¬ BlanksInFront root)
    (hquote : '"' ∉ root.toList) (hfile : IsWord file) : 2 ≤ (tokens (root ++ file)).length := by
  obtain ⟨blanks, hblanks, hletters⟩ := exists_blank_append_trim_start root.toList
  simp only [BlanksInFront, leftTrimmed, String.toList_ofList, not_forall, Bool.not_eq_false]
    at hroot
  obtain ⟨blank, hmem, hblank⟩ := hroot
  obtain ⟨front, rest, hsplit⟩ := List.append_of_mem hmem
  have hfront : ¬ Blank front := by
    have hhead := List.head?_dropWhile_not isBlank root.toList
    rw [← trimStart, hsplit] at hhead
    intro hall
    cases front with
    | nil => simp [hblank] at hhead
    | cons c others => simp [hall c] at hhead
  have hbehind : ¬ Blank (rest ++ file.toList) :=
    fun hall => hfile.not_blank (blank_append_iff.mp hall).2
  have hfrontQuote : '"' ∉ front := by
    intro hmem
    rw [hletters, hsplit] at hquote
    simp [hmem] at hquote
  have hread : tokens (root ++ file) =
      readArguments .between front ++ readArguments .between (rest ++ file.toList) := by
    rw [tokens, String.toList_append, hletters, hsplit, List.append_assoc,
      read_blank_append hblanks, List.append_assoc]
    exact (read_append_blank hblank hfrontQuote _).1
  have hfirst := List.length_pos_of_ne_nil (read_ne_nil hfront)
  have hsecond := List.length_pos_of_ne_nil (read_ne_nil hbehind)
  rw [hread, List.length_append]
  omega

/-- Without quotes, a command is read as its operation and then its arguments. -/
theorem tokens_command_line {name : String} (hname : '"' ∉ name.toList) {arguments : List String}
    (harguments : ∀ argument ∈ arguments, '"' ∉ argument.toList) :
    tokens (commandLine name arguments) = tokens name ++ arguments.flatMap tokens := by
  rcases List.eq_nil_or_concat' arguments with rfl | ⟨front, last, rfl⟩
  · exact (List.append_nil _).symm
  · obtain ⟨hfront, -⟩ := List.forall_mem_append.mp harguments
    rw [commandLine, ← List.cons_append,
      tokens_joined (List.forall_mem_cons.mpr ⟨hname, hfront⟩), List.flatMap_cons,
      List.flatMap_append, List.flatMap_singleton, List.append_assoc]

/-- The letters that a reader has of an argument it has not finished. -/
def Reading.letters : Reading → List Char
  | .between => []
  | .plain letters | .quoted letters => letters

/-- Every letter of an argument was read. -/
theorem mem_of_mem_read {argument : String} {c : Char} (hc : c ∈ argument.toList)
    {reading : Reading} {text : List Char} (h : argument ∈ readArguments reading text) :
    c ∈ reading.letters ++ text := by
  induction text generalizing reading with
  | nil =>
      cases reading with
      | between => cases h
      | plain letters | quoted letters =>
          obtain rfl := List.mem_singleton.mp h
          simpa [Reading.letters] using hc
  | cons first rest ih =>
      cases reading with
      | between =>
          rw [readArguments] at h
          split at h
          · exact List.mem_cons_of_mem _ (ih h)
          · split at h
            · exact List.mem_cons_of_mem _ (ih h)
            · exact ih h
      | plain letters | quoted letters =>
          rw [readArguments] at h
          split at h
          · rcases List.mem_cons.mp h with rfl | h
            · rw [String.toList_ofList] at hc
              exact List.mem_append_left _ hc
            · exact List.mem_append_right _ (List.mem_cons_of_mem _ (ih h))
          · simpa [Reading.letters] using ih h

/-- Every letter of an argument is one of the command. -/
theorem mem_of_mem_tokens {command argument : String} (h : argument ∈ tokens command) {c : Char}
    (hc : c ∈ argument.toList) : c ∈ command.toList :=
  mem_of_mem_read hc h

/-- A number in decimal digits is one argument. -/
theorem is_word_decimal (number : Nat) : IsWord (decimal number) := by
  refine ⟨Nat.repr_ne_empty, ?_⟩
  intro c hc
  rw [decimal, Nat.repr_eq_ofList_toDigits, String.toList_ofList] at hc
  have hdigit := Nat.isDigit_of_mem_toDigits (by decide) (by decide) hc
  refine ⟨Session.not_blank_of_digit hdigit, ?_⟩
  rintro rfl
  cases hdigit

/-- An argument below the default library. -/
def InDefaultLibrary (argument : String) : Prop :=
  defaultLibraryPath.toList <+: argument.toList

instance (argument : String) : Decidable (InDefaultLibrary argument) :=
  inferInstanceAs (Decidable (_ <+: _))

/-- An argument below the default library has the letter with which its path begins. -/
theorem not_in_default_library {argument : String} (h : '+' ∉ argument.toList) :
    ¬ InDefaultLibrary argument :=
  fun hbelow => h (hbelow.subset (by decide))

/-- The operations whose commands have a text of the caller among their arguments: the name of the
top module or a file to write. -/
def callerOperations : List String :=
  ["hierarchy", "write_blif", "write_ql_edif", "write_verilog"]

/-- A command gives the classic mapper a script. -/
def CallsLutScript (command : String) : Prop :=
  "abc -script ".toList <+: command.toList

instance (command : String) : Decidable (CallsLutScript command) :=
  inferInstanceAs (Decidable (_ <+: _))

end Text

/-! ## Commands for two libraries -/

/-- The same argument outside the default library, or the same file below a root and below the
default library path. -/
inductive Relocated (root : String) : String → String → Prop
  | same {argument : String} (houtside : ¬ Text.InDefaultLibrary argument) :
      Relocated root argument argument
  | below (file : String) : Relocated root (root ++ file) (defaultLibraryPath ++ file)

/-- What a command for a library and the same command for the default library are made from: a word
outside the default library, or a file below the library path. -/
inductive Placed (root : String) : String → String → Prop
  | same {argument : String} (hword : Text.IsWord argument)
      (houtside : ¬ Text.InDefaultLibrary argument) : Placed root argument argument
  | below {file : String} (hfile : Text.IsWord file) :
      Placed root (root ++ file) (defaultLibraryPath ++ file)

/-- How a command for a library is related to the one for the default library. Both give the classic
mapper a script, or they are one command with a text of the caller, or they are read as the same
arguments, except that every file of the library is below its own path. -/
def Configuration.ReadAlike (configuration : Configuration) (one other : String) : Prop :=
  (Text.CallsLutScript one ∧ Text.CallsLutScript other) ∨
    (one = other ∧ Text.operation one ∈ Text.callerOperations) ∨
    List.Forall₂ (Relocated (Text.leftTrimmed configuration.libraryPath)) (Text.tokens one)
      (Text.tokens other)

/-- Two invocations have the same number of arguments, unless they give the classic mapper a
script. -/
def Invocation.SameNumber (one other : Invocation) : Prop :=
  (Text.CallsLutScript one.command ∧ Text.CallsLutScript other.command) ∨
    (Text.tokens one.command).length = (Text.tokens other.command).length

section

variable {root : String} (hquote : '"' ∉ root.toList)

include hquote

/-- What commands are made from has no quotes. -/
theorem Placed.quote_not_mem {one other : String} (h : Placed root one other) :
    '"' ∉ one.toList ∧ '"' ∉ other.toList := by
  cases h with
  | same hword => exact ⟨hword.quote_not_mem, hword.quote_not_mem⟩
  | @below file hfile =>
      have hdefault : '"' ∉ defaultLibraryPath.toList := by decide
      simp [hquote, hdefault, hfile.quote_not_mem]

/-- What commands are made from is read as it stands, up to the blanks in front of a path. -/
theorem Placed.tokens (hroot : Text.BlanksInFront root) {one other : String}
    (h : Placed root one other) :
    List.Forall₂ (Relocated (Text.leftTrimmed root)) (Text.tokens one) (Text.tokens other) := by
  cases h with
  | same hword houtside =>
      rw [Text.tokens_of_word hword]
      exact .cons (.same houtside) .nil
  | @below file hfile =>
      have hdefault : Text.tokens (defaultLibraryPath ++ file) = [defaultLibraryPath ++ file] :=
        Text.tokens_below_root (by decide) (by decide) hfile
      rw [Text.tokens_below_root hroot hquote hfile, hdefault]
      exact .cons (.below file) .nil

/-- A command is read as its operation and what it is made from. -/
theorem Placed.tokens_command_line (hroot : Text.BlanksInFront root) {name : String}
    (hname : Text.IsWord name ∧ ¬ Text.InDefaultLibrary name) {arguments others : List String}
    (h : List.Forall₂ (Placed root) arguments others) :
    List.Forall₂ (Relocated (Text.leftTrimmed root))
      (Text.tokens (Text.commandLine name arguments))
      (Text.tokens (Text.commandLine name others)) := by
  have hquotes : (∀ argument ∈ arguments, '"' ∉ argument.toList) ∧
      ∀ argument ∈ others, '"' ∉ argument.toList := by
    induction h with
    | nil => simp
    | cons hfirst _ ih =>
        obtain ⟨hone, hother⟩ := hfirst.quote_not_mem hquote
        exact ⟨List.forall_mem_cons.mpr ⟨hone, ih.1⟩, List.forall_mem_cons.mpr ⟨hother, ih.2⟩⟩
  rw [Text.tokens_command_line hname.1.quote_not_mem hquotes.1,
    Text.tokens_command_line hname.1.quote_not_mem hquotes.2, Text.tokens_of_word hname.1]
  refine .cons (.same hname.2) ?_
  exact List.rel_flatMap h fun _ _ hplaced => hplaced.tokens hquote hroot

end

namespace Configuration

/-- The configuration with the default library. -/
def withDefaultLibrary (configuration : Configuration) : Configuration :=
  { configuration with libraryPath := defaultLibraryPath }

variable (configuration : Configuration)

/-- The top module stays. -/
@[simp]
theorem top_with_default_library : configuration.withDefaultLibrary.top = configuration.top :=
  rfl

/-- The family stays. -/
@[simp]
theorem family_with_default_library :
    configuration.withDefaultLibrary.family = configuration.family :=
  rfl

/-- The delay target stays. -/
@[simp]
theorem delay_with_default_library :
    configuration.withDefaultLibrary.delay = configuration.delay :=
  rfl

/-- The arguments of the optimizer stay. -/
@[simp]
theorem optimizer_arguments_with_default_library :
    configuration.withDefaultLibrary.optimizerArguments = configuration.optimizerArguments :=
  rfl

/-- A file below the library path has its counterpart below the default one. -/
@[simp]
theorem placed_below_library {file : String} (hfile : Text.IsWord file) :
    Placed configuration.libraryPath (configuration.libraryPath ++ file)
      (configuration.withDefaultLibrary.libraryPath ++ file) :=
  .below hfile

/-- A file in the directory of a family has its counterpart in that of the default library. -/
@[simp]
theorem placed_below_directory (family : Family) {file : String} (hfile : Text.IsWord file) :
    Placed configuration.libraryPath (configuration.familyDirectory family ++ file)
      (configuration.withDefaultLibrary.familyDirectory family ++ file) := by
  have hname : Text.IsWord family.name := by cases family <;> decide
  rw [familyDirectory, familyDirectory, String.append_assoc, String.append_assoc]
  exact .below (hname.append hfile)

/-- The arguments of the optimizer are the same for every library. -/
@[simp]
theorem placed_optimizer_arguments (root : String) :
    List.Forall₂ (Placed root) configuration.optimizerArguments
      configuration.optimizerArguments := by
  unfold optimizerArguments
  cases configuration.switches.noSdff <;> cases configuration.family <;>
    simp +decide [Placed.same]

/-- A command without the letter of the default library stays as it is. -/
@[simp]
theorem read_alike_self {command : String} (h : '+' ∉ command.toList) :
    configuration.ReadAlike command command := by
  refine .inr (.inr (List.forall₂_same.mpr fun argument hargument => .same ?_))
  exact Text.not_in_default_library fun hplus => h (Text.mem_of_mem_tokens hargument hplus)

end Configuration

/-- A number is the same for every library. -/
@[simp]
theorem placed_decimal (root : String) (number : Nat) :
    Placed root (Text.decimal number) (Text.decimal number) :=
  .same (Text.is_word_decimal number)
    (Text.not_in_default_library (Text.not_mem_decimal (by decide) number))

/-- The arguments of a multiplier rule are the same for every library. -/
theorem Family.placed_rule_arguments (root : String) (family : Family) :
    ∀ rule ∈ family.multiplierRules, List.Forall₂ (Placed root) rule.arguments rule.arguments := by
  have harguments : ∀ rule ∈ family.multiplierRules, ∀ argument ∈ rule.arguments,
      Text.IsWord argument ∧ ¬ Text.InDefaultLibrary argument := by
    cases family <;> decide +kernel
  intro rule hrule
  rw [List.forall₂_same]
  intro argument hargument
  obtain ⟨hword, houtside⟩ := harguments rule hrule argument hargument
  exact .same hword houtside

/-- The storage cells of a family are no files of a library. -/
theorem Family.plus_not_mem_legal_cells (family : Family) :
    ∀ cell ∈ family.legalCells ++ [StorageCell.syncReset],
      '+' ∉ cell.name.toList ∧ '+' ∉ cell.initial.toList := by
  cases family <;> decide

/-- The command that allows storage cells names no file. -/
theorem StorageCell.plus_not_mem_legalize {cells : List StorageCell}
    (hcells : ∀ cell ∈ cells, '+' ∉ cell.name.toList ∧ '+' ∉ cell.initial.toList) :
    '+' ∉ (legalizeCommand cells).toList := by
  refine Text.not_mem_joined (by decide) (List.forall_mem_cons.mpr ⟨by decide, ?_⟩)
  exact forall_legalize_argument (by decide) hcells

/-- The commands that retype block RAMs name no file. -/
theorem BlockRam.plus_not_mem_retype_commands :
    ∀ command ∈ retypeCommands, '+' ∉ command.toList := by
  rw [retypeCommands, retypings_eq, List.map_map, List.forall_mem_map]
  intro use _
  have hplain := use.plain_retyping
  rw [Function.comp_apply, Retyping.command, Text.commandLine]
  refine Text.not_mem_joined (by decide) ?_
  simp only [List.cons_append, List.forall_mem_cons, List.nil_append]
  exact ⟨by decide, by decide, hplain.cell.not_mem (by decide), by decide,
    Retyping.not_mem_selectors hplain.required ⟨by decide, by decide⟩⟩

/-! ## The stages that use the library -/

namespace Recipe

/-- A command with a text of the caller is the same for every library. -/
theorem read_alike_caller (configuration : Configuration) {name : String}
    (hname : name ∈ Text.callerOperations) (arguments : List String) :
    (call name arguments).Alike configuration.ReadAlike (call name arguments) := by
  have hwords : ∀ name ∈ Text.callerOperations, ' ' ∉ name.toList := by decide
  refine .inr (.inl ⟨rfl, ?_⟩)
  rwa [Text.operation_command_line (hwords name hname)]

/-- Two commands that give the classic mapper a script need not be read alike. -/
theorem read_alike_lut_script (configuration : Configuration) (one other : String) :
    (call "abc" ["-script", one]).Alike configuration.ReadAlike
      (call "abc" ["-script", other]) := by
  have hcalls : ∀ script, Text.CallsLutScript (Text.commandLine "abc" ["-script", script]) := by
    intro script
    have hcommand : Text.commandLine "abc" ["-script", script] = "abc -script " ++ script :=
      Text.command_line_concat "abc" script ["-script"]
    rw [hcommand, Text.CallsLutScript, String.toList_append]
    exact List.prefix_append _ _
  exact .inl ⟨hcalls one, hcalls other⟩

end Recipe

namespace Flow

open Recipe

section

variable {configuration : Configuration} (hquote : '"' ∉ configuration.libraryPath.toList)
  (hroot : Text.BlanksInFront configuration.libraryPath)

include hquote hroot

/-- A call of an operation is read as what it is made from. -/
theorem read_alike_call {name : String} (hname : Text.IsWord name ∧ ¬ Text.InDefaultLibrary name)
    {arguments others : List String}
    (h : List.Forall₂ (Placed configuration.libraryPath) arguments others) :
    (call name arguments).Alike configuration.ReadAlike (call name others) :=
  .inr (.inr (Placed.tokens_command_line hquote hroot hname h))

/-- The commands that read the models differ only in where the library is. -/
theorem read_alike_libraries :
    (libraries configuration).Alike configuration.ReadAlike
      (libraries configuration.withDefaultLibrary) := by
  simp +decide [libraries, readLibrary, Family.all, read_alike_call hquote hroot, Placed.same,
    read_alike_caller]

/-- Preparing a design uses no file of the library. -/
theorem read_alike_prepare :
    (prepare configuration).Alike configuration.ReadAlike
      (prepare configuration.withDefaultLibrary) := by
  simp +decide [-List.forall₂_same, prepare, runIf, read_alike_call hquote hroot]

/-- The mapping of multipliers by each rule of a family is read alike if the files it uses are. -/
theorem read_alike_rules {maps others : List String}
    (hmaps : List.Forall₂ (Placed configuration.libraryPath) maps others) (family : Family) :
    ∀ rule ∈ family.multiplierRules,
      (call "techmap" (maps ++ rule.arguments)).Alike configuration.ReadAlike
        (call "techmap" (others ++ rule.arguments)) := by
  intro rule hrule
  refine read_alike_call hquote hroot (by decide) ?_
  exact List.rel_append hmaps (family.placed_rule_arguments _ rule hrule)

/-- Mapping multipliers differs only in where the library is. -/
theorem read_alike_map_dsp :
    (mapDsp configuration).Alike configuration.ReadAlike
      (mapDsp configuration.withDefaultLibrary) := by
  refine ⟨rfl, rfl, ?_⟩
  intro family _
  dsimp only
  split
  · have hmaps : List.Forall₂ (Placed configuration.libraryPath)
        (mapBy "+/mul2dsp.v" ++ mapBy (configuration.familyDirectory family ++ "/dsp_map.v"))
        (mapBy "+/mul2dsp.v" ++
          mapBy (configuration.withDefaultLibrary.familyDirectory family ++ "/dsp_map.v")) := by
      simp +decide [mapBy, Placed.same]
    simpa +decide [mapDspDirectly] using read_alike_rules hquote hroot hmaps family
  · have hmaps : List.Forall₂ (Placed configuration.libraryPath) (mapBy "+/mul2dsp.v")
        (mapBy "+/mul2dsp.v") := by
      simp +decide [mapBy, Placed.same]
    simpa +decide [mapDspInSteps, mapBy, runIf, callIf, read_alike_call hquote hroot, Placed.same]
      using read_alike_rules hquote hroot hmaps family

/-- Coarse-grained optimization uses a file of the tool, but none of the library. -/
theorem read_alike_coarse :
    (coarse configuration).Alike configuration.ReadAlike
      (coarse configuration.withDefaultLibrary) := by
  have hcompare : configuration.ReadAlike "techmap -map +/cmp2lut.v -D LUT_WIDTH=4"
      "techmap -map +/cmp2lut.v -D LUT_WIDTH=4" := by
    have houtside : ∀ argument ∈ Text.tokens "techmap -map +/cmp2lut.v -D LUT_WIDTH=4",
        ¬ Text.InDefaultLibrary argument := by decide
    exact .inr (.inr (List.forall₂_same.mpr fun argument hargument =>
      .same (houtside argument hargument)))
  simp +decide [-List.forall₂_same, coarse, hcompare, read_alike_call hquote hroot]

/-- Mapping memories differs only in where the library is. -/
theorem read_alike_map_bram :
    (mapBram configuration).Alike configuration.ReadAlike
      (mapBram configuration.withDefaultLibrary) := by
  unfold mapBram
  -- The thousands of retyping commands are the same for every library.
  have hretypings : List.Forall₂ (Alike configuration.ReadAlike) (BlockRam.retypeCommands.map run)
      (BlockRam.retypeCommands.map run) := by
    rw [List.forall₂_map_left_iff, List.forall₂_map_right_iff, List.forall₂_same]
    intro command hcommand
    exact configuration.read_alike_self (BlockRam.plus_not_mem_retype_commands command hcommand)
  generalize BlockRam.retypeCommands.map run = retypings at hretypings ⊢
  refine ⟨rfl, rfl, ?_⟩
  intro family _
  cases family <;>
    simp +decide [-List.forall₂_same, mapBy, read_alike_call hquote hroot, Placed.same, hretypings]

/-- Mapping memories onto flip-flops uses no file of the library. -/
theorem read_alike_map_ffram :
    (mapFfram configuration).Alike configuration.ReadAlike
      (mapFfram configuration.withDefaultLibrary) := by
  simp +decide [-List.forall₂_same, mapFfram, read_alike_call hquote hroot, Placed.same]

/-- Mapping gates differs only in where the library is. -/
theorem read_alike_map_gates :
    (mapGates configuration).Alike configuration.ReadAlike
      (mapGates configuration.withDefaultLibrary) := by
  simp +decide [-List.forall₂_same, mapGates, runIf, mapBy, read_alike_call hquote hroot,
    Placed.same]

/-- Mapping flip-flops differs only in where the library is. -/
theorem read_alike_map_ffs :
    (mapFfs configuration).Alike configuration.ReadAlike
      (mapFfs configuration.withDefaultLibrary) := by
  have hlegal : ∀ family : Family,
      '+' ∉ (StorageCell.legalizeCommand family.legalCells).toList ∧
        '+' ∉ (StorageCell.legalizeCommand
          (family.legalCells ++ [StorageCell.syncReset])).toList := by
    intro family
    have hcells := family.plus_not_mem_legal_cells
    exact ⟨StorageCell.plus_not_mem_legalize (List.forall_mem_append.mp hcells).1,
      StorageCell.plus_not_mem_legalize hcells⟩
  simp +decide [-List.forall₂_same, mapFfs, runIf, callIf, mapBy, Family.all,
    Family.shiftRegisterBounds, hlegal,
    read_alike_call hquote hroot, Placed.same]

/-- Mapping lookup tables differs only in where the library is, apart from the script of the classic
mapper. -/
theorem read_alike_map_luts :
    (mapLuts configuration).Alike configuration.ReadAlike
      (mapLuts configuration.withDefaultLibrary) := by
  simp +decide [mapLuts, mapLutsFor, runIf, callIf, mapBy, Family.all, read_alike_call hquote hroot,
    Placed.same, read_alike_lut_script]

/-- Turning lookup tables into cells differs only in where the library is. -/
theorem read_alike_map_cells :
    (mapCells configuration).Alike configuration.ReadAlike
      (mapCells configuration.withDefaultLibrary) := by
  simp +decide [mapCells, mapBy, read_alike_call hquote hroot, Placed.same]

end

section

variable (configuration : Configuration)

/-- Checking a design uses no file of the library. -/
theorem read_alike_check : check.Alike configuration.ReadAlike check := by
  simp +decide [check]

/-- Mapping inputs and outputs uses no file of the library. -/
theorem read_alike_io_map : ioMap.Alike configuration.ReadAlike ioMap := by
  simp +decide [ioMap]

/-- The last changes of a design use no file of the library. -/
theorem read_alike_finalize : finalize.Alike configuration.ReadAlike finalize := by
  simp +decide [finalize, runIf]

/-- A BLIF file is written by the same command for every library. -/
theorem read_alike_blif :
    (blif configuration).Alike configuration.ReadAlike (blif configuration) := by
  simp +decide [blif, callIf, read_alike_caller]

/-- An EDIF file is written by the same command for every library. -/
theorem read_alike_edif :
    (edif configuration).Alike configuration.ReadAlike (edif configuration) := by
  simp +decide [edif, read_alike_caller]

/-- A Verilog file is written by the same command for every library. -/
theorem read_alike_verilog :
    (verilog configuration).Alike configuration.ReadAlike (verilog configuration) := by
  simp +decide [verilog, callIf, read_alike_caller]

end

/-- Below a library path with blanks in front only, every library file is one argument, and no other
argument changes. -/
theorem read_alike_plan {configuration : Configuration}
    (hquote : '"' ∉ configuration.libraryPath.toList)
    (hroot : Text.BlanksInFront configuration.libraryPath) :
    List.Forall₂
      (fun entry entry' => entry.1 = entry'.1 ∧ entry.2.Alike configuration.ReadAlike entry'.2)
      (plan configuration) (plan configuration.withDefaultLibrary) := by
  simp only [plan, List.forall₂_cons, true_and, List.forall₂_nil_left_iff, and_true]
  exact ⟨read_alike_libraries hquote hroot, read_alike_prepare hquote hroot,
    read_alike_map_dsp hquote hroot, read_alike_coarse hquote hroot,
    read_alike_map_bram hquote hroot, read_alike_map_ffram hquote hroot,
    read_alike_map_gates hquote hroot, read_alike_map_ffs hquote hroot,
    read_alike_map_luts hquote hroot, read_alike_map_cells hquote hroot, read_alike_check _,
    read_alike_io_map _, read_alike_finalize _, read_alike_blif _, read_alike_edif _,
    read_alike_verilog _⟩

end Flow

/-- Below a library path with blanks in front only, the commands of a script differ only in where
the library is. -/
theorem Script.read_alike_build {configuration : Configuration}
    (hquote : '"' ∉ configuration.libraryPath.toList)
    (hroot : Text.BlanksInFront configuration.libraryPath) :
    (build configuration).Alike
      (fun one other => configuration.ReadAlike one.command other.command)
      (build configuration.withDefaultLibrary) := by
  have hchoices : configuration.SameChoices configuration.withDefaultLibrary :=
    ⟨rfl, rfl, fun _ => rfl⟩
  refine (related_build (fun _ => configuration.ReadAlike) (Flow.read_alike_plan hquote hroot)
    (fun _ => hchoices) rfl).imp ?_
  rintro stage stage' ⟨hlabel, hinvocations⟩
  exact ⟨hlabel, hinvocations.imp fun _ _ h => h.2⟩

/-! ## The models of the family -/

namespace Configuration

variable (configuration : Configuration)

/-- The simulation models that a script reads, by their names below the library path. -/
def modelNames : List String :=
  "common/cells_sim.v" ::
    (configuration.family.models configuration.switches.bramTypes).map
      (configuration.family.name ++ ·)

/-- The models are files below the library path. -/
theorem model_files_eq :
    configuration.modelFiles = configuration.modelNames.map (configuration.libraryPath ++ ·) := by
  simp [modelFiles, modelNames, directory, familyDirectory, String.append_assoc,
    Function.comp_def]

/-- The names of the models have neither blanks nor quotes. -/
theorem is_word_model_names : ∀ name ∈ configuration.modelNames, Text.IsWord name := by
  unfold modelNames
  cases configuration.family <;> cases configuration.switches.bramTypes <;> decide

/-- The command that reads the models. -/
def readModels : String :=
  Text.commandLine "read_verilog" (["-lib", "-specify", "-nomem2reg"] ++ configuration.modelFiles)

/-- Reading the models has four arguments, the operation among them, and those of each file. -/
theorem length_tokens_read_models (hquote : '"' ∉ configuration.libraryPath.toList) :
    (Text.tokens configuration.readModels).length =
      4 + (configuration.modelNames.map fun name =>
        (Text.tokens (configuration.libraryPath ++ name)).length).sum := by
  have hfiles : ∀ file ∈ configuration.modelFiles, '"' ∉ file.toList := by
    rw [model_files_eq, List.forall_mem_map]
    intro name hname
    simp [hquote, (configuration.is_word_model_names name hname).quote_not_mem]
  have hflags : ∀ flag ∈ ["-lib", "-specify", "-nomem2reg"], '"' ∉ flag.toList := by decide
  rw [readModels, Text.tokens_command_line (by decide)
      (List.forall_mem_append.mpr ⟨hflags, hfiles⟩), List.flatMap_append, List.length_append,
    List.length_append, model_files_eq, List.flatMap_map, List.length_flatMap, List.length_flatMap,
    ← Nat.add_assoc]
  rfl

/-- With blanks between other letters of the library path, reading the models takes more arguments
than for the default library. -/
theorem length_tokens_read_models_lt (hquote : '"' ∉ configuration.libraryPath.toList)
    (hroot : ¬ Text.BlanksInFront configuration.libraryPath) :
    (Text.tokens configuration.withDefaultLibrary.readModels).length <
      (Text.tokens configuration.readModels).length := by
  have hdefault : '"' ∉ configuration.withDefaultLibrary.libraryPath.toList :=
    show '"' ∉ defaultLibraryPath.toList by decide
  rw [length_tokens_read_models _ hdefault, length_tokens_read_models _ hquote]
  refine Nat.add_lt_add_left (List.sum_lt_sum_of_ne_nil (List.cons_ne_nil _ _) _ _ ?_) 4
  intro name hname
  have hword : Text.IsWord name := configuration.is_word_model_names name hname
  have hwhole : Text.tokens (defaultLibraryPath ++ name) = [defaultLibraryPath ++ name] :=
    Text.tokens_below_root (by decide) (by decide) hword
  calc (Text.tokens (configuration.withDefaultLibrary.libraryPath ++ name)).length
      = 1 := congrArg List.length hwhole
    _ < 2 := Nat.one_lt_two
    _ ≤ _ := Text.two_le_length_tokens hroot hquote hword

end Configuration

/-- The command that reads the models gives no script to the classic mapper. -/
theorem Configuration.not_calls_lut_script_read_models (configuration : Configuration) :
    ¬ Text.CallsLutScript configuration.readModels := by
  intro hprefix
  rw [Text.CallsLutScript, readModels, Text.commandLine, List.cons_append, Text.joined_cons_cons,
    String.toList_append, String.toList_append] at hprefix
  exact absurd (List.cons_prefix_cons.mp hprefix).1 (by decide)

namespace Script

variable {configuration : Configuration} (hmode : configuration.mode = .execute)

include hmode

/-- A built script first reads the models. -/
theorem first_command_build :
    ∃ first rest others, (build configuration).stages = ⟨"begin", first :: rest⟩ :: others ∧
      first.command = configuration.readModels := by
  have hcommands := Recipe.map_command_entered configuration (Flow.libraries configuration) []
  rw [Flow.commands_libraries, List.map_eq_cons_iff] at hcommands
  obtain ⟨first, rest, hentered, hfirst, -⟩ := hcommands
  have hstages := stages_build_of_execute hmode
  rw [Flow.plan, List.map_cons, hentered] at hstages
  exact ⟨first, rest, _, hstages, hfirst⟩

/-- The numbers of arguments tell whether the blanks of the library path stand in front. -/
theorem same_number_build_iff (hquote : '"' ∉ configuration.libraryPath.toList) :
    (build configuration).Alike Invocation.SameNumber (build configuration.withDefaultLibrary) ↔
      Text.BlanksInFront configuration.libraryPath := by
  constructor
  · intro halike
    by_contra hroot
    obtain ⟨first, rest, others, hstages, hfirst⟩ := first_command_build hmode
    obtain ⟨first', rest', others', hstages', hfirst'⟩ :=
      first_command_build (show configuration.withDefaultLibrary.mode = .execute from hmode)
    rw [Script.Alike, hstages, hstages', List.forall₂_cons] at halike
    have hnumber := (List.forall₂_cons.mp halike.1.2).1
    rw [Invocation.SameNumber, hfirst, hfirst'] at hnumber
    rcases hnumber with hscript | hlength
    · exact configuration.not_calls_lut_script_read_models hscript.1
    · exact absurd hlength.symm (configuration.length_tokens_read_models_lt hquote hroot).ne
  · intro hroot
    refine (read_alike_build hquote hroot).imp ?_
    rintro stage stage' ⟨hlabel, hinvocations⟩
    refine ⟨hlabel, hinvocations.imp fun one other hread => ?_⟩
    rcases hread with hscript | ⟨hsame, -⟩ | hread
    · exact .inl hscript
    · exact .inr (congrArg (fun command => (Text.tokens command).length) hsame)
    · exact .inr hread.length_eq

end Script

/-! ## Main theorem -/

/-- The commands of a script have the same numbers of arguments as for the default library exactly
if the blanks of the library path stand only in front of its other letters. Then they are also the
same arguments, with each file of the library below the path without its blanks and none below the
default path. A command with a text of the caller is the same command, and the command that gives
the classic mapper a script is left out. -/
theorem library_files_stay_whole_iff (configuration : Configuration)
    (hmode : configuration.mode = .execute) (hquote : '"' ∉ configuration.libraryPath.toList) :
    ((Script.build configuration).Alike Invocation.SameNumber
        (Script.build configuration.withDefaultLibrary) ↔
      Text.BlanksInFront configuration.libraryPath) ∧
      (Text.BlanksInFront configuration.libraryPath →
        (Script.build configuration).Alike
          (fun one other => configuration.ReadAlike one.command other.command)
          (Script.build configuration.withDefaultLibrary)) :=
  ⟨Script.same_number_build_iff hmode hquote, Script.read_alike_build hquote⟩

/-- A library path may start with blanks. -/
theorem library_files_stay_whole_behind_blanks :
    ∃ configuration,
      Configuration.resolve { family := some "pp3", libraryPath := some "\t lib" } =
          .ok configuration ∧
        configuration.mode = .execute ∧ '"' ∉ configuration.libraryPath.toList ∧
        (Script.build configuration).Alike Invocation.SameNumber
          (Script.build configuration.withDefaultLibrary) ∧
        (Script.build configuration).Alike
          (fun one other => configuration.ReadAlike one.command other.command)
          (Script.build configuration.withDefaultLibrary) := by
  refine ⟨_, rfl, rfl, by decide, ?_, ?_⟩
  · exact (library_files_stay_whole_iff _ rfl (by decide)).1.mpr (by decide)
  · exact (library_files_stay_whole_iff _ rfl (by decide)).2 (by decide)

/-- A library path with a blank between other letters splits the arguments of commands, although
it has neither a quote nor a line break. -/
theorem library_path_splits_arguments :
    ∃ configuration,
      Configuration.resolve { family := some "pp3", libraryPath := some "my lib" } =
          .ok configuration ∧
        Configuration.resolve { family := some "pp3" } = .ok configuration.withDefaultLibrary ∧
        configuration.mode = .execute ∧ '"' ∉ configuration.libraryPath.toList ∧
        '\n' ∉ configuration.libraryPath.toList ∧
        ¬ (Script.build configuration).Alike Invocation.SameNumber
          (Script.build configuration.withDefaultLibrary) := by
  refine ⟨_, rfl, rfl, rfl, by decide, by decide, ?_⟩
  rw [Script.same_number_build_iff rfl (by decide)]
  decide

end StagedSynthesis
