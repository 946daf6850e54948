import StagedSynthesis.Proofs.Branches

/-!
# Operations and their arguments

The texts of a configuration, which are the top module, the paths and the delay target, stand in
the arguments of commands. They decide neither which operations a script calls nor under which
conditions. `Recipe.Alike` compares two recipes place by place, and `Flow.alike_plan` says of any
two configurations that their plans have the same shape and call the same operations. The main
theorem, `texts_stay_in_arguments`, carries this over to scripts, and says for the top module and
for the delay target which commands they change.
-/

namespace StagedSynthesis

/-! ## The operation of a command -/

namespace Text

/-- The letters of a name without spaces are no spaces. -/
theorem ne_space_of_mem {name : String} (hname : ' ' ∉ name.toList) :
    ∀ c ∈ name.toList, decide (c ≠ ' ') = true := by
  intro c hc
  exact decide_eq_true fun hspace => hname (hspace ▸ hc)

/-- What stands behind the first space does not change the operation. -/
theorem operation_append {name rest : String} (hname : ' ' ∉ name.toList)
    (hrest : ∀ c ∈ rest.toList.head?, c = ' ') : operation (name ++ rest) = name := by
  have hstop : rest.toList.takeWhile (· ≠ ' ') = [] := by
    cases hlist : rest.toList with
    | nil => rfl
    | cons c others =>
        rw [hlist] at hrest
        rw [hrest c rfl]
        exact List.takeWhile_cons_of_neg (by decide)
  rw [operation, String.toList_append, List.takeWhile_append_of_pos (ne_space_of_mem hname), hstop,
    List.append_nil, String.ofList_toList]

/-- A command line calls the operation that it was made for. -/
theorem operation_command_line {name : String} (hname : ' ' ∉ name.toList)
    (arguments : List String) : operation (commandLine name arguments) = name := by
  cases arguments with
  | nil =>
      have hempty : commandLine name [] = name ++ "" := String.append_empty.symm
      rw [hempty]
      exact operation_append hname (by simp)
  | cons argument rest =>
      rw [commandLine, joined_cons_cons, String.append_assoc]
      exact operation_append hname (by simp)

/-- A command line hands its arguments to the operation. -/
theorem operands_command_line {name : String} (hname : ' ' ∉ name.toList)
    {arguments : List String} (harguments : arguments ≠ []) :
    operands (commandLine name arguments) = joined " " arguments := by
  obtain ⟨first, rest, rfl⟩ := List.exists_cons_of_ne_nil harguments
  have hcommand : (commandLine name (first :: rest)).toList =
      name.toList ++ ' ' :: (joined " " (first :: rest)).toList := by
    rw [commandLine, joined_cons_cons, String.toList_append, String.toList_append]
    simp
  rw [operands, hcommand, List.dropWhile_append_of_pos (ne_space_of_mem hname),
    List.dropWhile_cons_of_neg (by decide), List.drop_one, List.tail_cons, String.ofList_toList]

/-- What stands behind a space does not change the operation. -/
theorem operation_append_of_mem {front : String} (hspace : ' ' ∈ front.toList) (rest : String) :
    operation (front ++ rest) = operation front := by
  have htake : ∀ letters : List Char, ' ' ∈ letters →
      (letters ++ rest.toList).takeWhile (· ≠ ' ') = letters.takeWhile (· ≠ ' ') := by
    intro letters hmem
    induction letters with
    | nil => cases hmem
    | cons c others ih =>
        by_cases hc : c = ' '
        · simp [hc]
        · have hothers : ' ' ∈ others := List.mem_of_ne_of_mem (Ne.symm hc) hmem
          simpa [hc] using ih hothers
  rw [operation, operation, String.toList_append, htake _ hspace]

/-- A separator between two texts parts the pieces of the one from those of the other. -/
theorem pieces_append {separator : Char} {mark : String} (hmark : mark.toList = [separator])
    (first second : String) :
    pieces separator (first ++ mark ++ second) =
      pieces separator first ++ pieces separator second := by
  have hsplit : (first.toList ++ separator :: second.toList).splitOn separator =
      first.toList.splitOn separator ++ second.toList.splitOn separator :=
    List.splitOnP_append_cons _ _ (beq_self_eq_true separator)
  rw [pieces, String.toList_append, String.toList_append, hmark, List.append_assoc,
    List.singleton_append, hsplit, List.map_append]
  rfl

/-- The pieces of a joined text are those of its parts. -/
theorem pieces_joined {separator : Char} {mark : String} (hmark : mark.toList = [separator])
    {parts : List String} (hparts : parts ≠ []) :
    pieces separator (joined mark parts) = parts.flatMap (pieces separator) := by
  induction parts with
  | nil => exact absurd rfl hparts
  | cons first rest ih =>
      cases rest with
      | nil => rw [List.flatMap_singleton]; rfl
      | cons second others =>
          rw [joined_cons_cons, pieces_append hmark, ih (List.cons_ne_nil second others)]
          rfl

/-- Joining parts without spaces by spaces loses nothing. -/
theorem pieces_joined_by_spaces {parts : List String} (hparts : parts ≠ [])
    (hspace : ∀ part ∈ parts, ' ' ∉ part.toList) : pieces ' ' (joined " " parts) = parts := by
  have hsingle : ∀ part ∈ parts, pieces ' ' part = [part] :=
    fun part hpart => pieces_eq_singleton (hspace part hpart)
  calc pieces ' ' (joined " " parts) = parts.flatMap (pieces ' ') := pieces_joined rfl hparts
    _ = parts.flatMap fun part => [part] := List.flatMap_congr hsingle
    _ = parts := List.flatMap_singleton' parts

/-- A letter that neither the mark nor a part has does not occur in a joined text. -/
theorem not_mem_joined {c : Char} {mark : String} (hmark : c ∉ mark.toList) {parts : List String}
    (hparts : ∀ part ∈ parts, c ∉ part.toList) : c ∉ (joined mark parts).toList := by
  induction parts with
  | nil => exact List.not_mem_nil
  | cons first rest ih =>
      obtain ⟨hfirst, hrest⟩ := List.forall_mem_cons.mp hparts
      cases rest with
      | nil => exact hfirst
      | cons second others =>
          rw [joined_cons_cons]
          simp [hfirst, hmark, ih hrest]

/-- A number in decimal digits has no letter that is not a digit. -/
theorem not_mem_decimal {c : Char} (hc : c.isDigit = false) (number : Nat) :
    c ∉ (decimal number).toList := by
  intro hmem
  rw [decimal, Nat.repr_eq_ofList_toDigits, String.toList_ofList] at hmem
  have hdigit := Nat.isDigit_of_mem_toDigits (by decide) (by decide) hmem
  rw [hc] at hdigit
  cases hdigit

/-- A number in decimal digits has no spaces. -/
theorem space_not_mem_decimal (number : Nat) : ' ' ∉ (decimal number).toList :=
  not_mem_decimal (by decide) number

end Text

/-- The arguments of a command line are those it was made with. -/
theorem Invocation.pieces_arguments {name : String} (hname : ' ' ∉ name.toList)
    {arguments : List String} (harguments : arguments ≠ [])
    (hspace : ∀ argument ∈ arguments, ' ' ∉ argument.toList) (guard : Guard) :
    Text.pieces ' ' (Invocation.mk (Text.commandLine name arguments) guard).arguments =
      arguments := by
  rw [Invocation.arguments, Text.operands_command_line hname harguments]
  exact Text.pieces_joined_by_spaces harguments hspace

/-- Legalizing calls the same operation for all cells. -/
theorem StorageCell.operation_legalize (cells : List StorageCell) :
    Text.operation (legalizeCommand cells) = "dfflegalize" :=
  Text.operation_command_line (by decide) _

/-! ## Recipes of the same shape -/

namespace Recipe

/-- Two recipes of the same shape, with the same parts under the same conditions and with commands
that are related place by place. -/
def Alike (related : String → String → Prop) : Recipe → Recipe → Prop
  | .skip, .skip => True
  | .run one, .run other => related one other
  | .followed first second, .followed first' second' =>
      Alike related first first' ∧ Alike related second second'
  | .provided guard body, .provided guard' body' => guard = guard' ∧ Alike related body body'
  | .forEach families body, .forEach families' body' =>
      families = families' ∧ ∀ family ∈ families, Alike related (body family) (body' family)
  | _, _ => False

variable {related : String → String → Prop}

/-- Two empty recipes are alike. -/
@[simp]
theorem alike_skip : skip.Alike related skip :=
  trivial

/-- Two commands are alike as recipes if they are related. -/
@[simp]
theorem alike_run_iff {one other : String} :
    (run one).Alike related (run other) ↔ related one other :=
  Iff.rfl

/-- Conditional recipes are alike if their conditions are equal and their bodies alike. -/
@[simp]
theorem alike_provided_iff {guard guard' : Guard} {body body' : Recipe} :
    (provided guard body).Alike related (provided guard' body') ↔
      guard = guard' ∧ body.Alike related body' :=
  Iff.rfl

/-- Recipes for families are alike if they list the same families and are alike for each. -/
@[simp]
theorem alike_for_each_iff {families families' : List Family} {body body' : Family → Recipe} :
    (forEach families body).Alike related (forEach families' body') ↔
      families = families' ∧
        ∀ family ∈ families, (body family).Alike related (body' family) :=
  Iff.rfl

/-- Blocks are alike if their parts are, one by one. -/
@[simp]
theorem alike_block {parts others : List Recipe} :
    (block parts).Alike related (block others) ↔ List.Forall₂ (Alike related) parts others := by
  induction parts generalizing others with
  | nil => cases others <;> simp [block, Alike]
  | cons part rest ih => cases others <;> simp [block, Alike, ih]

/-- Recipes of the same shape record related commands under the same conditions. -/
theorem Alike.invocations {one other : Recipe} (h : one.Alike related other)
    (scope : List Guard) :
    List.Forall₂
      (fun first second =>
        first.guard = second.guard ∧ related first.command second.command)
      (one.invocations scope) (other.invocations scope) := by
  induction one generalizing other scope with
  | skip =>
      cases other with
      | skip => exact .nil
      | run | followed | provided | forEach => exact h.elim
  | run command =>
      cases other with
      | run command' => exact .cons ⟨rfl, h⟩ .nil
      | skip | followed | provided | forEach => exact h.elim
  | followed first second ihFirst ihSecond =>
      cases other with
      | followed first' second' =>
          exact List.rel_append (ihFirst h.1 scope) (ihSecond h.2 scope)
      | skip | run | provided | forEach => exact h.elim
  | provided guard body ih =>
      cases other with
      | provided guard' body' =>
          obtain ⟨rfl, hbody⟩ := h
          exact ih hbody _
      | skip | run | followed | forEach => exact h.elim
  | forEach families body ih =>
      cases other with
      | forEach families' body' =>
          obtain ⟨rfl, hbody⟩ := h
          unfold Recipe.invocations
          induction families with
          | nil => exact .nil
          | cons family rest ihRest =>
              obtain ⟨hfirst, hrest⟩ := List.forall_mem_cons.mp hbody
              exact List.rel_append (ih family hfirst _) (ihRest hrest)
      | skip | run | followed | provided => exact h.elim

end Recipe

/-- What is kept of recipes of the same shape is related place by place, as long as the same
conditions hold. An explanation keeps everything, so there it does not matter which ones do. -/
theorem Recipe.Alike.kept {related : String → String → Prop} {one other : Recipe}
    (h : one.Alike related other) {first second : Configuration}
    (hchoices : first.mode = .execute → first.SameChoices second)
    (hmode : first.mode = second.mode) :
    List.Forall₂
      (fun kept kept' => kept.guard = kept'.guard ∧ related kept.command kept'.command)
      (Script.kept first one) (Script.kept second other) := by
  unfold Script.kept
  rw [← hmode]
  cases hfirst : first.mode with
  | explain => exact h.invocations []
  | execute =>
      refine List.rel_filter ?_ (h.invocations [])
      rintro kept kept' ⟨hguard, -⟩
      show kept.guard.holds first = true ↔ kept'.guard.holds second = true
      rw [hguard, Guard.holds_congr (hchoices hfirst)]

/-! ## The operations of each stage -/

/-- Two commands call the same operation, which is one of some names. -/
def Calls (names : List String) (one other : String) : Prop :=
  Text.operation one = Text.operation other ∧ Text.operation one ∈ names

/-- A command calls the operation of itself, which must be one of the names. -/
@[simp]
theorem calls_self_iff {names : List String} {command : String} :
    Calls names command command ↔ Text.operation command ∈ names :=
  and_iff_right rfl

/-- Two calls of an operation are alike, whatever their arguments, if its name is allowed. -/
@[simp]
theorem Recipe.alike_call_iff {names : List String} {name : String} (hname : ' ' ∉ name.toList)
    {arguments others : List String} :
    (call name arguments).Alike (Calls names) (call name others) ↔ name ∈ names := by
  rw [call, call, alike_run_iff, Calls, Text.operation_command_line hname,
    Text.operation_command_line hname]
  exact and_iff_right rfl

namespace Flow

open Recipe

/-- The operations that each stage calls. -/
def operations : List (String × List String) :=
  [("begin", ["read_verilog", "hierarchy"]),
    ("prepare", ["proc", "flatten", "tribuf", "deminout", "opt_expr", "opt_clean", "check", "opt",
      "fsm", "wreduce", "peepopt", "share"]),
    ("map_dsp", ["memory_dff", "wreduce", "techmap", "select", "setattr", "opt_expr", "ql_dsp",
      "chtype", "ql_dsp_macc", "ql_dsp_simd", "ql_dsp_io_regs"]),
    ("coarse", ["techmap", "opt_expr", "opt_clean", "alumacc", "pmuxtree", "opt", "memory"]),
    ("map_bram", ["memory_libmap", "ql_bram_merge", "techmap", "memory_bram", "pp3_braminit",
      "chtype"]),
    ("map_ffram", ["opt", "memory_map"]),
    ("map_gates", ["techmap", "opt", "muxcover", "opt_expr", "opt_merge", "opt_clean"]),
    ("map_ffs", ["opt_expr", "shregmap", "dfflegalize", "techmap", "opt_merge", "opt_clean",
      "opt"]),
    ("map_luts", ["techmap", "read_verilog", "abc9", "abc", "clean", "opt_lut"]),
    ("map_cells", ["techmap", "clean"]),
    ("check", ["autoname", "hierarchy", "stat", "check"]),
    ("iomap", ["clkbufmap", "iopadmap"]),
    ("finalize", ["setundef", "hilomap", "opt_clean", "check", "blackbox"]),
    ("blif", ["write_blif"]),
    ("edif", ["splitnets", "quicklogic_eqn", "write_ql_edif"]),
    ("verilog", ["write_verilog"])]

/-- The operations that the commands of a stage call. -/
def operationsOf (label : String) : List String :=
  (operations.lookup label).getD []

/-- An operation is called in no other stage than the one of a label. -/
def CalledOnlyIn (name label : String) : Prop :=
  ∀ other ∈ stageLabels, name ∈ operationsOf other → other = label

instance (name label : String) : Decidable (CalledOnlyIn name label) :=
  inferInstanceAs (Decidable (∀ other ∈ stageLabels, name ∈ operationsOf other → other = label))

/-- Only the stage for lookup tables calls the mapper with timing. -/
theorem abc9_called_only_in : CalledOnlyIn "abc9" "map_luts" := by
  decide

/-- Memories are mapped onto flip-flops by one long command between two calls of the optimizer. -/
theorem map_ffram_eq :
    ∃ command, Text.operation command = "memory_map" ∧ ∀ configuration : Configuration,
      mapFfram configuration =
        block
          [call "opt"
              (["-fast", "-mux_undef", "-undriven", "-fine"] ++ configuration.optimizerArguments),
            run command,
            call "opt" (["-undriven", "-fine"] ++ configuration.optimizerArguments)] := by
  refine ⟨_, ?_, fun _ => rfl⟩
  rw [String.append_assoc, Text.operation_append_of_mem (by decide)]
  decide

section

variable (one other : Configuration)

/-- Reading the models calls the same operations for all configurations. -/
theorem alike_libraries :
    (libraries one).Alike (Calls (operationsOf "begin")) (libraries other) := by
  simp +decide [libraries, readLibrary, operationsOf, operations, Family.all]

/-- Preparing a design calls the same operations for all configurations. -/
theorem alike_prepare :
    (prepare one).Alike (Calls (operationsOf "prepare")) (prepare other) := by
  simp +decide [prepare, runIf, operationsOf, operations]

/-- Mapping multipliers calls the same operations for all configurations. -/
theorem alike_map_dsp :
    (mapDsp one).Alike (Calls (operationsOf "map_dsp")) (mapDsp other) := by
  refine ⟨rfl, rfl, ?_⟩
  intro family _
  dsimp only
  split
  · simp +decide [mapDspDirectly, operationsOf, operations]
  · simp +decide [mapDspInSteps, runIf, callIf, operationsOf, operations]

/-- Coarse-grained optimization calls the same operations for all configurations. -/
theorem alike_coarse :
    (coarse one).Alike (Calls (operationsOf "coarse")) (coarse other) := by
  simp +decide [coarse, operationsOf, operations]

/-- Mapping memories calls the same operations for all configurations. -/
theorem alike_map_bram :
    (mapBram one).Alike (Calls (operationsOf "map_bram")) (mapBram other) := by
  have hretype : ∀ command ∈ BlockRam.retypeCommands, Text.operation command = "chtype" := by
    intro command hcommand
    obtain ⟨retyping, -, rfl⟩ := List.mem_map.mp hcommand
    exact Text.operation_command_line (by decide) _
  unfold mapBram
  -- From here on the thousands of retyping commands are any commands of this operation.
  generalize BlockRam.retypeCommands = retypings at hretype ⊢
  refine ⟨rfl, rfl, ?_⟩
  intro family _
  cases family <;> simp +decide +contextual [operationsOf, operations, hretype]

/-- Mapping memories onto flip-flops calls the same operations for all configurations. -/
theorem alike_map_ffram :
    (mapFfram one).Alike (Calls (operationsOf "map_ffram")) (mapFfram other) := by
  obtain ⟨command, hcommand, hrecipe⟩ := map_ffram_eq
  rw [hrecipe, hrecipe]
  simp +decide [operationsOf, operations, hcommand]

/-- Mapping gates calls the same operations for all configurations. -/
theorem alike_map_gates :
    (mapGates one).Alike (Calls (operationsOf "map_gates")) (mapGates other) := by
  simp +decide [mapGates, runIf, operationsOf, operations]

/-- Mapping flip-flops calls the same operations for all configurations. -/
theorem alike_map_ffs :
    (mapFfs one).Alike (Calls (operationsOf "map_ffs")) (mapFfs other) := by
  have hlegalize := StorageCell.operation_legalize
  unfold mapFfs
  generalize StorageCell.legalizeCommand = legalize at hlegalize ⊢
  simp +decide [runIf, callIf, operationsOf, operations, Family.all, Family.shiftRegisterBounds,
    hlegalize]

/-- Mapping lookup tables calls the same operations for all configurations. -/
theorem alike_map_luts :
    (mapLuts one).Alike (Calls (operationsOf "map_luts")) (mapLuts other) := by
  simp +decide [mapLuts, mapLutsFor, runIf, callIf, operationsOf, operations, Family.all]

/-- Turning lookup tables into cells calls the same operations for all configurations. -/
theorem alike_map_cells :
    (mapCells one).Alike (Calls (operationsOf "map_cells")) (mapCells other) := by
  simp +decide [mapCells, operationsOf, operations]

/-- Writing BLIF calls the same operations for all configurations. -/
theorem alike_blif : (blif one).Alike (Calls (operationsOf "blif")) (blif other) := by
  simp +decide [blif, callIf, operationsOf, operations]

/-- Writing EDIF calls the same operations for all configurations. -/
theorem alike_edif : (edif one).Alike (Calls (operationsOf "edif")) (edif other) := by
  simp +decide [edif, operationsOf, operations]

/-- Writing Verilog calls the same operations for all configurations. -/
theorem alike_verilog :
    (verilog one).Alike (Calls (operationsOf "verilog")) (verilog other) := by
  simp +decide [verilog, callIf, operationsOf, operations]

/-- Any two configurations have plans of the same shape, whose commands call the same operations. -/
theorem alike_plan :
    List.Forall₂
      (fun entry entry' =>
        entry.1 = entry'.1 ∧ entry.2.Alike (Calls (operationsOf entry.1)) entry'.2)
      (plan one) (plan other) := by
  simp only [plan, List.forall₂_cons, true_and, List.forall₂_nil_left_iff, and_true]
  refine ⟨alike_libraries _ _, alike_prepare _ _, alike_map_dsp _ _, alike_coarse _ _,
    alike_map_bram _ _, alike_map_ffram _ _, alike_map_gates _ _, alike_map_ffs _ _,
    alike_map_luts _ _, alike_map_cells _ _, ?check, ?ioMap, ?finalize, alike_blif _ _,
    alike_edif _ _, alike_verilog _ _⟩
  case check => simp +decide [check, operationsOf, operations]
  case ioMap => simp +decide [ioMap, operationsOf, operations]
  case finalize => simp +decide [finalize, runIf, operationsOf, operations]

end

end Flow

namespace Script

/-- Two scripts with the same labels, where each stage has as many invocations in the one as in the
other, and these are related place by place. -/
def Alike (related : Invocation → Invocation → Prop) (one other : Script) : Prop :=
  List.Forall₂
    (fun stage stage' =>
      stage.label = stage'.label ∧ List.Forall₂ related stage.invocations stage'.invocations)
    one.stages other.stages

/-- What plans of the same shape relate place by place, the scripts that are built from them relate
too. -/
theorem related_build (related : String → String → String → Prop) {one other : Configuration}
    (hplan : List.Forall₂
      (fun entry entry' => entry.1 = entry'.1 ∧ entry.2.Alike (related entry.1) entry'.2)
      (Flow.plan one) (Flow.plan other))
    (hchoices : one.mode = .execute → one.SameChoices other) (hmode : one.mode = other.mode) :
    List.Forall₂
      (fun stage stage' =>
        stage.label = stage'.label ∧
          List.Forall₂
            (fun first second =>
              first.guard = second.guard ∧ related stage.label first.command second.command)
            stage.invocations stage'.invocations)
      (build one).stages (build other).stages := by
  unfold build ofPlan
  rw [List.forall₂_map_left_iff, List.forall₂_map_right_iff]
  refine hplan.imp ?_
  rintro entry entry' ⟨hlabel, hrecipe⟩
  exact ⟨hlabel, hrecipe.kept hchoices hmode⟩

/-- Built scripts call the same operations under the same conditions, place by place. -/
theorem calls_build {one other : Configuration}
    (hchoices : one.mode = .execute → one.SameChoices other) (hmode : one.mode = other.mode) :
    List.Forall₂
      (fun stage stage' =>
        stage.label = stage'.label ∧
          List.Forall₂
            (fun first second =>
              first.guard = second.guard ∧
                Calls (Flow.operationsOf stage.label) first.command second.command)
            stage.invocations stage'.invocations)
      (build one).stages (build other).stages :=
  related_build (fun label => Calls (Flow.operationsOf label)) (Flow.alike_plan one other) hchoices
    hmode

/-- Every invocation of a stage calls one of the operations of the stage. -/
theorem name_mem_operations {configuration : Configuration} {stage : Stage}
    (hstage : stage ∈ (build configuration).stages) {invocation : Invocation}
    (hinvocation : invocation ∈ stage.invocations) :
    invocation.name ∈ Flow.operationsOf stage.label := by
  have hself : configuration.SameChoices configuration := ⟨rfl, rfl, fun _ => rfl⟩
  have hstages := List.forall₂_same.mp (calls_build (fun _ => hself) rfl)
  obtain ⟨-, hinvocations⟩ := hstages stage hstage
  exact (List.forall₂_same.mp hinvocations invocation hinvocation).2.2

/-- A stage of a built script has one of the known labels. -/
theorem label_mem_stage_labels {configuration : Configuration} {stage : Stage}
    (hstage : stage ∈ (build configuration).stages) : stage.label ∈ Flow.stageLabels := by
  rw [← labels_build configuration]
  exact List.mem_map_of_mem hstage

/-- An operation that is called in one stage only is called in the stage of that label. -/
theorem label_of_called_only_in {configuration : Configuration} {name label : String}
    (honly : Flow.CalledOnlyIn name label) {stage : Stage}
    (hstage : stage ∈ (build configuration).stages) {invocation : Invocation}
    (hinvocation : invocation ∈ stage.invocations) (hname : invocation.name = name) :
    stage.label = label := by
  refine honly stage.label (label_mem_stage_labels hstage) ?_
  rw [← hname]
  exact name_mem_operations hstage hinvocation

/-- The calls of an operation that is called in one stage only are found in that stage. -/
theorem mem_invocations_iff {configuration : Configuration} {name label : String}
    (honly : Flow.CalledOnlyIn name label) {invocations : List Invocation}
    (hlabel : (build configuration).stage? label = some ⟨label, invocations⟩)
    {invocation : Invocation} (hname : invocation.name = name) :
    invocation ∈ (build configuration).invocations ↔ invocation ∈ invocations := by
  constructor
  · intro hinvocation
    obtain ⟨stage, hstage, hmem⟩ := List.mem_flatMap.mp hinvocation
    have hfound := stage_of_mem_build hstage
    rw [label_of_called_only_in honly hstage hmem hname, hlabel] at hfound
    cases hfound
    exact hmem
  · intro hmem
    exact List.mem_flatMap.mpr ⟨_, List.mem_of_find?_eq_some hlabel, hmem⟩

/-- Of one recipe, configurations that make the same choices keep the same. -/
theorem kept_congr {one other : Configuration} (hchoices : one.SameChoices other)
    (hmode : one.mode = other.mode) (recipe : Recipe) :
    kept one recipe = kept other recipe := by
  unfold kept
  rw [hmode]
  cases other.mode with
  | explain => rfl
  | execute =>
      refine List.filter_congr ?_
      intro invocation _
      exact Guard.holds_congr hchoices invocation.guard

end Script

/-! ## The top module -/

/-- The command that selects the top module. -/
def TopModule.command (top : TopModule) : String :=
  Text.commandLine "hierarchy" ("-check" :: top.hierarchyArguments)

/-- Different top modules are selected by different commands. -/
theorem TopModule.command_injective : Function.Injective TopModule.command := by
  have hnamed (name : String) : command (named name) = "hierarchy -check -top " ++ name :=
    Text.command_line_concat "hierarchy" name ["-check", "-top"]
  have hdiffer (name : String) : command automatic ≠ command (named name) := by
    intro h
    rw [hnamed] at h
    -- The commands part behind the dash of their last argument.
    have hletter := congrArg (fun command => command.toList[18]?) h
    simp [command, Text.commandLine, Text.joined, hierarchyArguments] at hletter
  intro one other h
  cases one with
  | automatic =>
      cases other with
      | automatic => rfl
      | named name => exact absurd h (hdiffer name)
  | named name =>
      cases other with
      | automatic => exact absurd h.symm (hdiffer name)
      | named name' =>
          rw [hnamed, hnamed, String.append_right_inj] at h
          rw [h]

/-- The first stage reads one library, whatever the top module, and selects the top module. -/
theorem Flow.entered_libraries (configuration : Configuration) :
    ∃ read, ∀ top,
      (libraries { configuration with top := top }).entered
          { configuration with top := top } [] =
        [read, ⟨top.command, .always⟩] := by
  simp only [libraries, readLibrary, Configuration.familyDirectory, Recipe.entered_block,
    List.flatMap_cons, List.flatMap_nil, List.append_nil, Recipe.entered_for_each_all]
  by_cases hfamily : configuration.family = .k6n10f
  · simp only [hfamily, if_true, Recipe.entered_block, List.flatMap_cons, List.flatMap_nil,
      List.append_nil, Recipe.entered_without, Recipe.entered_given, Configuration.switch]
    by_cases hretyped : configuration.switches.get .bramTypes = true
    · simp only [hretyped, if_true]
      exact ⟨_, fun _ => rfl⟩
    · simp only [hretyped]
      exact ⟨_, fun _ => rfl⟩
  · simp only [if_neg hfamily]
    exact ⟨_, fun _ => rfl⟩

/-! ## The delay target -/

/-- Two invocations of the same operation under the same condition. -/
structure Invocation.SameOperation (one other : Invocation) : Prop where
  name : one.name = other.name
  guard : one.guard = other.guard

/-- Two invocations of the same operation under the same condition, with different commands exactly
if it is the operation of this name. -/
structure Invocation.DifferIn (operation : String) (one other : Invocation) : Prop
    extends one.SameOperation other where
  command : one.command ≠ other.command ↔ one.name = operation

/-- Two commands call the same operation, and they differ exactly if it is the one of this name. -/
def DifferIn (name one other : String) : Prop :=
  Text.operation one = Text.operation other ∧ (one ≠ other ↔ Text.operation one = name)

/-- A command does not differ from itself, so it must not call the operation in question. -/
theorem differ_in_self_iff {name command : String} :
    DifferIn name command command ↔ Text.operation command ≠ name := by
  simp [DifferIn]

/-- With another delay target, exactly the calls of the mapper with timing differ. -/
theorem Flow.differ_in_map_luts (configuration : Configuration) {delay : Nat}
    (hdelay : configuration.delay ≠ delay) :
    (mapLuts configuration).Alike (DifferIn "abc9")
      (mapLuts { configuration with delay := delay }) := by
  have hdiffer : ∀ front : List String,
      DifferIn "abc9" (Text.commandLine "abc9" (front ++ [Text.decimal configuration.delay]))
        (Text.commandLine "abc9" (front ++ [Text.decimal delay])) := by
    intro front
    rw [DifferIn, Text.operation_command_line (by decide),
      Text.operation_command_line (by decide), Text.command_line_concat,
      Text.command_line_concat, ne_eq, String.append_right_inj]
    exact ⟨rfl, iff_of_true (fun h => hdelay (Text.decimal_injective h)) rfl⟩
  have hfour := hdiffer ["-maxlut", "4", "-dff", "-D"]
  have hsix := hdiffer ["-maxlut", "6", "-D"]
  simp only [List.cons_append, List.nil_append] at hfour hsix
  have hdirectory : { configuration with delay := delay }.familyDirectory =
      configuration.familyDirectory := rfl
  have hshare : { configuration with delay := delay }.sharePath = configuration.sharePath := rfl
  simp +decide [mapLuts, mapLutsFor, Recipe.Alike, Recipe.call, runIf, callIf, Family.all,
    differ_in_self_iff, Text.operation_command_line, hfour, hsix, hdirectory, hshare]

namespace Script

/-- Built scripts have the same shape and call the same operations under the same conditions. -/
theorem alike_build {one other : Configuration}
    (hchoices : one.mode = .execute → one.SameChoices other) (hmode : one.mode = other.mode) :
    (build one).Alike Invocation.SameOperation (build other) := by
  refine (calls_build hchoices hmode).imp ?_
  rintro stage stage' ⟨hlabel, hinvocations⟩
  refine ⟨hlabel, hinvocations.imp ?_⟩
  rintro first second ⟨hguard, hname, -⟩
  exact ⟨hname, hguard⟩

/-- Another delay target changes every command of one operation and no others. -/
theorem alike_build_delay (configuration : Configuration) {delay : Nat}
    (hdelay : configuration.delay ≠ delay) :
    (build configuration).Alike (Invocation.DifferIn "abc9")
      (build { configuration with delay := delay }) := by
  have hchoices : configuration.SameChoices { configuration with delay := delay } :=
    ⟨rfl, rfl, fun _ => rfl⟩
  have hsame : ∀ entries : Plan,
      (∀ entry ∈ entries, entry ∈ Flow.plan configuration ∧ entry.1 ≠ "map_luts") →
      List.Forall₂
        (fun entry entry' => entry.1 = entry'.1 ∧
          List.Forall₂ (Invocation.DifferIn "abc9") (kept configuration entry.2)
            (kept { configuration with delay := delay } entry'.2))
        entries entries := by
    intro entries hentries
    rw [List.forall₂_same]
    intro entry hentry
    obtain ⟨hplanned, hlabel⟩ := hentries entry hentry
    rw [← kept_congr hchoices rfl, List.forall₂_same]
    refine ⟨rfl, ?_⟩
    intro invocation hinvocation
    have hstage : ⟨entry.1, kept configuration entry.2⟩ ∈ (build configuration).stages :=
      List.mem_map_of_mem hplanned
    have hname : invocation.name ≠ "abc9" := fun hname =>
      hlabel (label_of_called_only_in Flow.abc9_called_only_in hstage hinvocation hname)
    exact ⟨⟨rfl, rfl⟩, iff_of_false (not_not_intro rfl) hname⟩
  have hluts : List.Forall₂ (Invocation.DifferIn "abc9")
      (kept configuration (Flow.mapLuts configuration))
      (kept { configuration with delay := delay }
        (Flow.mapLuts { configuration with delay := delay })) := by
    refine ((Flow.differ_in_map_luts configuration hdelay).kept (fun _ => hchoices) rfl).imp ?_
    rintro one other ⟨hguard, hname, hdiffer⟩
    exact ⟨⟨hname, hguard⟩, hdiffer⟩
  unfold Script.Alike build ofPlan
  rw [List.forall₂_map_left_iff, List.forall₂_map_right_iff]
  -- One recipe reads the delay target; the others stand before and behind it.
  have hfront := hsame ((Flow.plan configuration).take 8) (by simp [Flow.plan])
  have hback := hsame ((Flow.plan configuration).drop 9) (by simp [Flow.plan])
  exact List.rel_append hfront (.cons ⟨rfl, hluts⟩ hback)

/-- Another top module changes the second command of the first stage and no other. -/
theorem stages_build_top {configuration : Configuration} (hmode : configuration.mode = .execute) :
    ∃ read rest, ∀ top,
      (build { configuration with top := top }).stages =
        ⟨"begin", [read, ⟨top.command, .always⟩]⟩ :: rest := by
  obtain ⟨read, hread⟩ := Flow.entered_libraries configuration
  let others := (Flow.plan configuration).tail
  refine ⟨read, others.map fun entry => ⟨entry.1, kept configuration entry.2⟩, ?_⟩
  intro top
  let changed := { configuration with top := top }
  have hchoices : changed.SameChoices configuration := ⟨rfl, rfl, fun _ => rfl⟩
  have hchanged : changed.mode = .execute := hmode
  -- The other recipes do not read the top module.
  show Stage.mk "begin" (kept changed (Flow.libraries changed)) ::
      others.map (fun entry => Stage.mk entry.1 (kept changed entry.2)) = _
  rw [kept_of_execute hchanged, hread]
  simp only [kept_congr hchoices rfl]

end Script

/-- Configurations that make the same choices have scripts of the same shape, which call the same
operations under the same conditions, whatever their texts. Another top module alone changes the
second command of the first stage, and another delay target alone the commands of the timing-driven
mapper. For an explanation the shape is the same for all configurations. -/
theorem texts_stay_in_arguments :
    (∀ one other : Configuration, one.mode = .execute → other.mode = .execute →
        one.SameChoices other →
        (Script.build one).Alike Invocation.SameOperation (Script.build other)) ∧
      (∀ configuration : Configuration, configuration.mode = .execute →
        ∀ top, configuration.top ≠ top →
        ∃ read first second rest,
          (Script.build configuration).stages = ⟨"begin", [read, first]⟩ :: rest ∧
          (Script.build { configuration with top := top }).stages =
            ⟨"begin", [read, second]⟩ :: rest ∧
          first.command ≠ second.command) ∧
      (∀ configuration : Configuration, configuration.mode = .execute →
        ∀ delay, configuration.delay ≠ delay →
        (Script.build configuration).Alike (Invocation.DifferIn "abc9")
          (Script.build { configuration with delay := delay })) ∧
      ∀ one other : Configuration, one.mode = .explain → other.mode = .explain →
        (Script.build one).Alike Invocation.SameOperation (Script.build other) := by
  refine ⟨?_, ?_, ?_, ?_⟩
  · intro one other hone hother hchoices
    exact Script.alike_build (fun _ => hchoices) (hone.trans hother.symm)
  · intro configuration hmode top htop
    obtain ⟨read, rest, hstages⟩ := Script.stages_build_top hmode
    refine ⟨read, _, _, rest, hstages configuration.top, hstages top, ?_⟩
    exact fun hcommand => htop (TopModule.command_injective hcommand)
  · intro configuration _ delay hdelay
    exact Script.alike_build_delay configuration hdelay
  · intro one other hone hother
    refine Script.alike_build (fun hexecute => ?_) (hone.trans hother.symm)
    rw [hone] at hexecute
    cases hexecute

/-- Texts with blanks and with names of operations in them. -/
theorem texts_stay_in_arguments_with_blanks :
    let one := Options.configure
      { top := some "my top", libraryPath := some "abc9 ", delay := some 12
        outputs := { blif := some "my out" } } .pp3
    let other := Options.configure
      { libraryPath := some "lib", shareDirectory := some " hierarchy "
        outputs := { blif := some "" } } .pp3
    let explained := Options.configure { explain := true, delay := some 1 } .k6n10f
    one.mode = .execute ∧ other.mode = .execute ∧ one.SameChoices other ∧
      (Script.build one).Alike Invocation.SameOperation (Script.build other) ∧
      (∃ read first second rest,
        (Script.build one).stages = ⟨"begin", [read, first]⟩ :: rest ∧
          (Script.build { one with top := .automatic }).stages =
            ⟨"begin", [read, second]⟩ :: rest ∧
          first.command ≠ second.command) ∧
      (Script.build one).Alike (Invocation.DifferIn "abc9")
        (Script.build { one with delay := 120 }) ∧
      (Script.build { one with mode := .explain }).Alike Invocation.SameOperation
        (Script.build explained) := by
  intro one other explained
  have hchoices : one.SameChoices other := by
    refine ⟨rfl, rfl, ?_⟩
    intro format
    cases format <;> rfl
  obtain ⟨hexecuted, htop, hdelay, hexplained⟩ := texts_stay_in_arguments
  refine ⟨rfl, rfl, hchoices, hexecuted one other rfl rfl hchoices, ?_, ?_, ?_⟩
  · exact htop one rfl .automatic (by decide)
  · exact hdelay one rfl 120 (by decide)
  · exact hexplained _ explained rfl rfl

end StagedSynthesis
