import Mathlib.Algebra.Ring.Nat
import Mathlib.Data.List.Nodup
import StagedSynthesis.Proofs.Operations
import StagedSynthesis.Proofs.WidthTuples

/-!
# Retyping commands

A command that retypes block RAMs is text: a cell name with a usage and a width for each port, and
selectors with the attribute values of the cells that get the name. This module reads these texts
back. `Retyping.of_command_command` says that a command tells its cell name and all its attribute
values, and `cell_name_injective` that a cell name tells usage, shape and widths. A `Use` lists what
the retypings are made for, one `Use` each. The main theorem, `retypings_tell_uses_apart`, says for
any lists of widths how many commands there are and that no block satisfies two commands of the
same kind and shape, or of different kinds.
-/

namespace StagedSynthesis

/-! ## Identifiers -/

namespace Text

/-- A letter, a digit or an underscore. -/
def identifierLetter (c : Char) : Bool :=
  c.isAlphanum || c == '_'

/-- A text of letters, digits and underscores. -/
def IsIdentifier (text : String) : Prop :=
  ∀ c ∈ text.toList, identifierLetter c = true

instance (text : String) : Decidable (IsIdentifier text) :=
  List.decidableBAll (identifierLetter · = true) text.toList

/-- An identifier has no other letters. -/
theorem IsIdentifier.not_mem {text : String} (h : IsIdentifier text) {c : Char}
    (hc : identifierLetter c = false) : c ∉ text.toList := by
  intro hmem
  rw [h c hmem] at hc
  cases hc

/-- Two texts next to each other are an identifier exactly if both are. -/
theorem is_identifier_append_iff {first second : String} :
    IsIdentifier (first ++ second) ↔ IsIdentifier first ∧ IsIdentifier second := by
  rw [IsIdentifier, String.toList_append, List.forall_mem_append]
  rfl

/-- Identifiers joined by an identifier are one. -/
theorem is_identifier_joined {mark : String} (hmark : IsIdentifier mark) {parts : List String}
    (hparts : ∀ part ∈ parts, IsIdentifier part) : IsIdentifier (joined mark parts) := by
  induction parts with
  | nil => exact fun c hc => nomatch hc
  | cons first rest ih =>
      obtain ⟨hfirst, hrest⟩ := List.forall_mem_cons.mp hparts
      cases rest with
      | nil => exact hfirst
      | cons second others =>
          rw [joined_cons_cons, is_identifier_append_iff, is_identifier_append_iff]
          exact ⟨⟨hfirst, hmark⟩, ih hrest⟩

/-- A number in decimal digits is an identifier. -/
theorem is_identifier_decimal (number : Nat) : IsIdentifier (decimal number) := by
  intro c hc
  rw [decimal, Nat.repr_eq_ofList_toDigits, String.toList_ofList] at hc
  have hdigit := Nat.isDigit_of_mem_toDigits (by decide) (by decide) hc
  simp [identifierLetter, Char.isAlphanum, hdigit]

/-- The text in capital letters. -/
def capitals (text : String) : String :=
  String.ofList (text.toList.map Char.toUpper)

end Text

namespace BlockRam

/-! ## Reading a command -/

/-- The attribute value that a selector of a command asks for. -/
def condition? (word : String) : Option (String × String) :=
  match Text.pieces ':' word with
  | [kind, test] =>
      match Text.pieces '=' test with
      | [name, value] => if kind = "a" then some (name, value) else none
      | _ => none
  | _ => none

/-- The selector of a condition is read as that condition. -/
theorem condition_selector {name value : String} (hname : Text.IsIdentifier name)
    (hvalue : Text.IsIdentifier value) :
    condition? ("a:" ++ name ++ "=" ++ value) = some (name, value) := by
  have htest : Text.pieces '=' (name ++ "=" ++ value) = [name, value] := by
    rw [Text.pieces_append rfl, Text.pieces_eq_singleton (hname.not_mem (by decide)),
      Text.pieces_eq_singleton (hvalue.not_mem (by decide))]
    rfl
  have hcolon : ':' ∉ (name ++ "=" ++ value).toList := by
    simp [hname.not_mem (c := ':') (by decide), hvalue.not_mem (c := ':') (by decide)]
  have hword : "a:" ++ name ++ "=" ++ value = "a" ++ ":" ++ (name ++ "=" ++ value) := by
    rw [← String.append_assoc, ← String.append_assoc]
    rfl
  have hpieces : Text.pieces ':' ("a:" ++ name ++ "=" ++ value) = ["a", name ++ "=" ++ value] := by
    rw [hword, Text.pieces_append rfl, Text.pieces_eq_singleton hcolon]
    rfl
  simp only [condition?, hpieces, htest, if_true]

/-- The attribute values that selectors ask for, if each is intersected with those before it. -/
def conditions? : List String → Option (List (String × String))
  | [] => some []
  | selector :: operator :: rest => do
      let condition ← condition? selector
      let others ← conditions? rest
      if operator = "%i" then some (condition :: others) else none
  | [_] => none

namespace Retyping

/-- The cell name and the attribute values that a command states. -/
def ofCommand? (command : String) : Option Retyping :=
  match Text.pieces ' ' command with
  | operation :: flag :: cell :: kind :: selectors =>
      if operation = "chtype" ∧ flag = "-set" ∧ kind = "t:TDP36K" then
        (conditions? selectors).map (Retyping.mk cell)
      else
        none
  | _ => none

/-- Every text of the retyping is an identifier. -/
structure Plain (retyping : Retyping) : Prop where
  cell : Text.IsIdentifier retyping.cell
  required : ∀ condition ∈ retyping.required,
    Text.IsIdentifier condition.1 ∧ Text.IsIdentifier condition.2

/-- The selectors of a command. -/
def selectors (required : List (String × String)) : List String :=
  required.flatMap fun condition => ["a:" ++ condition.1 ++ "=" ++ condition.2, "%i"]

/-- The selectors of several conditions are read as these conditions, in order. -/
theorem conditions_selectors {required : List (String × String)}
    (hrequired : ∀ condition ∈ required,
      Text.IsIdentifier condition.1 ∧ Text.IsIdentifier condition.2) :
    conditions? (selectors required) = some required := by
  induction required with
  | nil => rfl
  | cons condition rest ih =>
      obtain ⟨⟨hname, hvalue⟩, hrest⟩ := List.forall_mem_cons.mp hrequired
      rw [selectors, List.flatMap_cons, ← selectors, List.cons_append, List.singleton_append,
        conditions?, condition_selector hname hvalue, ih hrest]
      rfl

/-- A letter that selectors do not have: neither one of identifiers nor one of the marks between
them. -/
structure Foreign (c : Char) : Prop where
  identifiers : Text.identifierLetter c = false
  marks : c ∉ "a:=%i".toList

/-- Selectors with identifiers have no foreign letter. -/
theorem not_mem_selectors {required : List (String × String)}
    (hrequired : ∀ condition ∈ required,
      Text.IsIdentifier condition.1 ∧ Text.IsIdentifier condition.2)
    {c : Char} (hc : Foreign c) : ∀ selector ∈ selectors required, c ∉ selector.toList := by
  intro selector hselector
  obtain ⟨condition, hcondition, hselector⟩ := List.mem_flatMap.mp hselector
  obtain ⟨hname, hvalue⟩ := hrequired condition hcondition
  have hmarks : c ≠ 'a' ∧ c ≠ ':' ∧ c ≠ '=' ∧ c ≠ '%' ∧ c ≠ 'i' := by simpa using hc.marks
  simp only [List.mem_cons, List.not_mem_nil, or_false] at hselector
  rcases hselector with rfl | rfl
  · simp [hmarks, hname.not_mem hc.identifiers, hvalue.not_mem hc.identifiers]
  · simp [hmarks]

/-- A command states the cell name and the attribute values that it was made from. -/
theorem of_command_command {retyping : Retyping} (hplain : retyping.Plain) :
    ofCommand? retyping.command = some retyping := by
  have hwords : Text.pieces ' ' retyping.command =
      "chtype" :: "-set" :: retyping.cell :: "t:TDP36K" :: selectors retyping.required := by
    refine Text.pieces_joined_by_spaces (List.cons_ne_nil _ _) ?_
    simp only [List.cons_append, List.forall_mem_cons, List.nil_append]
    exact ⟨by decide, by decide, hplain.cell.not_mem (by decide), by decide,
      not_mem_selectors hplain.required ⟨by decide, by decide⟩⟩
  simp only [ofCommand?, hwords, and_self, if_true, conditions_selectors hplain.required,
    Option.map_some]

/-- A block with these attributes has all the required values. -/
def Selects (retyping : Retyping) (attributes : String → Option String) : Prop :=
  ∀ condition ∈ retyping.required, attributes condition.1 = some condition.2

end Retyping

/-- Two lists of attribute values have different values of one attribute. -/
def Disagree (one other : List (String × String)) : Prop :=
  ∃ condition ∈ one, ∃ condition' ∈ other,
    condition.1 = condition'.1 ∧ condition.2 ≠ condition'.2

instance (one other : List (String × String)) : Decidable (Disagree one other) :=
  inferInstanceAs (Decidable (∃ condition ∈ one, ∃ condition' ∈ other, _))

/-- Conditions go on disagreeing when further ones are added. -/
theorem Disagree.mono {one one' other other' : List (String × String)} (h : Disagree one other)
    (hone : one ⊆ one') (hother : other ⊆ other') : Disagree one' other' := by
  obtain ⟨condition, hmem, condition', hmem', hvalues⟩ := h
  exact ⟨condition, hone hmem, condition', hother hmem', hvalues⟩

/-- No cell is selected by two retypings whose conditions disagree. -/
theorem Disagree.not_selects {one other : Retyping} (h : Disagree one.required other.required)
    (attributes : String → Option String) :
    ¬ (one.Selects attributes ∧ other.Selects attributes) := by
  obtain ⟨condition, hmem, condition', hmem', hname, hvalue⟩ := h
  rintro ⟨hselects, hselects'⟩
  have hone := hselects condition hmem
  rw [hname, hselects' condition' hmem'] at hone
  exact hvalue (Option.some.inj hone).symm

/-! ## Cell names -/

/-- A part of a cell name that gives a width. -/
def isWidthPart (part : String) : Bool :=
  part.toList.head? == some 'X'

/-- The widths in the parts of a cell name, each with the part in front of it. -/
def namedWidths : List String → List (String × String)
  | port :: part :: rest =>
      (if isWidthPart part then [(port, String.ofList part.toList.tail)] else []) ++
        namedWidths (part :: rest)
  | _ => []

/-- A part in front of one that is no width names no port. -/
theorem named_widths_cons_of_not {part : String} (hpart : isWidthPart part = false)
    (port : String) (rest : List String) :
    namedWidths (port :: part :: rest) = namedWidths (part :: rest) := by
  rw [namedWidths, hpart]
  rfl

/-- A part in front of a width names the port of that width. -/
theorem named_widths_cons (port digits : String) (rest : List String) :
    namedWidths (port :: ("X" ++ digits) :: rest) =
      (port, digits) :: namedWidths (("X" ++ digits) :: rest) := by
  have hletters : ("X" ++ digits).toList = 'X' :: digits.toList := by simp
  rw [namedWidths, isWidthPart, hletters]
  simp

/-- The parts of a cell name that come from its ports. -/
def portParts (entries : List (Port × Nat)) : List String :=
  entries.flatMap fun entry => [entry.1.cellPart, "X" ++ Text.decimal entry.2]

/-- Ports and widths in turn are read as what they were made from. -/
theorem named_widths_port_parts {entries : List (Port × Nat)}
    (hports : ∀ entry ∈ entries, isWidthPart entry.1.cellPart = false) {last : String}
    (hlast : isWidthPart last = false) (front : String) :
    namedWidths (front :: (portParts entries ++ [last])) =
      entries.map fun entry => (entry.1.cellPart, Text.decimal entry.2) := by
  -- The part in front of the remaining ones is the width of the port before.
  induction entries generalizing front with
  | nil => exact named_widths_cons_of_not hlast front []
  | cons entry rest ih =>
      obtain ⟨hport, hrest⟩ := List.forall_mem_cons.mp hports
      rw [portParts, List.flatMap_cons, ← portParts, List.append_assoc, List.cons_append,
        List.singleton_append, named_widths_cons_of_not hport, named_widths_cons, ih hrest,
        List.map_cons]

/-- The names of a port are single parts of identifiers, and do not read as widths. -/
structure Port.Plain (port : Port) : Prop where
  identifier : Text.IsIdentifier port.name ∧ Text.IsIdentifier port.cellPart
  undivided : '_' ∉ port.name.toList ∧ '_' ∉ port.cellPart.toList
  cellPart : isWidthPart port.cellPart = false

/-- All ports have plain names. -/
theorem Shape.plain_ports (shape : Shape) : ∀ port ∈ shape.ports, port.Plain := by
  have hports : ∀ port ∈ shape.ports,
      (Text.IsIdentifier port.name ∧ Text.IsIdentifier port.cellPart) ∧
        ('_' ∉ port.name.toList ∧ '_' ∉ port.cellPart.toList) ∧
        isWidthPart port.cellPart = false := by
    cases shape <;> decide
  intro port hport
  obtain ⟨hidentifier, hundivided, hpart⟩ := hports port hport
  exact ⟨hidentifier, hundivided, hpart⟩

/-- The ports of a shape stay plain when widths are put beside them. -/
theorem Shape.plain_entry {shape : Shape} {widths : List Nat} :
    ∀ entry ∈ shape.ports.zip widths, entry.1.Plain :=
  fun _ hentry => shape.plain_ports _ (List.of_mem_zip hentry).1

/-- The name of a cell has a fixed first part, the parts of its usage, a port and a width in turn,
and the part of its shape. -/
theorem pieces_cell_name (usage : Usage) (shape : Shape) (widths : List Nat) :
    Text.pieces '_' (cellName usage shape widths) =
      "TDP36K" :: (Text.pieces '_' usage.cellPart ++
        (portParts (shape.ports.zip widths) ++ [shape.cellPart])) := by
  have hshape : Text.pieces '_' shape.cellPart = [shape.cellPart] :=
    Text.pieces_eq_singleton (by cases shape <;> decide)
  have hport : ∀ entry ∈ shape.ports.zip widths,
      Text.pieces '_' (entry.1.cellPart ++ "_X" ++ Text.decimal entry.2) =
        [entry.1.cellPart, "X" ++ Text.decimal entry.2] := by
    intro entry hentry
    have hwidth : '_' ∉ ("X" ++ Text.decimal entry.2).toList := by
      simp [Text.not_mem_decimal (show '_'.isDigit = false by decide)]
    have hmark : entry.1.cellPart ++ "_X" ++ Text.decimal entry.2 =
        entry.1.cellPart ++ "_" ++ ("X" ++ Text.decimal entry.2) := by
      show entry.1.cellPart ++ ("_" ++ "X") ++ Text.decimal entry.2 = _
      simp only [String.append_assoc]
    rw [hmark, Text.pieces_append rfl,
      Text.pieces_eq_singleton (Shape.plain_entry entry hentry).undivided.2,
      Text.pieces_eq_singleton hwidth]
    rfl
  have hports : (shape.ports.zipWith
      (fun port width => port.cellPart ++ "_X" ++ Text.decimal width) widths).flatMap
        (Text.pieces '_') = portParts (shape.ports.zip widths) := by
    rw [← List.map_uncurry_zip_eq_zipWith, List.flatMap_map]
    exact List.flatMap_congr hport
  have hblock : Text.pieces '_' "TDP36K" = ["TDP36K"] := by decide
  rw [cellName, Text.pieces_joined rfl (by simp), List.flatMap_append, List.flatMap_append,
    hports, List.flatMap_singleton, hshape, List.flatMap_cons, List.flatMap_singleton, hblock]
  simp only [List.append_assoc, List.cons_append, List.nil_append]

/-- The parts of a cell name that tell the usage. -/
def Usage.nameParts : Usage → List String
  | .memory => ["BRAM"]
  | .asyncFifo => ["FIFO", "ASYNC"]
  | .syncFifo => ["FIFO", "SYNC"]

/-- The name of a usage consists of its parts. -/
theorem Usage.pieces_cell_part (usage : Usage) :
    Text.pieces '_' usage.cellPart = usage.nameParts := by
  cases usage <;> decide

/-- A cell name gives the width of each port behind the port. -/
theorem named_widths_cell_name (usage : Usage) (shape : Shape) (widths : List Nat) :
    namedWidths (Text.pieces '_' (cellName usage shape widths)) =
      (shape.ports.zip widths).map fun entry => (entry.1.cellPart, Text.decimal entry.2) := by
  have hshape : isWidthPart shape.cellPart = false := by cases shape <;> decide
  have hports : ∀ entry ∈ shape.ports.zip widths, isWidthPart entry.1.cellPart = false :=
    fun entry hentry => (Shape.plain_entry entry hentry).cellPart
  rw [pieces_cell_name, usage.pieces_cell_part]
  cases usage with
  | memory =>
      exact (named_widths_cons_of_not (by decide) _ _).trans
        (named_widths_port_parts hports hshape _)
  | asyncFifo | syncFifo =>
      exact (named_widths_cons_of_not (by decide) _ _).trans
        ((named_widths_cons_of_not (by decide) _ _).trans
          (named_widths_port_parts hports hshape _))

/-- No usage has the parts of another one in front of its own, so the parts tell the usage. -/
theorem Usage.eq_of_name_parts {usage usage' : Usage} {rest rest' : List String}
    (h : usage.nameParts ++ rest = usage'.nameParts ++ rest') : usage = usage' := by
  cases usage <;> cases usage' <;> simp [nameParts] at h ⊢

/-- With a width for each port, the widths beside the ports are all widths. -/
theorem map_snd_zip_decimal {ports : List Port} {widths : List Nat}
    (hlength : widths.length = ports.length) :
    ((ports.zip widths).map fun entry => (entry.1.cellPart, Text.decimal entry.2)).map Prod.snd =
      widths.map Text.decimal := by
  have hwidths : (ports.zip widths).map Prod.snd = widths :=
    List.map_snd_zip (Nat.le_of_eq hlength)
  nth_rewrite 2 [← hwidths]
  rw [List.map_map, List.map_map]
  rfl

/-- A cell name tells usage, shape and widths. -/
theorem cell_name_injective {usage usage' : Usage} {shape shape' : Shape}
    {widths widths' : List Nat} (hlength : widths.length = shape.ports.length)
    (hlength' : widths'.length = shape'.ports.length)
    (h : cellName usage shape widths = cellName usage' shape' widths') :
    usage = usage' ∧ shape = shape' ∧ widths = widths' := by
  have hpieces := congrArg (Text.pieces '_') h
  have hnamed := congrArg (fun name => (namedWidths (Text.pieces '_' name)).map Prod.snd) h
  simp only [named_widths_cell_name, map_snd_zip_decimal hlength,
    map_snd_zip_decimal hlength'] at hnamed
  rw [pieces_cell_name, pieces_cell_name, List.cons.injEq] at hpieces
  have hlast := congrArg List.getLast? hpieces.2
  simp only [← List.append_assoc, List.getLast?_concat, Option.some.injEq] at hlast
  rw [Usage.pieces_cell_part, Usage.pieces_cell_part] at hpieces
  have hshape : shape = shape' := by
    cases shape <;> cases shape' <;> simp [Shape.cellPart] at hlast ⊢
  exact ⟨Usage.eq_of_name_parts hpieces.2, hshape,
    List.map_injective_iff.mpr Text.decimal_injective hnamed⟩

/-! ## Widths in selectors -/

/-- The port whose width an attribute gives. -/
def widthPort? (name : String) : Option String :=
  match Text.pieces '_' name with
  | [first, port, _] => if first = "port" then some port else none
  | _ => none

/-- The widths that attribute values ask for, each with its port. -/
def selectedWidths (required : List (String × String)) : List (String × String) :=
  required.filterMap fun condition => (widthPort? condition.1).map fun port => (port, condition.2)

/-- The required widths name each port of the shape with its width. -/
theorem required_widths_eq (shape : Shape) (measure : String) (widths : List Nat) :
    requiredWidths shape measure widths =
      (shape.ports.zip widths).map fun entry =>
        ("port_" ++ entry.1.name ++ "_" ++ measure, Text.decimal entry.2) :=
  List.map_uncurry_zip_eq_zipWith.symm

/-- The required widths are read back as ports and widths. -/
theorem selected_widths_required {measure : String} (hmeasure : '_' ∉ measure.toList)
    (shape : Shape) (widths : List Nat) :
    selectedWidths (requiredWidths shape measure widths) =
      (shape.ports.zip widths).map fun entry => (entry.1.name, Text.decimal entry.2) := by
  have hport : ∀ entry ∈ shape.ports.zip widths,
      widthPort? ("port_" ++ entry.1.name ++ "_" ++ measure) = some entry.1.name := by
    intro entry hentry
    have hname : "port_" ++ entry.1.name = "port" ++ "_" ++ entry.1.name := rfl
    have hpieces : Text.pieces '_' ("port_" ++ entry.1.name ++ "_" ++ measure) =
        ["port", entry.1.name, measure] := by
      rw [hname, Text.pieces_append rfl, Text.pieces_append rfl, Text.pieces_eq_singleton hmeasure,
        Text.pieces_eq_singleton (Shape.plain_entry entry hentry).undivided.1]
      rfl
    simp only [widthPort?, hpieces, if_true]
  rw [required_widths_eq, selectedWidths, List.filterMap_map, ← List.filterMap_eq_map]
  refine List.filterMap_congr ?_
  intro entry hentry
  simp only [Function.comp_apply, hport entry hentry, Option.map_some]

/-! ## Uses of a block -/

/-- Where a block comes from. An instantiated block has a usage; an inferred one is a memory. -/
inductive Origin where
  | instantiated (usage : Usage)
  | inferred
  deriving DecidableEq, Repr

namespace Origin

/-- What the block RAM is used as. -/
def usage : Origin → Usage
  | instantiated usage => usage
  | inferred => .memory

/-- The block RAM was inferred from a memory of the design. -/
def isInferred : Origin → Bool
  | instantiated _ => false
  | inferred => true

/-- The end of the names of the width attributes. -/
def measure : Origin → String
  | instantiated _ => "dwidth"
  | inferred => "width"

/-- An origin is known from its kind and its usage. -/
theorem ext_kind {origin origin' : Origin} (hkind : origin.isInferred = origin'.isInferred)
    (husage : origin.usage = origin'.usage) : origin = origin' := by
  cases origin with
  | instantiated usage =>
      cases origin' with
      | instantiated usage' => exact congrArg instantiated husage
      | inferred => cases hkind
  | inferred =>
      cases origin' with
      | instantiated usage' => cases hkind
      | inferred => rfl

/-- Width attributes end in another word for an inferred block RAM. -/
theorem measure_eq (origin : Origin) :
    origin.measure = if origin.isInferred then "width" else "dwidth" := by
  cases origin <;> rfl

/-- The attribute values other than widths. -/
def required (shape : Shape) : Origin → List (String × String)
  | instantiated usage => [("is_inferred", "0")] ++ shape.required ++ usage.required
  | inferred => [("is_inferred", "1")]

end Origin

/-- What a retyping is made for. -/
structure Use where
  origin : Origin
  shape : Shape
  widths : List Nat
  deriving DecidableEq, Repr

namespace Use

/-- There is a width for every port. -/
def Complete (use : Use) : Prop :=
  use.widths.length = use.shape.ports.length

/-- How a cell in this use is selected and retyped. -/
def retyping (use : Use) : Retyping where
  cell := cellName use.origin.usage use.shape use.widths
  required :=
    use.origin.required use.shape ++ requiredWidths use.shape use.origin.measure use.widths

/-- The uses of instantiated blocks of a shape. -/
def instantiated (shape : Shape) (widths : List Nat) : List Use :=
  (widthTuples widths shape.ports.length).flatMap fun tuple =>
    Usage.all.map fun usage => ⟨.instantiated usage, shape, tuple⟩

/-- The uses of inferred blocks of a shape. -/
def inferred (shape : Shape) (widths : List Nat) : List Use :=
  (widthTuples widths shape.ports.length).map fun tuple => ⟨.inferred, shape, tuple⟩

/-- All uses for the widths of whole blocks and the widths of halves. -/
def all (whole halves : List Nat) : List Use :=
  instantiated .whole whole ++ instantiated .halves halves ++ inferred .whole whole ++
    inferred .halves halves

end Use

/-- The retypings are those of all uses, in order. -/
theorem retypings_eq (whole halves : List Nat) :
    retypings whole halves = (Use.all whole halves).map Use.retyping := by
  have hinstantiated (shape : Shape) (widths : List Nat) :
      instantiated shape widths = (Use.instantiated shape widths).map Use.retyping := by
    rw [Use.instantiated, List.map_flatMap]
    simp only [List.map_map]
    rfl
  have hinferred (shape : Shape) (widths : List Nat) :
      inferred shape widths = (Use.inferred shape widths).map Use.retyping := by
    rw [Use.inferred, List.map_map]
    rfl
  simp only [retypings, Use.all, List.map_append, hinstantiated, hinferred]

/-! ## The list of all uses -/

/-- A table of pairs without repeated rows and columns has no repeated entry. -/
theorem nodup_rows {α β γ : Type} {pair : α → β → γ} (hpair : Function.Injective2 pair)
    {rows : List α} {columns : List β} (hrows : rows.Nodup) (hcolumns : columns.Nodup) :
    (rows.flatMap fun row => columns.map (pair row)).Nodup := by
  have hproduct : (rows.flatMap fun row => columns.map (pair row)) =
      (rows ×ˢ columns).map (Function.uncurry pair) := by
    show _ = (rows.flatMap fun row => columns.map (Prod.mk row)).map (Function.uncurry pair)
    simp only [List.map_flatMap, List.map_map]
    rfl
  rw [hproduct]
  exact (hrows.product hcolumns).map hpair.uncurry

namespace Use

variable {shape : Shape} {widths whole halves : List Nat} {use : Use}

/-- The uses of an instantiated shape have this shape, and a width for each port. -/
theorem of_mem_instantiated (h : use ∈ instantiated shape widths) :
    use.origin.isInferred = false ∧ use.shape = shape ∧ use.Complete := by
  obtain ⟨tuple, htuple, huse⟩ := List.mem_flatMap.mp h
  obtain ⟨usage, -, rfl⟩ := List.mem_map.mp huse
  exact ⟨rfl, rfl, length_of_mem_width_tuples htuple⟩

/-- The uses of an inferred shape have this shape, and a width for each port. -/
theorem of_mem_inferred (h : use ∈ inferred shape widths) :
    use.origin.isInferred = true ∧ use.shape = shape ∧ use.Complete := by
  obtain ⟨tuple, htuple, rfl⟩ := List.mem_map.mp h
  exact ⟨rfl, rfl, length_of_mem_width_tuples htuple⟩

/-- Every use has a width for each port. -/
theorem complete_of_mem_all (h : use ∈ all whole halves) : use.Complete := by
  simp only [all, List.mem_append, or_assoc] at h
  rcases h with h | h | h | h
  · exact (of_mem_instantiated h).2.2
  · exact (of_mem_instantiated h).2.2
  · exact (of_mem_inferred h).2.2
  · exact (of_mem_inferred h).2.2

/-- No use of an instantiated shape is listed twice. -/
theorem nodup_instantiated (hwidths : widths.Nodup) : (instantiated shape widths).Nodup := by
  refine nodup_rows ?_ (nodup_width_tuples hwidths _) (by decide)
  intro tuple tuple' usage usage' h
  cases h
  exact ⟨rfl, rfl⟩

/-- No use of an inferred shape is listed twice. -/
theorem nodup_inferred (hwidths : widths.Nodup) : (inferred shape widths).Nodup := by
  refine (nodup_width_tuples hwidths _).map ?_
  intro tuple tuple' h
  cases h
  rfl

/-- No use is listed twice. -/
theorem nodup_all (hwhole : whole.Nodup) (hhalves : halves.Nodup) : (all whole halves).Nodup := by
  have hkinds {shape shape' : Shape} {widths widths' : List Nat} :
      (instantiated shape widths).Disjoint (inferred shape' widths') := by
    intro use huse hother
    exact Bool.noConfusion ((of_mem_instantiated huse).1.symm.trans (of_mem_inferred hother).1)
  simp only [all, List.append_assoc, List.nodup_append', List.disjoint_append_right]
  refine ⟨nodup_instantiated hwhole, ⟨nodup_instantiated hhalves,
    ⟨nodup_inferred hwhole, nodup_inferred hhalves, ?_⟩, hkinds, hkinds⟩, ?_, hkinds, hkinds⟩
  · intro use huse hother
    exact Shape.noConfusion ((of_mem_inferred huse).2.1.symm.trans (of_mem_inferred hother).2.1)
  · intro use huse hother
    exact Shape.noConfusion
      ((of_mem_instantiated huse).2.1.symm.trans (of_mem_instantiated hother).2.1)

/-- Each choice of widths has four uses: three of instantiated blocks and one of an inferred block.
-/
theorem length_all (whole halves : List Nat) :
    (all whole halves).length = 4 * (whole.length ^ 2 + halves.length ^ 4) := by
  have hinstantiated (shape : Shape) (widths : List Nat) :
      (instantiated shape widths).length = widths.length ^ shape.ports.length * 3 := by
    rw [instantiated, List.length_flatMap]
    simp only [List.length_map, List.map_const', List.sum_replicate_nat, length_width_tuples]
    rfl
  have hinferred (shape : Shape) (widths : List Nat) :
      (inferred shape widths).length = widths.length ^ shape.ports.length := by
    rw [inferred, List.length_map, length_width_tuples]
    rfl
  have hwhole : Shape.whole.ports.length = 2 := rfl
  have hhalves : Shape.halves.ports.length = 4 := rfl
  simp only [all, List.length_append, hinstantiated, hinferred, hwhole, hhalves]
  omega

end Use

/-! ## The retyping of a use -/

namespace Use

/-- The texts of a retyping are identifiers. -/
theorem plain_retyping (use : Use) : use.retyping.Plain := by
  obtain ⟨origin, shape, widths⟩ := use
  have hentry : ∀ entry ∈ shape.ports.zip widths, Text.IsIdentifier entry.1.name ∧
      Text.IsIdentifier entry.1.cellPart ∧ Text.IsIdentifier (Text.decimal entry.2) := by
    intro entry hentry
    obtain ⟨hname, hpart⟩ := (Shape.plain_entry entry hentry).identifier
    exact ⟨hname, hpart, Text.is_identifier_decimal _⟩
  constructor
  case cell =>
    have husage : Text.IsIdentifier origin.usage.cellPart := by cases origin.usage <;> decide
    have hshape : Text.IsIdentifier shape.cellPart := by cases shape <;> decide
    refine Text.is_identifier_joined (by decide) ?_
    rw [← List.map_uncurry_zip_eq_zipWith, List.forall_mem_append, List.forall_mem_append,
      List.forall_mem_map]
    refine ⟨⟨by simpa using ⟨by decide, husage⟩, ?_⟩, by simpa using hshape⟩
    intro entry hmem
    obtain ⟨-, hpart, hwidth⟩ := hentry entry hmem
    show Text.IsIdentifier (entry.1.cellPart ++ "_X" ++ Text.decimal entry.2)
    rw [Text.is_identifier_append_iff, Text.is_identifier_append_iff]
    exact ⟨⟨hpart, by decide⟩, hwidth⟩
  case required =>
    have hfixed : ∀ condition ∈ origin.required shape,
        Text.IsIdentifier condition.1 ∧ Text.IsIdentifier condition.2 := by
      rcases origin with usage | _
      · cases usage <;> cases shape <;> decide
      · cases shape <;> decide
    have hmeasure : Text.IsIdentifier origin.measure := by
      cases origin <;> simp +decide [Origin.measure]
    refine List.forall_mem_append.mpr ⟨hfixed, ?_⟩
    rw [required_widths_eq, List.forall_mem_map]
    intro entry hmem
    obtain ⟨hname, -, hwidth⟩ := hentry entry hmem
    simp only [Text.is_identifier_append_iff]
    exact ⟨⟨⟨⟨by decide, hname⟩, by decide⟩, hmeasure⟩, hwidth⟩

/-- The widths that a retyping asks for. -/
theorem selected_widths_retyping (use : Use) :
    selectedWidths use.retyping.required =
      (use.shape.ports.zip use.widths).map fun entry => (entry.1.name, Text.decimal entry.2) := by
  obtain ⟨origin, shape, widths⟩ := use
  have hfixed : selectedWidths (origin.required shape) = [] := by
    rcases origin with usage | _
    · cases usage <;> cases shape <;> decide
    · cases shape <;> decide
  have hmeasure : '_' ∉ origin.measure.toList := by
    cases origin <;> simp [Origin.measure]
  calc selectedWidths (Use.mk origin shape widths).retyping.required
      = selectedWidths (origin.required shape) ++
          selectedWidths (requiredWidths shape origin.measure widths) := List.filterMap_append
    _ = _ := by rw [hfixed, selected_widths_required hmeasure, List.nil_append]

/-- The widths in the cell name are those that the retyping asks for, port by port. -/
theorem named_widths_retyping (use : Use) :
    namedWidths (Text.pieces '_' use.retyping.cell) =
      (selectedWidths use.retyping.required).map fun entry =>
        (Text.capitals entry.1, entry.2) := by
  have hports : ∀ port ∈ use.shape.ports, port.cellPart = Text.capitals port.name := by
    cases use.shape <;> decide
  rw [selected_widths_retyping, List.map_map, retyping, named_widths_cell_name]
  refine List.map_congr_left ?_
  intro entry hentry
  rw [hports entry.1 (List.of_mem_zip hentry).1]
  rfl

/-- The first required attribute tells whether the block RAM was inferred. -/
theorem head_required (use : Use) :
    use.retyping.required.head? =
      some ("is_inferred", if use.origin.isInferred then "1" else "0") := by
  obtain ⟨origin, shape, widths⟩ := use
  cases origin <;> rfl

/-- A cell name tells the use, if it is known whether the block was inferred. -/
theorem eq_of_cell_eq {use other : Use} (hcomplete : use.Complete) (hcomplete' : other.Complete)
    (hkind : use.origin.isInferred = other.origin.isInferred)
    (h : use.retyping.cell = other.retyping.cell) : use = other := by
  obtain ⟨husage, hshape, hwidths⟩ := cell_name_injective hcomplete hcomplete' h
  obtain ⟨origin, shape, widths⟩ := use
  obtain ⟨origin', shape', widths'⟩ := other
  have horigin : origin = origin' := Origin.ext_kind hkind husage
  exact congr (congrArg₂ Use.mk horigin hshape) hwidths

/-- A command tells its use: the first attribute value tells whether the block was inferred, and the
cell name tells the rest. -/
theorem command_injective {use other : Use} (hcomplete : use.Complete)
    (hcomplete' : other.Complete) (h : use.retyping.command = other.retyping.command) :
    use = other := by
  have hread := congrArg Retyping.ofCommand? h
  rw [Retyping.of_command_command use.plain_retyping,
    Retyping.of_command_command other.plain_retyping, Option.some.injEq] at hread
  have hhead := congrArg (fun retyping => retyping.required.head?) hread
  simp only [head_required, Option.some.injEq, Prod.mk.injEq, true_and] at hhead
  have hkind : use.origin.isInferred = other.origin.isInferred := by
    revert hhead
    cases use.origin.isInferred <;> cases other.origin.isInferred <;> decide
  exact eq_of_cell_eq hcomplete hcomplete' hkind (congrArg Retyping.cell hread)

end Use

/-- Different tuples of widths differ at some port. -/
theorem exists_width_ne {ports : List Port} {widths widths' : List Nat}
    (hlength : widths.length = ports.length) (hlength' : widths'.length = ports.length)
    (hne : widths ≠ widths') :
    ∃ port width width', width ≠ width' ∧ (port, width) ∈ ports.zip widths ∧
      (port, width') ∈ ports.zip widths' := by
  induction ports generalizing widths widths' with
  | nil =>
      rw [List.length_eq_zero_iff.mp hlength, List.length_eq_zero_iff.mp hlength'] at hne
      exact absurd rfl hne
  | cons port rest ih =>
      obtain ⟨width, others, rfl⟩ := List.exists_cons_of_length_eq_add_one hlength
      obtain ⟨width', others', rfl⟩ := List.exists_cons_of_length_eq_add_one hlength'
      by_cases hfirst : width = width'
      · have hothers : others ≠ others' := fun hsame => hne (by rw [hfirst, hsame])
        obtain ⟨found, one, other, hdiffer, hone, hother⟩ :=
          ih (Nat.succ.inj hlength) (Nat.succ.inj hlength') hothers
        exact ⟨found, one, other, hdiffer, List.mem_cons_of_mem _ hone,
          List.mem_cons_of_mem _ hother⟩
      · exact ⟨port, width, width', hfirst, List.mem_cons_self, List.mem_cons_self⟩

/-- Different usages require different values of one attribute. -/
theorem Usage.disagree {usage usage' : Usage} (hne : usage ≠ usage') :
    Disagree usage.required usage'.required := by
  revert hne
  cases usage <;> cases usage' <;> decide

namespace Use

/-- Different uses of blocks of one kind and shape ask for different values of one attribute. -/
theorem disagree_of_ne {use other : Use} (hcomplete : use.Complete) (hcomplete' : other.Complete)
    (hkind : use.origin.isInferred = other.origin.isInferred) (hshape : use.shape = other.shape)
    (hne : use ≠ other) : Disagree use.retyping.required other.retyping.required := by
  obtain ⟨origin, shape, widths⟩ := use
  obtain ⟨origin', shape', widths'⟩ := other
  obtain rfl : shape = shape' := hshape
  by_cases hwidths : widths = widths'
  · -- Only the usages of two instantiated blocks can differ.
    cases origin with
    | inferred =>
        cases origin' with
        | inferred => exact absurd (congrArg (Use.mk .inferred shape) hwidths) hne
        | instantiated usage' => cases hkind
    | instantiated usage =>
        cases origin' with
        | inferred => cases hkind
        | instantiated usage' =>
            have husage : usage ≠ usage' := fun hsame => hne (by rw [hwidths, hsame])
            exact (Usage.disagree husage).mono
              (fun _ hmem => List.mem_append_left _ (List.mem_append_right _ hmem))
              (fun _ hmem => List.mem_append_left _ (List.mem_append_right _ hmem))
  · obtain ⟨port, width, width', hdiffer, hport, hport'⟩ :=
      exists_width_ne hcomplete hcomplete' hwidths
    have hmeasure : origin.measure = origin'.measure := by
      rw [origin.measure_eq, origin'.measure_eq]
      exact congrArg (fun kind : Bool => if kind then "width" else "dwidth") hkind
    have hselectors : Disagree (requiredWidths shape origin.measure widths)
        (requiredWidths shape origin'.measure widths') := by
      rw [required_widths_eq, required_widths_eq, hmeasure]
      exact ⟨_, List.mem_map_of_mem hport, _, List.mem_map_of_mem hport', rfl,
        fun hsame => hdiffer (Text.decimal_injective hsame)⟩
    exact hselectors.mono (List.subset_append_right _ _) (List.subset_append_right _ _)

/-- Instantiated and inferred blocks differ in an attribute. -/
theorem disagree_of_kind_ne {use other : Use}
    (hkind : use.origin.isInferred ≠ other.origin.isInferred) :
    Disagree use.retyping.required other.retyping.required := by
  refine ⟨_, List.mem_of_mem_head? use.head_required, _,
    List.mem_of_mem_head? other.head_required, rfl, ?_⟩
  revert hkind
  cases use.origin.isInferred <;> cases other.origin.isInferred <;> decide

end Use

/-! ## Main theorem -/

/-- For widths without repetition there are four commands for every choice of a width for each port,
three for instantiated blocks and one for inferred ones, and all commands differ. Each command tells
the cell name and the attribute values of its retyping, which have the same width for each port.
Different uses of one kind and shape have different cell names, and no block satisfies both of
their commands. No block satisfies the command for an instantiated and that for an inferred block
either. -/
theorem retypings_tell_uses_apart {whole halves : List Nat} (hwhole : whole.Nodup)
    (hhalves : halves.Nodup) :
    let commands := (retypings whole halves).map Retyping.command
    let uses := Use.all whole halves
    commands.length = 4 * (whole.length ^ 2 + halves.length ^ 4) ∧ commands.Nodup ∧
      retypings whole halves = uses.map Use.retyping ∧
      (∀ use ∈ uses,
        Retyping.ofCommand? use.retyping.command = some use.retyping ∧
          use.widths.length = use.shape.ports.length ∧
          selectedWidths use.retyping.required =
            (use.shape.ports.zip use.widths).map
              (fun entry => (entry.1.name, Text.decimal entry.2)) ∧
          namedWidths (Text.pieces '_' use.retyping.cell) =
            (selectedWidths use.retyping.required).map fun entry =>
              (Text.capitals entry.1, entry.2)) ∧
      (∀ use ∈ uses, ∀ other ∈ uses, use.origin.isInferred = other.origin.isInferred →
        use.shape = other.shape → use ≠ other →
          use.retyping.cell ≠ other.retyping.cell ∧
            Disagree use.retyping.required other.retyping.required ∧
            ∀ attributes,
              ¬ (use.retyping.Selects attributes ∧ other.retyping.Selects attributes)) ∧
      ∀ use ∈ uses, ∀ other ∈ uses, use.origin.isInferred ≠ other.origin.isInferred →
        ∀ attributes, ¬ (use.retyping.Selects attributes ∧ other.retyping.Selects attributes) := by
  intro commands uses
  have hcomplete : ∀ use ∈ uses, use.Complete := fun use huse => Use.complete_of_mem_all huse
  have hcommands : commands = uses.map fun use => use.retyping.command := by
    rw [show commands = (retypings whole halves).map Retyping.command from rfl, retypings_eq,
      List.map_map]
    rfl
  refine ⟨?count, ?distinct, retypings_eq whole halves, ?text, ?same, ?other⟩
  case count => rw [hcommands, List.length_map, Use.length_all]
  case distinct =>
    rw [hcommands]
    refine List.Nodup.map_on ?_ (Use.nodup_all hwhole hhalves)
    intro use huse other hother h
    exact Use.command_injective (hcomplete use huse) (hcomplete other hother) h
  case text =>
    intro use huse
    exact ⟨Retyping.of_command_command use.plain_retyping, hcomplete use huse,
      use.selected_widths_retyping, use.named_widths_retyping⟩
  case same =>
    intro use huse other hother hkind hshape hne
    have hdisagree :=
      Use.disagree_of_ne (hcomplete use huse) (hcomplete other hother) hkind hshape hne
    refine ⟨?_, hdisagree, hdisagree.not_selects⟩
    intro hcell
    exact hne (Use.eq_of_cell_eq (hcomplete use huse) (hcomplete other hother) hkind hcell)
  case other =>
    intro use _ other _ hkind
    exact (Use.disagree_of_kind_ne hkind).not_selects

/-- The retypings for the supported widths. Two queues whose ports have their widths exchanged are
told apart. -/
theorem retypings_tell_uses_apart_supported :
    wholeWidths.Nodup ∧ halfWidths.Nodup ∧ retypeCommands.length = 2644 ∧ retypeCommands.Nodup ∧
      let queue : Use := ⟨.instantiated .syncFifo, .whole, [9, 18]⟩
      let exchanged : Use := ⟨.instantiated .syncFifo, .whole, [18, 9]⟩
      queue ∈ Use.all wholeWidths halfWidths ∧ exchanged ∈ Use.all wholeWidths halfWidths ∧
        ∀ attributes,
          ¬ (queue.retyping.Selects attributes ∧ exchanged.retyping.Selects attributes) := by
  have hwhole : wholeWidths.Nodup := by decide
  have hhalves : halfWidths.Nodup := by decide
  obtain ⟨hcount, hdistinct, -, -, hsame, -⟩ := retypings_tell_uses_apart hwhole hhalves
  refine ⟨hwhole, hhalves, hcount, hdistinct, ?_⟩
  intro queue exchanged
  have hqueue : queue ∈ Use.all wholeWidths halfWidths := by decide
  have hexchanged : exchanged ∈ Use.all wholeWidths halfWidths := by decide
  exact ⟨hqueue, hexchanged, (hsame queue hqueue exchanged hexchanged rfl rfl (by decide)).2.2⟩

end BlockRam

end StagedSynthesis
