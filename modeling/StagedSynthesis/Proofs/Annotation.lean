import Mathlib.Data.List.Induction
import StagedSynthesis.Proofs.Explanation
import StagedSynthesis.Proofs.Recording

/-!
# Annotations determine their conditions

The text of a condition uses the comma both between families and between parts of a conjunction, and
it leaves out parentheses where conjunctions or disjunctions are nested in their own kind. Different
conditions therefore have the same text, but never with different meanings. To see this, a text is
cut into tokens. No token ends another one, so a text is cut in only one way (`text_of_injective`),
and a reader that goes through the tokens once finds the value of the condition
(`WellFormed.meaning_tokens`). The main theorem, `annotation_determines_condition`, applies this to
the listings of built scripts.
-/

namespace StagedSynthesis

/-! ## Tokens -/

/-- How the parts of a condition are connected. -/
inductive Connective where
  | conjunction
  | disjunction
  deriving DecidableEq, Repr

namespace Connective

/-- What is written between two parts. -/
def text : Connective → String
  | .conjunction => ", "
  | .disjunction => " or "

/-- The value of two connected parts. -/
def apply : Connective → Bool → Bool → Bool
  | .conjunction => Bool.and
  | .disjunction => Bool.or

/-- The value of any number of connected parts. -/
def overall {α : Type} : Connective → (α → Bool) → List α → Bool
  | .conjunction, value, parts => parts.all value
  | .disjunction, value, parts => parts.any value

/-- A single part has its own value. -/
theorem overall_singleton {α : Type} (connective : Connective) (value : α → Bool) (part : α) :
    connective.overall value [part] = value part := by
  cases connective <;> simp [overall]

/-- A further part in front is connected with the value of the others. -/
theorem overall_cons {α : Type} (connective : Connective) (value : α → Bool) (part : α)
    (rest : List α) :
    connective.overall value (part :: rest) =
      connective.apply (value part) (connective.overall value rest) := by
  cases connective <;> rfl

/-- What is made of a first part can be made of two parts just as well. -/
def Passes (connective : Connective) (combine : Bool → Bool) : Prop :=
  ∀ value more, connective.apply (combine value) more = combine (connective.apply value more)

/-- Parts by themselves can be read one by one. -/
theorem passes_id (connective : Connective) : connective.Passes id :=
  fun _ _ => rfl

/-- Parts behind a part with the same connective can be read one by one. -/
theorem passes_apply (connective : Connective) (value : Bool) :
    connective.Passes (connective.apply value) := by
  intro next more
  cases connective
  · exact Bool.and_assoc value next more
  · exact Bool.or_assoc value next more

end Connective

/-- A piece of the text of a condition. -/
inductive Token where
  /-- The first family of a list. -/
  | first (family : Family)
  /-- A family behind another one, with the comma between them. -/
  | further (family : Family)
  | switch (which : Switch) (on : Bool)
  | output (format : OutputFormat)
  | opening
  | closing
  | between (connective : Connective)
  deriving DecidableEq, Repr

namespace Token

/-- The token as it is written. -/
def text : Token → String
  | .first family => "for " ++ family.name
  | .further family => ", " ++ family.name
  | .switch which true => "if " ++ which.text
  | .switch which false => "unless " ++ which.text
  | .output format => "if " ++ format.text
  | .opening => "("
  | .closing => ")"
  | .between connective => connective.text

/-- Every token. -/
def all : List Token :=
  Family.all.map first ++ Family.all.map further ++ Switch.all.map (switch · true) ++
    Switch.all.map (switch · false) ++ OutputFormat.all.map output ++
    [opening, closing, between .conjunction, between .disjunction]

/-- The list of tokens is complete. -/
theorem mem_all (token : Token) : token ∈ all := by
  cases token with
  | first family | further family => simp [all, Family.mem_all]
  | switch which on => cases on <;> simp [all, Switch.mem_all]
  | output format => cases format <;> decide
  | opening | closing => decide
  | between connective => cases connective <;> decide

/-- No token is written as nothing. -/
theorem text_ne_nil (token : Token) : token.text.toList ≠ [] := by
  have hall : ∀ token ∈ all, token.text.toList ≠ [] := by decide +kernel
  exact hall token token.mem_all

/-- No token is the end of another one. -/
theorem eq_of_text_suffix {one other : Token} (h : one.text.toList <:+ other.text.toList) :
    one = other := by
  have hall : ∀ one ∈ all, ∀ other ∈ all, one.text.toList <:+ other.text.toList → one = other := by
    decide +kernel
  exact hall one one.mem_all other other.mem_all h

/-- The text of some tokens. -/
def textOf (tokens : List Token) : String :=
  String.join (tokens.map text)

/-- The letters of some tokens are those of each in turn. -/
theorem to_list_text_of (tokens : List Token) :
    (textOf tokens).toList = tokens.flatMap fun token => token.text.toList := by
  rw [textOf, String.toList_join, List.flatMap_map]

/-- The texts of tokens are put together like the tokens. -/
theorem text_of_append (first second : List Token) :
    textOf (first ++ second) = textOf first ++ textOf second := by
  rw [← String.toList_inj, String.toList_append, to_list_text_of, to_list_text_of, to_list_text_of,
    List.flatMap_append]

/-- A text is cut into tokens in at most one way: the last token is found from the end, and the text
before it is cut in the same way. -/
theorem text_of_injective : Function.Injective textOf := by
  intro one other h
  rw [← String.toList_inj, to_list_text_of, to_list_text_of] at h
  induction one using List.reverseRecOn generalizing other with
  | nil =>
      cases other with
      | nil => rfl
      | cons token rest =>
          rw [List.flatMap_nil, List.flatMap_cons] at h
          exact absurd (List.append_eq_nil_iff.mp h.symm).1 token.text_ne_nil
  | append_singleton earlier token ih =>
      rcases List.eq_nil_or_concat other with rfl | ⟨rest, last, rfl⟩
      · rw [List.flatMap_nil, List.flatMap_append] at h
        have hlast := (List.append_eq_nil_iff.mp h).2
        rw [List.flatMap_singleton] at hlast
        exact absurd hlast token.text_ne_nil
      · rw [List.concat_eq_append, List.flatMap_append, List.flatMap_append,
          List.flatMap_singleton, List.flatMap_singleton] at h
        have htoken := List.suffix_append (earlier.flatMap fun token => token.text.toList)
          token.text.toList
        have hlast := List.suffix_append (rest.flatMap fun token => token.text.toList)
          last.text.toList
        rw [← h] at hlast
        obtain rfl : token = last := by
          rcases List.suffix_or_suffix_of_suffix htoken hlast with hends | hends
          · exact eq_of_text_suffix hends
          · exact (eq_of_text_suffix hends).symm
        rw [ih (List.append_cancel_right h), List.concat_eq_append]

/-! ## Reading tokens -/

/-- A level of parentheses while tokens are read. It waits for a part, of whose value something will
be made, or it holds the value of the part that was read last. -/
inductive Level where
  | waiting (combine : Bool → Bool)
  | holding (combine : Bool → Bool) (value : Bool)

/-- Read one token. The levels that are open stand with the innermost first; a token that does not
fit there is passed over. -/
def read (configuration : Configuration) : List Level → Token → List Level
  | .waiting combine :: outer, .first family =>
      .holding combine (configuration.family == family) :: outer
  | .holding combine value :: outer, .further family =>
      .holding combine (value || configuration.family == family) :: outer
  | .waiting combine :: outer, .switch which on =>
      .holding combine (configuration.switch which == on) :: outer
  | .waiting combine :: outer, .output format =>
      .holding combine (configuration.output format).isSome :: outer
  | .waiting combine :: outer, .opening => .waiting id :: .waiting combine :: outer
  | .holding inner value :: .waiting combine :: outer, .closing =>
      .holding combine (inner value) :: outer
  | .holding combine value :: outer, .between connective =>
      .waiting (connective.apply (combine value)) :: outer
  | levels, _ => levels

/-- What some tokens say about a configuration. No tokens say nothing, which is always true. -/
def meaning (configuration : Configuration) (tokens : List Token) : Bool :=
  match tokens.foldl (read configuration) [.waiting id] with
  | [.holding combine value] => combine value
  | _ => true

/-- Wherever a part is awaited of which something will be made, the tokens are read as a part with a
value. -/
def ReadAs (configuration : Configuration) (tokens : List Token) (combine : Bool → Bool)
    (value : Bool) : Prop :=
  ∀ outer, ∃ inner last,
    tokens.foldl (read configuration) (.waiting combine :: outer) = .holding inner last :: outer ∧
      inner last = combine value

variable {configuration : Configuration} {combine : Bool → Bool}

/-- Tokens in parentheses are read as one part, whatever will be made of it. -/
theorem ReadAs.enclosed {tokens : List Token} {value : Bool}
    (h : ReadAs configuration tokens id value) (combine : Bool → Bool) :
    ReadAs configuration (.opening :: tokens ++ [.closing]) combine value := by
  intro outer
  obtain ⟨inner, last, hread, hvalue⟩ := h (.waiting combine :: outer)
  refine ⟨combine, inner last, ?_, congrArg combine hvalue⟩
  rw [List.cons_append, List.foldl_cons, List.foldl_append]
  show List.foldl _ (tokens.foldl _ (.waiting id :: .waiting combine :: outer)) _ = _
  rw [hread]
  rfl

/-- Two parts with a connective between them are read as one part. -/
theorem ReadAs.between {first rest : List Token} {connective : Connective} {value more : Bool}
    (hpasses : connective.Passes combine) (hfirst : ReadAs configuration first combine value)
    (hrest : ReadAs configuration rest (connective.apply (combine value)) more) :
    ReadAs configuration (first ++ .between connective :: rest) combine
      (connective.apply value more) := by
  intro outer
  obtain ⟨inner, last, hread, hvalue⟩ := hfirst outer
  obtain ⟨innerRest, lastRest, hreadRest, hvalueRest⟩ := hrest outer
  refine ⟨innerRest, lastRest, ?_, hvalueRest.trans (hpasses value more)⟩
  rw [List.foldl_append, hread, List.foldl_cons, ← hreadRest, ← hvalue]
  rfl

/-- Any number of parts with a connective between neighbours are read as one part. -/
theorem read_as_intercalate {α : Type} {connective : Connective} {pieces : α → List Token}
    {value : α → Bool} {parts : List α} (hparts : parts ≠ [])
    (hread : ∀ part ∈ parts, ∀ combine, connective.Passes combine →
      ReadAs configuration (pieces part) combine (value part))
    (hpasses : connective.Passes combine) :
    ReadAs configuration ([Token.between connective].intercalate (parts.map pieces)) combine
      (connective.overall value parts) := by
  induction parts generalizing combine with
  | nil => exact absurd rfl hparts
  | cons part rest ih =>
      obtain ⟨hpart, hrest⟩ := List.forall_mem_cons.mp hread
      cases rest with
      | nil =>
          rw [List.map_singleton, List.intercalate_singleton, Connective.overall_singleton]
          exact hpart combine hpasses
      | cons next others =>
          have hbehind := ih (List.cons_ne_nil next others) hrest
            (connective.passes_apply (combine (value part)))
          have hboth := ReadAs.between hpasses (hpart combine hpasses) hbehind
          rw [List.map_cons, List.map_cons, List.intercalate_cons_cons, List.append_assoc,
            Connective.overall_cons]
          exact hboth

end Token

/-! ## The tokens of a condition -/

/-- The tokens of a list of families. -/
def Token.ofFamilies : List Family → List Token
  | [] => []
  | family :: rest => .first family :: rest.map .further

namespace Guard

/-- The connective between the parts of the condition, if it has parts. -/
def connective? : Guard → Option Connective
  | .all _ => some .conjunction
  | .any _ => some .disjunction
  | _ => none

/-- Whether a part stands in parentheses among parts with a connective between them: its own parts
have the other one. -/
def isEnclosed (connective : Connective) (part : Guard) : Bool :=
  part.connective?.any (· ≠ connective)

/-- Some tokens in parentheses where they are asked for. -/
def enclosedTokens (inParentheses : Bool) (tokens : List Token) : List Token :=
  if inParentheses then .opening :: tokens ++ [.closing] else tokens

mutual
/-- The tokens of which the text of the condition is made. -/
def tokens : Guard → List Token
  | .always => []
  | .family families => Token.ofFamilies families
  | .switch which on => [.switch which on]
  | .output format => [.output format]
  | .all parts => [Token.between .conjunction].intercalate (partTokens .conjunction parts)
  | .any parts => [Token.between .disjunction].intercalate (partTokens .disjunction parts)

/-- The tokens of each part among parts with a connective between them. -/
def partTokens (connective : Connective) : List Guard → List (List Token)
  | [] => []
  | part :: rest =>
      enclosedTokens (part.isEnclosed connective) part.tokens :: partTokens connective rest
end

/-- Each part gives its tokens, in parentheses if it has another connective. -/
theorem part_tokens_eq (connective : Connective) (parts : List Guard) :
    partTokens connective parts =
      parts.map fun part => enclosedTokens (part.isEnclosed connective) part.tokens := by
  induction parts with
  | nil => rfl
  | cons part rest ih => simp [partTokens, ih]

/-- A condition that says something everywhere: it contains no condition that always holds and no
empty list, at any depth. -/
inductive Proper : Guard → Prop
  | family {families : List Family} (hfamilies : families ≠ []) : Proper (.family families)
  | switch (which : Switch) (on : Bool) : Proper (.switch which on)
  | output (format : OutputFormat) : Proper (.output format)
  | all {parts : List Guard} (hparts : parts ≠ []) (hproper : ∀ part ∈ parts, Proper part) :
      Proper (.all parts)
  | any {parts : List Guard} (hparts : parts ≠ []) (hproper : ∀ part ∈ parts, Proper part) :
      Proper (.any parts)

/-- The condition that always holds, or one that says something everywhere. -/
def WellFormed (guard : Guard) : Prop :=
  guard = .always ∨ guard.Proper

/-- A condition that says something is not the one that always holds. -/
theorem Proper.not_always {guard : Guard} (h : guard.Proper) : guard.isAlways = false := by
  cases h <;> rfl

end Guard

/-! ## The tokens make the text -/

namespace Token

/-- A single token has its own text. -/
theorem text_of_singleton (token : Token) : textOf [token] = token.text := by
  simp [textOf, String.join]

/-- Parts with a token between them have the texts of the parts, joined by that of the token. -/
theorem text_of_intercalate (connective : Connective) (pieces : List (List Token)) :
    textOf ([between connective].intercalate pieces) =
      Text.joined connective.text (pieces.map textOf) := by
  induction pieces with
  | nil => rfl
  | cons piece rest ih =>
      cases rest with
      | nil =>
          rw [List.intercalate_singleton]
          rfl
      | cons next others =>
          rw [List.intercalate_cons_cons, text_of_append, text_of_append, ih, text_of_singleton]
          exact (Text.joined_cons_cons _ _ _ _).symm

/-- The commas between families are those of a joined list. -/
theorem text_of_families {families : List Family} (h : families ≠ []) :
    textOf (ofFamilies families) = "for " ++ Text.joined ", " (families.map Family.name) := by
  have hfurther (families : List Family) (start : String) :
      start ++ textOf (families.map further) =
        (families.map Family.name).foldl (fun text part => text ++ ", " ++ part) start := by
    induction families generalizing start with
    | nil => exact String.append_empty
    | cons family rest ih =>
        rw [List.map_cons, List.map_cons, List.foldl_cons, ← ih, ← List.singleton_append,
          text_of_append, text_of_singleton, ← String.append_assoc]
        congr 1
        exact String.append_assoc.symm
  cases families with
  | nil => exact absurd rfl h
  | cons family rest =>
      rw [ofFamilies, ← List.singleton_append, text_of_append, text_of_singleton]
      show "for " ++ family.name ++ _ = _
      rw [String.append_assoc, hfurther]
      rfl

end Token

namespace Guard

/-- Parentheses around tokens are parentheses around their text. -/
theorem text_of_enclosed_tokens (inParentheses : Bool) (tokens : List Token) :
    Token.textOf (enclosedTokens inParentheses tokens) =
      enclosed inParentheses (Token.textOf tokens) := by
  cases inParentheses with
  | false => rfl
  | true =>
      show Token.textOf ([.opening] ++ tokens ++ [.closing]) = _
      rw [Token.text_of_append, Token.text_of_append, Token.text_of_singleton,
        Token.text_of_singleton]
      rfl

/-- The parts of a conjunction that says something everywhere are all written. -/
theorem conjunct_texts_eq {parts : List Guard} (hproper : ∀ part ∈ parts, part.Proper) :
    conjunctTexts parts = parts.map fun part => enclosed part.isAny part.text := by
  induction parts with
  | nil => rfl
  | cons part rest ih =>
      obtain ⟨hpart, hrest⟩ := List.forall_mem_cons.mp hproper
      simp [conjunctTexts, hpart.not_always, ih hrest]

/-- Alternatives that are conjunctions are written in parentheses. -/
theorem disjunct_texts_eq (parts : List Guard) :
    disjunctTexts parts = parts.map fun part => enclosed part.isAll part.text := by
  induction parts with
  | nil => rfl
  | cons part rest ih => simp [disjunctTexts, ih]

/-- The tokens of parts make the texts of the parts, in parentheses where they stand in them. -/
theorem map_text_of_part_tokens {connective : Connective} {parts : List Guard}
    (htext : ∀ part ∈ parts, Token.textOf part.tokens = part.text) :
    (partTokens connective parts).map Token.textOf =
      parts.map fun part => enclosed (part.isEnclosed connective) part.text := by
  rw [part_tokens_eq, List.map_map]
  refine List.map_congr_left fun part hpart => ?_
  rw [Function.comp_apply, text_of_enclosed_tokens, htext part hpart]

/-- In a conjunction, exactly the disjunctions are in parentheses. -/
theorem is_enclosed_conjunction (part : Guard) : part.isEnclosed .conjunction = part.isAny := by
  cases part <;> rfl

/-- In a disjunction, exactly the conjunctions are in parentheses. -/
theorem is_enclosed_disjunction (part : Guard) : part.isEnclosed .disjunction = part.isAll := by
  cases part <;> rfl

/-- The text of a condition is that of its tokens. -/
theorem Proper.text_of_tokens {guard : Guard} (h : guard.Proper) :
    Token.textOf guard.tokens = guard.text := by
  induction h with
  | family hfamilies => rw [tokens, text, Token.text_of_families hfamilies]
  | switch which on =>
      rw [tokens, Token.text_of_singleton]
      cases on <;> rw [text] <;> rfl
  | output format =>
      rw [tokens, Token.text_of_singleton, text]
      rfl
  | all hparts hproper ih =>
      rw [tokens, Token.text_of_intercalate, map_text_of_part_tokens ih, text,
        conjunct_texts_eq hproper]
      simp only [is_enclosed_conjunction, Connective.text]
  | any hparts hproper ih =>
      rw [tokens, Token.text_of_intercalate, map_text_of_part_tokens ih, text, disjunct_texts_eq]
      simp only [is_enclosed_disjunction, Connective.text]

/-! ## The reader finds the value -/

/-- Families behind the first one extend the value that is held. -/
theorem foldl_read_further (configuration : Configuration) (families : List Family)
    (combine : Bool → Bool) (value : Bool) (outer : List Token.Level) :
    (families.map Token.further).foldl (Token.read configuration)
        (.holding combine value :: outer) =
      .holding combine (value || families.contains configuration.family) :: outer := by
  induction families generalizing value with
  | nil => simp
  | cons family rest ih =>
      rw [List.map_cons, List.foldl_cons, Token.read, ih, List.contains_cons, Bool.or_assoc]

/-- A list of families is read as whether the configured family is in it. -/
theorem read_as_families {families : List Family} (h : families ≠ [])
    (configuration : Configuration) (combine : Bool → Bool) :
    Token.ReadAs configuration (Token.ofFamilies families) combine
      (families.contains configuration.family) := by
  cases families with
  | nil => exact absurd rfl h
  | cons family rest =>
      intro outer
      refine ⟨combine, _, ?_, rfl⟩
      rw [Token.ofFamilies, List.foldl_cons, Token.read, foldl_read_further, List.contains_cons]

variable {configuration : Configuration} {combine : Bool → Bool}

/-- A part among others is read as a part, in parentheses or not. -/
theorem read_as_enclosed_tokens {connective : Connective} {part : Guard}
    (hread : ∀ combine, (∀ own, part.connective? = some own → own.Passes combine) →
      Token.ReadAs configuration part.tokens combine (part.holds configuration))
    (hpasses : connective.Passes combine) :
    Token.ReadAs configuration (enclosedTokens (part.isEnclosed connective) part.tokens) combine
      (part.holds configuration) := by
  cases henclosed : part.isEnclosed connective with
  | true => exact (hread id fun own _ => own.passes_id).enclosed combine
  | false =>
      refine hread combine fun own hown => ?_
      rw [isEnclosed, hown] at henclosed
      have hsame : own = connective := by simpa using henclosed
      exact hsame ▸ hpasses

/-- Parts with a connective between them are read as the overall value of the parts. -/
theorem read_as_part_tokens {connective : Connective} {parts : List Guard} (hparts : parts ≠ [])
    (hread : ∀ part ∈ parts, ∀ combine,
      (∀ own, part.connective? = some own → own.Passes combine) →
      Token.ReadAs configuration part.tokens combine (part.holds configuration))
    (hpasses : connective.Passes combine) :
    Token.ReadAs configuration
      ([Token.between connective].intercalate (partTokens connective parts)) combine
      (connective.overall (holds configuration) parts) := by
  rw [part_tokens_eq]
  exact Token.read_as_intercalate hparts
    (fun part hpart _ => read_as_enclosed_tokens (hread part hpart)) hpasses

/-- A condition that says something everywhere is read as a part that has its value, if what will be
made of it can be made of its parts one after the other. -/
theorem Proper.read_as {guard : Guard} (h : guard.Proper)
    (hpasses : ∀ own, guard.connective? = some own → own.Passes combine) :
    Token.ReadAs configuration guard.tokens combine (guard.holds configuration) := by
  induction h generalizing combine with
  | family hfamilies =>
      rw [tokens, holds]
      exact read_as_families hfamilies configuration combine
  | switch which on =>
      rw [tokens, holds]
      exact fun outer => ⟨combine, _, rfl, rfl⟩
  | output format =>
      rw [tokens, holds]
      exact fun outer => ⟨combine, _, rfl, rfl⟩
  | all hparts hproper ih =>
      rw [tokens, holds, all_hold_eq]
      exact read_as_part_tokens hparts (fun part hpart _ => ih part hpart) (hpasses _ rfl)
  | any hparts hproper ih =>
      rw [tokens, holds, any_holds_eq]
      exact read_as_part_tokens hparts (fun part hpart _ => ih part hpart) (hpasses _ rfl)

namespace WellFormed

variable {guard : Guard}

/-- The tokens of a well-formed condition make its text. -/
theorem text_of_tokens (h : guard.WellFormed) : Token.textOf guard.tokens = guard.text := by
  rcases h with rfl | hproper
  · rw [tokens, text]
    rfl
  · exact hproper.text_of_tokens

/-- The tokens of a well-formed condition say of every configuration whether the condition holds. -/
theorem meaning_tokens (h : guard.WellFormed) (configuration : Configuration) :
    Token.meaning configuration guard.tokens = guard.holds configuration := by
  rcases h with rfl | hproper
  · rw [tokens, holds]
    rfl
  · obtain ⟨inner, last, hread, hvalue⟩ :=
      hproper.read_as (fun own _ => own.passes_id) []
    rw [Token.meaning, hread]
    exact hvalue

/-- Conditions with the same text hold of the same configurations. -/
theorem holds_eq_of_text_eq {other : Guard} (h : guard.WellFormed) (hother : other.WellFormed)
    (htext : guard.text = other.text) (configuration : Configuration) :
    guard.holds configuration = other.holds configuration := by
  rw [← h.text_of_tokens, ← hother.text_of_tokens] at htext
  rw [← h.meaning_tokens, ← hother.meaning_tokens, Token.text_of_injective htext]

end WellFormed

/-! ## The conditions of built scripts -/

/-- The parts of a conjunction, or the condition itself. -/
def conjuncts : Guard → List Guard
  | .all parts => parts
  | guard => [guard]

/-- Two conditions of which neither always holds are joined by joining their parts. -/
theorem and_eq_all {first second : Guard} (hfirst : first.isAlways = false)
    (hsecond : second.isAlways = false) :
    first.and second = .all (first.conjuncts ++ second.conjuncts) := by
  cases first with
  | always => cases hfirst
  | family | switch | output | all | any =>
      cases second with
      | always => cases hsecond
      | family | switch | output | all | any => rfl

/-- The conjuncts of a condition that says something say something, and there is one. -/
theorem Proper.conjuncts {guard : Guard} (h : guard.Proper) :
    guard.conjuncts ≠ [] ∧ ∀ part ∈ guard.conjuncts, part.Proper := by
  have halone : [guard] ≠ [] ∧ ∀ part ∈ [guard], part.Proper :=
    ⟨List.cons_ne_nil guard [], List.forall_mem_singleton.mpr h⟩
  cases h with
  | all hparts hproper => exact ⟨hparts, hproper⟩
  | family | switch | output | any => exact halone

/-- Joining keeps conditions well-formed. -/
theorem WellFormed.and {first second : Guard} (hfirst : first.WellFormed)
    (hsecond : second.WellFormed) : (first.and second).WellFormed := by
  rcases hfirst with rfl | hfirst
  · exact hsecond
  · rcases hsecond with rfl | hsecond
    · have halone : first.and .always = first := by cases first <;> rfl
      rw [halone]
      exact .inr hfirst
    · rw [and_eq_all hfirst.not_always hsecond.not_always]
      refine .inr (.all (List.append_ne_nil_of_left_ne_nil hfirst.conjuncts.1 _) ?_)
      exact List.forall_mem_append.mpr ⟨hfirst.conjuncts.2, hsecond.conjuncts.2⟩

/-- The conjunction of conditions that say something is well-formed. -/
theorem well_formed_conjunction {guards : List Guard} (hguards : ∀ guard ∈ guards, guard.Proper) :
    (conjunction guards).WellFormed := by
  have hfold (first : Guard) (hfirst : first.WellFormed) :
      (guards.foldl Guard.and first).WellFormed := by
    induction guards generalizing first with
    | nil => exact hfirst
    | cons guard rest ih =>
        obtain ⟨hguard, hrest⟩ := List.forall_mem_cons.mp hguards
        exact ih hrest _ (hfirst.and (.inr hguard))
  exact hfold .always (.inl rfl)

/-- The condition that a switch is off says something. -/
@[simp]
theorem proper_without (which : Switch) : (without which).Proper :=
  .switch which false

/-- The condition that a switch is on says something. -/
@[simp]
theorem proper_given (which : Switch) : (given which).Proper :=
  .switch which true

/-- The condition for one family says something. -/
@[simp]
theorem proper_only (family : Family) : (only family).Proper :=
  .family (List.cons_ne_nil family [])

/-- The condition for an output format says something. -/
@[simp]
theorem proper_output (format : OutputFormat) : (output format).Proper :=
  .output format

/-- A condition for some families says something if there are any. -/
@[simp]
theorem proper_family_iff {families : List Family} : (family families).Proper ↔ families ≠ [] := by
  constructor
  · intro h
    cases h with
    | family hfamilies => exact hfamilies
  · exact .family

/-- A conjunction says something if it has parts and all of them do. -/
@[simp]
theorem proper_all_iff {parts : List Guard} :
    (all parts).Proper ↔ parts ≠ [] ∧ ∀ part ∈ parts, part.Proper := by
  constructor
  · intro h
    cases h with
    | all hparts hproper => exact ⟨hparts, hproper⟩
  · rintro ⟨hparts, hproper⟩
    exact .all hparts hproper

/-- A disjunction says something if it has parts and all of them do. -/
@[simp]
theorem proper_any_iff {parts : List Guard} :
    (any parts).Proper ↔ parts ≠ [] ∧ ∀ part ∈ parts, part.Proper := by
  constructor
  · intro h
    cases h with
    | any hparts hproper => exact ⟨hparts, hproper⟩
  · rintro ⟨hparts, hproper⟩
    exact .any hparts hproper

end Guard

namespace Recipe

/-- Every scope of a recipe has a condition that is allowed. -/
def Scoped (allowed : Guard → Prop) : Recipe → Prop
  | .skip => True
  | .run _ => True
  | .followed first second => Scoped allowed first ∧ Scoped allowed second
  | .provided guard body => allowed guard ∧ Scoped allowed body
  | .forEach families body =>
      ∀ family ∈ families, allowed (Guard.only family) ∧ Scoped allowed (body family)

/-- A call has no conditions of its own. -/
theorem scoped_call (allowed : Guard → Prop) (name : String) (arguments : List String) :
    (call name arguments).Scoped allowed :=
  trivial

/-- The conditions of a block are those of its parts. -/
theorem scoped_block {allowed : Guard → Prop} {parts : List Recipe} :
    (block parts).Scoped allowed ↔ ∀ part ∈ parts, part.Scoped allowed := by
  induction parts with
  | nil => simp [block, Scoped]
  | cons part rest ih => simp [block, Scoped, ih]

/-- The conditions around each place of a recipe are conditions of its scopes. -/
theorem Scoped.scopes {allowed : Guard → Prop} {recipe : Recipe} (h : recipe.Scoped allowed)
    {occurrence : Occurrence} (hoccurrence : occurrence ∈ recipe.occurrences) :
    ∀ guard ∈ occurrence.scopes, allowed guard := by
  induction recipe generalizing occurrence with
  | skip => exact absurd hoccurrence List.not_mem_nil
  | run command =>
      rw [List.mem_singleton.mp hoccurrence]
      exact List.forall_mem_nil allowed
  | followed first second ihFirst ihSecond =>
      rcases List.mem_append.mp hoccurrence with hmem | hmem
      · exact ihFirst h.1 hmem
      · exact ihSecond h.2 hmem
  | provided guard body ih =>
      obtain ⟨inner, hinner, rfl⟩ := List.mem_map.mp hoccurrence
      exact List.forall_mem_cons.mpr ⟨h.1, ih h.2 hinner⟩
  | forEach families body ih =>
      obtain ⟨family, hfamily, hmem⟩ := List.mem_flatMap.mp hoccurrence
      obtain ⟨inner, hinner, rfl⟩ := List.mem_map.mp hmem
      obtain ⟨honly, hbody⟩ := h family hfamily
      exact List.forall_mem_cons.mpr ⟨honly, ih family hbody hinner⟩

/-- A recipe whose conditions say something records its invocations under well-formed conditions. -/
theorem Scoped.well_formed {recipe : Recipe} (h : recipe.Scoped Guard.Proper)
    {invocation : Invocation} (hinvocation : invocation ∈ recipe.invocations []) :
    invocation.guard.WellFormed := by
  rw [invocations_eq] at hinvocation
  obtain ⟨occurrence, hoccurrence, rfl⟩ := List.mem_map.mp hinvocation
  exact Guard.well_formed_conjunction (h.scopes hoccurrence)

end Recipe

namespace Flow

open Recipe

/-- Every condition that is written in the recipes says something everywhere. -/
theorem scoped_plan (configuration : Configuration) :
    ∀ entry ∈ plan configuration, entry.2.Scoped Guard.Proper := by
  simp only [plan, List.forall_mem_cons]
  refine ⟨?libraries, ?prepare, ?mapDsp, ?coarse, ?mapBram, ?mapFfram, ?mapGates, ?mapFfs, ?mapLuts,
    ?mapCells, ?check, ?ioMap, ?finalize, ?blif, ?edif, ?verilog, List.forall_mem_nil _⟩
  case libraries =>
    simp [libraries, scoped_block, scoped_call, Scoped, readLibrary, Family.all]
  case prepare => simp [prepare, scoped_block, scoped_call, Scoped, runIf]
  case mapDsp =>
    refine ⟨Guard.proper_without _, fun family _ => ⟨Guard.proper_only family, ?_⟩⟩
    dsimp only
    split
    · simp [mapDspDirectly, scoped_block, scoped_call, Scoped]
    · simp [mapDspInSteps, scoped_block, scoped_call, Scoped, runIf, callIf]
  case coarse => simp [coarse, scoped_block, scoped_call, Scoped]
  case mapBram =>
    refine ⟨Guard.proper_without _, fun family _ => ⟨Guard.proper_only family, ?_⟩⟩
    cases family <;> simp [scoped_block, scoped_call, Scoped]
  case mapFfram => simp [mapFfram, scoped_block, scoped_call, Scoped]
  case mapGates =>
    have hwithout : Family.having (fun family => !family.hasAdderMap) ≠ [] := by decide
    simp [mapGates, scoped_block, scoped_call, Scoped, runIf, hwithout]
  case mapFfs =>
    simp [mapFfs, scoped_block, scoped_call, Scoped, runIf, callIf, Family.all,
      Family.shiftRegisterBounds]
  case mapLuts =>
    simp [mapLuts, mapLutsFor, scoped_block, scoped_call, Scoped, runIf, callIf, Family.all]
  case mapCells => simp [mapCells, scoped_block, scoped_call, Scoped]
  case check => simp [check, scoped_block, Scoped]
  case ioMap => simp [ioMap, scoped_block, Scoped]
  case finalize => simp [finalize, scoped_block, Scoped, runIf]
  case blif => simp [blif, scoped_call, Scoped, callIf]
  case edif => simp [edif, scoped_block, scoped_call, Scoped]
  case verilog => simp [verilog, scoped_call, Scoped, callIf]

end Flow

/-- Every invocation of a built script has a well-formed condition. -/
theorem Script.well_formed_build {configuration : Configuration} {invocation : Invocation}
    (h : invocation ∈ (build configuration).invocations) : invocation.guard.WellFormed := by
  obtain ⟨stage, hstage, hinvocation⟩ := List.mem_flatMap.mp h
  obtain ⟨entry, hentry, rfl⟩ := List.mem_map.mp hstage
  have hrecorded : invocation ∈ entry.2.invocations [] := by
    unfold kept at hinvocation
    split at hinvocation
    · exact hinvocation
    · exact List.mem_of_mem_filter hinvocation
  exact (Flow.scoped_plan configuration entry hentry).well_formed hrecorded

/-! ## Listings -/

namespace Invocation

/-- An invocation without annotation runs under every configuration. -/
theorem holds_of_annotation_eq_none {invocation : Invocation} (h : invocation.annotation = none)
    (configuration : Configuration) : invocation.guard.holds configuration = true := by
  unfold annotation at h
  cases hguard : invocation.guard with
  | always => rw [Guard.holds]
  | family | switch | output | all | any =>
      rw [hguard] at h
      cases h

/-- Invocations with well-formed conditions and the same annotation run under the same
configurations. -/
theorem holds_eq_of_annotation_eq {one other : Invocation} (hone : one.guard.WellFormed)
    (hother : other.guard.WellFormed) (h : one.annotation = other.annotation)
    (configuration : Configuration) :
    one.guard.holds configuration = other.guard.holds configuration := by
  cases hannotation : one.annotation with
  | none =>
      rw [holds_of_annotation_eq_none hannotation,
        holds_of_annotation_eq_none (h.symm.trans hannotation)]
  | some text =>
      have hwritten {invocation : Invocation} (hsome : invocation.annotation = some text) :
          invocation.guard.text = text := by
        unfold annotation at hsome
        split at hsome
        · cases hsome
        · exact Option.some.inj hsome
      have htext := (hwritten hannotation).trans (hwritten (h.symm.trans hannotation)).symm
      exact hone.holds_eq_of_text_eq hother htext configuration

end Invocation

/-- What an executor runs are invocations of its script. -/
theorem Executor.invocation_mem_of_selected {executor : Executor} {step : Step}
    (h : step ∈ stepsOf executor.selectedStages) :
    step.invocation ∈ executor.script.invocations := by
  obtain ⟨stage, hstage, hstep⟩ := List.mem_flatMap.mp h
  obtain ⟨invocation, hinvocation, rfl⟩ := List.mem_map.mp hstep
  have hmem := List.mem_of_mem_take (List.mem_of_mem_drop hstage)
  exact List.mem_flatMap.mpr ⟨stage, hmem, hinvocation⟩

/-- Well-formed conditions with the same text hold of the same configurations, and the conditions of
built scripts are well-formed. So entries of a listing that have the same annotation run under the
same configurations, and an entry without annotation runs under all of them. -/
theorem annotation_determines_condition :
    (∀ one other : Guard, one.WellFormed → other.WellFormed → one.text = other.text →
        ∀ configuration, one.holds configuration = other.holds configuration) ∧
      (∀ configuration, ∀ invocation ∈ (Script.build configuration).invocations,
        invocation.guard.WellFormed) ∧
      ∀ (built : Configuration) (range : StageRange) (executor : Executor),
        Executor.select (Script.build built) range = .ok executor →
        let listed := stepsOf executor.selectedStages
        executor.explain.1.transcript.entries = listed.map (Step.entry .listed) ∧
          (∀ one ∈ listed, ∀ other ∈ listed,
            Entry.annotation (one.entry .listed) = Entry.annotation (other.entry .listed) →
            ∀ configuration, one.holds configuration = other.holds configuration) ∧
          ∀ step ∈ listed, Entry.annotation (step.entry .listed) = none →
            ∀ configuration, step.holds configuration = true := by
  refine ⟨?_, ?_, ?_⟩
  · intro one other hone hother htext
    exact hone.holds_eq_of_text_eq hother htext
  · intro configuration invocation hinvocation
    exact Script.well_formed_build hinvocation
  · intro built range executor hselect listed
    obtain ⟨hscript, hstate⟩ := Executor.fresh_of_select hselect
    have hlisted : ∀ step ∈ listed, step.invocation.guard.WellFormed := by
      intro step hstep
      have hmem := Executor.invocation_mem_of_selected hstep
      rw [hscript] at hmem
      exact Script.well_formed_build hmem
    refine ⟨?_, ?_, ?_⟩
    · rw [Executor.explain_of_pending hstate]
    · intro one hone other hother hsame
      exact Invocation.holds_eq_of_annotation_eq (hlisted one hone) (hlisted other hother) hsame
    · intro step _ hnone
      exact Invocation.holds_of_annotation_eq_none hnone

/-- Two conditions that are nested in different ways and written in the same way, and two commands
of a stage that are annotated in the same way. -/
theorem annotation_determines_condition_nested :
    let inner : Guard := .any [.family [.pp3, .k6n10], .output .edif, .given .noAbc9]
    let one : Guard := .all [.only .pp3, .all [inner, .without .noDsp]]
    let other : Guard := .all [.all [.only .pp3,
      .any [.any [.family [.pp3, .k6n10], .output .edif], .given .noAbc9]], .without .noDsp]
    let built := Options.configure { explain := true } .pp3
    let executor : Executor := { script := Script.build built, start := 11, stop := 11 }
    one.WellFormed ∧ other.WellFormed ∧
      one.text = "for pp3, (for pp3, qlf_k6n10 or if -edif or if -no_abc9), unless -no_dsp" ∧
      one.text = other.text ∧
      (∀ configuration, one.holds configuration = other.holds configuration) ∧
      Executor.select (Script.build built) (.single "iomap") = .ok executor ∧
      executor.explain.1.transcript.entries.map Entry.annotation =
        [some "for pp3", some "for pp3"] ∧
      ∀ first ∈ stepsOf executor.selectedStages, ∀ second ∈ stepsOf executor.selectedStages,
        ∀ configuration, first.holds configuration = second.holds configuration := by
  intro inner one other built executor
  have hone : one.WellFormed := .inr (by simp [one, inner])
  have hother : other.WellFormed := .inr (by simp [other])
  have htext : one.text = other.text := by decide +kernel
  have hselect : Executor.select (Script.build built) (.single "iomap") = .ok executor := rfl
  obtain ⟨hsame, -, hlisting⟩ := annotation_determines_condition
  obtain ⟨-, hentries, -⟩ := hlisting built _ executor hselect
  have hannotations : ∀ step ∈ stepsOf executor.selectedStages,
      Entry.annotation (step.entry .listed) = some "for pp3" := by decide +kernel
  refine ⟨hone, hother, by decide +kernel, htext, hsame one other hone hother htext, hselect,
    by decide +kernel, ?_⟩
  intro first hfirst second hsecond
  exact hentries first hfirst second hsecond
    ((hannotations first hfirst).trans (hannotations second hsecond).symm)

end StagedSynthesis
