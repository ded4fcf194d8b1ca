import Mathlib.Data.List.Nodup
import RotaryScan.Proofs.Arguments
import RotaryScan.Proofs.Spelling

namespace RotaryScan.CommandLine

variable {found : Matches}

section Found

variable {specs : List OptionSpec}

theorem matchOptions_of_walk {arguments : List String} (hw : walk specs arguments = .ok found)
    (hn : (found.settings.map Setting.long).Nodup) : matchOptions specs arguments = .ok found := by
  have hcount (long : String) : ¬ 1 < found.count long := by
    have h := List.nodup_iff_count_le_one.mp hn long
    rw [List.count, List.countP_map] at h
    exact Nat.not_lt.mpr h
  have hrepeated : specs.find? (fun spec => 1 < found.count spec.long) = none :=
    List.find?_eq_none.mpr fun spec _ => by simpa using hcount spec.long
  rw [matchOptions, bind_eq_ok]
  refine ⟨found, hw, ?_⟩
  rw [hrepeated]
  rfl

theorem parseWith_of_ofMatches {α : Type} {ofMatches : Matches → Except ArgumentError α} {options : α}
    {arguments : List String} (hm : matchOptions specs arguments = .ok found)
    (hh : found.has "help" = false) (ho : ofMatches found = .ok options) :
    parseWith specs ofMatches arguments = .ok (.run options) := by
  rw [parseWith, hm, bind_eq_ok]
  refine ⟨found, rfl, ?_⟩
  rw [hh, if_neg Bool.false_ne_true, bind_eq_ok]
  exact ⟨options, ho, rfl⟩

end Found

theorem valueOr_of_value? {α : Type} {option value : String} {read? : String → Option α}
    {a otherwise : α} (hv : found.value? option = some value) (hr : read? value = some a) :
    valueOr found option read? otherwise = .ok a := by
  rw [valueOr, hv]
  dsimp only
  rw [hr]

namespace ConvertOptions

inductive Choice
  | output (format : OutputFormat)
  | directory (text : String)
  | name (text : String) (ne : text ≠ "")
    (plain : ∀ c ∈ text.toList, Text.isControl c = false ∧ Text.isBlank c = false)
  | scale (text : String) (value : Float) (reads : Decimal.read? text = some value)
    (finite : value.isFinite)
  | stepAngle (text : String) (value : Float) (reads : Decimal.read? text = some value)
    (finite : value.isFinite)

inductive Flag
  | legacyWinding
  | allowPartial
  | build
  | quiet
  deriving DecidableEq, Repr

namespace Choice

def letter : Choice → Char
  | output _ => 'o'
  | directory _ => 'd'
  | name .. => 'n'
  | scale .. => 's'
  | stepAngle .. => 'a'

def long : Choice → String
  | output _ => "output"
  | directory _ => "out-dir"
  | name .. => "name"
  | scale .. => "scale"
  | stepAngle .. => "step-angle"

def text : Choice → String
  | output format => format.extension
  | directory text => text
  | name text .. => text
  | scale text .. => text
  | stepAngle text .. => text

def set : Choice → ConvertOptions → ConvertOptions
  | output format, o => { o with format }
  | directory text, o => { o with outputDirectory := some text }
  | name text .., o => { o with settings := { o.settings with objectName := some text } }
  | scale _ value .., o => { o with settings := { o.settings with scale := value } }
  | stepAngle _ value .., o => { o with settings := { o.settings with stepAngle := value } }

theorem known (choice : Choice) : Known specs choice.letter choice.long true := by
  cases choice <;> refine ⟨⟨_, rfl, rfl, rfl, rfl⟩, ?_, ?_, ?_⟩ <;> simp [letter, long]

end Choice

namespace Flag

def letter : Flag → Char
  | legacyWinding => 'l'
  | allowPartial => 'p'
  | build => 'b'
  | quiet => 'q'

def long : Flag → String
  | legacyWinding => "legacy-winding"
  | allowPartial => "partial"
  | build => "build"
  | quiet => "quiet"

def set : Flag → ConvertOptions → ConvertOptions
  | legacyWinding, o => { o with settings := { o.settings with winding := .legacy } }
  | allowPartial, o => { o with settings := { o.settings with allowPartial := true } }
  | build, o => { o with settings := { o.settings with build := true } }
  | quiet, o => { o with quiet := true }

theorem known (flag : Flag) : Known specs flag.letter flag.long false := by
  cases flag <;> refine ⟨⟨_, rfl, rfl, rfl, rfl⟩, ?_, ?_, ?_⟩ <;> simp [letter, long]

end Flag

inductive Word
  | option (choice : Choice) (spelling : Spelling)
    (attached : spelling = .shortJoined → choice.text ≠ "")
  | flag (flag : Flag) (spelling : FlagSpelling)
  | other (argument : String) (free : IsFree argument)

namespace Word

def arguments : Word → List String
  | option choice spelling _ => spelling.arguments choice.letter choice.long choice.text
  | flag f spelling => [spelling.argument f.letter f.long]
  | other argument _ => [argument]

def setting? : Word → Option Setting
  | option choice .. => some ⟨choice.long, some choice.text⟩
  | flag f _ => some ⟨f.long, none⟩
  | other .. => none

def free? : Word → Option String
  | option .. => none
  | flag .. => none
  | other argument _ => some argument

def set : Word → ConvertOptions → ConvertOptions
  | option choice .., o => choice.set o
  | flag f _, o => f.set o
  | other .., o => o

end Word

variable {rest free : List String} {m : Matches} {settings : List Setting} {options : ConvertOptions}

theorem walk_line (line : List Word) (hm : walk specs rest = .ok m) :
    walk specs (line.flatMap Word.arguments ++ rest) =
      .ok ⟨line.filterMap Word.setting? ++ m.settings, line.filterMap Word.free? ++ m.free⟩ := by
  induction line with
  | nil => exact hm
  | cons word line ih =>
    rw [List.flatMap_cons, List.append_assoc]
    cases word with
    | option choice spelling attached => exact walk_option choice.known spelling attached ih
    | flag f spelling => exact walk_flag f.known spelling ih
    | other argument hfree => exact walk_free (classify_of_isFree hfree) ih

theorem has_help_of_line (line : List Word) (free : List String) :
    (⟨line.filterMap Word.setting?, free⟩ : Matches).has "help" = false := by
  refine List.any_eq_false.mpr fun setting hs => ?_
  obtain ⟨word, -, hw⟩ := List.mem_filterMap.mp hs
  cases word with
  | option choice =>
    cases hw
    cases choice <;> simp [Choice.long]
  | flag f =>
    cases hw
    cases f <;> simp [Flag.long]
  | other => cases hw

theorem isName_iff {name : String} : isName name ↔
    name ≠ "" ∧ ∀ c ∈ name.toList, Text.isControl c = false ∧ Text.isBlank c = false := by
  simp [isName]

theorem readFinite?_eq_some_iff {s : String} {x : Float} :
    readFinite? s = some x ↔ Decimal.read? s = some x ∧ x.isFinite :=
  Option.filter_eq_some_iff

theorem outputFormat_of_value? {format : OutputFormat}
    (hv : found.value? "output" = some format.extension) : outputFormat found = .ok format := by
  rw [outputFormat, hv]
  dsimp only
  rw [OutputFormat.ofName?_extension]

theorem objectName_of_value? {name : String} (hv : found.value? "name" = some name)
    (hn : isName name) : objectName found = .ok (some name) := by
  rw [objectName, hv]
  dsimp only
  rw [if_pos hn]

theorem ofMatches_of_parts {input : String} {format : OutputFormat} {scale stepAngle : Float}
    {name : Option String} (hinput : found.free.head? = some input)
    (hformat : outputFormat found = .ok format)
    (hscale : valueOr found "scale" readFinite? ({} : Settings).scale = .ok scale)
    (hstep : valueOr found "step-angle" readFinite? ({} : Settings).stepAngle = .ok stepAngle)
    (hname : objectName found = .ok name) :
    ofMatches found = .ok {
      input, format
      outputDirectory := found.value? "out-dir"
      settings := {
        scale, stepAngle
        objectName := name
        winding := if found.has "legacy-winding" then .legacy else .consistent
        allowPartial := found.has "partial"
        build := found.has "build" }
      quiet := found.has "quiet" } := by
  rw [ofMatches, hinput]
  dsimp only
  rw [hformat, hscale, hstep, hname]
  rfl

theorem Choice.ofMatches_cons (choice : Choice) (h : ofMatches ⟨settings, free⟩ = .ok options) :
    ofMatches ⟨⟨choice.long, some choice.text⟩ :: settings, free⟩ = .ok (choice.set options) := by
  obtain ⟨input, format, scale, stepAngle, name, hinput, hformat, hscale, hstep, hname, rfl⟩ :=
    ofMatches_eq_ok h
  cases choice with
  | output format' => exact ofMatches_of_parts hinput (outputFormat_of_value? rfl) hscale hstep hname
  | directory text => exact ofMatches_of_parts hinput hformat hscale hstep hname
  | name text ne plain =>
    exact ofMatches_of_parts hinput hformat hscale hstep
      (objectName_of_value? rfl (isName_iff.mpr ⟨ne, plain⟩))
  | scale text value reads finite =>
    exact ofMatches_of_parts hinput hformat
      (valueOr_of_value? rfl (readFinite?_eq_some_iff.mpr ⟨reads, finite⟩)) hstep hname
  | stepAngle text value reads finite =>
    exact ofMatches_of_parts hinput hformat hscale
      (valueOr_of_value? rfl (readFinite?_eq_some_iff.mpr ⟨reads, finite⟩)) hname

theorem Flag.ofMatches_cons (flag : Flag) (h : ofMatches ⟨settings, free⟩ = .ok options) :
    ofMatches ⟨⟨flag.long, none⟩ :: settings, free⟩ = .ok (flag.set options) := by
  obtain ⟨input, format, scale, stepAngle, name, hinput, hformat, hscale, hstep, hname, rfl⟩ :=
    ofMatches_eq_ok h
  cases flag <;> exact ofMatches_of_parts hinput hformat hscale hstep hname

theorem ofMatches_line (line : List Word) (input : String) (further : List String) :
    ofMatches ⟨line.filterMap Word.setting?, input :: further⟩ =
      .ok (line.foldr Word.set { input }) := by
  induction line with
  | nil => rfl
  | cons word line ih =>
    cases word with
    | option choice => exact choice.ofMatches_cons ih
    | flag f => exact f.ofMatches_cons ih
    | other => exact ih

theorem walk_closing {closing : List String} (h : closing = [] ∨ closing.head? = some "--") :
    walk specs closing = .ok { free := closing.tail } := by
  obtain rfl | h := h
  · rfl
  · obtain ⟨rest, rfl⟩ := List.head?_eq_some_iff.mp h
    exact walk_endOfOptions rest

theorem parse_line {line : List Word} {input : String} {further closing : List String}
    (hn : ((line.filterMap Word.setting?).map Setting.long).Nodup)
    (hc : closing = [] ∨ closing.head? = some "--")
    (hf : line.filterMap Word.free? ++ closing.tail = input :: further) :
    parse (line.flatMap Word.arguments ++ closing) = .ok (.run (line.foldr Word.set { input })) := by
  have hw := walk_line line (walk_closing hc)
  rw [hf, List.append_nil] at hw
  exact parseWith_of_ofMatches (matchOptions_of_walk hw hn) (has_help_of_line line _)
    (ofMatches_line line input further)

section Order

variable {line line' : List Word}

theorem Word.set_comm {word word' : Word}
    (h : ∀ s, word.setting? = some s → ∀ s', word'.setting? = some s' → s.long ≠ s'.long)
    (options : ConvertOptions) : word.set (word'.set options) = word'.set (word.set options) := by
  cases word with
  | option choice =>
    cases word' with
    | option choice' =>
      -- Only two choices of the same option could disturb each other.
      have hne := h _ rfl _ rfl
      cases choice <;> cases choice' <;> first | exact absurd rfl hne | rfl
    | flag f' => cases choice <;> cases f' <;> rfl
    | other => rfl
  | flag f =>
    cases word' with
    | option choice' => cases f <;> cases choice' <;> rfl
    | flag f' => cases f <;> cases f' <;> rfl
    | other => rfl
  | other => rfl

theorem foldr_set_perm (hp : line.Perm line')
    (hn : ((line.filterMap Word.setting?).map Setting.long).Nodup) (options : ConvertOptions) :
    line.foldr Word.set options = line'.foldr Word.set options := by
  have hcomm : line.Pairwise fun word word' =>
      ∀ options, word.set (word'.set options) = word'.set (word.set options) := by
    rw [List.Nodup, List.pairwise_map, List.pairwise_filterMap] at hn
    exact hn.imp fun h => Word.set_comm h
  apply hp.foldr_eq'
  intro word hw word' hw' options
  refine hcomm.forall_of_forall_of_flip (fun _ _ _ => rfl) ?_ hw' hw options
  exact hcomm.imp fun h options => (h options).symm

/-- The order of the options does not matter, nor where among them the other arguments stand. -/
theorem parse_perm {closing : List String} {input : String} {further : List String}
    (hp : line.Perm line') (hn : ((line.filterMap Word.setting?).map Setting.long).Nodup)
    (hc : closing = [] ∨ closing.head? = some "--")
    (hf : line.filterMap Word.free? ++ closing.tail = input :: further)
    (hf' : line'.filterMap Word.free? = line.filterMap Word.free?) :
    parse (line'.flatMap Word.arguments ++ closing) =
      parse (line.flatMap Word.arguments ++ closing) := by
  have hn' : ((line'.filterMap Word.setting?).map Setting.long).Nodup :=
    ((hp.filterMap _).map _).nodup_iff.mp hn
  rw [parse_line hn hc hf, parse_line hn' hc (by rw [hf', hf]), foldr_set_perm hp hn]

end Order

theorem readFinite_of_valueOr {option : String} {x otherwise : Float}
    (h : valueOr found option readFinite? otherwise = .ok x) (ho : otherwise.isFinite) :
    x.isFinite := by
  unfold valueOr at h
  split at h
  · cases h
    exact ho
  · split at h
    · next hr =>
      cases h
      exact (readFinite?_eq_some_iff.mp hr).2
    · cases h

theorem checked_of_parse {arguments : List String} (h : parse arguments = .ok (.run options)) :
    options.settings.scale.isFinite ∧ options.settings.stepAngle.isFinite ∧
      ∀ name, options.settings.objectName = some name →
        name ≠ "" ∧ ∀ c ∈ name.toList, Text.isControl c = false ∧ Text.isBlank c = false := by
  obtain ⟨found, -, -, ho⟩ := parseWith_eq_run h
  obtain ⟨input, format, scale, stepAngle, name, -, -, hscale, hstep, hname, rfl⟩ := ofMatches_eq_ok ho
  refine ⟨readFinite_of_valueOr hscale (by decide), readFinite_of_valueOr hstep (by decide), ?_⟩
  exact fun n hn => isName_iff.mp ((objectName_eq_ok hname).2 n hn)

/-- Options may stand in any order, each in any of its spellings, before, between and after the other
arguments, of which the first is the input. Whatever is read has passed the checks on its values. -/
theorem parse_complete_and_sound :
    (∀ (line : List Word) (input : String) (further closing : List String),
      ((line.filterMap Word.setting?).map Setting.long).Nodup →
      (closing = [] ∨ closing.head? = some "--") →
      line.filterMap Word.free? ++ closing.tail = input :: further →
      parse (line.flatMap Word.arguments ++ closing) =
        .ok (.run (line.foldr Word.set { input }))) ∧
    ∀ (arguments : List String) (options : ConvertOptions),
      parse arguments = .ok (.run options) →
      options.settings.scale.isFinite ∧ options.settings.stepAngle.isFinite ∧
      ∀ name, options.settings.objectName = some name →
        name ≠ "" ∧ ∀ c ∈ name.toList, Text.isControl c = false ∧ Text.isBlank c = false :=
  ⟨fun _ _ _ _ hn hc hf => parse_line hn hc hf, fun _ _ h => checked_of_parse h⟩

theorem parse_complete_and_sound_mixed :
    parse ["--scale", "0.5", "s.scan", "-q", "-d", "-b", "-nx", "--output=ply", "--", "-q"] =
      .ok (.run {
        input := "s.scan"
        format := .stream .ply
        outputDirectory := some "-b"
        settings := { scale := 0.5, objectName := some "x" }
        quiet := true }) ∧
    (0.5 : Float).isFinite ∧ ∀ c ∈ "x".toList, Text.isControl c = false ∧ Text.isBlank c = false := by
  have h := parse_complete_and_sound.1
    [.option (.scale "0.5" 0.5 (by rfl) (by decide)) .long nofun, .other "s.scan" (by decide),
      .flag .quiet .short, .option (.directory "-b") .short nofun,
      .option (.name "x" (by decide) (isName_iff.mp rfl).2) .shortJoined (by decide),
      .option (.output (.stream .ply)) .longJoined nofun]
    "s.scan" ["-q"] ["--", "-q"] (by decide) (.inr rfl) rfl
  obtain ⟨hscale, -, hname⟩ := parse_complete_and_sound.2 _ _ h
  exact ⟨h, hscale, (hname "x" rfl).2⟩

end ConvertOptions

end RotaryScan.CommandLine
