import RotaryScan.CommandLine.Options
import RotaryScan.Proofs.Growth
import RotaryScan.Proofs.Records

namespace RotaryScan.CommandLine

/-- How an option is written with its value: by its letter or by its long name, the value apart or in
the same argument. -/
inductive Spelling
  | short
  | shortJoined
  | long
  | longJoined
  deriving DecidableEq, Repr

def Spelling.arguments (spelling : Spelling) (letter : Char) (long value : String) : List String :=
  match spelling with
  | .short => ["-" ++ String.singleton letter, value]
  | .shortJoined => ["-" ++ String.singleton letter ++ value]
  | .long => ["--" ++ long, value]
  | .longJoined => ["--" ++ long ++ "=" ++ value]

inductive FlagSpelling
  | short
  | long
  deriving DecidableEq, Repr

def FlagSpelling.argument (spelling : FlagSpelling) (letter : Char) (long : String) : String :=
  match spelling with
  | .short => "-" ++ String.singleton letter
  | .long => "--" ++ long

/-- Whether an argument is taken for what it is: it does not begin with a dash or is nothing else. -/
def IsFree (argument : String) : Prop := argument = "-" ∨ argument.toList.head? ≠ some '-'

instance (argument : String) : Decidable (IsFree argument) := inferInstanceAs (Decidable (_ ∨ _))

structure Known (specs : List OptionSpec) (letter : Char) (long : String) (takesValue : Bool) :
    Prop where
  found : ∃ spec, find? specs (.short letter) = .ok spec ∧ find? specs (.long long) = .ok spec ∧
    spec.long = long ∧ spec.takesValue = takesValue
  letter_ne : letter ≠ '-'
  one_lt : 1 < long.toList.length
  no_equals : '=' ∉ long.toList

variable {specs : List OptionSpec} {spec : OptionSpec} {name : OptionName} {letter c : Char}
  {argument long value : String} {chars body : List Char} {settings : List Setting}
  {waiting : Option (OptionSpec × OptionName)} {rest : List String} {m : Matches}

theorem nameOfLong_toList (h : 1 < long.toList.length) : nameOfLong long.toList = .long long := by
  unfold nameOfLong
  split
  · next hc =>
    rw [hc] at h
    exact absurd h (Nat.lt_irrefl 1)
  · rw [String.ofList_toList]

theorem Known.long_ne {takesValue : Bool} (h : Known specs letter long takesValue) :
    long.toList ≠ [] :=
  List.ne_nil_of_length_pos (Nat.zero_lt_of_lt h.one_lt)

theorem Known.exists_spec {takesValue : Bool} (h : Known specs letter long takesValue) :
    ∃ spec, find? specs (.short letter) = .ok spec ∧
      find? specs (nameOfLong long.toList) = .ok spec ∧ spec.long = long ∧
      spec.takesValue = takesValue := by
  rw [nameOfLong_toList h.one_lt]
  exact h.found

theorem toList_short (letter : Char) : ("-" ++ String.singleton letter).toList = ['-', letter] := by
  simp

theorem toList_shortJoined (letter : Char) (value : String) :
    ("-" ++ String.singleton letter ++ value).toList = '-' :: letter :: value.toList := by
  simp

theorem toList_long (long : String) : ("--" ++ long).toList = '-' :: '-' :: long.toList := by
  simp

theorem toList_longJoined (long value : String) : ("--" ++ long ++ "=" ++ value).toList =
    '-' :: '-' :: (long.toList ++ '=' :: value.toList) := by
  simp

section Classify

theorem classify_of_isFree (h : IsFree argument) : classify specs argument = .ok .free := by
  unfold classify
  obtain rfl | h := h
  · rfl
  · split
    · next hc => simp [hc] at h
    · next hc => simp [hc] at h
    · next hc => simp [hc] at h
    · rfl

theorem classify_of_long (ht : argument.toList = '-' :: '-' :: body) (hb : body ≠ []) :
    classify specs argument = longOption specs body := by
  rw [classify, ht]
  cases body with
  | nil => exact absurd rfl hb
  | cons => rfl

theorem classify_of_short (ht : argument.toList = '-' :: c :: chars) (hc : c ≠ '-')
    (hs : shortOptions specs (c :: chars) = .ok (settings, waiting)) :
    classify specs argument = .ok (.options settings waiting) := by
  rw [classify, ht]
  split
  · next h =>
    cases h
    exact absurd rfl hc
  · next h =>
    cases h
    exact absurd rfl hc
  · next h =>
    cases h
    rw [hs]
    rfl
  · next h => exact absurd rfl (h c chars)

end Classify

section Found

variable (ht : spec.takesValue = true) (hf : spec.takesValue = false)

section Short

variable (h : find? specs (.short letter) = .ok spec)
include h

include ht in
theorem shortOptions_waiting : shortOptions specs [letter] = .ok ([], some (spec, .short letter)) := by
  rw [shortOptions, bind_eq_ok]
  refine ⟨spec, h, ?_⟩
  rw [if_pos ht, if_pos rfl]
  rfl

include ht in
theorem shortOptions_joined (hc : chars ≠ []) :
    shortOptions specs (letter :: chars) = .ok ([⟨spec.long, some (String.ofList chars)⟩], none) := by
  rw [shortOptions, bind_eq_ok]
  refine ⟨spec, h, ?_⟩
  rw [if_pos ht, if_neg hc]
  rfl

include hf in
theorem shortOptions_flag : shortOptions specs [letter] = .ok ([⟨spec.long, none⟩], none) := by
  rw [shortOptions, bind_eq_ok]
  refine ⟨spec, h, ?_⟩
  rw [if_neg (by rw [hf]; nofun), bind_eq_ok]
  exact ⟨([], none), rfl, rfl⟩

end Short

section Long

variable (h : find? specs (nameOfLong body) = .ok spec) (hb : '=' ∉ body)
include h hb

include ht in
theorem longOption_waiting :
    longOption specs body = .ok (.options [] (some (spec, nameOfLong body))) := by
  rw [longOption, List.takeWhile_eq_self_iff.mpr (ne_mark_of_mem hb),
    List.dropWhile_eq_nil_iff.mpr (ne_mark_of_mem hb), bind_eq_ok]
  refine ⟨spec, h, ?_⟩
  dsimp only
  rw [if_pos ht]
  rfl

include ht in
theorem longOption_joined (chars : List Char) : longOption specs (body ++ '=' :: chars) =
    .ok (.options [⟨spec.long, some (String.ofList chars)⟩] none) := by
  rw [longOption, takeWhile_append_mark hb, dropWhile_append_mark hb, bind_eq_ok]
  refine ⟨spec, h, ?_⟩
  dsimp only
  rw [if_pos ht]
  rfl

include hf in
theorem longOption_flag : longOption specs body = .ok (.options [⟨spec.long, none⟩] none) := by
  rw [longOption, List.takeWhile_eq_self_iff.mpr (ne_mark_of_mem hb),
    List.dropWhile_eq_nil_iff.mpr (ne_mark_of_mem hb), bind_eq_ok]
  refine ⟨spec, h, ?_⟩
  dsimp only
  rw [if_neg (by rw [hf]; nofun)]
  rfl

end Long

end Found

section Walk

theorem walk_free (hc : classify specs argument = .ok .free) (hm : walk specs rest = .ok m) :
    walk specs (argument :: rest) = .ok (m.addFree argument) := by
  rw [walk, hc, hm]
  rfl

theorem walk_ready (hc : classify specs argument = .ok (.options settings none))
    (hm : walk specs rest = .ok m) :
    walk specs (argument :: rest) = .ok (m.addSettings settings) := by
  rw [walk, hc, hm]
  rfl

theorem walk_waiting (hc : classify specs argument = .ok (.options [] (some (spec, name))))
    (hm : walk specs rest = .ok m) :
    walk specs (argument :: value :: rest) = .ok (m.addSettings [⟨spec.long, some value⟩]) := by
  rw [walk, hc]
  change (do return (← walk specs rest).addSettings _) = _
  rw [hm]
  rfl

theorem walk_endOfOptions (rest : List String) : walk specs ("--" :: rest) = .ok { free := rest } := by
  rw [walk]
  rfl

/-- However an option is written, it is found with its value, whatever that looks like. -/
theorem walk_option (h : Known specs letter long true) (spelling : Spelling)
    (hv : spelling = .shortJoined → value ≠ "") (hm : walk specs rest = .ok m) :
    walk specs (spelling.arguments letter long value ++ rest) =
      .ok (m.addSettings [⟨long, some value⟩]) := by
  obtain ⟨spec, hshort, hlong, hname, ht⟩ := h.exists_spec
  cases spelling with
  | short =>
    rw [← hname]
    exact walk_waiting (classify_of_short (toList_short letter) h.letter_ne
      (shortOptions_waiting ht hshort)) hm
  | shortJoined =>
    have hchars : value.toList ≠ [] := by simpa using hv rfl
    have hc := classify_of_short (toList_shortJoined letter value) h.letter_ne
      (shortOptions_joined ht hshort hchars)
    rw [String.ofList_toList, hname] at hc
    exact walk_ready hc hm
  | long =>
    have hc := (classify_of_long (toList_long long) h.long_ne).trans
      (longOption_waiting ht hlong h.no_equals)
    rw [← hname] at hc ⊢
    exact walk_waiting hc hm
  | longJoined =>
    have hne : long.toList ++ '=' :: value.toList ≠ [] := List.append_ne_nil_of_left_ne_nil h.long_ne _
    have hc := (classify_of_long (toList_longJoined long value) hne).trans
      (longOption_joined ht hlong h.no_equals value.toList)
    rw [String.ofList_toList, hname] at hc
    exact walk_ready hc hm

theorem walk_flag (h : Known specs letter long false) (spelling : FlagSpelling)
    (hm : walk specs rest = .ok m) :
    walk specs (spelling.argument letter long :: rest) = .ok (m.addSettings [⟨long, none⟩]) := by
  obtain ⟨spec, hshort, hlong, hname, ht⟩ := h.exists_spec
  cases spelling with
  | short =>
    have hc := classify_of_short (toList_short letter) h.letter_ne (shortOptions_flag ht hshort)
    rw [hname] at hc
    exact walk_ready hc hm
  | long =>
    have hc := (classify_of_long (toList_long long) h.long_ne).trans
      (longOption_flag ht hlong h.no_equals)
    rw [hname] at hc
    exact walk_ready hc hm

end Walk

end RotaryScan.CommandLine
