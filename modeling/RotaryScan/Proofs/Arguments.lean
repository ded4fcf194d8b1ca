import RotaryScan.CommandLine.Convert
import RotaryScan.Proofs.Growth
import RotaryScan.Proofs.Tokens

namespace RotaryScan.CommandLine

theorem parseWith_eq_run {α : Type} {specs : List OptionSpec}
    {ofMatches : Matches → Except ArgumentError α} {arguments : List String} {options : α}
    (h : parseWith specs ofMatches arguments = .ok (.run options)) :
    ∃ found, matchOptions specs arguments = .ok found ∧ found.has "help" = false ∧
      ofMatches found = .ok options := by
  rw [parseWith, bind_eq_ok] at h
  obtain ⟨found, hm, h⟩ := h
  refine ⟨found, ?_, ?_⟩
  · cases hf : matchOptions specs arguments with
    | ok found' =>
      rw [hf] at hm
      cases hm
      rfl
    | error e =>
      rw [hf] at hm
      cases hm
  · split at h
    · cases h
    · next hh =>
      rw [bind_eq_ok] at h
      obtain ⟨options', ho, h⟩ := h
      cases h
      exact ⟨Bool.eq_false_iff.mpr hh, ho⟩

namespace ConvertOptions

theorem objectName_eq_ok {found : Matches} {name : Option String} (h : objectName found = .ok name) :
    name = found.value? "name" ∧ ∀ n, name = some n → isName n := by
  unfold objectName at h
  split at h
  · next hv =>
    cases h
    exact ⟨hv.symm, nofun⟩
  · next n hv =>
    split at h
    · next hn =>
      cases h
      refine ⟨hv.symm, ?_⟩
      rintro _ ⟨⟩
      exact hn
    · cases h

theorem ofMatches_eq_ok {found : Matches} {options : ConvertOptions}
    (h : ofMatches found = .ok options) :
    ∃ input format scale stepAngle name,
      found.free.head? = some input ∧ outputFormat found = .ok format ∧
      valueOr found "scale" readFinite? ({} : Settings).scale = .ok scale ∧
      valueOr found "step-angle" readFinite? ({} : Settings).stepAngle = .ok stepAngle ∧
      objectName found = .ok name ∧
      options = {
        input, format
        outputDirectory := found.value? "out-dir"
        settings := {
          scale, stepAngle
          objectName := name
          winding := if found.has "legacy-winding" then .legacy else .consistent
          allowPartial := found.has "partial"
          build := found.has "build" }
        quiet := found.has "quiet" } := by
  unfold ofMatches at h
  split at h
  · next input hinput =>
    simp only [bind_eq_ok] at h
    obtain ⟨format, hformat, scale, hscale, stepAngle, hstep, name, hname, h⟩ := h
    cases h
    exact ⟨input, format, scale, stepAngle, name, hinput, hformat, hscale, hstep, hname, rfl⟩
  · cases h

theorem isToken_of_isName {name : String} (h : isName name) : Format.IsToken name := by
  simp only [isName, Bool.and_eq_true, decide_eq_true_eq, List.all_eq_true, Bool.not_eq_true',
    Bool.or_eq_false_iff] at h
  exact ⟨h.1, fun c hc => (h.2 c hc).2⟩

theorem name_of_parse {arguments : List String} {options : ConvertOptions}
    (h : parse arguments = .ok (.run options)) :
    ∃ found, matchOptions specs arguments = .ok found ∧
      options.settings.objectName = found.value? "name" ∧
      options.settings.build = found.has "build" ∧
      Format.IsToken (options.settings.objectName.getD "new_object") := by
  obtain ⟨found, hm, -, ho⟩ := parseWith_eq_run h
  obtain ⟨input, format, scale, stepAngle, name, -, -, -, -, hname, rfl⟩ := ofMatches_eq_ok ho
  obtain ⟨hvalue, htoken⟩ := objectName_eq_ok hname
  refine ⟨found, hm, hvalue, rfl, ?_⟩
  cases name with
  | none => exact (by decide : Format.IsToken "new_object")
  | some n => exact isToken_of_isName (htoken n rfl)

end ConvertOptions

end RotaryScan.CommandLine
