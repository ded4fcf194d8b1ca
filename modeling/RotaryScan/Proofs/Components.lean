import RotaryScan.Proofs.Naming

namespace RotaryScan.Path

variable {p q : Path} {segments : List (List Char)} {name : List Char}

def namesOf (segments : List (List Char)) : List (List Char) :=
  segments.filter fun segment => !isSkipped segment

def originOf : List (List Char) → List Component
  | [] => []
  | first :: rest =>
    if first = ['.'] then [.here] else if first = [] ∧ rest ≠ [] then [.root] else []

def componentsOf (segments : List (List Char)) : List Component :=
  originOf segments ++ (namesOf segments).map componentOf

@[simp] theorem originOf_point (rest : List (List Char)) : originOf (['.'] :: rest) = [.here] := rfl

theorem originOf_slash (h : segments ≠ []) : originOf ([] :: segments) = [.root] := by
  simp [originOf, h]

theorem originOf_append (hn : segments ≠ []) (he : segments ≠ [[]]) (more : List (List Char)) :
    originOf (segments ++ more) = originOf segments := by
  cases segments with
  | nil => exact absurd rfl hn
  | cons first rest =>
    by_cases hf : first = []
    · subst hf
      have hr : rest ≠ [] := fun hr => he (by rw [hr])
      rw [List.cons_append, originOf_slash hr, originOf_slash (List.append_ne_nil_of_left_ne_nil hr _)]
    · simp [originOf, hf]

/-- More segments, whatever they are, make a leading slash of an empty one. -/
theorem originOf_append_congr {more more' : List (List Char)} (hn : segments ≠ []) (h : more ≠ [])
    (h' : more' ≠ []) : originOf (segments ++ more) = originOf (segments ++ more') := by
  cases segments with
  | nil => exact absurd rfl hn
  | cons first rest => simp [originOf, h, h']

@[simp] theorem namesOf_skipped {segment : List Char} (h : isSkipped segment = true)
    (rest : List (List Char)) : namesOf (segment :: rest) = namesOf rest := by
  simp [namesOf, h]

theorem namesOf_append (segments more : List (List Char)) :
    namesOf (segments ++ more) = namesOf segments ++ namesOf more :=
  List.filter_append segments more

theorem namesOf_dropSkippedEnd (segments : List (List Char)) :
    namesOf (dropSkippedEnd segments) = namesOf segments := by
  have hparts : dropSkippedEnd segments ++ segments.rtakeWhile isSkipped = segments :=
    List.rdropWhile_append_rtakeWhile
  have hend : namesOf (segments.rtakeWhile isSkipped) = [] := by
    refine List.filter_eq_nil_iff.mpr fun segment hs => ?_
    rw [List.mem_rtakeWhile_imp hs]
    nofun
  conv_rhs => rw [← hparts, namesOf_append, hend, List.append_nil]

/-- Segments are found again in their text, but that the empty text has an empty segment. -/
theorem namesOf_splitOn (h : ∀ segment ∈ segments, '/' ∉ segment) :
    namesOf ((['/'].intercalate segments).splitOn '/') = namesOf segments := by
  by_cases hn : segments = []
  · subst hn
    rfl
  · rw [List.splitOn_intercalate '/' h hn]

theorem originOf_of_lead (h : p.lead = []) : originOf (p.chars.splitOn '/') = [] := by
  obtain ⟨chars⟩ := p
  have hc : ['/'].intercalate (chars.splitOn '/') = chars := List.intercalate_splitOn '/'
  dsimp only
  generalize chars.splitOn '/' = segments at hc
  subst hc
  match segments with
  | [] => rfl
  | [first] =>
    by_cases hf : first = ['.']
    · subst hf
      cases h
    · simp [originOf, hf]
  | first :: second :: rest =>
    rw [List.intercalate_cons_cons] at h
    by_cases hf : first = ['.'] ∨ first = []
    · obtain rfl | rfl := hf <;> cases h
    · rw [not_or] at hf
      simp [originOf, hf]

theorem lead_cases (p : Path) :
    (p.lead = ['/'] ∧ p.chars.splitOn '/' = [] :: p.body) ∨
    (∃ rest, p.lead = ['.'] ∧ p.body = [] :: rest ∧ p.chars.splitOn '/' = ['.'] :: rest) ∨
    p.lead = [] ∧ p.body = p.chars.splitOn '/' ∧ originOf (p.chars.splitOn '/') = [] := by
  by_cases h : p.lead = []
  · refine .inr (.inr ⟨h, ?_, originOf_of_lead h⟩)
    rw [body, h]
    rfl
  · obtain ⟨chars⟩ := p
    rw [lead] at h
    split at h
    · next rest hc =>
      cases hc
      exact .inl ⟨rfl, List.splitOn_append_cons_self [] rest⟩
    · next hc =>
      cases hc
      exact .inr (.inl ⟨[], rfl, rfl, rfl⟩)
    · next rest hc =>
      cases hc
      exact .inr (.inl ⟨rest.splitOn '/', rfl, List.splitOn_append_cons_self [] rest,
        List.splitOn_append_cons_self ['.'] rest⟩)
    · exact absurd rfl h

theorem body_ne_nil (p : Path) : p.body ≠ [] := List.splitOn_ne_nil _ _

theorem namesOf_body (p : Path) : namesOf p.body = namesOf (p.chars.splitOn '/') := by
  obtain ⟨-, hs⟩ | ⟨rest, -, hb, hs⟩ | ⟨-, hb, -⟩ := p.lead_cases
  · rw [hs, namesOf_skipped rfl]
  · rw [hs, hb, namesOf_skipped rfl, namesOf_skipped rfl]
  · rw [hb]

theorem components_eq (p : Path) : p.components = componentsOf (p.chars.splitOn '/') := by
  rw [componentsOf, ← namesOf_body]
  obtain ⟨hl, hs⟩ | ⟨rest, hl, -, hs⟩ | ⟨hl, -, ho⟩ := p.lead_cases
  · rw [components, hl, hs, originOf_slash p.body_ne_nil]
    rfl
  · rw [components, hl, hs]
    rfl
  · rw [components, hl, ho]
    rfl

theorem named_cases (p : Path) :
    (p.named = [] ∧ namesOf p.body = []) ∨
    ∃ above last, p.named = above ++ [last] ∧ isSkipped last = false ∧
      namesOf p.body = namesOf above ++ [last] := by
  have hn : namesOf p.body = namesOf p.named := (namesOf_dropSkippedEnd p.body).symm
  rw [hn]
  cases List.eq_nil_or_concat p.named with
  | inl he => exact .inl ⟨he, by rw [he]; rfl⟩
  | inr h =>
    obtain ⟨above, last, ha⟩ := h
    rw [List.concat_eq_append] at ha
    have hs : isSkipped last = false := by
      have hne : p.body.rdropWhile isSkipped ≠ [] := by
        change p.named ≠ []
        simp [ha]
      have hlast := List.rdropWhile_last_not isSkipped p.body hne
      change ¬ isSkipped (p.named.getLast hne) = true at hlast
      simpa [ha] using hlast
    refine .inr ⟨above, last, ha, hs, ?_⟩
    rw [ha, namesOf_append]
    simp [namesOf, hs]

theorem originOf_cases (segments : List (List Char)) :
    originOf segments = [] ∨ originOf segments = [.root] ∨ originOf segments = [.here] := by
  cases segments with
  | nil => exact .inl rfl
  | cons first rest =>
    rw [originOf]
    split
    · exact .inr (.inr rfl)
    split
    · exact .inr (.inl rfl)
    · exact .inl rfl

/-- A path ends in a name, which is then that of its file, or in two points, or it is nothing but its
start. -/
theorem fileName?_cases (p : Path) :
    (∃ name, p.fileName? = some name ∧ p.components.getLast? = some (.name name)) ∨
    p.fileName? = none ∧ (p.components = [] ∨ p.components = [.root] ∨ p.components = [.here] ∨
      p.components.getLast? = some .up) := by
  rw [components_eq, componentsOf, ← namesOf_body, fileName?]
  obtain ⟨hn, hb⟩ | ⟨above, last, hn, -, hb⟩ := p.named_cases
  · rw [hn, hb, List.map_nil, List.append_nil]
    refine .inr ⟨rfl, ?_⟩
    obtain ho | ho | ho := originOf_cases (p.chars.splitOn '/') <;> simp [ho]
  · rw [hn, hb]
    by_cases hl : last = ['.', '.']
    · simp [componentOf, hl]
    · simp [componentOf, hl]

theorem fileName?_eq_some_iff :
    p.fileName? = some name ↔ p.components.getLast? = some (.name name) := by
  obtain ⟨name', hf, hc⟩ | ⟨hf, hc⟩ := p.fileName?_cases
  · rw [hf, hc]
    simp
  · rw [hf]
    obtain hc | hc | hc | hc := hc <;> simp [hc]

theorem fileName?_eq_none_iff : p.fileName? = none ↔
    p.components = [] ∨ p.components = [.root] ∨ p.components = [.here] ∨
      p.components.getLast? = some .up := by
  obtain ⟨name, hf, hc⟩ | ⟨hf, hc⟩ := p.fileName?_cases
  · rw [hf]
    refine ⟨nofun, ?_⟩
    rintro (h | h | h | h) <;> simp [h] at hc
  · exact iff_of_true hf hc

theorem fileName?_congr (h : p.components = q.components) : p.fileName? = q.fileName? := by
  ext name
  rw [fileName?_eq_some_iff, fileName?_eq_some_iff, h]

theorem proper_of_fileName? (h : p.fileName? = some name) :
    isSkipped name = false ∧ name ≠ ['.', '.'] := by
  rw [fileName?] at h
  obtain ⟨hn, -⟩ | ⟨above, last, hn, hs, -⟩ := p.named_cases
  · rw [hn] at h
    cases h
  · rw [hn, List.getLast?_concat] at h
    dsimp only at h
    split at h
    · cases h
    · next hu =>
      cases h
      exact ⟨hs, hu⟩

theorem exists_parent (h : p.fileName? = some name) : ∃ q, p.parent? = some q := by
  rw [fileName?] at h
  rw [parent?]
  cases hl : p.named.getLast? with
  | none =>
    rw [hl] at h
    cases h
  | some => exact ⟨_, rfl⟩

section Join

variable (hn : '/' ∉ name) (hs : isSkipped name = false)
include hn hs

theorem segments_join (directory : Path) :
    originOf ((directory.join name).chars.splitOn '/') = originOf (directory.chars.splitOn '/') ∧
    namesOf ((directory.join name).chars.splitOn '/') =
      namesOf (directory.chars.splitOn '/') ++ [name] := by
  have hname : namesOf [name] = [name] := by simp [namesOf, hs]
  have hpoint : name ≠ ['.'] := by
    rintro rfl
    cases hs
  have hafter (above : List Char) :
      (above ++ '/' :: name).splitOn '/' = above.splitOn '/' ++ [name] := by
    rw [List.splitOn_append_cons_self, List.splitOn_eq_singleton hn]
  rw [join]
  split
  · next hl =>
    rw [List.getLast?_eq_none_iff.mp hl, List.splitOn_eq_singleton hn]
    exact ⟨by simp [originOf, hpoint], hname⟩
  · next hl =>
    obtain ⟨above, hd⟩ := List.getLast?_eq_some_iff.mp hl
    have hslash : (above ++ ['/']).splitOn '/' = above.splitOn '/' ++ [[]] :=
      List.splitOn_append_cons_self above []
    rw [hd, List.append_assoc, List.singleton_append, hafter, hslash, namesOf_append, namesOf_append,
      hname]
    refine ⟨originOf_append_congr (List.splitOn_ne_nil _ _) ?_ ?_, ?_⟩
    · exact List.cons_ne_nil _ _
    · exact List.cons_ne_nil _ _
    · rw [namesOf_skipped rfl]
      simp [namesOf]
  · next hl =>
    rw [hafter, namesOf_append, hname]
    refine ⟨originOf_append (List.splitOn_ne_nil _ _) ?_ _, rfl⟩
    -- Only the empty text has nothing but an empty segment.
    intro he
    have hc : ['/'].intercalate (directory.chars.splitOn '/') = directory.chars :=
      List.intercalate_splitOn '/'
    rw [he] at hc
    rw [← hc] at hl
    cases hl

theorem components_join (directory : Path) (hu : name ≠ ['.', '.']) :
    (directory.join name).components = directory.components ++ [.name name] := by
  obtain ⟨ho, hnames⟩ := segments_join hn hs directory
  rw [components_eq, components_eq, componentsOf, componentsOf, ho, hnames, List.map_append,
    List.append_assoc, List.map_singleton, componentOf, if_neg hu]

end Join

theorem components_part (h : segments <+: p.body) :
    (⟨p.lead ++ ['/'].intercalate segments⟩ : Path).components =
      originOf (p.chars.splitOn '/') ++ (namesOf segments).map componentOf := by
  have hslash : ∀ segment ∈ segments, '/' ∉ segment := fun segment hs =>
    not_mem_of_mem_splitOn (h.subset hs)
  rw [components_eq, componentsOf]
  obtain ⟨hl, hs⟩ | ⟨rest, hl, hb, hs⟩ | ⟨hl, hb, ho⟩ := p.lead_cases
  · have hq (text : List Char) : (['/'] ++ text).splitOn '/' = [] :: text.splitOn '/' :=
      List.splitOn_append_cons_self [] text
    rw [hl, hs, hq, originOf_slash p.body_ne_nil, originOf_slash (List.splitOn_ne_nil _ _),
      namesOf_skipped rfl, namesOf_splitOn hslash]
  · rw [hb] at h
    rw [hl, hs]
    obtain rfl | ⟨more, rfl, -⟩ := List.prefix_cons_iff.mp h
    · rfl
    cases more with
    | nil => rfl
    | cons second more =>
      have hq (text : List Char) :
          (['.'] ++ ([] ++ ['/'] ++ text)).splitOn '/' = ['.'] :: text.splitOn '/' :=
        List.splitOn_append_cons_self ['.'] text
      rw [List.forall_mem_cons] at hslash
      rw [List.intercalate_cons_cons, hq, originOf_point, originOf_point, namesOf_skipped rfl,
        namesOf_skipped rfl, namesOf_splitOn hslash.2]
  · have hsegments : originOf ((['/'].intercalate segments).splitOn '/') = [] := by
      by_cases hn : segments = []
      · subst hn
        rfl
      rw [List.splitOn_intercalate '/' hslash hn]
      by_cases he : segments = [[]]
      · subst he
        rfl
      · obtain ⟨more, hm⟩ := h
        rw [← originOf_append hn he more, hm, hb, ho]
    rw [hl, ho, List.nil_append, hsegments, namesOf_splitOn hslash]

/-- What the parent of a path is, and what the path has beyond it. -/
theorem parent?_cases (h : p.parent? = some q) :
    (q.chars = [] ∧ p.components = originOf (p.chars.splitOn '/')) ∨
    ∃ above last, q.chars = p.lead ++ ['/'].intercalate (dropSkippedEnd above) ∧
      q.components = originOf (p.chars.splitOn '/') ++ (namesOf above).map componentOf ∧
      p.components = q.components ++ [componentOf last] := by
  rw [parent?] at h
  obtain ⟨hn, hb⟩ | ⟨above, last, hn, -, hb⟩ := p.named_cases
  · rw [hn] at h
    dsimp only [List.getLast?_nil] at h
    split at h
    · cases h
      refine .inl ⟨rfl, ?_⟩
      rw [components_eq p, componentsOf, ← namesOf_body, hb, List.map_nil, List.append_nil]
    · cases h
  · have hpart : dropSkippedEnd above <+: p.body := by
      have habove : above <+: p.named := ⟨[last], hn.symm⟩
      exact (List.rdropWhile_prefix _ above).trans (habove.trans (List.rdropWhile_prefix _ p.body))
    have hq := components_part hpart
    rw [namesOf_dropSkippedEnd] at hq
    rw [hn, List.getLast?_concat, List.dropLast_concat] at h
    cases h
    refine .inr ⟨above, last, rfl, hq, ?_⟩
    rw [hq, components_eq p, componentsOf, ← namesOf_body, hb, List.map_append, List.append_assoc,
      List.map_singleton]

theorem components_parent (h : p.parent? = some q) : q.components = p.components.dropLast := by
  obtain ⟨hq, hc⟩ | ⟨above, last, -, -, hc⟩ := parent?_cases h
  · obtain ⟨chars⟩ := q
    subst hq
    obtain ho | ho | ho := originOf_cases (p.chars.splitOn '/') <;> rw [hc, ho] <;> rfl
  · rw [hc, List.dropLast_concat]

theorem chars_eq_nil_of_parent (h : p.parent? = some q) (hq : q.components = []) : q.chars = [] := by
  obtain ⟨hc, -⟩ | ⟨above, last, hc, hcomponents, -⟩ := parent?_cases h
  · exact hc
  · rw [hq, eq_comm, List.append_eq_nil_iff, List.map_eq_nil_iff] at hcomponents
    obtain ⟨ho, hnames⟩ := hcomponents
    have hlead : p.lead = [] := by
      obtain ⟨-, hs⟩ | ⟨rest, -, -, hs⟩ | ⟨hl, -⟩ := p.lead_cases
      · rw [hs, originOf_slash p.body_ne_nil] at ho
        cases ho
      · rw [hs] at ho
        cases ho
      · exact hl
    have hskipped : dropSkippedEnd above = [] := by
      refine List.rdropWhile_eq_nil_iff.mpr fun segment hs => ?_
      simpa using List.filter_eq_nil_iff.mp hnames segment hs
    rw [hc, hlead, hskipped]
    rfl

end RotaryScan.Path
