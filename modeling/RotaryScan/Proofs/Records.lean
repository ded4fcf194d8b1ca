import RotaryScan.Proofs.Tokens

namespace RotaryScan

theorem Quad.eq_of_map_corners {α β : Type} {g : α → β} (hg : Function.Injective g) {q q' : Quad α}
    (h : q.corners.map g = q'.corners.map g) : q = q' := by
  have hc : q.corners = q'.corners := (List.map_inj_right fun _ _ he => hg he).mp h
  cases q
  cases q'
  simpa [corners] using hc

theorem eq_of_flatMap_toList {α β : Type} {g : α → List β} (hn : ∀ a, g a ≠ [])
    (hg : Function.Injective g) {a a' : Option α} (h : a.toList.flatMap g = a'.toList.flatMap g) :
    a = a' := by
  cases a with
  | none =>
    cases a' with
    | none => rfl
    | some a' => simp [(hn a').symm] at h
  | some a =>
    cases a' with
    | none => simp [hn a] at h
    | some a' =>
      rw [Option.some.injEq]
      apply hg
      simpa using h

section Mark

variable {α : Type} [DecidableEq α] {mark : α} {before : List α} (h : mark ∉ before)
  (after : List α)
include h

theorem ne_mark_of_mem : ∀ a ∈ before, decide (a ≠ mark) = true := by
  intro a ha
  rw [decide_eq_true_eq]
  rintro rfl
  exact h ha

theorem takeWhile_append_mark : (before ++ mark :: after).takeWhile (· ≠ mark) = before := by
  rw [List.takeWhile_append_of_pos (ne_mark_of_mem h), List.takeWhile_cons_of_neg (by simp),
    List.append_nil]

theorem dropWhile_append_mark :
    (before ++ mark :: after).dropWhile (· ≠ mark) = mark :: after := by
  rw [List.dropWhile_append_of_pos (ne_mark_of_mem h), List.dropWhile_cons_of_neg (by simp)]

end Mark

namespace Format

/-- The pieces of a text between the places where a separator stands. -/
def cut (separator : Char) (s : String) : List String :=
  (s.toList.splitOn separator).map String.ofList

theorem record_cut (s : String) : record (cut ' ' s) = s := by
  rw [← String.toList_inj, cut, record, String.toList_intercalate]
  simp

theorem unlines_append (lines lines' : List String) :
    unlines (lines ++ lines') = unlines lines ++ unlines lines' := by
  simp [unlines, String.join_append]

/-- A newline ends every line, so that nothing follows the last one. -/
theorem cut_unlines {lines : List String} (h : ∀ line ∈ lines, '\n' ∉ line.toList) :
    cut '\n' (unlines lines) = lines ++ [""] := by
  induction lines with
  | nil => rfl
  | cons line lines ih =>
    rw [List.forall_mem_cons] at h
    have hl : (unlines (line :: lines)).toList = line.toList ++ '\n' :: (unlines lines).toList := by
      simp [unlines, String.toList_join]
    rw [cut, hl, List.splitOn_append_cons_self, List.splitOn_eq_singleton h.1, List.map_append]
    simpa [cut] using ih h.2

theorem unlines_inj {lines lines' : List String} (h : ∀ line ∈ lines, '\n' ∉ line.toList)
    (h' : ∀ line ∈ lines', '\n' ∉ line.toList) (he : unlines lines = unlines lines') :
    lines = lines' := by
  have hc := congrArg (cut '\n') he
  rw [cut_unlines h, cut_unlines h'] at hc
  exact List.append_cancel_right hc

theorem mem_intercalate {separator : String} {tokens : List String} {c : Char}
    (h : c ∈ (separator.intercalate tokens).toList) :
    c ∈ separator.toList ∨ ∃ t ∈ tokens, c ∈ t.toList := by
  induction tokens with
  | nil => simp at h
  | cons t tokens ih =>
    cases tokens with
    | nil => exact .inr ⟨t, List.mem_cons_self, by simpa using h⟩
    | cons t' tokens =>
      rw [String.intercalate_cons_cons] at h
      simp only [String.toList_append, List.mem_append] at h
      obtain (h | h) | h := h
      · exact .inr ⟨t, List.mem_cons_self, h⟩
      · exact .inl h
      · obtain h | ⟨t'', ht, h⟩ := ih h
        · exact .inl h
        · exact .inr ⟨t'', List.mem_cons_of_mem _ ht, h⟩

theorem cut_intercalate {separator : String} {c : Char} {tokens : List String}
    (hs : separator.toList = [c]) (h : ∀ t ∈ tokens, c ∉ t.toList) (hn : tokens ≠ []) :
    cut c (separator.intercalate tokens) = tokens := by
  have hc : ∀ l ∈ tokens.map String.toList, c ∉ l := by
    rw [List.forall_mem_map]
    exact h
  have hl := List.splitOn_intercalate c hc (by simpa using hn)
  rw [cut, String.toList_intercalate, hs]
  change (List.splitOn c ([c].intercalate _)).map _ = _
  rw [hl]
  simp

theorem not_mem_of_isToken {c : Char} {t : String} (h : IsToken t) (hc : Text.isBlank c = true) :
    c ∉ t.toList := by
  intro hm
  rw [h.2 c hm] at hc
  cases hc

@[simp] theorem newline_not_mem_toDigits (n : Nat) : '\n' ∉ Nat.toDigits 10 n := by
  rw [← Nat.toList_repr]
  exact not_mem_of_isToken (isToken_repr n) rfl

section Tokens

variable {tokens : List String} (h : ∀ t ∈ tokens, IsToken t)
include h

theorem newline_not_mem_record : '\n' ∉ (record tokens).toList := by
  intro hm
  obtain hs | ⟨t, ht, hm⟩ := mem_intercalate hm
  · simp at hs
  · exact not_mem_of_isToken (h t ht) rfl hm

theorem cut_record (hn : tokens ≠ []) : cut ' ' (record tokens) = tokens :=
  cut_intercalate rfl (fun t ht => not_mem_of_isToken (h t ht) rfl) hn

end Tokens

theorem record_cons (word : String) {tokens : List String} (h : tokens ≠ []) :
    record (word :: tokens) = word ++ " " ++ record tokens :=
  String.intercalate_cons_of_ne_nil h

def keyword (line : String) : String := String.ofList (line.toList.takeWhile (· != ' '))

def rest (line : String) : String := String.ofList (line.toList.dropWhile (· != ' ')).tail

/-- What follows a keyword on the lines that it begins. -/
def records (word : String) (lines : List String) : List String :=
  (lines.filter (keyword · = word)).map rest

theorem rest_mem_records {word line : String} {lines : List String} (hw : keyword line = word)
    (h : line ∈ lines) : rest line ∈ records word lines := by
  apply List.mem_map_of_mem
  simp [h, hw]

theorem records_append (word : String) (lines lines' : List String) :
    records word (lines ++ lines') = records word lines ++ records word lines' := by
  simp [records]

theorem records_flatMap {α : Type} (word : String) (g : α → List String) (as : List α) :
    records word (as.flatMap g) = as.flatMap fun a => records word (g a) := by
  simp [records, List.filter_flatMap, List.map_flatMap]

theorem records_empty_line {word : String} (h : word ≠ "") : records word [""] = [] := by
  have hk : keyword "" = "" := rfl
  simp [records, hk, h.symm]

section Keyword

variable {word : String} (h : ' ' ∉ word.toList) (s : String)
include h

theorem takeWhile_append_space :
    (word ++ " " ++ s).toList.takeWhile (· != ' ') = word.toList ∧
      (word ++ " " ++ s).toList.dropWhile (· != ' ') = ' ' :: s.toList := by
  have hmark : (· != ' ') = fun c : Char => decide (c ≠ ' ') := by
    ext c
    rw [Bool.eq_iff_iff, bne_iff_ne, decide_eq_true_eq]
  have hl : (word ++ " " ++ s).toList = word.toList ++ ' ' :: s.toList := by simp
  rw [hl, hmark]
  exact ⟨takeWhile_append_mark h _, dropWhile_append_mark h _⟩

theorem keyword_append : keyword (word ++ " " ++ s) = word := by
  rw [keyword, (takeWhile_append_space h s).1, String.ofList_toList]

theorem rest_append : rest (word ++ " " ++ s) = s := by
  rw [rest, (takeWhile_append_space h s).2, List.tail_cons, String.ofList_toList]

end Keyword

theorem records_map (word : String) {word' : String} (h : ' ' ∉ word'.toList) (rests : List String) :
    records word (rests.map (word' ++ " " ++ ·)) = if word' = word then rests else [] := by
  simp only [records, List.filter_map, List.map_map, Function.comp_def, keyword_append h,
    rest_append h]
  split
  · next hw => simp [hw]
  · next hw => simp [hw]

theorem newline_not_mem_map {word : String} {rests : List String} (hw : '\n' ∉ word.toList)
    (hr : ∀ r ∈ rests, '\n' ∉ r.toList) :
    ∀ line ∈ rests.map (word ++ " " ++ ·), '\n' ∉ line.toList := by
  rw [List.forall_mem_map]
  intro r h
  simp [hw, hr r h]

end Format

/-- No name of the mesh goes beyond its line. -/
def Mesh.NamesOnOneLine (m : Mesh) : Prop :=
  ∀ name ∈ [m.meshName, m.objectName, m.collectionName], '\n' ∉ name.toList

instance (m : Mesh) : Decidable m.NamesOnOneLine :=
  inferInstanceAs (Decidable (∀ name ∈ [m.meshName, m.objectName, m.collectionName], '\n' ∉ name.toList))

end RotaryScan
