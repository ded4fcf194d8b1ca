import RotaryScan.Proofs.ObjNumbering

namespace RotaryScan

namespace Sink

/-- Whoever gives a sink one list of pieces and then another goes on only if all of the first list was
taken. -/
theorem acceptAll_append (s : Sink) (before after : List (List UInt8)) :
    s.acceptAll (before ++ after) =
      if (s.acceptAll before).2 then (s.acceptAll before).1.acceptAll after
      else s.acceptAll before := by
  induction before generalizing s with
  | nil => rfl
  | cons piece before ih =>
    rw [List.cons_append, acceptAll, acceptAll]
    by_cases h : s.fits piece
    · rw [if_pos h, if_pos h, ih]
    · rw [if_neg h, if_neg h]
      rfl

theorem acceptAll_append_cons {s : Sink} {before : List (List UInt8)} {piece : List UInt8}
    (after : List (List UInt8)) (hb : (s.acceptAll before).2 = true)
    (hp : ¬(s.acceptAll before).1.fits piece) :
    s.acceptAll (before ++ piece :: after) = ((s.acceptAll before).1.accept piece, false) := by
  rw [acceptAll_append, if_pos hb, acceptAll, if_neg hp]

section Limited

variable (room : Nat) (taken : Array UInt8)

theorem acceptAll_limited_congr {pieces pieces' : List (List UInt8)}
    (h : pieces.flatten = pieces'.flatten) :
    acceptAll ⟨some room, taken⟩ pieces = acceptAll ⟨some room, taken⟩ pieces' := by
  rw [acceptAll_limited, acceptAll_limited, h]

variable {room}

theorem fits_after_iff {before : List (List UInt8)} (hb : before.flatten.length ≤ room)
    (piece : List UInt8) :
    (acceptAll ⟨some room, taken⟩ before).1.fits piece ↔
      before.flatten.length + piece.length ≤ room := by
  rw [acceptAll_limited]
  simp only [fits, decide_eq_true_eq]
  omega

end Limited

end Sink

namespace StreamFormat

variable (format : StreamFormat) (m : Mesh)

theorem level_event : (format.event m).level = .debug := by
  cases format <;> rfl

theorem writeTo_limited (room : Nat) (taken : Array UInt8) :
    format.writeTo m ⟨some room, taken⟩ =
      (⟨some (room - (Format.utf8 (format.render m)).length),
          taken ++ (Format.utf8 (format.render m)).take room⟩,
        if (Format.utf8 (format.render m)).length ≤ room then some (format.event m) else none) := by
  rw [writeTo, Sink.acceptAll_limited, format.flatten_pieces]
  simp only [decide_eq_true_eq]

/-- A sink with a limit is left with the beginning of the rendering, up to the limit, and the mesh is
reported as written only if that is all of it. Nor does it matter in what pieces the rendering comes:
the first that does not fit is the last that the sink is given. A sink holds nothing back, so that
finishing adds nothing. -/
theorem writeTo_breaks_off (k : Nat) :
    (format.writeTo m { room := some k }).1.taken.toList =
      (Format.utf8 (format.render m)).take (min k (Format.utf8 (format.render m)).length) ∧
    ((format.writeTo m { room := some k }).2 = none ↔
      k < (Format.utf8 (format.render m)).length) ∧
    (∀ e, (format.writeTo m { room := some k }).2 = some e ↔
      (Format.utf8 (format.render m)).length ≤ k ∧ e = format.event m) ∧
    (format.event m).level = .debug ∧
    ∀ before piece after,
      (before ++ piece :: after).flatten = Format.utf8 (format.render m) →
      before.flatten.length ≤ k → k < before.flatten.length + piece.length →
      ∃ s, Sink.acceptAll { room := some k } before = (s, true) ∧
        Sink.acceptAll { room := some k } (before ++ piece :: after) = (s.accept piece, false) ∧
        format.writeTo m { room := some k } = (s.accept piece, none) := by
  refine ⟨?_, ?_, ?_, format.level_event m, ?_⟩
  · rw [writeTo_limited, Array.toList_appendList, List.nil_append, ← List.take_eq_take_min]
  · rw [writeTo_limited, ← Nat.not_le]
    simp
  · intro e
    rw [writeTo_limited]
    simp [eq_comm]
  · intro before piece after hall hb hp
    have hwhole : (Sink.acceptAll { room := some k } before).2 = true := by
      rw [Sink.acceptAll_limited]
      exact decide_eq_true hb
    have hfits := (Sink.fits_after_iff #[] hb piece).not.mpr (by omega)
    have hstop := Sink.acceptAll_append_cons after hwhole hfits
    refine ⟨_, Prod.ext rfl hwhole, hstop, ?_⟩
    rw [writeTo, Sink.acceptAll_limited_congr k #[] ((format.flatten_pieces m).trans hall.symm), hstop]
    rfl

/-- A rendering that comes in smaller pieces than lines and breaks off inside one of them. -/
theorem writeTo_breaks_off_in_face :
    let m := Format.Obj.tile 0
    let before := (obj.pieces m).take 7 ++ [Format.utf8 "f ", Format.utf8 "1"]
    let piece := Format.utf8 " 2 3"
    before.flatten.length ≤ 86 ∧ 86 < before.flatten.length + piece.length ∧
      (obj.writeTo m { room := some 86 }).1.taken.toList = Format.utf8 (Format.unlines
        ["# mesh ScannedMesh", "g new_collection", "o new_object", "v 0 1 0", "v 1 1 0", "v 1 2 0",
          "v 0 2 0"] ++ "f 1 2") ∧
      ∃ s, Sink.acceptAll { room := some 86 } before = (s, true) ∧
        obj.writeTo m { room := some 86 } = (s.accept piece, none) := by
  intro m before piece
  have hb : before.flatten.length ≤ 86 := by decide +kernel
  have hp : 86 < before.flatten.length + piece.length := by decide +kernel
  have hall : (before ++ piece :: [Format.utf8 " 4\n"]).flatten = Format.utf8 (obj.render m) := by
    decide +kernel
  obtain ⟨htaken, -, -, -, hstop⟩ := obj.writeTo_breaks_off m 86
  obtain ⟨s, hs, -, hend⟩ := hstop before piece _ hall hb hp
  refine ⟨hb, hp, ?_, s, hs, hend⟩
  rw [htaken]
  decide +kernel

end StreamFormat

end RotaryScan
