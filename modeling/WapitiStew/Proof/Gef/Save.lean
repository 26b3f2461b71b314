import WapitiStew.Impl.Gef.Errors

/-!
# Writing a file

A `write` of either controller is its calls on the output stream (`Emitted`)
between an open and `finishWrite`. A write that reports success has left exactly
the bytes of its calls, behind the old content when it appends
(`save_success`); one whose calls all go well reports success (`save_healthy`).
-/

namespace WSE.Proof.Gef

open WSE.Framework WSE.Impl.Gef

/-- The bytes in front of those a write adds. -/
def kept (isUpdate : Bool) (before : Option Bytes) : Bytes := if isUpdate then before.getD [] else []

theorem save_success {e : Emitted} {env : WriteEnv} {error : GefError} {isUpdate : Bool}
    {before after : Option Bytes} (h : e.save env error isUpdate before = (after, .ok .success)) :
    after = some (kept isUpdate before ++ e.chunks.flatten) := by
  unfold Emitted.save at h
  cases hopens : env.opens with
  | false =>
    rw [hopens] at h
    cases (Prod.mk.inj h).2
  | true =>
    rw [hopens] at h
    dsimp only at h
    cases hended : e.ended with
    | error abort =>
      rw [hended] at h
      cases (Prod.mk.inj h).2
    | ok =>
      rw [hended] at h
      obtain ⟨hfile, hstatus⟩ := Prod.mk.inj h
      have hfin := finishWrite_success.mp (Except.ok.inj hstatus)
      rw [← hfile]
      show some (OStream.finish _ _ _).disk = _
      rw [OStream.disk_finish hfin, OStream.content_writeAll (OStream.failed_of_finished hfin)]
      simp [OStream.content, OStream.opened, kept]

/-- A successful write leaves a file of a possible size. -/
theorem save_length {e : Emitted} {env : WriteEnv} {error : GefError} {isUpdate : Bool}
    {before : Option Bytes} {file : Bytes}
    (h : e.save env error isUpdate before = (some file, .ok .success))
    (hb : (kept isUpdate before).length ≤ maxFileSize) : file.length ≤ maxFileSize := by
  unfold Emitted.save at h
  cases hopens : env.opens with
  | false =>
    rw [hopens] at h
    cases (Prod.mk.inj h).2
  | true =>
    rw [hopens] at h
    dsimp only at h
    cases hended : e.ended with
    | error abort =>
      rw [hended] at h
      cases (Prod.mk.inj h).2
    | ok =>
      rw [hended] at h
      rw [← Option.some.inj (Prod.mk.inj h).1]
      exact OStream.disk_finish_le _ _ (OStream.disk_writeAll_le _ _ hb)

theorem save_healthy {e : Emitted} (he : e.ended = .ok ()) {env : WriteEnv} (henv : env.Healthy)
    (error : GefError) (isUpdate : Bool) (before : Option Bytes)
    (hsize : (kept isUpdate before ++ e.chunks.flatten).length ≤ maxFileSize) :
    e.save env error isUpdate before =
      (some (kept isUpdate before ++ e.chunks.flatten), .ok .success) := by
  have hw : (OStream.writeAll env.writes e.chunks (OStream.opened (kept isUpdate before))).failed =
      false := by
    refine OStream.writeAll_healthy rfl henv.writes ?_
    rw [OStream.content, OStream.opened, List.append_nil]
    exact hsize
  have hfin := OStream.finish_healthy hw henv.flush henv.close (by
    rw [OStream.content_writeAll hw, OStream.content, OStream.opened, List.append_nil]
    exact hsize)
  have hsave : e.save env error isUpdate before =
      (some (OStream.finish env.flush env.close
        (OStream.writeAll env.writes e.chunks (OStream.opened (kept isUpdate before)))).disk,
        .ok .success) := by
    unfold Emitted.save
    rw [henv.opens, he]
    exact Prod.ext rfl (congrArg Except.ok (finishWrite_success.mpr hfin))
  rw [hsave, save_success hsave]

end WSE.Proof.Gef
