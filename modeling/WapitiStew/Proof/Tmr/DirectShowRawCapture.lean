import WapitiStew.Framework.Lists
import WapitiStew.Proof.Tmr.FrameMemory
import WapitiStew.Spec.Tmr.DirectShowRawCapture

/-!
# A DirectShow capture returns the newest frame, once

* `configure_opens`: a capture that opens delivers the format that was asked for.
* `Booked`: what the monitor knows after a history is what the capture holds. One lemma for each
  region of the mutex, and `Booked.step` for the step.
* `rawCapture_reads`: what readers get, over all runs. It is read off the accepted histories.
-/

namespace WSE.Proof.Tmr

open WSE.Framework WSE.Impl.Tmr WSE.Spec.Tmr

/-! ## The format -/

section Format

variable {f : RawFormat} {t : MediaType} {h : VideoInfoHeader}

theorem hasShape_of_matches {c : Bool} (ht : t.header = some h)
    (hm : matchesDirectShowFormat t f.subtype f.val c = true) : HasShape f t h ∧
      (c = true → HasRate f h) := by
  simp only [matchesDirectShowFormat, ht, matchesDirectShowInterval, Bool.and_eq_true,
    Bool.or_eq_true, Bool.not_eq_true', decide_eq_true_eq] at hm
  obtain ⟨⟨⟨⟨⟨hsubtype, -⟩, hwidth⟩, hheight⟩, hbits⟩, hrate⟩ := hm
  refine ⟨⟨ht, hsubtype, hwidth, ?_, hbits⟩, fun hc => ?_⟩
  · split at hheight
    · exact .inr (by omega)
    · exact .inl hheight
  · obtain hc' | ⟨⟨⟨-, hpos⟩, hlow⟩, hhigh⟩ := hrate
    · exact absurd (hc.symm.trans hc') Bool.true_eq_false.mp
    · exact ⟨hpos, hlow, hhigh⟩

theorem delivers_of_matches (hm : matchesDirectShowFormat t f.subtype f.val true = true) :
    Delivers f t := by
  cases ht : t.header with
  | none =>
    rw [matchesDirectShowFormat, ht] at hm
    cases hm
  | some h =>
    obtain ⟨hshape, hrate⟩ := hasShape_of_matches ht hm
    exact ⟨h, hshape, hrate rfl⟩

/-- A candidate that is selected has the shape, and the interval or a range around it. -/
theorem selectCandidate_offers {size : Int} {candidate : Option (MediaType × StreamCaps)}
    {selected : MediaType} (hs : selectCandidate f size candidate = some selected) :
    ∃ t caps h, candidate = some (t, caps) ∧ HasShape f t h ∧
      (HasRate f h ∨ caps.minFrameInterval ≤ directShowInterval f.val ∧
        directShowInterval f.val ≤ caps.maxFrameInterval) := by
  cases candidate with
  | none => cases hs
  | some candidate =>
    obtain ⟨t, caps⟩ := candidate
    rw [selectCandidate] at hs
    split at hs
    · cases hs
    rename_i hm
    rw [Bool.not_eq_true, Bool.not_eq_false'] at hm
    obtain ⟨h', hselect, -⟩ := Option.map_eq_some_iff.mp hs
    obtain ⟨h, ht, hselect⟩ := Option.bind_eq_some_iff.mp hselect
    refine ⟨t, caps, h, rfl, (hasShape_of_matches ht hm).1, ?_⟩
    have hcaps : (if size ≥ 128 then caps else {}) = caps ∨
        (if size ≥ 128 then caps else {}) = {} := by
      split
      · exact .inl rfl
      · exact .inr rfl
    generalize (if size ≥ 128 then caps else {}) = range at hselect hcaps
    rw [selectDirectShowInterval] at hselect
    split at hselect
    · cases hselect
    split at hselect
    · cases hselect
    rename_i hrange
    cases hrate : matchesDirectShowInterval h.avgTimePerFrame (directShowInterval f.val) with
    | true =>
      simp only [matchesDirectShowInterval, Bool.and_eq_true, decide_eq_true_eq] at hrate
      exact .inl ⟨hrate.1.1.2, hrate.1.2, hrate.2⟩
    | false =>
      simp only [hrate, Bool.not_false, Bool.true_and, Bool.not_eq_true',
        Bool.not_eq_false, Bool.and_eq_true, decide_eq_true_eq] at hrange
      obtain rfl | rfl := hcaps
      · exact .inr ⟨hrange.1.2, hrange.2⟩
      · exact absurd hrange.1.1 (Int.lt_irrefl 0)

theorem connectedDescription_delivers {d : RawDescription f}
    (hd : connectedDescription f t = some d) : Delivers f t ∧
      (d.description.rowStride = 2 * f.val.width.toNat ∨
        ∃ h, t.header = some h ∧ h.sizeImage.toNat = d.required) := by
  rw [connectedDescription] at hd
  split at hd
  · rename_i hm
    obtain ⟨h, hshape, hrate⟩ := delivers_of_matches hm
    refine ⟨⟨h, hshape, hrate⟩, ?_⟩
    simp only [hshape.header, Option.map_some, Option.getD_some] at hd
    split at hd
    · cases hd
      exact .inl rfl
    split at hd
    · rename_i hrow
      cases hd
      refine .inr ⟨h, hshape.header, ?_⟩
      exact (Nat.div_mul_cancel (Nat.dvd_of_mod_eq_zero hrow.1)).symm
    · cases hd
  · cases hd

/-- Nothing has failed in a capture that opens. -/
theorem configure_phases {g : DirectShowGraph} {d : RawDescription f}
    (h : configure g f = .ok d) : connectedDescription f g.connected = some d ∧
      ∀ p ∈ configurePhases g f, ∀ hr ∈ p.2, hresultFailed hr = false := by
  rw [configure] at h
  split at h
  · rename_i hnone hd
    cases h
    refine ⟨hd, fun p hp hr hmem => ?_⟩
    have hphase := List.findSome?_eq_none_iff.mp hnone p hp
    have hfind := Option.map_eq_none_iff.mp hphase
    simpa using List.find?_eq_none.mp hfind hr hmem
  · cases h
  · cases h

theorem accepted_of_checked {accepted : Bool} {hr : Int} (hfailed : hresultFailed hr = true)
    (h : hresultFailed (checked accepted hr) = false) : accepted = true := by
  cases accepted with
  | true => rfl
  | false => exact absurd (hfailed.symm.trans h) Bool.true_eq_false.mp

theorem configure_opens {g : DirectShowGraph} {d : RawDescription f}
    (h : configure g f = .ok d) : OpensAs g f d := by
  obtain ⟨hd, hphases⟩ := configure_phases h
  obtain ⟨hconnected, hstride⟩ := connectedDescription_delivers hd
  simp only [configurePhases, List.forall_mem_cons] at hphases
  obtain ⟨-, -, -, ⟨-, -, -, hselected, -⟩, -, ⟨-, hactual, -⟩, -⟩ := hphases
  refine ⟨?_, ?_, hconnected, hstride⟩
  · obtain ⟨selected, hfind⟩ :=
      Option.isSome_iff_exists.mp (accepted_of_checked (by decide) hselected)
    obtain ⟨candidate, hmem, hselect⟩ := List.exists_of_findSome?_eq_some hfind
    obtain ⟨t, caps, h, rfl, hoffers⟩ := selectCandidate_offers hselect
    exact ⟨t, caps, h, hmem, hoffers⟩
  · obtain ⟨t, ht, hm⟩ :=
      (Option.any_eq_true _ _).mp (accepted_of_checked (by decide) hactual)
    exact ⟨t, ht, delivers_of_matches hm⟩

end Format

/-! ## The frames -/

section Frames

variable {f : RawFormat} (d : RawDescription f)

theorem format_positive (f : RawFormat) : 0 < f.val.width.toNat ∧ 0 < f.val.height.toNat := by
  have hv := f.property
  simp only [CameraFormat.valid, Bool.and_eq_true, decide_eq_true_eq] at hv
  exact ⟨UInt32.lt_iff_toNat_lt.mp hv.1.1.1.1, UInt32.lt_iff_toNat_lt.mp hv.1.1.1.2⟩

theorem required_pos : 0 < d.required := by
  obtain ⟨hwidth, hheight⟩ := format_positive f
  have hrows := d.rows
  rw [RawDescription.required, d.height]
  exact Nat.mul_pos (by omega) hheight

/-- A packed format of an even width has a layout. -/
theorem hasLayout_packed (hp : f.val.pixelFormat = .uyvy422 ∨ f.val.pixelFormat = .yuyv422)
    (hw : f.val.width % 2 = 0) : HasLayout d.description ∧
      layoutBytes d.description = d.required := by
  obtain ⟨hwidth, hheight⟩ := format_positive f
  have hrows := d.rows
  have hplanar : d.description.pixelFormat ≠ .nv12 := by
    rw [d.pixelFormat]
    rintro hn
    rw [hn] at hp
    simp at hp
  have hbytes : rowBytes d.description = 2 * f.val.width.toNat := by
    rw [rowBytes, if_neg hplanar, d.width, d.pixelFormat, Nat.mul_comm]
    obtain hp | hp := hp <;> rw [hp] <;> rfl
  have hsize : layoutBytes d.description = d.required := by
    rw [layoutBytes, planeRows, if_neg hplanar, if_neg (by omega), Nat.mul_comm]
    rfl
  refine ⟨⟨?_, ?_, fun _ => ?_, fun hn => absurd hn hplanar, .inr ?_, ?_⟩, hsize⟩
  · rw [d.height]
    omega
  · omega
  · rw [d.width]
    exact (even_iff _).mp hw
  · omega
  · rw [hsize]
    exact d.bounded

theorem isFrame_frameOf {bytes : Bytes} {sequence : UInt64} {k : Nat}
    (hb : d.required ≤ bytes.length) (hs : sequence = UInt64.ofNat k) (now : Int) :
    IsFrame d k (RawCapture.frameOf d bytes sequence now) := by
  have hdata : (RawCapture.frameOf d bytes sequence now).data.length = d.required :=
    List.length_take_of_le hb
  refine ⟨rfl, hdata, hs, fun hp hw => ?_⟩
  obtain ⟨hlayout, hbytes⟩ := hasLayout_packed d hp hw
  have hsize : d.description.memorySize = d.required := (memorySize_layout hlayout).trans hbytes
  obtain ⟨hvalid, hjpeg⟩ := valid_of_size (hsize ▸ (required_pos d).ne')
  show CameraFrame.valid ⟨d.description, _, _, _⟩ = true
  rw [CameraFrame.valid, if_neg (by rw [hvalid]; simp), if_neg hjpeg, hsize]
  exact decide_eq_true hdata.ge

end Frames

/-! ## The books -/

/-- What a reader would get of a capture that is active and has not failed. -/
def unreadOf (s : SampleState) : Option CameraFrame := if s.latest.data = [] then none else some s.latest

theorem accepted_snoc (log : List RawEvent) (e : RawEvent) :
    acceptedFrames (log ++ [e]) = acceptedFrames log ++ acceptedFrames [e] := List.filterMap_append

theorem read_snoc (log : List RawEvent) (e : RawEvent) :
    readFrames (log ++ [e]) = readFrames log ++ readFrames [e] := List.filterMap_append

section Arrivals

variable {f : RawFormat} {d : RawDescription f} {b : RawBooks} {buffer : Option Bytes} {size : Int}
  {allocates : Bool}

theorem next_inactive (ha : b.active = false) :
    (rawReads d).next b (.arrived buffer size allocates) = b :=
  if_neg (by rw [ha]; exact Bool.false_ne_true)

theorem next_bad (ha : b.active = true) {failure : Int}
    (hf : sampleFailure d buffer size allocates = some failure) :
    (rawReads d).next b (.arrived buffer size allocates) =
      { b with failure, arrived := none, draining := false } := by
  simp only [rawReads, if_pos ha, hf]

theorem next_good (ha : b.active = true) (hf : sampleFailure d buffer size allocates = none) :
    (rawReads d).next b (.arrived buffer size allocates) =
      { b with arrived := buffer, draining := false } := by
  simp only [rawReads, if_pos ha, hf]

theorem sampleFailure_fails {failure : Int}
    (h : sampleFailure d buffer size allocates = some failure) : hresultFailed failure = true := by
  rw [sampleFailure] at h
  split at h
  · cases h
    rfl
  split at h
  · cases h
  · cases h
    rfl

end Arrivals

structure Booked {f : RawFormat} (d : RawDescription f) (s : RawCapture) : Prop where
  accepts : (rawReads d).Accepts s.history
  active : ((rawReads d).after s.history).active = s.state.active
  failure : ((rawReads d).after s.history).failure = s.state.failure
  arrived : ((rawReads d).after s.history).arrived = none
  unread : ((rawReads d).after s.history).unread = unreadOf s.state
  inOrder : (readFrames s.history ++ ((rawReads d).after s.history).unread.toList).Sublist
    (acceptedFrames s.history)
  frames : ∀ k frame, (acceptedFrames s.history)[k]? = some frame → IsFrame d (k + 1) frame
  sequence : s.state.sequence = UInt64.ofNat (acceptedFrames s.history).length

namespace Booked

variable {f : RawFormat} {d : RawDescription f} {s t : RawCapture}

theorem start : Booked d {} where
  accepts := Monitor.accepts_nil _
  active := rfl
  failure := rfl
  arrived := rfl
  unread := rfl
  inOrder := List.nil_sublist _
  frames k frame hk := by cases hk
  sequence := rfl

/-- The calls are not in the books. -/
theorem same (h : Booked d s) (hhistory : t.history = s.history) (hstate : t.state = s.state) :
    Booked d t := by
  obtain ⟨h1, h2, h3, h4, h5, h6, h7, h8⟩ := h
  constructor <;> rw [hhistory] <;> first | rw [hstate]; assumption | assumption

/-- An event by which no frame is accepted or read. -/
theorem next (h : Booked d s) {e : RawEvent} (hhistory : t.history = s.history ++ [e])
    (he : (rawReads d).allowed ((rawReads d).after s.history) e)
    (hnone : acceptedFrames [e] = [] ∧ readFrames [e] = [])
    (hactive : ((rawReads d).next ((rawReads d).after s.history) e).active = t.state.active)
    (hfailure : ((rawReads d).next ((rawReads d).after s.history) e).failure = t.state.failure)
    (harrived : ((rawReads d).next ((rawReads d).after s.history) e).arrived = none)
    (hunread : ((rawReads d).next ((rawReads d).after s.history) e).unread = unreadOf t.state)
    (hhand : ((rawReads d).next ((rawReads d).after s.history) e).unread.toList.Sublist
      ((rawReads d).after s.history).unread.toList)
    (hsequence : t.state.sequence = s.state.sequence) : Booked d t := by
  obtain ⟨haccepted, hread⟩ := hnone
  constructor
  · rw [hhistory]
    exact Monitor.accepts_snoc.mpr ⟨h.accepts, he⟩
  all_goals rw [hhistory]
  all_goals simp only [Monitor.after_snoc, accepted_snoc, read_snoc, haccepted, hread,
    List.append_nil]
  · exact hactive
  · exact hfailure
  · exact harrived
  · exact hunread
  · exact ((List.Sublist.refl _).append hhand).trans h.inOrder
  · exact h.frames
  · exact hsequence.trans h.sequence

/-- A sample that arrives while the capture is inactive is not looked at. -/
theorem ignore (h : Booked d s) (ha : s.state.active = false) (buffer : Option Bytes) (size : Int)
    (allocates : Bool) : Booked d (s.record (.arrived buffer size allocates)) := by
  refine h.next rfl trivial ⟨rfl, rfl⟩ ?_ ?_ ?_ ?_ ?_ rfl <;>
    rw [next_inactive (h.active.trans ha)]
  · exact h.active
  · exact h.failure
  · exact h.arrived
  · exact h.unread

/-- A bad sample arrives. -/
theorem reject (h : Booked d s) (ha : s.state.active = true) {buffer : Option Bytes} {size : Int}
    {allocates : Bool} {failure : Int} (hf : sampleFailure d buffer size allocates = some failure) :
    Booked d ((s.record (.arrived buffer size allocates)).reject failure) := by
  refine h.next rfl trivial ⟨rfl, rfl⟩ ?_ ?_ ?_ ?_ ?_ rfl <;> rw [next_bad (h.active.trans ha) hf]
  · exact h.active
  · rfl
  · exact h.unread

/-- A good sample arrives and is accepted. -/
theorem accept (h : Booked d s) (ha : s.state.active = true) {bytes : Bytes} {size : Int}
    {frame : CameraFrame} (hf : sampleFailure d (some bytes) size true = none)
    (hbytes : frame.data = bytes.take d.required)
    (hframe : IsFrame d ((acceptedFrames s.history).length + 1) frame) :
    Booked d ((s.record (.arrived (some bytes) size true)).accept frame) := by
  have hdata : frame.data ≠ [] := by
    rw [← List.length_pos_iff, hframe.data]
    exact required_pos d
  have hafter : (rawReads d).after (s.history ++ [.arrived (some bytes) size true]) =
      { (rawReads d).after s.history with arrived := some bytes, draining := false } := by
    rw [Monitor.after_snoc, next_good (h.active.trans ha) hf]
  have hsame : acceptedFrames (s.history ++ [.arrived (some bytes) size true]) =
      acceptedFrames s.history := by
    rw [accepted_snoc]
    exact List.append_nil _
  have hread : readFrames (s.history ++ [.arrived (some bytes) size true]) =
      readFrames s.history := by
    rw [read_snoc]
    exact List.append_nil _
  constructor
  · refine Monitor.accepts_snoc.mpr ⟨Monitor.accepts_snoc.mpr ⟨h.accepts, trivial⟩, ?_⟩
    show (rawReads d).allowed
      ((rawReads d).after (s.history ++ [.arrived (some bytes) size true])) (.accepted frame)
    rw [hafter]
    exact ⟨h.active.trans ha, bytes, rfl, hbytes⟩
  all_goals simp only [RawCapture.accept, RawCapture.record, Monitor.after_snoc _ (_ ++ _),
    accepted_snoc (_ ++ _), read_snoc (_ ++ _), hafter, hsame, hread]
  · exact h.active
  · exact h.failure
  · rfl
  · exact (if_neg hdata).symm
  · rw [show readFrames [RawEvent.accepted frame] = [] from rfl, List.append_nil]
    exact ((List.sublist_append_left _ _).trans h.inOrder).append (.refl [frame])
  · intro k g hk
    obtain hg | ⟨rfl, rfl⟩ := getElem?_append_cases hk
    · exact h.frames k g hg
    · exact hframe
  · rw [List.length_append]
    exact hframe.sequence

theorem bufferCB (h : Booked d s) (sample : RawSample) (allocates : Bool) (now : Int) :
    Booked d (s.bufferCB d sample allocates now) := by
  have hfits := sample.fits
  rw [RawCapture.bufferCB]
  by_cases ha : s.state.active = true
  swap
  · have hinactive : s.state.active = false := Bool.eq_false_iff.mpr ha
    rw [if_pos (by show (!s.state.active) = true; rw [hinactive]; rfl)]
    exact h.ignore hinactive _ _ _
  rw [if_neg (by show ¬(!s.state.active) = true; rw [ha]; exact Bool.false_ne_true)]
  cases hbuffer : sample.buffer with
  | none => exact h.reject ha rfl
  | some bytes =>
    dsimp only
    by_cases hsize : sample.size < d.required
    · rw [if_pos hsize]
      exact h.reject ha (by simp [sampleFailure, hsize])
    rw [if_neg hsize]
    cases allocates with
    | false => exact h.reject ha (by simp [sampleFailure, hsize])
    | true =>
      have hlength := hfits bytes hbuffer
      refine h.accept ha (by simp [sampleFailure, hsize]) rfl (isFrame_frameOf d (by omega) ?_ now)
      show s.state.sequence + 1 = _
      rw [h.sequence, UInt64.ofNat_add]
      rfl

theorem start_region (h : Booked d s) : Booked d (s.record .started).start :=
  h.next rfl trivial ⟨rfl, rfl⟩ rfl rfl rfl rfl (List.nil_sublist _) rfl

theorem stop_region (h : Booked d s) : Booked d (s.record .stopped).stop :=
  h.next rfl trivial ⟨rfl, rfl⟩ rfl h.failure h.arrived rfl (List.nil_sublist _) rfl

theorem goto (h : Booked d s) (i : Nat) (phase : RawPhase) : Booked d (s.goto i phase) := h.same rfl rfl

theorem returns (h : Booked d s) (i : Nat) (result : Except CameraError Unit) :
    Booked d (s.returns i result) :=
  h.next rfl trivial ⟨rfl, rfl⟩ h.active h.failure h.arrived h.unread (.refl _) rfl

/-- The events of the graph are taken while nothing is to be read. -/
theorem drain (h : Booked d s) (ha : s.state.active = true) (hempty : s.state.latest.data = [])
    (hok : hresultFailed s.state.failure = false ∨ ((rawReads d).after s.history).draining = true)
    (events : List GraphEvent) : Booked d (events.foldl RawCapture.notice s) := by
  induction events generalizing s with
  | nil => exact h
  | cons e events ih =>
    rw [List.foldl_cons]
    have hunread := h.unread.trans (if_pos hempty)
    have hallowed : (rawReads d).allowed ((rawReads d).after s.history) (.noticed e) :=
      ⟨h.active.trans ha, hunread, hok.imp_left fun hok => h.failure ▸ hok⟩
    have hdraining : ((rawReads d).after (s.history ++ [.noticed e])).draining = true := by
      rw [Monitor.after_snoc]
      rfl
    rw [RawCapture.notice]
    dsimp only
    cases hf : e.failure with
    | none =>
      refine ih (h.next rfl hallowed ⟨rfl, rfl⟩ h.active ?_ h.arrived h.unread (.refl _) rfl) ha
        hempty (.inr hdraining)
      show e.failure.getD _ = _
      rw [hf]
      exact h.failure
    | some failure =>
      refine ih (h.next rfl hallowed ⟨rfl, rfl⟩ h.active ?_ h.arrived h.unread (.refl _) rfl) ha
        hempty (.inr hdraining)
      show e.failure.getD _ = _
      rw [hf]
      rfl

theorem finishRead_error {i : Nat} {late : Bool} {e : CameraError}
    (he : RawCapture.readResult s.state = .error e) :
    s.finishRead i late = (s.record (.read i late (.error e))).goto i .returned := by
  rw [RawCapture.finishRead, he]

theorem finishRead_ok {i : Nat} {late : Bool} {frame : CameraFrame}
    (hr : RawCapture.readResult s.state = .ok frame) :
    s.finishRead i late = { (s.record (.read i late (.ok frame))).goto i .returned with
      state := { s.state with latest := {} } } := by
  rw [RawCapture.finishRead, hr]

/-- A reader that fails leaves the state as it is. -/
theorem failRead (h : Booked d s) {i : Nat} {late : Bool} {e : CameraError}
    (he : RawCapture.readResult s.state = .error e)
    (hanswers : ((rawReads d).after s.history).Answers late (.error e)) :
    Booked d (s.finishRead i late) := by
  rw [finishRead_error he]
  exact h.next rfl hanswers ⟨rfl, rfl⟩ h.active h.failure h.arrived h.unread (.refl _) rfl

theorem takeFrame (h : Booked d s) {i : Nat} {late : Bool} (ha : s.state.active = true)
    (hfailed : hresultFailed s.state.failure = false) (hdata : s.state.latest.data ≠ []) :
    Booked d (s.finishRead i late) := by
  have hunread : ((rawReads d).after s.history).unread = some s.state.latest :=
    h.unread.trans (if_neg hdata)
  have hresult : RawCapture.readResult s.state = .ok s.state.latest := by
    simp [RawCapture.readResult, ha, hfailed, hdata]
  have horder := h.inOrder
  rw [hunread] at horder
  rw [finishRead_ok hresult]
  constructor
  · refine Monitor.accepts_snoc.mpr ⟨h.accepts, h.active.trans ha, h.failure ▸ hfailed,
      h.arrived, hunread⟩
  all_goals simp only [RawCapture.record, RawCapture.goto, Monitor.after_snoc, accepted_snoc,
    read_snoc]
  · exact h.active
  · exact h.failure
  · exact h.arrived
  · rfl
  · show (readFrames s.history ++ [s.state.latest] ++ []).Sublist (acceptedFrames s.history ++ [])
    rwa [List.append_nil, List.append_nil]
  · show ∀ k frame, (acceptedFrames s.history ++ [])[k]? = some frame → _
    rw [List.append_nil]
    exact h.frames
  · show _ = UInt64.ofNat (acceptedFrames s.history ++ []).length
    rw [List.append_nil]
    exact h.sequence

theorem finishRead (h : Booked d s) (i : Nat) {late : Bool} (hlate : s.waits = true → late = true) :
    Booked d (s.finishRead i late) := by
  have hb := h.active
  have hf := h.failure
  cases ha : s.state.active with
  | false => exact h.failRead (by rw [RawCapture.readResult, ha]; rfl) (.inl ⟨rfl, hb.trans ha⟩)
  | true =>
    cases hfailed : hresultFailed s.state.failure with
    | true =>
      refine h.failRead (by rw [RawCapture.readResult, ha, hfailed]; rfl) (.inr (.inl ?_))
      exact ⟨rfl, hb.trans ha, hf ▸ hfailed, hf.symm⟩
    | false =>
      by_cases hempty : s.state.latest.data = []
      · refine h.failRead (by rw [RawCapture.readResult, ha, hfailed, hempty]; rfl)
          (.inr (.inr ⟨rfl, hb.trans ha, hf ▸ hfailed, h.arrived, h.unread.trans (if_pos hempty),
            ?_⟩))
        exact hlate (by rw [RawCapture.waits, ha, hfailed, hempty]; rfl)
      · exact h.takeFrame ha hfailed hempty

theorem readRegion (h : Booked d s) (i : Nat) (events : List GraphEvent) (late : Bool) :
    Booked d (s.readRegion i events late) := by
  rw [RawCapture.readRegion]
  split
  · rename_i hwaits
    have hw := hwaits
    simp only [RawCapture.waits, Bool.and_eq_true, Bool.not_eq_true', List.isEmpty_iff] at hw
    have hdrained := h.drain hw.1.1 hw.2 (.inl hw.1.2) events
    dsimp only
    split
    · rename_i hends
      refine hdrained.finishRead i fun hw => ?_
      simp only [RawCapture.waits, Bool.and_eq_true, Bool.not_eq_true'] at hw
      simpa [hw.1.2] using hends
    · exact hdrained
  · rename_i hwaits
    exact h.finishRead i fun hw => absurd hw hwaits

theorem step (h : Booked d s) {a : RawAction} (hs : rawCaptureStep d s a = some t) : Booked d t := by
  cases a with
  | bufferCB sample allocates now =>
    cases hs
    exact h.bufferCB sample allocates now
  | start | stop | readFrame =>
    simp only [rawCaptureStep] at hs
    split at hs
    · cases hs
    · cases hs
      exact h.same rfl rfl
  | turn i hr events late =>
    obtain ⟨phase, -, hs⟩ := Option.bind_eq_some_iff.mp hs
    cases phase with
    | starting =>
      cases hs
      exact h.start_region.goto i .running
    | running =>
      simp only [rawTurn] at hs
      split at hs
      · cases hs
        exact h.goto i _
      · cases hs
        exact h.returns i _
    | stopping run =>
      cases hs
      exact h.stop_region.goto i _
    | halting run =>
      cases hs
      exact h.returns i _
    | reading =>
      cases hs
      exact h.readRegion i events late
    | returned => cases hs
  | destroy =>
    simp only [rawCaptureStep] at hs
    split at hs
    · cases hs
      exact h.next rfl trivial ⟨rfl, rfl⟩ rfl h.failure h.arrived h.unread (.refl _) rfl
    · cases hs

end Booked

/-! ## What accepted histories say -/

section Histories

variable {f : RawFormat} {d : RawDescription f} {log pre mid post : List RawEvent}

/-- A sample that arrives does not start or stop the capture, and is not read. -/
theorem next_arrived (b : RawBooks) (buffer : Option Bytes) (size : Int) (allocates : Bool) :
    ((rawReads d).next b (.arrived buffer size allocates)).active = b.active ∧
      ((rawReads d).next b (.arrived buffer size allocates)).unread = b.unread := by
  cases ha : b.active with
  | false => exact ⟨by rw [next_inactive ha, ha], by rw [next_inactive ha]⟩
  | true =>
    cases hf : sampleFailure d buffer size allocates with
    | none => exact ⟨by rw [next_good ha hf, ha], by rw [next_good ha hf]⟩
    | some failure => exact ⟨by rw [next_bad ha hf, ha], by rw [next_bad ha hf]⟩

theorem unread_since {frame : CameraFrame} (h : ((rawReads d).after log).unread = some frame) :
    ∃ before since, log = before ++ .accepted frame :: since ∧ ∀ e ∈ since, ¬Replaces e := by
  induction log using List.reverseRecOn with
  | nil => cases h
  | append_singleton log e ih =>
    rw [Monitor.after_snoc] at h
    -- an event that leaves the frame unread, and does not replace it
    have hother (hr : ¬Replaces e) (hu : ((rawReads d).after log).unread = some frame) :
        ∃ before since, log ++ [e] = before ++ .accepted frame :: since ∧
          ∀ x ∈ since, ¬Replaces x := by
      obtain ⟨before, since, rfl, hsince⟩ := ih hu
      refine ⟨before, since ++ [e], by rw [List.append_assoc, List.cons_append], fun x hx => ?_⟩
      obtain hx | hx := List.mem_append.mp hx
      · exact hsince x hx
      · rwa [List.mem_singleton.mp hx]
    cases e with
    | accepted g =>
      cases h
      exact ⟨log, [], rfl, fun x hx => by cases hx⟩
    | started | stopped => cases h
    | read i late result =>
      cases result with
      | ok g => cases h
      | error e => exact hother (by simp [Replaces]) h
    | arrived buffer size allocates =>
      rw [(next_arrived _ buffer size allocates).2] at h
      exact hother (by simp [Replaces]) h
    | destroyed | noticed _ | returned _ _ => exact hother (by simp [Replaces]) h

/-- What holds once `e` has happened and forbids `g` holds until a start. -/
theorem start_between {P : RawBooks → Prop} {e g : RawEvent}
    (h : (rawReads d).Accepts (pre ++ e :: (mid ++ g :: post)))
    (he : P ((rawReads d).next ((rawReads d).after pre) e))
    (hkeeps : ∀ x b, x ≠ .started → (rawReads d).allowed b x → P b → P ((rawReads d).next b x))
    (hg : ∀ b, P b → ¬(rawReads d).allowed b g) : .started ∈ mid := by
  by_contra hmid
  have hsplit : pre ++ e :: (mid ++ g :: post) = (pre ++ [e]) ++ mid ++ g :: post := by
    simp only [List.append_assoc, List.cons_append, List.nil_append]
  rw [hsplit] at h
  refine hg _ (h.init.keeps (by rwa [Monitor.after_snoc]) fun x hx b hb hp => ?_) h.allowed
  exact hkeeps x b (fun hs => hmid (hs ▸ hx)) hb hp

/-- Nothing is read: the capture is inactive, or has failed, which no event of the graph undoes. -/
def NothingRead (b : RawBooks) : Prop :=
  b.active = false ∨ hresultFailed b.failure = true ∧ b.draining = false

theorem nothingRead_arrived {b : RawBooks} {buffer : Option Bytes} {size : Int} {allocates : Bool}
    (h : NothingRead b ∨ (sampleFailure d buffer size allocates).isSome = true) :
    NothingRead ((rawReads d).next b (.arrived buffer size allocates)) := by
  cases ha : b.active with
  | false => exact .inl (by rw [next_inactive ha, ha])
  | true =>
    cases hf : sampleFailure d buffer size allocates with
    | some failure =>
      rw [next_bad ha hf]
      exact .inr ⟨sampleFailure_fails hf, rfl⟩
    | none =>
      obtain (hinactive | hfailed) | hbad := h
      · exact absurd (ha.symm.trans hinactive) Bool.true_eq_false.mp
      · rw [next_good ha hf]
        exact .inr ⟨hfailed.1, rfl⟩
      · rw [hf] at hbad
        cases hbad

theorem start_since_lost {e g : RawEvent}
    (h : (rawReads d).Accepts (pre ++ e :: (mid ++ g :: post))) (he : Loses d e)
    (hg : ∃ frame, Reads frame g) : .started ∈ mid := by
  refine start_between (P := NothingRead) h ?_ (fun x b hx hb hp => ?_) fun b hp => ?_
  · have hallowed := h.allowed
    obtain ⟨buffer, size, allocates, rfl, hbad⟩ | ⟨i, late, error, rfl, hcode⟩ := he
    · exact nothingRead_arrived (.inr hbad)
    · obtain ⟨hc, -⟩ | ⟨-, -, hfailed, -⟩ | ⟨hc, -⟩ := hallowed
      · cases hcode.symm.trans hc
      · exact .inr ⟨hfailed, rfl⟩
      · cases hcode.symm.trans hc
  · cases x with
    | started => exact absurd rfl hx
    | arrived buffer size allocates => exact nothingRead_arrived (.inl hp)
    | noticed e =>
      obtain ⟨hactive, -, hok⟩ := hb
      obtain hinactive | ⟨hfailed, hdrained⟩ := hp
      · exact absurd (hactive.symm.trans hinactive) Bool.true_eq_false.mp
      obtain hok | hdraining := hok
      · exact absurd (hfailed.symm.trans hok) Bool.true_eq_false.mp
      · exact absurd (hdrained.symm.trans hdraining) Bool.false_ne_true
    | read i late result => cases result <;> exact hp.imp_right fun hp => ⟨hp.1, rfl⟩
    | stopped | destroyed => exact .inl rfl
    | accepted _ | returned _ _ => exact hp.imp_right fun hp => ⟨hp.1, rfl⟩
  · obtain ⟨frame, i, late, rfl⟩ := hg
    rintro ⟨hactive, hok, -⟩
    obtain hinactive | ⟨hfailed, -⟩ := hp
    · exact absurd (hactive.symm.trans hinactive) Bool.true_eq_false.mp
    · exact absurd (hfailed.symm.trans hok) Bool.true_eq_false.mp

theorem start_since_end {e g : RawEvent} (h : (rawReads d).Accepts (pre ++ e :: (mid ++ g :: post)))
    (he : Ends e) (hg : ∃ frame, Reads frame g ∨ g = .accepted frame) : .started ∈ mid := by
  refine start_between (P := fun b => b.active = false) h ?_ (fun x b hx hb hp => ?_) fun b hp => ?_
  · obtain rfl | rfl := he <;> rfl
  · cases x with
    | started => exact absurd rfl hx
    | read i late result => cases result <;> exact hp
    | stopped | destroyed => rfl
    | arrived buffer size allocates => exact (next_arrived b buffer size allocates).1.trans hp
    | accepted _ | noticed _ | returned _ _ => exact hp
  · obtain ⟨frame, ⟨i, late, rfl⟩ | rfl⟩ := hg
    · rintro ⟨ha, -⟩
      exact absurd (hp.symm.trans ha) Bool.false_ne_true
    · exact fun ha => absurd (hp.symm.trans ha.1) Bool.false_ne_true

/-- A frame stays unread until it is read or replaced. -/
theorem kept_since {frame : CameraFrame}
    (h : (rawReads d).Accepts (pre ++ .accepted frame :: post)) :
    (∃ e ∈ post, Reads frame e ∨ Replaces e) ∨
      ((rawReads d).after (pre ++ .accepted frame :: post)).unread = some frame := by
  by_contra hcon
  obtain ⟨hpost, hunread⟩ := not_or.mp hcon
  have hsplit : pre ++ .accepted frame :: post = (pre ++ [.accepted frame]) ++ post := by
    rw [List.append_assoc, List.cons_append, List.nil_append]
  rw [hsplit] at h hunread
  refine hunread (h.keeps (P := fun b => b.unread = some frame) (by rw [Monitor.after_snoc]; rfl)
    fun e he b hb hp => ?_)
  have hnot : ¬(Reads frame e ∨ Replaces e) := fun hr => hpost ⟨e, he, hr⟩
  cases e with
  | started => exact absurd (.inr (.inl rfl)) hnot
  | stopped => exact absurd (.inr (.inr (.inl rfl))) hnot
  | accepted g => exact absurd (.inr (.inr (.inr ⟨g, rfl⟩))) hnot
  | read i late result =>
    cases result with
    | ok g =>
      cases hb.2.2.2.symm.trans hp
      exact absurd (.inl ⟨i, late, rfl⟩) hnot
    | error e => exact hp
  | arrived buffer size allocates => exact (next_arrived b buffer size allocates).2.trans hp
  | destroyed | noticed _ | returned _ _ => exact hp

end Histories

/-! ## All runs -/

section Runs

variable {g : DirectShowGraph} {f : RawFormat} {d : RawDescription f} {s : RawCapture}

theorem finishRead_calls (s : RawCapture) (i : Nat) (late : Bool) :
    (s.finishRead i late).calls = s.calls.set i .returned := by
  rw [RawCapture.finishRead]
  split <;> rfl

theorem drain_calls (s : RawCapture) (events : List GraphEvent) :
    (events.foldl RawCapture.notice s).calls = s.calls := by
  induction events generalizing s with
  | nil => rfl
  | cons e events ih =>
    rw [List.foldl_cons, ih, RawCapture.notice]
    split <;> rfl

/-- A reader does not wait beyond its deadline. -/
theorem readRegion_late (s : RawCapture) (i : Nat) (events : List GraphEvent) :
    (s.readRegion i events true).calls = s.calls.set i .returned := by
  rw [RawCapture.readRegion]
  split
  · simp only [Bool.or_true, if_true, finishRead_calls, drain_calls]
  · exact finishRead_calls s i true

theorem rawReads_of_books (h : Booked d s) : RawReads d s where
  answers := h.accepts
  frames := h.frames
  inOrder := (List.sublist_append_left _ _).trans h.inOrder
  newest pre i late frame post hs := by
    have hallowed := (hs ▸ h.accepts).allowed
    exact unread_since hallowed.2.2.2
  kept pre frame post hs := by
    refine (kept_since (hs ▸ h.accepts)).imp_right fun hunread => ?_
    rw [← hs, h.unread, unreadOf] at hunread
    split at hunread
    · cases hunread
    · exact Option.some.inj hunread
  lost pre e mid g post hs he hg := start_since_lost (hs ▸ h.accepts) he hg
  ended pre e mid g post hs he hg := start_since_end (hs ▸ h.accepts) he hg
  returns i hi hr events := by
    refine ⟨s.readRegion i events true, ?_, ?_⟩
    · show s.calls[i]?.bind _ = _
      rw [hi]
      rfl
    · rw [readRegion_late, List.getElem?_set_self (lt_of_getElem? hi)]

/-- Readers of a capture that was opened, in any number, get its newest frames. -/
theorem rawCapture_reads (hopen : configure g f = .ok d) {actions : List RawAction}
    (h : run (rawCaptureStep d) {} actions = some s) : OpensAs g f d ∧ RawReads d s :=
  ⟨configure_opens hopen,
    rawReads_of_books (run_invariant (fun _ _ _ hs ha => hs.step ha) Booked.start h)⟩

end Runs

def pairFormat : RawFormat := ⟨⟨2, 1, 30, 1, .uyvy422⟩, by decide⟩

def pairType : MediaType := ⟨.uyvy, some ⟨333333, 2, -1, 16, 4⟩⟩

def pairGraph : DirectShowGraph where
  streamCaps := [none, some (pairType, { minFrameInterval := 166666, maxFrameInterval := 666666 })]
  actual := some pairType
  connected := pairType

def pairDescription : RawDescription pairFormat :=
  ⟨⟨2, 1, .uyvy422, 4⟩, rfl, rfl, rfl, by decide, by decide⟩

def pairSample (value : Byte) : RawSample where
  buffer := some [value, 2, 3, 4, 5]
  size := 5
  fits b hb := by
    cases hb
    exact Int.le_refl 5

/-- Two readers wait; one gets the newer of two samples, the other one learns that the device is
lost. -/
def pairActions : List RawAction :=
  [.start, .readFrame, .readFrame, .turn 0 0 [] false, .turn 0 0 [] false,
    .turn 1 0 [.other] false, .bufferCB (pairSample 7) true 100, .bufferCB (pairSample 8) true 200,
    .turn 2 0 [] false, .turn 1 0 [.deviceLost] false]

theorem rawCapture_reads_pair : ∃ s, run (rawCaptureStep pairDescription) {} pairActions = some s ∧
    OpensAs pairGraph pairFormat pairDescription ∧ RawReads pairDescription s := by
  have hopen : configure pairGraph pairFormat = .ok pairDescription := rfl
  have hsome : (run (rawCaptureStep pairDescription) {} pairActions).isSome = true := by decide
  obtain ⟨s, hs⟩ := Option.isSome_iff_exists.mp hsome
  exact ⟨s, hs, rawCapture_reads hopen hs⟩

/-- The second sample is returned, without the byte that is not of the frame. -/
example : (run (rawCaptureStep pairDescription) {} pairActions).map
    (fun s => (readFrames s.history).map fun frame => (frame.sequence, frame.data)) =
      some [(2, [8, 2, 3, 4])] := by
  decide

end WSE.Proof.Tmr
