import SpTsMuxer.Muxer.Model

/-!
# One Scan of the Pads

The loop of `sptsmuxer_collected` looks at the heads of the pads.  `GST_CLOCK_TIME_NONE` is the
greatest value of a time.  If the first pad that has a buffer at all has one without a time, the
loop ends there and takes it; otherwise it takes the first of the least heads.
-/

namespace SpTsMuxer.Muxer

open Memory Merge Spts

/-! ## What the collector takes -/

/-- The time of a buffer as a number. -/
def bufferTime (buffer : GstBuffer) : ℕ := buffer.timestamp.toNat

/-- A buffer with a time. -/
def ValidTime (buffer : GstBuffer) : Prop := gstClockTimeIsValid buffer.timestamp = true

instance : DecidablePred ValidTime :=
  fun buffer ↦ inferInstanceAs (Decidable (gstClockTimeIsValid buffer.timestamp = true))

/-- The head of the first pad that has one. -/
structure IsFirstHead (pads : List CollectPad) (position : ℕ) (buffer : GstBuffer) : Prop where
  head : headAt pads position = some buffer
  first : ∀ other < position, headAt pads other = none

/-- What the collector takes: the head of the first pad that has one, if it is without a time, and
the first of the least heads otherwise. -/
inductive Takes (pads : List CollectPad) (position : ℕ) (buffer : GstBuffer) : Prop where
  | untimed (first : IsFirstHead pads position buffer) (untimed : ¬ValidTime buffer)
  | timed (least : IsLeastHead bufferTime pads position buffer)
      (timed : ∀ first head, IsFirstHead pads first head → ValidTime head)

/-! ## The loop with any times -/

theorem isLeastHead_collectLoop {before : List CollectPad} (pads : List CollectPad) {position : ℕ}
    {chosen : GstBuffer} (hleast : IsLeastHead bufferTime before position chosen) :
    ∃ next buffer, collectLoop (some position) chosen.timestamp before.length pads = some next ∧
      IsLeastHead bufferTime (before ++ pads) next buffer := by
  induction pads generalizing before position chosen with
  | nil =>
      rw [List.append_nil]
      exact ⟨position, chosen, rfl, hleast⟩
  | cons pad rest ih =>
      have hgo {next : ℕ} {buffer : GstBuffer}
          (hnext : IsLeastHead bufferTime (before ++ [pad]) next buffer) :
          ∃ last final, collectLoop (some next) buffer.timestamp (before.length + 1) rest =
              some last ∧ IsLeastHead bufferTime (before ++ pad :: rest) last final := by
        have htail := ih hnext
        rw [List.length_append, List.append_assoc] at htail
        exact htail
      rw [collectLoop]
      cases hhead : pad.head? with
      | none =>
          refine hgo (hleast.concat fun another hanother ↦ ?_)
          rw [hhead] at hanother
          cases hanother
      | some buffer =>
          dsimp only
          by_cases hless : buffer.timestamp < chosen.timestamp
          · rw [if_pos hless]
            refine hgo (isLeastHead_last hhead fun other another hother ↦ ?_)
            exact Nat.lt_of_lt_of_le (UInt64.lt_iff_toNat_lt.mp hless)
              (hleast.least other another hother)
          · rw [if_neg hless]
            refine hgo (hleast.concat fun another hanother ↦ ?_)
            obtain rfl : buffer = another := Option.some.inj (hhead.symm.trans hanother)
            exact Nat.not_lt.mp (mt UInt64.lt_iff_toNat_lt.mpr hless)

theorem isLeastHead_of_empty {before : List CollectPad} (hempty : ∀ pad ∈ before, pad = [])
    {pad : CollectPad} {buffer : GstBuffer} (hhead : pad.head? = some buffer) :
    IsLeastHead bufferTime (before ++ [pad]) before.length buffer := by
  refine isLeastHead_last hhead fun other another hother ↦ ?_
  rw [headAt_of_empty hempty] at hother
  cases hother

theorem isFirstHead_append {before : List CollectPad} (hempty : ∀ pad ∈ before, pad = [])
    {pad : CollectPad} {buffer : GstBuffer} (hhead : pad.head? = some buffer)
    (rest : List CollectPad) : IsFirstHead (before ++ pad :: rest) before.length buffer where
  head := by
    have hindex := headAt_append before (pad :: rest) 0
    rw [Nat.add_zero] at hindex
    rw [hindex]
    exact hhead
  first := by
    intro other hother
    have hbefore := headAt_of_empty hempty other
    rw [headAt, List.getElem?_append_left hother]
    exact hbefore

theorem IsFirstHead.unique {pads : List CollectPad} {position other : ℕ} {buffer head : GstBuffer}
    (h : IsFirstHead pads position buffer) (hother : IsFirstHead pads other head) :
    position = other ∧ buffer = head := by
  have hposition : position = other := by
    rcases Nat.lt_trichotomy position other with hlt | heq | hgt
    · have hnone := hother.first position hlt
      rw [h.head] at hnone
      cases hnone
    · exact heq
    · have hnone := h.first other hgt
      rw [hother.head] at hnone
      cases hnone
  subst hposition
  exact ⟨rfl, Option.some.inj (h.head.symm.trans hother.head)⟩

/-- One scan with any times. -/
theorem scan_collectLoop (before : List CollectPad) {pads : List CollectPad}
    (hempty : ∀ pad ∈ before, pad = []) :
    (collectLoop none gstClockTimeNone before.length pads = none ∧ ∀ pad ∈ pads, pad = []) ∨
      ∃ position buffer,
        collectLoop none gstClockTimeNone before.length pads = some position ∧
          Takes (before ++ pads) position buffer := by
  induction pads generalizing before with
  | nil => exact .inl ⟨rfl, fun _ h ↦ absurd h List.not_mem_nil⟩
  | cons pad rest ih =>
      rw [collectLoop]
      cases hhead : pad.head? with
      | none =>
          have hnil : pad = [] := List.head?_eq_none_iff.mp hhead
          have hnext : ∀ other ∈ before ++ [pad], other = [] := by
            intro other hmem
            rcases List.mem_append.mp hmem with hold | hnew
            · exact hempty other hold
            · rw [List.mem_singleton.mp hnew, hnil]
          have htail := ih (before ++ [pad]) hnext
          rw [List.length_append, List.append_assoc] at htail
          rcases htail with ⟨hnone, hrest⟩ | htakes
          · refine .inl ⟨hnone, fun other hmem ↦ ?_⟩
            rcases List.mem_cons.mp hmem with rfl | htail
            · exact hnil
            · exact hrest other htail
          · exact .inr htakes
      | some buffer =>
          have hfirst := isFirstHead_append hempty hhead rest
          dsimp only
          by_cases htime : gstClockTimeIsValid buffer.timestamp = true
          · rw [if_pos htime]
            obtain ⟨next, taken, hnext, hleast⟩ :=
              isLeastHead_collectLoop rest (isLeastHead_of_empty hempty hhead)
            rw [List.length_append] at hnext
            rw [List.append_assoc] at hleast
            refine .inr ⟨next, taken, hnext, .timed hleast fun first head hother ↦ ?_⟩
            obtain ⟨-, rfl⟩ := hfirst.unique hother
            exact htime
          · rw [if_neg htime]
            exact .inr ⟨before.length, buffer, rfl, .untimed hfirst htime⟩

theorem scan_nextCollectdata (pads : List CollectPad) :
    (nextCollectdata pads = none ∧ ∀ pad ∈ pads, pad = []) ∨
      ∃ position buffer, nextCollectdata pads = some position ∧ Takes pads position buffer :=
  scan_collectLoop [] fun _ h ↦ absurd h List.not_mem_nil

theorem Takes.head {pads : List CollectPad} {position : ℕ} {buffer : GstBuffer}
    (h : Takes pads position buffer) : headAt pads position = some buffer := by
  cases h with
  | untimed first untimed => exact first.head
  | timed least timed => exact least.head

/-- What one scan chooses, whatever the times are. -/
theorem nextCollectdata_eq_some_iff {pads : List CollectPad} {position : ℕ} :
    nextCollectdata pads = some position ↔ ∃ buffer, Takes pads position buffer := by
  constructor
  · intro hchoose
    rcases scan_nextCollectdata pads with ⟨hnone, -⟩ | ⟨chosen, buffer, hsome, htakes⟩
    · rw [hchoose] at hnone
      cases hnone
    · obtain rfl : position = chosen := Option.some.inj (hchoose.symm.trans hsome)
      exact ⟨buffer, htakes⟩
  · rintro ⟨buffer, htakes⟩
    rcases scan_nextCollectdata pads with ⟨-, hempty⟩ | ⟨chosen, other, hsome, hchosen⟩
    · have hnone := headAt_of_empty hempty position
      rw [htakes.head] at hnone
      cases hnone
    · rw [hsome]
      cases htakes with
      | untimed first untimed =>
          cases hchosen with
          | untimed other _ => rw [(first.unique other).1]
          | timed _ timed => exact absurd (timed position buffer first) untimed
      | timed least timed =>
          cases hchosen with
          | untimed other untimed => exact absurd (timed _ _ other) untimed
          | timed other _ => rw [least.index_unique other]

/-- There is no choice only at the end of all pads. -/
theorem eq_nil_of_nextCollectdata_none {pads : List CollectPad}
    (hnone : nextCollectdata pads = none) : ∀ pad ∈ pads, pad = [] := by
  rcases scan_nextCollectdata pads with ⟨-, hempty⟩ | ⟨position, buffer, hsome, -⟩
  · exact hempty
  · rw [hnone] at hsome
    cases hsome

/-- What the loop chooses has a buffer, whatever its time. -/
theorem choosesHead_nextCollectdata : ChoosesHead nextCollectdata := by
  intro pads position hchoose
  obtain ⟨buffer, htakes⟩ := nextCollectdata_eq_some_iff.mp hchoose
  exact ⟨buffer, htakes.head⟩

/-- Among buffers that all have a time the collector chooses the first of the least heads. -/
theorem chooses_nextCollectdata : Chooses bufferTime ValidTime nextCollectdata where
  none _ _ hnone := eq_nil_of_nextCollectdata_none hnone
  some := by
    intro pads position hvalid hchoose
    obtain ⟨buffer, htakes⟩ := nextCollectdata_eq_some_iff.mp hchoose
    cases htakes with
    | untimed first untimed =>
        obtain ⟨pad, hpad, hhead⟩ := Option.bind_eq_some_iff.mp first.head
        exact absurd (hvalid pad (List.mem_of_getElem? hpad) buffer (List.mem_of_head? hhead))
          untimed
    | timed least timed => exact ⟨buffer, least⟩

end SpTsMuxer.Muxer
