import SpTsMuxer.Machine.Fallible
import SpTsMuxer.Transport.Loss

/-!
# Numbers that Begin Anew

A sender numbers the packets of a PID one after the other, and some events let the numbers begin
anew at 0.  Such an event sends nothing.

A receiver that expects one sequence of numbers modulo 16 finds it exactly if at each of these
events the number of packets sent before is divisible by 16, or no packet follows any more.
-/

namespace SpTsMuxer.Transport

open Machine

variable {State Event Error : Type} {step : State → Event → Except Error State}
  {sent : State → List (List UInt8)} {restarts : Event → Prop} {next : State → ℕ → Prop}

/-- What has been sent in a state grows by packets that are numbered from the next number on; an
event that restarts sends nothing and makes the next number 0. -/
structure Renumbers (step : State → Event → Except Error State)
    (sent : State → List (List UInt8)) (restarts : Event → Prop) (next : State → ℕ → Prop) :
    Prop where
  restart : ∀ state event after number, next state number → restarts event →
    step state event = .ok after → sent after = sent state ∧ next after 0
  send : ∀ state event after number, next state number → ¬restarts event →
    step state event = .ok after → ∃ packets, sent after = sent state ++ packets ∧
      Counted number packets ∧ next after (number + packets.length)

namespace Renumbers

variable (h : Renumbers step sent restarts next)
include h

theorem exists_sent {start final : State} {number : ℕ} (hstart : next start number)
    {events : List Event} (hrun : events.foldlM step start = .ok final) :
    (∃ last, next final last) ∧ ∃ packets, sent final = sent start ++ packets := by
  let Inv (state : State) : Prop :=
    (∃ last, next state last) ∧ ∃ packets, sent state = sent start ++ packets
  have hkept (state : State) (event : Event) (after : State) (hinv : Inv state)
      (hstep : step state event = .ok after) : Inv after := by
    obtain ⟨⟨last, hlast⟩, packets, hpackets⟩ := hinv
    by_cases hrestarts : restarts event
    · obtain ⟨hsent, hzero⟩ := h.restart state event after last hlast hrestarts hstep
      exact ⟨⟨0, hzero⟩, packets, hsent.trans hpackets⟩
    · obtain ⟨more, hsent, -, hnext⟩ := h.send state event after last hlast hrestarts hstep
      refine ⟨⟨_, hnext⟩, packets ++ more, ?_⟩
      rw [hsent, hpackets, List.append_assoc]
  have hbegin : Inv start := ⟨⟨number, hstart⟩, [], (List.append_nil _).symm⟩
  have hfinal : Inv final := foldlM_invariant hkept hbegin hrun
  exact hfinal

theorem counted_of_kept {start final : State} {number : ℕ} (hstart : next start number)
    {events : List Event} (hrun : events.foldlM step start = .ok final)
    (hkept : ∀ event ∈ events, ¬restarts event) :
    ∃ packets, sent final = sent start ++ packets ∧ Counted number packets := by
  induction events generalizing start number with
  | nil =>
      obtain rfl : start = final := Except.ok.inj hrun
      exact ⟨[], (List.append_nil _).symm, nofun⟩
  | cons event rest ih =>
      obtain ⟨hfirst, hrest⟩ := List.forall_mem_cons.mp hkept
      obtain ⟨middle, hmiddle, hfinal⟩ := foldlM_cons_eq_ok.mp hrun
      obtain ⟨packets, hsent, hcounted, hnext⟩ := h.send _ _ _ _ hstart hfirst hmiddle
      obtain ⟨more, hmore, hcountedMore⟩ := ih hnext hfinal hrest
      refine ⟨packets ++ more, ?_, counted_append.mpr ⟨hcounted, hcountedMore⟩⟩
      rw [hmore, hsent, List.append_assoc]

/-- Where the next number is divisible by 16 the next packet has the counter 0, whatever is
restarted before it is sent. -/
theorem counter_head {start final : State} {number : ℕ} (hstart : next start number)
    (hnumber : number % 16 = 0) {events : List Event}
    (hrun : events.foldlM step start = .ok final) {packet : List UInt8}
    {rest : List (List UInt8)} (hpackets : sent final = sent start ++ packet :: rest) :
    continuityCounter packet = 0 := by
  induction events generalizing start number rest with
  | nil =>
      obtain rfl : start = final := Except.ok.inj hrun
      exact absurd (List.self_eq_append_right.mp hpackets) (List.cons_ne_nil _ _)
  | cons event others ih =>
      obtain ⟨middle, hmiddle, hfinal⟩ := foldlM_cons_eq_ok.mp hrun
      by_cases hrestarts : restarts event
      · obtain ⟨hsent, hzero⟩ := h.restart _ _ _ _ hstart hrestarts hmiddle
        exact ih hzero rfl hfinal (by rw [hsent]; exact hpackets)
      · obtain ⟨front, hsent, hcounted, hnext⟩ := h.send _ _ _ _ hstart hrestarts hmiddle
        obtain ⟨-, more, hmore⟩ := h.exists_sent hnext hfinal
        cases front with
        | nil =>
            rw [List.append_nil] at hsent
            exact ih hnext hnumber hfinal (by rw [hsent]; exact hpackets)
        | cons first others =>
            rw [hmore, hsent, List.append_assoc, List.append_cancel_left_eq, List.cons_append]
              at hpackets
            obtain ⟨rfl, -⟩ := List.cons.inj hpackets
            rw [hcounted.of_cons.1, hnumber]

theorem atEach_of_quiet {start final : State} {number : ℕ} (hstart : next start number)
    {events : List Event} (hrun : events.foldlM step start = .ok final)
    (hquiet : sent final = sent start) :
    AtEach step start events fun middle _ ↦ sent final = sent middle := by
  rintro before event after rfl middle hmiddle
  obtain ⟨found, hfound, hrest⟩ := foldlM_append_eq_ok.mp hrun
  obtain rfl : found = middle := Except.ok.inj (hfound.symm.trans hmiddle)
  obtain ⟨⟨last, hlast⟩, packets, hpackets⟩ := h.exists_sent hstart hmiddle
  obtain ⟨-, more, hmore⟩ := h.exists_sent hlast hrest
  rw [hpackets, List.append_assoc, hquiet, List.self_eq_append_right] at hmore
  rw [hquiet, hpackets, (List.append_eq_nil_iff.mp hmore).1, List.append_nil]

/-- A receiver notices no restart exactly if at each one the numbers are due to begin anew, or no
packet follows. -/
theorem counted_iff {start final : State} {number : ℕ} (hstart : next start number)
    {events : List Event} (hrun : events.foldlM step start = .ok final)
    {packets : List (List UInt8)} (hpackets : sent final = sent start ++ packets) :
    Counted number packets ↔ AtEach step start events fun middle event ↦ restarts event →
      ((sent middle).length + number) % 16 = (sent start).length % 16 ∨
        sent final = sent middle := by
  induction events generalizing start number packets with
  | nil =>
      obtain rfl : start = final := Except.ok.inj hrun
      obtain rfl := List.self_eq_append_right.mp hpackets
      exact iff_of_true nofun (atEach_nil _ _)
  | cons event rest ih =>
      obtain ⟨middle, hmiddle, hfinal⟩ := foldlM_cons_eq_ok.mp hrun
      rw [atEach_cons]
      simp only [hmiddle, Except.ok.injEq, forall_eq']
      by_cases hrestarts : restarts event
      · obtain ⟨hsent, hzero⟩ := h.restart _ _ _ _ hstart hrestarts hmiddle
        have hrest := ih hzero hfinal (hsent ▸ hpackets)
        rw [hsent] at hrest
        by_cases hnumber : number % 16 = 0
        · have hshift (length : ℕ) : (length + 0) % 16 = (sent start).length % 16 ↔
              (length + number) % 16 = (sent start).length % 16 := by omega
          rw [counted_congr (hnumber.trans (Nat.zero_mod 16).symm), hrest,
            and_iff_right fun _ ↦ .inl (by omega)]
          simp only [hshift]
        · cases packets with
          | nil =>
              have hquiet : sent final = sent start := hpackets.trans (List.append_nil _)
              refine iff_of_true nofun ⟨fun _ ↦ .inr hquiet, ?_⟩
              intro before other after hsplit state hstate _
              exact .inr (h.atEach_of_quiet hzero hfinal (hquiet.trans hsent.symm) before other
                after hsplit state hstate)
          | cons packet more =>
              -- The next packet has the counter 0, which is not the one that is expected.
              have hhead := h.counter_head hzero rfl hfinal (hsent ▸ hpackets)
              refine iff_of_false (fun hcounted ↦ ?_) fun hboth ↦ ?_
              · exact hnumber (hcounted.of_cons.1.symm.trans hhead)
              · rcases hboth.1 hrestarts with hlength | hquiet
                · omega
                · rw [hpackets, List.append_right_eq_self] at hquiet
                  exact List.cons_ne_nil _ _ hquiet
      · obtain ⟨front, hsent, hcounted, hnext⟩ := h.send _ _ _ _ hstart hrestarts hmiddle
        obtain ⟨-, more, hmore⟩ := h.exists_sent hnext hfinal
        have hall : packets = front ++ more := by
          rw [hmore, hsent, List.append_assoc] at hpackets
          exact (List.append_cancel_left hpackets).symm
        rw [hall, counted_append, and_iff_right hcounted, ih hnext hfinal hmore,
          and_iff_right fun hrestart ↦ absurd hrestart hrestarts, hsent, List.length_append]
        have hshift (length : ℕ) : (length + (number + front.length)) % 16 =
              ((sent start).length + front.length) % 16 ↔
            (length + number) % 16 = (sent start).length % 16 := by omega
        simp only [hshift]

end Renumbers

end SpTsMuxer.Transport
