/-
HpscRtems.Shmem.ReturnTheorems — every send over shared memory returns.

Under the conditions of `shmemWords_handlerFirst`, an aligned buffer, a
message that fits and an event that is not pending already, the tasks have a
bounded number of accesses left after any call (`ShmemState.work`), whatever
their order, and when none is left the call has returned the number of bytes
it sent.
-/
import HpscRtems.Link.ReturnTheorems
import HpscRtems.Machine.Rank
import HpscRtems.Shmem.WordsTheorems

namespace HpscRtems.Shmem.Words

open Machine Rtems Link Shmem OneWay

/-! ## §1 The accesses that are left -/

/-- Within the accessor in progress. -/
def RecvPoll.micro : RecvPoll → Nat
  | .read i _ => 16 - i
  | .loadNew | .loadAck => 1
  | _ => 0

def AckPoll.micro : AckPoll → Nat
  | .loadAck => 1
  | _ => 0

def ShmemState.micro (c : ShmemState) : Nat :=
  (hpscMsgSize - c.written) + (if c.newLoaded.isSome then 0 else 1) + c.ack.micro + c.recv.micro

/-- The steps of `linkWork`, each of fewer than a hundred accesses, and the
rest of those in progress. -/
def ShmemState.work (c : ShmemState) : Nat :=
  100 * linkWork c.link (pollSees c.region statusBitNew) (pollSees c.region statusBitAck)
    (decide (c.written = hpscMsgSize)) c.ack.task c.recv.task + c.micro

variable {addr : Nat → Nat} {c c' : ShmemState} {x x' : OneWay HpscShmemRegion} {a : ShmemAct}
  {p : Pending}

theorem ShmemState.micro_lt (c : ShmemState) : c.micro < 100 := by
  have hack : c.ack.micro ≤ 1 := by cases c.ack <;> simp [AckPoll.micro]
  have hrecv : c.recv.micro ≤ 16 := by cases c.recv <;> simp [RecvPoll.micro]
  have hmsg : hpscMsgSize = 64 := rfl
  unfold micro
  split <;> omega

theorem ShmemState.work_lt (c : ShmemState) : c.work < 4600 := by
  have hmicro := c.micro_lt
  have hlink := linkWork_le c.link (pollSees c.region statusBitNew)
    (pollSees c.region statusBitAck) (decide (c.written = hpscMsgSize)) c.ack.task c.recv.task
  unfold work
  omega

/-- Both levels have the same steps left. -/
theorem Rel.work_eq (hr : Rel c x) : c.work = 100 * work shmemMedium x + c.micro := by
  have hcop : decide (c.written = hpscMsgSize) = x.copied := by
    cases hk : x.copied with
    | true => exact decide_eq_true (hr.copied.mp hk)
    | false => exact decide_eq_false fun he => by rw [hr.copied.mpr he] at hk; cases hk
  have hst := hr.status
  simp only [ShmemState.work, OneWay.work, shmemMedium, pollSees, shmemGetStatus, hr.link,
    hr.ack, hr.recv, hcop, hst]

/-- A call in progress was already, or has just been made. -/
theorem running_step {tid : TaskId} {call : Call} {pc : Pc} (h : wordStep addr c a = some c')
    (hr : c'.link.req = .running tid call pc) :
    a = .sender (.call tid call) ∨ ∃ pc', c.link.req = .running tid call pc' := by
  cases a with
  | sender a =>
    simp only [wordStep] at h
    split at h
    · obtain ⟨l, hl, rfl⟩ := Option.map_eq_some_iff.mp h
      exact (step_running hl hr).imp_left fun he => by rw [he]
    · cases h
  | store =>
    simp only [wordStep] at h
    split at h
    · split at h
      · cases h
        exact .inr ⟨_, hr⟩
      · cases h
    · cases h
  | loadNew =>
    simp only [wordStep] at h
    split at h
    · split at h
      · cases h
        exact .inr ⟨_, hr⟩
      · cases h
    · cases h
  | storeNew =>
    simp only [wordStep] at h
    split at h
    · obtain ⟨l, hl, rfl⟩ := Option.map_eq_some_iff.mp h
      exact (step_running hl hr).imp_left fun he => by cases he
    · cases h
  | ack =>
    simp only [wordStep, ackStep] at h
    have hreq : c.link.linkAck.req = c.link.req := (work_linkAck c.link false).2
    repeat' split at h
    all_goals cases h
    all_goals first | exact .inr ⟨_, hr⟩ | exact .inr ⟨_, hreq ▸ hr⟩
  | recv =>
    simp only [wordStep, recvStep] at h
    repeat' split at h
    all_goals cases h
    all_goals exact .inr ⟨_, hr⟩

/-- An access that is nothing to the accessor level is one less of those
left in the accessor in progress. -/
theorem micro_step (hb : x.Base) (hr : Rel c x) (hr' : Rel c' x) (hcall : a.call? = none)
    (h : wordStep addr c a = some c') : c'.micro < c.micro := by
  have hlink : c'.link = c.link := hr'.link.symm.trans hr.link
  have hack : c'.ack.task = c.ack.task := hr'.ack.symm.trans hr.ack
  have hrecv : c'.recv.task = c.recv.task := hr'.recv.symm.trans hr.recv
  cases a with
  | sender a =>
    -- the sender's own statements are those of the accessor level
    simp only [wordStep] at h
    split at h
    · rename_i hof
      obtain ⟨l, hl, rfl⟩ := Option.map_eq_some_iff.mp h
      have hs := sendStep_of_stepped hb.link hb.sends hof (step_stepped (hr.link ▸ hl))
      have hlt := (work_sendStep hs (fun tid call he => by subst he; cases hcall) false).1
      rw [hr.link, show l = c.link from hlink] at hlt
      exact absurd hlt (Nat.lt_irrefl _)
    · cases h
  | store =>
    simp only [wordStep] at h
    split at h
    · split at h
      · rename_i hlt
        obtain ⟨hgrow, hle, -⟩ := nextStore_bytes hlt.2.1 hlt.2.2 (hr.bytes _ _ ‹_›)
        cases h
        simp only [ShmemState.micro]
        omega
      · cases h
    · cases h
  | loadNew =>
    simp only [wordStep] at h
    split at h
    · rename_i hnone
      split at h
      · cases h
        simp [ShmemState.micro, hnone]
      · cases h
    · cases h
  | storeNew =>
    simp only [wordStep] at h
    split at h
    · rename_i hv
      obtain ⟨l, hl, rfl⟩ := Option.map_eq_some_iff.mp h
      have h0 := hr'.copied.mp (hr.copied.mpr (hr.newLoaded _ hv).2)
      cases h0
    · cases h
  | ack =>
    simp only [wordStep, ackStep] at h
    cases hpc : c.ack with
    | poll =>
      simp only [hpc] at h
      split at h
      · cases h
        rw [hpc] at hack
        cases hack
      · cases h
    | inLinkAck =>
      simp only [hpc, Option.some.injEq] at h
      subst h
      have hlt := (work_linkAck c.link false).1
      have hne : c.link.linkAck.ack ≠ .idle := fun he => by
        simp only [he, if_true, hpc, AckPoll.task] at hack
        cases hack
      rw [if_neg hne, show c.link.linkAck = c.link from hlink] at hlt
      exact absurd hlt (Nat.lt_irrefl _)
    | loadAck =>
      simp only [hpc, Option.some.injEq] at h
      subst h
      simp [ShmemState.micro, hpc, AckPoll.micro]
    | storeAck v =>
      simp only [hpc, Option.some.injEq] at h
      subst h
      rw [hpc] at hack
      cases hack
  | recv =>
    simp only [wordStep, recvStep] at h
    cases hpc : c.recv with
    | poll =>
      simp only [hpc] at h
      split at h
      · cases h
        rw [hpc] at hrecv
        cases hrecv
      · cases h
    | read i mem =>
      simp only [hpc] at h
      split at h
      · have hi : 4 * (i + 1) < 64 := ‹_›
        cases h
        simp only [ShmemState.micro, hpc, RecvPoll.micro]
        omega
      · cases h
        rw [hpc] at hrecv
        cases hrecv
    | loadNew | loadAck =>
      simp only [hpc, Option.some.injEq] at h
      subst h
      simp [ShmemState.micro, hpc, RecvPoll.micro]
    | storeNew v | storeAck v =>
      simp only [hpc, Option.some.injEq] at h
      subst h
      rw [hpc] at hrecv
      cases hrecv

/-! ## §2 Every run comes to an end -/

/-- A call that can return: the message fits, and the event it waits for is
not pending already. -/
def FreshSends (c : ShmemState) : ShmemAct → Prop
  | .sender (.call tid call) =>
    call.sz ≤ hpscMsgSize ∧ hasEvent (c.link.pending tid) call.event = false
  | _ => True

instance FreshSends.instDecidable (c : ShmemState) : ∀ a, Decidable (FreshSends c a)
  | .sender (.call tid call) =>
    inferInstanceAs (Decidable (call.sz ≤ hpscMsgSize ∧
      hasEvent (c.link.pending tid) call.event = false))
  | .sender .run | .sender (.write _) | .sender .wake | .sender .timeout | .sender .ack
  | .sender (.recvReply _) | .store | .loadNew | .storeNew | .ack | .recv => isTrue trivial

/-- The relation, with what the return of a send rests on. -/
structure RelReturn (p : Pending) (c : ShmemState) (x : OneWay HpscShmemRegion) : Prop where
  first : RelFirst c x
  inv : ReturnInv shmemMedium p x
  fits : ∀ tid call pc, c.link.req = .running tid call pc → call.sz ≤ hpscMsgSize

/-- What the calls are like is checked when they are made. -/
theorem RelReturn.fresh_step (hr : RelReturn p c x) (hg : FreshSends c a)
    (h : wordStep addr c a = some c') {tid : TaskId} {call : Call} {pc : Pc}
    (hrun : c'.link.req = .running tid call pc) :
    call.sz ≤ hpscMsgSize ∧ hasEvent (p tid) call.event = false := by
  rcases running_step h hrun with rfl | ⟨pc', hreq⟩
  · refine ⟨hg.1, hr.inv.heard.fresh_call ?_ (hr.first.rel.link ▸ hg.2)⟩
    rw [hr.first.rel.link]
    simp only [wordStep] at h
    split at h
    · obtain ⟨l, hl, -⟩ := Option.map_eq_some_iff.mp h
      cases step_stepped hl with
      | call _ _ hnot => exact hnot
    · cases h
  · exact ⟨hr.fits _ _ _ hreq, hr.inv.heard.fresh _ _ _ (hr.first.rel.link ▸ hreq)⟩

/-- One access under the conditions: the relation is kept, and where it is
not a call there is one less of those left. -/
theorem relReturn_step (hr : RelReturn p c x) (hp : PatientSends c a) (hf : HandlerFirst c a)
    (hg : FreshSends c a) (h : wordStep addr c a = some c') :
    ∃ x', RelReturn p c' x' ∧ (a.call? = none → c'.work < c.work) := by
  have hhandler := hr.first.handler_step hf h
  have hb := hr.inv.atomic.patient.base
  have hfits : ∀ tid call pc, c'.link.req = .running tid call pc → call.sz ≤ hpscMsgSize :=
    fun _ _ _ hrun => (hr.fresh_step hg h hrun).1
  have hphase := hr.inv.atomic.phase
  rcases sim_step hr.first.rel hb (hr.first.rel.updatesAlone hphase (hr.first.clearAlone hf) h)
      (hr.first.rel.copyAlone hphase h) h with hk | ⟨b, x', hstep, hk, hcall, htask, -⟩
  · refine ⟨x, ⟨⟨hk, hr.inv.atomic, hhandler⟩, hr.inv, hfits⟩, fun hnone => ?_⟩
    have hmicro := micro_step hb hr.first.rel hk hnone h
    rw [hk.work_eq, hr.first.rel.work_eq]
    omega
  · have hatomic : HandlerAtomic x b := fun hne => by
      rw [htask]
      refine hf fun hpoll => hne ?_
      rw [hr.first.rel.ack, hpoll]
      rfl
    have hfresh : Fresh p x'.link := fun tid call pc hrun =>
      (hr.fresh_step hg h (hk.link ▸ hrun)).2
    have hinv := returnInv_step hr.inv (patientNonempty_of hp hcall) hatomic hfresh hstep
    refine ⟨x', ⟨⟨hk, hinv.atomic, hhandler⟩, hinv, hfits⟩, fun hnone => ?_⟩
    have hwork := work_step hb (hcall.trans hnone) hstep
    have hmicro := c'.micro_lt
    rw [hk.work_eq, hr.first.rel.work_eq]
    omega

/-- The accesses of the tasks while nobody calls. -/
def GoesOn (c : ShmemState) (a : ShmemAct) : Prop := a.call? = none ∧ HandlerFirst c a

/-- Such an access meets the conditions on calls. -/
theorem relReturn_goesOn (hr : RelReturn p c x) (hg : GoesOn c a)
    (h : wordStep addr c a = some c') : ∃ x', RelReturn p c' x' ∧ c'.work < c.work := by
  have hp : PatientSends c a := fun call hc => by
    rw [hg.1] at hc
    cases hc
  have hfresh : FreshSends c a := by
    cases a with
    | sender b =>
      cases b with
      | call tid call => cases hg.1
      | _ => trivial
    | _ => trivial
  obtain ⟨x', hr', hlt⟩ := relReturn_step hr hp hg.2 hfresh h
  exact ⟨x', hr', hlt hg.1⟩

/-- The call has returned the number of bytes it sent, and every message has
been read. -/
structure Returned (c : ShmemState) : Prop where
  notRunning : c.link.req.isRunning = false
  size : ∀ call rc, c.link.req = .returned call rc → rc = call.sz
  reads : c.got = c.sent

/-- A write from an aligned buffer can always go on. -/
theorem RelReturn.write_goes_on (hr : RelReturn p c x)
    (haddr : ∀ n, isAligned (addr n) = true) {tid : TaskId} {call : Call}
    (hw : c.link.req = .running tid call .write) :
    ∃ a, a.call? = none ∧ wordStep addr c a ≠ none := by
  have hsz := hr.fits _ _ _ hw
  by_cases hall : c.written = hpscMsgSize
  · cases hl : c.newLoaded with
    | none => exact ⟨.loadNew, rfl, by simp [wordStep, hw, hl, hall]⟩
    | some v => exact ⟨.storeNew, rfl, by simp [wordStep, hw, hl, step]; split <;> simp⟩
  · have hlt := Nat.lt_of_le_of_ne hr.first.rel.written_le hall
    exact ⟨.store, rfl, by simp [wordStep, hw, hlt, hsz, haddr]⟩

/-- Where no task has an access left, the call has returned. -/
theorem RelReturn.returned (hr : RelReturn p c x) (haddr : ∀ n, isAligned (addr n) = true)
    (hrest : AtRest (wordStep addr) GoesOn c) : Returned c := by
  have hrel := hr.first.rel
  have hack : c.ack = .poll := by
    have hstep := hrest .ack ⟨rfl, fun _ => rfl⟩
    cases hpc : c.ack with
    | poll => rfl
    | inLinkAck | loadAck | storeAck v => simp [wordStep, ackStep, hpc] at hstep
  have hrecv : c.recv = .poll := by
    have hstep := hrest .recv ⟨rfl, fun _ => rfl⟩
    cases hpc : c.recv with
    | poll => rfl
    | read i mem =>
      simp only [wordStep, recvStep, hpc] at hstep
      split at hstep <;> cases hstep
    | loadNew | storeNew v | loadAck | storeAck v => simp [wordStep, recvStep, hpc] at hstep
  -- the handler is out of the way of the sender
  have hsend : ∀ a, a.call? = none → wordStep addr c a = none := fun a ha =>
    hrest a ⟨ha, fun hne => absurd hack hne⟩
  have hnew : shmemMedium.isNew x.medium = false := by
    have hstep := hsend .recv rfl
    by_contra hne
    have hsees : pollSees c.region statusBitNew = true := by
      simpa [shmemMedium, pollSees, shmemGetStatus, hrel.status] using hne
    simp [wordStep, recvStep, hrecv, hsees] at hstep
  have hbit : shmemMedium.isAck x.medium = false := by
    have hstep := hsend .ack rfl
    by_contra hne
    have hsees : pollSees c.region statusBitAck = true := by
      simpa [shmemMedium, pollSees, shmemGetStatus, hrel.status] using hne
    simp [wordStep, ackStep, hack, hsees] at hstep
  have hwrite : ∀ tid call, x.link.req ≠ .running tid call .write := by
    intro tid call hw
    obtain ⟨a, ha, hne⟩ := hr.write_goes_on haddr (hrel.link ▸ hw)
    exact hne (hsend a ha)
  have hlink : ∀ b, b.ofSender = true → (ShmemAct.sender b).call? = none →
      step x.link b = none := by
    intro b hof hb
    have hstep := hsend (.sender b) hb
    simpa [wordStep, hof, hrel.link] using hstep
  have hret := hr.inv.heard.returned hr.inv.atomic (by rw [hrel.ack, hack]; rfl)
    (by rw [hrel.recv, hrecv]; rfl) hnew hbit hwrite (hlink .run rfl rfl) (hlink .wake rfl rfl)
  rw [hrel.link] at hret
  refine ⟨hret, fun call rc he => ?_, (delivered_of_rel hrel hr.inv.atomic.phase).returned hret⟩
  have hsized := hr.inv.sized
  rw [Sized, hrel.link, he] at hsized
  exact hsized

/-- **Every send returns.** When the sender stands still while its ACK poll
task is in `link_shmem_ack`, patient sends from aligned buffers that fit and
wait for an event that is not pending return: whatever has happened so far,
and in whatever order the tasks go on, after less than 4600 accesses nobody
has one left, the call has returned the number of bytes it sent, and the
receiver has read every message once. -/
theorem shmemWords_returns (addr : Nat → Nat) (r : HpscShmemRegion) (heap : LinkRequestCtx)
    (p : Pending) (as : List ShmemAct) (c : ShmemState) (haddr : ∀ n, isAligned (addr n) = true)
    (hclear : r.Clear)
    (hG : Along (wordStep addr)
      (fun c a => PatientSends c a ∧ HandlerFirst c a ∧ FreshSends c a)
      (ShmemState.start r heap p) as)
    (h : exec (wordStep addr) (ShmemState.start r heap p) as = some c) :
    Inevitable (wordStep addr) GoesOn 4600 Returned c := by
  have hstart : RelReturn p (ShmemState.start r heap p) (OneWay.start r heap p) :=
    ⟨⟨rel_start r heap p, atomicInv_start heap p hclear.1 hclear.2, fun _ => rfl⟩,
      returnInv_start heap p hclear.1 hclear.2, fun _ _ _ he => by cases he⟩
  have hinv : ∃ x, RelReturn p c x :=
    exec_invariant (I := fun c => ∃ x, RelReturn p c x) (fun _ _ _ hi hg hs => by
      obtain ⟨x, hr⟩ := hi
      obtain ⟨x', hr', -⟩ := relReturn_step hr hg.1 hg.2.1 hg.2.2 hs
      exact ⟨x', hr'⟩) ⟨_, hstart⟩ hG h
  refine inevitable_of_rank (I := fun c => ∃ x, RelReturn p c x) ?_ ?_ ?_ hinv
    (Nat.le_of_lt c.work_lt)
  · rintro d b d' ⟨x, hr⟩ hg hs
    obtain ⟨x', hr', -⟩ := relReturn_goesOn hr hg hs
    exact ⟨x', hr'⟩
  · rintro d b d' ⟨x, hr⟩ hg hs
    obtain ⟨-, -, hlt⟩ := relReturn_goesOn hr hg hs
    exact hlt
  · rintro d ⟨x, hr⟩ hrest
    exact hr.returned haddr hrest

set_option maxRecDepth 4000 in
theorem writeRun_returns : ∃ c,
    exec (wordStep bufAt) freshWords (writeRun [1, 2, 3]) = some c ∧
      Inevitable (wordStep bufAt) GoesOn 4600 Returned c := by
  have hrun : (exec (wordStep bufAt) freshWords (writeRun [1, 2, 3])).isSome := by decide
  obtain ⟨c, hc⟩ := Option.isSome_iff_exists.mp hrun
  exact ⟨c, hc, shmemWords_returns _ _ _ _ (writeRun [1, 2, 3]) c
    (fun _ => show isAligned 0x1000 = true by decide) (by decide) (by decide) hc⟩

end HpscRtems.Shmem.Words
