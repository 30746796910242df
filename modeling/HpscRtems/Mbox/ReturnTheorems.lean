/-
HpscRtems.Mbox.ReturnTheorems — every send over the mailbox returns.

The counterpart of `Shmem.ReturnTheorems`, register by register: after any
call the task and the two ISRs have a bounded number of register accesses
left (`MboxState.work`), and when none is left the call has returned the
number of bytes it sent. That the ISRs run to their ends is part of the
model, so the conditions are on the calls only.
-/
import HpscRtems.Link.ReturnTheorems
import HpscRtems.Machine.Rank
import HpscRtems.Mbox.RegistersTheorems

namespace HpscRtems.Mbox

open Machine Rtems Link OneWay

/-! ## §1 The register accesses that are left -/

/-- Within the accessor in progress. -/
def RecvIsr.micro : RecvIsr → Nat
  | .idle => 1
  | .read i _ => dataRegs - i.val
  | _ => 0

def AckIsr.micro : AckIsr → Nat
  | .idle => 1
  | _ => 0

def MboxState.micro (c : MboxState) : Nat :=
  (dataRegs - c.stored) + c.ackIsr.micro + c.recvIsr.micro

/-- The steps of `linkWork`, each of fewer than a hundred accesses, and the
rest of those in progress. -/
def MboxState.work (c : MboxState) : Nat :=
  100 * linkWork c.link (hasEvent c.block.event eventA) (hasEvent c.block.event eventB)
    (decide (c.stored = dataRegs)) c.ackIsr.task c.recvIsr.task + c.micro

variable {e : Ends} {c c' : MboxState} {x x' : OneWay ChanBase} {a : MboxAct} {p : Pending}

theorem MboxState.micro_lt (c : MboxState) : c.micro < 100 := by
  have hack : c.ackIsr.micro ≤ 1 := by cases c.ackIsr <;> simp [AckIsr.micro]
  have hrecv : c.recvIsr.micro ≤ 16 := by cases c.recvIsr <;> simp [RecvIsr.micro]
  have hregs : dataRegs = 16 := rfl
  unfold micro
  omega

theorem MboxState.work_lt (c : MboxState) : c.work < 4600 := by
  have hmicro := c.micro_lt
  have hlink := linkWork_le c.link (hasEvent c.block.event eventA) (hasEvent c.block.event eventB)
    (decide (c.stored = dataRegs)) c.ackIsr.task c.recvIsr.task
  unfold work
  omega

/-! ## §2 The accessor that answers -/

/-- The accessor state `x` has the positions and indications of `c`. -/
structure Shows (c : MboxState) (x : OneWay ChanBase) : Prop where
  link : x.link = c.link
  event : x.medium.event = c.block.event
  ack : x.ack = c.ackIsr.task
  recv : x.recv = c.recvIsr.task
  copied : x.copied = decide (c.stored = dataRegs)

theorem Rel.shows (hr : Rel e c x) : Shows c x where
  link := hr.link
  event := hr.event
  ack := hr.ack
  recv := hr.recv
  copied := by
    cases hk : x.copied with
    | true => exact (decide_eq_true (hr.copied.mp hk)).symm
    | false => exact (decide_eq_false fun he => by rw [hr.copied.mpr he] at hk; cases hk).symm

/-- Both levels have the same steps left. -/
theorem Shows.work_eq (hs : Shows c x) : c.work = 100 * work mboxMedium x + c.micro := by
  have hev := hs.event
  simp only [MboxState.work, OneWay.work, mboxMedium, hs.link, hs.ack, hs.recv, hs.copied, hev]

/-- An access is one less of those left in the accessor in progress, or a
step of the accessor level. -/
inductive Answered (c c' : MboxState) (x : OneWay ChanBase) (a : MboxAct) : Prop
  | none (hs : Shows c' x) (hmicro : c'.micro < c.micro)
  | one (b : OneWayAct) (x' : OneWay ChanBase) (hstep : oneWayStep mboxMedium x b = some x')
      (hs : Shows c' x') (hcall : b.call? = a.call?) (hatomic : HandlerAtomic x b)

/-- The task's steps, while no ISR of its own is past its check. -/
theorem handlerAtomic_of_poll {b : OneWayAct} (h : x.ack = .poll) : HandlerAtomic x b :=
  fun hne => absurd h hne

/-- The ISRs' steps. -/
theorem handlerAtomic_of_isr {b : OneWayAct} (h : b.ofTask = false) : HandlerAtomic x b :=
  fun _ => h

theorem answered_ackIsr (hr : Rel e c x) (h : ackIsrStep e c = some c') :
    Answered c c' x .ackIsr := by
  have hs := hr.shows
  unfold ackIsrStep at h
  cases hpc : c.ackIsr with
  | idle =>
    simp only [hpc] at h
    split at h
    · cases h
      exact .none ⟨hs.link, hs.event, by rw [hs.ack, hpc]; rfl, hs.recv, hs.copied⟩
        (by simp [MboxState.micro, hpc, AckIsr.micro])
    · cases h
  | checkEnable =>
    have hen : hasEvent c.block.enable (intB e.sender.mbox.intB.idx) = true := by
      rw [hr.enable]
      exact e.ack_enabled
    simp only [hpc, hen, if_true, e.sChan_cb, Option.some.injEq] at h
    subst h
    have hpoll : x.ack = .poll := by rw [hs.ack, hpc]; rfl
    have hack : mboxMedium.isAck x.medium = true := by
      show hasEvent x.medium.event eventB = true
      rw [hr.event]
      exact hr.ackSeen hpc
    have hstep : oneWayStep mboxMedium x .ackPoll = some { x with ack := .inLinkAck } := by
      simp only [oneWayStep, hpoll, hack, and_self, if_true]
    exact .one _ _ hstep ⟨hs.link, hs.event, rfl, hs.recv, hs.copied⟩ rfl
      (handlerAtomic_of_isr rfl)
  | inLinkAck =>
    simp only [hpc, Option.some.injEq] at h
    subst h
    have hin : x.ack = .inLinkAck := by rw [hs.ack, hpc]; rfl
    have hstep : oneWayStep mboxMedium x .linkAck = some { x with
        link := c.link.linkAck
        ack := if c.link.linkAck.ack = .idle then .clearAck else .inLinkAck } := by
      simp only [oneWayStep, hin, if_true, hs.link]
    refine .one _ _ hstep ⟨rfl, hs.event, ?_, hs.recv, hs.copied⟩ rfl (handlerAtomic_of_isr rfl)
    show (if c.link.linkAck.ack = .idle then AckTask.clearAck else .inLinkAck) =
      AckIsr.task (if c.link.linkAck.ack = .idle then .clearAck else .inLinkAck)
    split <;> rfl
  | clearAck =>
    simp only [hpc, Option.some.injEq] at h
    subst h
    have hclear : x.ack = .clearAck := by rw [hs.ack, hpc]; rfl
    have hstep : oneWayStep mboxMedium x .clearAck =
        some { x with medium := mboxMedium.setAck x.medium false, ack := .poll } := by
      simp only [oneWayStep, hclear, if_true]
    refine .one _ _ hstep ⟨hs.link, ?_, rfl, hs.recv, hs.copied⟩ rfl (handlerAtomic_of_isr rfl)
    show x.medium.event &&& ~~~eventB = c.block.event &&& ~~~eventB
    rw [hs.event]

theorem answered_recvIsr (hr : Rel e c x) (h : recvIsrStep e c = some c') :
    Answered c c' x .recvIsr := by
  have hs := hr.shows
  unfold recvIsrStep at h
  cases hpc : c.recvIsr with
  | idle =>
    simp only [hpc] at h
    split at h
    · cases h
      exact .none ⟨hs.link, hs.event, hs.ack, by rw [hs.recv, hpc]; rfl, hs.copied⟩
        (by simp [MboxState.micro, hpc, RecvIsr.micro])
    · cases h
  | checkEnable =>
    have hen : hasEvent c.block.enable (intA e.receiver.mbox.intA.idx) = true := by
      rw [hr.enable]
      exact e.recv_enabled
    simp only [hpc, hen, if_true, e.rChan_cb, Option.some.injEq] at h
    subst h
    have hpoll : x.recv = .poll := by rw [hs.recv, hpc]; rfl
    have hnew : mboxMedium.isNew x.medium = true := by
      show hasEvent x.medium.event eventA = true
      rw [hr.event]
      exact hr.recvSeen hpc
    have hstep : oneWayStep mboxMedium x .recvPoll = some { x with recv := .read } := by
      simp only [oneWayStep, hpoll, hnew, and_self, if_true]
    exact .one _ _ hstep ⟨hs.link, hs.event, hs.ack, rfl, hs.copied⟩ rfl
      (handlerAtomic_of_isr rfl)
  | read i mem =>
    simp only [hpc] at h
    split at h
    · cases h
      refine .none ⟨hs.link, hs.event, hs.ack, by rw [hs.recv, hpc]; rfl, hs.copied⟩ ?_
      simp only [MboxState.micro, hpc, RecvIsr.micro]
      omega
    · cases h
      have hread : x.recv = .read := by rw [hs.recv, hpc]; rfl
      have hstep : oneWayStep mboxMedium x .read = some { x with
          reads := x.reads ++ [(x.slot, mboxMedium.read x.medium)], recv := .clearNew } := by
        simp only [oneWayStep, hread, if_true]
      exact .one _ _ hstep ⟨hs.link, hs.event, hs.ack, rfl, hs.copied⟩ rfl
        (handlerAtomic_of_isr rfl)
  | clearRcv =>
    simp only [hpc, Option.some.injEq] at h
    subst h
    have hclear : x.recv = .clearNew := by rw [hs.recv, hpc]; rfl
    have hstep : oneWayStep mboxMedium x .clearNew =
        some { x with medium := mboxMedium.setNew x.medium false, recv := .setAck } := by
      simp only [oneWayStep, hclear, if_true]
    refine .one _ _ hstep ⟨hs.link, ?_, hs.ack, rfl, hs.copied⟩ rfl (handlerAtomic_of_isr rfl)
    show x.medium.event &&& ~~~eventA = c.block.event &&& ~~~eventA
    rw [hs.event]
  | setAck =>
    simp only [hpc, Option.some.injEq] at h
    subst h
    have hset : x.recv = .setAck := by rw [hs.recv, hpc]; rfl
    have hstep : oneWayStep mboxMedium x .setAck =
        some { x with medium := mboxMedium.setAck x.medium true, recv := .poll } := by
      simp only [oneWayStep, hset, if_true]
    refine .one _ _ hstep ⟨hs.link, ?_, hs.ack, rfl, hs.copied⟩ rfl (handlerAtomic_of_isr rfl)
    show x.medium.event ||| eventB = c.block.event ||| eventB
    rw [hs.event]

theorem answered_store (hr : Rel e c x) (h : mboxLinkStep e c .store = some c') :
    Answered c c' x .store := by
  have hs := hr.shows
  simp only [mboxLinkStep] at h
  split at h
  · rename_i tid call hw hidle
    split at h
    · rename_i hlt
      cases h
      by_cases hlast : c.stored + 1 = dataRegs
      · obtain ⟨r, hwr⟩ : ∃ r, mboxMedium.write x.medium (bufMem call.buf) call.sz = some r := by
          simp [mboxMedium, hpscMboxChanWrite, hlt.2]
        have hcop : x.copied = false := by
          rw [hs.copied]
          exact decide_eq_false (Nat.ne_of_lt hlt.1)
        have hreq : x.link.req = .running tid call .write := by rw [hs.link, hw]
        have hstep : oneWayStep mboxMedium x .copy =
            some { x with medium := r, copied := true, slot := x.calls.length } := by
          simp only [oneWayStep, hreq, hcop, hwr, Option.map_some]
        obtain ⟨⟨r', n⟩, hw', rfl⟩ := Option.map_eq_some_iff.mp hwr
        obtain ⟨-, hev, -⟩ := hpscMboxChanWrite_data hw'
        exact .one _ _ hstep
          ⟨hs.link, hev.trans hs.event, hs.ack, hs.recv, (decide_eq_true hlast).symm⟩ rfl
          (handlerAtomic_of_poll (by rw [hs.ack, hidle]; rfl))
      · refine .none ⟨hs.link, hs.event, hs.ack, hs.recv, ?_⟩ ?_
        · rw [hs.copied, decide_eq_false (Nat.ne_of_lt hlt.1)]
          exact (decide_eq_false hlast).symm
        · have hlt := hlt.1
          simp only [MboxState.micro]
          omega
    · cases h
  · cases h

theorem answered_setRcv (hr : Rel e c x) (h : mboxLinkStep e c .setRcv = some c') :
    Answered c c' x .setRcv := by
  have hs := hr.shows
  simp only [mboxLinkStep] at h
  split at h
  · rename_i tid call hw hidle
    split at h
    · rename_i hall
      obtain ⟨l, hl, rfl⟩ := Option.map_eq_some_iff.mp h
      have hreq : x.link.req = .running tid call .write := by rw [hs.link, hw]
      have hcop : x.copied = true := by rw [hs.copied, decide_eq_true hall]
      have hstep : oneWayStep mboxMedium x .setNew = some { x with
          link := l
          medium := mboxMedium.setNew x.medium true
          copied := false } := by
        rw [← hs.link] at hl
        simp only [oneWayStep, hreq, hcop, hl, Option.map_some]
      refine .one _ _ hstep ⟨rfl, ?_, hs.ack, hs.recv, rfl⟩ rfl
        (handlerAtomic_of_poll (by rw [hs.ack, hidle]; rfl))
      show x.medium.event ||| eventA = c.block.event ||| eventA
      rw [hs.event]
    · cases h
  · cases h

theorem answered_sender {b : Act} (hr : Rel e c x) (h : mboxLinkStep e c (.sender b) = some c') :
    Answered c c' x (.sender b) := by
  have hs := hr.shows
  simp only [mboxLinkStep] at h
  split at h
  · rename_i hidle
    obtain ⟨l, hl, rfl⟩ := Option.map_eq_some_iff.mp h
    have hstep : oneWayStep mboxMedium x (.sender b) =
        some { x with link := l, calls := b.addCall x.calls } := by
      simp only [oneWayStep, hidle.2, if_true, hs.link, hl, Option.map_some]
    exact .one _ _ hstep ⟨rfl, hs.event, hs.ack, hs.recv, hs.copied⟩ (by cases b <;> rfl)
      (handlerAtomic_of_poll (by rw [hs.ack, hidle.1]; rfl))
  · cases h

theorem answered_step (hr : Rel e c x) (h : mboxLinkStep e c a = some c') :
    Answered c c' x a := by
  cases a with
  | sender b => exact answered_sender hr h
  | store => exact answered_store hr h
  | setRcv => exact answered_setRcv hr h
  | ackIsr => exact answered_ackIsr hr h
  | recvIsr => exact answered_recvIsr hr h

/-! ## §3 Every run comes to an end -/

/-- A call in progress was already, or has just been made. -/
theorem running_step {tid : TaskId} {call : Call} {pc : Pc} (h : mboxLinkStep e c a = some c')
    (hr : c'.link.req = .running tid call pc) :
    a = .sender (.call tid call) ∨ ∃ pc', c.link.req = .running tid call pc' := by
  cases a with
  | sender b =>
    simp only [mboxLinkStep] at h
    split at h
    · obtain ⟨l, hl, rfl⟩ := Option.map_eq_some_iff.mp h
      exact (step_running hl hr).imp_left fun he => by rw [he]
    · cases h
  | store =>
    simp only [mboxLinkStep] at h
    split at h
    · split at h <;> cases h
      exact .inr ⟨_, hr⟩
    · cases h
  | setRcv =>
    simp only [mboxLinkStep] at h
    split at h
    · split at h
      · obtain ⟨l, hl, rfl⟩ := Option.map_eq_some_iff.mp h
        exact (step_running hl hr).imp_left fun he => by cases he
      · cases h
    · cases h
  | ackIsr =>
    simp only [mboxLinkStep, ackIsrStep] at h
    have hreq : c.link.linkAck.req = c.link.req := (work_linkAck c.link false).2
    repeat' split at h
    all_goals cases h
    all_goals first | exact .inr ⟨_, hr⟩ | exact .inr ⟨_, hreq ▸ hr⟩
  | recvIsr =>
    simp only [mboxLinkStep, recvIsrStep] at h
    repeat' split at h
    all_goals cases h
    all_goals exact .inr ⟨_, hr⟩

/-- A call that can return: the message fits, and the event it waits for is
not pending already. -/
def FreshSends (c : MboxState) : MboxAct → Prop
  | .sender (.call tid call) =>
    call.sz ≤ hpscMboxDataSize ∧ hasEvent (c.link.pending tid) call.event = false
  | _ => True

instance FreshSends.instDecidable (c : MboxState) : ∀ a, Decidable (FreshSends c a)
  | .sender (.call tid call) =>
    inferInstanceAs (Decidable (call.sz ≤ hpscMboxDataSize ∧
      hasEvent (c.link.pending tid) call.event = false))
  | .sender .run | .sender (.write _) | .sender .wake | .sender .timeout | .sender .ack
  | .sender (.recvReply _) | .store | .setRcv | .ackIsr | .recvIsr => isTrue trivial

/-- The relation, with what the return of a send rests on. -/
structure RelReturn (e : Ends) (p : Pending) (c : MboxState) (x : OneWay ChanBase) : Prop where
  rel : Rel e c x
  inv : ReturnInv mboxMedium p x
  fits : ∀ tid call pc, c.link.req = .running tid call pc → call.sz ≤ hpscMboxDataSize
  whole : ∀ call ∈ c.calls, 4 ∣ call.sz

/-- What the calls are like is checked when they are made. -/
theorem RelReturn.fresh_step (hr : RelReturn e p c x) (hg : FreshSends c a)
    (h : mboxLinkStep e c a = some c') {tid : TaskId} {call : Call} {pc : Pc}
    (hrun : c'.link.req = .running tid call pc) :
    call.sz ≤ hpscMboxDataSize ∧ hasEvent (p tid) call.event = false := by
  rcases running_step h hrun with rfl | ⟨pc', hreq⟩
  · refine ⟨hg.1, hr.inv.heard.fresh_call ?_ (hr.rel.link ▸ hg.2)⟩
    rw [hr.rel.link]
    simp only [mboxLinkStep] at h
    split at h
    · obtain ⟨l, hl, -⟩ := Option.map_eq_some_iff.mp h
      cases step_stepped hl with
      | call _ _ hnot => exact hnot
    · cases h
  · exact ⟨hr.fits _ _ _ hreq, hr.inv.heard.fresh _ _ _ (hr.rel.link ▸ hreq)⟩

/-- The states that show the same agree on what a return rests on. -/
theorem Shows.returnInv (hi : ReturnInv mboxMedium p x) (hr : Rel e c x')
    (hs : Shows c x) : ReturnInv mboxMedium p x' where
  atomic := hr.inv
  heard := hi.heard.frame (hr.link.trans hs.link.symm) (hr.ack.trans hs.ack.symm)
  sized := by
    have hsized := hi.sized
    rw [Sized, hs.link] at hsized
    rw [Sized, hr.link]
    exact hsized

/-- One access under the conditions: the relation is kept, and where it is
not a call there is one less of those left. -/
theorem relReturn_step (hr : RelReturn e p c x) (hp : PatientSomeWords c a) (hg : FreshSends c a)
    (h : mboxLinkStep e c a = some c') :
    ∃ x', RelReturn e p c' x' ∧ (a.call? = none → c'.work < c.work) := by
  obtain ⟨bs, t, -, ht⟩ := (registers_refine e).sim hr.rel hp h
  have hfits : ∀ tid call pc, c'.link.req = .running tid call pc → call.sz ≤ hpscMboxDataSize :=
    fun _ _ _ hrun => (hr.fresh_step hg h hrun).1
  have hwhole := wholeWords_step hr.whole hp.1 h
  rw [hr.rel.shows.work_eq]
  cases answered_step hr.rel h with
  | none hs hmicro =>
    refine ⟨t, ⟨ht, Shows.returnInv hr.inv ht hs, hfits, hwhole⟩, fun _ => ?_⟩
    rw [hs.work_eq]
    omega
  | one b x' hstep hs hcall hatomic =>
    have hfresh : Fresh p x'.link := fun tid call pc hrun =>
      (hr.fresh_step hg h (hs.link ▸ hrun)).2
    have hpatient : PatientNonempty x b :=
      ⟨fun call hc => (hp.1 call (hcall ▸ hc)).1, fun call hc => hp.2 call (hcall ▸ hc)⟩
    have hinv := returnInv_step hr.inv hpatient hatomic hfresh hstep
    refine ⟨t, ⟨ht, Shows.returnInv hinv ht hs, hfits, hwhole⟩, fun hnone => ?_⟩
    have hwork := work_step hr.inv.atomic.patient.base (hcall.trans hnone) hstep
    have hmicro := c'.micro_lt
    rw [hs.work_eq]
    omega

/-- The accesses of the task and the ISRs while nobody calls. -/
def GoesOn (_ : MboxState) (a : MboxAct) : Prop := a.call? = none

theorem relReturn_goesOn (hr : RelReturn e p c x) (hg : GoesOn c a)
    (h : mboxLinkStep e c a = some c') : ∃ x', RelReturn e p c' x' ∧ c'.work < c.work := by
  have hp : PatientSomeWords c a := by
    refine ⟨fun call hc => ?_, fun call hc => ?_⟩
    · rw [hg] at hc
      cases hc
    · rw [hg] at hc
      cases hc
  have hfresh : FreshSends c a := by
    cases a with
    | sender b =>
      cases b with
      | call tid call => cases hg
      | _ => trivial
    | _ => trivial
  obtain ⟨x', hr', hlt⟩ := relReturn_step hr hp hfresh h
  exact ⟨x', hr', hlt hg⟩

/-! ## §4 Nothing left to do -/

theorem Ends.sChan_active (e : Ends) : e.sChan.active = true := by
  rw [sChan, e.sender_up.to_up.record]
  rfl

theorem Ends.rChan_active (e : Ends) : e.rChan.active = true := by
  rw [rChan, e.receiver_up.from_up.record]
  rfl

/-- The call has returned the number of bytes it sent, and every message has
been read. -/
structure Returned (c : MboxState) : Prop where
  notRunning : c.link.req.isRunning = false
  size : ∀ call rc, c.link.req = .returned call rc → rc = call.sz
  reads : c.reads = c.sent

/-- Where neither the task nor an ISR has an access left, the call has
returned. -/
theorem RelReturn.returned (hr : RelReturn e p c x) (hrest : AtRest (mboxLinkStep e) GoesOn c) :
    Returned c := by
  have hrel := hr.rel
  have hack : c.ackIsr = .idle := by
    have hstep := hrest .ackIsr rfl
    cases hpc : c.ackIsr with
    | idle => rfl
    | checkEnable =>
      simp only [mboxLinkStep, ackIsrStep, hpc, e.sChan_cb] at hstep
      split at hstep <;> cases hstep
    | inLinkAck | clearAck => simp [mboxLinkStep, ackIsrStep, hpc] at hstep
  have hrecv : c.recvIsr = .idle := by
    have hstep := hrest .recvIsr rfl
    cases hpc : c.recvIsr with
    | idle => rfl
    | checkEnable =>
      simp only [mboxLinkStep, recvIsrStep, hpc, e.rChan_cb] at hstep
      split at hstep <;> cases hstep
    | read i mem =>
      simp only [mboxLinkStep, recvIsrStep, hpc] at hstep
      split at hstep <;> cases hstep
    | clearRcv | setAck => simp [mboxLinkStep, recvIsrStep, hpc] at hstep
  have hnew : mboxMedium.isNew x.medium = false := by
    have hstep := hrest .recvIsr rfl
    have hev := hrel.event
    simpa [mboxLinkStep, recvIsrStep, hrecv, e.rChan_active, mboxMedium, hev] using hstep
  have hbit : mboxMedium.isAck x.medium = false := by
    have hstep := hrest .ackIsr rfl
    have hev := hrel.event
    simpa [mboxLinkStep, ackIsrStep, hack, e.sChan_active, mboxMedium, hev] using hstep
  have hwrite : ∀ tid call, x.link.req ≠ .running tid call .write := by
    intro tid call hw
    rw [hrel.link] at hw
    have hsz := hr.fits _ _ _ hw
    by_cases hall : c.stored = dataRegs
    · have hstep := hrest .setRcv rfl
      simp only [mboxLinkStep, hw, hack, hall, if_true, step] at hstep
      split at hstep <;> cases hstep
    · have hlt := Nat.lt_of_le_of_ne hrel.stored_le hall
      have hstep := hrest .store rfl
      simp [mboxLinkStep, hw, hack, hlt, hsz] at hstep
  have hlink : ∀ b, b.ofSender = true → (MboxAct.sender b).call? = none →
      step x.link b = none := by
    intro b hof hb
    have hstep := hrest (.sender b) hb
    simpa [mboxLinkStep, hack, hof, hrel.link] using hstep
  have hret := hr.inv.heard.returned hr.inv.atomic (by rw [hrel.ack, hack]; rfl)
    (by rw [hrel.recv, hrecv]; rfl) hnew hbit hwrite (hlink .run rfl rfl) (hlink .wake rfl rfl)
  rw [hrel.link] at hret
  refine ⟨hret, fun call rc he => ?_, (delivered_of_rel hrel hr.whole).returned hret⟩
  have hsized := hr.inv.sized
  rw [Sized, hrel.link, he] at hsized
  exact hsized

/-- **Every send returns.** Patient sends of whole words that fit and wait
for an event that is not pending return: whatever has happened so far, and
in whatever order the task and the ISRs go on, after less than 4600 register
accesses nobody has one left, the call has returned the number of bytes it
sent, and the receiver has read every message once. -/
theorem mbox_returns (e : Ends) (heap : LinkRequestCtx) (p : Pending) (as : List MboxAct)
    (c : MboxState)
    (hG : Along (mboxLinkStep e) (fun c a => PatientSomeWords c a ∧ FreshSends c a)
      (MboxState.start e 0#32 heap p) as)
    (h : exec (mboxLinkStep e) (MboxState.start e 0#32 heap p) as = some c) :
    Inevitable (mboxLinkStep e) GoesOn 4600 Returned c := by
  have hstart : RelReturn e p (MboxState.start e 0#32 heap p)
      (OneWay.start { e.block with event := 0#32 } heap p) :=
    ⟨rel_start e heap p, returnInv_start heap p (by simp [mboxMedium]) (by simp [mboxMedium]),
      (fun _ _ _ he => by cases he), (fun _ hmem => by cases hmem)⟩
  have hinv : ∃ x, RelReturn e p c x :=
    exec_invariant (I := fun c => ∃ x, RelReturn e p c x) (fun _ _ _ hi hg hs => by
      obtain ⟨x, hr⟩ := hi
      obtain ⟨x', hr', -⟩ := relReturn_step hr hg.1 hg.2 hs
      exact ⟨x', hr'⟩) ⟨_, hstart⟩ hG h
  refine inevitable_of_rank (I := fun c => ∃ x, RelReturn e p c x) ?_ ?_ ?_ hinv
    (Nat.le_of_lt c.work_lt)
  · rintro d b d' ⟨x, hr⟩ hg hs
    obtain ⟨x', hr', -⟩ := relReturn_goesOn hr hg hs
    exact ⟨x', hr'⟩
  · rintro d b d' ⟨x, hr⟩ hg hs
    obtain ⟨-, -, hlt⟩ := relReturn_goesOn hr hg hs
    exact hlt
  · rintro d ⟨x, hr⟩ hrest
    exact hr.returned hrest

set_option maxRecDepth 2000 in
theorem mboxSend_returns : ∃ c,
    exec (mboxLinkStep clientToServer) (freshEnds 0) (mboxSend [1, 2, 3, 4] 4) = some c ∧
      Inevitable (mboxLinkStep clientToServer) GoesOn 4600 Returned c := by
  have hrun : (exec (mboxLinkStep clientToServer) (freshEnds 0) (mboxSend [1, 2, 3, 4] 4)).isSome :=
    by decide
  obtain ⟨c, hc⟩ := Option.isSome_iff_exists.mp hrun
  exact ⟨c, hc, mbox_returns _ _ _ (mboxSend [1, 2, 3, 4] 4) c (by decide) hc⟩

end HpscRtems.Mbox
