/-
HpscRtems.Mbox.RegistersTheorems — stop-and-wait over the mailbox, register
by register.

The register accesses refine the accessors: the sixteen stores of a write
answer to one `copy`, at the last of them, and the sixteen loads of a read
to one `read`. That no store falls between two loads is not built in: it is
what the phases of the accessor level say (while the receiver reads, the
sender waits). Exactly-once delivery and the liveness of the wait come over
from there.
-/
import HpscRtems.Link.AtomicTheorems
import HpscRtems.Mbox.ClaimTheorems
import HpscRtems.Mbox.Registers

namespace HpscRtems.Mbox

open Machine Rtems Link OneWay

/-! ## §1 The simulation relation -/

/-- The handler's position at the accessor level. -/
def AckIsr.task : AckIsr → AckTask
  | .idle => .poll
  | .checkEnable => .poll
  | .inLinkAck => .inLinkAck
  | .clearAck => .clearAck

/-- The receiver's position at the accessor level. -/
def RecvIsr.task : RecvIsr → RecvTask
  | .idle => .poll
  | .checkEnable => .poll
  | .read _ _ => .read
  | .clearRcv => .clearNew
  | .setAck => .setAck

/-- The register state `c` as the accessor state `x`. -/
structure Rel (e : Ends) (c : MboxState) (x : OneWay ChanBase) : Prop where
  inv : AtomicInv mboxMedium x
  link : x.link = c.link
  calls : x.calls = c.calls
  reads : x.got = c.reads
  event : x.medium.event = c.block.event
  enable : c.block.enable = e.block.enable
  ack : x.ack = c.ackIsr.task
  recv : x.recv = c.recvIsr.task
  /-- The indication an ISR has seen stands until the ISR clears it. -/
  ackSeen : c.ackIsr = .checkEnable → hasEvent c.block.event eventB = true
  recvSeen : c.recvIsr = .checkEnable → hasEvent c.block.event eventA = true
  stored_le : c.stored ≤ dataRegs
  copied : x.copied = true ↔ c.stored = dataRegs
  writing : c.stored ≠ 0 → ∃ tid call, c.link.req = .running tid call .write
  /-- Outside a write both levels have the same data; inside it the stored
  registers hold the words of the message. -/
  data : c.stored = 0 ∨ c.stored = dataRegs → x.medium.data = c.block.data
  words : ∀ tid call, c.link.req = .running tid call .write → ∀ j : Fin dataRegs,
    j.val < c.stored → c.block.data j = dataWord (bufMem call.buf) call.sz j
  /-- The words loaded so far are in the buffer. -/
  loaded : ∀ i mem, c.recvIsr = .read i mem → ∀ (j : Fin dataRegs) k, j.val < i.val → k < 4 →
    mem (4 * j.val + k) = byteOf (c.block.data j) k

variable {e : Ends} {c c' : MboxState} {x : OneWay ChanBase}

/-- While the receiver reads, the sender is not writing. -/
theorem Rel.not_writing (hr : Rel e c x) {i : Fin dataRegs} {mem : Mem}
    (hread : c.recvIsr = .read i mem) {tid : TaskId} {call : Call} :
    c.link.req ≠ .running tid call .write := by
  intro hw
  have hrecv : x.recv = .read := by rw [hr.recv, hread]; rfl
  obtain ⟨c', hpos, _⟩ := hr.inv.phase.offered (Or.inr hrecv)
  rw [hr.link, hw] at hpos
  cases hpos

theorem Rel.stored_eq_zero (hr : Rel e c x)
    (h : ∀ tid call, c.link.req ≠ .running tid call .write) : c.stored = 0 := by
  by_contra hne
  obtain ⟨tid, call, hw⟩ := hr.writing hne
  exact h tid call hw

/-! ## §2 The sender's steps -/

/-- The abstract step that answers, when there is one. -/
theorem answer_one {x' : OneWay ChanBase} {a : OneWayAct} {e : Ends} {c' : MboxState}
    (h : oneWayStep mboxMedium x a = some x') (hr : Rel e c' x') :
    ∃ as t, exec (oneWayStep mboxMedium) x as = some t ∧ Rel e c' t :=
  ⟨[a], x', by rw [exec_cons _ h]; rfl, hr⟩

theorem answer_none {e : Ends} {c' : MboxState} (hr : Rel e c' x) :
    ∃ as t, exec (oneWayStep mboxMedium) x as = some t ∧ Rel e c' t :=
  ⟨[], x, rfl, hr⟩

/-- Every call waits without time-out and sends whole words. -/
def PatientWords (_ : MboxState) (a : MboxAct) : Prop :=
  ∀ c ∈ a.call?, c.ticks = noTimeout ∧ 4 ∣ c.sz

/-- Every call waits without time-out and sends at least one word. -/
def PatientSomeWords (c : MboxState) (a : MboxAct) : Prop :=
  PatientWords c a ∧ ∀ c ∈ a.call?, c.sz ≠ 0

instance (c : MboxState) (a : MboxAct) : Decidable (PatientWords c a) :=
  inferInstanceAs (Decidable (∀ c ∈ a.call?, c.ticks = noTimeout ∧ 4 ∣ c.sz))

instance (c : MboxState) (a : MboxAct) : Decidable (PatientSomeWords c a) :=
  inferInstanceAs (Decidable (_ ∧ ∀ c ∈ a.call?, c.sz ≠ 0))

/-- The calls of the sending task are the same at both levels. -/
theorem patientNonempty_sender {a : Act} (hg : PatientSomeWords c (.sender a)) :
    PatientNonempty x (.sender a) := by
  have hcall : (MboxAct.sender a).call? = (OneWayAct.sender a).call? := by
    cases a <;> rfl
  refine ⟨fun call hc => ?_, fun call hc => ?_⟩
  · exact (hg.1 call (hcall ▸ hc)).1
  · exact hg.2 call (hcall ▸ hc)

theorem sim_sender {a : Act} (hr : Rel e c x) (hg : PatientSomeWords c (.sender a))
    (h : mboxLinkStep e c (.sender a) = some c') :
    ∃ as t, exec (oneWayStep mboxMedium) x as = some t ∧ Rel e c' t := by
  simp only [mboxLinkStep] at h
  split at h
  · rename_i hidle
    obtain ⟨l, hl, rfl⟩ := Option.map_eq_some_iff.mp h
    have hstep : oneWayStep mboxMedium x (.sender a) =
        some { x with link := l, calls := a.addCall x.calls } := by
      simp only [oneWayStep, hidle.2, if_true, hr.link, hl, Option.map_some]
    have hpoll : x.ack = .poll := by rw [hr.ack, hidle.1]; rfl
    have hinv := atomicInv_step hr.inv (patientNonempty_sender hg)
      (fun hne => absurd hpoll hne) hstep
    -- outside `link_mbox_write` no register has been stored
    have hzero : c.stored = 0 := by
      apply hr.stored_eq_zero
      intro tid call hw
      have hs := sendStep_of_stepped hr.inv.patient.base.link hr.inv.patient.base.sends hidle.2
        (step_stepped (hr.link ▸ hl))
      rw [← hr.link] at hw
      cases hs <;> simp_all [Requester.isRunning]
    refine answer_one hstep { hr with
      inv := hinv
      link := rfl
      calls := by rw [hr.calls]
      writing := fun hne => absurd hzero hne
      words := fun tid call _ j hj => ?_ }
    have hj0 : j.val < 0 := hzero ▸ hj
    omega
  · cases h

theorem sim_store (hr : Rel e c x) (h : mboxLinkStep e c .store = some c') :
    ∃ as t, exec (oneWayStep mboxMedium) x as = some t ∧ Rel e c' t := by
  simp only [mboxLinkStep] at h
  split at h
  · rename_i tid call hw hidle
    split at h
    · rename_i hlt
      cases h
      have hnoread : ∀ i mem, c.recvIsr ≠ .read i mem := fun i mem hread => hr.not_writing hread hw
      have hwords : ∀ j : Fin dataRegs, j.val < c.stored + 1 →
          (c.block.storeData ⟨c.stored, hlt.1⟩
            (dataWord (bufMem call.buf) call.sz ⟨c.stored, hlt.1⟩)).data j =
          dataWord (bufMem call.buf) call.sz j := by
        intro j hj
        by_cases hjs : j = ⟨c.stored, hlt.1⟩
        · subst hjs
          simp [ChanBase.storeData]
        · have hlow : j.val < c.stored := by
            have hne : j.val ≠ c.stored := fun h => hjs (Fin.ext h)
            omega
          simpa [ChanBase.storeData, Function.update_of_ne hjs] using hr.words tid call hw j hlow
      by_cases hlast : c.stored + 1 = dataRegs
      · -- the last store: the whole message stands in the registers
        obtain ⟨r, hwr⟩ : ∃ r, mboxMedium.write x.medium (bufMem call.buf) call.sz = some r := by
          simp [mboxMedium, hpscMboxChanWrite, hlt.2]
        have hcop : x.copied = false := by
          by_contra hne
          have := hr.copied.mp (by simpa using hne)
          omega
        have hreq : x.link.req = .running tid call .write := by rw [hr.link, hw]
        have hstep : oneWayStep mboxMedium x .copy =
            some { x with medium := r, copied := true, slot := x.calls.length } := by
          simp only [oneWayStep, hreq, hcop, hwr, Option.map_some]
        have hpoll : x.ack = .poll := by rw [hr.ack, hidle]; rfl
        have hinv := atomicInv_step hr.inv ⟨(fun _ h => by cases h), (fun _ h => by cases h)⟩
          (fun hne => absurd hpoll hne) hstep
        obtain ⟨⟨r', n⟩, hw', rfl⟩ := Option.map_eq_some_iff.mp hwr
        obtain ⟨hdata, hev, _⟩ := hpscMboxChanWrite_data hw'
        refine answer_one hstep { hr with
          inv := hinv
          event := hev.trans hr.event
          stored_le := hlt.1
          copied := by simp [hlast]
          writing := fun _ => ⟨tid, call, hw⟩
          data := fun _ => ?_
          words := ?_
          loaded := fun i mem hread => absurd hread (hnoread i mem) }
        · funext j
          rw [show r'.data = _ from hdata, hwords j (by have := j.isLt; omega)]
        · intro tid' call' hw' j hj
          rw [hw] at hw'
          cases hw'
          exact hwords j hj
      · refine answer_none { hr with
          stored_le := hlt.1
          copied := ?_
          writing := fun _ => ⟨tid, call, hw⟩
          data := ?_
          words := ?_
          loaded := fun i mem hread => absurd hread (hnoread i mem) }
        · rw [hr.copied]
          exact ⟨fun hs => absurd hs (Nat.ne_of_lt hlt.1), fun hs => absurd hs hlast⟩
        · intro hk
          rcases hk with hs | hs
          · exact absurd hs (by simp)
          · exact absurd hs hlast
        · intro tid' call' hw' j hj
          rw [hw] at hw'
          cases hw'
          exact hwords j hj
    · cases h
  · cases h

theorem sim_setRcv (hr : Rel e c x) (h : mboxLinkStep e c .setRcv = some c') :
    ∃ as t, exec (oneWayStep mboxMedium) x as = some t ∧ Rel e c' t := by
  simp only [mboxLinkStep] at h
  split at h
  · rename_i tid call hw hidle
    split at h
    · rename_i hall
      obtain ⟨l, hl, rfl⟩ := Option.map_eq_some_iff.mp h
      have hreq : x.link.req = .running tid call .write := by rw [hr.link, hw]
      have hcop : x.copied = true := hr.copied.mpr hall
      have hstep : oneWayStep mboxMedium x .setNew = some { x with
          link := l
          medium := mboxMedium.setNew x.medium true
          copied := false } := by
        rw [← hr.link] at hl
        simp only [oneWayStep, hreq, hcop, hl, Option.map_some]
      have hpoll : x.ack = .poll := by rw [hr.ack, hidle]; rfl
      have hinv := atomicInv_step hr.inv ⟨(fun _ h => by cases h), (fun _ h => by cases h)⟩
        (fun hne => absurd hpoll hne) hstep
      have hset : ∀ b : Word, hasEvent c.block.event b = true →
          hasEvent (hpscMboxChanEventSetRcv c.block).event b = true := by
        intro b hb
        simp [hpscMboxChanEventSetRcv, ChanBase.eventSet, hasEvent_or, hb]
      refine answer_one hstep { hr with
        inv := hinv
        link := rfl
        event := ?_
        ackSeen := fun hs => hset _ (hr.ackSeen hs)
        recvSeen := fun hs => hset _ (hr.recvSeen hs)
        stored_le := by simp
        copied := by simp
        writing := fun hne => absurd rfl hne
        data := fun _ => hr.data (Or.inr hall)
        words := fun _ _ _ j hj => by simp at hj
        loaded := fun i mem hread => absurd hw (hr.not_writing hread) }
      show (hpscMboxChanEventSetRcv x.medium).event = (hpscMboxChanEventSetRcv c.block).event
      simp [hpscMboxChanEventSetRcv, ChanBase.eventSet, hr.event]
    · cases h
  · cases h

/-! ## §3 The interrupt handlers -/

/-- A step of a handler that one step of the accessor level answers. -/
theorem answer_handler {a : OneWayAct} {x' : OneWay ChanBase} (hr : Rel e c x)
    (htask : a.ofTask = false) (hcall : a.call? = none)
    (hstep : oneWayStep mboxMedium x a = some x')
    (hrel : AtomicInv mboxMedium x' → Rel e c' x') :
    ∃ as t, exec (oneWayStep mboxMedium) x as = some t ∧ Rel e c' t := by
  obtain ⟨hg, ht⟩ := guards_of_handler (x := x) htask hcall
  exact answer_one hstep (hrel (atomicInv_step hr.inv hg ht hstep))

theorem sim_ackIsr (hr : Rel e c x) (h : ackIsrStep e c = some c') :
    ∃ as t, exec (oneWayStep mboxMedium) x as = some t ∧ Rel e c' t := by
  unfold ackIsrStep at h
  cases hpc : c.ackIsr with
  | idle =>
    simp only [hpc] at h
    split at h
    · rename_i hsub
      cases h
      exact answer_none { hr with
        ack := by rw [hr.ack, hpc]; rfl
        ackSeen := fun _ => hsub.2 }
    · cases h
  | checkEnable =>
    have hen : hasEvent c.block.enable (intB e.sender.mbox.intB.idx) = true := by
      rw [hr.enable]
      exact e.ack_enabled
    simp only [hpc, hen, if_true, e.sChan_cb, Option.some.injEq] at h
    subst h
    have hpoll : x.ack = .poll := by rw [hr.ack, hpc]; rfl
    have hack : mboxMedium.isAck x.medium = true := by
      show hasEvent x.medium.event eventB = true
      rw [hr.event]
      exact hr.ackSeen hpc
    have hstep : oneWayStep mboxMedium x .ackPoll = some { x with ack := .inLinkAck } := by
      simp only [oneWayStep, hpoll, hack, and_self, if_true]
    exact answer_handler hr rfl rfl hstep fun hinv => { hr with
      inv := hinv
      ack := rfl
      ackSeen := fun hs => by cases hs }
  | inLinkAck =>
    simp only [hpc, Option.some.injEq] at h
    subst h
    have hin : x.ack = .inLinkAck := by rw [hr.ack, hpc]; rfl
    have hstep : oneWayStep mboxMedium x .linkAck = some { x with
        link := c.link.linkAck
        ack := if c.link.linkAck.ack = .idle then .clearAck else .inLinkAck } := by
      simp only [oneWayStep, hin, if_true, hr.link]
    have hreq : c.link.linkAck.req = c.link.req := by
      unfold LinkState.linkAck
      split <;> rfl
    refine answer_handler hr rfl rfl hstep fun hinv => { hr with
      inv := hinv
      link := rfl
      ack := ?_
      ackSeen := ?_
      writing := ?_
      words := ?_ }
    · show (if c.link.linkAck.ack = .idle then AckTask.clearAck else .inLinkAck) =
        AckIsr.task (if c.link.linkAck.ack = .idle then .clearAck else .inLinkAck)
      split <;> rfl
    · show (if c.link.linkAck.ack = .idle then AckIsr.clearAck else .inLinkAck) = .checkEnable → _
      intro hs
      split at hs <;> cases hs
    · show c.stored ≠ 0 → ∃ tid call, c.link.linkAck.req = .running tid call .write
      rw [hreq]
      exact hr.writing
    · show ∀ tid call, c.link.linkAck.req = .running tid call .write → _
      rw [hreq]
      exact hr.words
  | clearAck =>
    simp only [hpc, Option.some.injEq] at h
    subst h
    have hclear : x.ack = .clearAck := by rw [hr.ack, hpc]; rfl
    have hstep : oneWayStep mboxMedium x .clearAck =
        some { x with medium := mboxMedium.setAck x.medium false, ack := .poll } := by
      simp only [oneWayStep, hclear, if_true]
    refine answer_handler hr rfl rfl hstep fun hinv => { hr with
      inv := hinv
      event := ?_
      ack := rfl
      ackSeen := fun hs => by cases hs
      recvSeen := fun hs => ?_ }
    · show x.medium.event &&& ~~~eventB = c.block.event &&& ~~~eventB
      rw [hr.event]
    · show hasEvent (c.block.event &&& ~~~eventB) eventA = true
      rw [(hasEvent_other (by decide)).2]
      exact hr.recvSeen hs

/-- A load puts one more word into the buffer. -/
theorem Rel.loaded_succ (hr : Rel e c x) {i : Fin dataRegs} {mem : Mem}
    (hpc : c.recvIsr = .read i mem) (j : Fin dataRegs) (k : Nat) (hj : j.val < i.val + 1)
    (hk : k < 4) :
    readWord c.block 0 hpscMsgSize mem i (4 * j.val + k) = byteOf (c.block.data j) k := by
  have hw : i.val < wordCount hpscMsgSize := Nat.lt_of_lt_of_eq i.isLt (by decide)
  unfold readWord
  rw [if_pos hw, storeWord]
  by_cases hji : j = i
  · subst hji
    rw [if_pos (by omega)]
    congr 1
    omega
  · have hlow : j.val < i.val := by
      have hne : j.val ≠ i.val := fun h => hji (Fin.ext h)
      omega
    rw [if_neg (by omega)]
    exact hr.loaded i mem hpc j k hlow hk

/-- After the last load the buffer holds the message the medium has. -/
theorem Rel.loaded_all (hr : Rel e c x) {i : Fin dataRegs} {mem : Mem}
    (hpc : c.recvIsr = .read i mem) (hlast : ¬ i.val + 1 < dataRegs) :
    readMsg x.medium = Msg.ofMem (readWord c.block 0 hpscMsgSize mem i) := by
  have hzero : c.stored = 0 := hr.stored_eq_zero fun _ _ => hr.not_writing hpc
  have hdata : x.medium.data = c.block.data := hr.data (Or.inl hzero)
  apply Vector.ext
  intro n hn
  obtain ⟨j, k, rfl, hk⟩ : ∃ j k, n = 4 * j + k ∧ k < 4 := ⟨n / 4, n % 4, by omega, by omega⟩
  have hj : j < dataRegs := by
    simp only [hpscMsgSize] at hn
    simp only [dataRegs]
    omega
  rw [readMsg_getElem x.medium ⟨j, hj⟩ k hk hn, Msg.getElem_ofMem, hdata]
  exact (hr.loaded_succ hpc ⟨j, hj⟩ k (by omega) hk).symm

theorem sim_recvIsr (hr : Rel e c x) (h : recvIsrStep e c = some c') :
    ∃ as t, exec (oneWayStep mboxMedium) x as = some t ∧ Rel e c' t := by
  unfold recvIsrStep at h
  cases hpc : c.recvIsr with
  | idle =>
    simp only [hpc] at h
    split at h
    · rename_i hsub
      cases h
      exact answer_none { hr with
        recv := by rw [hr.recv, hpc]; rfl
        recvSeen := fun _ => hsub.2
        loaded := fun _ _ hk => by cases hk }
    · cases h
  | checkEnable =>
    have hen : hasEvent c.block.enable (intA e.receiver.mbox.intA.idx) = true := by
      rw [hr.enable]
      exact e.recv_enabled
    simp only [hpc, hen, if_true, e.rChan_cb, Option.some.injEq] at h
    subst h
    have hpoll : x.recv = .poll := by rw [hr.recv, hpc]; rfl
    have hnew : mboxMedium.isNew x.medium = true := by
      show hasEvent x.medium.event eventA = true
      rw [hr.event]
      exact hr.recvSeen hpc
    have hstep : oneWayStep mboxMedium x .recvPoll = some { x with recv := .read } := by
      simp only [oneWayStep, hpoll, hnew, and_self, if_true]
    refine answer_handler hr rfl rfl hstep fun hinv => { hr with
      inv := hinv
      recv := rfl
      recvSeen := fun hs => by cases hs
      loaded := ?_ }
    intro _ _ hk j k hj
    cases hk
    exact absurd hj (by simp)
  | read i mem =>
    simp only [hpc] at h
    split at h
    · cases h
      refine answer_none { hr with
        recv := by rw [hr.recv, hpc]; rfl
        recvSeen := fun hs => by cases hs
        loaded := ?_ }
      intro _ _ hk
      cases hk
      exact hr.loaded_succ hpc
    · rename_i hlast
      cases h
      have hread : x.recv = .read := by rw [hr.recv, hpc]; rfl
      have hstep : oneWayStep mboxMedium x .read = some { x with
          reads := x.reads ++ [(x.slot, readMsg x.medium)], recv := .clearNew } := by
        simp only [oneWayStep, hread, if_true]
        rfl
      refine answer_handler hr rfl rfl hstep fun hinv => { hr with
        inv := hinv
        reads := ?_
        recv := rfl
        recvSeen := fun hs => by cases hs
        loaded := fun _ _ hk => by cases hk }
      have hgot : x.reads.map (·.2) = c.reads := hr.reads
      simp [got, hgot, hr.loaded_all hpc hlast]
  | clearRcv =>
    simp only [hpc, Option.some.injEq] at h
    subst h
    have hclear : x.recv = .clearNew := by rw [hr.recv, hpc]; rfl
    have hstep : oneWayStep mboxMedium x .clearNew =
        some { x with medium := mboxMedium.setNew x.medium false, recv := .setAck } := by
      simp only [oneWayStep, hclear, if_true]
    refine answer_handler hr rfl rfl hstep fun hinv => { hr with
      inv := hinv
      event := ?_
      recv := rfl
      ackSeen := fun hs => ?_
      recvSeen := fun hs => by cases hs
      loaded := fun _ _ hk => by cases hk }
    · show x.medium.event &&& ~~~eventA = c.block.event &&& ~~~eventA
      rw [hr.event]
    · show hasEvent (c.block.event &&& ~~~eventA) eventB = true
      rw [(hasEvent_other (by decide)).2]
      exact hr.ackSeen hs
  | setAck =>
    simp only [hpc, Option.some.injEq] at h
    subst h
    have hset : x.recv = .setAck := by rw [hr.recv, hpc]; rfl
    have hstep : oneWayStep mboxMedium x .setAck =
        some { x with medium := mboxMedium.setAck x.medium true, recv := .poll } := by
      simp only [oneWayStep, hset, if_true]
    refine answer_handler hr rfl rfl hstep fun hinv => { hr with
      inv := hinv
      event := ?_
      recv := rfl
      ackSeen := fun hs => ?_
      recvSeen := fun hs => by cases hs
      loaded := fun _ _ hk => by cases hk }
    · show x.medium.event ||| eventB = c.block.event ||| eventB
      rw [hr.event]
    · show hasEvent (c.block.event ||| eventB) eventB = true
      rw [hasEvent_or, hr.ackSeen hs, Bool.true_or]

/-- **The registers refine the accessors.** -/
theorem registers_refine (e : Ends) :
    Refines (mboxLinkStep e) (oneWayStep mboxMedium) PatientSomeWords (Rel e) where
  sim {c a c' x} hr hg h := by
    cases a with
    | sender a => exact sim_sender hr hg h
    | store => exact sim_store hr h
    | setRcv => exact sim_setRcv hr h
    | ackIsr => exact sim_ackIsr hr h
    | recvIsr => exact sim_recvIsr hr h

theorem rel_start (e : Ends) (heap : LinkRequestCtx) (p : Pending) :
    Rel e (MboxState.start e 0#32 heap p) (OneWay.start { e.block with event := 0#32 } heap p) where
  inv := atomicInv_start heap p (by simp [mboxMedium]) (by simp [mboxMedium])
  link := rfl
  calls := rfl
  reads := rfl
  event := rfl
  enable := rfl
  ack := rfl
  recv := rfl
  ackSeen h := by cases h
  recvSeen h := by cases h
  stored_le := Nat.zero_le _
  copied := by simp [OneWay.start, MboxState.start]
  writing h := absurd rfl h
  data _ := rfl
  words _ _ h := by cases h
  loaded _ _ h := by cases h

/-! ## §4 Exactly once, and never stuck -/

/-- The messages of the calls, each with zeros up to 64 bytes. -/
def MboxState.sent (c : MboxState) : List Msg :=
  c.calls.map fun call => Msg.padded (bufMem call.buf) call.sz

/-- What the two ends owe each other, at any moment. -/
structure Delivered (c : MboxState) : Prop where
  /-- The receiver has read the messages in order and each once, up to the
  one in progress. -/
  reads : c.reads = c.sent ∨ (c.link.req.isRunning = true ∧ c.reads = c.sent.dropLast)
  /-- A send that has returned has had its message read. -/
  returned : c.link.req.isRunning = false → c.reads = c.sent
  /-- A sender that waits finds one of the events set. -/
  notLost : c.link.req.inAckWait = true → c.link.notified = false → c.ackIsr = .idle →
    c.recvIsr = .idle → hasEvent c.block.event eventA = true ∨ hasEvent c.block.event eventB = true

/-- Only the sending task makes calls. -/
theorem mboxLinkStep_calls {a : MboxAct} (h : mboxLinkStep e c a = some c') :
    c'.calls = c.calls ∨ ∃ call, a.call? = some call ∧ c'.calls = c.calls ++ [call] := by
  cases a with
  | sender a =>
    simp only [mboxLinkStep] at h
    split at h
    · obtain ⟨l, hl, rfl⟩ := Option.map_eq_some_iff.mp h
      cases a <;> simp [Act.addCall, MboxAct.call?]
    · cases h
  | store =>
    simp only [mboxLinkStep] at h
    split at h
    · split at h <;> cases h
      exact Or.inl rfl
    · cases h
  | setRcv =>
    simp only [mboxLinkStep] at h
    split at h
    · split at h
      · obtain ⟨l, hl, rfl⟩ := Option.map_eq_some_iff.mp h
        exact Or.inl rfl
      · cases h
    · cases h
  | ackIsr =>
    simp only [mboxLinkStep, ackIsrStep] at h
    repeat' split at h
    all_goals cases h
    all_goals exact Or.inl rfl
  | recvIsr =>
    simp only [mboxLinkStep, recvIsrStep] at h
    repeat' split at h
    all_goals cases h
    all_goals exact Or.inl rfl

/-- Where the calls are of whole words, the messages sent are. -/
theorem wholeWords_step {a : MboxAct} (hi : ∀ call ∈ c.calls, 4 ∣ call.sz) (hg : PatientWords c a)
    (h : mboxLinkStep e c a = some c') : ∀ call ∈ c'.calls, 4 ∣ call.sz := by
  intro call hmem
  rcases mboxLinkStep_calls h with hs | ⟨new, hnew, hs⟩
  · rw [hs] at hmem
    exact hi call hmem
  · rw [hs, List.mem_append, List.mem_singleton] at hmem
    rcases hmem with hmem | rfl
    · exact hi call hmem
    · exact (hg call hnew).2

theorem delivered_of_rel (hr : Rel e c x) (hwhole : ∀ call ∈ c.calls, 4 ∣ call.sz) :
    Delivered c := by
  have hsent : sent mboxMedium x = c.sent := by
    unfold sent MboxState.sent
    rw [hr.calls]
    refine List.map_congr_left fun call hmem => ?_
    show Msg.padded (bufMem call.buf) (4 * wordCount call.sz) = _
    rw [wordCount_of_dvd (hwhole call hmem)]
  have honce := hr.inv.phase.exactlyOnce
  refine ⟨?_, fun hret => ?_, fun hw hn hack hrecv => ?_⟩
  · have h := honce.reads
    rwa [hr.reads, hsent, hr.link] at h
  · have h := honce.returned (by rw [hr.link]; exact hret)
    rwa [hr.reads, hsent] at h
  · have h := hr.inv.alive.notLost (by rw [Blocked, hr.link]; exact ⟨hw, hn⟩)
      (by rw [hr.ack, hack]; rfl) (by rw [hr.recv, hrecv]; rfl)
    have hev := hr.event
    simpa only [mboxMedium, hev] using h

/-- **Stop-and-wait over the mailbox.** On a channel with no event left over,
and whatever the order of the register accesses, sends of whole words
without time-out are read exactly once and in order, each before its call
returns, and no acknowledgement is lost. -/
theorem mbox_exactlyOnce (e : Ends) (heap : LinkRequestCtx) (p : Pending) (as : List MboxAct)
    (c : MboxState)
    (hG : Along (mboxLinkStep e) PatientSomeWords (MboxState.start e 0#32 heap p) as)
    (h : exec (mboxLinkStep e) (MboxState.start e 0#32 heap p) as = some c) : Delivered c := by
  obtain ⟨bs, x, -, hr⟩ := (registers_refine e).exec (rel_start e heap p) hG h
  refine delivered_of_rel hr ?_
  exact exec_invariant (I := fun c => ∀ call ∈ c.calls, 4 ∣ call.sz)
    (fun _ _ _ hi hg hs => wholeWords_step hi hg.1 hs) (by intro call hmem; cases hmem) hG h

/-! ## §5 Two connected ends -/

/-- The server's driver after `link_mbox_connect` on channels 0 and 1. -/
def serverSide : Mailbox :=
  (linkMboxConnect ⟨some 7, some 8, false, true, true, true⟩ probed ⟨0, 1, 0x2e, 0x2d⟩).1

/-- The client's driver, of another CPU, after `link_mbox_connect` on the
same channels the other way round. -/
def clientSide : Mailbox :=
  (linkMboxConnect ⟨some 9, some 10, false, true, true, true⟩
    ⟨hpscMboxInit (fun _ => ⟨0, 0, ⟨none, none⟩, ⟨none, none⟩, 0, 0, 0, false⟩) 0x1000
      ⟨34, 2⟩ ⟨35, 3⟩, serverSide.regs⟩ ⟨1, 0, 0, 0x2d⟩).1

/-- The client sends to the server on channel 0. -/
def clientToServer : Ends where
  sender := clientSide
  senderLink := ⟨9, ⟨1, 0, 0, 0x2d⟩⟩
  receiver := ⟨serverSide.mbox, clientSide.regs⟩
  receiverLink := ⟨7, ⟨0, 1, 0x2e, 0x2d⟩⟩
  sender_up := linkUp_of_connect (by decide) (by decide) rfl
  receiver_up :=
    ⟨⟨by decide, by decide, by decide, by decide⟩, ⟨by decide, by decide, by decide, by decide⟩⟩
  server := by decide
  chan_eq := rfl
  block_eq := rfl

/-- The client's link has not been used yet. -/
abbrev freshEnds (ev : Word) : MboxState :=
  MboxState.start clientToServer ev ⟨0, 0, false, none, 0, 0⟩ fun _ => 0

/-- The sending task up to the store to EVENT_STATUS_SET. -/
def mboxSend (buf : List Byte) (sz : Nat) : List MboxAct :=
  [.sender (.call 1 (.requestSend buf sz noTimeout 0)), .sender .run, .sender .run,
   .sender .run] ++ List.replicate dataRegs .store ++ [.setRcv]

/-- A send that is read, acknowledged and returns. -/
def oneMboxSend : List MboxAct :=
  mboxSend [1, 2, 3, 4] 4 ++ List.replicate 20 .recvIsr ++ List.replicate 8 .ackIsr ++
    [.sender .wake, .sender .run, .sender .run]

set_option maxRecDepth 2000 in
theorem oneMboxSend_delivered :
    ∃ c, exec (mboxLinkStep clientToServer) (freshEnds 0) oneMboxSend = some c ∧ Delivered c := by
  have hrun : (exec (mboxLinkStep clientToServer) (freshEnds 0) oneMboxSend).isSome := by
    decide
  obtain ⟨c, hc⟩ := Option.isSome_iff_exists.mp hrun
  exact ⟨c, hc, mbox_exactlyOnce _ _ _ oneMboxSend c (by decide) hc⟩

/-- A send of no words raises event A and returns before its message is
read, and an event A left over is read before anything is sent. -/
theorem mbox_not_exactlyOnce :
    (¬ ∀ (e : Ends) (heap : LinkRequestCtx) (p : Pending) (as : List MboxAct) (c : MboxState),
      Along (mboxLinkStep e) PatientWords (MboxState.start e 0#32 heap p) as →
      exec (mboxLinkStep e) (MboxState.start e 0#32 heap p) as = some c → Delivered c) ∧
    ¬ ∀ (e : Ends) (ev : Word) (heap : LinkRequestCtx) (p : Pending) (as : List MboxAct)
      (c : MboxState), Along (mboxLinkStep e) PatientSomeWords (MboxState.start e ev heap p) as →
      exec (mboxLinkStep e) (MboxState.start e ev heap p) as = some c → Delivered c := by
  constructor
  · intro hall
    have hrun : (exec (mboxLinkStep clientToServer) (freshEnds 0)
        (mboxSend [] 0 ++ [.sender .run])).map
        (fun c => (c.link.req.isRunning, c.reads.length, c.calls.length)) = some (false, 0, 1) := by
      decide
    obtain ⟨c, hc, hv⟩ := Option.map_eq_some_iff.mp hrun
    simp only [Prod.mk.injEq] at hv
    have h := (hall _ _ _ _ c (by decide) hc).returned hv.1
    have hlen := congrArg List.length h
    simp only [MboxState.sent, List.length_map] at hlen
    omega
  · intro hall
    have hrun : (exec (mboxLinkStep clientToServer) (freshEnds eventA)
        (List.replicate 18 .recvIsr)).map
        (fun c => (c.link.req.isRunning, c.reads.length, c.calls.length)) = some (false, 1, 0) := by
      decide
    obtain ⟨c, hc, hv⟩ := Option.map_eq_some_iff.mp hrun
    simp only [Prod.mk.injEq] at hv
    have h := (hall _ _ _ _ _ c (by decide) hc).returned hv.1
    have hlen := congrArg List.length h
    simp only [MboxState.sent, List.length_map] at hlen
    omega

end HpscRtems.Mbox
