/-
HpscRtems.Shmem.SendTheorems — a send that reports success, with time-outs,
over a shared memory link and over a mailbox link.

Shared memory is taken access by access. Where no two updates of the status
word overlap and messages are copied as a whole, the accesses refine the
accessors whatever the sender's time-outs, and the last store of a message
is its copy: `SendInv` carries over. The data and event registers of a
mailbox are accessed one by one in `oneWayStep` already.
-/
import HpscRtems.Link.SendTheorems
import HpscRtems.Mbox.Channel
import HpscRtems.Shmem.WordsTheorems

namespace HpscRtems.Shmem.Words

open Machine Rtems Link Shmem OneWay Mbox

variable {addr : Nat → Nat} {c c' : ShmemState} {x : OneWay HpscShmemRegion} {a : ShmemAct}

/-! ## §1 What is to hold -/

/-- `link_ack` is going to be entered. -/
def ShmemState.AckDue (c : ShmemState) : Prop :=
  (c.ack = .poll ∧ pollSees c.region statusBitAck = true) ∨
    (c.ack = .inLinkAck ∧ c.link.ack = .idle)

instance ShmemState.AckDue.instDecidable (c : ShmemState) : Decidable c.AckDue :=
  inferInstanceAs (Decidable (_ ∨ _))

/-- When the last bytes of a message are stored, no ACK of an earlier one has
been taken since `tx_acked` was cleared, and none is on its way. -/
def FreshStore (c : ShmemState) (a : ShmemAct) : Prop :=
  a = .store → ∀ call ∈ c.link.req.writing,
    (nextStore c.region.data.toMem (bufMem call.buf) call.sz c.written).2 = hpscMsgSize →
      c.link.rctx.txAcked = false ∧ ¬ c.AckDue ∧ c.recv.atStatus = false

instance FreshStore.instDecidable (c : ShmemState) (a : ShmemAct) : Decidable (FreshStore c a) :=
  inferInstanceAs (Decidable (_ → ∀ call ∈ _, _ → _))

/-- A send that has come to a nonzero result had its message read, from the
copy it has written. -/
def ShmemState.SentIsRead (c : ShmemState) : Prop :=
  ∀ call rc, c.link.req.outcome = some (call, rc) → rc ≠ 0 →
    (c.calls.length, Msg.padded (bufMem call.buf) call.sz) ∈ c.reads

/-! ## §2 The same at the accessor level -/

theorem AckPoll.task_eq_poll (k : AckPoll) : k.task = .poll ↔ k = .poll := by
  cases k <;> simp [AckPoll.task]

theorem AckPoll.task_eq_inLinkAck (k : AckPoll) : k.task = .inLinkAck ↔ k = .inLinkAck := by
  cases k <;> simp [AckPoll.task]

theorem Rel.ackDue_iff (hr : Rel c x) : OneWay.AckDue shmemMedium x ↔ c.AckDue := by
  have hbit : shmemMedium.isAck x.medium = pollSees c.region statusBitAck := by
    simp only [shmemMedium, pollSees, shmemGetStatus, hr.status]
  unfold OneWay.AckDue ShmemState.AckDue
  rw [hbit, hr.ack, hr.link, AckPoll.task_eq_poll, AckPoll.task_eq_inLinkAck]

theorem Rel.hasRead_iff (hr : Rel c x) : x.HasRead ↔ c.recv.atStatus = true := by
  unfold HasRead
  rw [hr.recv]
  cases c.recv <;> simp [RecvPoll.task, RecvPoll.atStatus]

/-- The last store of a fresh message is a fresh copy. -/
theorem Rel.freshCopy {b : OneWayAct} (hr : Rel c x) (hg : FreshStore c a)
    (h : wordStep addr c a = some c')
    (hcopy : b = .copy → a = .store ∧ c'.written = hpscMsgSize) : FreshCopy shmemMedium x b := by
  intro hb
  obtain ⟨rfl, hdone⟩ := hcopy hb
  simp only [wordStep] at h
  split at h
  · rename_i tid call hw
    split at h
    · cases h
      obtain ⟨htx, hdue, hread⟩ := hg rfl call (by rw [hw]; rfl) hdone
      refine ⟨by rw [hr.link]; exact htx, by rwa [hr.ackDue_iff], fun hk => ?_⟩
      rw [hr.hasRead_iff, hread] at hk
      cases hk
    · cases h
  · cases h

/-- **The accesses refine the accessors**, with time-outs, as long as no
updates of the status word overlap and no copies do. -/
theorem sends_refine (addr : Nat → Nat) :
    Refines (wordStep addr) (oneWayStep shmemMedium)
      (fun c a => FreshStore c a ∧ UpdatesAlone c a ∧ CopyAlone c a)
      (fun c x => Rel c x ∧ SendInv shmemMedium x) where
  sim {c a c' x} hr hg h := by
    obtain ⟨hrel, hi⟩ := hr
    rcases sim_step hrel hi.base hg.2.1 hg.2.2 h with hk | ⟨b, x', hstep, hk, -, -, hcopy⟩
    · exact ⟨[], x, rfl, hk, hi⟩
    · exact ⟨[b], x', exec_cons _ hstep, hk,
        sendInv_step hi (hrel.freshCopy hg.1 h hcopy) hstep⟩

theorem Rel.sentIsRead (hr : Rel c x) (hi : SentIsRead shmemMedium x) : c.SentIsRead := by
  intro call rc ho hrc
  have hread := hi call rc (by rw [hr.link]; exact ho) hrc
  rwa [ReadNow, hr.calls, hr.reads] at hread

/-! ## §3 The two kinds of links -/

/-- **No false acknowledgement** on a shared memory link or a mailbox link
in every run whose messages are copied while no ACK of an earlier one has
been taken or is on its way, and where no updates of a status word overlap. -/
theorem nonzero_send_is_read (addr : Nat → Nat) (heap : LinkRequestCtx) (p : Pending)
    (r : HpscShmemRegion) (b : ChanBase) :
    (∀ as c, Along (wordStep addr) (fun c a => FreshStore c a ∧ UpdatesAlone c a ∧ CopyAlone c a)
        (ShmemState.start r heap p) as →
      exec (wordStep addr) (ShmemState.start r heap p) as = some c → c.SentIsRead) ∧
    ∀ as x, Along (oneWayStep mboxMedium) (FreshCopy mboxMedium) (OneWay.start b heap p) as →
      exec (oneWayStep mboxMedium) (OneWay.start b heap p) as = some x →
        SentIsRead mboxMedium x := by
  refine ⟨fun as c hG h => ?_, fun _ _ hG h => sentIsRead_of_freshCopy hG h⟩
  obtain ⟨bs, x, -, hr, hi⟩ :=
    (sends_refine addr).exec ⟨rel_start r heap p, sendInv_start r heap p⟩ hG h
  exact hr.sentIsRead hi.result

/-- A message of `b` is copied and announced, in a call that waits 10 ticks. -/
def timedWrite (b : Byte) : List ShmemAct :=
  [.sender (.call 1 (.requestSend [b] 64 10 0)), .sender .run, .sender .run, .sender .run] ++
    List.replicate 16 .store ++ [.loadNew, .storeNew]

/-- A first message is not read in time; a second one overwrites it, and is
read and acknowledged. -/
def retry : List ShmemAct :=
  timedWrite 1 ++ [.sender .timeout, .sender .run, .sender .run] ++ timedWrite 2 ++ answerRun ++
    List.replicate 6 .ack ++ [.sender .wake, .sender .run, .sender .run]

set_option maxRecDepth 8000 in
theorem retry_is_read : ∃ c, exec (wordStep bufAt) freshWords retry = some c ∧
    c.link.req.outcome = some (.requestSend [2] 64 10 0, 64) ∧ c.SentIsRead := by
  have hrun : (exec (wordStep bufAt) freshWords retry).map (·.link.req.outcome) =
      some (some (.requestSend [2] 64 10 0, 64)) := by
    decide
  obtain ⟨c, hc, hout⟩ := Option.map_eq_some_iff.mp hrun
  refine ⟨c, hc, hout, ?_⟩
  exact (nonzero_send_is_read bufAt _ _ _ ⟨0, 0, 0, fun _ => 0⟩).1 retry c (by decide) hc

/-- A first message is read, but its ACK takes longer than the sender
waits; the sender sends a second one, whose indication the receiver clears
with that of the first, and takes the late ACK for it. -/
def lateAckWords : List ShmemAct :=
  timedWrite 1 ++ List.replicate 17 .recv ++ [.sender .timeout, .sender .run, .sender .run] ++
    timedWrite 2 ++ List.replicate 4 .recv ++ List.replicate 6 .ack ++
    [.sender .wake, .sender .run, .sender .run]

/-- The same over a mailbox. -/
def lateAck : List OneWayAct :=
  let task : TaskId := 1
  [.sender (.call task (.requestSend [1] 64 10 0)), .sender .run, .sender .run, .sender .run,
   .copy, .setNew, .recvPoll, .read, .sender .timeout, .sender .run, .sender .run,
   .sender (.call task (.requestSend [2] 64 10 0)), .sender .run, .sender .run, .sender .run,
   .copy, .setNew, .clearNew, .setAck, .ackPoll, .linkAck, .linkAck, .linkAck, .linkAck,
   .linkAck, .sender .wake, .sender .run, .sender .run]

set_option maxRecDepth 8000 in
/-- The second send returns 64 though nobody has read its message, on either
kind of link. -/
theorem lateAck_not_read :
    (¬ ∀ (addr : Nat → Nat) (heap : LinkRequestCtx) (p : Pending) (r : HpscShmemRegion)
      (as : List ShmemAct) c, (∀ a ∈ as, ∀ call ∈ a.call?, call.ticks ≠ noTimeout) →
      Along (wordStep addr) CopyAlone (ShmemState.start r heap p) as →
      exec (wordStep addr) (ShmemState.start r heap p) as = some c → c.SentIsRead) ∧
    ¬ ∀ (heap : LinkRequestCtx) (p : Pending) (b : ChanBase) (as : List OneWayAct) x,
      (∀ a ∈ as, ∀ call ∈ a.call?, call.ticks ≠ noTimeout) →
      exec (oneWayStep mboxMedium) (OneWay.start b heap p) as = some x →
        SentIsRead mboxMedium x := by
  constructor
  · intro hall
    have hrun : (exec (wordStep bufAt) freshWords lateAckWords).map
        (fun c => (c.link.req.outcome, c.calls.length, c.reads.map (·.1))) =
          some (some (.requestSend [2] 64 10 0, 64), 2, [1]) := by
      decide
    obtain ⟨c, hc, hv⟩ := Option.map_eq_some_iff.mp hrun
    simp only [Prod.mk.injEq] at hv
    have hread := hall bufAt _ _ _ lateAckWords c (by decide) (by decide) hc _ _ hv.1 (by decide)
    have htag := List.mem_map_of_mem (f := (·.1)) hread
    rw [hv.2.2, hv.2.1] at htag
    exact absurd htag (by decide)
  · intro hall
    have hrun : (exec (oneWayStep mboxMedium)
        (OneWay.start ⟨0, 0, 0, fun _ => 0⟩ ⟨0, 0, false, none, 0, 0⟩ fun _ => 0) lateAck).map
        (fun x => (x.link.req.outcome, x.calls.length, x.reads.map (·.1))) =
          some (some (.requestSend [2] 64 10 0, 64), 2, [1]) := by
      decide
    obtain ⟨x, hx, hv⟩ := Option.map_eq_some_iff.mp hrun
    simp only [Prod.mk.injEq] at hv
    have hread := hall _ _ _ lateAck x (by decide) hx _ _ hv.1 (by decide)
    have htag := List.mem_map_of_mem (f := (·.1)) hread
    rw [hv.2.2, hv.2.1] at htag
    exact absurd htag (by decide)

end HpscRtems.Shmem.Words
