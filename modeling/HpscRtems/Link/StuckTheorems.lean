/-
HpscRtems.Link.StuckTheorems — where an acknowledgement gets lost.

`link_shmem_ack` wakes the sender before it clears the ACK bit. Between the
two the sender can send again and the receiver answer again, and then the
clear wipes the new ACK. As long as the receiver sets no ACK in that gap, a
sender that waits is waiting for something (`Alive`): the event, the
message's own indication, a read in progress, or an ACK on its way.
-/
import HpscRtems.Link.OneWay
import HpscRtems.Shmem.Region

namespace HpscRtems.Link

open Machine Rtems

variable {ρ : Type}

/-! ## §1 What a waiting sender waits for -/

namespace OneWay

variable {M : Medium ρ} {x x' : OneWay ρ} {a : OneWayAct}

/-- The sender is in the receive of `_link_request_send`, without a wake-up
event. -/
def Blocked (x : OneWay ρ) : Prop := x.link.req.inAckWait = true ∧ x.link.notified = false

instance (x : OneWay ρ) : Decidable x.Blocked := inferInstanceAs (Decidable (_ ∧ _))

/-- A blocked sender with no callback in progress finds NEW or ACK set. -/
def NotLost (M : Medium ρ) (x : OneWay ρ) : Prop :=
  x.Blocked → x.ack = .poll → x.recv = .poll →
    M.isNew x.medium = true ∨ M.isAck x.medium = true

/-- The handler has read `tid_requester` for the event send of `link_ack`,
and not yet cleared the ACK it is for. -/
def InGap (x : OneWay ρ) : Bool :=
  match x.ack, x.link.ack with
  | .clearAck, _ => true
  | .inLinkAck, .sendTo _ => true
  | .inLinkAck, .post _ _ => true
  | _, _ => false

/-- The receiver does not set ACK while the handler is between its event
send and clearing the last one. -/
def AckKept (x : OneWay ρ) (a : OneWayAct) : Prop := a = .setAck → x.InGap = false

instance (x : OneWay ρ) (a : OneWayAct) : Decidable (AckKept x a) :=
  inferInstanceAs (Decidable (_ → _))

/-- `link_ack` is going to send the requester its event. -/
def WillSend (x : OneWay ρ) : Prop :=
  x.ack = .inLinkAck ∧
    match x.link.ack with
    | .sendTo id => id = x.link.rctx.tidRequester
    | .post id ev => id = x.link.rctx.tidRequester ∧ ev = x.link.rctx.eventWait
    | _ => True

/-- Something is on its way that ends the wait. -/
def Alive (M : Medium ρ) (x : OneWay ρ) : Prop :=
  x.link.notified = true ∨ M.isNew x.medium = true ∨ x.recv ≠ .poll ∨
    (x.ack = .poll ∧ M.isAck x.medium = true) ∨ WillSend x

structure AliveInv (M : Medium ρ) (x : OneWay ρ) : Prop where
  base : x.Base
  idle : x.ack ≠ .inLinkAck → x.link.ack = .idle
  alive : x.link.req.inAckWait = true → Alive M x

theorem AliveInv.notLost (hi : AliveInv M x) : NotLost M x := by
  intro hk ha hr
  obtain ⟨hw, hn⟩ := hk
  rcases hi.alive hw with h | h | h | h | h
  · rw [hn] at h; cases h
  · exact Or.inl h
  · exact absurd hr h
  · exact Or.inr h.2
  · have hin := h.1
    rw [ha] at hin
    cases hin

/-- Outside its callback the ACK handler is not in `link_ack`. -/
theorem ackIdle_step (hb : x.Base) (hi : x.ack ≠ .inLinkAck → x.link.ack = .idle)
    (h : oneWayStep M x a = some x') : x'.ack ≠ .inLinkAck → x'.link.ack = .idle := by
  cases oneWayStep_moved hb h with
  | sender hs => exact fun hne => hs.ack.trans (hi hne)
  | ackPoll | ackEnter | ackTest | ackTid | ackEvent => exact fun hne => absurd rfl hne
  | ackNobody | ackSend => exact fun _ => rfl
  | clearAck ha => exact fun _ => hi (by rw [ha]; simp)
  | _ => exact hi

/-- A step that leaves alone what an `Alive` sender waits for, up to the
progress of `link_ack`. -/
theorem Alive.mono (ha : Alive M x) (hpoll : x.ack ≠ .poll)
    (hn : x.link.notified = true → x'.link.notified = true)
    (hnew : M.isNew x'.medium = M.isNew x.medium) (hrecv : x'.recv = x.recv)
    (hs : WillSend x → Alive M x') : Alive M x' := by
  rcases ha with h | h | h | h | h
  · exact .inl (hn h)
  · exact .inr (.inl (hnew.trans h))
  · exact .inr (.inr (.inl (hrecv ▸ h)))
  · exact absurd h.1 hpoll
  · exact hs h

theorem aliveInv_step (hi : AliveInv M x) (hg : AckKept x a) (h : oneWayStep M x a = some x') :
    AliveInv M x' := by
  refine ⟨base_step hi.base h, ackIdle_step hi.base hi.idle h, fun hw => ?_⟩
  cases oneWayStep_moved hi.base h with
  | sender hs => cases hs <;> cases hw
  | copy hr _ _ =>
    rw [hr] at hw
    cases hw
  | setNew _ _ _ => exact Or.inr (Or.inl (M.isNew_setNew _ _))
  | setNewEmpty _ _ _ => cases hw
  | ackPoll ha _ =>
    have hidle := hi.idle (by rw [ha]; simp)
    exact Or.inr (Or.inr (Or.inr (Or.inr ⟨rfl, by rw [hidle]; trivial⟩)))
  | ackEnter _ _ => exact Or.inr (Or.inr (Or.inr (Or.inr ⟨rfl, trivial⟩)))
  | ackTest _ _ _ => exact Or.inr (Or.inr (Or.inr (Or.inr ⟨rfl, trivial⟩)))
  | ackNobody _ _ ht =>
    -- somebody is waiting, so `tid_requester` is set
    cases hr : x.link.req with
    | running tid c pc =>
      have hpc : 4 ≤ pc.rank := by
        cases pc <;> simp_all [Requester.inAckWait, Pc.rank]
      have htid := (hi.base.link _ _ _ hr).tidRequester hpc
      rw [ht] at htid
      exact absurd htid.symm tid.2
    | _ => simp [hr, Requester.inAckWait] at hw
  | ackTid _ _ => exact Or.inr (Or.inr (Or.inr (Or.inr ⟨rfl, rfl⟩)))
  | ackEvent ha hl =>
    refine (hi.alive hw).mono (by rw [ha]; simp) id rfl rfl fun hs => ?_
    have hto := hs.2
    rw [hl] at hto
    exact Or.inr (Or.inr (Or.inr (Or.inr ⟨rfl, hto, rfl⟩)))
  | @ackSend id ev ha hl =>
    have hpost := x.link.notified_post id ev
    refine (hi.alive hw).mono (by rw [ha]; simp) (fun hn => hpost.trans (by rw [hn]; rfl)) rfl rfl
      fun hs => .inl (hpost.trans ?_)
    have hto := hs.2
    rw [hl] at hto
    cases hr : x.link.req with
    | running tid c pc =>
      have hpc : 5 ≤ pc.rank := by
        cases pc <;> simp_all [Requester.inAckWait, Pc.rank]
      rw [hto.1, hto.2, hi.base.link.hasEvent_eventWait hr hpc]
      simp
    | _ => simp [hr, Requester.inAckWait] at hw
  | clearAck ha =>
    refine (hi.alive hw).mono (by rw [ha]; simp) id (M.isNew_setAck _ _) rfl fun hs => ?_
    have hin := hs.1
    rw [ha] at hin
    cases hin
  | recvPoll _ _ => exact Or.inr (Or.inr (Or.inl (by simp)))
  | read _ => exact Or.inr (Or.inr (Or.inl (by simp)))
  | clearNew _ => exact Or.inr (Or.inr (Or.inl (by simp)))
  | setAck _ =>
    have hgap := hg rfl
    cases ha : x.ack with
    | poll => exact Or.inr (Or.inr (Or.inr (Or.inl ⟨rfl, M.isAck_setAck _ _⟩)))
    | inLinkAck =>
      refine Or.inr (Or.inr (Or.inr (Or.inr ⟨rfl, ?_⟩)))
      cases hl : x.link.ack <;> simp_all [InGap]
    | clearAck => simp [InGap, ha] at hgap

/-- Runs in which the receiver keeps off the gap, over any medium. -/
theorem notLost_of_ackKept {r : ρ} {heap : LinkRequestCtx} {p : Pending} {as : List OneWayAct}
    (hG : Along (oneWayStep M) AckKept (start r heap p) as)
    (h : exec (oneWayStep M) (start r heap p) as = some x) : NotLost M x := by
  have h0 : AliveInv M (start r heap p) :=
    ⟨base_start r heap p, fun _ => rfl, (fun h => by cases h)⟩
  exact (exec_invariant (fun _ _ _ hi hg h => aliveInv_step hi hg h) h0 hG h).notLost

end OneWay

open OneWay Shmem

/-! ## §2 The shared memory link -/

/-- **No acknowledgement is lost** on a shared memory link in every run
whose ACKs are not set in the gap. -/
theorem shmem_ack_notLost (heap : LinkRequestCtx) (p : Pending) (r : HpscShmemRegion)
    (as : List OneWayAct) (x : OneWay HpscShmemRegion)
    (hG : Along (oneWayStep shmemMedium) AckKept (start r heap p) as)
    (h : exec (oneWayStep shmemMedium) (start r heap p) as = some x) : NotLost shmemMedium x :=
  notLost_of_ackKept hG h

/-- A send that is answered, up to `link_ack` having woken the sender, and
a second one that is answered before ACK is cleared. -/
def answeredTwice : List OneWayAct :=
  let task : TaskId := 1
  [.sender (.call task (.requestSend [1] 64 noTimeout 0)), .sender .run, .sender .run,
   .sender .run, .copy, .setNew, .recvPoll, .read, .clearNew, .setAck,
   .ackPoll, .linkAck, .linkAck, .linkAck, .linkAck, .linkAck, .sender .wake, .sender .run,
   .sender .run,
   .sender (.call task (.requestSend [2] 64 noTimeout 0)), .sender .run, .sender .run,
   .sender .run, .copy, .setNew, .recvPoll, .read, .clearNew]

/-- A region nobody has used yet. -/
abbrev freshRegion : OneWay HpscShmemRegion :=
  start ⟨Msg.zero, 0#32⟩ ⟨0, 0, false, none, 0, 0⟩ fun _ => 0

/-- The ACK is cleared before the second answer. -/
theorem answeredTwice_notLost :
    ∃ x, exec (oneWayStep shmemMedium) freshRegion (answeredTwice ++ [.clearAck, .setAck]) =
      some x ∧ NotLost shmemMedium x := by
  have hrun : (exec (oneWayStep shmemMedium) freshRegion
      (answeredTwice ++ [.clearAck, .setAck])).isSome := by
    decide
  obtain ⟨x, hx⟩ := Option.isSome_iff_exists.mp hrun
  exact ⟨x, hx, shmem_ack_notLost _ _ _ (answeredTwice ++ [.clearAck, .setAck]) x (by decide) hx⟩

/-- When the second answer comes first, the clear wipes it and the sender
waits for ever. -/
theorem ack_lost :
    ¬ ∀ (heap : LinkRequestCtx) (p : Pending) (r : HpscShmemRegion) (as : List OneWayAct)
      (x : OneWay HpscShmemRegion), exec (oneWayStep shmemMedium) (start r heap p) as = some x →
      (∀ a ∈ as, ∀ c ∈ a.call?, c.ticks = noTimeout ∧ c.sz = 64) → NotLost shmemMedium x := by
  intro hall
  have hrun : (exec (oneWayStep shmemMedium) freshRegion
      (answeredTwice ++ [.setAck, .clearAck])).map (fun x => (decide x.Blocked, x.ack, x.recv,
        shmemMedium.isNew x.medium, shmemMedium.isAck x.medium)) =
      some (true, .poll, .poll, false, false) := by
    decide
  obtain ⟨x, hx, hv⟩ := Option.map_eq_some_iff.mp hrun
  simp only [Prod.mk.injEq, decide_eq_true_eq] at hv
  obtain ⟨hb, ha, hr, hn, hk⟩ := hv
  rcases hall _ _ _ _ x hx (by decide) hb ha hr with h | h
  · rw [hn] at h; cases h
  · rw [hk] at h; cases h

end HpscRtems.Link
