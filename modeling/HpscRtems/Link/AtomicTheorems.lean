/-
HpscRtems.Link.AtomicTheorems — sends whose ACK handler is an ISR.

An ISR runs to its end before the task it interrupts goes on. A sender
whose ACK handler is one cannot send again between `link_ack` and the clear
of the ACK indication, so the gap in which an acknowledgement gets lost is
never open: sends of at least one byte without time-out are delivered
exactly once and the sender is never left waiting.
-/
import HpscRtems.Link.DeliveryTheorems
import HpscRtems.Link.StuckTheorems

namespace HpscRtems.Link

open Machine Rtems

/-- The steps of the sending task. -/
def OneWayAct.ofTask : OneWayAct → Bool
  | .sender _ => true
  | .copy => true
  | .setNew => true
  | _ => false

namespace OneWay

variable {ρ : Type} {M : Medium ρ} {x x' : OneWay ρ} {a : OneWayAct}

/-- The sending task stands still while its ACK handler runs. -/
def HandlerAtomic (x : OneWay ρ) (a : OneWayAct) : Prop := x.ack ≠ .poll → a.ofTask = false

/-- The handlers' own steps begin no call and are not the task's. -/
theorem guards_of_handler (htask : a.ofTask = false) (hcall : a.call? = none) :
    PatientNonempty x a ∧ HandlerAtomic x a := by
  refine ⟨⟨fun c hc => ?_, fun c hc => ?_⟩, fun _ => htask⟩
  · rw [hcall] at hc
    cases hc
  · rw [hcall] at hc
    cases hc

/-- The phases, with nothing going on while the handler runs. -/
structure AtomicInv (M : Medium ρ) (x : OneWay ρ) : Prop where
  patient : PatientInv x
  phase : Phase M x
  alive : AliveInv M x
  quiet : x.ack ≠ .poll → x.recv = .poll ∧ M.isNew x.medium = false

theorem atomicInv_start {r : ρ} (heap : LinkRequestCtx) (p : Pending) (hnew : M.isNew r = false)
    (hack : M.isAck r = false) : AtomicInv M (start r heap p) where
  patient := patientInv_start r heap p
  phase := phase_start heap p hnew hack
  alive := ⟨base_start r heap p, fun _ => rfl, (fun h => by cases h)⟩
  quiet h := absurd rfl h

/-- With an atomic handler the gap is closed. -/
theorem AtomicInv.ackKept (hi : AtomicInv M x) (h : oneWayStep M x a = some x') :
    AckKept x a := by
  rintro rfl
  cases oneWayStep_moved hi.patient.base h with
  | setAck hr =>
    cases hack : x.ack with
    | poll => simp [InGap, hack]
    | inLinkAck | clearAck =>
      have hq := (hi.quiet (by rw [hack]; simp)).1
      rw [hr] at hq
      cases hq

theorem atomicInv_step (hi : AtomicInv M x) (hg : PatientNonempty x a) (ht : HandlerAtomic x a)
    (h : oneWayStep M x a = some x') : AtomicInv M x' := by
  refine ⟨patientInv_step hi.patient hg h, phase_step hi.patient hi.phase h,
    aliveInv_step hi.alive (hi.ackKept h) h, ?_⟩
  cases oneWayStep_moved hi.patient.base h with
  | sender hs => exact fun hne => absurd (ht hne) (by simp [OneWayAct.ofTask])
  | copy _ _ _ => exact fun hne => absurd (ht hne) (by simp [OneWayAct.ofTask])
  | setNew _ _ _ => exact fun hne => absurd (ht hne) (by simp [OneWayAct.ofTask])
  | setNewEmpty _ _ _ => exact fun hne => absurd (ht hne) (by simp [OneWayAct.ofTask])
  | ackPoll ha hbit =>
    -- an ACK indication stands only where the message has been answered
    have hans := (hi.phase.answered (Or.inl ⟨ha, hbit⟩)).2
    exact fun _ => ⟨hans.recv, hans.isNew⟩
  | ackEnter ha _ => exact fun _ => hi.quiet (by rw [ha]; simp)
  | ackTest ha _ _ => exact fun _ => hi.quiet (by rw [ha]; simp)
  | ackNobody ha _ _ => exact fun _ => hi.quiet (by rw [ha]; simp)
  | ackTid ha _ => exact fun _ => hi.quiet (by rw [ha]; simp)
  | ackEvent ha _ => exact fun _ => hi.quiet (by rw [ha]; simp)
  | ackSend ha _ => exact fun _ => hi.quiet (by rw [ha]; simp)
  | clearAck _ => exact fun hne => absurd rfl hne
  | recvPoll _ hbit =>
    intro hne
    rw [(hi.quiet hne).2] at hbit
    cases hbit
  | read hr =>
    intro hne
    rw [(hi.quiet hne).1] at hr
    cases hr
  | clearNew hr =>
    intro hne
    rw [(hi.quiet hne).1] at hr
    cases hr
  | setAck hr =>
    intro hne
    rw [(hi.quiet hne).1] at hr
    cases hr

end OneWay

end HpscRtems.Link
