/-
HpscRtems.Link.DeliveryTheorems — sends without time-out.

A message goes round: the sender offers it, the receiver takes it, the
receiver's ACK answers it, `link_ack` lets the sender go on. `Phase` says
which of these holds at each position of the sender; there is one message
or one ACK on its way at a time, except that the indication of the last ACK
may still stand while the next message is offered. From it follow exactly
once delivery, for sends of at least one byte, and where an ACK can get
lost.
-/
import HpscRtems.Link.OneWay
import HpscRtems.Shmem.Region

namespace HpscRtems.Link

open Machine Rtems

variable {ρ : Type}

/-! ## §1 Phases -/

/-- Where a task that only sends is. -/
inductive Position where
  | settled
  | preparing
  | writing (c : Call)
  | awaiting (c : Call)

def Requester.position : Requester → Position
  | .idle => .settled
  | .returned _ _ => .settled
  | .running _ _ (.clearTid _) => .settled
  | .running _ c .write => .writing c
  | .running _ c (.waitAck _) => .awaiting c
  | .running _ c (.checkAck _ _) => .awaiting c
  | .running _ c .assertFailed => .awaiting c
  | .running _ _ _ => .preparing

namespace OneWay

/-- The messages of the calls made so far. -/
def sent (M : Medium ρ) (x : OneWay ρ) : List Msg :=
  x.calls.map fun c => M.msg (bufMem c.buf) c.sz

/-- The messages read so far. -/
def got (x : OneWay ρ) : List Msg := x.reads.map (·.2)

/-- Neither a message nor an ACK is on its way. -/
structure Quiet (M : Medium ρ) (x : OneWay ρ) : Prop where
  isNew : M.isNew x.medium = false
  recv : x.recv = .poll
  notDue : ¬ AckDue M x

/-- The message of the present call can be read and has not been. -/
structure Offered (M : Medium ρ) (x : OneWay ρ) (c : Call) : Prop where
  isNew : M.isNew x.medium = true
  recv : x.recv = .poll ∨ x.recv = .read
  notDue : ¬ AckDue M x
  got : x.got = (sent M x).dropLast
  data : M.read x.medium = M.msg (bufMem c.buf) c.sz
  txAcked : x.link.rctx.txAcked = false

/-- The receiver has read the message and not yet set its ACK. -/
structure Taken (M : Medium ρ) (x : OneWay ρ) : Prop where
  recv : x.recv = .clearNew ∨ (x.recv = .setAck ∧ M.isNew x.medium = false)
  notDue : ¬ AckDue M x
  got : x.got = sent M x
  txAcked : x.link.rctx.txAcked = false

/-- The receiver has set the ACK. -/
structure Answered (M : Medium ρ) (x : OneWay ρ) : Prop where
  isNew : M.isNew x.medium = false
  recv : x.recv = .poll
  got : x.got = sent M x
  acked : x.link.rctx.txAcked = true → ¬ AckDue M x

def Phase (M : Medium ρ) (x : OneWay ρ) : Prop :=
  match x.link.req.position with
  | .settled => Quiet M x ∧ x.got = sent M x
  | .preparing => Quiet M x ∧ x.got = (sent M x).dropLast
  | .writing c =>
    Quiet M x ∧ x.got = (sent M x).dropLast ∧ x.link.rctx.txAcked = false ∧
      (x.copied = true → M.read x.medium = M.msg (bufMem c.buf) c.sz)
  | .awaiting c => Offered M x c ∨ Taken M x ∨ Answered M x

/-- Every call waits without time-out. -/
def Patient (_ : OneWay ρ) (a : OneWayAct) : Prop := ∀ c ∈ a.call?, c.ticks = noTimeout

/-- Every call waits without time-out and sends at least one byte. -/
def PatientNonempty (x : OneWay ρ) (a : OneWayAct) : Prop :=
  Patient x a ∧ ∀ c ∈ a.call?, c.sz ≠ 0

instance (x : OneWay ρ) (a : OneWayAct) : Decidable (Patient x a) :=
  inferInstanceAs (Decidable (∀ c ∈ a.call?, c.ticks = noTimeout))

instance (x : OneWay ρ) (a : OneWayAct) : Decidable (PatientNonempty x a) :=
  inferInstanceAs (Decidable (_ ∧ ∀ c ∈ a.call?, c.sz ≠ 0))

/-- What patience keeps: the present call is patient, and its receive has
reported the event. -/
structure PatientInv (x : OneWay ρ) : Prop where
  base : x.Base
  call : ∀ c, x.link.req.call? = some c → c.ticks = noTimeout ∧ c.sz ≠ 0
  reported : ∀ tid c rc events, x.link.req = .running tid c (.checkAck rc events) →
    hasEvent events x.link.rctx.eventWait = true

variable {M : Medium ρ} {x x' : OneWay ρ} {a : OneWayAct}

/-! ## §2 Patience -/

theorem patientInv_sender {b : Act} {l : LinkState} (hi : PatientInv x)
    (hb : ({ x with link := l, calls := b.addCall x.calls } : OneWay ρ).Base)
    (hg : PatientNonempty x (.sender b)) (hs : SendStep x.link b l) :
    PatientInv { x with link := l, calls := b.addCall x.calls } := by
  -- a step within the call
  have hgo : ∀ {tid c pc}, x.link.req = .running tid c pc → l.req.call? = some c →
      (∀ tid c rc events, l.req = .running tid c (.checkAck rc events) →
        hasEvent events l.rctx.eventWait = true) →
      PatientInv { x with link := l, calls := b.addCall x.calls } := by
    intro tid c pc hr hc hev
    refine ⟨hb, fun c' hc' => ?_, hev⟩
    have hcc : some c = some c' := hc.symm.trans hc'
    cases hcc
    exact hi.call _ (by rw [hr]; rfl)
  cases hs with
  | call _ _ =>
    refine ⟨hb, fun c hc => ?_, fun _ _ _ _ h => by cases h⟩
    cases hc
    exact ⟨hg.1 _ rfl, hg.2 _ rfl⟩
  | setTid hr => exact hgo hr rfl fun _ _ _ _ h => by cases h
  | setEventWait hr => exact hgo hr rfl fun _ _ _ _ h => by cases h
  | clearTxAcked hr => exact hgo hr rfl fun _ _ _ _ h => by cases h
  | wakeAck hr he =>
    refine hgo hr rfl fun _ _ _ _ h => ?_
    cases h
    rw [hi.base.link.notified_eq hr (by simp [Pc.rank])] at he
    simpa [LinkState.events] using he
  | timeoutAck hr ht _ => exact absurd (hi.call _ (by rw [hr]; rfl)).1 ht
  | acked hr _ _ => exact hgo hr rfl fun _ _ _ _ h => by cases h
  | assertFailed hr _ => exact hgo hr rfl fun _ _ _ _ h => by cases h
  | ackTimedOut hr _ => exact hgo hr rfl fun _ _ _ _ h => by cases h
  | clearTid hr => exact hgo hr rfl fun _ _ _ _ h => by cases h

theorem patientInv_step (hi : PatientInv x) (hg : PatientNonempty x a)
    (h : oneWayStep M x a = some x') : PatientInv x' := by
  have hb := base_step hi.base h
  cases oneWayStep_moved hi.base h with
  | sender hs => exact patientInv_sender hi hb hg hs
  | setNew hr _ _ =>
    refine ⟨hb, fun c hc => ?_, fun _ _ _ _ h => by cases h⟩
    cases hc
    exact hi.call _ (by rw [hr]; rfl)
  | setNewEmpty hr _ hz => exact absurd hz (hi.call _ (by rw [hr]; rfl)).2
  | _ => exact ⟨hb, hi.call, hi.reported⟩

theorem patientInv_start (r : ρ) (heap : LinkRequestCtx) (p : Pending) :
    PatientInv (start r heap p) where
  base := base_start r heap p
  call c hc := by cases hc
  reported _ _ _ _ h := by cases h

/-! ## §3 Steps between phases -/

/-- A step that changes none of what the phase is about, and makes no ACK
due. -/
theorem Phase.frame (hp : Phase M x) (hpos' : x'.link.req.position = x.link.req.position)
    (htx : x'.link.rctx.txAcked = x.link.rctx.txAcked) (hcop : x'.copied = x.copied)
    (hrecv : x'.recv = x.recv) (hcalls : x'.calls = x.calls) (hreads : x'.reads = x.reads)
    (hnew : M.isNew x'.medium = M.isNew x.medium) (hread : M.read x'.medium = M.read x.medium)
    (hdue : AckDue M x' → AckDue M x) : Phase M x' := by
  have hgot : x'.got = x.got := by unfold got; rw [hreads]
  have hsent : sent M x' = sent M x := by unfold sent; rw [hcalls]
  have hquiet : Quiet M x → Quiet M x' := fun q =>
    ⟨hnew.trans q.isNew, hrecv.trans q.recv, fun hd => q.notDue (hdue hd)⟩
  unfold Phase at hp ⊢
  rw [hpos', hgot, hsent, htx, hcop, hread]
  split
  · rename_i hpos
    rw [hpos] at hp
    exact ⟨hquiet hp.1, hp.2⟩
  · rename_i hpos
    rw [hpos] at hp
    exact ⟨hquiet hp.1, hp.2⟩
  · rename_i c hpos
    rw [hpos] at hp
    exact ⟨hquiet hp.1, hp.2⟩
  · rename_i c hpos
    rw [hpos] at hp
    rcases hp with ho | ht | ha
    · exact Or.inl ⟨hnew.trans ho.isNew, hrecv ▸ ho.recv, fun hd => ho.notDue (hdue hd),
        by rw [hgot, hsent, ho.got], hread.trans ho.data, htx.trans ho.txAcked⟩
    · exact Or.inr (Or.inl ⟨by rw [hrecv, hnew]; exact ht.recv, fun hd => ht.notDue (hdue hd),
        by rw [hgot, hsent, ht.got], htx.trans ht.txAcked⟩)
    · exact Or.inr (Or.inr ⟨hnew.trans ha.isNew, hrecv.trans ha.recv,
        by rw [hgot, hsent, ha.got], fun hk hd => ha.acked (htx ▸ hk) (hdue hd)⟩)

/-- Where an ACK is due, the message has been answered. -/
theorem Phase.answered (hp : Phase M x) (hd : AckDue M x) :
    (∃ c, x.link.req.position = .awaiting c) ∧ Answered M x := by
  unfold Phase at hp
  split at hp
  · exact absurd hd hp.1.notDue
  · exact absurd hd hp.1.notDue
  · exact absurd hd hp.1.notDue
  · rename_i c hpos
    rcases hp with ho | ht | ha
    · exact absurd hd ho.notDue
    · exact absurd hd ht.notDue
    · exact ⟨⟨c, hpos⟩, ha⟩

/-- Where a message can be read, it is the one on offer. -/
theorem Phase.offered (hp : Phase M x)
    (h : (x.recv = .poll ∧ M.isNew x.medium = true) ∨ x.recv = .read) :
    ∃ c, x.link.req.position = .awaiting c ∧ Offered M x c := by
  have hno : ¬ Quiet M x := by
    intro q
    rcases h with h | h
    · rw [q.isNew] at h; cases h.2
    · rw [q.recv] at h; cases h
  unfold Phase at hp
  split at hp
  · exact absurd hp.1 hno
  · exact absurd hp.1 hno
  · exact absurd hp.1 hno
  · rename_i c hpos
    rcases hp with ho | ht | ha
    · exact ⟨c, hpos, ho⟩
    · rcases h with h | h <;> rcases ht.recv with hr | hr <;> simp_all
    · rcases h with h | h
      · rw [ha.isNew] at h; cases h.2
      · rw [ha.recv] at h; cases h

/-- Where the receiver has read, the message is taken. -/
theorem Phase.taken (hp : Phase M x) (h : x.HasRead) :
    (∃ c, x.link.req.position = .awaiting c) ∧ Taken M x := by
  have hne : x.recv ≠ .poll ∧ x.recv ≠ .read := by
    rcases h with h | h <;> simp [h]
  unfold Phase at hp
  split at hp
  · exact absurd hp.1.recv hne.1
  · exact absurd hp.1.recv hne.1
  · exact absurd hp.1.recv hne.1
  · rename_i c hpos
    rcases hp with ho | ht | ha
    · rcases ho.recv with hr | hr
      · exact absurd hr hne.1
      · exact absurd hr hne.2
    · exact ⟨⟨c, hpos⟩, ht⟩
    · exact absurd ha.recv hne.1

/-- The sender, outside `link->write`. -/
theorem phase_sender {b : Act} {l : LinkState} (hi : PatientInv x) (hp : Phase M x)
    (hs : SendStep x.link b l) : Phase M { x with link := l, calls := b.addCall x.calls } := by
  -- a step within the same position
  have hsame : l.req.position = x.link.req.position → l.rctx.txAcked = x.link.rctx.txAcked →
      l.ack = x.link.ack → b.addCall x.calls = x.calls →
      Phase M { x with link := l, calls := b.addCall x.calls } := fun h1 h2 h3 h4 =>
    hp.frame h1 h2 rfl rfl h4 rfl rfl rfl (by simp [AckDue, h3])
  cases hs with
  | @call tid c hr _ =>
    have hpos : x.link.req.position = .settled := by
      cases hq : x.link.req <;> simp_all [Requester.isRunning, Requester.position]
    simp only [Phase, hpos] at hp
    refine ⟨⟨hp.1.isNew, hp.1.recv, hp.1.notDue⟩, ?_⟩
    have hgot : x.got = sent M x := hp.2
    simpa [got, sent, Act.addCall] using hgot
  | setTid hr => exact hsame (by rw [hr]; rfl) rfl rfl rfl
  | setEventWait hr => exact hsame (by rw [hr]; rfl) rfl rfl rfl
  | clearTxAcked hr =>
    have hpos : x.link.req.position = .preparing := by rw [hr]; rfl
    have hcop : x.copied = false := hi.base.not_copied hr (by simp)
    simp only [Phase, hpos] at hp
    exact ⟨⟨hp.1.isNew, hp.1.recv, hp.1.notDue⟩, hp.2, rfl, fun hk => by simp [hcop] at hk⟩
  | wakeAck hr _ => exact hsame (by rw [hr]; rfl) rfl rfl rfl
  | timeoutAck hr ht _ => exact absurd (hi.call _ (by rw [hr]; rfl)).1 ht
  | @acked tid c rc events hr _ hk =>
    have hpos : x.link.req.position = .awaiting c := by rw [hr]; rfl
    simp only [Phase, hpos] at hp
    rcases hp with ho | ht | ha
    · rw [ho.txAcked] at hk; cases hk
    · rw [ht.txAcked] at hk; cases hk
    · exact ⟨⟨ha.isNew, ha.recv, ha.acked hk⟩, ha.got⟩
  | assertFailed hr _ => exact hsame (by rw [hr]; rfl) rfl rfl rfl
  | ackTimedOut hr he =>
    rw [hi.reported _ _ _ _ hr] at he
    cases he
  | clearTid hr => exact hsame (by rw [hr]; rfl) rfl rfl rfl

theorem phase_step (hi : PatientInv x) (hp : Phase M x) (h : oneWayStep M x a = some x') :
    Phase M x' := by
  cases oneWayStep_moved hi.base h with
  | sender hs => exact phase_sender hi hp hs
  | @copy tid c r hr hc hw =>
    have hpos : x.link.req.position = .writing c := by rw [hr]; rfl
    simp only [Phase, hpos] at hp ⊢
    obtain ⟨q, hg, hk, -⟩ := hp
    refine ⟨⟨(M.isNew_write hw).trans q.isNew, q.recv, ?_⟩, hg, hk, fun _ => M.read_write hw⟩
    simpa [AckDue, M.isAck_write hw] using q.notDue
  | @setNew tid c hr hc _ =>
    have hpos : x.link.req.position = .writing c := by rw [hr]; rfl
    simp only [Phase, hpos] at hp
    obtain ⟨q, hg, hk, hd⟩ := hp
    refine Or.inl ⟨M.isNew_setNew _ _, Or.inl q.recv, ?_, hg, ?_, hk⟩
    · simpa [AckDue] using q.notDue
    · simpa using hd hc
  | setNewEmpty hr _ hz => exact absurd hz (hi.call _ (by rw [hr]; rfl)).2
  | ackPoll ha hbit =>
    obtain ⟨⟨c, hpos⟩, hans⟩ := hp.answered (Or.inl ⟨ha, hbit⟩)
    have hk := fun hk => hans.acked hk (Or.inl ⟨ha, hbit⟩)
    simp only [Phase, hpos]
    exact Or.inr (Or.inr ⟨hans.isNew, hans.recv, hans.got, fun hk' => (hk hk').elim⟩)
  | ackEnter ha hl =>
    obtain ⟨⟨c, hpos⟩, hans⟩ := hp.answered (Or.inr ⟨ha, hl⟩)
    simp only [Phase, hpos]
    exact Or.inr (Or.inr ⟨hans.isNew, hans.recv, hans.got, fun _ => by simp [AckDue]⟩)
  | ackTest _ _ _ => exact hp.frame rfl rfl rfl rfl rfl rfl rfl rfl (by simp [AckDue])
  | ackNobody _ _ _ => exact hp.frame rfl rfl rfl rfl rfl rfl rfl rfl (by simp [AckDue])
  | ackTid _ _ => exact hp.frame rfl rfl rfl rfl rfl rfl rfl rfl (by simp [AckDue])
  | ackEvent _ _ => exact hp.frame rfl rfl rfl rfl rfl rfl rfl rfl (by simp [AckDue])
  | ackSend _ _ => exact hp.frame rfl rfl rfl rfl rfl rfl rfl rfl (by simp [AckDue])
  | clearAck _ =>
    exact hp.frame rfl rfl rfl rfl rfl rfl (M.isNew_setAck _ _) (M.read_setAck _ _)
      (by simp [AckDue])
  | recvPoll hr hbit =>
    obtain ⟨c, hpos, ho⟩ := hp.offered (Or.inl ⟨hr, hbit⟩)
    simp only [Phase, hpos]
    exact Or.inl ⟨ho.isNew, Or.inr rfl, ho.notDue, ho.got, ho.data, ho.txAcked⟩
  | read hr =>
    obtain ⟨c, hpos, ho⟩ := hp.offered (Or.inr hr)
    have hcall : x.link.req.call? = some c := by
      cases hq : x.link.req with
      | running tid c' pc => cases pc <;> simp_all [Requester.position, Requester.call?]
      | _ => simp [hq, Requester.position] at hpos
    obtain ⟨pre, hpre⟩ := hi.base.last c hcall
    simp only [Phase, hpos]
    refine Or.inr (Or.inl ⟨Or.inl rfl, ho.notDue, ?_, ho.txAcked⟩)
    have hg : x.got = (sent M x).dropLast := ho.got
    simp only [got, sent, hpre, List.map_append, List.map_cons, List.map_nil,
      List.dropLast_concat] at hg ⊢
    rw [hg, ho.data]
  | clearNew hr =>
    obtain ⟨⟨c, hpos⟩, ht⟩ := hp.taken (Or.inl hr)
    simp only [Phase, hpos]
    refine Or.inr (Or.inl ⟨Or.inr ⟨rfl, M.isNew_setNew _ _⟩, ?_, ht.got, ht.txAcked⟩)
    simpa [AckDue] using ht.notDue
  | setAck hr =>
    obtain ⟨⟨c, hpos⟩, ht⟩ := hp.taken (Or.inr hr)
    have hnew : M.isNew x.medium = false := by
      rcases ht.recv with h1 | h1
      · rw [hr] at h1; cases h1
      · exact h1.2
    simp only [Phase, hpos]
    refine Or.inr (Or.inr ⟨(M.isNew_setAck _ _).trans hnew, rfl, ht.got, fun hk => ?_⟩)
    rw [ht.txAcked] at hk
    cases hk

/-! ## §4 Exactly once -/

/-- The messages read are the messages sent, in order and each once, up to
the call in progress; a call that has returned has had its message read. -/
structure ExactlyOnce (M : Medium ρ) (x : OneWay ρ) : Prop where
  reads : x.got = sent M x ∨
    (x.link.req.isRunning = true ∧ x.got = (sent M x).dropLast)
  returned : x.link.req.isRunning = false → x.got = sent M x

theorem Phase.exactlyOnce (hp : Phase M x) : ExactlyOnce M x := by
  unfold Phase at hp
  cases hr : x.link.req with
  | idle =>
    simp only [hr, Requester.position] at hp
    exact ⟨Or.inl hp.2, fun _ => hp.2⟩
  | returned c rc =>
    simp only [hr, Requester.position] at hp
    exact ⟨Or.inl hp.2, fun _ => hp.2⟩
  | running tid c pc =>
    have hrun : x.link.req.isRunning = true := by rw [hr]; rfl
    refine ⟨?_, fun h => by rw [hr] at h; cases h⟩
    split at hp
    · exact Or.inl hp.2
    · exact Or.inr ⟨hr ▸ hrun, hp.2⟩
    · exact Or.inr ⟨hr ▸ hrun, hp.2.1⟩
    · rcases hp with ho | ht | ha
      · exact Or.inr ⟨hr ▸ hrun, ho.got⟩
      · exact Or.inl ht.got
      · exact Or.inl ha.got

theorem phase_start {r : ρ} (heap : LinkRequestCtx) (p : Pending) (hnew : M.isNew r = false)
    (hack : M.isAck r = false) : Phase M (start r heap p) := by
  refine ⟨⟨hnew, rfl, ?_⟩, rfl⟩
  intro hd
  rcases hd with ⟨_, h⟩ | ⟨h, _⟩
  · exact absurd (hack.symm.trans h) (by simp)
  · cases h

/-- Runs of patient sends over a medium without indications at the start. -/
theorem phase_exec {r : ρ} {heap : LinkRequestCtx} {p : Pending} {as : List OneWayAct}
    (hnew : M.isNew r = false) (hack : M.isAck r = false)
    (hG : Along (oneWayStep M) PatientNonempty (start r heap p) as)
    (h : exec (oneWayStep M) (start r heap p) as = some x) : PatientInv x ∧ Phase M x :=
  exec_invariant (I := fun x => PatientInv x ∧ Phase M x)
    (fun _ _ _ hi hg h => ⟨patientInv_step hi.1 hg h, phase_step hi.1 hi.2 h⟩)
    ⟨patientInv_start r heap p, phase_start heap p hnew hack⟩ hG h

end OneWay

open OneWay Shmem

/-- **Exactly once, in order**, over the shared memory link, for sends of
at least one byte without time-out, where NEW and ACK are clear at first. -/
theorem shmem_exactlyOnce (heap : LinkRequestCtx) (p : Pending) (r : HpscShmemRegion)
    (as : List OneWayAct) (x : OneWay HpscShmemRegion) (hclear : r.Clear)
    (hG : Along (oneWayStep shmemMedium) PatientNonempty (start r heap p) as)
    (h : exec (oneWayStep shmemMedium) (start r heap p) as = some x) :
    ExactlyOnce shmemMedium x :=
  (phase_exec hclear.1 hclear.2 hG h).2.exactlyOnce

/-- Two sends, each answered in time. -/
def twoSends : List OneWayAct :=
  let send (c : Call) : List OneWayAct :=
    [.sender (.call 1 c), .sender .run, .sender .run, .sender .run, .copy, .setNew,
     .recvPoll, .read, .clearNew, .setAck, .ackPoll, .linkAck, .linkAck, .linkAck,
     .linkAck, .linkAck, .sender .wake, .clearAck, .sender .run, .sender .run]
  send (.requestSend [1] 1 noTimeout 0) ++ send (.requestSend [2, 3] 2 noTimeout 0)

theorem twoSends_exactlyOnce :
    ∃ x, exec (oneWayStep shmemMedium)
      (start ⟨Msg.zero, 0x80#32⟩ ⟨0, 0, false, none, 0, 0⟩ fun _ => 0) twoSends = some x ∧
      ExactlyOnce shmemMedium x := by
  have hrun : (exec (oneWayStep shmemMedium)
      (start ⟨Msg.zero, 0x80#32⟩ ⟨0, 0, false, none, 0, 0⟩ fun _ => 0) twoSends).isSome := by
    decide
  obtain ⟨x, hx⟩ := Option.isSome_iff_exists.mp hrun
  exact ⟨x, hx, shmem_exactlyOnce _ _ _ twoSends x (by decide) (by decide) hx⟩

/-- A send of no bytes. -/
def emptySend : List OneWayAct :=
  [.sender (.call 1 (.requestSend [] 0 noTimeout 0)), .sender .run, .sender .run,
   .sender .run, .copy, .setNew, .sender .run]

/-- A send of no bytes raises NEW and returns before its message is read,
and a NEW left over is read before anything is sent. -/
theorem shmem_not_exactlyOnce :
    (¬ ∀ (heap : LinkRequestCtx) (p : Pending) (data : Msg) (as : List OneWayAct)
      (x : OneWay HpscShmemRegion),
      Along (oneWayStep shmemMedium) Patient (start ⟨data, 0#32⟩ heap p) as →
      exec (oneWayStep shmemMedium) (start ⟨data, 0#32⟩ heap p) as = some x →
      ExactlyOnce shmemMedium x) ∧
    ¬ ∀ (heap : LinkRequestCtx) (p : Pending) (r : HpscShmemRegion) (as : List OneWayAct)
      (x : OneWay HpscShmemRegion),
      Along (oneWayStep shmemMedium) PatientNonempty (start r heap p) as →
      exec (oneWayStep shmemMedium) (start r heap p) as = some x → ExactlyOnce shmemMedium x := by
  constructor
  · intro hall
    have hrun : (exec (oneWayStep shmemMedium)
        (start ⟨Msg.zero, 0#32⟩ ⟨0, 0, false, none, 0, 0⟩ fun _ => 0) emptySend).map
        (fun x => (x.link.req.isRunning, x.reads.length, x.calls.length)) = some (false, 0, 1) := by
      decide
    obtain ⟨x, hx, hv⟩ := Option.map_eq_some_iff.mp hrun
    simp only [Prod.mk.injEq] at hv
    have h := (hall _ _ _ emptySend x (by decide) hx).returned hv.1
    have hlen := congrArg List.length h
    simp only [got, sent, List.length_map] at hlen
    omega
  · intro hall
    have hrun : (exec (oneWayStep shmemMedium)
        (start ⟨Msg.zero, statusBitNew⟩ ⟨0, 0, false, none, 0, 0⟩ fun _ => 0)
        [.recvPoll, .read]).map
        (fun x => (x.link.req.isRunning, x.reads.length, x.calls.length)) = some (false, 1, 0) := by
      decide
    obtain ⟨x, hx, hv⟩ := Option.map_eq_some_iff.mp hrun
    simp only [Prod.mk.injEq] at hv
    have h := (hall _ _ _ [.recvPoll, .read] x (by decide) hx).returned hv.1
    have hlen := congrArg List.length h
    simp only [got, sent, List.length_map] at hlen
    omega

end HpscRtems.Link
