/-
HpscRtems.Link.SendTheorems — a send that reports success, with time-outs.

An ACK carries no number, so an ACK on its way from an earlier message is
as good as one for the message just written. Two things can bring
`link_request_send` to return nonzero: `tx_acked` is set, or `link_ack` is
going to be entered (`AckDue`), at once or after the receiver has finished
a read it has begun. If none of them holds when the message is copied, the
only ACK that can come is that of a receiver who reads this message.
-/
import HpscRtems.Link.OneWay

namespace HpscRtems.Link

open Machine Rtems

variable {ρ : Type}

namespace OneWay

variable {M : Medium ρ} {x x' : OneWay ρ} {a : OneWayAct}

/-- When the message is copied, no ACK of an earlier one has been taken
since `tx_acked` was cleared, and none is on its way. -/
def FreshCopy (M : Medium ρ) (x : OneWay ρ) (a : OneWayAct) : Prop :=
  a = .copy → x.link.rctx.txAcked = false ∧ ¬ AckDue M x ∧ ¬ x.HasRead

instance (M : Medium ρ) (x : OneWay ρ) (a : OneWayAct) : Decidable (FreshCopy M x a) :=
  inferInstanceAs (Decidable (_ → _))

/-- A send that has come to a nonzero result had its message read. -/
def SentIsRead (M : Medium ρ) (x : OneWay ρ) : Prop :=
  ∀ c rc, x.link.req.outcome = some (c, rc) → rc ≠ 0 → x.ReadNow M c

structure SendInv (M : Medium ρ) (x : OneWay ρ) : Prop where
  base : x.Base
  /-- While the message stands in the medium, every ACK that has been taken
  or is on its way is one for this message. -/
  sending : ∀ c, x.sending = some c →
    x.slot = x.calls.length ∧ M.read x.medium = M.msg (bufMem c.buf) c.sz ∧
      (x.link.rctx.txAcked = true ∨ AckDue M x ∨ x.HasRead → x.ReadNow M c)
  result : SentIsRead M x

/-- A step that leaves the sender alone and brings no new ACK, unless the
message has been read. -/
theorem SendInv.frame (hi : SendInv M x) (hb : x'.Base) (hreq : x'.link.req = x.link.req)
    (hcop : x'.copied = x.copied) (hcalls : x'.calls = x.calls) (hslot : x'.slot = x.slot)
    (hread : M.read x'.medium = M.read x.medium) (hreads : x.reads ⊆ x'.reads)
    (hack : x'.link.rctx.txAcked = true ∨ AckDue M x' ∨ x'.HasRead →
      (x.link.rctx.txAcked = true ∨ AckDue M x ∨ x.HasRead) ∨
        (x.slot, M.read x.medium) ∈ x'.reads) : SendInv M x' where
  base := hb
  sending c hc := by
    have hc' : x.sending = some c := by
      unfold OneWay.sending at hc ⊢
      rwa [hcop, hreq] at hc
    obtain ⟨hs, hr, hk⟩ := hi.sending c hc'
    refine ⟨by rw [hslot, hcalls, hs], by rw [hread, hr], fun hd => ?_⟩
    unfold ReadNow
    rw [hcalls]
    rcases hack hd with hd' | hd'
    · exact hreads (hk hd')
    · rwa [hs, hr] at hd'
  result c rc ho hrc := by
    rw [hreq] at ho
    have h := hi.result c rc ho hrc
    unfold ReadNow at h ⊢
    rw [hcalls]
    exact hreads h

/-- A step of the ACK handler. -/
theorem SendInv.handler (hi : SendInv M x) (hb : x'.Base) (hreq : x'.link.req = x.link.req)
    (hcop : x'.copied = x.copied) (hcalls : x'.calls = x.calls) (hslot : x'.slot = x.slot)
    (hread : M.read x'.medium = M.read x.medium) (hreads : x'.reads = x.reads)
    (hrecv : x'.recv = x.recv)
    (htx : x'.link.rctx.txAcked = true → x.link.rctx.txAcked = true ∨ AckDue M x)
    (hdue : AckDue M x' → AckDue M x) : SendInv M x' := by
  refine hi.frame hb hreq hcop hcalls hslot hread (by rw [hreads]; exact List.Subset.refl _) ?_
  intro h
  rcases h with h | h | h
  · rcases htx h with h' | h'
    · exact Or.inl (Or.inl h')
    · exact Or.inl (Or.inr (Or.inl h'))
  · exact Or.inl (Or.inr (Or.inl (hdue h)))
  · rw [HasRead, hrecv] at h
    exact Or.inl (Or.inr (Or.inr h))

/-- The sender, outside `link->write`. -/
theorem sendInv_sender {b : Act} {l : LinkState} (hi : SendInv M x)
    (hb : ({ x with link := l, calls := b.addCall x.calls } : OneWay ρ).Base)
    (hs : SendStep x.link b l) :
    SendInv M { x with link := l, calls := b.addCall x.calls } := by
  have hcop : ∀ {tid c pc}, x.link.req = .running tid c pc → pc ≠ .write → x.copied = false :=
    fun hr hpc => hi.base.not_copied hr hpc
  -- positions where no message waits
  have hrest : l.req.awaiting = none → x.copied = false →
      SentIsRead M { x with link := l, calls := b.addCall x.calls } →
      SendInv M { x with link := l, calls := b.addCall x.calls } := by
    intro h1 h2 h3
    refine ⟨hb, fun c hc => ?_, h3⟩
    simp [OneWay.sending, h1, h2] at hc
  -- the wait goes on
  have hwait : ∀ {tid c pc}, x.link.req = .running tid c pc → pc ≠ .write →
      x.link.req.awaiting = some c → l.req.awaiting = some c → l.req.outcome = none →
      l.rctx = x.link.rctx → l.ack = x.link.ack → b.addCall x.calls = x.calls →
      SendInv M { x with link := l, calls := b.addCall x.calls } := by
    intro tid c pc hr hpc h1 h2 h3 h4 h5 h6
    have hc := hcop hr hpc
    refine ⟨hb, ?_, ?_⟩
    · intro c' hc'
      simp only [OneWay.sending, hc, h2] at hc'
      cases hc'
      have h := hi.sending c (by simp [OneWay.sending, hc, h1])
      simpa only [AckDue, HasRead, ReadNow, h4, h5, h6] using h
    · intro c rc ho
      rw [h3] at ho
      cases ho
  cases hs with
  | call hr _ =>
    refine hrest rfl ?_ fun _ _ ho => by cases ho
    by_contra hk
    obtain ⟨tid', c', hw⟩ := hi.base.copied (by simpa using hk)
    rw [hw] at hr
    cases hr
  | setTid hr => exact hrest rfl (hcop hr (by simp)) fun _ _ ho => by cases ho
  | setEventWait hr => exact hrest rfl (hcop hr (by simp)) fun _ _ ho => by cases ho
  | clearTxAcked hr => exact hrest rfl (hcop hr (by simp)) fun _ _ ho => by cases ho
  | wakeAck hr _ => exact hwait hr (by simp) (by rw [hr]; rfl) rfl rfl rfl rfl rfl
  | timeoutAck hr _ _ => exact hwait hr (by simp) (by rw [hr]; rfl) rfl rfl rfl rfl rfl
  | assertFailed hr _ => exact hwait hr (by simp) (by rw [hr]; rfl) rfl rfl rfl rfl rfl
  | @acked tid c rc events hr _ hk =>
    have hc := hcop hr (by simp)
    have h := hi.sending c (by simp [OneWay.sending, hc, hr, Requester.awaiting])
    refine hrest rfl hc fun c' rc' ho _ => ?_
    cases ho
    exact h.2.2 (Or.inl hk)
  | ackTimedOut hr _ =>
    refine hrest rfl (hcop hr (by simp)) fun c' rc' ho hne => ?_
    cases ho
    exact absurd rfl hne
  | clearTid hr =>
    refine hrest rfl (hcop hr (by simp)) fun c' rc' ho hne => ?_
    cases ho
    exact hi.result _ _ (by rw [hr]; rfl) hne

theorem sendInv_step (hi : SendInv M x) (hg : FreshCopy M x a)
    (h : oneWayStep M x a = some x') : SendInv M x' := by
  have hb := OneWay.base_step hi.base h
  cases oneWayStep_moved hi.base h with
  | sender hs => exact sendInv_sender hi hb hs
  | copy hr hc hw =>
    obtain ⟨hk, hd, hn⟩ := hg rfl
    refine ⟨hb, ?_, ?_⟩
    · intro c' hc'
      simp only [OneWay.sending, if_true, hr, Requester.writing] at hc'
      cases hc'
      refine ⟨rfl, M.read_write hw, ?_⟩
      simp only [AckDue, HasRead, M.isAck_write hw] at hd hn ⊢
      intro h1
      rcases h1 with h1 | h1 | h1
      · rw [hk] at h1
        cases h1
      · exact (hd h1).elim
      · exact (hn h1).elim
    · intro c' rc' ho
      rw [hr] at ho
      cases ho
  | @setNew tid c hr hc _ =>
    have h := hi.sending c (by simp [OneWay.sending, hc, hr, Requester.writing])
    refine ⟨hb, fun c' hc' => ?_, fun _ _ ho => by cases ho⟩
    cases hc'
    simpa [AckDue, HasRead, ReadNow] using h
  | setNewEmpty hr hc _ =>
    refine ⟨hb, (fun _ hc' => by cases hc'), fun c' rc' ho hne => ?_⟩
    cases ho
    exact absurd rfl hne
  | ackPoll ha hbit =>
    exact hi.handler hb rfl rfl rfl rfl rfl rfl rfl Or.inl fun _ => Or.inl ⟨ha, hbit⟩
  | ackEnter ha hl =>
    exact hi.handler hb rfl rfl rfl rfl rfl rfl rfl (fun _ => Or.inr (Or.inr ⟨ha, hl⟩))
      fun _ => Or.inr ⟨ha, hl⟩
  | ackTest _ _ _ =>
    exact hi.handler hb rfl rfl rfl rfl rfl rfl rfl Or.inl fun hd => by simp [AckDue] at hd
  | ackNobody _ _ _ =>
    exact hi.handler hb rfl rfl rfl rfl rfl rfl rfl Or.inl fun hd => by simp [AckDue] at hd
  | ackTid _ _ =>
    exact hi.handler hb rfl rfl rfl rfl rfl rfl rfl Or.inl fun hd => by simp [AckDue] at hd
  | ackEvent _ _ =>
    exact hi.handler hb rfl rfl rfl rfl rfl rfl rfl Or.inl fun hd => by simp [AckDue] at hd
  | ackSend _ _ =>
    exact hi.handler hb rfl rfl rfl rfl rfl rfl rfl Or.inl fun hd => by simp [AckDue] at hd
  | clearAck _ =>
    exact hi.handler hb rfl rfl rfl rfl (M.read_setAck _ _) rfl rfl Or.inl
      fun hd => by simp [AckDue] at hd
  | recvPoll _ _ =>
    refine hi.frame hb rfl rfl rfl rfl rfl (List.Subset.refl _) ?_
    intro h1
    rcases h1 with h1 | h1 | h1
    · exact Or.inl (Or.inl h1)
    · exact Or.inl (Or.inr (Or.inl h1))
    · simp [HasRead] at h1
  | read _ =>
    -- from here on the ACK is one for the message that stands in the medium
    refine hi.frame hb rfl rfl rfl rfl rfl (List.subset_append_left _ _) ?_
    exact fun _ => Or.inr (by simp)
  | clearNew hr =>
    refine hi.frame hb rfl rfl rfl rfl (M.read_setNew _ _) (List.Subset.refl _) ?_
    exact fun _ => Or.inl (Or.inr (Or.inr (Or.inl hr)))
  | setAck hr =>
    refine hi.frame hb rfl rfl rfl rfl (M.read_setAck _ _) (List.Subset.refl _) ?_
    exact fun _ => Or.inl (Or.inr (Or.inr (Or.inr hr)))

theorem sendInv_start (r : ρ) (heap : LinkRequestCtx) (p : Pending) :
    SendInv M (OneWay.start r heap p) where
  base := OneWay.base_start r heap p
  sending _ hc := by cases hc
  result _ _ ho := by cases ho

theorem sentIsRead_of_freshCopy {r : ρ} {heap : LinkRequestCtx} {p : Pending}
    {as : List OneWayAct} (hG : Along (oneWayStep M) (FreshCopy M) (OneWay.start r heap p) as)
    (h : exec (oneWayStep M) (OneWay.start r heap p) as = some x) : SentIsRead M x := by
  have hinv : SendInv M x :=
    exec_invariant (fun _ _ _ hi hg h => sendInv_step hi hg h) (sendInv_start r heap p) hG h
  exact hinv.result

end OneWay

end HpscRtems.Link
