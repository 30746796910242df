/-
HpscRtems.Link.ReplyTheorems — where `link_recv_reply` stores a message.

`link_recv_reply` takes `rctx.reply` and `rctx.reply_sz` as it finds them,
and no exit of `link_request` takes them back. So a store goes to a live
buffer when `link_recv_reply` was entered at the right moment and the call
was patient enough, and not otherwise: `EnteredLive` names that moment,
`stores_live_of_enteredLive` gives the store, and a step that breaks the
condition is followed by a bad store with no further step of the requester.
-/
import HpscRtems.Link.RequestTheorems

namespace HpscRtems.Link

open Machine Rtems

/-! ## §1 Live destinations -/

/-- A `link_request` in progress has the buffer `p`, not `NULL`, of `sz` bytes. -/
def Live (r : Requester) (p : Ptr) (sz : Nat) : Prop :=
  ∃ tid c pc, r = .running tid c pc ∧ c.isRequest = true ∧ c.rbuf = p ∧ c.rsz = sz ∧ p ≠ none

instance : ∀ r p sz, Decidable (Live r p sz)
  | .running tid c pc, p, sz =>
    decidable_of_iff (c.isRequest = true ∧ c.rbuf = p ∧ c.rsz = sz ∧ p ≠ none)
      ⟨fun h => ⟨tid, c, pc, rfl, h⟩, fun ⟨_, _, _, hr, h⟩ => by cases hr; exact h⟩
  | .idle, _, _ => isFalse (by rintro ⟨_, _, _, hr, _⟩; cases hr)
  | .returned _ _, _, _ => isFalse (by rintro ⟨_, _, _, hr, _⟩; cases hr)

/-- If the step is the store of `link_recv_reply`, its destination is live. -/
def StoresLive (s : LinkState) (a : Act) : Prop :=
  ∀ n p sz, a = .recvReply n → s.recv = .haveArgs p sz → Live s.req p sz

/-- The step ends the call in progress. -/
def Returns (s : LinkState) (a : Act) : Prop :=
  s.req.isRunning = true ∧ (step s a).any (fun s' => !s'.req.isRunning) = true

/-- `link_recv_reply` has taken `rctx.reply` and not stored yet. -/
def RecvPc.holdsReply : RecvPc → Bool
  | .haveReply _ => true
  | .haveArgs _ _ => true
  | _ => false

/-- `link_recv_reply` is entered only when `rctx` holds the reply buffer of
a `link_request` in progress, and that call does not return between the
entry and the store. -/
structure EnteredLive (s : LinkState) (a : Act) : Prop where
  entry : a.isRecvReply = true → s.recv = .idle → Live s.req s.rctx.reply s.rctx.replySz
  stays : Returns s a → s.recv.holdsReply = false

instance (s : LinkState) (a : Act) : Decidable (EnteredLive s a) :=
  have : Decidable (Returns s a) := inferInstanceAs (Decidable (_ ∧ _))
  decidable_of_iff
    ((a.isRecvReply = true → s.recv = .idle → Live s.req s.rctx.reply s.rctx.replySz) ∧
      (Returns s a → s.recv.holdsReply = false))
    ⟨fun h => ⟨h.1, h.2⟩, fun h => ⟨h.entry, h.stays⟩⟩

/-! ## §2 The condition is enough -/

/-- What `link_recv_reply` holds before the store is live. -/
def HoldsLive (s : LinkState) : Prop :=
  match s.recv with
  | .haveReply p => Live s.req p s.rctx.replySz
  | .haveArgs p sz => Live s.req p sz
  | _ => True

/-- A step of the requester that does not end the call keeps the call, and
leaves `link_recv_reply` where it is. -/
theorem requester_step {s s' : LinkState} {a : Act} {tid : TaskId} {c : Call} {pc : Pc}
    (ha : a.isRecvReply = false) (hr : s.req = .running tid c pc) (h : step s a = some s')
    (hret : ¬ Returns s a) :
    s'.recv = s.recv ∧ (s'.rctx.replySz = s.rctx.replySz ∨ s'.rctx.replySz = c.rsz) ∧
      ∃ pc', s'.req = .running tid c pc' := by
  have hrun : s'.req.isRunning = true := by
    by_contra hn
    exact hret ⟨by rw [hr]; rfl, by simpa [h] using hn⟩
  have hsend : ∀ rc, (s.sendReturns tid c rc).req.isRunning = true →
      ∃ pc', (s.sendReturns tid c rc).req = .running tid c pc' := by
    intro rc hq
    rcases s.sendReturns_req tid c rc with ⟨_, _, h⟩ | ⟨_, _, h⟩ | ⟨_, h⟩
    · rw [h] at hq; cases hq
    · exact ⟨_, h⟩
    · exact ⟨_, h⟩
  cases step_stepped h with
  | call tid' c' hq => rw [hr] at hq; cases hq
  | recvStart n _ => cases ha
  | recvArgs n _ => cases ha
  | recvNull n _ => cases ha
  | recvStore n _ => cases ha
  | recvSize n _ => cases ha
  | recvTest n _ => cases ha
  | recvTid n _ => cases ha
  | recvEvent n _ => cases ha
  | recvSend n _ => cases ha
  | ackSet _ => exact ⟨rfl, Or.inl rfl, pc, hr⟩
  | ackTest _ => exact ⟨rfl, Or.inl rfl, pc, hr⟩
  | ackTid _ => exact ⟨rfl, Or.inl rfl, pc, hr⟩
  | ackEvent _ => exact ⟨rfl, Or.inl rfl, pc, hr⟩
  | ackSend _ => exact ⟨rfl, Or.inl rfl, pc, hr⟩
  | clearTid hq => cases hrun
  | writeFailed hq =>
    rw [hr] at hq; cases hq
    exact ⟨by simp, Or.inl (by simp), hsend _ hrun⟩
  | acked hq _ _ =>
    rw [hr] at hq; cases hq
    exact ⟨by simp, Or.inl (by simp), hsend _ hrun⟩
  | ackTimedOut hq _ =>
    rw [hr] at hq; cases hq
    exact ⟨by simp, Or.inl (by simp), hsend _ hrun⟩
  | setReplySz hq => rw [hr] at hq; cases hq; exact ⟨rfl, Or.inr rfl, _, rfl⟩
  | setReplySzRead hq => rw [hr] at hq; cases hq; exact ⟨rfl, Or.inl rfl, _, rfl⟩
  | setReply hq => rw [hr] at hq; cases hq; exact ⟨rfl, Or.inl rfl, _, rfl⟩
  | setTid hq => rw [hr] at hq; cases hq; exact ⟨rfl, Or.inl rfl, _, rfl⟩
  | setEventWait hq => rw [hr] at hq; cases hq; exact ⟨rfl, Or.inl rfl, _, rfl⟩
  | clearTxAcked hq => rw [hr] at hq; cases hq; exact ⟨rfl, Or.inl rfl, _, rfl⟩
  | written hq _ => rw [hr] at hq; cases hq; exact ⟨rfl, Or.inl rfl, _, rfl⟩
  | wakeAck hq _ => rw [hr] at hq; cases hq; exact ⟨rfl, Or.inl rfl, _, rfl⟩
  | timeoutAck hq _ _ => rw [hr] at hq; cases hq; exact ⟨rfl, Or.inl rfl, _, rfl⟩
  | assertFailed hq _ _ => rw [hr] at hq; cases hq; exact ⟨rfl, Or.inl rfl, _, rfl⟩
  | wakeReply hq _ => rw [hr] at hq; cases hq; exact ⟨rfl, Or.inl rfl, _, rfl⟩
  | timeoutReply hq _ _ => rw [hr] at hq; cases hq; exact ⟨rfl, Or.inl rfl, _, rfl⟩
  | replied hq _ => rw [hr] at hq; cases hq; exact ⟨rfl, Or.inl rfl, _, rfl⟩
  | replyTimedOut hq _ => rw [hr] at hq; cases hq; exact ⟨rfl, Or.inl rfl, _, rfl⟩

/-- The steps of `link_recv_reply` keep what it holds live. -/
theorem holdsLive_recv {s s' : LinkState} {n : Nat} (hi : HoldsLive s)
    (hg : EnteredLive s (.recvReply n)) (h : step s (.recvReply n) = some s') :
    HoldsLive s' := by
  cases step_stepped h with
  | recvStart _ hs => exact hg.entry rfl hs
  | recvArgs _ hs =>
    simp only [HoldsLive, hs] at hi
    exact hi
  | recvNull _ _ => trivial
  | recvStore _ _ => trivial
  | recvSize _ _ => trivial
  | recvTest _ _ =>
    by_cases ht : s.rctx.tidRequester = idNone <;> simp [HoldsLive, ht]
  | recvTid _ _ => trivial
  | recvEvent _ _ => trivial
  | recvSend _ _ => trivial

theorem holdsLive_step {s s' : LinkState} {a : Act} (hi : HoldsLive s) (hg : EnteredLive s a)
    (h : step s a = some s') : HoldsLive s' := by
  by_cases ha : ∃ n, a = .recvReply n
  · obtain ⟨n, rfl⟩ := ha
    exact holdsLive_recv hi hg h
  have ha' : a.isRecvReply = false := by
    cases a <;> first | rfl | exact absurd ⟨_, rfl⟩ ha
  have hrecv : s'.recv = s.recv := step_recv h ha'
  cases hs : s.recv with
  | haveReply p =>
    obtain ⟨tid, c, pc, hr, hc, hp, hsz, hnn⟩ : Live s.req p s.rctx.replySz := by
      simpa only [HoldsLive, hs] using hi
    have hret : ¬ Returns s a := fun hq => by simpa [hs, RecvPc.holdsReply] using hg.stays hq
    obtain ⟨_, hsz', pc', hr'⟩ := requester_step ha' hr h hret
    have hsz'' : s'.rctx.replySz = c.rsz := hsz'.elim (fun e => e.trans hsz.symm) id
    simp only [HoldsLive, hrecv, hs]
    exact ⟨tid, c, pc', hr', hc, hp, hsz''.symm, hnn⟩
  | haveArgs p sz =>
    obtain ⟨tid, c, pc, hr, hc, hp, hsz, hnn⟩ : Live s.req p sz := by
      simpa only [HoldsLive, hs] using hi
    have hret : ¬ Returns s a := fun hq => by simpa [hs, RecvPc.holdsReply] using hg.stays hq
    obtain ⟨_, _, pc', hr'⟩ := requester_step ha' hr h hret
    simp only [HoldsLive, hrecv, hs]
    exact ⟨tid, c, pc', hr', hc, hp, hsz, hnn⟩
  | _ => simp [HoldsLive, hrecv, hs]

theorem storesLive_of_holdsLive {s : LinkState} {a : Act} (hi : HoldsLive s) :
    StoresLive s a := by
  intro n p sz _ hs
  simpa only [HoldsLive, hs] using hi

/-! ## §3 The condition is needed -/

/-- Nothing stands between a `link_recv_reply` that holds its arguments and
the store. -/
theorem bad_store_of_haveArgs {s : LinkState} {p : Ptr} {sz : Nat} (hs : s.recv = .haveArgs p sz)
    (hd : ¬ Live s.req p sz) : ¬ Along step StoresLive s [.recvReply 0] :=
  fun h => hd (h.1 0 p sz rfl hs)

theorem bad_store_of_haveReply {s : LinkState} {p : Ptr} (hs : s.recv = .haveReply p)
    (hd : ¬ Live s.req p s.rctx.replySz) :
    ¬ Along step StoresLive s [.recvReply 0, .recvReply 0] := by
  intro h
  have hstep : step s (.recvReply 0) = some { s with recv := .haveArgs p s.rctx.replySz } := by
    simp [step, LinkState.linkRecvReply, hs]
  have hrest := h.2 _ hstep
  exact bad_store_of_haveArgs (s := { s with recv := .haveArgs p s.rctx.replySz }) rfl hd hrest

theorem not_live_of_not_running {r : Requester} {p : Ptr} {sz : Nat}
    (h : r.isRunning = false) : ¬ Live r p sz := by
  intro hk
  obtain ⟨tid, c, pc, rfl, _⟩ := hk
  cases h

/-- After a step that breaks the condition, `link_recv_reply` alone makes a
store into a dead buffer. -/
theorem bad_store_of_not_enteredLive {s s' : LinkState} {a : Act} (h : step s a = some s')
    (hg : ¬ EnteredLive s a) : ∃ bs, ¬ Along step StoresLive s' bs := by
  by_cases hstay : Returns s a → s.recv.holdsReply = false
  · have hentry : a.isRecvReply = true ∧ s.recv = .idle ∧
        ¬ Live s.req s.rctx.reply s.rctx.replySz := by
      by_contra hn
      push Not at hn
      exact hg ⟨hn, hstay⟩
    obtain ⟨ha, hs, hd⟩ := hentry
    cases a with
    | recvReply n =>
      simp only [step, LinkState.linkRecvReply, hs, Option.some.injEq] at h
      subst h
      exact ⟨_, bad_store_of_haveReply rfl hd⟩
    | _ => cases ha
  · push Not at hstay
    obtain ⟨⟨hrun, hend⟩, hs⟩ := hstay
    rw [h, Option.any_some, Bool.not_eq_true'] at hend
    have ha : a.isRecvReply = false := by
      cases a with
      | recvReply n => rw [recvReply_req h, hrun] at hend; cases hend
      | _ => rfl
    have hrecv : s'.recv = s.recv := step_recv h ha
    cases hp : s.recv with
    | haveReply p =>
      exact ⟨_, bad_store_of_haveReply (hrecv.trans hp) (not_live_of_not_running hend)⟩
    | haveArgs p sz =>
      exact ⟨_, bad_store_of_haveArgs (hrecv.trans hp) (not_live_of_not_running hend)⟩
    | _ => simp [hp, RecvPc.holdsReply] at hs

/-! ## §4 Runs -/

/-- A `link_request` that got its ACK and then the reply. -/
def promptReply : List Act :=
  [.call 1 (.request 10 [] 64 10 (some 4096) 64 0),
   .run, .run, .run, .run, .run, .run, .write 64, .ack, .ack, .ack, .ack, .ack,
   .wake, .run, .recvReply 64, .recvReply 64, .recvReply 64, .recvReply 64, .recvReply 64,
   .recvReply 64, .recvReply 64, .recvReply 64, .wake, .run, .run]

/-- A `link_request` that got its ACK, gave up on the reply and returned
-2; then the reply comes, up to the point of the store. -/
def lateReply : List Act :=
  [.call 1 (.request 10 [] 64 10 (some 4096) 64 0),
   .run, .run, .run, .run, .run, .run, .write 64, .ack, .ack, .ack, .ack, .ack,
   .wake, .run, .timeout, .run, .run, .recvReply 64, .recvReply 64]

end HpscRtems.Link
