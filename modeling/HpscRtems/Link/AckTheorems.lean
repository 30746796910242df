/-
HpscRtems.Link.AckTheorems — the assertion `tx_acked` of
`_link_request_send`.

The ACK and the reply arrive as the same event, and the event outlives the
call that waits for it, so a wake-up says nothing about `tx_acked` by
itself. The assertion holds in every run in which each post that the wait
can see is made with `tx_acked` set (`PostsAcked`), and a step that breaks
this is followed by a wake-up with `tx_acked` clear.
-/
import HpscRtems.Link.RequestTheorems

namespace HpscRtems.Link

open Machine Rtems

/-! ## §1 The assertion and its condition -/

/-- Whenever the receive of `_link_request_send` has reported the event,
`tx_acked` is set, and no call has failed the assertion. -/
def AssertHolds (s : LinkState) : Prop :=
  match s.req with
  | .running _ _ (.checkAck _ events) =>
    hasEvent events s.rctx.eventWait = true → s.rctx.txAcked = true
  | .running _ _ .assertFailed => False
  | _ => True

/-- The requester has cleared `tx_acked` and not yet been woken. -/
def Requester.awaitsAck : Requester → Bool
  | .running _ _ .write => true
  | .running _ _ (.waitAck _) => true
  | _ => false

/-- The requester is about to clear `tx_acked`. -/
def Requester.clears : Requester → Bool
  | .running _ _ .clearTxAcked => true
  | _ => false

/-- The requester waits for one of the events `ev`, sent to `id`. -/
def LinkState.hears (s : LinkState) (id : RtemsId) (ev : EventSet) : Bool :=
  id = s.rctx.tidRequester && hasEvent ev s.rctx.eventWait

/-- The step is the `rtems_event_send` of `link_ack` or `link_recv_reply`,
of the requester's event to the requester. -/
def Posts (s : LinkState) : Act → Bool
  | .ack =>
    match s.ack with
    | .post id ev => s.hears id ev
    | _ => false
  | .recvReply _ =>
    match s.recv with
    | .post id ev => s.hears id ev
    | _ => false
  | _ => false

/-- No event is left over when `tx_acked` is cleared, and from then to the
wake-up no event is posted before `link_ack` has set `tx_acked` again. -/
structure PostsAcked (s : LinkState) (a : Act) : Prop where
  fresh : a = .run → s.req.clears = true → s.notified = false
  posts : Posts s a = true → s.req.awaitsAck = true → s.rctx.txAcked = true

instance (s : LinkState) (a : Act) : Decidable (PostsAcked s a) :=
  decidable_of_iff
    ((a = .run → s.req.clears = true → s.notified = false) ∧
      (Posts s a = true → s.req.awaitsAck = true → s.rctx.txAcked = true))
    ⟨fun h => ⟨h.1, h.2⟩, fun h => ⟨h.fresh, h.posts⟩⟩

/-! ## §2 The condition is enough -/

/-- While the ACK is awaited, a pending event means that `tx_acked` is set. -/
structure AckInv (s : LinkState) : Prop where
  link : LinkInv s
  notified : s.req.awaitsAck = true → s.notified = true → s.rctx.txAcked = true
  holds : AssertHolds s

/-- Steps to a program point where nothing is awaited. -/
theorem AckInv.rest {s : LinkState} (hl : LinkInv s) (hw : s.req.awaitsAck = false)
    (hc : ∀ tid c pc, s.req = .running tid c pc →
      pc ≠ .assertFailed ∧ ∀ rc events, pc ≠ .checkAck rc events) : AckInv s where
  link := hl
  notified h := by rw [hw] at h; cases h
  holds := by
    unfold AssertHolds
    split
    · rename_i tid c rc events hr
      exact absurd rfl ((hc _ _ _ hr).2 rc events)
    · rename_i tid c hr
      exact absurd rfl (hc _ _ _ hr).1
    · trivial

theorem AckInv.sendReturns {s : LinkState} {tid : TaskId} {c : Call} {rc : Nat}
    (hl : LinkInv (s.sendReturns tid c rc)) : AckInv (s.sendReturns tid c rc) := by
  rcases s.sendReturns_req tid c rc with ⟨_, _, hr⟩ | ⟨_, _, hr⟩ | ⟨_, hr⟩
  · exact .rest hl (by rw [hr]; rfl) (by rw [hr]; rintro _ _ _ ⟨⟩)
  · exact .rest hl (by rw [hr]; rfl) (by rw [hr]; rintro _ _ _ ⟨⟩; simp)
  · exact .rest hl (by rw [hr]; rfl) (by rw [hr]; rintro _ _ _ ⟨⟩; simp)

/-- A delivery that posts nothing and does not clear `tx_acked`. -/
theorem AckInv.frame {s s' : LinkState} (hi : AckInv s) (hl : LinkInv s') (hr : s'.req = s.req)
    (hp : s'.pending = s.pending) (ht : s'.rctx.tidRequester = s.rctx.tidRequester)
    (he : s'.rctx.eventWait = s.rctx.eventWait)
    (ha : s.rctx.txAcked = true → s'.rctx.txAcked = true) : AckInv s' where
  link := hl
  notified hw hev := by
    unfold LinkState.notified at hev
    rw [hp, ht, he] at hev
    exact ha (hi.notified (hr ▸ hw) hev)
  holds := by
    have h := hi.holds
    unfold AssertHolds at h ⊢
    rw [hr, he]
    split <;> simp_all

/-- An `rtems_event_send` that meets the condition. -/
theorem AckInv.post {s s' : LinkState} {id : RtemsId} {ev : EventSet} (hi : AckInv s)
    (hl : LinkInv s') (hr : s'.req = s.req) (hx : s'.rctx = s.rctx)
    (hp : s'.pending = (s.post id ev).pending)
    (hw : s.hears id ev = true → s.req.awaitsAck = true → s.rctx.txAcked = true) :
    AckInv s' where
  link := hl
  notified h hn := by
    have hpost : s'.notified = (s.post id ev).notified := by
      unfold LinkState.notified
      rw [hp, hx, LinkState.post_rctx]
    rw [hpost, LinkState.notified_post, Bool.or_eq_true] at hn
    rw [hx]
    rcases hn with hn | hn
    · exact hi.notified (hr ▸ h) hn
    · exact hw hn (hr ▸ h)
  holds := by
    have h := hi.holds
    unfold AssertHolds at h ⊢
    rw [hr, hx]
    exact h

theorem ackInv_step {s s' : LinkState} {a : Act} (hi : AckInv s) (hg : PostsAcked s a)
    (h : step s a = some s') : AckInv s' := by
  have hl := linkInv_step hi.link h
  cases step_stepped h with
  | call tid c _ =>
    by_cases hc : c.isRequest = true
    · exact .rest hl (by simp [hc, Requester.awaitsAck]) (by simp [hc])
    · exact .rest hl (by simp [hc, Requester.awaitsAck]) (by simp [hc])
  | setReplySzRead _ => exact .rest hl rfl (by simp)
  | setReply _ => exact .rest hl rfl (by simp)
  | setReplySz _ => exact .rest hl rfl (by simp)
  | setTid _ => exact .rest hl rfl (by simp)
  | setEventWait _ => exact .rest hl rfl (by simp)
  | clearTxAcked hr =>
    refine ⟨hl, ?_, trivial⟩
    intro _ he
    have hf := hg.fresh rfl (by rw [hr]; rfl)
    exact absurd (hf.symm.trans he) (by simp)
  | writeFailed _ => exact .sendReturns hl
  | written hr _ =>
    refine ⟨hl, ?_, trivial⟩
    intro _ he
    exact hi.notified (by rw [hr]; rfl) he
  | wakeAck hr he =>
    refine ⟨hl, (fun hw => by cases hw), ?_⟩
    intro _
    refine hi.notified (by rw [hr]; rfl) ?_
    rwa [hi.link.notified_eq hr (by simp [Pc.rank])]
  | timeoutAck hr _ _ =>
    refine ⟨hl, (fun hw => by cases hw), ?_⟩
    intro hev
    rw [show (0 : EventSet) = 0#32 from rfl, hasEvent_zero] at hev
    cases hev
  | acked _ _ _ => exact .sendReturns hl
  | assertFailed hr he ha =>
    have hh := hi.holds
    simp only [AssertHolds, hr] at hh
    rw [hh he] at ha
    cases ha
  | ackTimedOut _ _ => exact .sendReturns hl
  | wakeReply _ _ => exact .rest hl rfl (by simp)
  | timeoutReply _ _ _ => exact .rest hl rfl (by simp)
  | replied _ _ => exact .rest hl rfl (by simp)
  | replyTimedOut _ _ => exact .rest hl rfl (by simp)
  | clearTid _ => exact .rest hl rfl (by simp)
  | ackSet _ => exact hi.frame hl rfl rfl rfl rfl (fun _ => rfl)
  | ackTest _ => exact hi.frame hl rfl rfl rfl rfl id
  | ackTid _ => exact hi.frame hl rfl rfl rfl rfl id
  | ackEvent _ => exact hi.frame hl rfl rfl rfl rfl id
  | ackSend ha => exact hi.post hl rfl rfl rfl fun hh => hg.posts (by simpa [Posts, ha] using hh)
  | recvStart n _ => exact hi.frame hl rfl rfl rfl rfl id
  | recvArgs n _ => exact hi.frame hl rfl rfl rfl rfl id
  | recvNull n _ => exact hi.frame hl rfl rfl rfl rfl id
  | recvStore n _ => exact hi.frame hl rfl rfl rfl rfl id
  | recvSize n _ => exact hi.frame hl rfl rfl rfl rfl id
  | recvTest n _ => exact hi.frame hl rfl rfl rfl rfl id
  | recvTid n _ => exact hi.frame hl rfl rfl rfl rfl id
  | recvEvent n _ => exact hi.frame hl rfl rfl rfl rfl id
  | recvSend n hs =>
    exact hi.post hl rfl rfl rfl fun hh => hg.posts (by simpa [Posts, hs] using hh)

/-! ## §3 The condition is needed -/

/-- With an event pending and `tx_acked` clear, the wake-up fails the assertion. -/
theorem not_assertHolds_of_waitAck {s : LinkState} {tid : TaskId} {c : Call} {rc : Nat}
    (hr : s.req = .running tid c (.waitAck rc))
    (he : hasEvent (s.pending tid) s.rctx.eventWait = true) (ha : s.rctx.txAcked = false) :
    ∃ t, exec step s [.wake] = some t ∧ ¬ AssertHolds t := by
  refine ⟨_, by simp [exec, step, hr, he, LinkState.afterReceive]; rfl, ?_⟩
  simp [AssertHolds, LinkState.events, he, ha]

theorem not_assertHolds_of_awaitsAck {s : LinkState} (hi : LinkInv s)
    (hw : s.req.awaitsAck = true) (he : s.notified = true) (ha : s.rctx.txAcked = false) :
    ∃ bs t, exec step s bs = some t ∧ ¬ AssertHolds t := by
  cases hr : s.req with
  | running tid c pc =>
    cases pc with
    | write =>
      rw [hi.notified_eq hr (by simp [Pc.rank])] at he
      obtain ⟨t, hx, hn⟩ :=
        not_assertHolds_of_waitAck (s := s.goto tid c (.waitAck 1)) rfl he ha
      have hstep : step s (.write 1) = some (s.goto tid c (.waitAck 1)) := by
        simp [step, hr]
      exact ⟨[.write 1, .wake], t, by rw [exec_cons _ hstep]; exact hx, hn⟩
    | waitAck rc =>
      rw [hi.notified_eq hr (by simp [Pc.rank])] at he
      obtain ⟨t, hx, hn⟩ := not_assertHolds_of_waitAck hr he ha
      exact ⟨[.wake], t, hx, hn⟩
    | _ => simp [hr, Requester.awaitsAck] at hw
  | _ => simp [hr, Requester.awaitsAck] at hw

/-- After a step that breaks the condition the requester runs into the
assertion. -/
theorem assert_fails_of_not_postsAcked {s s' : LinkState} {a : Act} (hi : LinkInv s)
    (h : step s a = some s') (hg : ¬ PostsAcked s a) :
    ∃ bs t, exec step s' bs = some t ∧ ¬ AssertHolds t := by
  have hl := linkInv_step hi h
  by_cases hf : a = .run → s.req.clears = true → s.notified = false
  · have hp : Posts s a = true ∧ s.req.awaitsAck = true ∧ s.rctx.txAcked = false := by
      by_contra hn
      refine hg ⟨hf, fun h1 h2 => ?_⟩
      by_contra h3
      exact hn ⟨h1, h2, by simpa using h3⟩
    obtain ⟨hpost, hw, ha⟩ := hp
    obtain ⟨id, ev, hhears, hsent⟩ : ∃ id ev, s.hears id ev = true ∧
        s'.pending = (s.post id ev).pending ∧ s'.req = s.req ∧ s'.rctx = s.rctx := by
      cases step_stepped h with
      | ackSend hk => exact ⟨_, _, by simpa [Posts, hk] using hpost, rfl, rfl, rfl⟩
      | recvSend n hk => exact ⟨_, _, by simpa [Posts, hk] using hpost, rfl, rfl, rfl⟩
      | _ => simp_all [Posts]
    obtain ⟨hpend, hreq, hx⟩ := hsent
    have hnot : s'.notified = true := by
      have heq : s'.notified = (s.post id ev).notified := by
        unfold LinkState.notified
        rw [hpend, hx, LinkState.post_rctx]
      rw [heq, LinkState.notified_post]
      exact Bool.or_eq_true_iff.mpr (.inr hhears)
    exact not_assertHolds_of_awaitsAck hl (by rwa [hreq]) hnot (by rwa [hx])
  · push Not at hf
    obtain ⟨rfl, hc, he⟩ := hf
    cases hr : s.req with
    | running tid c pc =>
      have hpc : pc = .clearTxAcked := by
        cases pc <;> simp_all [Requester.clears]
      subst hpc
      simp only [step, hr, LinkState.runStep, Option.some.injEq] at h
      subst h
      exact not_assertHolds_of_awaitsAck hl rfl (Bool.not_eq_false _ ▸ he) rfl
    | _ => simp [hr, Requester.clears] at hc

/-! ## §4 Runs -/

theorem ackInv_connected (heap : LinkRequestCtx) (p : Pending) :
    AckInv (.connected heap p) :=
  .rest (linkInv_connected heap p) rfl (fun _ _ _ h => by cases h)

/-- **The assertion holds** in every run all of whose posts are
acknowledged, and a run that breaks this goes on to a wake-up with
`tx_acked` clear. -/
theorem assert_holds_of_postsAcked (heap : LinkRequestCtx) (p : Pending) (as : List Act) :
    (Along step PostsAcked (.connected heap p) as →
      ∀ s, exec step (.connected heap p) as = some s → AssertHolds s) ∧
    ∀ s a s', exec step (.connected heap p) as = some s → step s a = some s' →
      ¬ PostsAcked s a → ∃ bs t, exec step s' bs = some t ∧ ¬ AssertHolds t := by
  constructor
  · intro hG s h
    have hinv : AckInv s :=
      exec_invariant (fun _ _ _ hi hg h => ackInv_step hi hg h) (ackInv_connected heap p) hG h
    exact hinv.holds
  · intro s a s' hs h hg
    exact assert_fails_of_not_postsAcked (linkInv_exec (linkInv_connected heap p) hs) h hg

/-- A request whose reply overtakes its ACK: the receive poll task handles
the answer before the ACK poll task has seen the ACK. -/
def replyOvertakesAck : List Act :=
  [.call 1 (.request 10 [] 64 10 (some 4096) 64 0),
   .run, .run, .run, .run, .run, .run, .write 64,
   .recvReply 64, .recvReply 64, .recvReply 64, .recvReply 64, .recvReply 64, .recvReply 64,
   .recvReply 64, .recvReply 64, .wake, .run]

/-- The assertion fails when the reply overtakes the ACK. -/
theorem reply_overtaking_fails_assert :
    ¬ ∀ (heap : LinkRequestCtx) (p : Pending) (as : List Act) (s : LinkState),
      exec step (.connected heap p) as = some s → AssertHolds s := by
  intro hall
  have hrun : (exec step (.connected ⟨0, 0, false, none, 0, 0⟩ (fun _ => 0))
      replyOvertakesAck).map (fun s => s.req) =
      some (.running ⟨1, by decide⟩ (.request 10 [] 64 10 (some 4096) 64 0) .assertFailed) := by
    decide
  obtain ⟨s, hs, hr⟩ := Option.map_eq_some_iff.mp hrun
  have h := hall _ _ _ s hs
  simp only [AssertHolds, hr] at h

end HpscRtems.Link
