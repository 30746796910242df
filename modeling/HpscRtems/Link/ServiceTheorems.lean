/-
HpscRtems.Link.ServiceTheorems — whose reply a request returns.

Messages carry no number. A reply is taken for the reply to the call in
progress, whichever that is, so what counts is what is outstanding when a
call begins. When that is nothing, everything that comes up during the
call carries the number of the call (`Newest`), and what is stored into
its buffer are answers to its own request.
-/
import HpscRtems.Link.Service

namespace HpscRtems.Link

open Machine Rtems

variable {ρ : Type}

/-! ## §1 Inversion -/

/-- The steps of one end's way out. -/
inductive OutMoved (M : Medium ρ) (o : Outgoing ρ) : OutAct → Outgoing ρ → Prop
  | task {a l} (ha : a.ofTask = true) (hs : step o.link a = some l) :
      OutMoved M o (.task a) { o with link := l }
  | copy {tid c r} (hr : o.link.req = .running tid c .write) (hc : o.copied = false)
      (hw : M.write o.medium (bufMem c.buf) c.sz = some r) :
      OutMoved M o .copy { o with medium := r, copied := true }
  | setNew {tid c l} (hr : o.link.req = .running tid c .write) (hc : o.copied = true)
      (hs : step o.link (.write c.sz) = some l) :
      OutMoved M o .setNew { o with link := l, medium := M.setNew o.medium true, copied := false }
  | ackPoll (ha : o.ack = .poll) (hb : M.isAck o.medium = true) :
      OutMoved M o .ackPoll { o with ack := .inLinkAck }
  | linkAck (ha : o.ack = .inLinkAck) (k : AckTask) :
      OutMoved M o .linkAck { o with link := o.link.linkAck, ack := k }
  | clearAck (ha : o.ack = .clearAck) :
      OutMoved M o .clearAck { o with medium := M.setAck o.medium false, ack := .poll }

theorem outStep_moved {M : Medium ρ} {o o' : Outgoing ρ} {a : OutAct}
    (h : outStep M o a = some o') : OutMoved M o a o' := by
  cases a with
  | task a =>
    simp only [outStep] at h
    split at h
    · obtain ⟨l, hl, rfl⟩ := Option.map_eq_some_iff.mp h
      exact .task ‹_› hl
    · cases h
  | copy =>
    simp only [outStep] at h
    split at h
    · obtain ⟨r, hw, rfl⟩ := Option.map_eq_some_iff.mp h
      exact .copy ‹_› ‹_› hw
    · cases h
  | setNew =>
    simp only [outStep] at h
    split at h
    · obtain ⟨l, hl, rfl⟩ := Option.map_eq_some_iff.mp h
      exact .setNew ‹_› ‹_› hl
    · cases h
  | ackPoll =>
    simp only [outStep] at h
    split at h <;> cases h
    exact .ackPoll (And.left ‹_›) (And.right ‹_›)
  | linkAck =>
    simp only [outStep] at h
    split at h <;> cases h
    exact .linkAck ‹_› _
  | clearAck =>
    simp only [outStep] at h
    split at h <;> cases h
    exact .clearAck ‹_›

/-- Outside `link->write` the data and the indication stay. -/
theorem OutMoved.medium {M : Medium ρ} {o o' : Outgoing ρ} {a : OutAct} (h : OutMoved M o a o')
    (hcopy : a ≠ .copy) (hnew : a ≠ .setNew) :
    o'.copied = o.copied ∧ M.isNew o'.medium = M.isNew o.medium ∧
      M.read o'.medium = M.read o.medium := by
  cases h with
  | task _ _ => exact ⟨rfl, rfl, rfl⟩
  | copy _ _ _ => exact absurd rfl hcopy
  | setNew _ _ _ => exact absurd rfl hnew
  | ackPoll _ _ => exact ⟨rfl, rfl, rfl⟩
  | linkAck _ _ => exact ⟨rfl, rfl, rfl⟩
  | clearAck _ => exact ⟨rfl, M.isNew_setAck _ _, M.read_setAck _ _⟩

/-- A task that has copied stays in `link->write` until it sets the
indication. -/
theorem OutMoved.copying {M : Medium ρ} {o o' : Outgoing ρ} {a : OutAct} (h : OutMoved M o a o')
    (hi : o.copied = true → ∃ tid c, o.link.req = .running tid c .write)
    (hc : o'.copied = true) : ∃ tid c, o'.link.req = .running tid c .write := by
  cases h with
  | @task a l ha hs =>
    obtain ⟨tid, c, hw⟩ := hi hc
    cases a with
    | call tid' c' => simp [step, hw] at hs
    | run => simp [step, hw, LinkState.runStep] at hs
    | wake => simp [step, hw, LinkState.afterReceive] at hs
    | timeout => simp [step, hw, LinkState.afterReceive] at hs
    | _ => cases ha
  | copy hr _ _ => exact ⟨_, _, hr⟩
  | setNew _ _ _ => cases hc
  | ackPoll _ _ => exact hi hc
  | linkAck _ k =>
    obtain ⟨tid, c, hw⟩ := hi hc
    exact ⟨tid, c, (ack_req rfl).trans hw⟩
  | clearAck _ => exact hi hc

/-! ## §2 The invariant -/

/-- `rctx` has the arguments of the latest call, if there was one. -/
def Requester.prepared : Requester → Bool
  | .idle => true
  | .running _ _ pc => pc.rank = 6
  | .returned _ _ => true

/-- `link_recv_reply` is before its `link->read`. -/
def RecvPc.beforeRead : RecvPc → Bool
  | .idle => true
  | .haveReply _ => true
  | .haveArgs _ _ => true
  | _ => false

/-- An event send is after the read. -/
theorem RecvPc.not_beforeRead {pc : RecvPc} (h : pc.sending = true) : pc.beforeRead = false := by
  cases pc <;> first | rfl | cases h

namespace Service

variable {P : ReplyMedium ρ} {x x' : Service ρ} {a : ServiceAct}

/-- The buffer of the latest call has `k` bytes of an answer to it. -/
def Stored (P : ReplyMedium ρ) (x : Service ρ) (k : Nat) : Prop :=
  ∃ q m, x.client.link.rctx.reply = some q ∧ k = P.readSize x.client.link.rctx.replySz ∧
    (x.calls, m) ∈ x.answers ∧ ∀ i, i < k → x.mem (q + i) = m.toMem i

/-- The client is going to read the reply medium. -/
def WillRead (x : Service ρ) : Prop :=
  x.reply = .inRecvReply ∧ x.client.link.recv.beforeRead = true

/-- All that is outstanding belongs to the latest call. -/
structure Newest (P : ReplyMedium ρ) (x : Service ρ) : Prop where
  request : x.client.copied = true ∨ P.isNew x.client.medium = true ∨ x.cmd = .read →
    x.slot = x.calls
  queue : ∀ e ∈ x.queue, e.1 = x.calls
  holding : ∀ t, x.holding = some t → t = x.calls
  /-- A reply is copied while its command is held. -/
  copied : x.server.copied = true → x.holding.isSome = true
  reply : x.server.copied = true ∨ P.isNew x.server.medium = true ∨ x.WillRead →
    0 < x.calls → (x.calls, P.read x.server.medium) ∈ x.answers

/-- What `link_recv_reply` has taken is of the latest call. -/
def Delivery (P : ReplyMedium ρ) (x : Service ρ) : Prop :=
  match x.reply, x.client.link.recv with
  | .poll, r => r = .idle
  | .inRecvReply, .haveReply p => p = x.client.link.rctx.reply
  | .inRecvReply, .haveArgs p sz =>
    p = x.client.link.rctx.reply ∧ sz = x.client.link.rctx.replySz
  | .inRecvReply, .haveRead k => 0 < x.calls → x.Stored P k
  | .inRecvReply, _ => True
  | .clearNew n, .haveArgs (some _) _ => 0 < x.calls → x.Stored P n
  | .setAck n, .haveArgs (some _) _ => 0 < x.calls → x.Stored P n
  | _, _ => False

structure ReplyInv (P : ReplyMedium ρ) (x : Service ρ) : Prop where
  link : LinkInv x.client.link
  requests : ∀ c, x.client.link.req.call? = some c → c.isRequest = true
  counted : ∀ c, x.client.link.req.call? = some c → 0 < x.calls
  copying : x.client.copied = true → ∃ tid c, x.client.link.req = .running tid c .write
  serverCopying : x.server.copied = true → ∃ tid c, x.server.link.req = .running tid c .write
  armed : x.Outstanding P → x.client.link.req.prepared = true
  newest : Newest P x
  delivery : Delivery P x
  /-- `rctx.reply_sz_read` is zero until a reply of this call is stored. -/
  value : ∀ tid c pc, x.client.link.req = .running tid c pc → 1 ≤ pc.rank →
    x.client.link.rctx.replySzRead = 0 ∨
      (pc.rank = 6 ∧ x.Stored P x.client.link.rctx.replySzRead)
  result : ∀ c rc, x.client.link.req.outcome = some (c, rc) → 0 < rc →
    x.client.link.rctx.reply = c.rbuf ∧ x.Stored P rc.toNat

theorem outstanding_of_holding (h : x.holding.isSome = true) : x.Outstanding P :=
  Or.inr (Or.inr (Or.inr (Or.inl h)))

theorem outstanding_of_isNew (h : P.isNew x.server.medium = true) : x.Outstanding P :=
  Or.inr (Or.inr (Or.inr (Or.inr (Or.inl h))))

theorem outstanding_of_undelivered (h : x.Undelivered) : x.Outstanding P :=
  Or.inr (Or.inr (Or.inr (Or.inr (Or.inr h))))

/-! ## §3 The client's task -/

/-- Where nothing is outstanding, no delivery has taken anything. -/
theorem delivery_of_not_outstanding (h : ¬ x.Outstanding P) (hd : Delivery P x) :
    x.reply = .poll ∧ x.client.link.recv = .idle ∨
      x.reply = .inRecvReply ∧
        (x.client.link.recv = .test ∨ x.client.link.recv.sending = true) := by
  have hun : ¬ x.Undelivered := fun hu => h (outstanding_of_undelivered hu)
  unfold Delivery at hd
  unfold Undelivered at hun
  cases hr : x.reply <;> cases hl : x.client.link.recv <;> simp_all [RecvPc.sending]

/-- Nothing taken is of the latest call, whichever that is. -/
theorem delivery_of_idle (h : x.reply = .poll ∧ x.client.link.recv = .idle ∨
    x.reply = .inRecvReply ∧
      (x.client.link.recv = .test ∨ x.client.link.recv.sending = true)) : Delivery P x := by
  unfold Delivery
  cases hr : x.reply <;> cases hl : x.client.link.recv <;> simp_all [RecvPc.sending]

/-- A call begins where nothing is outstanding. -/
theorem replyInv_call {tid : TaskId} {c : Call} (hi : ReplyInv P x) (hn : ¬ x.Outstanding P)
    (hc : c.isRequest = true) (hr : x.client.link.req.isRunning = false)
    (hl : LinkInv (x.client.link.goto tid c .setReplySzRead)) :
    ReplyInv P { x with
      client.link := x.client.link.goto tid c .setReplySzRead, calls := x.calls + 1 } := by
  have hcop : x.client.copied = false := by
    by_contra hk
    obtain ⟨tid', c', hw⟩ := hi.copying (by simpa using hk)
    rw [hw] at hr
    cases hr
  have hscop : x.server.copied = false := by
    by_contra hk
    exact hn (outstanding_of_holding (hi.newest.copied (by simpa using hk)))
  have hnone : x.holding = none := by
    by_contra hk
    exact hn (outstanding_of_holding (Option.isSome_iff_ne_none.mpr hk))
  have hd := delivery_of_not_outstanding hn hi.delivery
  have hnew : P.isNew x.server.medium = false := by
    by_contra hk
    exact hn (outstanding_of_isNew (by simpa using hk))
  have hquiet : ¬ ({ x with
      client.link := x.client.link.goto tid c .setReplySzRead, calls := x.calls + 1 } :
      Service ρ).WillRead := by
    intro hw
    have h1 : x.reply = .inRecvReply := hw.1
    have h2 : x.client.link.recv.beforeRead = true := hw.2
    rcases hd with ⟨h3, _⟩ | ⟨_, h3 | h3⟩
    · rw [h1] at h3; cases h3
    · rw [h3] at h2; cases h2
    · rw [RecvPc.not_beforeRead h3] at h2; cases h2
  constructor
  case link => exact hl
  case requests =>
    intro c' hc'
    cases hc'
    exact hc
  case counted => exact fun _ _ => Nat.succ_pos _
  case copying => exact fun hk => absurd (hcop.symm.trans hk) (by simp)
  case serverCopying => exact hi.serverCopying
  case armed => exact fun ho => absurd ho hn
  case newest =>
    constructor
    case request =>
      intro hk
      rcases hk with hk | hk | hk
      · exact absurd (hcop.symm.trans hk) (by simp)
      · exact (hn (Or.inl hk)).elim
      · exact (hn (Or.inr (Or.inl hk))).elim
    case queue =>
      intro e he
      have hq : x.queue = [] := by
        by_contra hk
        exact hn (by simp [Outstanding, hk])
      simp [hq] at he
    case holding => exact fun t ht => absurd (hnone.symm.trans ht) (by simp)
    case copied => exact fun hk => absurd (hscop.symm.trans hk) (by simp)
    case reply =>
      intro hk
      rcases hk with hk | hk | hk
      · exact absurd (hscop.symm.trans hk) (by simp)
      · exact absurd (hnew.symm.trans hk) (by simp)
      · exact absurd hk hquiet
  case delivery => exact delivery_of_idle hd
  case value =>
    intro tid' c' pc' h1 h2
    cases h1
    cases h2
  case result =>
    intro c' rc' ho
    cases ho

/-- The client's way out moves within a call. -/
theorem ReplyInv.moves (hi : ReplyInv P x) (o : Outgoing ρ) (slot : Nat)
    (hlink : LinkInv o.link) (hcall : o.link.req.call? = x.client.link.req.call?)
    (hrecv : o.link.recv = x.client.link.recv)
    (hbuf : o.link.rctx.reply = x.client.link.rctx.reply ∧
      o.link.rctx.replySz = x.client.link.rctx.replySz ∨ ¬ x.Outstanding P)
    (hprep : x.client.link.req.prepared = true → o.link.req.prepared = true)
    (hcopy : o.copied = true → ∃ tid c, o.link.req = .running tid c .write)
    (hnew : P.isNew o.medium = true → P.isNew x.client.medium = true ∨ o.link.req.prepared = true)
    (hslot : o.copied = true ∨ P.isNew o.medium = true ∨ x.cmd = .read → slot = x.calls)
    (hval : ∀ tid c pc, o.link.req = .running tid c pc → 1 ≤ pc.rank →
      o.link.rctx.replySzRead = 0 ∨
        (pc.rank = 6 ∧ Stored P { x with client := o, slot := slot } o.link.rctx.replySzRead))
    (hres : ∀ c rc, o.link.req.outcome = some (c, rc) → 0 < rc →
      o.link.rctx.reply = c.rbuf ∧ Stored P { x with client := o, slot := slot } rc.toNat) :
    ReplyInv P { x with client := o, slot := slot } where
  link := hlink
  requests c hc := hi.requests c (hcall ▸ hc)
  counted c hc := hi.counted c (hcall ▸ hc)
  copying := hcopy
  serverCopying := hi.serverCopying
  armed ho := by
    have hout : P.isNew o.medium = true ∨ x.Outstanding P := by
      rcases ho with ho | ho | ho | ho | ho | ⟨ho, hrest⟩
      · exact Or.inl ho
      · exact Or.inr (Or.inr (Or.inl ho))
      · exact Or.inr (Or.inr (Or.inr (Or.inl ho)))
      · exact Or.inr (Or.inr (Or.inr (Or.inr (Or.inl ho))))
      · exact Or.inr (Or.inr (Or.inr (Or.inr (Or.inr (Or.inl ho)))))
      · have hun : x.Undelivered := ⟨ho, by rw [← hrecv]; exact hrest⟩
        exact Or.inr (Or.inr (Or.inr (Or.inr (Or.inr (Or.inr hun)))))
    rcases hout with h | h
    · rcases hnew h with h' | h'
      · exact hprep (hi.armed (Or.inl h'))
      · exact h'
    · exact hprep (hi.armed h)
  newest :=
    ⟨hslot, hi.newest.queue, hi.newest.holding, hi.newest.copied, fun hk => hi.newest.reply
      (hk.imp_right (Or.imp_right fun hw => ⟨hw.1, by rw [← hrecv]; exact hw.2⟩))⟩
  delivery := by
    have hd := hi.delivery
    rcases hbuf with ⟨h1, h2⟩ | hn
    · have hst : ∀ k, Stored P { x with client := o, slot := slot } k ↔ x.Stored P k := by
        intro k
        simp only [Stored, h1, h2]
      unfold Delivery at hd ⊢
      simp only [hrecv, h1, h2, hst]
      exact hd
    · have hidle := delivery_of_not_outstanding hn hd
      rw [← hrecv] at hidle
      exact delivery_of_idle hidle
  value := hval
  result := hres

theorem ReplyInv.not_copied {tid : TaskId} {c : Call} {pc : Pc} (hi : ReplyInv P x)
    (hr : x.client.link.req = .running tid c pc) (hpc : pc ≠ .write) : x.client.copied = false := by
  by_contra hk
  obtain ⟨tid', c', hw⟩ := hi.copying (by simpa using hk)
  rw [hr] at hw
  cases hw
  exact hpc rfl

/-- A statement of the call in progress. -/
theorem ReplyInv.statement {l : LinkState} {tid : TaskId} {c : Call} {pc : Pc} (hi : ReplyInv P x)
    (hr : x.client.link.req = .running tid c pc) (hpc : pc ≠ .write) (hlink : LinkInv l)
    (hcall : l.req.call? = some c) (hrecv : l.recv = x.client.link.recv)
    (hbuf : l.rctx.reply = x.client.link.rctx.reply ∧
      l.rctx.replySz = x.client.link.rctx.replySz ∨ pc.rank ≠ 6)
    (hprep : pc.rank = 6 → l.req.prepared = true)
    (hval : ∀ tid c pc, l.req = .running tid c pc → 1 ≤ pc.rank → l.rctx.replySzRead = 0 ∨
      (pc.rank = 6 ∧ Stored P { x with client.link := l } l.rctx.replySzRead))
    (hres : ∀ c rc, l.req.outcome = some (c, rc) → 0 < rc →
      l.rctx.reply = c.rbuf ∧ Stored P { x with client.link := l } rc.toNat) :
    ReplyInv P { x with client.link := l } := by
  have hcop := hi.not_copied hr hpc
  have hprep' : x.client.link.req.prepared = true → pc.rank = 6 := by
    rw [hr]
    simp [Requester.prepared]
  refine hi.moves { x.client with link := l } x.slot hlink (by rw [hcall, hr]; rfl) hrecv ?_
    (fun h => hprep (hprep' h)) (fun hk => ?_) Or.inl hi.newest.request hval hres
  · exact hbuf.imp_right fun hne ho => hne (hprep' (hi.armed ho))
  · exact absurd (hcop.symm.trans hk) (by simp)

theorem sendReturns_of_request (s : LinkState) (tid : TaskId) {c : Call} (rc : Nat)
    (hc : c.isRequest = true) : s.sendReturns tid c rc =
      if rc = 0 then { s with req := .returned c (-1) } else s.goto tid c .waitReply := by
  simp [LinkState.sendReturns, hc]

/-- From the write on `reply_sz_read` keeps its meaning. -/
theorem ReplyInv.kept {l : LinkState} {tid : TaskId} {c : Call} {pc pc' : Pc} (hi : ReplyInv P x)
    (hr : x.client.link.req = .running tid c pc) (hpc : pc.rank = 6) (hpc' : pc'.rank = 6)
    (hctx : l.rctx = x.client.link.rctx) : l.rctx.replySzRead = 0 ∨
      (pc'.rank = 6 ∧ Stored P { x with client.link := l } l.rctx.replySzRead) := by
  have hv := hi.value _ _ _ hr (by omega)
  simp only [Stored, hctx] at hv ⊢
  exact hv.imp_right fun h => ⟨hpc', h.2⟩

/-- A statement after which the result is still open. -/
theorem ReplyInv.opened {l : LinkState} {tid : TaskId} {c : Call} {pc pc' : Pc}
    (hi : ReplyInv P x) (hl : LinkInv l) (hr : x.client.link.req = .running tid c pc)
    (hnw : pc ≠ .write) (hl' : l.req = .running tid c pc') (hout : l.req.outcome = none)
    (hrecv : l.recv = x.client.link.recv)
    (hbuf : l.rctx.reply = x.client.link.rctx.reply ∧
      l.rctx.replySz = x.client.link.rctx.replySz ∨ pc.rank ≠ 6)
    (hrank : pc.rank = 6 → pc'.rank = 6)
    (hv : l.rctx.replySzRead = 0 ∨
      (pc'.rank = 6 ∧ Stored P { x with client.link := l } l.rctx.replySzRead)) :
    ReplyInv P { x with client.link := l } := by
  refine hi.statement hr hnw hl (by rw [hl']; rfl) hrecv hbuf (fun h => ?_) ?_ ?_
  · rw [hl']
    simpa [Requester.prepared] using hrank h
  · intro tid' c' pc'' h' _
    rw [hl'] at h'
    cases h'
    exact hv
  · intro c' rc' ho
    rw [hout] at ho
    cases ho

/-- `_link_request_send` returns. -/
theorem ReplyInv.sendReturned {l : LinkState} {tid : TaskId} {c : Call} {pc : Pc} (rc : Nat)
    (hi : ReplyInv P x) (hl : LinkInv l) (hr : x.client.link.req = .running tid c pc)
    (hreq : c.isRequest = true) (hpc : pc.rank = 6) (hnw : pc ≠ .write)
    (he : l = x.client.link.sendReturns tid c rc) : ReplyInv P { x with client.link := l } := by
  rw [sendReturns_of_request _ _ _ hreq] at he
  by_cases hz : rc = 0
  · rw [if_pos hz] at he
    subst he
    refine hi.statement hr hnw hl rfl rfl (Or.inl ⟨rfl, rfl⟩) (fun _ => rfl) ?_ ?_
    · intro tid' c' pc' h'
      cases h'
    · intro c' rc' ho hpos
      cases ho
      exact absurd hpos (by decide)
  · rw [if_neg hz] at he
    subst he
    exact hi.opened hl hr hnw rfl rfl rfl (Or.inl ⟨rfl, rfl⟩) (fun _ => rfl)
      (hi.kept hr hpc rfl rfl)

/-- The client's task, outside `link->write`. -/
theorem replyInv_task {b : Act} {l : LinkState} (hi : ReplyInv P x) (hb : b.ofTask = true)
    (hcall : (OutAct.task b).isCall = false) (h : step x.client.link b = some l) :
    ReplyInv P { x with client.link := l } := by
  have hl : LinkInv l := linkInv_step hi.link h
  have hreq : ∀ {tid c pc}, x.client.link.req = .running tid c pc → c.isRequest = true :=
    fun hr => hi.requests _ (by rw [hr]; rfl)
  have hzero : ∀ {tid c pc}, x.client.link.req = .running tid c pc → 1 ≤ pc.rank → pc.rank ≠ 6 →
      x.client.link.rctx.replySzRead = 0 := fun hr h1 h6 =>
    (hi.value _ _ _ hr h1).elim id fun h => absurd h.1 h6
  cases step_stepped h with
  | call tid c _ => cases hcall
  | setReplySzRead hr =>
    exact hi.opened hl hr (by simp) rfl rfl rfl (Or.inl ⟨rfl, rfl⟩) (by simp [Pc.rank]) (Or.inl rfl)
  | setReply hr =>
    exact hi.opened hl hr (by simp) rfl rfl rfl (Or.inr (by simp [Pc.rank])) (by simp [Pc.rank])
      (Or.inl (hzero hr (by simp [Pc.rank]) (by simp [Pc.rank])))
  | setReplySz hr =>
    exact hi.opened hl hr (by simp) rfl rfl rfl (Or.inr (by simp [Pc.rank])) (by simp [Pc.rank])
      (Or.inl (hzero hr (by simp [Pc.rank]) (by simp [Pc.rank])))
  | setTid hr =>
    exact hi.opened hl hr (by simp) rfl rfl rfl (Or.inl ⟨rfl, rfl⟩) (by simp [Pc.rank])
      (Or.inl (hzero hr (by simp [Pc.rank]) (by simp [Pc.rank])))
  | setEventWait hr =>
    exact hi.opened hl hr (by simp) rfl rfl rfl (Or.inl ⟨rfl, rfl⟩) (by simp [Pc.rank])
      (Or.inl (hzero hr (by simp [Pc.rank]) (by simp [Pc.rank])))
  | clearTxAcked hr =>
    exact hi.opened hl hr (by simp) rfl rfl rfl (Or.inl ⟨rfl, rfl⟩) (by simp [Pc.rank])
      (Or.inl (hzero hr (by simp [Pc.rank]) (by simp [Pc.rank])))
  | writeFailed _ => cases hb
  | written _ _ => cases hb
  | wakeAck hr _ =>
    exact hi.opened hl hr (by simp) rfl rfl rfl (Or.inl ⟨rfl, rfl⟩) (fun _ => rfl)
      (hi.kept hr rfl rfl rfl)
  | timeoutAck hr _ _ =>
    exact hi.opened hl hr (by simp) rfl rfl rfl (Or.inl ⟨rfl, rfl⟩) (fun _ => rfl)
      (hi.kept hr rfl rfl rfl)
  | acked hr _ _ => exact hi.sendReturned _ hl hr (hreq hr) rfl (by simp) rfl
  | assertFailed hr _ _ =>
    exact hi.opened hl hr (by simp) rfl rfl rfl (Or.inl ⟨rfl, rfl⟩) (fun _ => rfl)
      (hi.kept hr rfl rfl rfl)
  | ackTimedOut hr _ => exact hi.sendReturned _ hl hr (hreq hr) rfl (by simp) rfl
  | wakeReply hr _ =>
    exact hi.opened hl hr (by simp) rfl rfl rfl (Or.inl ⟨rfl, rfl⟩) (fun _ => rfl)
      (hi.kept hr rfl rfl rfl)
  | timeoutReply hr _ _ =>
    exact hi.opened hl hr (by simp) rfl rfl rfl (Or.inl ⟨rfl, rfl⟩) (fun _ => rfl)
      (hi.kept hr rfl rfl rfl)
  | @replied tid c events hr _ =>
    refine hi.statement hr (by simp) hl rfl rfl (Or.inl ⟨rfl, rfl⟩) (fun _ => rfl)
      (fun _ _ _ h' _ => by cases h'; exact hi.kept hr rfl rfl rfl) ?_
    intro c' rc' ho hpos
    cases ho
    rcases hi.value _ _ _ hr (by simp [Pc.rank]) with hz | ⟨_, hst⟩
    · have hz' : x.client.link.rctx.replySzRead = 0 := hz
      rw [hz'] at hpos
      exact absurd hpos (by decide)
    · exact ⟨(hi.link _ _ _ hr).reply (hreq hr) (by simp [Pc.rank]), hst⟩
  | replyTimedOut hr _ =>
    refine hi.statement hr (by simp) hl rfl rfl (Or.inl ⟨rfl, rfl⟩) (fun _ => rfl)
      (fun _ _ _ h' _ => by cases h'; exact hi.kept hr rfl rfl rfl) ?_
    intro c' rc' ho hpos
    cases ho
    exact absurd hpos (by decide)
  | clearTid hr =>
    refine hi.statement hr (by simp) hl rfl rfl (Or.inl ⟨rfl, rfl⟩) (fun _ => rfl)
      (fun _ _ _ h' => by cases h') ?_
    intro c' rc' ho hpos
    cases ho
    exact hi.result _ _ (by rw [hr]; rfl) hpos
  | _ => cases hb

/-- `link->write` and the ACK handler of the client. -/
theorem replyInv_out {b : OutAct} {o : Outgoing ρ} (hi : ReplyInv P x)
    (hb : ∀ b', b ≠ .task b') (h : OutMoved P.toMedium x.client b o) :
    ReplyInv P { x with client := o, slot := if b = .copy then x.calls else x.slot } := by
  cases h with
  | task _ _ => exact absurd rfl (hb _)
  | @copy tid c r hr hc hw =>
    refine hi.moves { x.client with medium := r, copied := true } _ hi.link rfl rfl
      (Or.inl ⟨rfl, rfl⟩) id (fun _ => ⟨tid, c, hr⟩) ?_ (fun _ => if_pos rfl) hi.value hi.result
    intro hn
    exact Or.inl (by rw [← P.isNew_write hw]; exact hn)
  | @setNew tid c l hr hc hs =>
    have hl : LinkInv l := linkInv_step hi.link hs
    have hreq : c.isRequest = true := hi.requests c (by rw [hr]; rfl)
    have hslot : x.slot = x.calls := hi.newest.request (Or.inl hc)
    have hv := hi.value _ _ _ hr (by simp [Pc.rank])
    simp only [step, hr, sendReturns_of_request _ _ _ hreq, if_true] at hs
    by_cases hz : c.sz = 0
    · rw [if_pos hz, Option.some.injEq] at hs
      subst hs
      refine hi.moves _ _ hl (by rw [hr]; rfl) rfl (Or.inl ⟨rfl, rfl⟩) (fun _ => rfl)
        (fun hk => by cases hk) (fun _ => Or.inr rfl) (fun _ => hslot) ?_ ?_
      · intro tid' c' pc' h'
        cases h'
      · intro c' rc' ho hpos
        cases ho
        exact absurd hpos (by decide)
    · rw [if_neg hz, Option.some.injEq] at hs
      subst hs
      refine hi.moves _ _ hl (by rw [hr]; rfl) rfl (Or.inl ⟨rfl, rfl⟩) (fun _ => rfl)
        (fun hk => by cases hk) (fun _ => Or.inr rfl) (fun _ => hslot) ?_ ?_
      · intro tid' c' pc' h' _
        cases h'
        exact hv.imp_right fun h => ⟨rfl, h.2⟩
      · intro c' rc' ho
        cases ho
  | ackPoll _ _ =>
    exact hi.moves _ _ hi.link rfl rfl (Or.inl ⟨rfl, rfl⟩) id hi.copying Or.inl hi.newest.request
      hi.value hi.result
  | linkAck _ k =>
    have hs : step x.client.link .ack = some x.client.link.linkAck := rfl
    have hl : LinkInv x.client.link.linkAck := linkInv_step hi.link hs
    have hreq := ack_req hs
    have hrecv := step_recv hs rfl
    have hctx : x.client.link.linkAck.rctx.reply = x.client.link.rctx.reply ∧
        x.client.link.linkAck.rctx.replySz = x.client.link.rctx.replySz ∧
        x.client.link.linkAck.rctx.replySzRead = x.client.link.rctx.replySzRead := by
      unfold LinkState.linkAck
      split <;> exact ⟨rfl, rfl, rfl⟩
    obtain ⟨h1, h2, h3⟩ := hctx
    refine hi.moves { x.client with link := x.client.link.linkAck, ack := k } _ hl
      (by rw [hreq]) hrecv (Or.inl ⟨h1, h2⟩) (by rw [hreq]; exact id)
      (by rw [hreq]; exact hi.copying) Or.inl hi.newest.request ?_ ?_
    · have hv := hi.value
      simp only [Stored] at hv
      simpa only [Stored, hreq, h1, h2, h3] using hv
    · have hres := hi.result
      simp only [Stored] at hres
      simpa only [Stored, hreq, h1, h2] using hres
  | clearAck _ =>
    refine hi.moves _ _ hi.link rfl rfl (Or.inl ⟨rfl, rfl⟩) id hi.copying ?_ ?_ hi.value hi.result
    · exact fun hn => Or.inl (by rw [← P.isNew_setAck x.client.medium false]; exact hn)
    · have hslot := hi.newest.request
      simpa only [P.isNew_setAck, reduceCtorEq, if_false] using hslot

theorem replyInv_client {b : OutAct} (hi : ReplyInv P x) (hg : AfterAll P x (.client b))
    (h : serviceStep P x (.client b) = some x') : ReplyInv P x' := by
  simp only [serviceStep] at h
  split at h
  · rename_i hb
    obtain ⟨o, ho, rfl⟩ := Option.map_eq_some_iff.mp h
    have hm := outStep_moved ho
    cases b with
    | task b =>
      cases hm with
      | task hbt hs =>
        cases b with
        | call tid c =>
          have hl := linkInv_step hi.link hs
          have hc : c.isRequest = true := hb
          cases step_stepped hs with
          | call _ _ hr =>
            rw [if_pos hc] at hl ⊢
            exact replyInv_call hi (hg rfl) hc hr hl
        | _ => exact replyInv_task hi hbt rfl hs
    | _ => exact replyInv_out hi (by intro b' hb'; cases hb') hm
  · cases h

/-! ## §4 The server and the client's receive handler -/

theorem Delivery.mono (hd : Delivery P x) (hreply : x'.reply = x.reply)
    (hrecv : x'.client.link.recv = x.client.link.recv)
    (hctx : x'.client.link.rctx = x.client.link.rctx) (hcalls : x'.calls = x.calls)
    (hst : ∀ k, 0 < x.calls → x.Stored P k → x'.Stored P k) : Delivery P x' := by
  unfold Delivery at hd ⊢
  rw [hreply, hrecv, hctx]
  rw [hcalls]
  split at hd <;> first | exact hd | exact fun hpos => hst _ hpos (hd hpos)

/-- Inside `link->read` the reply is stored. -/
theorem Delivery.reading {n : Nat} (hd : Delivery P x)
    (hr : x.reply = .clearNew n ∨ x.reply = .setAck n) :
    ∃ q sz, x.client.link.recv = .haveArgs (some q) sz ∧ (0 < x.calls → x.Stored P n) := by
  unfold Delivery at hd
  rcases hr with hr | hr
  · rw [hr] at hd
    split at hd <;> simp_all
  · rw [hr] at hd
    split at hd <;> simp_all

/-- A step of anybody but the client's task. -/
theorem ReplyInv.frame (hi : ReplyInv P x) (hlink : LinkInv x'.client.link)
    (hreq : x'.client.link.req = x.client.link.req)
    (hcop : x'.client.copied = x.client.copied)
    (hbuf : x'.client.link.rctx.reply = x.client.link.rctx.reply) (hcalls : x'.calls = x.calls)
    (hserver : x'.server.copied = true → ∃ tid c, x'.server.link.req = .running tid c .write)
    (hout : x'.Outstanding P → x.Outstanding P) (hnewest : Newest P x') (hdel : Delivery P x')
    (hread : x'.client.link.rctx.replySzRead = x.client.link.rctx.replySzRead ∨
      (x.Outstanding P ∧ (0 < x.calls → x'.Stored P x'.client.link.rctx.replySzRead)))
    (hst : ∀ k, 0 < x.calls → x.Stored P k → x'.Stored P k) : ReplyInv P x' where
  link := hlink
  requests c hc := hi.requests c (hreq ▸ hc)
  counted c hc := by
    rw [hcalls]
    exact hi.counted c (hreq ▸ hc)
  copying hk := by
    rw [hreq]
    exact hi.copying (hcop ▸ hk)
  serverCopying := hserver
  armed ho := by
    rw [hreq]
    exact hi.armed (hout ho)
  newest := hnewest
  delivery := hdel
  value tid c pc hr hpc := by
    rw [hreq] at hr
    have hpos : 0 < x.calls := hi.counted c (by rw [hr]; rfl)
    rcases hread with he | ⟨ho, hs⟩
    · rw [he]
      exact (hi.value tid c pc hr hpc).imp_right fun h => ⟨h.1, hst _ hpos h.2⟩
    · have hp := hi.armed ho
      rw [hr] at hp
      exact Or.inr ⟨by simpa [Requester.prepared] using hp, hs hpos⟩
  result c rc ho hpos := by
    rw [hreq] at ho
    have hcount : 0 < x.calls := hi.counted c (by cases hq : x.client.link.req with
      | idle => rw [hq] at ho; cases ho
      | running tid c' pc => rw [hq] at ho; cases pc <;> cases ho; rfl
      | returned c' rc' => rw [hq] at ho; cases ho; rfl)
    obtain ⟨h1, h2⟩ := hi.result c rc ho hpos
    exact ⟨hbuf.trans h1, hst _ hcount h2⟩

/-- A step that leaves the client's link, memory and receive handler alone. -/
theorem ReplyInv.aside (hi : ReplyInv P x) (hlink : x'.client.link = x.client.link)
    (hcop : x'.client.copied = x.client.copied) (hcalls : x'.calls = x.calls)
    (hmem : x'.mem = x.mem) (hreply : x'.reply = x.reply) (hans : x.answers ⊆ x'.answers)
    (hserver : x'.server.copied = true → ∃ tid c, x'.server.link.req = .running tid c .write)
    (hout : x'.Outstanding P → x.Outstanding P) (hnewest : Newest P x') : ReplyInv P x' := by
  have hst : ∀ k, 0 < x.calls → x.Stored P k → x'.Stored P k := by
    intro k _ hk
    obtain ⟨q, m, h1, h2, h3, h4⟩ := hk
    rw [Stored, hlink, hcalls, hmem]
    exact ⟨q, m, h1, h2, hans h3, h4⟩
  have hdel : Delivery P x' :=
    hi.delivery.mono hreply (by rw [hlink]) (by rw [hlink]) hcalls hst
  exact hi.frame (by rw [hlink]; exact hi.link) (by rw [hlink]) hcop (by rw [hlink]) hcalls hserver
    hout hnewest hdel (Or.inl (by rw [hlink])) hst

theorem replyInv_server {b : OutAct} (hi : ReplyInv P x)
    (h : serviceStep P x (.server b) = some x') : ReplyInv P x' := by
  simp only [serviceStep] at h
  split at h
  · -- the reply is copied
    rename_i t ht
    obtain ⟨o, ho, rfl⟩ := Option.map_eq_some_iff.mp h
    have htag : t = x.calls := hi.newest.holding t ht
    have hserver := (outStep_moved ho).copying hi.serverCopying
    cases outStep_moved ho with
    | copy hr hc hw =>
      refine hi.aside rfl rfl rfl rfl rfl (List.subset_append_left _ _) hserver ?_
        { hi.newest with
          copied := fun _ => by simp [ht]
          reply := fun _ _ => by simp [htag] }
      simp only [Outstanding, Undelivered, P.isNew_write hw]
      exact id
  · -- and its indication set
    rename_i t ht
    obtain ⟨o, ho, rfl⟩ := Option.map_eq_some_iff.mp h
    have hserver := (outStep_moved ho).copying hi.serverCopying
    cases outStep_moved ho with
    | setNew hr hc hs =>
      have hans := hi.newest.reply (Or.inl hc)
      have hold : x.Outstanding P := outstanding_of_holding (by simp [ht])
      refine hi.aside rfl rfl rfl rfl rfl (List.Subset.refl _) hserver (fun _ => hold)
        { hi.newest with
          holding := fun t ht => by cases ht
          copied := fun hk => by cases hk
          reply := fun _ hpos => ?_ }
      show (x.calls, P.read (P.setNew x.server.medium true)) ∈ x.answers
      rw [P.read_setNew]
      exact hans hpos
  · cases h
  · cases h
  · split at h
    · obtain ⟨o, ho, rfl⟩ := Option.map_eq_some_iff.mp h
      have hserver := (outStep_moved ho).copying hi.serverCopying
      obtain ⟨h1, h2, h3⟩ := (outStep_moved ho).medium
        (fun he => by cases hh : x.holding <;> simp_all)
        (fun he => by cases hh : x.holding <;> simp_all)
      refine hi.aside rfl rfl rfl rfl rfl (List.Subset.refl _) hserver ?_
        { hi.newest with
          copied := by simpa only [h1] using hi.newest.copied
          reply := ?_ }
      · simp only [Outstanding, Undelivered, h2]
        exact id
      · have hans := hi.newest.reply
        simpa only [WillRead, h1, h2, h3] using hans
    · cases h

/-- `link_recv_cmd` reads requests of the latest call. -/
theorem replyInv_recvCmd (hi : ReplyInv P x)
    (ha : a = .cmdPoll ∨ a = .cmdRead ∨ a = .cmdClearNew ∨ a = .cmdSetAck)
    (h : serviceStep P x a = some x') : ReplyInv P x' := by
  rcases ha with rfl | rfl | rfl | rfl
  · simp only [serviceStep] at h
    split at h <;> cases h
    rename_i hp
    exact hi.aside rfl rfl rfl rfl rfl (List.Subset.refl _) hi.serverCopying
      (fun _ => Or.inl hp.2)
      { hi.newest with request := fun _ => hi.newest.request (Or.inr (Or.inl hp.2)) }
  · simp only [serviceStep] at h
    split at h <;> cases h
    rename_i hp
    have hslot : x.slot = x.calls := hi.newest.request (Or.inr (Or.inr hp))
    refine hi.aside rfl rfl rfl rfl rfl (List.Subset.refl _) hi.serverCopying
      (fun _ => Or.inr (Or.inl hp)) { hi.newest with request := fun _ => hslot, queue := ?_ }
    intro e he
    rcases List.mem_append.mp he with he | he
    · exact hi.newest.queue e he
    · rw [List.mem_singleton.mp he]
      exact hslot
  · simp only [serviceStep] at h
    split at h <;> cases h
    refine hi.aside rfl rfl rfl rfl rfl (List.Subset.refl _) hi.serverCopying ?_
      { hi.newest with request := ?_ }
    · simp only [Outstanding, Undelivered, P.isNew_setNew]
      tauto
    · have hslot := hi.newest.request
      simp only [P.isNew_setNew]
      tauto
  · simp only [serviceStep] at h
    split at h <;> cases h
    refine hi.aside rfl rfl rfl rfl rfl (List.Subset.refl _) hi.serverCopying ?_
      { hi.newest with request := ?_ }
    · simp only [Outstanding, Undelivered, P.isNew_setAck]
      tauto
    · have hslot := hi.newest.request
      simp only [P.isNew_setAck]
      tauto

/-- `cmd_handle` takes commands of the latest call. -/
theorem replyInv_handle (hi : ReplyInv P x) (ha : a = .dequeue ∨ a = .noReply)
    (h : serviceStep P x a = some x') : ReplyInv P x' := by
  rcases ha with rfl | rfl
  · simp only [serviceStep] at h
    split at h
    · rename_i t m queue hq hh
      split at h <;> cases h
      have hmem : ∀ e ∈ (t, m) :: queue, e.1 = x.calls := hq ▸ hi.newest.queue
      refine hi.aside rfl rfl rfl rfl rfl (List.Subset.refl _) hi.serverCopying
        (fun _ => Or.inr (Or.inr (Or.inl (by simp [hq]))))
        { hi.newest with
          queue := fun e he => hmem e (List.mem_cons_of_mem _ he)
          holding := ?_
          copied := fun _ => rfl }
      intro t' ht
      cases ht
      exact hmem (t, m) List.mem_cons_self
    · cases h
  · simp only [serviceStep] at h
    split at h <;> cases h
    rename_i hp
    refine hi.aside rfl rfl rfl rfl rfl (List.Subset.refl _) hi.serverCopying
      (fun _ => outstanding_of_holding hp.1)
      { hi.newest with
        holding := fun t ht => by cases ht
        copied := ?_ }
    intro hc
    obtain ⟨tid, c, hw⟩ := hi.serverCopying hc
    rw [hw] at hp
    cases hp.2

/-- A statement of `link_recv_reply`, outside its `link->read`. -/
theorem replyInv_replyRun (hi : ReplyInv P x) {l : LinkState} (hr : x.reply = .inRecvReply)
    (hread : ∀ q sz, x.client.link.recv ≠ .haveArgs (some q) sz)
    (hl : x.client.link.linkRecvReply 0 = some l) :
    ReplyInv P { x with
      client.link := l, reply := if l.recv = .idle then .poll else .inRecvReply } := by
  have hs : step x.client.link (.recvReply 0) = some l := hl
  have hlink : LinkInv l := linkInv_step hi.link hs
  have hd := hi.delivery
  have hun : x.client.link.recv ≠ .test → x.client.link.recv.sending = false →
      x.Outstanding P :=
    fun h1 h2 => outstanding_of_undelivered ⟨by simp [hr], h1, h2⟩
  -- where a reply is still to be read or reported, one was before
  have hframe : (x.client.link.recv ≠ .test ∧ x.client.link.recv.sending = false ∨
      l.recv = .test ∨ l.recv.sending = true ∨ l.recv = .idle) → l.req = x.client.link.req →
      l.rctx.reply = x.client.link.rctx.reply → l.rctx.replySz = x.client.link.rctx.replySz →
      (l.recv.beforeRead = true → l.recv ≠ .idle → x.client.link.recv.beforeRead = true) →
      Delivery P { x with
        client.link := l, reply := if l.recv = .idle then .poll else .inRecvReply } →
      (l.rctx.replySzRead = x.client.link.rctx.replySzRead ∨
        x.client.link.recv = .haveRead l.rctx.replySzRead) →
      ReplyInv P { x with
        client.link := l, reply := if l.recv = .idle then .poll else .inRecvReply } := by
    intro hwas hreq hbuf hsz hbefore hdel hk
    have hst : ∀ k, 0 < x.calls → x.Stored P k → Stored P { x with
        client.link := l, reply := if l.recv = .idle then .poll else .inRecvReply } k := by
      intro k
      simp only [Stored, hbuf, hsz]
      exact fun _ h => h
    refine hi.frame hlink hreq rfl hbuf rfl hi.serverCopying ?_ { hi.newest with reply := ?_ } hdel
      ?_ hst
    · intro ho
      rcases hwas with ⟨h1, h2⟩ | hafter
      · exact hun h1 h2
      · rcases ho with ho | ho | ho | ho | ho | ⟨h0, h1, h2⟩
        · exact Or.inl ho
        · exact Or.inr (Or.inl ho)
        · exact Or.inr (Or.inr (Or.inl ho))
        · exact Or.inr (Or.inr (Or.inr (Or.inl ho)))
        · exact Or.inr (Or.inr (Or.inr (Or.inr (Or.inl ho))))
        · rcases hafter with h | h | h
          · exact absurd h h1
          · exact absurd (h2.symm.trans h) (by simp)
          · simp [h] at h0
    · intro hk'
      refine hi.newest.reply (hk'.imp_right (Or.imp_right fun hw => ⟨hr, ?_⟩))
      obtain ⟨h1, h2⟩ := hw
      refine hbefore h2 fun hidle => ?_
      simp [hidle] at h1
    · rcases hk with hk | hk
      · exact Or.inl hk
      · refine Or.inr ⟨hun (by simp [hk]) (by rw [hk]; rfl), ?_⟩
        simp only [Delivery, hr, hk] at hd
        exact fun hpos => hst _ hpos (hd hpos)
  cases step_stepped hs with
  | recvStart _ hrecv =>
    exact hframe (Or.inl (by simp [hrecv, RecvPc.sending])) rfl rfl rfl
      (fun _ _ => by rw [hrecv]; rfl) (by simp [Delivery]) (Or.inl rfl)
  | recvArgs _ hrecv =>
    simp only [Delivery, hr, hrecv] at hd
    exact hframe (Or.inl (by simp [hrecv, RecvPc.sending])) rfl rfl rfl
      (fun _ _ => by rw [hrecv]; rfl) (by simp [Delivery, hd]) (Or.inl rfl)
  | recvNull _ hrecv =>
    exact hframe (Or.inl (by simp [hrecv, RecvPc.sending])) rfl rfl rfl
      (fun _ _ => by rw [hrecv]; rfl) (by simp [Delivery]) (Or.inl rfl)
  | recvStore _ hrecv => exact absurd hrecv (hread _ _)
  | recvSize _ hrecv =>
    exact hframe (Or.inr (Or.inl rfl)) rfl rfl rfl (fun h => by cases h) (by simp [Delivery])
      (Or.inr hrecv)
  | recvTest _ hrecv =>
    by_cases ht : x.client.link.rctx.tidRequester ≠ idNone
    · rw [if_pos ht] at hframe ⊢
      exact hframe (by simp [RecvPc.sending]) rfl rfl rfl (by simp [RecvPc.beforeRead])
        (by simp [Delivery]) (Or.inl rfl)
    · rw [if_neg ht] at hframe ⊢
      exact hframe (by simp) rfl rfl rfl (by simp) (by simp [Delivery]) (Or.inl rfl)
  | recvTid _ hrecv =>
    exact hframe (Or.inr (Or.inr (Or.inl rfl))) rfl rfl rfl (fun h => by cases h)
      (by simp [Delivery]) (Or.inl rfl)
  | recvEvent _ hrecv =>
    exact hframe (Or.inr (Or.inr (Or.inl rfl))) rfl rfl rfl (fun h => by cases h)
      (by simp [Delivery]) (Or.inl rfl)
  | recvSend _ hrecv =>
    exact hframe (Or.inr (Or.inr (Or.inr rfl))) rfl rfl rfl (fun _ h => absurd rfl h)
      (by simp [Delivery]) (Or.inl rfl)

theorem replyInv_step (hi : ReplyInv P x) (hg : AfterAll P x a)
    (h : serviceStep P x a = some x') : ReplyInv P x' := by
  cases a with
  | client b => exact replyInv_client hi hg h
  | server b => exact replyInv_server hi h
  | cmdPoll => exact replyInv_recvCmd hi (by simp) h
  | cmdRead => exact replyInv_recvCmd hi (by simp) h
  | cmdClearNew => exact replyInv_recvCmd hi (by simp) h
  | cmdSetAck => exact replyInv_recvCmd hi (by simp) h
  | dequeue => exact replyInv_handle hi (Or.inl rfl) h
  | noReply => exact replyInv_handle hi (Or.inr rfl) h
  | replyPoll =>
    simp only [serviceStep] at h
    split at h <;> cases h
    rename_i hp
    have hidle : x.client.link.recv = .idle := by
      have hd := hi.delivery
      simpa only [Delivery, hp.1] using hd
    refine hi.frame hi.link rfl rfl rfl rfl hi.serverCopying (fun _ => outstanding_of_isNew hp.2)
      { hi.newest with reply := fun _ => hi.newest.reply (Or.inr (Or.inl hp.2)) } ?_ (Or.inl rfl)
      fun _ _ h => h
    simp [Delivery, hidle]
  | replyRun =>
    simp only [serviceStep] at h
    split at h
    · cases h
    · rename_i hr hrecv
      obtain ⟨l, hl, rfl⟩ := Option.map_eq_some_iff.mp h
      exact replyInv_replyRun hi hr (fun q sz he => hrecv q sz he) hl
    · cases h
  | replyRead =>
    simp only [serviceStep] at h
    split at h
    · rename_i q sz hr hrecv
      obtain ⟨⟨mem, n⟩, hread, rfl⟩ := Option.map_eq_some_iff.mp h
      have hd := hi.delivery
      simp only [Delivery, hr, hrecv] at hd
      obtain ⟨hp, hsz⟩ := hd
      have hans := hi.newest.reply (Or.inr (Or.inr ⟨hr, by rw [hrecv]; rfl⟩))
      -- the whole of what a read returns is new
      have hnew : 0 < x.calls → Stored P { x with mem := mem, reply := .clearNew n } n :=
        fun hpos => ⟨q, _, hp.symm, by rw [P.readInto_size hread, hsz], hans hpos,
          P.readInto_mem hread⟩
      have hst : ∀ k, 0 < x.calls → x.Stored P k →
          Stored P { x with mem := mem, reply := .clearNew n } k := by
        intro k hpos hk
        obtain ⟨_, _, _, hsize, _, _⟩ := hk
        have hkn : k = n := by rw [hsize, P.readInto_size hread, hsz]
        rw [hkn]
        exact hnew hpos
      have hun : x.Undelivered := ⟨by simp [hr], by simp [hrecv], by rw [hrecv]; rfl⟩
      refine hi.frame hi.link rfl rfl rfl rfl hi.serverCopying
        (fun _ => outstanding_of_undelivered hun) { hi.newest with reply := ?_ } ?_
        (Or.inl rfl) hst
      · intro hk
        refine hi.newest.reply (hk.imp_right (Or.imp_right fun hw => ?_))
        cases hw.1
      · simpa only [Delivery, hrecv] using hnew
    · cases h
  | replyClearNew =>
    simp only [serviceStep] at h
    split at h <;> cases h
    rename_i n hr
    obtain ⟨q, sz, hrecv, hst⟩ := hi.delivery.reading (Or.inl hr)
    have hun : x.Undelivered := ⟨by simp [hr], by simp [hrecv], by rw [hrecv]; rfl⟩
    refine hi.frame hi.link rfl rfl rfl rfl hi.serverCopying
      (fun _ => outstanding_of_undelivered hun) { hi.newest with reply := ?_ } ?_
      (Or.inl rfl) fun _ _ h => h
    · show _ → 0 < x.calls → (x.calls, P.read (P.setNew x.server.medium false)) ∈ x.answers
      rw [P.read_setNew]
      intro hk
      refine hi.newest.reply ?_
      rcases hk with hk | hk | hk
      · exact Or.inl hk
      · exact absurd hk (by simp)
      · cases hk.1
    · simp only [Delivery, hrecv]
      exact hst
  | replySetAck =>
    simp only [serviceStep] at h
    split at h
    · rename_i n hr
      obtain ⟨q, sz, hrecv, hst⟩ := hi.delivery.reading (Or.inr hr)
      have hun : x.Undelivered := ⟨by simp [hr], by simp [hrecv], by rw [hrecv]; rfl⟩
      simp only [LinkState.linkRecvReply, hrecv, Option.map_some, Option.some.injEq] at h
      subst h
      refine hi.frame hi.link rfl rfl rfl rfl hi.serverCopying
        (fun _ => outstanding_of_undelivered hun) { hi.newest with reply := ?_ } ?_
        (Or.inl rfl) fun _ _ h => h
      · show _ → 0 < x.calls → (x.calls, P.read (P.setAck x.server.medium true)) ∈ x.answers
        rw [P.read_setAck]
        intro hk
        refine hi.newest.reply ?_
        rcases hk with hk | hk | hk
        · exact Or.inl hk
        · exact Or.inr (Or.inl ((P.isNew_setAck _ _).symm.trans hk))
        · cases hk.2
      · exact hst
    · cases h

theorem replyInv_start (r r' : ρ) (heap heap' : LinkRequestCtx) (p p' : Pending) (mem : Mem) :
    ReplyInv P (start r r' heap heap' p p' mem) where
  link := linkInv_connected heap p
  requests c hc := by cases hc
  counted c hc := by cases hc
  copying hk := by cases hk
  serverCopying hk := by cases hk
  armed _ := rfl
  newest :=
    ⟨fun _ => rfl, (fun e he => by cases he), (fun t ht => by cases ht), (fun hk => by cases hk),
      fun _ hpos => absurd hpos (by simp [start])⟩
  delivery := rfl
  value tid c pc hr := by cases hr
  result c rc ho := by cases ho

theorem ReplyInv.ownReply (hi : ReplyInv P x) : x.OwnReply := by
  intro c rc hr hpos
  obtain ⟨hbuf, q, m, hq, _, hans, hmem⟩ := hi.result c rc (by rw [hr]; rfl) hpos
  refine ⟨q, m, hbuf.symm.trans hq, hans, fun i hi => hmem i ?_⟩
  omega

/-- Runs in which every call begins after everything of the earlier ones. -/
theorem ownReply_of_afterAll {r r' : ρ} {heap heap' : LinkRequestCtx} {p p' : Pending} {mem : Mem}
    {as : List ServiceAct}
    (hG : Along (serviceStep P) (AfterAll P) (start r r' heap heap' p p' mem) as)
    (h : exec (serviceStep P) (start r r' heap heap' p p' mem) as = some x) : x.OwnReply :=
  (exec_invariant (fun _ _ _ hi hg h => replyInv_step hi hg h)
    (replyInv_start r r' heap heap' p p' mem) hG h).ownReply

end Service

open Service

/-! ## §5 Runs -/

/-- **A reply belongs to its request**, over both kinds of link, in every
run whose calls begin with nothing outstanding. -/
theorem reply_is_own (heap heap' : LinkRequestCtx) (p p' : Pending) (mem : Mem)
    (r r' : Shmem.HpscShmemRegion) (b b' : Mbox.ChanBase) (as : List ServiceAct) :
    (∀ x, Along (serviceStep shmemReply) (AfterAll shmemReply) (start r r' heap heap' p p' mem) as →
      exec (serviceStep shmemReply) (start r r' heap heap' p p' mem) as = some x → x.OwnReply) ∧
    ∀ x, Along (serviceStep mboxReply) (AfterAll mboxReply) (start b b' heap heap' p p' mem) as →
      exec (serviceStep mboxReply) (start b b' heap heap' p p' mem) as = some x → x.OwnReply :=
  ⟨fun _ hG h => ownReply_of_afterAll hG h, fun _ hG h => ownReply_of_afterAll hG h⟩

/-- The client's task makes a request and gets its ACK; the server has read
the request. -/
def requestUpToAck (b : Byte) : List ServiceAct :=
  [.client (.task (.call 1 (.request 10 [b] 64 10 (some 4096) 64 0)))] ++
  List.replicate 6 (.client (.task .run)) ++
  [.client .copy, .client .setNew, .cmdPoll, .cmdRead, .cmdClearNew, .cmdSetAck,
    .client .ackPoll] ++
  List.replicate 5 (.client .linkAck) ++
  [.client .clearAck, .client (.task .wake), .client (.task .run)]

/-- The server answers the oldest command and the client stores the reply. -/
def answerAndDeliver (b : Byte) : List ServiceAct :=
  [.dequeue, .server (.task (.call 2 (.requestSend [b] 64 10 0)))] ++
  List.replicate 3 (.server (.task .run)) ++
  [.server .copy, .server .setNew, .replyPoll, .replyRun, .replyRun, .replyRead, .replyClearNew,
   .replySetAck, .replyRun, .replyRun, .replyRun, .replyRun, .replyRun]

/-- Request, reply and return, on both ends. -/
def promptAnswer (b : Byte) : List ServiceAct :=
  requestUpToAck b ++ answerAndDeliver b ++
    [.client (.task .wake), .client (.task .run), .client (.task .run), .server .ackPoll] ++
    List.replicate 5 (.server .linkAck) ++
    [.server .clearAck, .server (.task .wake), .server (.task .run), .server (.task .run)]

/-- Two fresh links over regions nobody has used. -/
abbrev freshService : Service Shmem.HpscShmemRegion :=
  start ⟨Msg.zero, 0#32⟩ ⟨Msg.zero, 0#32⟩ ⟨0, 0, false, none, 0, 0⟩ ⟨0, 0, false, none, 0, 0⟩
    (fun _ => 0) (fun _ => 0) fun _ => 0

set_option maxRecDepth 2000 in
/-- Two requests, each answered in time. -/
theorem promptAnswers_own :
    ∃ x, exec (serviceStep shmemReply) freshService (promptAnswer 1 ++ promptAnswer 2) = some x ∧
      x.OwnReply := by
  have hrun : (exec (serviceStep shmemReply) freshService
      (promptAnswer 1 ++ promptAnswer 2)).isSome := by
    decide
  obtain ⟨x, hx⟩ := Option.isSome_iff_exists.mp hrun
  exact ⟨x, hx, (reply_is_own _ _ _ _ _ _ _ ⟨0, 0, 0, fun _ => 0⟩ ⟨0, 0, 0, fun _ => 0⟩
    (promptAnswer 1 ++ promptAnswer 2)).1 x (by decide) hx⟩

/-- A request that gives up with -2; then a second one, which returns the
late answer to the first. -/
def lateAnswer : List ServiceAct :=
  requestUpToAck 1 ++
    [.client (.task .timeout), .client (.task .run), .client (.task .run)] ++
    requestUpToAck 2 ++ answerAndDeliver 1 ++
    [.client (.task .wake), .client (.task .run), .client (.task .run)]

/-- The second request returns 64 and has no answer of its own. -/
theorem lateAnswer_not_own :
    ¬ ∀ (r r' : Shmem.HpscShmemRegion) heap heap' p p' mem as x,
      (∀ a ∈ as, ∀ c ∈ a.request?, c.ticks ≠ noTimeout ∧ c.rticks ≠ noTimeout) →
      exec (serviceStep shmemReply) (start r r' heap heap' p p' mem) as = some x → x.OwnReply := by
  intro hall
  have hrun : (exec (serviceStep shmemReply) freshService lateAnswer).map
      (fun x => (x.client.link.req, x.calls, x.answers.map (·.1))) =
      some (.returned (.request 10 [2] 64 10 (some 4096) 64 0) 64, 2, [1]) := by
    decide
  obtain ⟨x, hx, hv⟩ := Option.map_eq_some_iff.mp hrun
  simp only [Prod.mk.injEq] at hv
  obtain ⟨hr, hcalls, hans⟩ := hv
  obtain ⟨q, m, _, hmem, _⟩ := hall _ _ _ _ _ _ _ _ x (by decide) hx _ _ hr (by decide)
  have htag : x.calls ∈ x.answers.map (·.1) := List.mem_map.mpr ⟨_, hmem, rfl⟩
  rw [hans, hcalls] at htag
  simp at htag

end HpscRtems.Link
