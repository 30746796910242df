/-
HpscRtems.Mbox.IsrTheorems — the mailbox ISRs serve exactly the pending
subscriptions.

A callback reaches the registers through `link->priv`, so that a turn of
the loop stays within its channel only because the argument in every active
record leads back to the channel: `Linked`, which every connect and close
keeps (`linked_connect`, `linked_close`). With it a turn changes the block
of its own channel only (`Turned`), and the loop adds up its turns
(`isrLoop_done`).

Two things stop an ISR B short of one `link_mbox_ack` for each subscribed
channel. A channel a link receives on has no B callback, and where its
INT_B bit was left enabled the ISR just clears the event. And the callbacks
panic when the recorded requester is no longer a task.
-/
import HpscRtems.Mbox.CoherenceTheorems
import HpscRtems.Mbox.Isr

namespace HpscRtems.Mbox

open Machine Rtems Command Link

/-! ## §1 Channels of links -/

/-- Channel `i` is as `link_mbox_connect` claimed it, for a link that exists
and has the channel for its own. -/
inductive OfLink (s : IsrState) (i : Fin channels) : Prop where
  | receive (a : ConnectArgs) (link : Nat) (o : LinkObj)
      (record : s.mailbox.chan i = initChan s.mailbox.mbox.base i.val (claimFrom a link))
      (link_eq : s.links link = some o) (chan_eq : o.priv.chanFrom = i)
  | send (a : ConnectArgs) (link : Nat) (o : LinkObj)
      (record : s.mailbox.chan i = initChan s.mailbox.mbox.base i.val (claimTo a link))
      (link_eq : s.links link = some o) (chan_eq : o.priv.chanTo = i)

/-- The active channels were claimed through `link_mbox_connect`. -/
def Linked (s : IsrState) : Prop := ∀ i, (s.mailbox.chan i).active = true → OfLink s i

theorem OfLink.base {s : IsrState} {i : Fin channels} (h : OfLink s i) :
    (s.mailbox.chan i).base = s.mailbox.mbox.base + i.val * chanBaseSize := by
  cases h with
  | receive a link o record => rw [record]; rfl
  | send a link o record => rw [record]; rfl

theorem OfLink.block {s : IsrState} {i : Fin channels} (h : OfLink s i) :
    s.mailbox.block i = s.mailbox.ownBlock i := by
  rw [Mailbox.block, h.base]
  rfl

/-- The links are there as before, up to what the callbacks write. -/
def LinksKept (s s' : IsrState) : Prop :=
  ∀ link, (s'.links link).map (fun o => (o.priv, o.rctx.reply, o.rctx.tidRequester)) =
    (s.links link).map fun o => (o.priv, o.rctx.reply, o.rctx.tidRequester)

theorem LinksKept.refl (s : IsrState) : LinksKept s s := fun _ => rfl

theorem LinksKept.trans {s t u : IsrState} (h : LinksKept s t) (h' : LinksKept t u) :
    LinksKept s u := fun link => (h' link).trans (h link)

theorem LinksKept.symm {s s' : IsrState} (h : LinksKept s s') : LinksKept s' s :=
  fun link => (h link).symm

theorem LinksKept.find {s s' : IsrState} (h : LinksKept s s') {link : Nat} {o : LinkObj}
    (ho : s.links link = some o) : ∃ o', s'.links link = some o' ∧ o'.priv = o.priv ∧
      o'.rctx.reply = o.rctx.reply ∧ o'.rctx.tidRequester = o.rctx.tidRequester := by
  have hl := h link
  rw [ho, Option.map_some, Option.map_eq_some_iff] at hl
  obtain ⟨o', ho', heq⟩ := hl
  simp only [Prod.mk.injEq] at heq
  exact ⟨o', ho', heq.1, heq.2.1, heq.2.2⟩

theorem linksKept_setRctx {s : IsrState} {link : Nat} {o : LinkObj} {c : LinkRequestCtx}
    (ho : s.links link = some o) (hreply : c.reply = o.rctx.reply)
    (htid : c.tidRequester = o.rctx.tidRequester) : LinksKept s (s.setRctx link o c) := by
  intro l
  by_cases hl : l = link
  · subst hl
    simp [IsrState.setRctx, ho, hreply, htid]
  · simp [IsrState.setRctx, Function.update_of_ne hl]

/-- What `OfLink` is about is the record, the base and the links' channels. -/
theorem OfLink.congr {s s' : IsrState} {i : Fin channels} (h : OfLink s i)
    (hmbox : s'.mailbox.mbox = s.mailbox.mbox) (hlinks : LinksKept s s') : OfLink s' i := by
  cases h with
  | receive a link o record hlink hchan =>
    obtain ⟨o', ho', hpriv, -⟩ := hlinks.find hlink
    refine .receive a link o' ?_ ho' (by rw [hpriv]; exact hchan)
    rw [Mailbox.chan, hmbox]
    exact record
  | send a link o record hlink hchan =>
    obtain ⟨o', ho', hpriv, -⟩ := hlinks.find hlink
    refine .send a link o' ?_ ho' (by rw [hpriv]; exact hchan)
    rw [Mailbox.chan, hmbox]
    exact record

/-! ## §2 What is assumed of the links -/

/-- A client's link has a reply buffer. -/
def ReplyBuffers (s : IsrState) : Prop :=
  ∀ i link o, (s.mailbox.chan i).active = true →
    (s.mailbox.chan i).intA = ⟨some .linkRecvReply, some link⟩ → s.links link = some o →
      o.rctx.reply.isSome = true

/-- A recorded requester is a task that exists. -/
def LiveRequesters (env : IsrEnv) (s : IsrState) : Prop :=
  ∀ link o, s.links link = some o → o.rctx.tidRequester ≠ idNone →
    env.alive o.rctx.tidRequester = true

theorem Linked.congr {s s' : IsrState} (h : Linked s) (hmbox : s'.mailbox.mbox = s.mailbox.mbox)
    (hlinks : LinksKept s s') : Linked s' := by
  intro i hact
  rw [Mailbox.chan, hmbox] at hact
  exact (h i hact).congr hmbox hlinks

theorem ReplyBuffers.congr {s s' : IsrState} (h : ReplyBuffers s)
    (hmbox : s'.mailbox.mbox = s.mailbox.mbox) (hlinks : LinksKept s s') : ReplyBuffers s' := by
  intro i link o hact hinfo ho
  rw [Mailbox.chan, hmbox] at hact hinfo
  obtain ⟨o₀, ho₀, -, hreply, -⟩ := hlinks.symm.find ho
  rw [← hreply]
  exact h i link o₀ hact hinfo ho₀

theorem LiveRequesters.congr {env : IsrEnv} {s s' : IsrState} (h : LiveRequesters env s)
    (hlinks : LinksKept s s') : LiveRequesters env s' := by
  intro link o ho
  obtain ⟨o₀, ho₀, -, -, htid⟩ := hlinks.symm.find ho
  rw [← htid]
  exact h link o₀ ho₀

/-- `cmd_enqueue`, as the queue and the caller see it. -/
def enqueueOne (env : IsrEnv) (q : Cmdq) (cmd : Cmd) : Cmdq × Nat :=
  cmdEnqueueCb q env.handlerTid (if env.alive env.handlerTid then .successful else .invalidId) cmd
    none none

/-- The queue after `cmd_enqueue` has taken all of the commands. -/
def enqueueAll (env : IsrEnv) (q : Cmdq) : List Cmd → Option Cmdq
  | [] => some q
  | cmd :: cmds =>
    let r := enqueueOne env q cmd
    if r.2 = 0 then enqueueAll env r.1 cmds else none

theorem enqueueAll_append (env : IsrEnv) (q : Cmdq) (cmds cmds' : List Cmd) :
    enqueueAll env q (cmds ++ cmds') = (enqueueAll env q cmds).bind (enqueueAll env · cmds') := by
  induction cmds generalizing q with
  | nil => rfl
  | cons cmd cmds ih =>
    simp only [List.cons_append, enqueueAll]
    split
    · exact ih _
    · rfl

/-! ## §3 What a callback changes -/

variable {env : IsrEnv} {s s' : IsrState} {i : Fin channels}

theorem notifyRequester_some {c : LinkRequestCtx}
    (hlive : c.tidRequester ≠ idNone → env.alive c.tidRequester = true) :
    ∃ p, notifyRequester env s c = some { s with pending := p } := by
  unfold notifyRequester
  split
  · rename_i htid
    exact ⟨eventSend s.pending c.tidRequester c.eventWait, by simp [rtemsEventSend, hlive htid]⟩
  · exact ⟨s.pending, rfl⟩

theorem cmdEnqueue_eq (env : IsrEnv) (s : IsrState) (cmd : Cmd) :
    ∃ p, cmdEnqueue env s cmd = ({ s with cmdq := (enqueueOne env s.cmdq cmd).1, pending := p },
      (enqueueOne env s.cmdq cmd).2) := by
  unfold cmdEnqueue enqueueOne cmdEnqueueCb
  generalize cmdEnqueueCbUnsafe s.cmdq cmd none none = r
  obtain ⟨q, rc⟩ := r
  by_cases hrc : rc = 0 ∧ env.handlerTid ≠ idNone
  · simp only [if_pos hrc, rtemsEventSend]
    cases env.alive env.handlerTid
    · exact ⟨s.pending, rfl⟩
    · exact ⟨eventSend s.pending env.handlerTid cmdEventNew, rfl⟩
  · simp only [if_neg hrc]
    exact ⟨s.pending, rfl⟩

theorem ownBlock_onBlock
    (hbase : (s.mailbox.chan i).base = s.mailbox.mbox.base + i.val * chanBaseSize)
    (f : ChanBase → ChanBase) (j : Fin channels) :
    (s.onBlock i f).mailbox.ownBlock j =
      if j = i then f (s.mailbox.ownBlock i) else s.mailbox.ownBlock j := by
  have hblock : s.mailbox.block i = s.mailbox.ownBlock i := by
    rw [Mailbox.block, hbase]
    rfl
  by_cases hj : j = i
  · subst hj
    rw [if_pos rfl, ← hblock, IsrState.onBlock, Mailbox.ownBlock, Mailbox.mbox_setBlock, ← hbase]
    exact s.mailbox.regs_setBlock j _
  · rw [if_neg hj]
    refine s.mailbox.regs_setBlock_of_ne i _ ?_
    rw [hbase]
    exact blockAddr_ne _ hj

/-- What a turn of the loop leaves of its channel, and what it does. -/
structure Effect where
  block : ChanBase
  calls : List ChanIrqInfo
  reads : List (Fin channels)
  cmds : List Cmd

/-- From `s` to `s'`, channel `i` has had its turn, with effect `e`. -/
structure Turned (env : IsrEnv) (s s' : IsrState) (i : Fin channels) (e : Effect) : Prop where
  mbox : s'.mailbox.mbox = s.mailbox.mbox
  links : LinksKept s s'
  block : ∀ j, s'.mailbox.ownBlock j = if j = i then e.block else s.mailbox.ownBlock j
  invoked : s'.invoked = s.invoked ++ e.calls
  reads : s'.reads = s.reads ++ e.reads
  cmdq : enqueueAll env s.cmdq e.cmds = some s'.cmdq

/-- The block of a channel after its message has been read. -/
def readBlock (b : ChanBase) : ChanBase := hpscMboxChanEventSetAck (hpscMboxChanEventClearRcv b)

theorem linkMboxRead_own {l : LinkMbox} (mem : Mem) (buf sz : Nat)
    (hbase : (s.mailbox.chan l.chanFrom).base =
      s.mailbox.mbox.base + l.chanFrom.val * chanBaseSize) (j : Fin channels) :
    (linkMboxRead s l mem buf sz).1.mailbox.ownBlock j =
      if j = l.chanFrom then readBlock (s.mailbox.ownBlock l.chanFrom)
      else s.mailbox.ownBlock j := by
  let t : IsrState := { s with reads := s.reads ++ [l.chanFrom] }
  have h₁ := ownBlock_onBlock (s := t) (i := l.chanFrom) hbase hpscMboxChanEventClearRcv
  have h₂ := ownBlock_onBlock (s := t.onBlock l.chanFrom hpscMboxChanEventClearRcv)
    (i := l.chanFrom) hbase hpscMboxChanEventSetAck j
  refine h₂.trans ?_
  by_cases hj : j = l.chanFrom
  · rw [if_pos hj, if_pos hj, h₁, if_pos rfl]
    rfl
  · rw [if_neg hj, if_neg hj, h₁, if_neg hj]

/-- A callback that reads a command. -/
theorem linkRecvCmd_turned {link : Nat} {o : LinkObj} (hbase : (s.mailbox.chan i).base =
      s.mailbox.mbox.base + i.val * chanBaseSize) (ho : s.links link = some o)
    (hi : o.priv.chanFrom = i) {calls : List ChanIrqInfo}
    (hq : (enqueueAll env s.cmdq [⟨readMsg (s.mailbox.ownBlock i), some link⟩]).isSome = true) :
    ∃ s', linkRecvCmd env { s with invoked := s.invoked ++ calls } link = some s' ∧
      Turned env s s' i ⟨readBlock (s.mailbox.ownBlock i), calls, [i],
        [⟨readMsg (s.mailbox.ownBlock i), some link⟩]⟩ := by
  subst hi
  let t : IsrState := { s with invoked := s.invoked ++ calls }
  let cmd : Cmd := ⟨readMsg (s.mailbox.ownBlock o.priv.chanFrom), some link⟩
  let u := (linkMboxRead t o.priv Msg.zero.toMem 0 hpscMsgSize).1
  obtain ⟨p, hp⟩ := cmdEnqueue_eq env u cmd
  have hrc : (enqueueOne env s.cmdq cmd).2 = 0 := by
    by_contra hrc
    simp [enqueueAll, cmd, hrc] at hq
  have hmsg : Msg.ofMem (linkMboxRead t o.priv Msg.zero.toMem 0 hpscMsgSize).2.1 = cmd.msg := by
    show readMsg (s.mailbox.block o.priv.chanFrom) = _
    rw [Mailbox.block, hbase]
    rfl
  refine ⟨(cmdEnqueue env u cmd).1, ?_, ?_⟩
  · have hrun : linkRecvCmd env t link =
        if (cmdEnqueue env u ⟨Msg.ofMem (linkMboxRead t o.priv Msg.zero.toMem 0 hpscMsgSize).2.1,
            some link⟩).2 ≠ 0 then none
        else some (cmdEnqueue env u ⟨Msg.ofMem
            (linkMboxRead t o.priv Msg.zero.toMem 0 hpscMsgSize).2.1, some link⟩).1 := by
      rw [linkRecvCmd, show t.links link = some o from ho]
    rw [hrun, hmsg, if_neg]
    rw [hp]
    exact not_not_intro hrc
  · rw [hp]
    refine ⟨rfl, LinksKept.refl s, ?_, rfl, rfl, ?_⟩
    · exact linkMboxRead_own (s := t) (l := o.priv) Msg.zero.toMem 0 hpscMsgSize hbase
    · exact if_pos hrc

/-- A callback that reads a reply. -/
theorem linkRecvReply_turned {link : Nat} {o : LinkObj} (hbase : (s.mailbox.chan i).base =
      s.mailbox.mbox.base + i.val * chanBaseSize) (ho : s.links link = some o)
    (hi : o.priv.chanFrom = i) {calls : List ChanIrqInfo} (hreply : o.rctx.reply.isSome = true)
    (hlive : o.rctx.tidRequester ≠ idNone → env.alive o.rctx.tidRequester = true) :
    ∃ s', linkRecvReply env { s with invoked := s.invoked ++ calls } link = some s' ∧
      Turned env s s' i ⟨readBlock (s.mailbox.ownBlock i), calls, [i], []⟩ := by
  subst hi
  obtain ⟨buf, hbuf⟩ := Option.isSome_iff_exists.mp hreply
  let t : IsrState := { s with invoked := s.invoked ++ calls }
  let r := linkMboxRead t o.priv t.mem buf o.rctx.replySz
  let c : LinkRequestCtx := { o.rctx with replySzRead := r.2.2 }
  obtain ⟨p, hp⟩ := notifyRequester_some (s := { r.1 with mem := r.2.1 }.setRctx link o c)
    (c := c) hlive
  refine ⟨_, Eq.trans ?_ hp, ⟨rfl, ?_, ?_, rfl, rfl, rfl⟩⟩
  · rw [linkRecvReply, show t.links link = some o from ho]
    dsimp only
    split
    · rename_i q hq
      obtain rfl : q = buf := Option.some.inj (hq.symm.trans hbuf)
      rfl
    · rename_i hnone
      exact absurd (hnone.symm.trans hbuf) (Option.some_ne_none buf).symm
  · exact linksKept_setRctx (s := s) ho rfl rfl
  · exact linkMboxRead_own (s := t) (l := o.priv) t.mem buf o.rctx.replySz hbase

/-- `link_mbox_ack`. -/
theorem linkMboxAck_turned {link : Nat} {o : LinkObj} (hbase : (s.mailbox.chan i).base =
      s.mailbox.mbox.base + i.val * chanBaseSize) (ho : s.links link = some o)
    (hi : o.priv.chanTo = i) {calls : List ChanIrqInfo}
    (hlive : o.rctx.tidRequester ≠ idNone → env.alive o.rctx.tidRequester = true) :
    ∃ s', linkMboxAck env { s with invoked := s.invoked ++ calls } link = some s' ∧
      Turned env s s' i ⟨hpscMboxChanEventClearAck (s.mailbox.ownBlock i), calls, [], []⟩ := by
  subst hi
  let t : IsrState := { s with invoked := s.invoked ++ calls }
  let c : LinkRequestCtx := { o.rctx with txAcked := true }
  obtain ⟨p, hp⟩ := notifyRequester_some (s := t.setRctx link o c) (c := c) hlive
  let u : IsrState := { t.setRctx link o c with pending := p }
  refine ⟨u.onBlock o.priv.chanTo hpscMboxChanEventClearAck, ?_, ⟨rfl, ?_, ?_, rfl, ?_, rfl⟩⟩
  · rw [linkMboxAck, show t.links link = some o from ho]
    exact congrArg (Option.map _) hp
  · exact linksKept_setRctx (s := s) ho rfl rfl
  · exact ownBlock_onBlock (s := u) (i := o.priv.chanTo) hbase hpscMboxChanEventClearAck
  · exact (List.append_nil s.reads).symm

/-- The ISR only clears the event. -/
theorem onBlock_turned (hbase : (s.mailbox.chan i).base =
      s.mailbox.mbox.base + i.val * chanBaseSize) (f : ChanBase → ChanBase) :
    Turned env s (s.onBlock i f) i ⟨f (s.mailbox.ownBlock i), [], [], []⟩ :=
  ⟨rfl, LinksKept.refl s, ownBlock_onBlock hbase f, (List.append_nil s.invoked).symm,
    (List.append_nil s.reads).symm, rfl⟩

/-- The channel has nothing for this ISR. -/
theorem skip_turned (s : IsrState) (i : Fin channels) :
    Turned env s s i ⟨s.mailbox.ownBlock i, [], [], []⟩ := by
  refine ⟨rfl, LinksKept.refl s, fun j => ?_, (List.append_nil s.invoked).symm,
    (List.append_nil s.reads).symm, rfl⟩
  by_cases hj : j = i
  · rw [if_pos hj, hj]
  · rw [if_neg hj]

/-! ## §4 The loop -/

/-- From `s` to `s'`, each channel of `is` has had its turn. -/
structure Done (env : IsrEnv) (s s' : IsrState) (e : Fin channels → Effect)
    (is : List (Fin channels)) : Prop where
  mbox : s'.mailbox.mbox = s.mailbox.mbox
  links : LinksKept s s'
  block : ∀ j, s'.mailbox.ownBlock j = if j ∈ is then (e j).block else s.mailbox.ownBlock j
  invoked : s'.invoked = s.invoked ++ is.flatMap fun i => (e i).calls
  reads : s'.reads = s.reads ++ is.flatMap fun i => (e i).reads
  cmdq : enqueueAll env s.cmdq (is.flatMap fun i => (e i).cmds) = some s'.cmdq

/-- **The loop adds up its turns**: if every channel, with its block as it
was at the start, has a turn with its effect, the channels of a list without
repetitions have it one after the other. -/
theorem isrLoop_done {turn : IsrState → Fin channels → Option IsrState} {e : Fin channels → Effect}
    {s₀ : IsrState} (hturn : ∀ s i, s.mailbox.mbox = s₀.mailbox.mbox → LinksKept s₀ s →
      s.mailbox.ownBlock i = s₀.mailbox.ownBlock i →
      (enqueueAll env s.cmdq (e i).cmds).isSome = true →
      ∃ s', turn s i = some s' ∧ Turned env s s' i (e i))
    (is : List (Fin channels)) (hnodup : is.Nodup) (s : IsrState)
    (hmbox : s.mailbox.mbox = s₀.mailbox.mbox) (hlinks : LinksKept s₀ s)
    (hown : ∀ i ∈ is, s.mailbox.ownBlock i = s₀.mailbox.ownBlock i)
    (hq : (enqueueAll env s.cmdq (is.flatMap fun i => (e i).cmds)).isSome = true) :
    ∃ s', is.foldlM turn s = some s' ∧ Done env s s' e is := by
  induction is generalizing s with
  | nil =>
    refine ⟨s, rfl, rfl, LinksKept.refl s, fun j => ?_, ?_, ?_, rfl⟩
    · rw [if_neg (List.not_mem_nil)]
    · exact (List.append_nil s.invoked).symm
    · exact (List.append_nil s.reads).symm
  | cons i is ih =>
    obtain ⟨hnot, hnodup⟩ := List.nodup_cons.mp hnodup
    rw [List.flatMap_cons, enqueueAll_append] at hq
    obtain ⟨q, hqi⟩ : ∃ q, enqueueAll env s.cmdq (e i).cmds = some q := by
      cases hqi : enqueueAll env s.cmdq (e i).cmds with
      | none => simp [hqi] at hq
      | some q => exact ⟨q, rfl⟩
    obtain ⟨t, hs, ht⟩ := hturn s i hmbox hlinks (hown i List.mem_cons_self) (by rw [hqi]; rfl)
    obtain rfl : q = t.cmdq := Option.some.inj (hqi.symm.trans ht.cmdq)
    rw [hqi, Option.bind_some] at hq
    have hown' : ∀ j ∈ is, t.mailbox.ownBlock j = s₀.mailbox.ownBlock j := by
      intro j hj
      have hne : j ≠ i := fun h => hnot (h ▸ hj)
      rw [ht.block, if_neg hne]
      exact hown j (List.mem_cons_of_mem i hj)
    obtain ⟨s', hrun, hd⟩ := ih hnodup t (ht.mbox.trans hmbox) (hlinks.trans ht.links) hown' hq
    refine ⟨s', by rw [List.foldlM_cons, hs]; exact hrun, hd.mbox.trans ht.mbox,
      ht.links.trans hd.links, fun j => ?_, ?_, ?_, ?_⟩
    · rw [hd.block, ht.block]
      by_cases hj : j = i
      · subst hj
        rw [if_neg hnot, if_pos rfl, if_pos List.mem_cons_self]
      · simp only [List.mem_cons, hj, false_or, if_false]
    · rw [hd.invoked, ht.invoked, List.flatMap_cons, List.append_assoc]
    · rw [hd.reads, ht.reads, List.flatMap_cons, List.append_assoc]
    · rw [List.flatMap_cons, enqueueAll_append, hqi, Option.bind_some]
      exact hd.cmdq

/-! ## §5 The turns of the two ISRs -/

/-- Channel `i` is active, has the event pending and the interrupt enabled. -/
def subscribed (s : Mailbox) (i : Fin channels) (event interrupt : Word) : Bool :=
  (s.chan i).active && hasEvent (s.ownBlock i).event event &&
    hasEvent (s.ownBlock i).enable interrupt

/-- Has the channel to be served by ISR A of the driver? -/
def subscribedA (s : Mailbox) (i : Fin channels) : Bool :=
  subscribed s i eventA (intA s.mbox.intA.idx)

/-- Has the channel to be served by ISR B of the driver? -/
def subscribedB (s : Mailbox) (i : Fin channels) : Bool :=
  subscribed s i eventB (intB s.mbox.intB.idx)

theorem isSubscribed_eq (hl : Linked s) (i : Fin channels) (event interrupt : Word) :
    hpscMboxChanIsSubscribed s.mailbox i event interrupt =
      subscribed s.mailbox i event interrupt := by
  unfold hpscMboxChanIsSubscribed subscribed
  cases hact : (s.mailbox.chan i).active with
  | false => rfl
  | true =>
    rw [(hl i hact).block]
    cases hasEvent (s.mailbox.ownBlock i).event event <;>
      cases hasEvent (s.mailbox.ownBlock i).enable interrupt <;> rfl

theorem isrTurn_skip (hl : Linked s) {event interrupt : Word}
    (cb : IsrState → Fin channels → Option IsrState)
    (hsub : subscribed s.mailbox i event interrupt = false) :
    isrTurn event interrupt cb s i = some s := by
  rw [isrTurn, isSubscribed_eq hl, hsub]
  rfl

theorem isrTurn_serve (hl : Linked s) {event interrupt : Word}
    (cb : IsrState → Fin channels → Option IsrState)
    (hsub : subscribed s.mailbox i event interrupt = true) :
    isrTurn event interrupt cb s i = cb s i ∧ (s.mailbox.chan i).active = true := by
  constructor
  · rw [isrTurn, isSubscribed_eq hl, hsub]
    rfl
  · simp only [subscribed, Bool.and_eq_true] at hsub
    exact hsub.1.1

/-- What ISR A does on channel `i`. -/
def effectA (s : Mailbox) (i : Fin channels) : Effect :=
  let b := s.ownBlock i
  let info := (s.chan i).intA
  if subscribedA s i then
    match info.cb with
    | some cb =>
      ⟨readBlock b, [info], [i], if cb = .linkRecvCmd then [⟨readMsg b, info.arg⟩] else []⟩
    | none => ⟨hpscMboxChanEventClearRcv b, [], [], []⟩
  else ⟨b, [], [], []⟩

/-- What ISR B does on channel `i`. -/
def effectB (s : Mailbox) (i : Fin channels) : Effect :=
  let b := s.ownBlock i
  let info := (s.chan i).intB
  if subscribedB s i then
    ⟨hpscMboxChanEventClearAck b, if info.cb.isSome then [info] else [], [], []⟩
  else ⟨b, [], [], []⟩

/-- The effects depend on the record and the block of the channel. -/
theorem effect_congr {m m' : Mailbox} (hmbox : m'.mbox = m.mbox)
    (hown : m'.ownBlock i = m.ownBlock i) :
    effectA m' i = effectA m i ∧ effectB m' i = effectB m i := by
  have hchan : m'.chan i = m.chan i := by rw [Mailbox.chan, hmbox]; rfl
  have hA : subscribedA m' i = subscribedA m i := by
    simp only [subscribedA, subscribed, hchan, hown, hmbox]
  have hB : subscribedB m' i = subscribedB m i := by
    simp only [subscribedB, subscribed, hchan, hown, hmbox]
  exact ⟨by rw [effectA, effectA, hA, hchan, hown], by rw [effectB, effectB, hB, hchan, hown]⟩

theorem isrA_turned (hl : Linked s) (hr : ReplyBuffers s) (hlive : LiveRequesters env s)
    (i : Fin channels) (hq : (enqueueAll env s.cmdq (effectA s.mailbox i).cmds).isSome = true) :
    ∃ s', isrTurn eventA (intA s.mailbox.mbox.intA.idx) (hpscMboxChanIsrA env) s i = some s' ∧
      Turned env s s' i (effectA s.mailbox i) := by
  unfold effectA at hq ⊢
  cases hsub : subscribedA s.mailbox i with
  | false => exact ⟨s, isrTurn_skip hl _ hsub, skip_turned s i⟩
  | true =>
    obtain ⟨hturn, hact⟩ := isrTurn_serve hl (hpscMboxChanIsrA env) hsub
    have hof := hl i hact
    have hbase := hof.base
    rw [hturn, if_pos rfl, hpscMboxChanIsrA]
    rw [hsub, if_pos rfl] at hq
    cases hof with
    | receive a link o record hlink hchan =>
      have hinfo : (s.mailbox.chan i).intA = ⟨some (rcvCb a.server), some link⟩ := by
        rw [record]
        rfl
      rw [hinfo] at hq ⊢
      by_cases hserver : a.server ≠ 0
      · have hcb : rcvCb a.server = .linkRecvCmd := if_pos hserver
        rw [hcb] at hq ⊢
        exact linkRecvCmd_turned hbase hlink hchan hq
      · have hcb : rcvCb a.server = .linkRecvReply := if_neg hserver
        rw [hcb] at hinfo ⊢
        exact linkRecvReply_turned hbase hlink hchan (hr i link o hact hinfo hlink)
          (hlive link o hlink)
    | send a link o record hlink hchan =>
      have hinfo : (s.mailbox.chan i).intA = ⟨none, some link⟩ := by
        rw [record]
        rfl
      rw [hinfo]
      exact ⟨_, rfl, onBlock_turned hbase hpscMboxChanEventClearRcv⟩

theorem isrB_turned (hl : Linked s) (hlive : LiveRequesters env s) (i : Fin channels) :
    ∃ s', isrTurn eventB (intB s.mailbox.mbox.intB.idx) (hpscMboxChanIsrB env) s i = some s' ∧
      Turned env s s' i (effectB s.mailbox i) := by
  unfold effectB
  cases hsub : subscribedB s.mailbox i with
  | false => exact ⟨s, isrTurn_skip hl _ hsub, skip_turned s i⟩
  | true =>
    obtain ⟨hturn, hact⟩ := isrTurn_serve hl (hpscMboxChanIsrB env) hsub
    have hof := hl i hact
    have hbase := hof.base
    rw [hturn, if_pos rfl, hpscMboxChanIsrB]
    cases hof with
    | receive a link o record hlink hchan =>
      have hinfo : (s.mailbox.chan i).intB = ⟨none, some link⟩ := by
        rw [record]
        rfl
      rw [hinfo]
      exact ⟨_, rfl, onBlock_turned hbase hpscMboxChanEventClearAck⟩
    | send a link o record hlink hchan =>
      have hinfo : (s.mailbox.chan i).intB = ⟨some .linkMboxAck, some link⟩ := by
        rw [record]
        rfl
      rw [hinfo]
      exact linkMboxAck_turned hbase hlink hchan (hlive link o hlink)

/-! ## §6 What the ISRs serve -/

/-- The channels ISR A calls a callback for. -/
def servedA (s : Mailbox) : List (Fin channels) :=
  (List.finRange channels).filter fun i => subscribedA s i && (s.chan i).intA.cb.isSome

/-- The channels ISR B calls a callback for. -/
def servedB (s : Mailbox) : List (Fin channels) :=
  (List.finRange channels).filter fun i => subscribedB s i && (s.chan i).intB.cb.isSome

/-- The commands ISR A reads. -/
def received (s : Mailbox) : List Cmd :=
  (List.finRange channels).flatMap fun i => (effectA s i).cmds

/-- ISR A has served the pending subscriptions and nothing else. -/
structure ServedA (env : IsrEnv) (s s' : IsrState) : Prop where
  mbox : s'.mailbox.mbox = s.mailbox.mbox
  /-- Each callback once. -/
  invoked : s'.invoked = s.invoked ++ (servedA s.mailbox).map fun i => (s.mailbox.chan i).intA
  /-- It is a callback of the link that receives on the channel. -/
  own : ∀ i ∈ servedA s.mailbox, ∃ link o, (s.mailbox.chan i).intA.arg = some link ∧
    s.links link = some o ∧ o.priv.chanFrom = i
  reads : s'.reads = s.reads ++ servedA s.mailbox
  commands : enqueueAll env s.cmdq (received s.mailbox) = some s'.cmdq
  block : ∀ i, s'.mailbox.ownBlock i =
    if i ∈ servedA s.mailbox then readBlock (s.mailbox.ownBlock i)
    else if subscribedA s.mailbox i then hpscMboxChanEventClearRcv (s.mailbox.ownBlock i)
    else s.mailbox.ownBlock i
  eventA : ∀ i, hasEvent (s'.mailbox.ownBlock i).event eventA =
    (hasEvent (s.mailbox.ownBlock i).event eventA && !subscribedA s.mailbox i)
  eventB : ∀ i, hasEvent (s'.mailbox.ownBlock i).event eventB =
    (hasEvent (s.mailbox.ownBlock i).event eventB || decide (i ∈ servedA s.mailbox))
  /-- Nothing is left for ISR A. -/
  settled : ∀ i, subscribedA s'.mailbox i = false

/-- ISR B has served the pending subscriptions and nothing else. -/
structure ServedB (s s' : IsrState) : Prop where
  mbox : s'.mailbox.mbox = s.mailbox.mbox
  /-- Each callback once. -/
  invoked : s'.invoked = s.invoked ++ (servedB s.mailbox).map fun i => (s.mailbox.chan i).intB
  /-- It is `link_mbox_ack` of the link that sends on the channel. -/
  own : ∀ i ∈ servedB s.mailbox, ∃ link o,
    (s.mailbox.chan i).intB = ⟨some .linkMboxAck, some link⟩ ∧
      s.links link = some o ∧ o.priv.chanTo = i
  reads : s'.reads = s.reads
  commands : s'.cmdq = s.cmdq
  block : ∀ i, s'.mailbox.ownBlock i =
    if subscribedB s.mailbox i then hpscMboxChanEventClearAck (s.mailbox.ownBlock i)
    else s.mailbox.ownBlock i
  eventB : ∀ i, hasEvent (s'.mailbox.ownBlock i).event eventB =
    (hasEvent (s.mailbox.ownBlock i).event eventB && !subscribedB s.mailbox i)
  /-- Nothing is left for ISR B. -/
  settled : ∀ i, subscribedB s'.mailbox i = false

theorem flatMap_guard {α β : Type*} (p : α → Bool) (f : α → β) (l : List α) :
    (l.flatMap fun a => if p a then [f a] else []) = (l.filter p).map f := by
  induction l with
  | nil => rfl
  | cons a l ih =>
    rw [List.flatMap_cons, ih]
    cases hp : p a
    · rw [List.filter_cons_of_neg (by simp [hp])]
      rfl
    · rw [List.filter_cons_of_pos hp]
      rfl

theorem mem_servedA (s : Mailbox) (i : Fin channels) :
    i ∈ servedA s ↔ subscribedA s i = true ∧ (s.chan i).intA.cb.isSome = true := by
  rw [servedA, List.mem_filter, Bool.and_eq_true]
  exact ⟨fun h => h.2, fun h => ⟨List.mem_finRange i, h⟩⟩

theorem mem_servedB (s : Mailbox) (i : Fin channels) :
    i ∈ servedB s ↔ subscribedB s i = true ∧ (s.chan i).intB.cb.isSome = true := by
  rw [servedB, List.mem_filter, Bool.and_eq_true]
  exact ⟨fun h => h.2, fun h => ⟨List.mem_finRange i, h⟩⟩

/-- A served channel is one of a link. -/
theorem subscribed_active {s : Mailbox} {event interrupt : Word}
    (h : subscribed s i event interrupt = true) : (s.chan i).active = true := by
  simp only [subscribed, Bool.and_eq_true] at h
  exact h.1.1

theorem effectA_eq (s : Mailbox) (i : Fin channels) :
    (effectA s i).block = (if i ∈ servedA s then readBlock (s.ownBlock i)
        else if subscribedA s i then hpscMboxChanEventClearRcv (s.ownBlock i) else s.ownBlock i) ∧
      (effectA s i).calls = (if subscribedA s i && (s.chan i).intA.cb.isSome then
        [(s.chan i).intA] else []) ∧
      (effectA s i).reads = if subscribedA s i && (s.chan i).intA.cb.isSome then [i] else [] := by
  simp only [effectA, mem_servedA]
  cases subscribedA s i with
  | false => exact ⟨rfl, rfl, rfl⟩
  | true => cases (s.chan i).intA.cb <;> exact ⟨rfl, rfl, rfl⟩

theorem effectB_eq (s : Mailbox) (i : Fin channels) :
    (effectB s i).block = (if subscribedB s i then hpscMboxChanEventClearAck (s.ownBlock i)
        else s.ownBlock i) ∧
      (effectB s i).calls = (if subscribedB s i && (s.chan i).intB.cb.isSome then
        [(s.chan i).intB] else []) ∧
      (effectB s i).reads = [] ∧ (effectB s i).cmds = [] := by
  simp only [effectB]
  cases subscribedB s i with
  | false => exact ⟨rfl, rfl, rfl, rfl⟩
  | true => exact ⟨rfl, rfl, rfl, rfl⟩

/-! ## §7 The ISRs -/

theorem isrA_done (hl : Linked s) (hr : ReplyBuffers s) (hlive : LiveRequesters env s)
    (hq : (enqueueAll env s.cmdq (received s.mailbox)).isSome = true) :
    ∃ s', hpscMboxIsrA env s = some s' ∧
      Done env s s' (effectA s.mailbox) (List.finRange channels) := by
  refine isrLoop_done (fun t i hmbox hlinks hown hq => ?_) _ (List.nodup_finRange channels) s rfl
    (LinksKept.refl s) (fun _ _ => rfl) hq
  have heffect : effectA t.mailbox i = effectA s.mailbox i := (effect_congr hmbox hown).1
  rw [← heffect] at hq ⊢
  rw [← hmbox]
  exact isrA_turned (hl.congr hmbox hlinks) (hr.congr hmbox hlinks) (hlive.congr hlinks) i hq

theorem isrB_done (hl : Linked s) (hlive : LiveRequesters env s) :
    ∃ s', hpscMboxIsrB env s = some s' ∧
      Done env s s' (effectB s.mailbox) (List.finRange channels) := by
  have hnone : (List.finRange channels).flatMap (fun i => (effectB s.mailbox i).cmds) = [] :=
    List.flatMap_eq_nil_iff.mpr fun i _ => (effectB_eq s.mailbox i).2.2.2
  refine isrLoop_done (fun t i hmbox hlinks hown _ => ?_) _ (List.nodup_finRange channels) s rfl
    (LinksKept.refl s) (fun _ _ => rfl) (by rw [hnone]; rfl)
  have heffect : effectB t.mailbox i = effectB s.mailbox i := (effect_congr hmbox hown).2
  rw [← heffect, ← hmbox]
  exact isrB_turned (hl.congr hmbox hlinks) (hlive.congr hlinks) i

theorem readBlock_events (b : ChanBase) : hasEvent (readBlock b).event eventA = false ∧
    hasEvent (readBlock b).event eventB = true :=
  ⟨(mboxMedium.isNew_setAck _ true).trans (mboxMedium.isNew_setNew b false),
    mboxMedium.isAck_setAck _ true⟩

/-- With its event clear a channel has nothing for the ISR. -/
theorem subscribed_settled {m m' : Mailbox} {event interrupt : Word} (hmbox : m'.mbox = m.mbox)
    (henable : (m'.ownBlock i).enable = (m.ownBlock i).enable)
    (hevent : hasEvent (m'.ownBlock i).event event =
      (hasEvent (m.ownBlock i).event event && !subscribed m i event interrupt)) :
    subscribed m' i event interrupt = false := by
  have hchan : m'.chan i = m.chan i := by rw [Mailbox.chan, hmbox]; rfl
  rw [subscribed, hchan, hevent, henable, subscribed]
  cases (m.chan i).active <;> cases hasEvent (m.ownBlock i).event event <;>
    cases hasEvent (m.ownBlock i).enable interrupt <;> rfl

theorem servedA_of_done (hl : Linked s)
    (hd : Done env s s' (effectA s.mailbox) (List.finRange channels)) : ServedA env s s' := by
  have hblock : ∀ i, s'.mailbox.ownBlock i =
      if i ∈ servedA s.mailbox then readBlock (s.mailbox.ownBlock i)
      else if subscribedA s.mailbox i then hpscMboxChanEventClearRcv (s.mailbox.ownBlock i)
      else s.mailbox.ownBlock i := by
    intro i
    rw [hd.block, if_pos (List.mem_finRange i)]
    exact (effectA_eq s.mailbox i).1
  have hclear := fun b => mboxMedium.isNew_setNew b false
  have hevents : ∀ i, hasEvent (s'.mailbox.ownBlock i).event eventA =
        (hasEvent (s.mailbox.ownBlock i).event eventA && !subscribedA s.mailbox i) ∧
      hasEvent (s'.mailbox.ownBlock i).event eventB =
        (hasEvent (s.mailbox.ownBlock i).event eventB || decide (i ∈ servedA s.mailbox)) := by
    intro i
    rw [hblock]
    by_cases hserved : i ∈ servedA s.mailbox
    · obtain ⟨hA, hB⟩ := readBlock_events (s.mailbox.ownBlock i)
      rw [if_pos hserved, hA, hB, ((mem_servedA _ _).mp hserved).1, decide_eq_true hserved]
      simp
    · rw [if_neg hserved, decide_eq_false hserved]
      cases subscribedA s.mailbox i with
      | false => simp
      | true =>
        refine ⟨(hclear (s.mailbox.ownBlock i)).trans (by simp), ?_⟩
        exact (mboxMedium.isAck_setNew (s.mailbox.ownBlock i) false).trans (by simp [mboxMedium])
  refine ⟨hd.mbox, ?_, fun i hi => ?_, ?_, hd.cmdq, hblock, fun i => (hevents i).1,
    fun i => (hevents i).2, fun i => ?_⟩
  · rw [hd.invoked, servedA, ← flatMap_guard]
    exact congrArg _ (List.flatMap_congr fun i _ => (effectA_eq s.mailbox i).2.1)
  · obtain ⟨hsub, hcb⟩ := (mem_servedA s.mailbox i).mp hi
    cases hl i (subscribed_active hsub) with
    | receive a link o record hlink hchan => exact ⟨link, o, by rw [record]; rfl, hlink, hchan⟩
    | send a link o record hlink hchan =>
      rw [record] at hcb
      cases hcb
  · rw [hd.reads, ← List.map_id (servedA s.mailbox), servedA, ← flatMap_guard]
    exact congrArg _ (List.flatMap_congr fun i _ => (effectA_eq s.mailbox i).2.2)
  · rw [subscribedA, hd.mbox]
    refine subscribed_settled hd.mbox ?_ (hevents i).1
    rw [hblock]
    split
    · rfl
    · split <;> rfl

theorem servedB_of_done (hl : Linked s)
    (hd : Done env s s' (effectB s.mailbox) (List.finRange channels)) : ServedB s s' := by
  have hblock : ∀ i, s'.mailbox.ownBlock i =
      if subscribedB s.mailbox i then hpscMboxChanEventClearAck (s.mailbox.ownBlock i)
      else s.mailbox.ownBlock i := by
    intro i
    rw [hd.block, if_pos (List.mem_finRange i)]
    exact (effectB_eq s.mailbox i).1
  have hevent : ∀ i, hasEvent (s'.mailbox.ownBlock i).event eventB =
      (hasEvent (s.mailbox.ownBlock i).event eventB && !subscribedB s.mailbox i) := by
    intro i
    rw [hblock]
    cases subscribedB s.mailbox i with
    | false => simp
    | true => exact (mboxMedium.isAck_setAck (s.mailbox.ownBlock i) false).trans (by simp)
  have hnone : (List.finRange channels).flatMap (fun i => (effectB s.mailbox i).cmds) = [] :=
    List.flatMap_eq_nil_iff.mpr fun i _ => (effectB_eq s.mailbox i).2.2.2
  have hread : (List.finRange channels).flatMap (fun i => (effectB s.mailbox i).reads) = [] :=
    List.flatMap_eq_nil_iff.mpr fun i _ => (effectB_eq s.mailbox i).2.2.1
  refine ⟨hd.mbox, ?_, fun i hi => ?_, ?_, ?_, hblock, hevent, fun i => ?_⟩
  · rw [hd.invoked, servedB, ← flatMap_guard]
    exact congrArg _ (List.flatMap_congr fun i _ => (effectB_eq s.mailbox i).2.1)
  · obtain ⟨hsub, hcb⟩ := (mem_servedB s.mailbox i).mp hi
    cases hl i (subscribed_active hsub) with
    | receive a link o record hlink hchan =>
      rw [record] at hcb
      cases hcb
    | send a link o record hlink hchan => exact ⟨link, o, by rw [record]; rfl, hlink, hchan⟩
  · rw [hd.reads, hread, List.append_nil]
  · have hq := hd.cmdq
    rw [hnone] at hq
    exact (Option.some.inj hq).symm
  · rw [subscribedB, hd.mbox]
    refine subscribed_settled hd.mbox ?_ (hevent i)
    rw [hblock]
    split <;> rfl

/-- **The mailbox ISRs serve exactly the pending subscriptions**, for any
links connected to the mailbox and any events pending on its channels. -/
theorem isr_serves_pending (env : IsrEnv) (s : IsrState) (hl : Linked s)
    (hlive : LiveRequesters env s) :
    (ReplyBuffers s → (enqueueAll env s.cmdq (received s.mailbox)).isSome = true →
      ∃ s', hpscMboxIsrA env s = some s' ∧ ServedA env s s') ∧
    ∃ s', hpscMboxIsrB env s = some s' ∧ ServedB s s' := by
  constructor
  · intro hr hq
    obtain ⟨s', hrun, hd⟩ := isrA_done hl hr hlive hq
    exact ⟨s', hrun, servedA_of_done hl hd⟩
  · obtain ⟨s', hrun, hd⟩ := isrB_done hl hlive
    exact ⟨s', hrun, servedB_of_done hl hd⟩

/-! ## §8 Connecting and closing -/

/-- Some channels may have been destroyed on the way from `s` to `t`. -/
structure Lost (s t : Mailbox) : Prop where
  base : t.mbox.base = s.mbox.base
  chan : ∀ i, t.chan i = s.chan i ∨ (t.chan i).active = false

theorem Lost.refl (s : Mailbox) : Lost s s := ⟨rfl, fun _ => Or.inl rfl⟩

theorem Lost.trans {s t u : Mailbox} (h : Lost s t) (h' : Lost t u) : Lost s u := by
  refine ⟨h'.base.trans h.base, fun i => ?_⟩
  rcases h'.chan i with heq | hoff
  · rw [heq]
    exact h.chan i
  · exact Or.inr hoff

theorem lost_of_frame {s t : Mailbox} {i : Fin channels} (hf : Frame i s t)
    (hi : t.chan i = s.chan i ∨ (t.chan i).active = false) : Lost s t := by
  refine ⟨hf.base, fun j => ?_⟩
  by_cases hj : j = i
  · rw [hj]
    exact hi
  · exact Or.inl (hf.chan j hj)

theorem destroy_lost {s t : Mailbox} (h : t.mbox = s.mbox) (i : Fin channels) :
    Lost s (hpscMboxChanDestroy t i) :=
  Lost.trans ⟨congrArg HpscMbox.base h, fun j => Or.inl (by rw [Mailbox.chan, h]; rfl)⟩
    (lost_of_frame (destroy_frame t i) (Or.inr (hpscMboxChanDestroy_active t i)))

theorem release_lost (env : CallEnv) (s : Mailbox) (i : Fin channels) :
    Lost s (hpscMboxChanRelease env s i).1 := by
  simp only [hpscMboxChanRelease]
  split
  · exact Lost.refl s
  · dsimp only
    split
    · refine destroy_lost ?_ i
      rfl
    · refine destroy_lost ?_ i
      rfl

theorem release_active {env : CallEnv} (hisr : env.inIsr = false) (s : Mailbox)
    (i : Fin channels) : ((hpscMboxChanRelease env s i).1.chan i).active = false := by
  simp only [hpscMboxChanRelease, hisr]
  exact hpscMboxChanDestroy_active _ i

/-- A claim makes the record its own, or fails. -/
theorem claim_records (env : CallEnv) (s : Mailbox) (i : Fin channels) (a : ClaimArgs) :
    ((hpscMboxChanClaim env s i a).2 = .successful → env.inIsr = false ∧
      (hpscMboxChanClaim env s i a).1.chan i = initChan s.mbox.base i.val a) ∧
    ((hpscMboxChanClaim env s i a).2 ≠ .successful → Lost s (hpscMboxChanClaim env s i a).1) := by
  cases hisr : env.inIsr with
  | true =>
    have hclaim : hpscMboxChanClaim env s i a = (s, .calledFromIsr) := by
      rw [hpscMboxChanClaim, if_pos hisr]
    rw [hclaim]
    exact ⟨fun h => (by cases h), fun _ => Lost.refl s⟩
  | false =>
    cases hact : (s.chan i).active with
    | true =>
      rw [claim_active env hisr hact]
      exact ⟨fun h => (by cases h), fun _ => destroy_lost rfl i⟩
    | false =>
      rcases claim_inactive env hisr hact a with h | ⟨sc, hsc, h⟩
      · rw [h]
        exact ⟨fun _ => ⟨rfl, claimedState_chan s i a⟩, fun h => absurd rfl h⟩
      · rw [h]
        refine ⟨fun h => absurd h hsc, fun _ => ?_⟩
        exact lost_of_frame ((init_frame s i a).trans (destroy_frame _ i))
          (Or.inr (hpscMboxChanDestroy_active _ i))

theorem Linked.lost (hl : Linked s) {m : Mailbox} (h : Lost s.mailbox m) :
    Linked { s with mailbox := m } := by
  intro i hact
  rcases h.chan i with heq | hoff
  · have hact' : (m.chan i).active = true := hact
    rw [heq] at hact'
    cases hl i hact' with
    | receive a link o record hlink hchan =>
      exact .receive a link o (heq.trans (by rw [record, h.base])) hlink hchan
    | send a link o record hlink hchan =>
      exact .send a link o (heq.trans (by rw [record, h.base])) hlink hchan
  · exact absurd (hoff.symm.trans hact) Bool.false_ne_true

/-- A mailbox just probed has no active channel. -/
theorem linked_init (h : ∀ i, (s.mailbox.chan i).active = false) : Linked s :=
  fun i hact => absurd ((h i).symm.trans hact) Bool.false_ne_true

/-- A new link, and the two channels it has claimed. -/
theorem linked_claims (hl : Linked s) {m : Mailbox} {a : ConnectArgs} {link : Nat} {o : LinkObj}
    (hfresh : s.links link = none) (hpriv : o.priv = ⟨a.idxFrom, a.idxTo⟩)
    (hbase : m.mbox.base = s.mailbox.mbox.base)
    (hothers : ∀ i, i ≠ a.idxTo → i ≠ a.idxFrom → m.chan i = s.mailbox.chan i)
    (hfrom : a.idxFrom ≠ a.idxTo →
      m.chan a.idxFrom = initChan s.mailbox.mbox.base a.idxFrom.val (claimFrom a link))
    (hto : m.chan a.idxTo = initChan s.mailbox.mbox.base a.idxTo.val (claimTo a link)) :
    Linked { s with mailbox := m, links := Function.update s.links link (some o) } := by
  have hnew : Function.update s.links link (some o) link = some o := Function.update_self _ _ _
  have hold : ∀ l o', s.links l = some o' → Function.update s.links link (some o) l = some o' := by
    intro l o' ho'
    have hne : l ≠ link := fun h => by rw [h, hfresh] at ho'; cases ho'
    exact (Function.update_of_ne hne _ _).trans ho'
  intro i hact
  by_cases hit : i = a.idxTo
  · subst hit
    refine .send a link o ?_ hnew (by rw [hpriv])
    rw [hbase]
    exact hto
  · by_cases hif : i = a.idxFrom
    · subst hif
      refine .receive a link o ?_ hnew (by rw [hpriv])
      rw [hbase]
      exact hfrom hit
    · have hchan := hothers i hit hif
      have hact' : (m.chan i).active = true := hact
      rw [hchan] at hact'
      cases hl i hact' with
      | receive a' l o' record hlink hi =>
        refine .receive a' l o' ?_ (hold l o' hlink) hi
        rw [hbase]
        exact hchan.trans record
      | send a' l o' record hlink hi =>
        refine .send a' l o' ?_ (hold l o' hlink) hi
        rw [hbase]
        exact hchan.trans record

/-- **Connecting** to a mailbox keeps its channels linked, whether it
succeeds or not. -/
theorem linked_connect (hl : Linked s) (env : ConnectEnv) (a : ConnectArgs) (rctx : LinkRequestCtx)
    (hfresh : ∀ link, env.mallocLink = some link → s.links link = none) :
    Linked (connect env s a rctx) := by
  cases hlink : env.mallocLink with
  | none =>
    have hconn : linkMboxConnect env s.mailbox a = (s.mailbox, none) := by
      rw [linkMboxConnect, hlink]
    rw [connect, hconn]
    exact hl
  | some link =>
    cases hmlink : env.mallocMlink with
    | none =>
      have hconn : linkMboxConnect env s.mailbox a = (s.mailbox, none) := by
        rw [linkMboxConnect, hlink, hmlink]
      rw [connect, hconn]
      exact hl
    | some mlink =>
      have hf₁ := claim_frame ⟨env.inIsr, env.takesFrom⟩ s.mailbox a.idxFrom (claimFrom a link)
      obtain ⟨hok₁, hfail₁⟩ :=
        claim_records ⟨env.inIsr, env.takesFrom⟩ s.mailbox a.idxFrom (claimFrom a link)
      unfold connect linkMboxConnect
      simp only [hlink, hmlink]
      generalize hpscMboxChanClaim ⟨env.inIsr, env.takesFrom⟩ s.mailbox a.idxFrom
        (claimFrom a link) = c₁ at hf₁ hok₁ hfail₁ ⊢
      obtain ⟨m₁, sc₁⟩ := c₁
      by_cases hsc₁ : sc₁ = .successful
      · have hf₂ := claim_frame ⟨env.inIsr, env.takesTo⟩ m₁ a.idxTo (claimTo a link)
        obtain ⟨hok₂, hfail₂⟩ := claim_records ⟨env.inIsr, env.takesTo⟩ m₁ a.idxTo (claimTo a link)
        rw [if_neg (not_not_intro hsc₁)]
        generalize hpscMboxChanClaim ⟨env.inIsr, env.takesTo⟩ m₁ a.idxTo (claimTo a link) = c₂
          at hf₂ hok₂ hfail₂ ⊢
        obtain ⟨m₂, sc₂⟩ := c₂
        obtain ⟨hisr, hfromRec⟩ := hok₁ hsc₁
        by_cases hsc₂ : sc₂ = .successful
        · rw [if_neg (not_not_intro hsc₂)]
          refine linked_claims hl (hfresh link hlink) rfl (hf₂.base.trans hf₁.base)
            (fun i hto hfrom => (hf₂.chan i hto).trans (hf₁.chan i hfrom))
            (fun hne => (hf₂.chan _ hne).trans hfromRec) ?_
          rw [← hf₁.base]
          exact (hok₂ hsc₂).2
        · rw [if_pos hsc₂]
          refine hl.lost ⟨?_, fun i => ?_⟩
          · exact (release_lost _ m₂ a.idxFrom).base.trans (hf₂.base.trans hf₁.base)
          · by_cases hfrom : i = a.idxFrom
            · subst hfrom
              exact Or.inr (@release_active ⟨env.inIsr, env.takesUndo⟩ hisr m₂ a.idxFrom)
            · have hlost :=
                (hfail₂ hsc₂).trans (release_lost ⟨env.inIsr, env.takesUndo⟩ m₂ a.idxFrom)
              rw [← hf₁.chan i hfrom]
              exact hlost.chan i
      · rw [if_pos hsc₁]
        exact hl.lost (hfail₁ hsc₁)

/-- **Closing** a link releases both its channels before it is freed. -/
theorem linked_close (hl : Linked s) {envFrom envTo : CallEnv} (hfrom : envFrom.inIsr = false)
    (hto : envTo.inIsr = false) {link : Nat} (hs : close envFrom envTo s link = some s') :
    Linked s' := by
  obtain ⟨o, ho, rfl⟩ := Option.map_eq_some_iff.mp hs
  let m₁ := (hpscMboxChanRelease envFrom s.mailbox o.priv.chanFrom).1
  let m₂ := (hpscMboxChanRelease envTo m₁ o.priv.chanTo).1
  have hlost₂ : Lost m₁ m₂ := release_lost envTo m₁ o.priv.chanTo
  have hlost : Lost s.mailbox m₂ := (release_lost envFrom s.mailbox o.priv.chanFrom).trans hlost₂
  have hoffFrom : (m₂.chan o.priv.chanFrom).active = false := by
    rcases hlost₂.chan o.priv.chanFrom with heq | hoff
    · rw [heq]
      exact release_active hfrom s.mailbox o.priv.chanFrom
    · exact hoff
  have hoffTo : (m₂.chan o.priv.chanTo).active = false := release_active hto m₁ o.priv.chanTo
  intro i hact
  have hne : ∀ l o', s.links l = some o' → o'.priv.chanFrom = i ∨ o'.priv.chanTo = i →
      l ≠ link := by
    rintro l o' ho' hi rfl
    obtain rfl : o' = o := Option.some.inj (ho'.symm.trans ho)
    rcases hi with rfl | rfl
    · exact absurd (hoffFrom.symm.trans hact) Bool.false_ne_true
    · exact absurd (hoffTo.symm.trans hact) Bool.false_ne_true
  cases hl.lost hlost i hact with
  | receive a l o' record hlink hchan =>
    refine .receive a l o' record ?_ hchan
    exact (Function.update_of_ne (hne l o' hlink (Or.inl hchan)) _ _).trans hlink
  | send a l o' record hlink hchan =>
    refine .send a l o' record ?_ hchan
    exact (Function.update_of_ne (hne l o' hlink (Or.inr hchan)) _ _).trans hlink

/-! ## §9 Examples -/

/-- A mailbox just probed, with both events pending on every channel and the
bit INT_B of its driver left enabled. -/
def leftover : Mailbox :=
  { probed with regs := fun _ => ⟨0, eventA ||| eventB, intB 1, fun _ => 0⟩ }

/-- A server connects a link on channels 0 and 1 to it. -/
def leftoverServer : IsrState :=
  connect ⟨some 7, some 8, false, true, true, true⟩
    ⟨leftover, fun _ => none, fun _ => 0#8, .init, fun _ => 0#32, [], []⟩ ⟨0, 1, 0x2e, 0x2d⟩
    ⟨idNone, 0#32, false, none, 0, 0⟩

/-- A task that no longer exists waits for an ACK on the link. -/
def leftoverRequester : IsrState :=
  { leftoverServer with
    links := fun link => (leftoverServer.links link).map fun o =>
      { o with rctx.tidRequester := 5 } }

theorem leftoverServer_linked : Linked leftoverServer :=
  linked_connect (linked_init fun _ => rfl) _ _ _ fun _ _ => rfl

theorem leftoverServer_live (env : IsrEnv) : LiveRequesters env leftoverServer := by
  intro link o ho htid
  have hl : leftoverServer.links link = Function.update (fun _ => none) 7
    (some ⟨⟨idNone, 0#32, false, none, 0, 0⟩, ⟨0, 1⟩⟩) link := rfl
  rw [hl] at ho
  by_cases h7 : link = 7
  · subst h7
    rw [Function.update_self] at ho
    obtain rfl := Option.some.inj ho
    exact absurd rfl htid
  · rw [Function.update_of_ne h7] at ho
    cases ho

/-- The two ISRs on the server's link. -/
theorem leftoverServer_served :
    (∃ s', hpscMboxIsrA ⟨fun _ => false, idNone⟩ leftoverServer = some s' ∧
      ServedA ⟨fun _ => false, idNone⟩ leftoverServer s') ∧
    ∃ s', hpscMboxIsrB ⟨fun _ => false, idNone⟩ leftoverServer = some s' ∧
      ServedB leftoverServer s' := by
  have h := isr_serves_pending ⟨fun _ => false, idNone⟩ leftoverServer leftoverServer_linked
    (leftoverServer_live _)
  have hcmd : ∀ i, (leftoverServer.mailbox.chan i).intA.cb ≠ some .linkRecvReply := by decide
  refine ⟨h.1 (fun i link o _ hinfo _ => ?_) (by decide), h.2⟩
  exact absurd (congrArg ChanIrqInfo.cb hinfo) (hcmd i)

/-- Channel 0 is subscribed to event B and not acknowledged; and with no
task left to tell, the ISR does not return. -/
theorem leftover_not_acked :
    (¬ ∀ env s s', Linked s → LiveRequesters env s → hpscMboxIsrB env s = some s' →
      s'.invoked = s.invoked ++ ((List.finRange channels).filter (subscribedB s.mailbox)).map
        fun i => ⟨some .linkMboxAck, (s.mailbox.chan i).intB.arg⟩) ∧
    ¬ ∀ env s, Linked s → (hpscMboxIsrB env s).isSome = true := by
  constructor
  · intro h
    let env : IsrEnv := ⟨fun _ => false, idNone⟩
    have hcalls : (hpscMboxIsrB env leftoverServer).map (·.invoked.length) = some 1 := by decide
    obtain ⟨s', hs', hlen⟩ := Option.map_eq_some_iff.mp hcalls
    have hall := congrArg List.length
      (h env leftoverServer s' leftoverServer_linked (leftoverServer_live env) hs')
    rw [hlen] at hall
    revert hall
    decide
  · intro h
    have hl : Linked leftoverRequester := by
      intro i hact
      cases leftoverServer_linked i hact with
      | receive a link o record hlink hchan =>
        exact .receive a link _ record (congrArg (Option.map _) hlink) hchan
      | send a link o record hlink hchan =>
        exact .send a link _ record (congrArg (Option.map _) hlink) hchan
    have hrun := h ⟨fun _ => false, idNone⟩ leftoverRequester hl
    revert hrun
    decide

end HpscRtems.Mbox
