/-
HpscRtems.Command.LedgerTheorems — what becomes of the commands, over any
number of starts and stops of the handler.

The ledger is not in the program: the commands that `cmd_enqueue_cb` put
into the queue, those `cmd_handle` has finished with, and those dropped by
`cmd_drop_all`. As long as no command is pushed into a queue that is full
with `head` in the last slot, the ledger balances: every command is in one
place, they are taken in the order they came in, and the calls the handler
tasks have made are one whole service for each finished command and the
begun one of the command in hand. A handler that stops leaves its commands
in the queue for the next one; it never leaves one half served.
-/
import Mathlib.Data.List.Forall2
import HpscRtems.Command.LifecycleTheorems

namespace HpscRtems.Command

open Machine Rtems

variable {ι : Type}

/-! ## §1 The ledger -/

structure Ledger where
  accepted : List CmdqItem
  completed : List CmdqItem
  dropped : List CmdqItem

namespace Ledger

def empty : Ledger := ⟨[], [], []⟩

/-- The command `cmd_handle` is done with after the statement at `pc`. -/
def completes : HandlePc → List CmdqItem
  | .outAll item _ => [item]
  | _ => []

/-- What an action adds, in the state before it. -/
def record (g : Ledger) (s : HandlerState ι) : HandlerAct ι → Ledger
  | .push _ cmd cb cbArg =>
    if (cmdEnqueueCbUnsafe s.cmdq cmd cb cbArg).2 = 0 then
      { g with accepted := g.accepted ++ [⟨cmd, ⟨cb, cbArg⟩⟩] }
    else g
  | .task id =>
    match s.task id with
    | .running t => { g with completed := g.completed ++ completes t.pc }
    | _ => g
  | .dropAll => { g with dropped := g.dropped ++ s.cmdq.pending }
  | _ => g

end Ledger

/-- The system with its ledger. -/
def ledgerStep [DecidableEq ι] (x : HandlerState ι × Ledger) (a : HandlerAct ι) :
    Option (HandlerState ι × Ledger) :=
  (handlerStep x.1 a).map fun s => (s, x.2.record x.1 a)

/-- No command is pushed where the queue cannot tell that it is full. -/
def NoOverrun (x : HandlerState ι × Ledger) : HandlerAct ι → Prop
  | .push .. => ¬ x.1.cmdq.fullAtEnd
  | _ => True

instance NoOverrun.instDecidable (x : HandlerState ι × Ledger) : ∀ a, Decidable (NoOverrun x a)
  | .push .. => inferInstanceAs (Decidable (¬ x.1.cmdq.fullAtEnd))
  | .outside _ | .call _ | .ctl | .taskStart _ | .exitSend _ | .task _ | .served .. | .sent ..
  | .wake _ | .enq _ | .notify .. | .dropAll => isTrue trivial

/-! ## §2 The service of a command -/

/-- The call of a `cmd_handled_t`, if there is one. -/
def reportOf (h : CmdHandledCtx) (status : CmdStatus) : List Callout :=
  match h.cb with
  | some cb => [.handled cb h.cbArg status]
  | none => []

/-- The calls `cmd_handle` makes for a command before `out`, by the status
it reports there. -/
inductive Attempt (item : CmdqItem) : CmdStatus → List Callout → Prop
  | failed (cb : Nat) : Attempt item .handlerFailed [.serve cb item.cmd]
  | noReply (cb : Nat) : Attempt item .success [.serve cb item.cmd]
  | replied (cb : Nat) (reply : Msg) (ticks : Nat) :
      Attempt item .success [.serve cb item.cmd, .send item.cmd.link reply ticks]
  | replyFailed (cb : Nat) (reply : Msg) (ticks : Nat) :
      Attempt item .replyFailed [.serve cb item.cmd, .send item.cmd.link reply ticks]

/-- All the calls for a command: the handler callback once, at most one
reply, and the status reported once to the command's callback and once to
the global one. -/
def WholeService (all : CmdHandledCtx) (item : CmdqItem) (calls : List Callout) : Prop :=
  ∃ status begun, Attempt item status begun ∧
    calls = begun ++ reportOf item.handled status ++ reportOf all status

/-- The calls made for the command in hand when its task is at `pc`. -/
inductive Begun : HandlePc → List Callout → Prop
  | handle (item : CmdqItem) : Begun (.handle item) []
  | serve (item : CmdqItem) : Begun (.serve item) []
  | sendReply (item : CmdqItem) (reply : Msg) (cb : Nat) :
      Begun (.sendReply item reply) [.serve cb item.cmd]
  | inSend (item : CmdqItem) (cb : Nat) (reply : Msg) (ticks : Nat) :
      Begun (.inSend item) [.serve cb item.cmd, .send item.cmd.link reply ticks]
  | out {item status calls} (h : Attempt item status calls) : Begun (.out item status) calls
  | outAll {item status calls} (h : Attempt item status calls) :
      Begun (.outAll item status) (calls ++ reportOf item.handled status)

/-- The command the handler tasks have in hand, with the calls made for it,
or nothing. -/
inductive InHand (s : HandlerState ι) : List CmdqItem → List Callout → Prop
  | nothing (h : ∀ id t, s.task id = .running t → t.pc.handling = none) : InHand s [] []
  | one {id : RtemsId} {t item calls} (ht : s.task id = .running t)
      (hitem : t.pc.handling = some item) (hcalls : Begun t.pc calls) : InHand s [item] calls

variable {s s' : HandlerState ι}

/-- A task object is replaced, and neither the old nor the new one has a
command in hand. -/
theorem InHand.set {hand : List CmdqItem} {calls : List Callout} (hh : InHand s hand calls)
    (id : RtemsId) (x : TaskObj HandlerTask)
    (hold : ∀ t, s.task id = .running t → t.pc.handling = none)
    (hnew : ∀ t, x = .running t → t.pc.handling = none)
    (hs' : ∀ j, s'.task j = if j = id then x else s.task j) : InHand s' hand calls := by
  cases hh with
  | nothing h =>
    refine .nothing fun j t hj => ?_
    rw [hs'] at hj
    split at hj
    · exact hnew t hj
    · exact h j t hj
  | @one j t item calls ht hitem hcalls =>
    have hne : j ≠ id := by
      rintro rfl
      rw [hold t ht] at hitem
      cases hitem
    exact .one ((hs' j).trans (if_neg hne) |>.trans ht) hitem hcalls

/-- The tasks of the handler are the same. -/
theorem InHand.same {hand : List CmdqItem} {calls : List Callout} (hh : InHand s hand calls)
    (hs' : ∀ j t, s'.task j = .running t ↔ s.task j = .running t) : InHand s' hand calls := by
  cases hh with
  | nothing h => exact .nothing fun j t hj => h j t ((hs' j t).mp hj)
  | one ht hitem hcalls => exact .one ((hs' _ _).mpr ht) hitem hcalls

/-- The command in hand is that of the one handler. -/
theorem InHand.of_owner {hand : List CmdqItem} {calls : List Callout} (hh : InHand s hand calls)
    (hi : HandlerInv s) {id : RtemsId} {t : HandlerTask} (ht : s.task id = .running t)
    (ho : t.pc.owns = true) :
    (t.pc.handling = none ∧ hand = [] ∧ calls = []) ∨
      ∃ item, t.pc.handling = some item ∧ hand = [item] ∧ Begun t.pc calls := by
  cases hh with
  | nothing h => exact .inl ⟨h id t ht, rfl, rfl⟩
  | @one j u item calls hu hitem hcalls =>
    have hji := hi.one ht ho hu (owns_of_handling (by rw [hitem]; rfl))
    subst hji
    rw [hu] at ht
    cases ht
    exact .inr ⟨item, hitem, rfl, hcalls⟩

/-! ## §3 The balance -/

/-- The ledger `g` balances with `hand` in hand: every command accepted is
in one place, nothing has overtaken, and the calls made are those the
completed commands and the one in hand account for. -/
structure Account (s : HandlerState ι) (g : Ledger) (hand : List CmdqItem)
    (calls : List Callout) : Prop where
  inHand : InHand s hand calls
  places : g.accepted.Perm (g.completed ++ hand ++ s.cmdq.pending ++ g.dropped)
  order : (g.completed ++ hand ++ s.cmdq.pending).Sublist g.accepted
  log : ∃ services, List.Forall₂ (WholeService s.handled) g.completed services ∧
    s.log = services.flatten ++ calls

@[simp] theorem goto_cmdq (s : HandlerState ι) (id : TaskId) (t : HandlerTask) (pc : HandlePc) :
    (s.goto id t pc).cmdq = s.cmdq := rfl

variable {g : Ledger} {hand : List CmdqItem} {calls : List Callout}

/-- A step that takes no command in hand and none from it. -/
theorem Account.frame (h : Account s g hand calls) (hhand : InHand s' hand calls)
    (hq : s'.cmdq = s.cmdq) (hall : s'.handled = s.handled) (hlog : s'.log = s.log) :
    Account s' g hand calls where
  inHand := hhand
  places := by rw [hq]; exact h.places
  order := by rw [hq]; exact h.order
  log := by rw [hall, hlog]; exact h.log

/-- A handler task goes on between two commands. -/
theorem Account.goOn (h : Account s g hand calls) {id : TaskId} {t : HandlerTask}
    {pc : HandlePc} (ht : s.task id = .running t) (hold : t.pc.handling = none)
    (hnew : pc.handling = none) (htasks : s'.tasks.task = (s.goto id t pc).tasks.task)
    (hq : s'.cmdq = s.cmdq) (hall : s'.handled = s.handled) (hlog : s'.log = s.log) :
    Account s' g hand calls := by
  refine h.frame (h.inHand.set id (.running { t with pc := pc }) ?_ ?_ ?_) hq hall hlog
  · intro u hu
    rw [hu] at ht
    cases ht
    exact hold
  · intro u hu
    cases hu
    exact hnew
  · intro j
    rw [HandlerState.task, htasks]
    exact Function.update_apply ..

/-- `cmd_dequeue` takes the oldest command. -/
theorem pending_of_cmdDequeue {q q' : Cmdq} {cmd : Cmd} {cb cbArg : Ptr}
    (h : cmdDequeue q = (q', some (cmd, cb, cbArg))) :
    q.pending = ⟨cmd, ⟨cb, cbArg⟩⟩ :: q'.pending := by
  have hspec := cmdDequeueUnsafe_pending q
  have h' : cmdDequeueUnsafe q = (q', some (cmd, cb, cbArg)) := h
  cases hp : q.pending with
  | nil =>
    rw [hp] at hspec
    simp only [h', Prod.mk.injEq] at hspec
    cases hspec.2
  | cons item rest =>
    rw [hp] at hspec
    simp only [h'] at hspec
    obtain ⟨rfl, hitem⟩ := hspec
    simp only [Option.some.injEq, Prod.mk.injEq] at hitem
    obtain ⟨rfl, rfl, rfl⟩ := hitem
    rfl

/-- A command goes from the queue into a hand that was empty. -/
theorem Account.take (h : Account s g [] []) {id : TaskId} {t : HandlerTask} {q : Cmdq}
    {item : CmdqItem} (hq : s.cmdq.pending = item :: q.pending) :
    Account (({ s with cmdq := q }).goto id t (.handle item)) g [item] [] where
  inHand := .one (task_goto _ id t _) rfl (.handle item)
  places := by
    have hplaces := h.places
    rw [hq] at hplaces
    simpa using hplaces
  order := by
    have horder := h.order
    rw [hq] at horder
    simpa using horder
  log := h.log

/-- The service of the command in hand goes on, with the calls `more`. -/
theorem Account.serve {item : CmdqItem} (h : Account s g [item] calls) {id : TaskId}
    {t : HandlerTask} {pc : HandlePc} (more : List Callout) (hitem : pc.handling = some item)
    (hbegun : Begun pc (calls ++ more)) :
    Account (({ s with log := s.log ++ more }).goto id t pc) g [item] (calls ++ more) where
  inHand := .one (task_goto _ id t _) hitem hbegun
  places := h.places
  order := h.order
  log := by
    obtain ⟨services, hall, hlog⟩ := h.log
    refine ⟨services, hall, ?_⟩
    show s.log ++ more = _
    rw [hlog, List.append_assoc]

/-- `cmd_handle` is done with the command in hand. -/
theorem Account.complete {item : CmdqItem} (h : Account s g [item] calls) (hi : HandlerInv s)
    {id : TaskId} {t : HandlerTask} (ht : s.task id = .running t) (ho : t.pc.owns = true)
    (more : List Callout) (hwhole : WholeService s.handled item (calls ++ more)) :
    Account (({ s with log := s.log ++ more }).goto id t .flush)
      { g with completed := g.completed ++ [item] } [] [] where
  inHand := by
    refine .nothing fun j u hu => ?_
    rcases running_goto hu with ⟨rfl, rfl⟩ | ⟨hj, hu'⟩
    · rfl
    · by_contra hne
      have hown : u.pc.owns = true := owns_of_handling (Option.isSome_iff_ne_none.mpr hne)
      exact hj (hi.one ht ho hu' hown)
  places := by simpa using h.places
  order := by simpa using h.order
  log := by
    obtain ⟨services, hall, hlog⟩ := h.log
    refine ⟨services ++ [calls ++ more], ?_, ?_⟩
    · exact List.rel_append hall (.cons hwhole .nil)
    · show s.log ++ more = _
      rw [hlog]
      simp

/-! ## §4 Runs -/

variable {a : HandlerAct ι} {x x' : HandlerState ι × Ledger}

structure LedgerInv (x : HandlerState ι × Ledger) : Prop where
  handler : HandlerInv x.1
  balance : ∃ hand calls, Account x.1 x.2 hand calls

/-- A statement of a handler task. -/
theorem record_task (g : Ledger) {id : TaskId} {t : HandlerTask} (ht : s.task id = .running t) :
    g.record s (.task id) = { g with completed := g.completed ++ Ledger.completes t.pc } := by
  simp only [Ledger.record, ht]

/-- One that is not the last of `cmd_handle`. -/
theorem record_task_silent (g : Ledger) {id : TaskId} {t : HandlerTask} {pc : HandlePc}
    (ht : s.task id = .running t) (hpc : t.pc = pc) (hnone : Ledger.completes pc = []) :
    g.record s (.task id) = g := by
  rw [record_task g ht, hpc, hnone, List.append_nil]

/-- `cmd_drop_all` empties the queue. -/
theorem Account.drop (h : Account s g hand calls) :
    Account { s with cmdq := (cmdDropAll s.cmdq).1 } (g.record s .dropAll) hand calls where
  inHand := h.inHand.same fun _ _ => Iff.rfl
  places := by
    rw [cmdDropAll_pending, List.perm_iff_count]
    intro y
    have hcount := h.places.count_eq y
    simp only [Ledger.record, List.count_append, List.count_nil] at hcount ⊢
    omega
  order := by
    rw [cmdDropAll_pending, List.append_nil]
    exact (List.sublist_append_left ..).trans h.order
  log := h.log

/-- The callback of the handler has returned. -/
theorem begun_afterServe (item : CmdqItem) (cb : Nat) (replySz : Int) (reply : Msg) :
    (afterServe item replySz reply).handling = some item ∧
      Begun (afterServe item replySz reply) [.serve cb item.cmd] := by
  unfold afterServe
  split
  · exact ⟨rfl, .out (.failed cb)⟩
  · split
    · exact ⟨rfl, .out (.noReply cb)⟩
    · exact ⟨rfl, .sendReply item reply cb⟩

/-- `link_request_send` has returned. -/
theorem begun_afterSend {item : CmdqItem} (rc : Nat) (h : Begun (.inSend item) calls) :
    Begun (.out item (if rc = 0 then .replyFailed else .success)) calls := by
  cases h with
  | inSend _ cb reply ticks =>
    split
    · exact .out (.replyFailed cb reply ticks)
    · exact .out (.replied cb reply ticks)

/-- A statement of the task that has the command in hand, other than the
last one. -/
theorem Account.serving (h : Account s g hand calls) (hi : HandlerInv s) {id : TaskId}
    {t : HandlerTask} {item : CmdqItem} {pc : HandlePc} (ht : s.task id = .running t)
    (hold : t.pc.handling = some item) (hnew : pc.handling = some item) (more : List Callout)
    (hbegun : Begun t.pc calls → Begun pc (calls ++ more)) :
    Account (({ s with log := s.log ++ more }).goto id t pc) g [item] (calls ++ more) := by
  rcases h.inHand.of_owner hi ht (owns_of_handling (by rw [hold]; rfl)) with
    ⟨hnone, -⟩ | ⟨item', hitem, rfl, hcalls⟩
  · rw [hold] at hnone
    cases hnone
  · rw [hold] at hitem
    cases hitem
    exact h.serve more hnew (hbegun hcalls)

/-- The same without a call. -/
theorem Account.serving_silent (h : Account s g hand calls) (hi : HandlerInv s) {id : TaskId}
    {t : HandlerTask} {item : CmdqItem} {pc : HandlePc} (ht : s.task id = .running t)
    (hold : t.pc.handling = some item) (hnew : pc.handling = some item)
    (hbegun : Begun t.pc calls → Begun pc calls) : Account (s.goto id t pc) g [item] calls := by
  have hacc := h.serving hi ht hold hnew [] (by rwa [List.append_nil])
  rwa [List.append_nil, List.append_nil] at hacc

/-- The last statement of `cmd_handle`. -/
theorem Account.completed (h : Account s g hand calls) (hi : HandlerInv s) {id : TaskId}
    {t : HandlerTask} {item : CmdqItem} {status : CmdStatus} (ht : s.task id = .running t)
    (hpc : t.pc = .outAll item status) :
    Account (({ s with log := s.log ++ reportOf s.handled status }).goto id t .flush)
      (g.record s (.task id)) [] [] := by
  have ho : t.pc.owns = true := by rw [hpc]; rfl
  rw [record_task g ht, hpc]
  rcases h.inHand.of_owner hi ht ho with ⟨hnone, -⟩ | ⟨item', hitem, rfl, hcalls⟩
  · rw [hpc] at hnone
    cases hnone
  · rw [hpc] at hitem hcalls
    cases hitem
    cases hcalls with
    | outAll hattempt => exact h.complete hi ht ho _ ⟨status, _, hattempt, rfl⟩

variable [DecidableEq ι]

/-- A push that is taken, into a queue that can tell that it is full. -/
theorem Account.push (h : Account s g hand calls) {e : ι} {cmd : Cmd} {cb cbArg : Ptr}
    (hend : ¬ s.cmdq.fullAtEnd) (hrc : (cmdEnqueueCbUnsafe s.cmdq cmd cb cbArg).2 = 0)
    {pc : EnqPc} :
    Account (({ s with cmdq := (cmdEnqueueCbUnsafe s.cmdq cmd cb cbArg).1 }).enqGoto e pc)
      (g.record s (.push e cmd cb cbArg)) hand calls := by
  have hroom : next s.cmdq.head ≠ s.cmdq.tail := by
    intro hfull
    rw [cmdEnqueueCbUnsafe_refused cmd cb cbArg hfull hend] at hrc
    cases hrc
  have hpend := cmdEnqueueCbUnsafe_pending cmd cb cbArg hroom
  rw [Ledger.record, if_pos hrc]
  refine ⟨h.inHand.same fun _ _ => Iff.rfl, ?_, ?_, h.log⟩
  · show (g.accepted ++ _).Perm
      (g.completed ++ hand ++ (cmdEnqueueCbUnsafe s.cmdq cmd cb cbArg).1.pending ++ g.dropped)
    rw [hpend, List.perm_iff_count]
    intro y
    have hcount := h.places.count_eq y
    simp only [List.count_append] at hcount ⊢
    omega
  · show (g.completed ++ hand ++ (cmdEnqueueCbUnsafe s.cmdq cmd cb cbArg).1.pending).Sublist _
    rw [hpend, ← List.append_assoc]
    exact h.order.append (List.Sublist.refl _)

theorem ledgerInv_step (hi : LedgerInv x) (hg : NoOverrun x a) (h : ledgerStep x a = some x') :
    LedgerInv x' := by
  obtain ⟨s, g⟩ := x
  obtain ⟨s', hstep, rfl⟩ := Option.map_eq_some_iff.mp h
  obtain ⟨hinv, hand, calls, hacc⟩ := hi
  refine ⟨handlerInv_step hinv hstep, ?_⟩
  simp only at hinv hacc hstep hg ⊢
  have hsame : ∀ {s' : HandlerState ι}, s'.tasks.task = s.tasks.task → s'.cmdq = s.cmdq →
      s'.handled = s.handled → s'.log = s.log → ∃ hand calls, Account s' g hand calls :=
    fun htasks hq hall hlog => ⟨hand, calls, hacc.frame (hacc.inHand.same fun j t => by
      rw [HandlerState.task, htasks]; rfl) hq hall hlog⟩
  have hbetween : ∀ {id : TaskId} {t pc pc'} {s' : HandlerState ι}, s.task id = .running t →
      t.pc = pc → pc.handling = none → pc'.handling = none →
      s'.tasks.task = (s.goto id t pc').tasks.task → s'.cmdq = s.cmdq → s'.handled = s.handled →
      s'.log = s.log → ∃ hand calls, Account s' (g.record s (.task id)) hand calls := by
    intro id t pc pc' s' ht hpc hold hnew htasks hq hall hlog
    have hnone : Ledger.completes pc = [] := by cases pc <;> first | rfl | cases hold
    rw [record_task_silent g ht hpc hnone]
    exact ⟨hand, calls, hacc.goOn ht (hpc ▸ hold) hnew htasks hq hall hlog⟩
  cases handlerStep_moved hstep with
  | outside ho =>
    exact ⟨hand, calls, hacc.frame (hacc.inHand.same fun j t => ho.running j t) rfl rfl rfl⟩
  | call _ _ | refuse _ _ | begin _ _ | setTid _ | setCb _ | setTicks _ | setRunning _
  | startFailed _ _ | destroyTest _ _ | noHandler _ _ | exitUnsent _ _ | wait _ _ | waited _ _ =>
    exact hsame rfl rfl rfl rfl
  | exitSent _ _ | notified _ _ => exact hsame (TaskTable.task_send ..) rfl rfl rfl
  | noTid _ _ | tested _ _ | loaded _ | unheard _ _ => exact hsame rfl rfl rfl rfl
  | started hc hd =>
    refine ⟨hand, calls, hacc.frame (hacc.inHand.set s.ctx.tid (.running ⟨_, .flush⟩) ?_ ?_
      fun j => Function.update_apply ..) rfl rfl rfl⟩
    · intro t ht
      rw [hd] at ht
      cases ht
    · intro t ht
      cases ht
      rfl
  | @dequeued id t _ _ _ _ ht hpc hq =>
    rw [record_task_silent g ht hpc rfl]
    rcases hacc.inHand.of_owner hinv ht (by rw [hpc]; rfl) with
      ⟨-, rfl, rfl⟩ | ⟨item, hitem, -, -⟩
    · exact ⟨_, _, hacc.take (pending_of_cmdDequeue hq)⟩
    · rw [hpc] at hitem
      cases hitem
  | drained ht hpc _ => exact hbetween ht hpc rfl rfl rfl rfl rfl rfl
  | leave ht hpc _ => exact hbetween ht hpc rfl rfl rfl rfl rfl rfl
  | stay ht hpc _ => exact hbetween ht hpc rfl rfl rfl rfl rfl rfl
  | woken ht hpc _ =>
    exact ⟨hand, calls, hacc.goOn ht (by rw [hpc]; rfl) rfl rfl rfl rfl rfl⟩
  | cleared ht hpc => exact hbetween ht hpc rfl rfl rfl rfl rfl rfl
  | @exited id t ht hpc =>
    rw [record_task_silent g ht hpc rfl]
    refine ⟨hand, calls, hacc.frame (hacc.inHand.set id .absent ?_ ?_ fun j =>
      Function.update_apply ..) rfl rfl rfl⟩
    · intro u hu
      rw [hu] at ht
      cases ht
      rw [hpc]
      rfl
    · intro u hu
      cases hu
  | asserted ht hpc _ =>
    rw [record_task_silent g ht hpc rfl]
    refine ⟨_, _, hacc.serving_silent hinv ht (by rw [hpc]; rfl) rfl fun hb => ?_⟩
    rw [hpc] at hb
    cases hb
    exact .serve _
  | @assertFails id t _ ht hpc hcb =>
    have hown := (hinv.owner id t ht (by rw [hpc]; rfl)).2.2.1
    rw [hcb] at hown
    cases hown
  | @served id t item cb replySz reply ht hpc _ =>
    have hbegun := begun_afterServe item cb replySz reply
    refine ⟨_, _, hacc.serving hinv ht (by rw [hpc]; rfl) hbegun.1 [.serve cb item.cmd]
      fun hb => ?_⟩
    rw [hpc] at hb
    cases hb
    exact hbegun.2
  | @sendReply id t item reply ht hpc _ =>
    rw [record_task_silent g ht hpc rfl]
    refine ⟨_, _, hacc.serving hinv ht (by rw [hpc]; rfl) rfl
      [.send item.cmd.link reply s.ctx.timeoutTicks] fun hb => ?_⟩
    rw [hpc] at hb
    cases hb with
    | sendReply _ _ cb => exact .inSend item cb reply _
  | sent rc ht hpc =>
    refine ⟨_, _, hacc.serving_silent hinv ht (by rw [hpc]; rfl) rfl fun hb => ?_⟩
    rw [hpc] at hb
    exact begun_afterSend rc hb
  | @reported id t item status cb ht hpc hcb =>
    rw [record_task_silent g ht hpc rfl]
    refine ⟨_, _, hacc.serving hinv ht (by rw [hpc]; rfl) rfl
      [.handled cb item.handled.cbArg status] fun hb => ?_⟩
    rw [hpc] at hb
    cases hb with
    | out hattempt =>
      have hout := Begun.outAll hattempt
      rwa [reportOf, hcb] at hout
  | @unreported id t item status ht hpc hcb =>
    rw [record_task_silent g ht hpc rfl]
    refine ⟨_, _, hacc.serving_silent hinv ht (by rw [hpc]; rfl) rfl fun hb => ?_⟩
    rw [hpc] at hb
    cases hb with
    | out hattempt =>
      have hout := Begun.outAll hattempt
      rwa [reportOf, hcb, List.append_nil] at hout
  | reportedAll ht hpc hcb =>
    have hdone := hacc.completed hinv ht hpc
    rw [reportOf, hcb] at hdone
    exact ⟨_, _, hdone⟩
  | unreportedAll ht hpc hcb =>
    have hdone := hacc.completed hinv ht hpc
    rw [reportOf, hcb, List.append_nil] at hdone
    exact ⟨_, _, hdone⟩
  | pushed he hrc => exact ⟨hand, calls, hacc.push hg hrc⟩
  | full he hrc =>
    rw [Ledger.record, hrc, if_neg Nat.one_ne_zero]
    exact hsame rfl rfl rfl rfl
  | dropped => exact ⟨hand, calls, hacc.drop⟩

theorem ledgerInv_init (ι : Type) (handled : CmdHandledCtx) :
    LedgerInv (HandlerState.init ι handled, Ledger.empty) :=
  ⟨handlerInv_init ι handled, [], [], .nothing (fun _ _ ht => by cases ht), .refl _, .refl _,
    [], .nil, rfl⟩

/-- **The commands balance**: over any number of starts and stops of the
handler, and whatever the other parties do, every command accepted has been
finished with, is in hand, is in the queue or was dropped, and is so once;
commands are taken in the order they came in; and the calls made are one
whole service for each command finished with, and the begun one of the
command in hand. -/
theorem commands_ledger (handled : CmdHandledCtx) (as : List (HandlerAct ι))
    (x : HandlerState ι × Ledger)
    (hG : Along ledgerStep NoOverrun (HandlerState.init ι handled, .empty) as)
    (h : exec ledgerStep (HandlerState.init ι handled, .empty) as = some x) :
    ∃ hand calls, Account x.1 x.2 hand calls :=
  (exec_invariant (fun _ _ _ hi hg hs => ledgerInv_step hi hg hs) (ledgerInv_init ι handled)
    hG h).balance

/-- A second command comes in while the handler is being stopped, and is
served by the next handler. -/
def secondHandler : List (HandlerAct Unit) :=
  firstCommand ++
    [.call .destroy, .ctl, .push () ⟨Msg.zero, some 9⟩ none none, .exitSend 2,
     .wake 1, .task 1, .task 1, .task 1, .ctl, .ctl, .ctl, .ctl, .ctl,
     .outside (.create 3), .call (.start 3 65 0),
     .ctl, .ctl, .ctl, .ctl, .ctl, .taskStart .successful, .enq (), .enq (), .notify () 2,
     .task 3, .task 3, .served 3 0 Msg.zero, .task 3, .task 3, .task 3]

set_option maxRecDepth 2000 in
theorem secondHandler_ledger : ∃ x,
    exec ledgerStep (HandlerState.init Unit ⟨none, none⟩, .empty) secondHandler = some x ∧
      x.2.completed.length = 2 ∧ ∃ hand calls, Account x.1 x.2 hand calls := by
  have hrun : (exec ledgerStep (HandlerState.init Unit ⟨none, none⟩, .empty) secondHandler).map
      (fun x => x.2.completed.length) = some 2 := by
    decide
  obtain ⟨x, hx, hlen⟩ := Option.map_eq_some_iff.mp hrun
  exact ⟨x, hx, hlen, commands_ledger ⟨none, none⟩ secondHandler x (by decide) hx⟩

end HpscRtems.Command
