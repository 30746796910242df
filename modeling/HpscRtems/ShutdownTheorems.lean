/-
HpscRtems.ShutdownTheorems — no command outlives its link in a shutdown.

The order of `shutdown` carries the proof. When the stop of the handler has
returned, no handler task is left to take a command. Each close then takes
away one source of commands: after the release of its channel, or once its
poll task has left the loop, no callback of the link runs or can begin. With
the store empty there is no source left, and the queue that is dropped
stays empty.
-/
import HpscRtems.Command.LifecycleTheorems
import HpscRtems.Mbox.Connect
import HpscRtems.Mbox.RemoveTheorems
import HpscRtems.Shmem.Region
import HpscRtems.Shutdown

namespace HpscRtems.Shutdown

open Machine Rtems Command Mbox Shmem

variable {μ : Type}

/-! ## §1 Sources of commands -/

/-- Commands can come from the source: its callback is `link_recv_cmd`. -/
def Listens (s : System μ) : Source μ → Prop
  | .chan m i => ((s.mbox m).chan i).active = true ∧
      (((s.mbox m).chan i).intA.cb = some .linkRecvCmd ∨
        ((s.mbox m).chan i).intB.cb = some .linkRecvCmd)
  | .poll tid => ∃ t, s.poll tid = some t ∧ t.pc.inLoop = true ∧ t.cb = .linkRecvCmd

/-- The source can have called `link_recv_cmd`. -/
def Calling (s : System μ) : Source μ → Prop
  | .chan m i => Listens s (.chan m i)
  | .poll tid => ∃ t, s.poll tid = some t ∧ t.pc = .callback ∧ t.cb = .linkRecvCmd

theorem Calling.listens {s : System μ} {e : Source μ} (h : Calling s e) : Listens s e := by
  cases e with
  | chan m i => exact h
  | poll tid =>
    obtain ⟨t, ht, hpc, hcb⟩ := h
    exact ⟨t, ht, by rw [hpc]; rfl, hcb⟩

/-- A state in which `shutdown` can be called: all sources of commands are
links of the store. -/
structure Ready [DecidableEq μ] (s : System μ) : Prop where
  start : s.pc = .start
  closed : s.closed = []
  /-- Some run of the command handler's system has led here. -/
  handler : ∃ handled as, exec handlerStep (.init (Source μ) handled) as = some s.handler
  once : (s.store.map Link.addr).Nodup
  stored : ∀ e, Listens s e → ∃ l ∈ s.store, l.source = e
  calling : ∀ e, (s.call e).arriving = true → Calling s e

/-- What holds of a shutdown that began with the links `store`. -/
structure Safe [DecidableEq μ] (store : List (Link μ)) (s : System μ) : Prop where
  /-- `cmd_handle` is not active on a command whose link is being closed or
  has been. -/
  handling : ∀ id t item, s.handler.task id = .running t → t.pc.handling = some item →
    ∀ l ∈ s.closed ++ s.pc.closing, item.cmd.link ≠ some l.addr
  /-- The links are closed in their order, each one once. -/
  order : s.closed ++ s.pc.closing ++ s.store = store
  once : (s.closed.map Link.addr).Nodup
  /-- All of them are, before the queue is dropped. -/
  all : s.pc = .dropAll ∨ s.pc = .dropped → s.closed = store
  /-- From the return of `cmd_drop_all` on the queue is empty and no message
  is enqueued. -/
  empty : s.pc = .dropped → s.handler.cmdq.head = s.handler.cmdq.tail
  quiet : s.pc = .dropped → ∀ e, (s.call e).arriving = false ∧ ∀ msg, step s (.recv e msg) = none

/-! ## §2 The invariant -/

/-- `cmd_handle_task_destroy` has returned. -/
def ShutdownPc.stopped : ShutdownPc μ → Bool
  | .start | .destroy => false
  | _ => true

/-- The store has been found empty. -/
def ShutdownPc.drained : ShutdownPc μ → Bool
  | .dropAll | .dropped => true
  | _ => false

/-- Messages can still come through the link that is being closed. -/
def ClosePc.listening : ClosePc → Bool
  | .releaseTo | .free => false
  | _ => true

def ShutdownPc.listening : ShutdownPc μ → List (Link μ)
  | .close l pc => if pc.listening then [l] else []
  | _ => []

structure Inv (store : List (Link μ)) (s : System μ) : Prop where
  handler : HandlerInv s.handler
  halted : Halted s.handler
  stopped : s.pc.stopped = true → NoOwner s.handler
  stored : ∀ e, Listens s e → ∃ l ∈ s.pc.listening ++ s.store, l.source = e
  calling : ∀ e, (s.call e).arriving = true → Calling s e
  order : s.closed ++ s.pc.closing ++ s.store = store
  early : s.pc.stopped = false → s.closed = []
  drained : s.pc.drained = true → s.store = []
  empty : s.pc = .dropped → s.handler.cmdq.head = s.handler.cmdq.tail

variable {store : List (Link μ)} {s s' : System μ}

theorem Ready.inv [DecidableEq μ] (h : Ready s) : Inv s.store s where
  handler := by
    obtain ⟨handled, as, hs⟩ := h.handler
    exact handlerInv_exec (handlerInv_init _ handled) hs
  halted := by
    obtain ⟨handled, as, hs⟩ := h.handler
    exact halted_exec (handlerInv_init _ handled) (fun _ hk => by cases hk) hs
  stopped hk := by
    rw [h.start] at hk
    cases hk
  stored := by
    rw [h.start]
    exact h.stored
  calling := h.calling
  order := by
    rw [h.start, h.closed]
    rfl
  early _ := h.closed
  drained hk := by
    rw [h.start] at hk
    cases hk
  empty hk := by
    rw [h.start] at hk
    cases hk

/-- With the store drained nothing listens. -/
theorem Inv.not_listens (hi : Inv store s) (h : s.pc.drained = true) (e : Source μ) :
    ¬ Listens s e := by
  intro hl
  obtain ⟨l, hmem, _⟩ := hi.stored e hl
  rw [hi.drained h] at hmem
  cases hpc : s.pc <;> simp_all [ShutdownPc.drained, ShutdownPc.listening]

theorem Inv.not_arriving (hi : Inv store s) (h : s.pc.drained = true) (e : Source μ) :
    (s.call e).arriving = false := by
  by_contra hc
  exact hi.not_listens h e (hi.calling e (by simpa using hc)).listens

/-- **The invariant is what the shutdown needs.** -/
theorem Inv.safe [DecidableEq μ] (hi : Inv store s) (hstore : (store.map Link.addr).Nodup) :
    Safe store s := by
  have hall : s.pc.drained = true → s.closed = store := by
    intro hd
    have horder := hi.order
    rw [hi.drained hd, List.append_nil] at horder
    rw [← horder]
    cases hpc : s.pc <;> simp_all [ShutdownPc.drained, ShutdownPc.closing]
  constructor
  case handling =>
    intro id t item ht hh l hl
    cases hst : s.pc.stopped with
    | true =>
      have ho := hi.stopped hst id t ht
      rw [owns_of_handling (by rw [hh]; rfl)] at ho
      cases ho
    | false =>
      rw [hi.early hst] at hl
      cases hpc : s.pc <;> simp_all [ShutdownPc.stopped, ShutdownPc.closing]
  case order => exact hi.order
  case once =>
    rw [← hi.order, List.append_assoc, List.map_append] at hstore
    exact (List.nodup_append.mp hstore).1
  case all => exact fun h => hall (by rcases h with h | h <;> rw [h] <;> rfl)
  case empty => exact hi.empty
  case quiet =>
    intro h e
    have hidle := hi.not_arriving (by rw [h]; rfl) e
    refine ⟨hidle, fun msg => ?_⟩
    show s.recvStep e msg = none
    unfold System.recvStep
    split
    · rename_i hc
      rw [hc] at hidle
      cases hidle
    · rfl

/-! ## §3 What goes on -/

/-- The other parties leave `shutdown` where it is. They start no handler,
open no link, and call no callback that is not installed. -/
theorem Inv.others (hi : Inv store s) (hpc : s'.pc = s.pc) (hstore : s'.store = s.store)
    (hclosed : s'.closed = s.closed) (hhandler : HandlerInv s'.handler)
    (hhalted : Halted s'.handler) (hstopped : NoOwner s.handler → NoOwner s'.handler)
    (hempty : s.pc = .dropped → NoOwner s.handler → s'.handler.cmdq = s.handler.cmdq)
    (hlistens : ∀ e, Listens s' e → Listens s e)
    (hcalling : ∀ e, (s'.call e).arriving = true → Calling s' e) : Inv store s' where
  handler := hhandler
  halted := hhalted
  stopped h := hstopped (hi.stopped (by rwa [hpc] at h))
  stored e h := by
    rw [hpc, hstore]
    exact hi.stored e (hlistens e h)
  calling := hcalling
  order := by
    rw [hpc, hstore, hclosed]
    exact hi.order
  early h := hclosed.trans (hi.early (by rwa [hpc] at h))
  drained h := hstore.trans (hi.drained (by rwa [hpc] at h))
  empty h := by
    have hd : s.pc = .dropped := hpc.symm.trans h
    rw [hempty hd (hi.stopped (by rw [hd]; rfl))]
    exact hi.empty hd

/-- Poll tasks go on. -/
theorem Inv.polled {poll : TaskId → Option PollTask} (hi : Inv store s)
    (hkept : ∀ tid t', poll tid = some t' → ∃ t, s.poll tid = some t ∧ t.Kept t')
    (hcall : ∀ tid, (s.call (.poll tid)).arriving = true →
      Calling { s with poll := poll } (.poll tid)) : Inv store { s with poll := poll } := by
  refine hi.others rfl rfl rfl hi.handler hi.halted (fun hn => hn) (fun _ _ => rfl) ?_ ?_
  · intro e h
    cases e with
    | chan m i => exact h
    | poll tid =>
      obtain ⟨t', ht', hloop, hcb⟩ := h
      obtain ⟨t, ht, hk⟩ := hkept tid t' ht'
      exact ⟨t, ht, hk.left hloop, hk.cb.symm.trans hcb⟩
  · intro e hc
    cases e with
    | chan m i => exact hi.calling _ hc
    | poll tid => exact hcall tid hc

/-- A poll task goes on, and does not leave a callback that still runs. -/
theorem Inv.setPoll {tid : TaskId} {t t' : PollTask} (hi : Inv store s)
    (ht : s.poll tid = some t) (hk : t.Kept t')
    (hpc : (s.call (.poll tid)).arriving = true → t.pc ≠ .callback) :
    Inv store (s.setPoll tid t') := by
  refine hi.polled ?_ ?_
  · intro j u hu
    by_cases hj : j = tid
    · subst hj
      rw [Function.update_self] at hu
      cases hu
      exact ⟨t, ht, hk⟩
    · rw [Function.update_of_ne hj] at hu
      exact ⟨u, hu, rfl, fun h => h⟩
  · intro j hc
    obtain ⟨u, hu, hpc', hcb⟩ := hi.calling _ hc
    have hj : j ≠ tid := by
      intro hj
      subst hj
      rw [ht] at hu
      cases hu
      exact hpc hc hpc'
    exact ⟨u, (Function.update_of_ne hj _ _).trans hu, hpc', hcb⟩

theorem Inv.tell (hi : Inv store s) (tid : TaskId) (ev : EventSet) : Inv store (s.tell tid ev) := by
  have htold : ∀ j, (s.tell tid ev).poll j = s.poll j ∨
      (s.tell tid ev).poll j = (s.poll j).map fun t => t.send ev := by
    intro j
    by_cases hj : j = tid
    · subst hj
      exact Or.inr (Function.update_self ..)
    · exact Or.inl (Function.update_of_ne hj _ _)
  refine hi.polled ?_ ?_
  · intro j u hu
    rcases htold j with h | h
    · exact ⟨u, h.symm.trans hu, rfl, fun h => h⟩
    · obtain ⟨t, ht, rfl⟩ := Option.map_eq_some_iff.mp (h.symm.trans hu)
      exact ⟨t, ht, PollTask.kept_send ev⟩
  · intro j hc
    obtain ⟨t, ht, hpc, hcb⟩ := hi.calling _ hc
    rcases htold j with h | h
    · exact ⟨t, h.trans ht, hpc, hcb⟩
    · exact ⟨t.send ev, h.trans (by rw [ht]; rfl), hpc, hcb⟩

/-- A wait of a poll task is over. -/
theorem Inv.waited {tid : TaskId} {f : PollTask → Option PollTask} (hi : Inv store s)
    (hf : ∀ t t', f t = some t' → t.Kept t' ∧ t.pc ≠ .callback)
    (h : s.pollStep tid f = some s') : Inv store s' := by
  unfold System.pollStep at h
  split at h
  · rename_i t ht
    obtain ⟨t', hft, rfl⟩ := Option.map_eq_some_iff.mp h
    obtain ⟨hk, hpc⟩ := hf t t' hft
    exact hi.setPoll ht hk fun _ => hpc
  · cases h

/-- `shutdown` goes on. -/
theorem Inv.goOn {pc : ShutdownPc μ} {links closed : List (Link μ)} (hi : Inv store s)
    (hstopped : pc.stopped = true → NoOwner s.handler)
    (hstored : ∀ e, Listens s e → ∃ l ∈ pc.listening ++ links, l.source = e)
    (horder : closed ++ pc.closing ++ links = store) (hearly : pc.stopped = false → closed = [])
    (hdrained : pc.drained = true → links = [])
    (hempty : pc = .dropped → s.handler.cmdq.head = s.handler.cmdq.tail) :
    Inv store { s with pc := pc, store := links, closed := closed } where
  handler := hi.handler
  halted := hi.halted
  stopped := hstopped
  stored e h := hstored e (by cases e <;> exact h)
  calling e hc := by
    have h := hi.calling e hc
    cases e <;> exact h
  order := horder
  early := hearly
  drained := hdrained
  empty := hempty

/-- A close goes on. It leaves the listeners when its link does not listen. -/
theorem Inv.closeOn {l : Link μ} {pc pc' : ClosePc} (hi : Inv store s) (hpc : s.pc = .close l pc)
    (h : pc.listening = true → pc'.listening = true ∨ ¬ Listens s l.source) :
    Inv store { s with pc := .close l pc' } := by
  have horder := hi.order
  have hstopped := hi.stopped
  rw [hpc] at horder hstopped
  refine hi.goOn (fun _ => hstopped rfl) ?_ horder (fun hk => by cases hk)
    (fun hk => by cases hk) nofun
  intro e he
  obtain ⟨l', hmem, rfl⟩ := hi.stored e he
  rw [hpc] at hmem
  rcases List.mem_append.mp hmem with hmem | hmem
  · have hl : pc.listening = true ∧ l' = l := by
      simp only [ShutdownPc.listening] at hmem
      split at hmem
      · exact ⟨‹_›, List.mem_singleton.mp hmem⟩
      · cases hmem
    rcases h hl.1 with hk | hk
    · exact ⟨l', List.mem_append_left _ (by simp [ShutdownPc.listening, hk, hl.2]), rfl⟩
    · exact absurd (hl.2 ▸ he) hk
  · exact ⟨l', List.mem_append_right _ hmem, rfl⟩

/-- A poll task that has cleared `running` does not listen. -/
theorem not_listens_of_not_running {tid : TaskId} (h : s.running tid = false) :
    ¬ Listens s (.poll tid) := by
  rintro ⟨t, ht, hloop, _⟩
  rw [System.running, ht] at h
  exact absurd (t.running_eq.trans hloop) (by simpa using h)

/-- Nor does one that has exited. -/
theorem not_listens_of_not_live {tid : TaskId} (h : s.live tid = false) :
    ¬ Listens s (.poll tid) := by
  rintro ⟨t, ht, hloop, _⟩
  have hpc : t.pc = .exited := by simpa [System.live, ht, PollTask.live] using h
  rw [hpc] at hloop
  cases hloop

/-- A poll task is told to exit, or has exited. -/
theorem Inv.exit {l : Link μ} {pc wait next : ClosePc} {tid : TaskId} {sc : StatusCode}
    (hi : Inv store s) (hpc : s.pc = .close l pc) (hwait : wait.listening = true)
    (hnext : next.listening = true ∨ l.source = .poll tid)
    (h : s.exitStep tid sc (.close l wait) (.close l next) = some s') : Inv store s' := by
  unfold System.exitStep at h
  split at h
  · cases h
    exact (hi.tell tid shmEventExit).closeOn hpc fun _ => Or.inl hwait
  · split at h
    · cases h
    · rename_i hlive
      cases h
      refine hi.closeOn hpc fun _ => hnext.imp_right fun hsource => ?_
      rw [hsource]
      exact not_listens_of_not_live (by simpa using hlive)

/-- A poll task is waited for. -/
theorem Inv.wait {l : Link μ} {pc next : ClosePc} {tid : TaskId} (hi : Inv store s)
    (hpc : s.pc = .close l pc) (hnext : next.listening = true ∨ l.source = .poll tid)
    (h : s.waitStep tid (.close l next) = some s') : Inv store s' := by
  unfold System.waitStep at h
  split at h
  · cases h
    exact hi
  · rename_i hrun
    cases h
    refine hi.closeOn hpc fun _ => hnext.imp_right fun hsource => ?_
    rw [hsource]
    exact not_listens_of_not_running (by simpa using hrun)

/-! ## §4 Steps of the other parties -/

variable [DecidableEq μ]

/-- The command handler's system makes a step. -/
theorem Inv.handled {h : HandlerState (Source μ)} {a : HandlerAct (Source μ)} (hi : Inv store s)
    (hstep : handlerStep s.handler a = some h) (ha : a ≠ .taskStart .successful)
    (hq : s.pc = .dropped → (∀ e cmd cb cbArg, a ≠ .push e cmd cb cbArg) ∧ a ≠ .dropAll) :
    Inv store { s with handler := h } :=
  hi.others rfl rfl rfl (handlerInv_step hi.handler hstep) (halted_step hi.handler hi.halted hstep)
    (fun hn => noOwner_step hn ha hstep)
    (fun hd hn => cmdq_of_noOwner hn (hq hd).1 (hq hd).2 hstep)
    (fun e h => by cases e <;> exact h)
    (fun e hc => by have h := hi.calling e hc; cases e <;> exact h)

/-- A callback is called or goes on. -/
theorem Inv.called {e : Source μ} {c : CallPc} (hi : Inv store s)
    (h : c.arriving = true → Calling s e) : Inv store (s.setCall e c) := by
  refine hi.others rfl rfl rfl hi.handler hi.halted (fun hn => hn) (fun _ _ => rfl)
    (fun e h => by cases e <;> exact h) ?_
  intro e' hc
  have hcalling : Calling s e' := by
    by_cases he : e' = e
    · subst he
      exact h (by simpa [System.setCall] using hc)
    · exact hi.calling e' (by simpa [System.setCall, Function.update_of_ne he] using hc)
  cases e' <;> exact hcalling

theorem Inv.pollNext {tid : TaskId} {status : BitVec 32} (hi : Inv store s)
    (h : s.pollNext tid status = some s') : Inv store s' := by
  unfold System.pollNext at h
  split at h
  case h_2 => cases h
  rename_i t ht
  split at h
  case h_2 => cases h
  rename_i t' hnext
  obtain ⟨hk, hpc⟩ := PollTask.kept_next hnext
  have hi' : Inv store (s.setPoll tid t') := hi.setPoll ht hk fun _ => hpc
  split at h
  case h_1 hcall =>
    cases h
    refine hi'.called fun hc => ⟨t', Function.update_self .., hcall, hk.cb.trans ?_⟩
    by_contra hcb
    simp [CallPc.enter, hcb, CallPc.arriving] at hc
  case h_2 =>
    obtain ⟨h', hh, rfl⟩ := Option.map_eq_some_iff.mp h
    exact hi'.handled hh nofun fun _ => ⟨nofun, nofun⟩
  case h_3 =>
    cases h
    exact hi'

theorem Inv.isr {m : μ} {i : Fin channels} {line : Line} (hi : Inv store s)
    (h : s.isrStep m i line = some s') : Inv store s' := by
  unfold System.isrStep at h
  split at h
  case isFalse => cases h
  rename_i hsub
  simp only at h
  split at h
  · rename_i cb hcb
    cases h
    refine hi.called fun hc => ⟨hsub.2.1, ?_⟩
    have hrecv : cb = .linkRecvCmd := by
      by_contra hne
      simp [CallPc.enter, hne, CallPc.arriving] at hc
    rw [hrecv] at hcb
    cases line with
    | a => exact Or.inl hcb
    | b => exact Or.inr hcb
  · cases h
    exact hi

theorem Inv.recv {e : Source μ} {msg : Msg} (hi : Inv store s)
    (h : s.recvStep e msg = some s') : Inv store s' := by
  unfold System.recvStep at h
  split at h
  · rename_i link hc
    obtain ⟨h', hh, rfl⟩ := Option.map_eq_some_iff.mp h
    have harr : (s.call e).arriving = true := by rw [hc]; rfl
    have hq : s.pc ≠ .dropped := by
      intro hd
      rw [hi.not_arriving (by rw [hd]; rfl) e] at harr
      cases harr
    have hi' := hi.handled hh nofun fun hd => absurd hd hq
    exact hi'.called fun _ => hi'.calling e harr
  · cases h

theorem Inv.enq {e : Source μ} (hi : Inv store s) (h : s.enqStep e = some s') : Inv store s' := by
  unfold System.enqStep at h
  split at h
  · obtain ⟨h', hh, rfl⟩ := Option.map_eq_some_iff.mp h
    exact hi.handled hh nofun fun _ => ⟨nofun, nofun⟩
  · cases h

theorem Inv.notify {e : Source μ} {self : TaskId} (hi : Inv store s)
    (h : s.notifyStep e self = some s') : Inv store s' := by
  unfold System.notifyStep at h
  split at h
  · split at h
    · obtain ⟨h', hh, rfl⟩ := Option.map_eq_some_iff.mp h
      exact (hi.handled hh nofun fun _ => ⟨nofun, nofun⟩).tell _ _
    · cases h
  · cases h

/-- A callback that returns is no longer called. -/
theorem Inv.back {e : Source μ} (hi : Inv store s) (h : s.back e = some s') : Inv store s' := by
  cases e with
  | chan m i =>
    cases h
    exact hi.called fun hc => by cases hc
  | poll tid =>
    obtain ⟨s₁, hs₁, rfl⟩ := Option.map_eq_some_iff.mp h
    unfold System.pollStep at hs₁
    split at hs₁
    · rename_i t ht
      obtain ⟨t', hret, rfl⟩ := Option.map_eq_some_iff.mp hs₁
      have hi' : Inv store (s.setCall (.poll tid) .idle) := hi.called fun hc => by cases hc
      refine hi'.setPoll ht (PollTask.kept_ret hret) fun hc => ?_
      simp [System.setCall, CallPc.arriving] at hc
    · cases hs₁

theorem Inv.ret {e : Source μ} (hi : Inv store s) (h : s.retStep e = some s') : Inv store s' := by
  unfold System.retStep at h
  split at h
  · exact hi.back h
  · exact hi.back h
  · cases h

/-! ## §5 Steps of `shutdown` -/

/-- The state after a release. -/
def System.released (s : System μ) (m : μ) (i : Fin channels) (takes : Bool) : System μ :=
  { s with mbox := Function.update s.mbox m (hpscMboxChanRelease ⟨false, takes⟩ (s.mbox m) i).1 }

/-- A release makes its channel inactive and leaves the others. -/
theorem chan_released (s : System μ) (m : μ) (i : Fin channels) (takes : Bool) :
    (((s.released m i takes).mbox m).chan i).active = false ∧
      ∀ m' j, Source.chan m' j ≠ .chan m i →
        ((s.released m i takes).mbox m').chan j = (s.mbox m').chan j := by
  have hself : (s.released m i takes).mbox m =
      (hpscMboxChanRelease ⟨false, takes⟩ (s.mbox m) i).1 := Function.update_self ..
  have hchan : ∀ j, ((hpscMboxChanRelease ⟨false, takes⟩ (s.mbox m) i).1).chan j =
      (hpscMboxChanDestroy (s.mbox m) i).chan j := fun j => by
    simp only [Mailbox.chan, @release_mbox ⟨false, takes⟩ (s.mbox m) i rfl]
  constructor
  · rw [hself, hchan, destroy_chan]
    rfl
  · intro m' j hne
    by_cases hm : m' = m
    · subst hm
      rw [hself, hchan]
      exact (destroy_frame (s.mbox m') i).chan j fun hj => hne (by rw [hj])
    · exact congrArg (fun b : Mailbox => b.chan j) (Function.update_of_ne hm _ _)

/-- The two releases of a close make up `link_mbox_close`. -/
theorem released_linkMboxClose (s : System μ) (m : μ) (a : ConnectArgs) (takes takes' : Bool) :
    ((s.released m a.idxFrom takes).released m a.idxTo takes').mbox =
      Function.update s.mbox m
        (linkMboxClose ⟨false, takes⟩ ⟨false, takes'⟩ (s.mbox m) a).1 := by
  simp only [System.released, Function.update_self, Function.update_idem]
  rfl

/-- What listens after a release did so before, and is not on its channel. -/
theorem listens_released {m : μ} {i : Fin channels} {takes : Bool} {e : Source μ} :
    Listens (s.released m i takes) e ↔ Listens s e ∧ e ≠ .chan m i := by
  obtain ⟨hoff, hkept⟩ := chan_released s m i takes
  cases e with
  | poll tid => exact ⟨fun h => ⟨h, nofun⟩, fun h => h.1⟩
  | chan m' j =>
    by_cases he : Source.chan m' j = .chan m i
    · cases he
      exact ⟨fun h => absurd (hoff.symm.trans h.1) (by simp), fun h => absurd rfl h.2⟩
    · simp only [Listens, hkept m' j he]
      exact ⟨fun h => ⟨h, he⟩, fun h => h.1⟩

theorem Inv.release {m : μ} {i : Fin channels} {takes : Bool} (hi : Inv store s)
    (hidle : s.call (.chan m i) = .idle) : Inv store (s.released m i takes) := by
  refine hi.others rfl rfl rfl hi.handler hi.halted (fun hn => hn) (fun _ _ => rfl)
    (fun e h => (listens_released.mp h).1) ?_
  intro e hc
  have hcalling := hi.calling e hc
  cases e with
  | poll tid => exact hcalling
  | chan m' j =>
    show Listens (s.released m i takes) (.chan m' j)
    refine listens_released.mpr ⟨hcalling, fun he => ?_⟩
    rw [he] at hc
    rw [show (s.released m i takes).call (.chan m i) = _ from hidle] at hc
    cases hc

/-- One statement of a close function. -/
theorem Inv.closeStep {l : Link μ} {pc : ClosePc} {takes : Bool} {sc : StatusCode}
    (hi : Inv store s) (hpc : s.pc = .close l pc) (h : s.closeStep l pc takes sc = some s') :
    Inv store s' := by
  unfold System.closeStep at h
  split at h
  case h_1 m chanFrom chanTo hpriv =>
    unfold System.releaseStep at h
    split at h <;> cases h
    refine (hi.release ‹_›).closeOn hpc fun _ => Or.inr fun hl => ?_
    exact (listens_released.mp hl).2 (by simp [Link.source, hpriv])
  case h_2 m chanFrom chanTo hpriv =>
    unfold System.releaseStep at h
    split at h <;> cases h
    exact (hi.release ‹_›).closeOn hpc fun hk => by cases hk
  case h_3 => exact hi.exit hpc rfl (Or.inl rfl) h
  case h_4 => exact hi.wait hpc (Or.inl rfl) h
  case h_5 spRecv spAck hpriv => exact hi.exit hpc rfl (Or.inr (by simp [Link.source, hpriv])) h
  case h_6 spRecv spAck hpriv => exact hi.wait hpc (Or.inr (by simp [Link.source, hpriv])) h
  case h_7 =>
    cases h
    have horder := hi.order
    have hstopped := hi.stopped
    have hstored := hi.stored
    rw [hpc] at horder hstopped hstored
    refine hi.goOn (fun _ => hstopped rfl) hstored ?_ (fun hk => by cases hk)
      (fun hk => by cases hk) nofun
    rw [← horder]
    exact congrArg (· ++ s.store) (List.append_nil _)
  case h_8 => cases h

/-- One statement of `shutdown`. -/
theorem Inv.shutdownStep {self : TaskId} {takes : Bool} {sc : StatusCode} (hi : Inv store s)
    (h : s.shutdownStep self takes sc = some s') : Inv store s' := by
  have horder := hi.order
  have hstored := hi.stored
  unfold System.shutdownStep at h
  split at h
  case h_1 hpc =>
    obtain ⟨h', hh, rfl⟩ := Option.map_eq_some_iff.mp h
    have hi' := hi.handled hh (fun hk => by cases hk) fun hk => by rw [hpc] at hk; cases hk
    rw [hpc] at horder hstored
    exact hi'.goOn (fun hk => by cases hk) hstored horder
      (fun _ => hi.early (by rw [hpc]; rfl)) (fun hk => by cases hk) (fun hk => by cases hk)
  case h_2 hpc =>
    have hq : s.pc ≠ .dropped := by rw [hpc]; exact fun hk => by cases hk
    split at h
    · rename_i sc' hret
      cases h
      rw [hpc] at horder hstored
      exact hi.goOn (fun _ => hi.halted sc' hret) hstored horder (fun hk => by cases hk)
        (fun hk => by cases hk) (fun hk => by cases hk)
    · obtain ⟨h', hh, rfl⟩ := Option.map_eq_some_iff.mp h
      exact hi.handled hh (fun hk => by cases hk) fun hk => absurd hk hq
    · obtain ⟨h', hh, rfl⟩ := Option.map_eq_some_iff.mp h
      exact hi.handled hh (fun hk => by cases hk) fun hk => absurd hk hq
  case h_3 hpc =>
    have hstopped : NoOwner s.handler := hi.stopped (by rw [hpc]; rfl)
    rw [hpc] at horder hstored
    split at h
    · rename_i l links hlinks
      cases h
      rw [hlinks] at horder hstored
      refine hi.goOn (fun _ => hstopped) ?_ ?_ (fun hk => by cases hk) (fun hk => by cases hk)
        (fun hk => by cases hk)
      · intro e he
        obtain ⟨l', hmem, hl'⟩ := hstored e he
        refine ⟨l', ?_, hl'⟩
        cases hpriv : l.priv <;>
          simpa [ShutdownPc.listening, LinkPriv.close, ClosePc.listening, hpriv] using hmem
      · rw [← horder]
        simp [ShutdownPc.closing]
    · rename_i hlinks
      cases h
      exact hi.goOn (fun _ => hstopped) hstored horder (fun hk => by cases hk) (fun _ => hlinks)
        (fun hk => by cases hk)
  case h_4 l pc hpc => exact hi.closeStep hpc h
  case h_5 hpc =>
    obtain ⟨h', hh, rfl⟩ := Option.map_eq_some_iff.mp h
    have hi' := hi.handled hh (fun hk => by cases hk) fun hk => by rw [hpc] at hk; cases hk
    have hstopped : s.pc.stopped = true := by rw [hpc]; rfl
    rw [hpc] at horder hstored
    refine hi'.goOn (fun _ => hi'.stopped hstopped) hstored horder (fun hk => by cases hk)
      (fun _ => hi.drained (by rw [hpc]; rfl)) fun _ => ?_
    cases hh
    rfl
  case h_6 => cases h

/-! ## §6 Runs -/

theorem inv_step {a : Act μ} (hi : Inv store s) (h : step s a = some s') : Inv store s' := by
  cases a with
  | handler a =>
    simp only [step] at h
    split at h
    · rename_i hallows
      obtain ⟨h', hh, rfl⟩ := Option.map_eq_some_iff.mp h
      refine hi.handled hh ?_ fun _ => ⟨?_, ?_⟩
      · rintro rfl
        cases hallows
      · rintro _ _ _ _ rfl
        cases hallows
      · rintro rfl
        cases hallows
    · cases h
  | isr m i line => exact hi.isr h
  | poll tid status => exact hi.pollNext h
  | timeout tid => exact hi.waited (fun _ _ => PollTask.kept_timeout) h
  | wake tid => exact hi.waited (fun _ _ => PollTask.kept_wake) h
  | recv e msg => exact hi.recv h
  | enq e => exact hi.enq h
  | notify e self => exact hi.notify h
  | ret e => exact hi.ret h
  | shutdown self takes sc => exact hi.shutdownStep h

/-- **No command outlives its link**: whatever the other parties do, in every
state of a shutdown. -/
theorem shutdown_safe (s₀ : System μ) (h₀ : Ready s₀) (as : List (Act μ)) (s : System μ)
    (h : exec step s₀ as = some s) : Safe s₀.store s :=
  (exec_invariant' (fun _ _ _ hi h => inv_step hi h) h₀.inv h).safe h₀.once

def handlerTid : TaskId := 1
def recvTid : TaskId := 2
def ackTid : TaskId := 3

/-- A handler and the two poll tasks of a link are started. A command of link
7 arrives on channel 0, and the handler takes it. -/
def startUp : List (HandlerAct (Source Unit)) :=
  [.outside (.create handlerTid), .call (.start handlerTid 64 0), .ctl, .ctl, .ctl, .ctl, .ctl,
   .taskStart .successful,
   .outside (.create recvTid), .outside (.startOther recvTid),
   .outside (.create ackTid), .outside (.startOther ackTid),
   .push (.chan () 0) ⟨Msg.zero, some 7⟩ none none, .enq (.chan () 0), .enq (.chan () 0),
   .notify (.chan () 0) recvTid, .task handlerTid, .task handlerTid]

theorem startUp_runs :
    (exec handlerStep (.init (Source Unit) ⟨none, none⟩) startUp).isSome = true := by
  decide

/-- A server with a mailbox link and a shared-memory link. -/
def server : System Unit where
  handler := (exec handlerStep (.init (Source Unit) ⟨none, none⟩) startUp).get startUp_runs
  mbox _ := (linkMboxConnect ⟨some 7, some 8, false, true, true, true⟩ probed ⟨0, 1, 0x2e, 0x2d⟩).1
  poll tid :=
    if tid = recvTid then some (.start .linkRecvCmd (some 9) statusBitNew)
    else if tid = ackTid then some (.start .linkShmemAck (some 9) statusBitAck)
    else none
  call _ := .idle
  store := [⟨7, .mbox () 0 1⟩, ⟨9, .shmem recvTid ackTid⟩]
  pc := .start
  closed := []

theorem server_ready : Ready server where
  start := rfl
  closed := rfl
  handler := ⟨⟨none, none⟩, startUp, (Option.some_get startUp_runs).symm⟩
  once := by decide
  stored e h := by
    cases e with
    | chan m i =>
      have hall : ∀ i, ((server.mbox ()).chan i).intA.cb = some .linkRecvCmd ∨
          ((server.mbox ()).chan i).intB.cb = some .linkRecvCmd → i = 0 := by
        decide
      exact ⟨_, List.mem_cons_self .., by rw [hall i h.2]; rfl⟩
    | poll tid =>
      obtain ⟨t, ht, _, hcb⟩ := h
      by_cases hrecv : tid = recvTid
      · exact ⟨_, List.mem_cons_of_mem _ (List.mem_cons_self ..), by rw [hrecv]; rfl⟩
      · by_cases hack : tid = ackTid
        · subst hack
          have ht' : some (PollTask.start .linkShmemAck (some 9) statusBitAck) = some t := ht
          cases ht'
          cases hcb
        · simp [server, hrecv, hack] at ht
  calling _ h := by cases h

/-- The next statement of `shutdown`. -/
def shutdownNext : Act Unit := .shutdown 9 true .successful

/-- The server is shut down while its handler is in the callback. A message
that arrives meanwhile finds the handler published, and by the time it sends
its event the handler is gone: the event makes the poll task exit that the
interrupt has come upon, and `shutdown` finds no task to tell. -/
def arrivalInShutdown : List (Act Unit) :=
  [shutdownNext, shutdownNext, shutdownNext,
   .handler (.served handlerTid 0 Msg.zero), .handler (.task handlerTid),
   .handler (.task handlerTid), .handler (.task handlerTid),
   .isr () 0 .a, .recv (.chan () 0) Msg.zero, .enq (.chan () 0),
   .handler (.wake handlerTid), .handler (.task handlerTid), .handler (.task handlerTid),
   .handler (.task handlerTid), shutdownNext, shutdownNext,
   .enq (.chan () 0), .notify (.chan () 0) recvTid, .ret (.chan () 0),
   shutdownNext, shutdownNext, shutdownNext, shutdownNext,
   shutdownNext, shutdownNext, shutdownNext, shutdownNext,
   .wake recvTid, .poll recvTid 0, .poll recvTid 0, .poll recvTid 0,
   shutdownNext, shutdownNext, .wake ackTid, shutdownNext, .poll ackTid 0, .poll ackTid 0,
   shutdownNext, .shutdown 9 true .invalidId,
   shutdownNext, shutdownNext, shutdownNext]

theorem arrivalInShutdown_safe :
    ∃ s, exec step server arrivalInShutdown = some s ∧ s.pc = .dropped ∧ Safe server.store s := by
  have hrun : (exec step server arrivalInShutdown).map (fun s => s.pc) = some .dropped := by decide
  obtain ⟨s, hs, hpc⟩ := Option.map_eq_some_iff.mp hrun
  exact ⟨s, hs, hpc, shutdown_safe server server_ready arrivalInShutdown s hs⟩

end HpscRtems.Shutdown
