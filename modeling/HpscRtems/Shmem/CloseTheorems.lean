/-
HpscRtems.Shmem.CloseTheorems — a shared-memory link is closed safely
against its own poll tasks, as long as these leave when they are told to.

At each program point of connect and close it is settled which objects
exist (`CtlPc.held`), which poll tasks may be in their loops (`CtlPc.runs`)
and which have not yet been told to leave (`CtlPc.serves`). A task in its
loop finds everything it uses (`runs_held`), and one that is told to leave
is one that is there (`Safe.serving`), so that every event send succeeds.

The exit event of the poll tasks is `RTEMS_EVENT_0`, as is the event that
tells the command handler of a new command; and a task identifier that has
been cleared between the test and the send is `RTEMS_SELF`. A poll task
that sends its own exit event this way is gone when it is to be told to
leave, and its `struct shmem_poll` is never freed.
-/
import HpscRtems.Shmem.Link

namespace HpscRtems.Shmem

open Machine Rtems Command Link

/-! ## §1 Program points -/

theorem Side.forall_iff {P : Side → Prop} : (∀ x, P x) ↔ P .recv ∧ P .ack :=
  ⟨fun h => ⟨h .recv, h .ack⟩, fun h x => by cases x; exacts [h.1, h.2]⟩

theorem Obj.forall_iff {P : Obj → Prop} : (∀ o, P o) ↔
    P .link ∧ P .slink ∧ P .shmemOut ∧ P .shmemIn ∧ P .spRecv ∧ P .spAck :=
  ⟨fun h => ⟨h _, h _, h _, h _, h _, h _⟩, fun ⟨h₁, h₂, h₃, h₄, h₅, h₆⟩ o => by
    cases o <;> assumption⟩

instance {P : Side → Prop} [DecidablePred P] : Decidable (∀ x, P x) :=
  decidable_of_iff _ Side.forall_iff.symm

instance {P : Obj → Prop} [DecidablePred P] : Decidable (∀ o, P o) :=
  decidable_of_iff _ Obj.forall_iff.symm

namespace CtlPc

/-- The objects that exist. -/
def held : CtlPc → List Obj
  | mallocLink | failed | closed => []
  | mallocSlink | undoLink | freeLink => [.link]
  | openOut | undoSlink | freeSlink => [.slink, .link]
  | openIn | undoOut => [.shmemOut, .slink, .link]
  | closeIn => [.shmemIn, .slink, .link]
  | mallocRecv | undoIn | closeOut => [.shmemIn, .shmemOut, .slink, .link]
  | startRecv | mallocAck | undoSend | undoWait | undoFree | recvSend | recvWait | recvFree =>
    [.spRecv, .shmemIn, .shmemOut, .slink, .link]
  | startAck | opened | ackSend | ackWait | ackFree =>
    [.spAck, .spRecv, .shmemIn, .shmemOut, .slink, .link]

/-- The poll tasks that may be in their loops. -/
def runs : CtlPc → Side → Bool
  | mallocAck, .recv | startAck, .recv | undoSend, .recv | undoWait, .recv => true
  | opened, _ | ackSend, _ | ackWait, _ => true
  | ackFree, .recv | recvSend, .recv | recvWait, .recv => true
  | _, _ => false

/-- The poll tasks that have been started and not been told to leave. -/
def serves : CtlPc → Side → Bool
  | mallocAck, .recv | startAck, .recv | undoSend, .recv => true
  | opened, _ | ackSend, _ => true
  | ackWait, .recv | ackFree, .recv | recvSend, .recv => true
  | _, _ => false

/-- From `pc` to `pc'` no poll task is started or left running. -/
def goesOn (pc pc' : CtlPc) : Bool :=
  [Side.recv, Side.ack].all (fun x =>
    (!pc.runs x || pc'.runs x) && (!pc'.serves x || pc.serves x)) && (!pc'.shared || pc.shared)

/-- A poll task in its loop has all it uses. -/
theorem runs_held {pc : CtlPc} {x : Side} (h : pc.runs x = true) :
    ∀ o ∈ [x.sp, x.shm, Obj.link, Obj.slink, Obj.shmemIn, Obj.shmemOut], o ∈ pc.held := by
  revert h
  cases pc <;> cases x <;> decide

theorem serves_runs {pc : CtlPc} {x : Side} (h : pc.serves x = true) : pc.runs x = true := by
  revert h
  cases pc <;> cases x <;> decide

theorem goesOn_iff {pc pc' : CtlPc} (h : pc.goesOn pc' = true) (x : Side) :
    (pc.runs x = true → pc'.runs x = true) ∧ (pc'.serves x = true → pc.serves x = true) ∧
      (pc'.shared = true → pc.shared = true) := by
  simp only [goesOn, List.all_cons, List.all_nil, Bool.and_true, Bool.and_eq_true,
    Bool.or_eq_true, Bool.not_eq_true'] at h
  obtain ⟨⟨hrecv, hack⟩, hshared⟩ := h
  have himp : ∀ {a b : Bool}, a = false ∨ b = true → a = true → b = true := by decide
  cases x with
  | recv => exact ⟨himp hrecv.1, himp hrecv.2, himp hshared⟩
  | ack => exact ⟨himp hack.1, himp hack.2, himp hshared⟩

end CtlPc

/-! ## §2 Poll tasks -/

/-- The task has not been told to leave. -/
structure PollTask.Serving (t : PollTask) : Prop where
  pc : t.pc = .receive ∨ t.pc = .check false ∨ t.pc = .testStatus ∨ t.pc = .callback
  noExit : hasEvent t.pending shmEventExit = false

/-- From `t` to `t'` a poll task has gone on by itself. -/
structure PollKept (t t' : PollTask) : Prop where
  kept : PollTask.Kept t t'
  serving : t.Serving → t'.Serving

theorem PollTask.Serving.inLoop {t : PollTask} (h : t.Serving) : t.pc.inLoop = true := by
  rcases h.pc with hpc | hpc | hpc | hpc <;> rw [hpc] <;> rfl

theorem PollTask.Serving.live {t : PollTask} (h : t.Serving) : t.live = true := by
  have hne : t.pc ≠ .exited := by
    intro hpc
    have hloop := h.inLoop
    rw [hpc] at hloop
    cases hloop
  exact decide_eq_true hne

theorem PollKept.refl (t : PollTask) : PollKept t t := ⟨⟨rfl, id⟩, id⟩

theorem pollKept_send {t : PollTask} {ev : EventSet} (hev : hasEvent ev shmEventExit = false) :
    PollKept t (t.send ev) := by
  refine ⟨PollTask.kept_send ev, fun h => ⟨h.pc, ?_⟩⟩
  show hasEvent (t.pending ||| ev) shmEventExit = false
  rw [hasEvent_or, h.noExit, hev]
  rfl

theorem pollKept_timeout {t t' : PollTask} (h : t.timeout = some t') :
    PollKept t t' ∧ t.pc = .receive := by
  refine ⟨⟨(PollTask.kept_timeout h).1, fun hs => ?_⟩, ?_⟩
  · unfold PollTask.timeout at h
    split at h
    · cases h
      exact ⟨Or.inr (Or.inl rfl), hs.noExit⟩
    · cases h
  · unfold PollTask.timeout at h
    split at h
    · rename_i hpc
      exact hpc.1
    · cases h

theorem pollKept_wake {t t' : PollTask} (h : t.wake = some t') :
    PollKept t t' ∧ t.pc = .receive := by
  have hpc : t.pc = .receive ∧ hasEvent t.pending shmEventExit = true := by
    unfold PollTask.wake at h
    split at h
    · assumption
    · cases h
  refine ⟨⟨(PollTask.kept_wake h).1, fun hs => ?_⟩, hpc.1⟩
  rw [hs.noExit] at hpc
  cases hpc.2

theorem pollKept_next {t t' : PollTask} {status : BitVec 32} (h : t.next status = some t') :
    PollKept t t' := by
  refine ⟨(PollTask.kept_next h).1, fun hs => ?_⟩
  have hpc := hs.pc
  unfold PollTask.next at h
  split at h
  case h_2 =>
    cases h
    exact ⟨Or.inr (Or.inr (Or.inl rfl)), hs.noExit⟩
  case h_3 =>
    split at h
    · cases h
      exact ⟨Or.inr (Or.inr (Or.inr rfl)), hs.noExit⟩
    · cases h
      exact ⟨Or.inl rfl, hs.noExit⟩
  case h_6 => cases h
  -- the other points are past the exit event
  all_goals
    rename_i hat
    simp [hat] at hpc

theorem pollKept_ret {t t' : PollTask} (h : t.ret = some t') : PollKept t t' := by
  refine ⟨PollTask.kept_ret h, fun hs => ?_⟩
  unfold PollTask.ret at h
  split at h
  · cases h
    exact ⟨Or.inl rfl, hs.noExit⟩
  · cases h

/-! ## §3 The invariant -/

/-- As far as the link has come, everything is in its place. -/
structure Safe (cfg : LinkCfg) (s : LinkSys) : Prop where
  /-- Nothing was used or freed that was not there. -/
  faults : s.faults = []
  heap : ∀ o, s.heap o = .live ↔ o ∈ s.ctl.held
  shared : s.ctl.shared = true → ∀ o, s.heap o ≠ .absent
  inLoop : ∀ x t, s.poll x = some t → t.pc.inLoop = true → s.ctl.runs x = true
  serving : ∀ x, s.ctl.serves x = true → ∃ t, s.poll x = some t ∧ t.Serving
  rc : s.rc = 0

theorem touch_eq {s : LinkSys} {os : List Obj} (h : ∀ o ∈ os, s.heap o = .live) :
    s.touch os = s := by
  have hnone : os.filter (fun o => s.heap o ≠ .live) = [] :=
    List.filter_eq_nil_iff.mpr fun o ho => by simp [h o ho]
  rw [LinkSys.touch, hnone, List.append_nil]

variable {cfg : LinkCfg} {s s' : LinkSys}

/-- What the program point holds is there. -/
theorem Safe.live (h : Safe cfg s) {os : List Obj} (hos : ∀ o ∈ os, o ∈ s.ctl.held) :
    ∀ o ∈ os, s.heap o = .live := fun o ho => (h.heap o).mpr (hos o ho)

/-- The poll tasks go on, and nothing else changes that matters. -/
theorem Safe.polls (h : Safe cfg s) (hfaults : s'.faults = s.faults) (hheap : s'.heap = s.heap)
    (hctl : s'.ctl = s.ctl) (hrc : s'.rc = s.rc)
    (hpoll : ∀ x, s'.poll x = s.poll x ∨
      ∃ t t', s.poll x = some t ∧ s'.poll x = some t' ∧ PollKept t t') : Safe cfg s' := by
  refine ⟨hfaults.trans h.faults, ?_, ?_, fun x t ht hloop => ?_, fun x hx => ?_, hrc.trans h.rc⟩
  · rw [hheap, hctl]
    exact h.heap
  · rw [hheap, hctl]
    exact h.shared
  · rw [hctl]
    rcases hpoll x with heq | ⟨t₀, t', ht₀, ht', hkept⟩
    · exact h.inLoop x t (heq.symm.trans ht) hloop
    · obtain rfl : t' = t := Option.some.inj (ht'.symm.trans ht)
      exact h.inLoop x t₀ ht₀ (hkept.kept.left hloop)
  · rw [hctl] at hx
    obtain ⟨t, ht, hserv⟩ := h.serving x hx
    rcases hpoll x with heq | ⟨t₀, t', ht₀, ht', hkept⟩
    · exact ⟨t, heq.trans ht, hserv⟩
    · obtain rfl : t₀ = t := Option.some.inj (ht₀.symm.trans ht)
      exact ⟨t', ht', hkept.serving hserv⟩

/-- The connecting or closing task goes on. -/
theorem Safe.move (h : Safe cfg s) {heap : Obj → Cell} {pc : CtlPc}
    (hgo : s.ctl.goesOn pc = true) (hheap : ∀ o, heap o = .live ↔ o ∈ pc.held)
    (habsent : ∀ o, heap o = .absent → s.heap o = .absent) :
    Safe cfg { s with heap := heap, ctl := pc } := by
  refine ⟨h.faults, hheap, fun hpc o ho => ?_, fun x t ht hloop => ?_, fun x hx => ?_, h.rc⟩
  · exact h.shared ((CtlPc.goesOn_iff hgo .recv).2.2 hpc) o (habsent o ho)
  · exact (CtlPc.goesOn_iff hgo x).1 (h.inLoop x t ht hloop)
  · exact h.serving x ((CtlPc.goesOn_iff hgo x).2.1 hx)

/-- An access to what the program point holds. -/
theorem Safe.touch_held (h : Safe cfg s) {pc₀ : CtlPc} (hctl : s.ctl = pc₀) {o : Obj}
    (ho : o ∈ pc₀.held) : s.touch [o] = s := by
  subst hctl
  exact touch_eq (h.live (by simpa using ho))

theorem Safe.goto (h : Safe cfg s) {pc₀ pc : CtlPc} (hctl : s.ctl = pc₀)
    (hgo : pc₀.goesOn pc = true) (hheld : pc.held = pc₀.held) : Safe cfg { s with ctl := pc } := by
  subst hctl
  exact h.move hgo (fun o => by rw [hheld]; exact h.heap o) fun _ ho => ho

theorem Safe.alloc (h : Safe cfg s) {pc₀ pc : CtlPc} (hctl : s.ctl = pc₀) {o : Obj}
    (hgo : pc₀.goesOn pc = true) (hheld : pc.held = o :: pc₀.held) : Safe cfg (s.alloc o pc) := by
  subst hctl
  refine h.move hgo (fun o' => ?_) fun o' ho' => ?_
  · by_cases ho : o' = o
    · subst ho
      simp [hheld]
    · rw [Function.update_of_ne ho, hheld, List.mem_cons, h.heap o']
      simp [ho]
  · by_cases ho : o' = o
    · subst ho
      simp at ho'
    · rwa [Function.update_of_ne ho] at ho'

/-- `malloc` succeeds, and the caller goes on, or fails. -/
theorem Safe.malloc (h : Safe cfg s) {pc₀ pc pc' : CtlPc} (hctl : s.ctl = pc₀) {o : Obj}
    (ok : Bool) (hgo : pc₀.goesOn pc = true) (hheld : pc.held = o :: pc₀.held)
    (hgo' : pc₀.goesOn pc' = true) (hheld' : pc'.held = pc₀.held) :
    Safe cfg (if ok then s.alloc o pc else { s with ctl := pc' }) := by
  cases ok with
  | true => exact h.alloc hctl hgo hheld
  | false => exact h.goto hctl hgo' hheld'

theorem Safe.free (h : Safe cfg s) {pc₀ pc : CtlPc} (hctl : s.ctl = pc₀) {o : Obj}
    (hgo : pc₀.goesOn pc = true) (ho : o ∈ pc₀.held)
    (hheld : pc.held = pc₀.held.filter (· ≠ o)) : Safe cfg (s.free o pc) := by
  subst hctl
  rw [LinkSys.free, h.touch_held rfl ho]
  refine h.move hgo (fun o' => ?_) fun o' ho' => ?_
  · by_cases heq : o' = o
    · subst heq
      simp [hheld]
    · rw [Function.update_of_ne heq, hheld, List.mem_filter, h.heap o']
      simp [heq]
  · by_cases heq : o' = o
    · subst heq
      simp at ho'
    · rwa [Function.update_of_ne heq] at ho'

/-! ## §4 Steps of the poll tasks -/

variable {x : Side} {t : PollTask}

/-- The callback of `x` is about to send `SHM_EVENT_EXIT` to a poll task. -/
def tellsExit (cfg : LinkCfg) (s : LinkSys) (x : Side) (t : PollTask) : Prop :=
  s.call x = .send ∧ hasEvent (s.notice t.cb).2 shmEventExit = true ∧
    ∃ y, (cfg.tid y : RtemsId) = s.receiver cfg x t.cb

/-- No callback sends `SHM_EVENT_EXIT` to a poll task. -/
def SendsNoExit (cfg : LinkCfg) (s : LinkSys) : LinkAct → Prop
  | .call x => ∀ t, s.poll x = some t → t.pc = .callback → ¬ tellsExit cfg s x t
  | _ => True

/-- An event reaches the poll task it is sent to, and no other. -/
theorem tell_poll (id : RtemsId) (ev : EventSet) (y : Side) :
    (s.tell cfg id ev).poll y = s.poll y ∨
      (cfg.tid y : RtemsId) = id ∧
        ∃ t, s.poll y = some t ∧ (s.tell cfg id ev).poll y = some (t.send ev) := by
  by_cases hy : (cfg.tid y : RtemsId) = id
  · cases hpoll : s.poll y with
    | none => exact Or.inl (by simp [LinkSys.tell, hpoll])
    | some t => exact Or.inr ⟨hy, t, rfl, by simp [LinkSys.tell, hpoll, hy]⟩
  · exact Or.inl (if_neg hy)

/-- What a step of a callback does: it uses the objects `os`, adds to what
has been written, and its task goes on, or another is sent an event. -/
structure CallFrame (cfg : LinkCfg) (s s' : LinkSys) (x : Side) (t : PollTask) (os : List Obj) :
    Prop where
  uses : ∀ o ∈ os, o ∈ [Obj.link, .slink, .shmemIn, .shmemOut]
  faults : s'.faults = (s.touch os).faults
  heap : s'.heap = s.heap
  ctl : s'.ctl = s.ctl
  rc : s'.rc = s.rc
  poll : s'.poll = s.poll ∨
    (s.call x = .send ∧
      s'.poll = (s.tell cfg (s.receiver cfg x t.cb) (s.notice t.cb).2).poll) ∨
    (s.call x = .done ∧ ∃ t', t.ret = some t' ∧ s'.poll = (s.setPoll x t').poll)
  writes : ∃ ws, s'.writes = s.writes ++ ws
  /-- A message is read and then taken off the region. -/
  read : s.call x = .read → s'.call x = .setNew ∧ s'.poll = s.poll
  setNew : s.call x = .setNew → s'.writes ≠ []
  others : ∀ y, y ≠ x → s'.call y = s.call y

/-- A step past the two points at which a message is taken off the region. -/
theorem CallFrame.past {os : List Obj} {pc : CbPc} (hpc : s.call x = pc)
    (hpast : pc ≠ .read ∧ pc ≠ .setNew)
    (huses : ∀ o ∈ os, o ∈ [Obj.link, .slink, .shmemIn, .shmemOut])
    (hfaults : s'.faults = (s.touch os).faults) (hheap : s'.heap = s.heap)
    (hctl : s'.ctl = s.ctl) (hrc : s'.rc = s.rc)
    (hpoll : s'.poll = s.poll ∨
      (s.call x = .send ∧
        s'.poll = (s.tell cfg (s.receiver cfg x t.cb) (s.notice t.cb).2).poll) ∨
      (s.call x = .done ∧ ∃ t', t.ret = some t' ∧ s'.poll = (s.setPoll x t').poll))
    (hwrites : ∃ ws, s'.writes = s.writes ++ ws) (hothers : ∀ y, y ≠ x → s'.call y = s.call y) :
    CallFrame cfg s s' x t os :=
  ⟨huses, hfaults, hheap, hctl, hrc, hpoll, hwrites, fun h => absurd (hpc.symm.trans h) hpast.1,
    fun h => absurd (hpc.symm.trans h) hpast.2, hothers⟩

theorem callStep_frame (hs : s.callStep cfg x t = some s') : ∃ os, CallFrame cfg s s' x t os := by
  have hsame : ∃ ws : List StatusWrite, s.writes = s.writes ++ ws := ⟨[], by simp⟩
  have huses : ∀ o ∈ LinkSys.noticeAccess t.cb, o ∈ [Obj.link, .slink, .shmemIn, .shmemOut] := by
    cases t.cb <;> decide
  have hothers : ∀ c y, y ≠ x → Function.update s.call x c y = s.call y :=
    fun c _ hy => Function.update_of_ne hy c s.call
  unfold LinkSys.callStep at hs
  split at hs
  case h_1 hpc =>
    refine ⟨[.link, .slink, .shmemIn], ?_⟩
    split at hs
    · cases hs
      exact ⟨by decide, rfl, rfl, rfl, rfl, Or.inl rfl, hsame,
        fun _ => ⟨by simp [LinkSys.setCall], rfl⟩, by simp [hpc], hothers _⟩
    · dsimp only at hs
      split at hs
      · cases hs
        exact ⟨by decide, rfl, rfl, rfl, rfl, Or.inl rfl, hsame,
          fun _ => ⟨by simp [LinkSys.setCall], rfl⟩, by simp [hpc], hothers _⟩
      · cases hs
    · cases hs
  case h_2 hpc =>
    cases hs
    exact ⟨[.slink, .shmemIn], by decide, rfl, rfl, rfl, rfl, Or.inl rfl, ⟨_, rfl⟩, by simp [hpc],
      fun _ => by simp, hothers _⟩
  case h_3 hpc =>
    cases hs
    exact ⟨[.slink, .shmemIn], .past hpc (by decide) (by decide) rfl rfl rfl rfl (Or.inl rfl)
      ⟨_, rfl⟩ (hothers _)⟩
  case h_4 hpc =>
    cases hs
    exact ⟨[], .past hpc (by decide) (by decide) (by simp [LinkSys.touch, LinkSys.setCall]) rfl rfl
      rfl (Or.inl rfl) hsame (hothers _)⟩
  case h_5 hpc =>
    cases hs
    exact ⟨[.link], .past hpc (by decide) (by decide) rfl rfl rfl rfl (Or.inl rfl) hsame
      (hothers _)⟩
  case h_6 hpc =>
    by_cases hcb : t.cb = .linkRecvReply
    · simp only [if_pos hcb] at hs
      cases hs
      exact ⟨_, .past hpc (by decide) huses rfl rfl rfl rfl (Or.inl rfl) hsame (hothers _)⟩
    · simp only [if_neg hcb] at hs
      cases hs
      exact ⟨_, .past hpc (by decide) huses rfl rfl rfl rfl (Or.inl rfl) hsame (hothers _)⟩
  case h_7 hpc =>
    cases hs
    exact ⟨_, .past hpc (by decide) huses rfl rfl rfl rfl (Or.inr (Or.inl ⟨hpc, rfl⟩)) hsame
      (hothers _)⟩
  case h_8 hpc =>
    cases hs
    exact ⟨[.slink, .shmemOut], .past hpc (by decide) (by decide) rfl rfl rfl rfl (Or.inl rfl)
      ⟨_, rfl⟩ (hothers _)⟩
  case h_9 hpc =>
    obtain ⟨t', ht', rfl⟩ := Option.map_eq_some_iff.mp hs
    exact ⟨[], .past hpc (by decide) (by decide) (by simp [LinkSys.touch, LinkSys.setPoll]) rfl rfl
      rfl (Or.inr (Or.inr ⟨hpc, t', ht', rfl⟩)) hsame fun _ _ => rfl⟩

/-- A poll task in its loop finds what it uses. -/
theorem Safe.touch_side (h : Safe cfg s) (ht : s.poll x = some t) (hloop : t.pc.inLoop = true)
    {os : List Obj}
    (hos : ∀ o ∈ os, o ∈ [x.sp, x.shm, Obj.link, Obj.slink, Obj.shmemIn, Obj.shmemOut]) :
    s.touch os = s :=
  touch_eq (h.live fun o ho => CtlPc.runs_held (h.inLoop x t ht hloop) o (hos o ho))

/-- Poll task `x` goes on. -/
theorem Safe.setPoll (h : Safe cfg s) (ht : s.poll x = some t) {t' : PollTask}
    (hkept : PollKept t t') (hfaults : s'.faults = s.faults) (hheap : s'.heap = s.heap)
    (hctl : s'.ctl = s.ctl) (hrc : s'.rc = s.rc) (hpoll : s'.poll = (s.setPoll x t').poll) :
    Safe cfg s' := by
  refine h.polls hfaults hheap hctl hrc fun y => ?_
  rw [hpoll]
  by_cases hy : y = x
  · subst hy
    exact Or.inr ⟨t, t', ht, Function.update_self _ _ _, hkept⟩
  · exact Or.inl (Function.update_of_ne hy _ _)

theorem safe_receive (h : Safe cfg s) {f : PollTask → Option PollTask}
    (hf : ∀ {t t'}, f t = some t' → PollKept t t' ∧ t.pc = .receive)
    (hs : s.receiveStep x f = some s') : Safe cfg s' := by
  unfold LinkSys.receiveStep at hs
  split at hs
  · rename_i t ht
    obtain ⟨t', ht', rfl⟩ := Option.map_eq_some_iff.mp hs
    obtain ⟨hkept, hpc⟩ := hf ht'
    rw [h.touch_side ht (by rw [hpc]; rfl) (by simp)]
    exact h.setPoll ht hkept rfl rfl rfl rfl rfl
  · cases hs

theorem safe_next (h : Safe cfg s) (hs : s.nextStep x = some s') : Safe cfg s' := by
  unfold LinkSys.nextStep at hs
  split at hs
  · rename_i t ht
    obtain ⟨t', ht', rfl⟩ := Option.map_eq_some_iff.mp hs
    have htouch : s.touch (LinkSys.pollAccess x t.pc) = s := by
      cases hpc : t.pc with
      | testStatus => exact h.touch_side ht (by rw [hpc]; rfl) (by simp [LinkSys.pollAccess])
      | clearRunning => exact h.touch_side ht (by rw [hpc]; rfl) (by simp [LinkSys.pollAccess])
      | _ => exact touch_eq (by simp [LinkSys.pollAccess])
    rw [htouch]
    exact h.setPoll ht (pollKept_next ht') rfl rfl rfl rfl rfl
  · cases hs

theorem safe_call (h : Safe cfg s) (ht : s.poll x = some t) (hpc : t.pc = .callback)
    (hexit : ¬ tellsExit cfg s x t) (hs : s.callStep cfg x t = some s') : Safe cfg s' := by
  obtain ⟨os, hf⟩ := callStep_frame hs
  have hfaults : s'.faults = s.faults := by
    rw [hf.faults, h.touch_side ht (by rw [hpc]; rfl)]
    intro o ho
    exact List.mem_cons_of_mem _ (List.mem_cons_of_mem _ (hf.uses o ho))
  rcases hf.poll with heq | ⟨hsend, heq⟩ | ⟨-, t', ht', heq⟩
  · exact h.polls hfaults hf.heap hf.ctl hf.rc fun y => Or.inl (congrFun heq y)
  · refine h.polls hfaults hf.heap hf.ctl hf.rc fun y => ?_
    rw [heq]
    have htell := @tell_poll cfg s (s.receiver cfg x t.cb) (s.notice t.cb).2 y
    rcases htell with hsame | ⟨hy, t₀, ht₀, hsent⟩
    · exact Or.inl hsame
    · have hev : hasEvent (s.notice t.cb).2 shmEventExit = false := by
        by_contra hev
        exact hexit ⟨hsend, by simpa using hev, y, hy⟩
      exact Or.inr ⟨t₀, _, ht₀, hsent, pollKept_send hev⟩
  · exact h.setPoll ht (pollKept_ret ht') hfaults hf.heap hf.ctl hf.rc heq

/-! ## §5 Steps of the connecting and closing task -/

theorem safe_exitSend (h : Safe cfg s) {pc₀ wait : CtlPc} (hctl : s.ctl = pc₀) {ok : Bool}
    {next : LinkSys} (hs : s.exitSend x ok wait next = some s') (hserves : pc₀.serves x = true)
    (hx : wait.serves x = false) (hgo : pc₀.goesOn wait = true) (hheld : wait.held = pc₀.held) :
    Safe cfg s' := by
  subst hctl
  obtain ⟨t, ht, hserv⟩ := h.serving x hserves
  have htouch : s.touch [.slink, x.sp] = s := h.touch_side ht hserv.inLoop (by simp)
  unfold LinkSys.exitSend at hs
  cases ok with
  | true =>
    rw [if_pos rfl, htouch, ht] at hs
    cases hs
    refine ⟨h.faults, ?_, fun hw => ?_, fun y t' ht' hloop => ?_, fun y hy => ?_, h.rc⟩
    · show ∀ o, s.heap o = .live ↔ o ∈ wait.held
      rw [hheld]
      exact h.heap
    · exact h.shared ((CtlPc.goesOn_iff hgo x).2.2 hw)
    · refine (CtlPc.goesOn_iff hgo y).1 ?_
      by_cases hyx : y = x
      · subst hyx
        exact CtlPc.serves_runs hserves
      · exact h.inLoop y t' ((Function.update_of_ne hyx _ _).symm.trans ht') hloop
    · have hyx : y ≠ x := by
        rintro rfl
        rw [hx] at hy
        cases hy
      obtain ⟨t', ht', hserv'⟩ := h.serving y ((CtlPc.goesOn_iff hgo y).2.1 hy)
      exact ⟨t', (Function.update_of_ne hyx _ _).trans ht', hserv'⟩
  | false =>
    -- a task that has not been told to leave is there
    have hlive : (s.poll x).any PollTask.live = true := by
      rw [ht]
      exact hserv.live
    rw [if_neg Bool.false_ne_true, if_pos hlive] at hs
    cases hs

theorem safe_exitWait (h : Safe cfg s) {pc₀ next : CtlPc} (hctl : s.ctl = pc₀)
    (hs : s.exitWait x next = some s') (hsp : x.sp ∈ pc₀.held)
    (hgo : ∀ y, y ≠ x → pc₀.runs y = true → next.runs y = true)
    (hserves : ∀ y, next.serves y = true → pc₀.serves y = true)
    (hshared : next.shared = pc₀.shared) (hheld : next.held = pc₀.held) : Safe cfg s' := by
  subst hctl
  unfold LinkSys.exitWait at hs
  rw [h.touch_held rfl hsp] at hs
  dsimp only at hs
  split at hs
  · cases hs
    exact h
  · rename_i hrun
    cases hs
    refine ⟨h.faults, ?_, fun hw => ?_, fun y t ht hloop => ?_, fun y hy => ?_, h.rc⟩
    · show ∀ o, s.heap o = .live ↔ o ∈ next.held
      rw [hheld]
      exact h.heap
    · exact h.shared (hshared.symm.trans hw)
    · by_cases hyx : y = x
      · subst hyx
        have hpoll : s.poll y = some t := ht
        rw [hpoll] at hrun
        exact absurd (t.running_eq.trans hloop) hrun
      · exact hgo y hyx (h.inLoop y t ht hloop)
    · exact h.serving y (hserves y hy)

/-- A poll task just started. -/
theorem start_serving (cb : PollCb) (arg : Ptr) (mask : BitVec 32) :
    (PollTask.start cb arg mask).Serving := ⟨Or.inl rfl, hasEvent_zero _⟩

theorem safe_startTask (h : Safe cfg s) {pc₀ pc : CtlPc} (hctl : s.ctl = pc₀)
    (hsp : x.sp ∈ pc₀.held) (hruns : pc.runs x = true)
    (hgo : ∀ y, y ≠ x → (pc₀.runs y = true → pc.runs y = true) ∧
      (pc.serves y = true → pc₀.serves y = true))
    (hheld : pc.held = pc₀.held) (hshared : pc.shared = true → ∀ o, o ∈ pc.held) :
    Safe cfg ((s.touch [x.sp]).startTask cfg x pc) := by
  subst hctl
  rw [h.touch_held rfl hsp]
  refine ⟨h.faults, ?_, fun hpc o ho => ?_, fun y t ht hloop => ?_, fun y hy => ?_, h.rc⟩
  · show ∀ o, s.heap o = .live ↔ o ∈ pc.held
    rw [hheld]
    exact h.heap
  · have hlive : s.heap o = .live := (h.heap o).mpr (hheld ▸ hshared hpc o)
    exact absurd (hlive.symm.trans ho) (by decide)
  · by_cases hyx : y = x
    · subst hyx
      exact hruns
    · exact (hgo y hyx).1 (h.inLoop y t ((Function.update_of_ne hyx _ _).symm.trans ht) hloop)
  · by_cases hyx : y = x
    · subst hyx
      exact ⟨_, Function.update_self _ _ _, start_serving _ _ _⟩
    · obtain ⟨t, ht, hserv⟩ := h.serving y ((hgo y hyx).2 hy)
      exact ⟨t, (Function.update_of_ne hyx _ _).trans ht, hserv⟩

theorem safe_ctl (h : Safe cfg s) {ok : Bool} (hs : s.ctlStep cfg ok = some s') :
    Safe cfg s' := by
  unfold LinkSys.ctlStep at hs
  cases hctl : s.ctl <;> simp only [hctl] at hs
  case mallocLink =>
    cases hs
    exact h.malloc hctl ok rfl rfl rfl rfl
  case mallocSlink =>
    rw [h.touch_held hctl (by decide)] at hs
    cases hs
    cases ok with
    | true => exact (h.alloc hctl rfl rfl).polls rfl rfl rfl rfl fun _ => Or.inl rfl
    | false => exact h.goto hctl rfl rfl
  case openOut | openIn | mallocRecv | mallocAck =>
    rw [h.touch_held hctl (by decide)] at hs
    cases hs
    exact h.malloc hctl ok rfl rfl rfl rfl
  case startRecv | startAck =>
    rw [h.touch_held hctl (o := .slink) (by decide)] at hs
    cases hs
    cases ok with
    | true => exact safe_startTask h hctl (by decide) rfl (by decide) rfl (by decide)
    | false => exact h.free hctl rfl (by decide) rfl
  case undoSend | ackSend | recvSend => exact safe_exitSend h hctl hs rfl rfl rfl rfl
  case undoWait | ackWait | recvWait =>
    exact safe_exitWait h hctl hs (by decide) (by decide) (by decide) rfl rfl
  case undoIn | undoOut | closeOut | closeIn =>
    rw [h.touch_held hctl (by decide)] at hs
    cases hs
    exact h.free hctl rfl (by decide) rfl
  case undoFree | undoSlink | undoLink | ackFree | recvFree | freeSlink | freeLink =>
    cases hs
    exact h.free hctl rfl (by decide) rfl
  case failed | opened | closed => cases hs

/-! ## §6 Runs -/

theorem safe_start (inn out : HpscShmemRegion) (rctx : LinkRequestCtx) (tid : RtemsId) :
    Safe cfg (.start inn out rctx tid) where
  faults := rfl
  heap o := by simp [LinkSys.start, CtlPc.held]
  shared h := by cases h
  inLoop _ _ ht := by cases ht
  serving x h := by cases x <;> cases h
  rc := rfl

theorem safe_step {a : LinkAct} (h : Safe cfg s) (hG : SendsNoExit cfg s a)
    (hs : linkStep cfg s a = some s') : Safe cfg s' := by
  cases a with
  | ctl ok => exact safe_ctl h hs
  | close =>
    simp only [linkStep] at hs
    split at hs
    · rename_i hctl
      rw [h.touch_held hctl (by decide)] at hs
      cases hs
      exact h.goto hctl rfl rfl
    · cases hs
  | timeout x => exact safe_receive h pollKept_timeout hs
  | wake x => exact safe_receive h pollKept_wake hs
  | next x => exact safe_next h hs
  | call x =>
    simp only [linkStep] at hs
    split at hs
    · rename_i t ht
      split at hs
      · rename_i hpc
        exact safe_call h ht hpc (hG t ht hpc) hs
      · cases hs
    · cases hs
  | remote inn out =>
    cases hs
    exact h.polls rfl rfl rfl rfl fun _ => Or.inl rfl
  | request rctx =>
    simp only [linkStep] at hs
    split at hs
    · cases hs
      exact h.polls rfl rfl rfl rfl fun _ => Or.inl rfl
    · cases hs
  | handler tid =>
    cases hs
    exact h.polls rfl rfl rfl rfl fun _ => Or.inl rfl

/-- Nothing is used or freed that is not there, and once `link_shmem_close`
has returned, it has returned 0, everything is freed, and the poll tasks
have nothing left to do but `rtems_task_exit`. -/
structure ClosedSafely (s : LinkSys) : Prop where
  uses : s.faults = []
  freed : s.ctl = .closed → ∀ o, s.heap o = .freed
  rc : s.ctl = .closed → s.rc = 0
  stopped : s.ctl = .closed → ∀ x t, s.poll x = some t → t.pc = .exit ∨ t.pc = .exited

/-- Out of its loop, a poll task has nothing left to do but exit. -/
theorem left_loop {pc : PollPc} (h : pc.inLoop = false) : pc = .exit ∨ pc = .exited := by
  cases pc with
  | exit => exact Or.inl rfl
  | exited => exact Or.inr rfl
  | _ => cases h

theorem Safe.closedSafely (h : Safe cfg s) : ClosedSafely s := by
  refine ⟨h.faults, fun hctl o => ?_, fun _ => h.rc, fun hctl x t ht => ?_⟩
  · have hlive : s.heap o ≠ .live := by
      rw [ne_eq, h.heap o, hctl]
      exact List.not_mem_nil
    have habsent := h.shared (by rw [hctl]; rfl) o
    cases hcell : s.heap o with
    | absent => exact absurd hcell habsent
    | live => exact absurd hcell hlive
    | freed => rfl
  · refine left_loop ?_
    by_contra hloop
    have hrun := h.inLoop x t ht (by simpa using hloop)
    rw [hctl] at hrun
    cases hrun

instance {P : Side → Prop} [DecidablePred P] : Decidable (∃ x, P x) :=
  decidable_of_iff (P .recv ∨ P .ack)
    ⟨fun h => h.elim (fun h => ⟨_, h⟩) fun h => ⟨_, h⟩, fun h => by
      obtain ⟨x, hx⟩ := h
      cases x
      exacts [Or.inl hx, Or.inr hx]⟩

instance (cfg : LinkCfg) (s : LinkSys) (x : Side) (t : PollTask) :
    Decidable (tellsExit cfg s x t) :=
  inferInstanceAs (Decidable (_ ∧ _ ∧ _))

instance (cfg : LinkCfg) (s : LinkSys) : ∀ a, Decidable (SendsNoExit cfg s a)
  | .call x =>
    match h : s.poll x with
    | none => isTrue fun t ht => by rw [h] at ht; cases ht
    | some t =>
      decidable_of_iff (t.pc = .callback → ¬ tellsExit cfg s x t) (by simp [SendsNoExit, h])
  | .ctl _ | .close | .timeout _ | .wake _ | .next _ | .remote _ _ | .request _ | .handler _ =>
    isTrue trivial

/-- **A link is closed safely against its own poll tasks**, in every run in
which no callback of the link sends `SHM_EVENT_EXIT` to one of them. -/
theorem close_safe (cfg : LinkCfg) (inn out : HpscShmemRegion) (rctx : LinkRequestCtx)
    (tid : RtemsId) (as : List LinkAct) (s : LinkSys)
    (h : exec (linkStep cfg) (.start inn out rctx tid) as = some s)
    (hG : Along (linkStep cfg) (SendsNoExit cfg) (.start inn out rctx tid) as) :
    ClosedSafely s :=
  (exec_invariant (I := Safe cfg) (fun _ _ _ hi hg hs => safe_step hi hg hs)
    (safe_start inn out rctx tid) hG h).closedSafely

/-- A server's link, its poll tasks being tasks 5 and 6. -/
def exampleCfg : LinkCfg where
  addr := 0x100
  isServer := true
  tid
    | .recv => 5
    | .ack => 6

/-- A message waits in the region, and the command handler is task 9. -/
def exampleStart : LinkSys :=
  .start ⟨Msg.zero, statusBitNew⟩ ⟨Msg.zero, 0#32⟩ ⟨idNone, 0#32, false, none, 0, 0⟩ 9

/-- `link_shmem_connect` with everything it asks for. -/
def connectActs : List LinkAct := List.replicate 8 (.ctl true)

/-- The receive poll task finds the message, calls `link_recv_cmd`, and has
found the command handler's identifier. -/
def receiveActs : List LinkAct :=
  [.timeout .recv, .next .recv, .next .recv] ++ List.replicate 5 (.call .recv)

/-- A poll task that has the exit event leaves. -/
def leaveActs (x : Side) : List LinkAct := [.wake x, .next x, .next x, .next x]

/-- The link is closed while the callback runs. -/
theorem closed_in_callback : ∃ s, ClosedSafely s ∧ s.ctl = .closed := by
  let as : List LinkAct := connectActs ++ receiveActs ++ [.close, .ctl true] ++ leaveActs .ack ++
    [.ctl true, .ctl true, .ctl true, .call .recv, .call .recv] ++ leaveActs .recv ++
    List.replicate 6 (.ctl true)
  have hctl : (exec (linkStep exampleCfg) exampleStart as).map (·.ctl) = some .closed := by decide
  obtain ⟨s, hs, hclosed⟩ := Option.map_eq_some_iff.mp hctl
  exact ⟨s, close_safe exampleCfg _ _ _ _ as s hs (by decide), hclosed⟩

/-- The command handler is stopped before `cmd_enqueue` sends its event. The
receive poll task sends it to itself and exits, `link_shmem_close` finds no
task to tell, and does not free the task's `struct shmem_poll`. -/
theorem exited_by_itself : ¬ ∀ cfg inn out rctx tid as s,
    exec (linkStep cfg) (.start inn out rctx tid) as = some s → ClosedSafely s := by
  intro h
  let as : List LinkAct := connectActs ++ receiveActs ++
    [.handler idNone, .close, .call .recv, .call .recv] ++ leaveActs .recv ++ [.ctl true] ++
    leaveActs .ack ++ [.ctl true, .ctl true, .ctl false] ++ List.replicate 4 (.ctl true)
  have hrun : (exec (linkStep exampleCfg) exampleStart as).map (fun s => (s.ctl, s.heap .spRecv)) =
      some (.closed, .live) := by decide
  obtain ⟨s, hs, hend⟩ := Option.map_eq_some_iff.mp hrun
  obtain ⟨hctl, hcell⟩ := Prod.mk.inj hend
  have hfreed := (h _ _ _ _ _ _ s hs).freed hctl .spRecv
  rw [hcell] at hfreed
  cases hfreed

end HpscRtems.Shmem
