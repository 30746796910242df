/-
HpscRtems.Command.EnqueueTheorems — what the value of `cmd_enqueue_cb` says.

The value stands for two failures: the queue was full, or the handler could
not be told. The second one comes after the command is in the queue. It
happens in the window in which a handler that is being stopped has exited
and its `tid` is still published. And where the test for a full queue is
wrong, the value 0 stands for a queue whose commands are lost.
-/
import HpscRtems.Command.QueueTheorems
import HpscRtems.Command.HandlerSteps

namespace HpscRtems.Command

open Machine Rtems

variable {ι : Type} [DecidableEq ι] {s s' : HandlerState ι} {a : HandlerAct ι}

/-! ## §1 The property and the condition -/

/-- The value `rc` of an enqueue tells what it did: 0 that the command was
placed in the queue, another that the queue was full and is unchanged. -/
structure AllOrNothing (p : Pushed) (rc : Nat) : Prop where
  placed : rc = 0 ↔ p.after.pending = p.before.pending ++ [p.item]
  unchanged : rc ≠ 0 → p.after = p.before
  full : rc ≠ 0 → p.before.pending.length = cmdqLen - 1

/-- Every enqueue that has returned was all or nothing. -/
def EnqueuesHonest (s : HandlerState ι) : Prop :=
  ∀ e p rc, s.enq e = .returned p rc → AllOrNothing p rc

/-- No command is pushed where the test for a full queue is wrong, and no
event is sent to a task that does not exist. -/
structure EnqueueHeard (s : HandlerState ι) (a : HandlerAct ι) : Prop where
  room : ∀ e cmd cb cbArg, a = .push e cmd cb cbArg → ¬ s.cmdq.fullAtEnd
  heard : ∀ e self p id, a = .notify e self → s.enq e = .send p id →
    (s.task (TaskTable.receiver self id)).exists = true

/-! ## §2 What the critical section did -/

/-- A critical section that took the command. -/
def Pushed.Taken (p : Pushed) : Prop :=
  cmdEnqueueCbUnsafe p.before p.item.cmd p.item.handled.cb p.item.handled.cbArg = (p.after, 0)

theorem Pushed.Taken.indices {p : Pushed} (h : p.Taken) :
    p.after.head = next p.before.head ∧ p.after.tail = p.before.tail := by
  have hk : cmdEnqueueCbUnsafe p.before p.item.cmd p.item.handled.cb p.item.handled.cbArg =
      (p.after, 0) := h
  unfold cmdEnqueueCbUnsafe at hk
  split at hk
  · cases (Prod.mk.inj hk).2
  · rw [← (Prod.mk.inj hk).1]
    exact ⟨rfl, rfl⟩

theorem Pushed.Taken.ne {p : Pushed} (h : p.Taken) : p.after ≠ p.before := by
  intro heq
  have hhead := h.indices.1
  rw [heq] at hhead
  have hne : ∀ i : Fin cmdqLen, i ≠ next i := by decide
  exact hne _ hhead

/-- At `fullAtEnd` the pending commands are lost. -/
theorem Pushed.Taken.lost {p : Pushed} (h : p.Taken) (hend : p.before.fullAtEnd) :
    p.after.pending = [] ∧ p.before.pending ≠ [] := by
  have hfull := fullAtEnd_full hend
  have hlen := (length_pending_iff p.before).mpr hfull
  obtain ⟨hhead, htail⟩ := h.indices
  constructor
  · refine (Ring.contents_eq_nil p.after.ring).mpr ?_
    exact hhead.trans (hfull.trans htail.symm)
  · intro hnil
    rw [hnil] at hlen
    cases hlen

theorem Pushed.Taken.pending {p : Pushed} (h : p.Taken) (hend : ¬ p.before.fullAtEnd) :
    p.after.pending = p.before.pending ++ [p.item] := by
  have hroom : next p.before.head ≠ p.before.tail := by
    intro hfull
    have href := cmdEnqueueCbUnsafe_refused p.item.cmd p.item.handled.cb p.item.handled.cbArg
      hfull hend
    have hk := href.symm.trans h
    cases (Prod.mk.inj hk).2
  have hpend := cmdEnqueueCbUnsafe_pending p.item.cmd p.item.handled.cb p.item.handled.cbArg hroom
  rw [show _ = (p.after, 0) from h] at hpend
  exact hpend

/-- No value is right for an enqueue that lost commands. -/
theorem not_allOrNothing_of_lost {p : Pushed} (h : p.Taken) (hend : p.before.fullAtEnd)
    (rc : Nat) : ¬ AllOrNothing p rc := by
  intro hk
  obtain ⟨hnil, hne⟩ := h.lost hend
  by_cases hrc : rc = 0
  · have happ := hk.placed.mp hrc
    rw [hnil] at happ
    simp at happ
  · rw [hk.unchanged hrc] at hnil
    exact hne hnil

/-! ## §3 The condition is enough -/

/-- The critical section of a call in progress. -/
def EnqPc.inCall : EnqPc → Option Pushed
  | .test p | .load p | .send p _ => some p
  | _ => none

/-- What holds of the critical section holds to the end of the call. -/
theorem inCall_step {P : Pushed → Prop} (hi : ∀ e p, (s.enq e).inCall = some p → P p)
    (hpush : ∀ e cmd cb cbArg, a = .push e cmd cb cbArg →
      (cmdEnqueueCbUnsafe s.cmdq cmd cb cbArg).2 = 0 →
      P ⟨s.cmdq, (cmdEnqueueCbUnsafe s.cmdq cmd cb cbArg).1, ⟨cmd, ⟨cb, cbArg⟩⟩⟩)
    (h : handlerStep s a = some s') : ∀ e p, (s'.enq e).inCall = some p → P p := by
  have hgo : ∀ {e : ι} {pc : EnqPc}, (∀ p, pc.inCall = some p → P p) →
      ∀ e' p, (Function.update s.enq e pc e').inCall = some p → P p := by
    intro e pc hpc e' p hp
    by_cases he : e' = e
    · subst he
      rw [Function.update_self] at hp
      exact hpc p hp
    · rw [Function.update_of_ne he] at hp
      exact hi e' p hp
  cases handlerStep_moved h with
  | pushed _ hrc => exact hgo fun p hp => Option.some.inj hp ▸ hpush _ _ _ _ rfl hrc
  | full _ _ => exact hgo fun p hp => by cases hp
  | noTid _ _ => exact hgo fun p hp => by cases hp
  | @tested e _ hq _ => exact hgo fun p hp => hi e p (by rw [hq]; exact hp)
  | @loaded e _ hq => exact hgo fun p hp => hi e p (by rw [hq]; exact hp)
  | notified _ _ => exact hgo fun p hp => by cases hp
  | unheard _ _ => exact hgo fun p hp => by cases hp
  | _ => exact hi

/-- The command of a call in progress has been taken. -/
def TakenInv (s : HandlerState ι) : Prop := ∀ e p, (s.enq e).inCall = some p → p.Taken

theorem takenInv_step (hi : TakenInv s) (h : handlerStep s a = some s') : TakenInv s' :=
  inCall_step hi (fun _ _ _ _ _ hrc => Prod.ext rfl hrc) h

/-- Where the condition holds it has been placed in the queue. -/
structure HonestInv (s : HandlerState ι) : Prop where
  placed : ∀ e p, (s.enq e).inCall = some p → p.Taken ∧ ¬ p.before.fullAtEnd
  honest : EnqueuesHonest s

theorem allOrNothing_of_placed {p : Pushed} (h : p.Taken ∧ ¬ p.before.fullAtEnd) :
    AllOrNothing p 0 where
  placed := ⟨fun _ => h.1.pending h.2, fun _ => rfl⟩
  unchanged hrc := absurd rfl hrc
  full hrc := absurd rfl hrc

/-- The queue refuses a command where it is full. -/
theorem allOrNothing_of_refused {q : Cmdq} {item : CmdqItem}
    (h : cmdEnqueueCbUnsafe q item.cmd item.handled.cb item.handled.cbArg = (q, 1)) :
    AllOrNothing ⟨q, q, item⟩ 1 where
  placed := by simp
  unchanged _ := rfl
  full _ := by
    refine (length_pending_iff q).mpr ?_
    by_contra hroom
    have htaken := cmdEnqueueCbUnsafe_taken item.cmd item.handled.cb item.handled.cbArg
      (Or.inl hroom)
    rw [h] at htaken
    cases htaken

/-- An enqueuer goes on, and what it returns is right. -/
theorem EnqueuesHonest.go {enq : ι → EnqPc} {e : ι} {pc : EnqPc}
    (hi : ∀ e p rc, enq e = .returned p rc → AllOrNothing p rc)
    (hpc : ∀ p rc, pc = .returned p rc → AllOrNothing p rc) :
    ∀ e' p rc, Function.update enq e pc e' = .returned p rc → AllOrNothing p rc := by
  intro e' p rc hp
  by_cases he : e' = e
  · subst he
    rw [Function.update_self] at hp
    exact hpc p rc hp
  · rw [Function.update_of_ne he] at hp
    exact hi e' p rc hp

theorem honestInv_step (hi : HonestInv s) (hg : EnqueueHeard s a)
    (h : handlerStep s a = some s') : HonestInv s' := by
  refine ⟨inCall_step hi.placed ?_ h, ?_⟩
  · intro e cmd cb cbArg ha hrc
    exact ⟨Prod.ext rfl hrc, hg.room e cmd cb cbArg ha⟩
  · have hin : ∀ {e p}, (s.enq e).inCall = some p → AllOrNothing p 0 := fun hp =>
      allOrNothing_of_placed (hi.placed _ _ hp)
    cases handlerStep_moved h with
    | pushed _ _ => exact EnqueuesHonest.go hi.honest fun p rc hp => by cases hp
    | full _ hrc =>
      refine EnqueuesHonest.go hi.honest fun p rc hp => ?_
      cases hp
      exact allOrNothing_of_refused hrc
    | noTid hq _ =>
      refine EnqueuesHonest.go hi.honest fun p rc hp => ?_
      cases hp
      exact hin (by rw [hq]; rfl)
    | tested _ _ => exact EnqueuesHonest.go hi.honest fun p rc hp => by cases hp
    | loaded _ => exact EnqueuesHonest.go hi.honest fun p rc hp => by cases hp
    | notified hq _ =>
      refine EnqueuesHonest.go hi.honest fun p rc hp => ?_
      cases hp
      exact hin (by rw [hq]; rfl)
    | unheard hq he =>
      have hex := hg.heard _ _ _ _ rfl hq
      rw [he] at hex
      cases hex
    | _ => exact hi.honest

/-! ## §4 The condition is needed -/

/-- The last steps of a call that has pushed its command. -/
theorem call_returns {e : ι} {p : Pushed} (h : (s.enq e).inCall = some p) :
    ∃ bs t rc, exec handlerStep s bs = some t ∧ t.enq e = .returned p rc := by
  have hsend : ∀ (u : HandlerState ι) (id : RtemsId), u.enq e = .send p id →
      ∃ bs t rc, exec handlerStep u bs = some t ∧ t.enq e = .returned p rc := by
    intro u id hu
    have hstep : handlerStep u (.notify e ⟨1, by decide⟩) =
        some (({ u with tasks := (u.tasks.send ⟨1, by decide⟩ id cmdEventNew).1 }).enqGoto e
          (.returned p (if (u.tasks.send ⟨1, by decide⟩ id cmdEventNew).2 ≠ StatusCode.successful
            then 1 else 0))) := by
      simp only [handlerStep, HandlerState.notifyStep, hu]
    exact ⟨[_], _, _, by rw [exec_cons _ hstep]; rfl, Function.update_self ..⟩
  have hload : ∀ u : HandlerState ι, u.enq e = .load p →
      ∃ bs t rc, exec handlerStep u bs = some t ∧ t.enq e = .returned p rc := by
    intro u hu
    have hstep : handlerStep u (.enq e) = some (u.enqGoto e (.send p u.ctx.tid)) := by
      simp [handlerStep, HandlerState.enqStep, hu]
    obtain ⟨bs, t, rc, hx, ht⟩ :=
      hsend (u.enqGoto e (.send p u.ctx.tid)) u.ctx.tid (Function.update_self ..)
    exact ⟨.enq e :: bs, t, rc, by rw [exec_cons _ hstep]; exact hx, ht⟩
  cases hq : s.enq e with
  | test q =>
    rw [hq] at h
    cases h
    by_cases htid : s.ctx.tid = idNone
    · have hstep : handlerStep s (.enq e) = some (s.enqGoto e (.returned p 0)) := by
        simp [handlerStep, HandlerState.enqStep, hq, htid]
      exact ⟨[_], _, _, by rw [exec_cons _ hstep]; rfl, Function.update_self ..⟩
    · have hstep : handlerStep s (.enq e) = some (s.enqGoto e (.load p)) := by
        simp [handlerStep, HandlerState.enqStep, hq, htid]
      obtain ⟨bs, t, rc, hx, ht⟩ := hload (s.enqGoto e (.load p)) (Function.update_self ..)
      exact ⟨.enq e :: bs, t, rc, by rw [exec_cons _ hstep]; exact hx, ht⟩
  | load q =>
    rw [hq] at h
    cases h
    exact hload s hq
  | send q id =>
    rw [hq] at h
    cases h
    exact hsend s id hq
  | _ => rw [hq] at h; cases h

/-- A push at `fullAtEnd` comes to a return whose value is wrong, whichever
it is, and so does an event sent to no one. -/
theorem not_honest_of_not_heard (hi : TakenInv s) (h : handlerStep s a = some s')
    (hg : ¬ EnqueueHeard s a) : ∃ bs t, exec handlerStep s' bs = some t ∧ ¬ EnqueuesHonest t := by
  by_cases hroom : ∀ e cmd cb cbArg, a = .push e cmd cb cbArg → ¬ s.cmdq.fullAtEnd
  · have hsend : ∃ e self p id, a = .notify e self ∧ s.enq e = .send p id ∧
        (s.task (TaskTable.receiver self id)).exists = false := by
      by_contra hn
      refine hg ⟨hroom, fun e self p id ha hp => ?_⟩
      by_contra hx
      exact hn ⟨e, self, p, id, ha, hp, by simpa using hx⟩
    obtain ⟨e, self, p, id, rfl, hp, hx⟩ := hsend
    have hs' : s' = s.enqGoto e (.returned p 1) := by
      simp only [handlerStep, HandlerState.notifyStep, hp,
        s.tasks.send_of_absent self id cmdEventNew hx, Option.some.injEq] at h
      exact h.symm
    refine ⟨[], s', rfl, fun hk => ?_⟩
    have haon := hk e p 1 (by rw [hs']; exact Function.update_self ..)
    exact (hi e p (by rw [hp]; rfl)).ne (haon.unchanged (by decide))
  · push Not at hroom
    obtain ⟨e, cmd, cb, cbArg, rfl, hend⟩ := hroom
    have htaken := cmdEnqueueCbUnsafe_taken cmd cb cbArg (Or.inr hend)
    cases handlerStep_moved h with
    | pushed _ hrc =>
      have hin : ∀ p, EnqPc.inCall (.test p) = some p := fun _ => rfl
      obtain ⟨bs, t, rc, hx, ht⟩ := call_returns (s := HandlerState.enqGoto _ e (.test _))
        ((congrArg EnqPc.inCall (Function.update_self ..)).trans (hin _))
      exact ⟨bs, t, hx, fun hk =>
        not_allOrNothing_of_lost (Prod.ext rfl hrc) hend rc (hk e _ rc ht)⟩
    | full _ hrc =>
      rw [hrc] at htaken
      cases htaken

/-! ## §5 Runs -/

theorem takenInv_init (κ : Type) (handled : CmdHandledCtx) :
    TakenInv (HandlerState.init κ handled) :=
  fun _ _ hp => by cases hp

theorem honestInv_init (κ : Type) (handled : CmdHandledCtx) :
    HonestInv (HandlerState.init κ handled) where
  placed _ _ hp := by cases hp
  honest _ _ _ hp := by cases hp

/-- **An enqueue tells what it did** in every run that pushes no command at
`fullAtEnd` and sends no event to a task that does not exist. From a step
that does, the run goes on to a wrong value. -/
theorem enqueue_allOrNothing (handled : CmdHandledCtx) (as : List (HandlerAct ι)) :
    (Along handlerStep EnqueueHeard (HandlerState.init ι handled) as →
      ∀ s, exec handlerStep (HandlerState.init ι handled) as = some s → EnqueuesHonest s) ∧
    ∀ s a s', exec handlerStep (HandlerState.init ι handled) as = some s →
      handlerStep s a = some s' → ¬ EnqueueHeard s a →
      ∃ bs t, exec handlerStep s' bs = some t ∧ ¬ EnqueuesHonest t := by
  constructor
  · intro hG s h
    have hinv : HonestInv s :=
      exec_invariant (fun _ _ _ hi hg h => honestInv_step hi hg h) (honestInv_init ι handled) hG h
    exact hinv.honest
  · intro s a s' hs h hg
    have hinv : TakenInv s :=
      exec_invariant' (fun _ _ _ hi h => takenInv_step hi h) (takenInv_init ι handled) hs
    exact not_honest_of_not_heard hinv h hg

/-- A handler is stopped and has exited, `tid` is still published, and a
command arrives. -/
def lateArrival : List (HandlerAct Unit) :=
  [.outside (.create 1), .call (.start 1 64 0),
   .ctl, .ctl, .ctl, .ctl, .ctl, .taskStart .successful, .task 1,
   .call .destroy, .ctl, .exitSend 2, .wake 1,
   .task 1, .task 1, .task 1,
   .push () ⟨Msg.zero, some 8⟩ none none, .enq (), .enq (), .notify () 2]

/-- The value of `EnqPc.returned`, and what the queue grew by. -/
def EnqPc.outcome : EnqPc → Option (Nat × Nat × Nat)
  | .returned p rc => some (rc, cmdqSizeUnsafe p.before, cmdqSizeUnsafe p.after)
  | _ => none

/-- The enqueue returns 1 and the command is in the queue. -/
theorem lateArrival_not_honest :
    ¬ ∀ (handled : CmdHandledCtx) (as : List (HandlerAct Unit)) (s : HandlerState Unit),
      exec handlerStep (HandlerState.init Unit handled) as = some s → EnqueuesHonest s := by
  intro hall
  have hrun : (exec handlerStep (HandlerState.init Unit ⟨none, none⟩) lateArrival).map
      (fun s => (s.enq ()).outcome) = some (some (1, 0, 1)) := by
    decide
  obtain ⟨s, hs, ho⟩ := Option.map_eq_some_iff.mp hrun
  have hhon := hall _ _ s hs
  cases he : s.enq () with
  | returned p rc =>
    rw [he] at ho
    simp only [EnqPc.outcome, Option.some.injEq, Prod.mk.injEq] at ho
    obtain ⟨rfl, hbefore, hafter⟩ := ho
    have hsame := (hhon () p 1 he).unchanged (by decide)
    rw [hsame, hbefore] at hafter
    cases hafter
  | _ => rw [he] at ho; cases ho

end HpscRtems.Command
