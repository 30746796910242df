/-
HpscRtems.Command.FlushTheorems — what a `cmd_flush` has done when it
returns.

A `Completion` is a dequeued command with what its handler and its reply
came to, and `Completion.calls` the calls owed to it: the handler, the reply
if there is one, then the two callbacks with one and the same status. The
calls of a flush are those of its completions, one after the other
(`CallsSoFar`, statement by statement), whatever is enqueued or dropped
meanwhile. The numbers of the completed commands increase, so that no
command is completed twice, and none that was dropped is among them
(`Numbered`).
-/
import HpscRtems.Command.Flush
import Mathlib.Data.List.Pairwise

namespace HpscRtems.Command

open Rtems Machine

variable {env : FlushEnv} {s s' : FlushState} {a : FlushAct}

/-! ## §1 Completions -/

/-- A command, what its handler stored and returned, and the value of
`link_request_send` for the reply. -/
structure Completion where
  command : Taken
  replySz : Int
  stores : Stores
  rc : Nat

namespace Completion

/-- The status the callbacks are to be told. -/
def status (c : Completion) : CmdStatus :=
  if c.replySz < 0 then .handlerFailed
  else if 0 < c.replySz ∧ c.rc = 0 then .replyFailed
  else .success

/-- The call of one callback, if there is one. -/
def report (c : Completion) (h : CmdHandledCtx) : List FlushCall :=
  match h.cb with
  | some cb => [.handled cb h.cbArg c.status]
  | none => []

/-- The handler, and the reply: the bytes the handler stored, on zeros. -/
def service (env : FlushEnv) (c : Completion) : List FlushCall :=
  .handler env.cb c.command.item.cmd c.stores c.replySz ::
    if 0 < c.replySz then
      [.requestSend c.command.item.cmd.link (storeReply Msg.zero c.stores) env.timeoutTicks c.rc]
    else []

/-- The calls a command is owed. -/
def calls (env : FlushEnv) (c : Completion) : List FlushCall :=
  c.service env ++ c.report c.command.item.handled ++ c.report env.handled

end Completion

/-! ## §2 Steps -/

/-- What a step does, by statement. -/
inductive FlushMoved (env : FlushEnv) (s : FlushState) : FlushAct → FlushState → Prop where
  | dequeued {q cmd cb cbArg} (hpc : s.pc = .dequeue)
      (hq : cmdDequeue s.cmdq = (q, some (cmd, cb, cbArg))) :
      FlushMoved env s .task { s with
        cmdq := q
        pc := .define ⟨s.stamp q.tail, ⟨cmd, ⟨cb, cbArg⟩⟩⟩
        taken := s.taken ++ [⟨s.stamp q.tail, ⟨cmd, ⟨cb, cbArg⟩⟩⟩] }
  | drained (hpc : s.pc = .dequeue) (hq : cmdDequeue s.cmdq = (s.cmdq, none)) :
      FlushMoved env s .task { s with pc := .returned }
  | defined {t} (hpc : s.pc = .define t) :
      FlushMoved env s .task { s with reply := Msg.zero, status := .success, pc := .serve t }
  | reported {t} (hpc : s.pc = .out t) :
      FlushMoved env s .task { s.callHandled t.item.handled with pc := .outAll t }
  | reportedAll {t} (hpc : s.pc = .outAll t) :
      FlushMoved env s .task { s.callHandled env.handled with pc := .count }
  | counted (hpc : s.pc = .count) :
      FlushMoved env s .task { s with i := s.i + 1, pc := .dequeue }
  | failed {t replySz w} (hpc : s.pc = .serve t) (hneg : replySz < 0) :
      FlushMoved env s (.served replySz w) { s.call (.handler env.cb t.item.cmd w replySz) with
        reply := storeReply s.reply w, status := .handlerFailed, pc := .out t }
  | silent {t w} (hpc : s.pc = .serve t) :
      FlushMoved env s (.served 0 w) { s.call (.handler env.cb t.item.cmd w 0) with
        reply := storeReply s.reply w, pc := .out t }
  | answered {t replySz w} (hpc : s.pc = .serve t) (hpos : 0 < replySz) :
      FlushMoved env s (.served replySz w) { s.call (.handler env.cb t.item.cmd w replySz) with
        reply := storeReply s.reply w, pc := .sendReply t }
  | unsent {t} (hpc : s.pc = .sendReply t) (hlink : t.item.cmd.link.isSome = true) :
      FlushMoved env s (.sent 0)
        { s.call (.requestSend t.item.cmd.link s.reply env.timeoutTicks 0) with
          status := .replyFailed, pc := .out t }
  | sent {t rc} (hpc : s.pc = .sendReply t) (hlink : t.item.cmd.link.isSome = true)
      (hrc : rc ≠ 0) :
      FlushMoved env s (.sent rc)
        { s.call (.requestSend t.item.cmd.link s.reply env.timeoutTicks rc) with pc := .out t }
  | push (cmd cb cbArg) : FlushMoved env s (.push cmd cb cbArg) (s.push cmd cb cbArg)
  | dropAll : FlushMoved env s .dropAll s.dropAll

theorem flushTask_moved (hs : s.taskStep env = some s') : FlushMoved env s .task s' := by
  unfold FlushState.taskStep at hs
  cases hpc : s.pc with
  | dequeue =>
    simp only [hpc] at hs
    split at hs
    · rename_i hq
      cases hs
      exact .dequeued hpc hq
    · rename_i hq
      cases hs
      obtain rfl := (cmdDequeue_none hq).1
      exact .drained hpc hq
  | define t =>
    simp only [hpc, Option.some.injEq] at hs
    subst hs
    exact .defined hpc
  | out t =>
    simp only [hpc, Option.some.injEq] at hs
    subst hs
    exact .reported hpc
  | outAll t =>
    simp only [hpc, Option.some.injEq] at hs
    subst hs
    exact .reportedAll hpc
  | count =>
    simp only [hpc, Option.some.injEq] at hs
    subst hs
    exact .counted hpc
  | _ => simp [hpc] at hs

theorem flushServed_moved {replySz : Int} {w : Stores} (hs : s.servedStep env replySz w = some s') :
    FlushMoved env s (.served replySz w) s' := by
  unfold FlushState.servedStep at hs
  split at hs
  · rename_i t hpc
    cases hs
    by_cases hneg : replySz < 0
    · rw [if_pos hneg]
      exact .failed (t := t) hpc hneg
    · by_cases hzero : replySz = 0
      · subst hzero
        rw [if_neg hneg, if_pos rfl]
        exact .silent (t := t) hpc
      · rw [if_neg hneg, if_neg hzero]
        exact .answered (t := t) hpc (by omega)
  · cases hs

theorem flushSent_moved {rc : Nat} (hs : s.sentStep env rc = some s') :
    FlushMoved env s (.sent rc) s' := by
  unfold FlushState.sentStep at hs
  split at hs
  · rename_i t hpc
    split at hs
    · rename_i hlink
      cases hs
      by_cases hrc : rc = 0
      · subst hrc
        exact .unsent (t := t) hpc hlink
      · rw [if_neg hrc]
        exact .sent (t := t) hpc hlink hrc
    · cases hs
  · cases hs

theorem flushStep_moved (hs : flushStep env s a = some s') : FlushMoved env s a s' := by
  cases a with
  | task => exact flushTask_moved hs
  | served replySz w => exact flushServed_moved hs
  | sent rc => exact flushSent_moved hs
  | push cmd cb cbArg =>
    cases hs
    exact .push cmd cb cbArg
  | dropAll =>
    cases hs
    exact .dropAll

/-- A callback adds at most a call. -/
theorem callHandled_frame (s : FlushState) (h : CmdHandledCtx) :
    ∃ cs, s.callHandled h = { s with calls := cs } := by
  unfold FlushState.callHandled
  cases h.cb <;> exact ⟨_, rfl⟩

/-! ## §3 Calls -/

/-- The commands `done` are completed, and of the next one as much as the
program point says. -/
def CallsSoFar (env : FlushEnv) (s : FlushState) (done : List Completion) : Prop :=
  let before := done.flatMap (·.calls env)
  match s.pc with
  | .dequeue | .returned =>
    s.calls = before ∧ s.taken = done.map (·.command) ∧ s.i = done.length
  | .define t => s.calls = before ∧ s.taken = done.map (·.command) ++ [t] ∧ s.i = done.length
  | .serve t =>
    s.calls = before ∧ s.taken = done.map (·.command) ++ [t] ∧ s.i = done.length ∧
      s.reply = Msg.zero ∧ s.status = .success
  | .sendReply t =>
    ∃ replySz w, 0 < replySz ∧
      s.calls = before ++ [.handler env.cb t.item.cmd w replySz] ∧
      s.taken = done.map (·.command) ++ [t] ∧ s.i = done.length ∧
      s.reply = storeReply Msg.zero w ∧ s.status = .success
  | .out t =>
    ∃ c : Completion, c.command = t ∧ s.status = c.status ∧ s.calls = before ++ c.service env ∧
      s.taken = done.map (·.command) ++ [t] ∧ s.i = done.length
  | .outAll t =>
    ∃ c : Completion, c.command = t ∧ s.status = c.status ∧
      s.calls = before ++ (c.service env ++ c.report t.item.handled) ∧
      s.taken = done.map (·.command) ++ [t] ∧ s.i = done.length
  | .count => s.calls = before ∧ s.taken = done.map (·.command) ∧ s.i + 1 = done.length

theorem callHandled_calls (s : FlushState) (h : CmdHandledCtx) (c : Completion)
    (hs : s.status = c.status) : (s.callHandled h).calls = s.calls ++ c.report h := by
  unfold FlushState.callHandled Completion.report
  cases h.cb with
  | none => simp
  | some cb => simp [FlushState.call, hs]

/-- An enqueue or a drop changes neither the locals nor the calls. -/
theorem callsSoFar_congr {done : List Completion} (h : CallsSoFar env s done)
    (hpc : s'.pc = s.pc) (hcalls : s'.calls = s.calls) (htaken : s'.taken = s.taken)
    (hi : s'.i = s.i) (hreply : s'.reply = s.reply) (hstatus : s'.status = s.status) :
    CallsSoFar env s' done := by
  unfold CallsSoFar at h ⊢
  rw [hpc, hcalls, htaken, hi, hreply, hstatus]
  exact h

/-- **What one step makes of the calls.** -/
theorem callsSoFar_step (h : ∃ done, CallsSoFar env s done) (hs : flushStep env s a = some s') :
    ∃ done, CallsSoFar env s' done := by
  obtain ⟨done, h⟩ := h
  cases flushStep_moved hs with
  | dequeued hpc hq =>
    simp only [CallsSoFar, hpc] at h
    obtain ⟨hcalls, htaken, hi⟩ := h
    exact ⟨done, hcalls, by simp [htaken], hi⟩
  | drained hpc hq =>
    simp only [CallsSoFar, hpc] at h
    exact ⟨done, h⟩
  | defined hpc =>
    simp only [CallsSoFar, hpc] at h
    exact ⟨done, h.1, h.2.1, h.2.2, rfl, rfl⟩
  | reported hpc =>
    simp only [CallsSoFar, hpc] at h
    obtain ⟨c, rfl, hstatus, hcalls, htaken, hi⟩ := h
    have hreport := callHandled_calls s c.command.item.handled c hstatus
    obtain ⟨cs, heq⟩ := callHandled_frame s c.command.item.handled
    rw [heq] at hreport ⊢
    refine ⟨done, c, rfl, hstatus, ?_, htaken, hi⟩
    rw [← List.append_assoc, ← hcalls]
    exact hreport
  | reportedAll hpc =>
    simp only [CallsSoFar, hpc] at h
    obtain ⟨c, rfl, hstatus, hcalls, htaken, hi⟩ := h
    have hreport := callHandled_calls s env.handled c hstatus
    obtain ⟨cs, heq⟩ := callHandled_frame s env.handled
    rw [heq] at hreport ⊢
    refine ⟨done ++ [c], ?_, by simpa using htaken, by simpa using hi⟩
    rw [List.flatMap_append, List.flatMap_singleton, Completion.calls, ← List.append_assoc,
      ← hcalls]
    exact hreport
  | counted hpc =>
    simp only [CallsSoFar, hpc] at h
    exact ⟨done, h⟩
  | @failed t replySz w hpc hneg =>
    simp only [CallsSoFar, hpc] at h
    obtain ⟨hcalls, htaken, hi, hreply, hstatus⟩ := h
    refine ⟨done, ⟨t, replySz, w, 0⟩, rfl, ?_, ?_, htaken, hi⟩
    · simp [Completion.status, hneg]
    · simp [Completion.service, FlushState.call, hcalls, not_lt_of_gt hneg]
  | @silent t w hpc =>
    simp only [CallsSoFar, hpc] at h
    obtain ⟨hcalls, htaken, hi, hreply, hstatus⟩ := h
    refine ⟨done, ⟨t, 0, w, 0⟩, rfl, ?_, ?_, htaken, hi⟩
    · simpa [Completion.status, FlushState.call] using hstatus
    · simp [Completion.service, FlushState.call, hcalls]
  | @answered t replySz w hpc hpos =>
    simp only [CallsSoFar, hpc] at h
    obtain ⟨hcalls, htaken, hi, hreply, hstatus⟩ := h
    refine ⟨done, replySz, w, hpos, ?_, htaken, hi, ?_, hstatus⟩
    · simp [FlushState.call, hcalls]
    · simp [hreply]
  | @unsent t hpc _ =>
    simp only [CallsSoFar, hpc] at h
    obtain ⟨replySz, w, hpos, hcalls, htaken, hi, hreply, hstatus⟩ := h
    refine ⟨done, ⟨t, replySz, w, 0⟩, rfl, ?_, ?_, htaken, hi⟩
    · simp [Completion.status, not_lt_of_gt hpos, hpos]
    · simp [Completion.service, FlushState.call, hcalls, hpos, hreply]
  | @sent t rc hpc _ hrc =>
    simp only [CallsSoFar, hpc] at h
    obtain ⟨replySz, w, hpos, hcalls, htaken, hi, hreply, hstatus⟩ := h
    refine ⟨done, ⟨t, replySz, w, rc⟩, rfl, ?_, ?_, htaken, hi⟩
    · simpa [Completion.status, not_lt_of_gt hpos, hrc, FlushState.call] using hstatus
    · simp [Completion.service, FlushState.call, hcalls, hpos, hreply]
  | push cmd cb cbArg =>
    refine ⟨done, ?_⟩
    unfold FlushState.push
    dsimp only
    split <;> exact callsSoFar_congr h rfl rfl rfl rfl rfl rfl
  | dropAll => exact ⟨done, callsSoFar_congr h rfl rfl rfl rfl rfl rfl⟩

/-! ## §4 Numbers -/

/-- Commands that are taken or waiting, in the order of their numbers: each
has the number of its enqueue, and none of them was dropped. -/
structure Numbered (acc : List CmdqItem) (live dropped : List Taken) : Prop where
  increasing : live.Pairwise (·.no < ·.no)
  entry : ∀ t ∈ live, acc[t.no]? = some t.item
  dropped : ∀ d ∈ dropped, d.no < acc.length ∧ ∀ t ∈ live, t.no ≠ d.no

namespace Numbered

variable {acc : List CmdqItem} {live live' dropped : List Taken}

theorem below (h : Numbered acc live dropped) {t : Taken} (ht : t ∈ live) :
    t.no < acc.length :=
  (List.getElem?_eq_some_iff.mp (h.entry t ht)).1

/-- Commands may get lost. -/
theorem sublist (h : Numbered acc live dropped) (hsub : List.Sublist live' live) :
    Numbered acc live' dropped where
  increasing := h.increasing.sublist hsub
  entry t ht := h.entry t (hsub.subset ht)
  dropped d hd := ⟨(h.dropped d hd).1, fun t ht => (h.dropped d hd).2 t (hsub.subset ht)⟩

/-- A command that is accepted gets the next number. -/
theorem accept (h : Numbered acc live dropped) (item : CmdqItem) :
    Numbered (acc ++ [item]) (live ++ [⟨acc.length, item⟩]) dropped where
  increasing := by
    rw [List.pairwise_append]
    refine ⟨h.increasing, List.pairwise_singleton .., fun t ht u hu => ?_⟩
    rw [List.mem_singleton.mp hu]
    exact h.below ht
  entry t ht := by
    rcases List.mem_append.mp ht with ht | ht
    · rw [List.getElem?_append_left (h.below ht)]
      exact h.entry t ht
    · rw [List.mem_singleton.mp ht]
      simp
  dropped d hd := by
    have hlt := (h.dropped d hd).1
    refine ⟨by simp only [List.length_append]; omega, fun t ht => ?_⟩
    rcases List.mem_append.mp ht with ht | ht
    · exact (h.dropped d hd).2 t ht
    · rw [List.mem_singleton.mp ht]
      exact (Nat.ne_of_lt hlt).symm

/-- The last commands are dropped. -/
theorem drop {waiting : List Taken} (h : Numbered acc (live ++ waiting) dropped) :
    Numbered acc live (dropped ++ waiting) where
  increasing := (List.pairwise_append.mp h.increasing).1
  entry t ht := h.entry t (List.mem_append_left _ ht)
  dropped d hd := by
    rcases List.mem_append.mp hd with hd | hd
    · exact ⟨(h.dropped d hd).1, fun t ht => (h.dropped d hd).2 t (List.mem_append_left _ ht)⟩
    · exact ⟨h.below (List.mem_append_right _ hd), fun t ht =>
        Nat.ne_of_lt ((List.pairwise_append.mp h.increasing).2.2 t ht d hd)⟩

end Numbered

/-- The numbers of a flush. -/
def FlushState.Numbered (s : FlushState) : Prop :=
  Command.Numbered s.accepted (s.taken ++ s.waiting) s.dropped

theorem window_getElem {α : Type*} {n : Nat} (slots : Fin n → α) (i : Fin n) (k m : Nat)
    (hm : m < (window slots i k).length) :
    (window slots i k)[m] = slots (advance i (m + 1)) := by
  induction k generalizing i m with
  | zero => simp at hm
  | succ k ih =>
    cases m with
    | zero => rfl
    | succ m =>
      simp only [window, List.getElem_cons_succ]
      exact ih (next i) m _

/-- At the start the pending commands are numbered from 0 on. -/
theorem numbered_start (q : Cmdq) (reply : Msg) (status : CmdStatus) :
    (FlushState.start q reply status).Numbered := by
  have hlen : ((FlushState.start q reply status).waiting).length = q.pending.length := by
    simp [FlushState.waiting, Cmdq.pending, Ring.size, FlushState.ring, FlushState.start, Cmdq.ring]
  have hget : ∀ m (hm : m < ((FlushState.start q reply status).waiting).length),
      ((FlushState.start q reply status).waiting)[m] = ⟨m, q.pending.get ⟨m, hlen ▸ hm⟩⟩ := by
    intro m hm
    have hm4 : m + 1 ≤ cmdqLen := by
      have hsize := (FlushState.start q reply status).ring.size_lt
      rw [FlushState.waiting, Ring.length_contents] at hm
      omega
    simp only [FlushState.waiting, Ring.contents, Cmdq.pending, List.get_eq_getElem, window_getElem]
    have hno : ((advance q.tail (m + 1)).val + 3 - q.tail.val) % cmdqLen = m := by
      have htail := q.tail.isLt
      rw [advance_val _ _ hm4]
      simp only [show cmdqLen = 4 from rfl] at hm4 htail ⊢
      split <;> omega
    exact congrArg (fun k => (⟨k, q.q (advance q.tail (m + 1))⟩ : Taken)) hno
  have hall : (FlushState.start q reply status).taken ++ (FlushState.start q reply status).waiting
      = (FlushState.start q reply status).waiting := rfl
  refine ⟨?_, fun t ht => ?_, fun d hd => ?_⟩
  · rw [hall, List.pairwise_iff_getElem]
    intro i j hi hj hij
    rw [hget i hi, hget j hj]
    exact hij
  · rw [hall] at ht
    obtain ⟨m, hm, rfl⟩ := List.getElem_of_mem ht
    rw [hget m hm]
    exact List.getElem?_eq_getElem _
  · cases hd

/-- An enqueue: refused, taken behind the pending commands, or taken in the
state in which the queue then reads as empty. -/
theorem waiting_push (s : FlushState) (cmd : Cmd) (cb cbArg : Ptr) :
    s.push cmd cb cbArg = s ∨
      (s.push cmd cb cbArg).accepted = s.accepted ++ [⟨cmd, ⟨cb, cbArg⟩⟩] ∧
        ((s.push cmd cb cbArg).waiting = s.waiting ++ [⟨s.accepted.length, ⟨cmd, ⟨cb, cbArg⟩⟩⟩] ∨
          (s.push cmd cb cbArg).waiting = []) := by
  by_cases hfull : next s.cmdq.head = s.cmdq.tail
  · by_cases hend : s.cmdq.fullAtEnd
    · right
      have hrc := cmdEnqueueCbUnsafe_taken cmd cb cbArg (Or.inr hend)
      refine ⟨by simp [FlushState.push, hrc], Or.inr ?_⟩
      rw [FlushState.waiting, Ring.contents_eq_nil]
      simp only [FlushState.push, hrc, if_true, FlushState.ring]
      unfold cmdEnqueueCbUnsafe at hrc ⊢
      split at hrc
      · cases hrc
      · rename_i htest
        simpa only [if_neg htest] using hfull
    · left
      simp [FlushState.push, cmdEnqueueCbUnsafe_refused cmd cb cbArg hfull hend]
  · right
    have htest : ¬ (s.cmdq.head.val + 1 % cmdqLen = s.cmdq.tail.val) := fun ht =>
      hfull ((full_test_iff s.cmdq).mp ht).1
    have hring : (s.push cmd cb cbArg).ring
        = s.ring.push ⟨s.accepted.length, ⟨cmd, ⟨cb, cbArg⟩⟩⟩ := by
      simp only [FlushState.push, cmdEnqueueCbUnsafe, if_neg htest, if_true, FlushState.ring,
        Ring.push]
      congr 1
      funext i
      by_cases hi : i = next s.cmdq.head
      · simp [hi]
      · simp [hi]
    have hrc := cmdEnqueueCbUnsafe_taken cmd cb cbArg (Or.inl hfull)
    refine ⟨by simp [FlushState.push, hrc], Or.inl ?_⟩
    rw [FlushState.waiting, hring]
    exact Ring.contents_push s.ring _ hfull

/-- A dequeue takes the oldest pending command. -/
theorem waiting_dequeue {q : Cmdq} {cmd : Cmd} {cb cbArg : Ptr} (s : FlushState)
    (h : cmdDequeue s.cmdq = (q, some (cmd, cb, cbArg))) :
    s.waiting = ⟨s.stamp q.tail, ⟨cmd, ⟨cb, cbArg⟩⟩⟩ :: { s with cmdq := q }.waiting := by
  unfold cmdDequeue cmdDequeueUnsafe at h
  split at h
  · cases h
  · rename_i hne
    cases h
    exact Ring.contents_pop s.ring hne

theorem push_frame (s : FlushState) (cmd : Cmd) (cb cbArg : Ptr) :
    (s.push cmd cb cbArg).taken = s.taken ∧ (s.push cmd cb cbArg).dropped = s.dropped ∧
      (s.push cmd cb cbArg).pc = s.pc := by
  simp only [FlushState.push]
  split <;> exact ⟨rfl, rfl, rfl⟩

theorem numbered_push (h : s.Numbered) (cmd : Cmd) (cb cbArg : Ptr) :
    (s.push cmd cb cbArg).Numbered := by
  unfold FlushState.Numbered at h ⊢
  obtain ⟨htaken, hdropped, -⟩ := push_frame s cmd cb cbArg
  rcases waiting_push s cmd cb cbArg with hsame | ⟨hacc, hw⟩
  · rw [hsame]
    exact h
  · have hpush := h.accept ⟨cmd, ⟨cb, cbArg⟩⟩
    rw [htaken, hdropped, hacc]
    rcases hw with hw | hw
    · rw [hw, ← List.append_assoc]
      exact hpush
    · -- the pending commands are lost
      rw [hw, List.append_nil]
      refine hpush.sublist ?_
      rw [List.append_assoc]
      exact List.sublist_append_left ..

/-- **What one step makes of the numbers.** -/
theorem numbered_step (h : s.Numbered) (hs : flushStep env s a = some s') : s'.Numbered := by
  cases flushStep_moved hs with
  | dequeued hpc hq =>
    -- the oldest pending command is now the last one taken
    have hw := waiting_dequeue s hq
    unfold FlushState.Numbered at h ⊢
    rw [hw] at h
    simp only [List.append_assoc]
    exact h
  | @reported t hpc =>
    obtain ⟨cs, heq⟩ := callHandled_frame s t.item.handled
    rw [heq]
    exact h
  | reportedAll hpc =>
    obtain ⟨cs, heq⟩ := callHandled_frame s env.handled
    rw [heq]
    exact h
  | push cmd cb cbArg => exact numbered_push h cmd cb cbArg
  | dropAll =>
    have hw : s.dropAll.waiting = [] := Ring.contents_clear s.ring
    unfold FlushState.Numbered
    rw [hw, List.append_nil]
    exact Numbered.drop h
  | _ => exact h

/-! ## §5 Termination -/

/-- The statements left for the command at hand. -/
def FlushPc.rank : FlushPc → Nat
  | .define _ => 7
  | .serve _ => 6
  | .sendReply _ => 5
  | .out _ => 4
  | .outAll _ => 3
  | .count => 2
  | .dequeue => 1
  | .returned => 0

/-- The statements left to execute, if nothing is enqueued any more. -/
def FlushState.work (s : FlushState) : Nat := 7 * s.waiting.length + s.pc.rank

/-- Is the step an enqueue? -/
def FlushAct.isPush : FlushAct → Bool
  | .push _ _ _ => true
  | _ => false

theorem work_push (s : FlushState) (cmd : Cmd) (cb cbArg : Ptr) :
    (s.push cmd cb cbArg).work ≤ s.work + 7 := by
  simp only [FlushState.work, (push_frame s cmd cb cbArg).2.2]
  rcases waiting_push s cmd cb cbArg with hsame | ⟨-, hw | hw⟩
  · rw [hsame]
    omega
  · rw [hw, List.length_append, List.length_singleton]
    omega
  · rw [hw, List.length_nil]
    omega

theorem work_dropAll (s : FlushState) : s.dropAll.work ≤ s.work := by
  have hw : s.dropAll.waiting = [] := Ring.contents_clear s.ring
  rw [FlushState.work, FlushState.work, hw]
  exact Nat.add_le_add_right (Nat.zero_le _) _

/-- Each statement leaves one less to execute, and each enqueue adds those
for one command at most. -/
theorem work_step (hs : flushStep env s a = some s') :
    s'.work + (if a.own then 1 else 0) ≤ s.work + if a.isPush then 7 else 0 := by
  -- a statement on the command at hand leaves the queue alone
  have hdown : ∀ t : FlushState, t.waiting = s.waiting → t.pc.rank + 1 ≤ s.pc.rank →
      t.work + 1 ≤ s.work := by
    intro t hw hrank
    unfold FlushState.work
    rw [hw]
    omega
  cases flushStep_moved hs with
  | @dequeued q _ _ _ hpc hq =>
    have hlen : s.waiting.length = { s with cmdq := q }.waiting.length + 1 := by
      rw [waiting_dequeue s hq]
      rfl
    show 7 * { s with cmdq := q }.waiting.length + 7 + 1 ≤ 7 * s.waiting.length + s.pc.rank
    rw [hlen, hpc]
    exact Nat.le_refl _
  | @reported t hpc =>
    obtain ⟨cs, heq⟩ := callHandled_frame s t.item.handled
    rw [heq]
    exact hdown _ rfl (by rw [hpc]; exact Nat.le_refl _)
  | reportedAll hpc =>
    obtain ⟨cs, heq⟩ := callHandled_frame s env.handled
    rw [heq]
    exact hdown _ rfl (by rw [hpc]; exact Nat.le_refl _)
  | silent hpc => exact hdown _ rfl (by rw [hpc]; simp [FlushPc.rank])
  | failed hpc _ => exact hdown _ rfl (by rw [hpc]; simp [FlushPc.rank])
  | push cmd cb cbArg => exact work_push s cmd cb cbArg
  | dropAll => exact work_dropAll s
  | drained hpc hq => exact hdown _ rfl (by rw [hpc]; exact Nat.le_refl _)
  | defined hpc => exact hdown _ rfl (by rw [hpc]; exact Nat.le_refl _)
  | counted hpc => exact hdown _ rfl (by rw [hpc]; exact Nat.le_refl _)
  | answered hpc _ => exact hdown _ rfl (by rw [hpc]; exact Nat.le_refl _)
  | unsent hpc _ => exact hdown _ rfl (by rw [hpc]; exact Nat.le_refl _)
  | sent hpc _ _ => exact hdown _ rfl (by rw [hpc]; exact Nat.le_refl _)

theorem work_exec {as : List FlushAct} (h : exec (flushStep env) s as = some s') :
    s'.work + as.countP (·.own) ≤ s.work + 7 * as.countP (·.isPush) := by
  induction as generalizing s with
  | nil =>
    cases h
    exact Nat.le_refl _
  | cons a as ih =>
    obtain ⟨t, hst, ht⟩ := exec_cons_some h
    have hstep := work_step hst
    have hrest := ih ht
    rw [List.countP_cons, List.countP_cons]
    split_ifs at hstep ⊢ <;> omega

/-- The command that is handled has a link. -/
def FlushPc.linked : FlushPc → Bool
  | .serve t | .sendReply t => t.item.cmd.link.isSome
  | _ => true

/-- The handler returns a positive size only for a command with a link. -/
def FlushState.RepliesToLinks (s : FlushState) : FlushAct → Prop
  | .served replySz _ => 0 < replySz → s.pc.linked = true
  | _ => True

instance FlushState.RepliesToLinks.instDecidable (s : FlushState) :
    ∀ a, Decidable (s.RepliesToLinks a)
  | .served replySz _ => inferInstanceAs (Decidable (0 < replySz → s.pc.linked = true))
  | .task | .sent _ | .push _ _ _ | .dropAll => isTrue trivial

/-- A reply that is to be sent has a link to go to. -/
def FlushState.SendsLinked (s : FlushState) : Prop :=
  ∀ t, s.pc = .sendReply t → t.item.cmd.link.isSome = true

theorem sendsLinked_step (h : s.SendsLinked) (hg : s.RepliesToLinks a)
    (hs : flushStep env s a = some s') : s'.SendsLinked := by
  cases flushStep_moved hs with
  | @answered t replySz w hpc hpos =>
    intro u hu
    cases hu
    have hlinked := hg hpos
    rwa [hpc] at hlinked
  | push cmd cb cbArg =>
    intro u hu
    exact h u ((push_frame s cmd cb cbArg).2.2 ▸ hu)
  | dropAll => exact h
  | _ =>
    intro u hu
    cases hu

/-- `cmd_flush` has a statement to execute, or waits for the handler or the
reply, whatever these come to. -/
def FlushState.GoesOn (env : FlushEnv) (s : FlushState) : Prop :=
  (∃ s', flushStep env s .task = some s') ∨
    (∀ replySz w, ∃ s', flushStep env s (.served replySz w) = some s') ∨
      ∀ rc, ∃ s', flushStep env s (.sent rc) = some s'

/-- Until it returns, `cmd_flush` goes on. -/
theorem flush_goes_on (env : FlushEnv) (hlinked : s.SendsLinked) (hpc : s.pc ≠ .returned) :
    s.GoesOn env := by
  simp only [FlushState.GoesOn, flushStep, FlushState.taskStep, FlushState.servedStep,
    FlushState.sentStep]
  cases h : s.pc with
  | dequeue =>
    left
    simp only
    split <;> exact ⟨_, rfl⟩
  | serve t => exact Or.inr (Or.inl fun replySz w => ⟨_, rfl⟩)
  | sendReply t => exact Or.inr (Or.inr fun rc => ⟨_, if_pos (hlinked t h)⟩)
  | returned => exact absurd h hpc
  | _ => exact Or.inl ⟨_, rfl⟩

/-! ## §6 The flush of the handler task -/

/-- The call without its result, as the handler task logs it. -/
def FlushCall.callout : FlushCall → Callout
  | .handler cb cmd _ _ => .serve cb cmd
  | .requestSend link reply ticks _ => .send link reply ticks
  | .handled cb arg status => .handled cb arg status

/-- The program point of the handler task. -/
def FlushState.handlePc (s : FlushState) : HandlePc :=
  match s.pc with
  | .dequeue | .count => .flush
  | .define t => .handle t.item
  | .serve t => .serve t.item
  | .sendReply t => .sendReply t.item s.reply
  | .out t => .out t.item s.status
  | .outAll t => .outAll t.item s.status
  | .returned => .receive

/-- Task `id` of the command handler's system is in this flush; `log` is
what was logged before. -/
structure InFlush {ι : Type} (env : FlushEnv) (id : TaskId) (cb : Nat) (log : List Callout)
    (s : FlushState) (h : HandlerState ι) : Prop where
  cmdq : h.cmdq = s.cmdq
  handler : h.ctx.cb = some env.cb
  ticks : h.ctx.timeoutTicks = env.timeoutTicks
  handled : h.handled = env.handled
  task : h.task id = .running ⟨cb, s.handlePc⟩
  log : h.log = log ++ s.calls.map FlushCall.callout
  status : ∀ t, s.pc = .serve t ∨ s.pc = .sendReply t → s.status = .success

theorem ofTask_running {ι : Type} {h : HandlerState ι} {id : TaskId} {t : HandlerTask}
    (ht : h.task id = .running t) (f : HandlerTask → Option (HandlerState ι)) :
    h.ofTask id f = f t := by
  simp [HandlerState.ofTask, ht]

/-- The task goes on in its flush. -/
theorem InFlush.goto {ι : Type} {id : TaskId} {cb : Nat} {log : List Callout}
    {h h' : HandlerState ι} {t : HandlerTask} {pc : HandlePc} (hr : InFlush env id cb log s h)
    (hcb : t.cb = cb) (hq : h'.cmdq = s'.cmdq)
    (hctx : h'.ctx = h.ctx) (hhandled : h'.handled = h.handled) (hpc : s'.handlePc = pc)
    (hlog : h'.log = log ++ s'.calls.map FlushCall.callout)
    (hstatus : ∀ t, s'.pc = .serve t ∨ s'.pc = .sendReply t → s'.status = .success) :
    InFlush env id cb log s' (h'.goto id t pc) where
  cmdq := hq
  handler := by
    show h'.ctx.cb = _
    rw [hctx]
    exact hr.handler
  ticks := by
    show h'.ctx.timeoutTicks = _
    rw [hctx]
    exact hr.ticks
  handled := hhandled.trans hr.handled
  task := by simp [HandlerState.goto, HandlerState.task, hpc, hcb]
  log := hlog
  status := hstatus

section Refinement

variable {ι : Type} [DecidableEq ι] {id : TaskId} {cb : Nat} {log : List Callout}
  {h : HandlerState ι}

/-- The handler task makes the step it is at. -/
theorem InFlush.task_exec {h' : HandlerState ι} (hr : InFlush env id cb log s h)
    (hstep : h.taskStep id ⟨cb, s.handlePc⟩ = some h') :
    exec handlerStep h [.task id] = some h' := by
  rw [exec_cons [] ((ofTask_running hr.task _).trans hstep)]
  rfl

/-- The handler callback of the task returns. -/
theorem InFlush.served_exec {t : Taken} (hr : InFlush env id cb log s h) (hpc : s.pc = .serve t)
    (replySz : Int) (w : Stores) :
    exec handlerStep h [.served id replySz (storeReply s.reply w)] =
      some ((h.note (.serve env.cb t.item.cmd)).goto id ⟨cb, .serve t.item⟩
        (if replySz < 0 then .out t.item .handlerFailed
          else if replySz = 0 then .out t.item .success
          else .sendReply t.item (storeReply s.reply w))) := by
  have htask := hr.task
  simp only [FlushState.handlePc, hpc] at htask
  have hstep : handlerStep h (.served id replySz (storeReply s.reply w)) =
      some ((h.note (.serve env.cb t.item.cmd)).goto id ⟨cb, .serve t.item⟩
        (if replySz < 0 then .out t.item .handlerFailed
          else if replySz = 0 then .out t.item .success
          else .sendReply t.item (storeReply s.reply w))) := by
    refine (ofTask_running htask _).trans ?_
    simp [HandlerState.servedStep, hr.handler]
  rw [exec_cons [] hstep]
  rfl

/-- The call of `link_request_send` and its return are two steps of the task. -/
theorem InFlush.sent_exec {t : Taken} (hr : InFlush env id cb log s h)
    (hpc : s.pc = .sendReply t) (hlink : t.item.cmd.link.isSome = true) (rc : Nat) :
    exec handlerStep h [.task id, .sent id rc] =
      some (((h.note (.send t.item.cmd.link s.reply env.timeoutTicks)).goto id
        ⟨cb, .sendReply t.item s.reply⟩ (.inSend t.item)).goto id ⟨cb, .inSend t.item⟩
          (.out t.item (if rc = 0 then .replyFailed else .success))) := by
  have htask := hr.task
  simp only [FlushState.handlePc, hpc] at htask
  obtain ⟨h₁, hcall, hh₁⟩ : ∃ h₁, handlerStep h (.task id) = some h₁ ∧
      h₁ = (h.note (.send t.item.cmd.link s.reply env.timeoutTicks)).goto id
        ⟨cb, .sendReply t.item s.reply⟩ (.inSend t.item) := by
    refine ⟨_, (ofTask_running htask _).trans ?_, rfl⟩
    simp [HandlerState.taskStep, hlink, hr.ticks]
  have htask₁ : h₁.task id = .running ⟨cb, .inSend t.item⟩ := by
    simp [hh₁, HandlerState.goto, HandlerState.task]
  have hret : handlerStep h₁ (.sent id rc) = some (h₁.goto id ⟨cb, .inSend t.item⟩
      (.out t.item (if rc = 0 then .replyFailed else .success))) :=
    (ofTask_running htask₁ _).trans rfl
  rw [exec_cons _ hcall, exec_cons _ hret, hh₁]
  rfl

/-- **The flush is the handler task's.** Each of its steps is answered by
steps of the handler task, from the dequeue of the first command to the
wait for the next event, with the same calls. -/
theorem flush_refines (env : FlushEnv) (id : TaskId) (cb : Nat) (log : List Callout) :
    Refines (flushStep env) (@handlerStep ι _) (fun _ a => a.isPush = false)
      (InFlush env id cb log) where
  sim := by
    intro s a s' h hr hpush hs
    have hcalls : ∀ c, (h.note c.callout).log =
        log ++ (s.calls ++ [c]).map FlushCall.callout := by
      intro c
      simp [HandlerState.note, hr.log]
    cases flushStep_moved hs with
    | @dequeued q cmd cb' cbArg hpc hq =>
      have hstep : h.taskStep id ⟨cb, s.handlePc⟩ =
          some ({ h with cmdq := q }.goto id ⟨cb, .flush⟩ (.handle ⟨cmd, ⟨cb', cbArg⟩⟩)) := by
        simp [HandlerState.taskStep, FlushState.handlePc, hpc, hr.cmdq, hq]
      exact ⟨_, _, hr.task_exec hstep, hr.goto rfl rfl rfl rfl rfl hr.log (by simp)⟩
    | drained hpc hq =>
      have hstep : h.taskStep id ⟨cb, s.handlePc⟩ =
          some ({ h with cmdq := s.cmdq }.goto id ⟨cb, .flush⟩ .receive) := by
        simp [HandlerState.taskStep, FlushState.handlePc, hpc, hr.cmdq, hq]
      exact ⟨_, _, hr.task_exec hstep, hr.goto rfl rfl rfl rfl rfl hr.log (by simp)⟩
    | @defined t hpc =>
      have hstep : h.taskStep id ⟨cb, s.handlePc⟩ =
          some (h.goto id ⟨cb, .handle t.item⟩ (.serve t.item)) := by
        simp [HandlerState.taskStep, FlushState.handlePc, hpc, hr.handler]
      exact ⟨_, _, hr.task_exec hstep, hr.goto rfl hr.cmdq rfl rfl rfl hr.log (by simp)⟩
    | @reported t hpc =>
      cases hcb : t.item.handled.cb with
      | none =>
        have hstep : h.taskStep id ⟨cb, s.handlePc⟩ =
            some (h.goto id ⟨cb, .out t.item s.status⟩ (.outAll t.item s.status)) := by
          simp [HandlerState.taskStep, FlushState.handlePc, hpc, hcb]
        simp only [FlushState.callHandled, hcb]
        exact ⟨_, _, hr.task_exec hstep, hr.goto rfl hr.cmdq rfl rfl rfl hr.log (by simp)⟩
      | some cb' =>
        have hstep : h.taskStep id ⟨cb, s.handlePc⟩ =
            some ((h.note (.handled cb' t.item.handled.cbArg s.status)).goto id
              ⟨cb, .out t.item s.status⟩ (.outAll t.item s.status)) := by
          simp [HandlerState.taskStep, FlushState.handlePc, hpc, hcb]
        simp only [FlushState.callHandled, hcb]
        exact ⟨_, _, hr.task_exec hstep,
          hr.goto rfl hr.cmdq rfl rfl rfl (hcalls (.handled _ _ _)) (by simp)⟩
    | @reportedAll t hpc =>
      cases hcb : env.handled.cb with
      | none =>
        have hstep : h.taskStep id ⟨cb, s.handlePc⟩ =
            some (h.goto id ⟨cb, .outAll t.item s.status⟩ .flush) := by
          simp [HandlerState.taskStep, FlushState.handlePc, hpc, hr.handled, hcb]
        simp only [FlushState.callHandled, hcb]
        exact ⟨_, _, hr.task_exec hstep, hr.goto rfl hr.cmdq rfl rfl rfl hr.log (by simp)⟩
      | some cb' =>
        have hstep : h.taskStep id ⟨cb, s.handlePc⟩ =
            some ((h.note (.handled cb' env.handled.cbArg s.status)).goto id
              ⟨cb, .outAll t.item s.status⟩ .flush) := by
          simp [HandlerState.taskStep, FlushState.handlePc, hpc, hr.handled, hcb]
        simp only [FlushState.callHandled, hcb]
        exact ⟨_, _, hr.task_exec hstep,
          hr.goto rfl hr.cmdq rfl rfl rfl (hcalls (.handled _ _ _)) (by simp)⟩
    | counted hpc =>
      refine ⟨[], h, rfl, hr.cmdq, hr.handler, hr.ticks, hr.handled, ?_, hr.log, by simp⟩
      rw [hr.task]
      simp [FlushState.handlePc, hpc]
    | @failed t replySz w hpc hneg =>
      refine ⟨_, _, hr.served_exec hpc replySz w, ?_⟩
      rw [if_pos hneg]
      exact hr.goto rfl hr.cmdq rfl rfl rfl (hcalls (.handler _ _ w replySz)) (by simp)
    | @silent t w hpc =>
      refine ⟨_, _, hr.served_exec hpc 0 w, ?_⟩
      rw [if_neg (by decide), if_pos rfl]
      refine hr.goto rfl hr.cmdq rfl rfl ?_ (hcalls (.handler _ _ w 0)) (by simp)
      exact congrArg (HandlePc.out t.item) (hr.status t (Or.inl hpc))
    | @answered t replySz w hpc hpos =>
      refine ⟨_, _, hr.served_exec hpc replySz w, ?_⟩
      rw [if_neg (by omega), if_neg (by omega)]
      exact hr.goto rfl hr.cmdq rfl rfl rfl (hcalls (.handler _ _ w replySz))
        fun _ _ => hr.status t (Or.inl hpc)
    | @unsent t hpc hlink =>
      refine ⟨_, _, hr.sent_exec hpc hlink 0, ?_⟩
      rw [if_pos rfl]
      exact hr.goto rfl hr.cmdq rfl rfl rfl (hcalls (.requestSend _ _ _ 0)) (by simp)
    | @sent t rc hpc hlink hrc =>
      refine ⟨_, _, hr.sent_exec hpc hlink rc, ?_⟩
      rw [if_neg hrc]
      refine hr.goto rfl hr.cmdq rfl rfl ?_ (hcalls (.requestSend _ _ _ rc)) (by simp)
      exact congrArg (HandlePc.out t.item) (hr.status t (Or.inr hpc))
    | push cmd cb cbArg => cases hpush
    | dropAll =>
      refine ⟨[.dropAll], _, rfl, ?_, hr.handler, hr.ticks, hr.handled, hr.task, hr.log,
        hr.status⟩
      simp [FlushState.dropAll, hr.cmdq]

end Refinement

/-! ## §7 A whole flush -/

/-- What a flush owes when it returns. -/
structure Report (env : FlushEnv) (s : FlushState) (done : List Completion) : Prop where
  /-- Every command has had its calls, one command after the other. -/
  calls : s.calls = done.flatMap (·.calls env)
  /-- The commands are those dequeued, in that order. -/
  commands : done.map (·.command) = s.taken
  /-- The return value. -/
  returned : s.i = done.length
  /-- No command is completed twice, and they come in the order of their enqueues. -/
  order : done.Pairwise (·.command.no < ·.command.no)
  /-- Each is the command that was enqueued under its number. -/
  entry : ∀ c ∈ done, s.accepted[c.command.no]? = some c.command.item
  /-- None of them was dropped. -/
  dropped : ∀ d ∈ s.dropped, ∀ c ∈ done, c.command.no ≠ d.no

/-- **Every dequeued command is completed exactly once and reported
truthfully**, whatever its handler and its reply come to and whatever is
enqueued or dropped meanwhile; and the flush returns, after at most seven
statements for each command, if the handler asks for no reply to a command
without a link. -/
theorem flush_reports (env : FlushEnv) (q : Cmdq) (reply : Msg) (status : CmdStatus)
    (as : List FlushAct) (s : FlushState)
    (h : exec (flushStep env) (.start q reply status) as = some s) :
    (s.pc = .returned → ∃ done, Report env s done) ∧
      (Along (flushStep env) FlushState.RepliesToLinks (.start q reply status) as →
        s.pc ≠ .returned → s.GoesOn env) ∧
      as.countP (·.own) ≤ 7 * (q.pending.length + as.countP (·.isPush)) + 1 := by
  refine ⟨fun hpc => ?_, fun hG => flush_goes_on env ?_, ?_⟩
  · have hfirst : CallsSoFar env (.start q reply status) [] := ⟨rfl, rfl, rfl⟩
    have hcalls : ∃ done, CallsSoFar env s done :=
      exec_invariant' (I := fun s => ∃ done, CallsSoFar env s done)
        (fun _ _ _ hi hs => callsSoFar_step hi hs) ⟨[], hfirst⟩ h
    have hnum : s.Numbered :=
      exec_invariant' (I := FlushState.Numbered) (fun _ _ _ hi hs => numbered_step hi hs)
        (numbered_start q reply status) h
    obtain ⟨done, hdone⟩ := hcalls
    unfold CallsSoFar at hdone
    simp only [hpc] at hdone
    obtain ⟨hc, htaken, hi⟩ := hdone
    have hlive : ∀ c ∈ done, c.command ∈ s.taken ++ s.waiting := by
      intro c hcd
      rw [htaken]
      exact List.mem_append_left _ (List.mem_map_of_mem hcd)
    refine ⟨done, hc, htaken.symm, hi, ?_, fun c hcd => hnum.entry _ (hlive c hcd),
      fun d hd c hcd => (hnum.dropped d hd).2 _ (hlive c hcd)⟩
    have hinc := (List.pairwise_append.mp hnum.increasing).1
    rw [htaken, List.pairwise_map] at hinc
    exact hinc
  · exact exec_invariant (I := FlushState.SendsLinked)
      (fun _ _ _ hi hg hs => sendsLinked_step hi hg hs) (fun _ hpc => by cases hpc) hG h
  · have hwork := work_exec h
    have hstart : (FlushState.start q reply status).work = 7 * q.pending.length + 1 := by
      simp [FlushState.work, FlushState.waiting, FlushState.ring, FlushState.start, FlushPc.rank,
        Cmdq.pending, Cmdq.ring, Ring.size]
    omega

/-- A queue with one command, with callback 5. -/
def oneCommand (link : Ptr) : Cmdq := (cmdEnqueueCbUnsafe .init ⟨Msg.zero, link⟩ (some 5) none).1

/-- Up to the reply: the handler stores one byte. -/
def upToReply : List FlushAct :=
  [.task, .task, .served 1 fun i => if i = 0 then some 2#8 else none]

/-- The command came on link 1, and the reply is sent. -/
theorem one_command_reported :
    (∃ s, exec (flushStep ⟨9, 0, ⟨some 6, none⟩⟩) (.start (oneCommand (some 1)) Msg.zero .success)
        upToReply = some s ∧ s.GoesOn ⟨9, 0, ⟨some 6, none⟩⟩) ∧
      ∃ s done, Report ⟨9, 0, ⟨some 6, none⟩⟩ s done ∧ s.i = 1 := by
  let env : FlushEnv := ⟨9, 0, ⟨some 6, none⟩⟩
  let whole : List FlushAct := upToReply ++ [.sent 64, .task, .task, .task, .task]
  have hpart := flush_reports env (oneCommand (some 1)) Msg.zero .success upToReply _ rfl
  have hwhole := flush_reports env (oneCommand (some 1)) Msg.zero .success whole _ rfl
  obtain ⟨done, hdone⟩ := hwhole.1 rfl
  exact ⟨⟨_, rfl, hpart.2.1 (by decide) (by simp)⟩, _, done, hdone, rfl⟩

/-- The command has no link, and its handler asks for a reply: nothing
follows, and neither callback is told. -/
theorem unlinked_not_completed :
    ¬ ∀ (env : FlushEnv) (q : Cmdq) (reply : Msg) (status : CmdStatus) (as : List FlushAct)
      (s : FlushState), exec (flushStep env) (.start q reply status) as = some s →
        s.pc ≠ .returned → s.GoesOn env := by
  intro hall
  have hgo := hall ⟨9, 0, ⟨some 6, none⟩⟩ (oneCommand none) Msg.zero .success upToReply _ rfl
    (by simp)
  rcases hgo with ⟨s', hs'⟩ | hs' | hs'
  · cases hs'
  · obtain ⟨s', hs'⟩ := hs' 0 fun _ => none
    cases hs'
  · obtain ⟨s', hs'⟩ := hs' 0
    cases hs'

end HpscRtems.Command
