/-
HpscRtems.Tasks — task objects of RTEMS and the events sent to them.

A task identifier has no object, a created (dormant) one, or a started
one. `π` is the local state of the tasks that run the modelled entry
point; a task started with any other entry point is `other`. Pending
events belong to the object: they accumulate from its creation on, also
before it is started, and a new object starts with none.

`rtems_event_send` looks its receiver up and fails on an identifier
without an object. `RTEMS_SELF`, which equals `RTEMS_ID_NONE`, is the
executing task.
-/
import HpscRtems.Rtems

namespace HpscRtems.Rtems

inductive TaskObj (π : Type) where
  | absent
  | dormant
  | running (p : π)
  | other
  deriving DecidableEq

def TaskObj.exists {π : Type} : TaskObj π → Bool
  | .absent => false
  | _ => true

/-- The task objects and their pending events. -/
structure TaskTable (π : Type) where
  task : RtemsId → TaskObj π
  pending : Pending

namespace TaskTable

variable {π : Type}

/-- No task has been created. -/
def empty : TaskTable π := ⟨fun _ => .absent, fun _ => 0⟩

def set (t : TaskTable π) (id : RtemsId) (x : TaskObj π) : TaskTable π :=
  { t with task := Function.update t.task id x }

/-- `rtems_task_create`, on an identifier that is free. -/
def create (t : TaskTable π) (id : TaskId) : Option (TaskTable π) :=
  match t.task id with
  | .absent => some { t.set id .dormant with pending := Function.update t.pending id 0 }
  | _ => none

/-- `rtems_task_start` with an entry point outside the model. -/
def startOther (t : TaskTable π) (id : TaskId) : Option (TaskTable π) :=
  match t.task id with
  | .dormant => some (t.set id .other)
  | _ => none

/-- `rtems_task_delete`, of a task outside the modelled code. -/
def delete (t : TaskTable π) (id : TaskId) : Option (TaskTable π) :=
  match t.task id with
  | .dormant | .other => some (t.set id .absent)
  | _ => none

/-- The task an event sent to `id` by `self` goes to. -/
def receiver (self : TaskId) (id : RtemsId) : RtemsId := if id = idNone then self else id

/-- `rtems_event_send`, called by `self`. -/
def send (t : TaskTable π) (self : TaskId) (id : RtemsId) (ev : EventSet) :
    TaskTable π × StatusCode :=
  if (t.task (receiver self id)).exists then
    ({ t with pending := eventSend t.pending (receiver self id) ev }, .successful)
  else (t, .invalidId)

/-- The pending events of `id` that a receive of `ev` returns are cleared. -/
def received (t : TaskTable π) (id : RtemsId) (ev : EventSet) : TaskTable π :=
  { t with pending := eventClear t.pending id ev }

/-! ## What the updates leave alone -/

variable (t : TaskTable π) (self : TaskId) (id : RtemsId) (ev : EventSet) (x : TaskObj π)

@[simp] theorem task_set : (t.set id x).task id = x := by simp [set]

theorem task_set_of_ne {id j : RtemsId} (h : j ≠ id) : (t.set id x).task j = t.task j := by
  simp [set, Function.update_of_ne h]

@[simp] theorem pending_set : (t.set id x).pending = t.pending := rfl

@[simp] theorem task_received : (t.received id ev).task = t.task := rfl

@[simp] theorem task_send : (t.send self id ev).1.task = t.task := by
  unfold send; split <;> rfl

theorem receiver_of_ne {id : RtemsId} (h : id ≠ idNone) : receiver self id = id := by
  simp [receiver, h]

theorem send_of_exists (h : (t.task (receiver self id)).exists = true) :
    t.send self id ev =
      ({ t with pending := eventSend t.pending (receiver self id) ev }, .successful) := by
  simp [send, h]

theorem send_of_absent (h : (t.task (receiver self id)).exists = false) :
    t.send self id ev = (t, .invalidId) := by
  simp [send, h]

/-- A send takes no event away. -/
theorem hasEvent_send {j : RtemsId} {ev' : EventSet} (h : hasEvent (t.pending j) ev' = true) :
    hasEvent ((t.send self id ev).1.pending j) ev' = true := by
  unfold send
  split
  · by_cases hj : j = receiver self id
    · subst hj
      show hasEvent (eventSend t.pending _ ev _) ev' = true
      rw [eventSend_self, hasEvent_or, h, Bool.true_or]
    · show hasEvent (eventSend t.pending _ ev j) ev' = true
      rwa [eventSend, Function.update_of_ne hj]
  · exact h

/-- A send adds no event but the one it is about. -/
theorem hasEvent_send_other {j : RtemsId} {ev' : EventSet} (h : ev &&& ev' = 0#32) :
    hasEvent ((t.send self id ev).1.pending j) ev' = hasEvent (t.pending j) ev' := by
  unfold send
  split
  · by_cases hj : j = receiver self id
    · subst hj
      show hasEvent (eventSend t.pending _ ev _) ev' = _
      rw [eventSend_self]
      exact (hasEvent_other h).1
    · show hasEvent (eventSend t.pending _ ev j) ev' = _
      rw [eventSend, Function.update_of_ne hj]
  · rfl

theorem running_set {id j : RtemsId} {x y : π} (h : (t.set id (.running x)).task j = .running y) :
    (j = id ∧ y = x) ∨ (j ≠ id ∧ t.task j = .running y) := by
  by_cases hj : j = id
  · rw [hj, task_set] at h
    exact Or.inl ⟨hj, (TaskObj.running.inj h).symm⟩
  · rw [task_set_of_ne _ _ hj] at h
    exact Or.inr ⟨hj, h⟩

/-- Another object is as it was after one is replaced by a running task. -/
theorem dormant_set {id j : RtemsId} {x : π} (h : (t.set id (.running x)).task j = .dormant) :
    j ≠ id ∧ t.task j = .dormant := by
  by_cases hj : j = id
  · rw [hj, task_set] at h
    cases h
  · rw [task_set_of_ne _ _ hj] at h
    exact ⟨hj, h⟩

/-- What is there after a task is gone was there before. -/
theorem of_task_gone {id j : RtemsId} {y : TaskObj π} (h : (t.set id .absent).task j = y)
    (hy : y ≠ .absent) : t.task j = y := by
  by_cases hj : j = id
  · rw [hj, task_set] at h
    exact absurd h.symm hy
  · rwa [task_set_of_ne _ _ hj] at h

/-- A task object replaced keeps its identifier. -/
theorem named_set {id : TaskId} (h : ∀ j, (t.task j).exists = true → j ≠ idNone) :
    ∀ j, ((t.set id x).task j).exists = true → j ≠ idNone := by
  intro j hj
  by_cases hji : j = id
  · exact hji ▸ id.property
  · exact h j ((congrArg TaskObj.exists (task_set_of_ne _ _ hji)).symm.trans hj)

end TaskTable

/-! ## The rest of the system -/

/-- The rest of the system creates, starts or deletes a task of its own, or
sends an event of its own. -/
inductive OutsideAct where
  | create (id : TaskId)
  | startOther (id : TaskId)
  | delete (id : TaskId)
  | post (self : TaskId) (id : RtemsId) (ev : EventSet)
  deriving DecidableEq

/-- A step of the rest of the system, which does not send the events `owned`
of the modelled code. -/
def TaskTable.outsideStep {π : Type} (owned : EventSet) (t : TaskTable π) :
    OutsideAct → Option (TaskTable π)
  | .create id => t.create id
  | .startOther id => t.startOther id
  | .delete id => t.delete id
  | .post self id ev => if ev &&& owned = 0 then some (t.send self id ev).1 else none

/-- What such a step leaves: the tasks that run the modelled entry point,
and the events `owned` of every task there was. -/
structure Outside {π : Type} (owned : EventSet) (t t' : TaskTable π) : Prop where
  running : ∀ id x, t'.task id = .running x ↔ t.task id = .running x
  dormant : ∀ id, t'.task id = .dormant →
    t.task id = .dormant ∨ ∀ ev, hasEvent (t'.pending id) ev = false
  named : ∀ id, (t'.task id).exists = true → (t.task id).exists = true ∨ id ≠ idNone
  events : ∀ id ev, (t.task id).exists = true → ev &&& owned = ev →
    hasEvent (t'.pending id) ev = hasEvent (t.pending id) ev

section Outside

variable {π : Type} {owned : EventSet} {t t' : TaskTable π}

/-- The object of one task is replaced, and neither the old nor the new one
runs the modelled entry point. -/
theorem outside_set {id : TaskId} {x : TaskObj π} (h : ∀ y, t.task id ≠ .running y)
    (hx : ∀ y, x ≠ .running y) (hd : x ≠ .dormant) : Outside owned t (t.set id x) where
  running j y := by
    by_cases hj : j = id
    · subst hj
      simp [h, hx]
    · rw [TaskTable.task_set_of_ne _ _ hj]
  dormant j hj := by
    by_cases hji : j = id
    · subst hji
      simp [hd] at hj
    · rw [TaskTable.task_set_of_ne _ _ hji] at hj
      exact Or.inl hj
  named j hj := by
    by_cases hji : j = id
    · exact Or.inr (hji ▸ id.property)
    · rw [TaskTable.task_set_of_ne _ _ hji] at hj
      exact Or.inl hj
  events _ _ _ _ := rfl

theorem outside_create {id : TaskId} (h : t.create id = some t') : Outside owned t t' := by
  unfold TaskTable.create at h
  split at h
  case h_2 => cases h
  case h_1 habs =>
    cases h
    constructor
    case running =>
      intro j y
      by_cases hj : j = id
      · subst hj
        simp [TaskTable.set, habs]
      · simp [TaskTable.set, Function.update_of_ne hj]
    case dormant =>
      intro j hj
      by_cases hji : j = id
      · subst hji
        exact Or.inr (by simp)
      · rw [show _ = t.task j from TaskTable.task_set_of_ne _ _ hji] at hj
        exact Or.inl hj
    case named =>
      intro j hj
      by_cases hji : j = id
      · exact Or.inr (hji ▸ id.property)
      · rw [show _ = t.task j from TaskTable.task_set_of_ne _ _ hji] at hj
        exact Or.inl hj
    case events =>
      intro j ev hj _
      have hji : j ≠ id := by
        intro heq
        rw [heq, habs] at hj
        cases hj
      simp [Function.update_of_ne hji]

theorem outside_startOther {id : TaskId} (h : t.startOther id = some t') : Outside owned t t' := by
  unfold TaskTable.startOther at h
  split at h
  · cases h
    exact outside_set (by simp [*]) (by simp) (by simp)
  · cases h

theorem outside_delete {id : TaskId} (h : t.delete id = some t') : Outside owned t t' := by
  unfold TaskTable.delete at h
  split at h
  · cases h
    exact outside_set (by simp [*]) (by simp) (by simp)
  · cases h
    exact outside_set (by simp [*]) (by simp) (by simp)
  · cases h

theorem outside_post (self : TaskId) (id : RtemsId) {ev : EventSet} (h : ev &&& owned = 0) :
    Outside owned t (t.send self id ev).1 where
  running j y := by rw [TaskTable.task_send]
  dormant j hj := Or.inl (by rwa [TaskTable.task_send] at hj)
  named j hj := Or.inl (by rwa [TaskTable.task_send] at hj)
  events j ev' _ hev' := by
    refine TaskTable.hasEvent_send_other _ _ _ _ ?_
    rw [← hev', BitVec.and_comm ev', ← BitVec.and_assoc, h]
    exact BitVec.zero_and

/-- **The rest of the system** leaves what is the modelled code's. -/
theorem outside_of_step {a : OutsideAct} (h : t.outsideStep owned a = some t') :
    Outside owned t t' := by
  cases a with
  | create id => exact outside_create h
  | startOther id => exact outside_startOther h
  | delete id => exact outside_delete h
  | post self id ev =>
    simp only [TaskTable.outsideStep] at h
    split at h
    · cases h
      exact outside_post self id ‹_›
    · cases h

end Outside

end HpscRtems.Rtems
