/-
HpscRtems.Rtems — the part of the RTEMS interface the modelled code uses:
status codes, task identifiers and the event manager.

`eventSend` ORs the event set into the receiver's pending set.
`eventReceive` with `RTEMS_EVENT_ANY` returns and clears the requested
pending events; with none of them pending the caller blocks, and the model
leaves that call without a step until an event arrives or the time-out
passes. `RTEMS_NO_TIMEOUT` is the interval 0.

`link.h` asks of its users that "the event_wait value should be a single
event": an `Event` is one bit of the set, so a wait for no event at all
cannot be written down.
-/
import Mathlib.Logic.Function.Basic
import Mathlib.Data.Nat.Bits

namespace HpscRtems.Rtems

/-- A C pointer; `none` is `NULL`. -/
abbrev Ptr := Option Nat

abbrev Byte := BitVec 8

/-- The `rtems_status_code` values the modelled code returns or tests. -/
inductive StatusCode where
  | successful
  | invalidId
  | notDefined
  | unsatisfied
  | resourceInUse
  | noMemory
  | calledFromIsr
  | notOwnerOfResource
  deriving DecidableEq, Repr

/-! ## Tasks and intervals -/

abbrev RtemsId := Nat

/-- `RTEMS_ID_NONE`. It equals `RTEMS_SELF`: an event sent to it goes to
the executing task. -/
def idNone : RtemsId := 0

/-- The identifier of an existing task. -/
abbrev TaskId := {id : RtemsId // id ≠ idNone}

instance instOfNatTaskId (n : Nat) : OfNat TaskId (n + 1) := ⟨⟨n + 1, Nat.succ_ne_zero n⟩⟩

/-- `RTEMS_NO_TIMEOUT`. -/
def noTimeout : Nat := 0

/-! ## Events -/

abbrev EventSet := BitVec 32

/-- One event, `RTEMS_EVENT_0` to `RTEMS_EVENT_31`. -/
abbrev Event := Fin 32

instance instNeZero32 : @NeZero Nat Zero.ofOfNat0 32 := ⟨by decide⟩

def Event.mask (ev : Event) : EventSet := 1#32 <<< ev.val

/-- Is one of the events of `ev` in the set? -/
def hasEvent (set : EventSet) (ev : EventSet) : Bool := set &&& ev != 0#32

/-- The pending events of every task. -/
abbrev Pending := RtemsId → EventSet

/-- `rtems_event_send`, to a task that exists. -/
def eventSend (p : Pending) (id : RtemsId) (ev : EventSet) : Pending :=
  Function.update p id (p id ||| ev)

/-- The pending sets after `rtems_event_receive` returned the requested
events `ev` that were pending for `id`. -/
def eventClear (p : Pending) (id : RtemsId) (ev : EventSet) : Pending :=
  Function.update p id (p id &&& ~~~ev)

theorem mask_ne_zero (ev : Event) : Event.mask ev ≠ 0#32 := by
  revert ev
  decide

@[simp] theorem hasEvent_zero (ev : EventSet) : hasEvent 0#32 ev = false := by
  simp [hasEvent]

/-- A sent event is pending. -/
@[simp] theorem hasEvent_or_mask (set : EventSet) (ev : Event) :
    hasEvent (set ||| Event.mask ev) (Event.mask ev) = true := by
  have h : (set ||| Event.mask ev) &&& Event.mask ev = Event.mask ev := by
    ext i hi
    simp only [BitVec.getElem_and, BitVec.getElem_or]
    cases (Event.mask ev)[i] <;> simp
  simp [hasEvent, h, mask_ne_zero]

/-- A received event is no longer pending. -/
@[simp] theorem hasEvent_clear (set ev : EventSet) : hasEvent (set &&& ~~~ev) ev = false := by
  have h : (set &&& ~~~ev) &&& ev = 0#32 := by
    ext i hi
    simp only [BitVec.getElem_and, BitVec.getElem_not, BitVec.getElem_zero]
    cases ev[i] <;> simp
  simp [hasEvent, h]

/-- The events that were pending are the ones a receive reports. -/
@[simp] theorem hasEvent_and (set ev : EventSet) : hasEvent (set &&& ev) ev = hasEvent set ev := by
  have h : (set &&& ev) &&& ev = set &&& ev := by
    rw [BitVec.and_assoc, BitVec.and_self]
  simp [hasEvent, h]

theorem hasEvent_or (a b ev : EventSet) :
    hasEvent (a ||| b) ev = (hasEvent a ev || hasEvent b ev) := by
  have h : (a ||| b) &&& ev = (a &&& ev) ||| (b &&& ev) := by
    ext i hi
    simp only [BitVec.getElem_and, BitVec.getElem_or]
    cases a[i] <;> cases b[i] <;> simp
  rw [Bool.eq_iff_iff]
  simp only [hasEvent, h, bne_iff_ne, ne_eq, BitVec.or_eq_zero_iff, Bool.or_eq_true]
  exact not_and_or

theorem hasEvent_set (st bit : BitVec 32) (h : bit ≠ 0#32) : hasEvent (st ||| bit) bit = true := by
  rw [hasEvent_or]
  simp [hasEvent, h]

/-- Setting or clearing one of two disjoint bits leaves the other. -/
theorem hasEvent_other {st bit other : BitVec 32} (h : bit &&& other = 0#32) :
    hasEvent (st ||| bit) other = hasEvent st other ∧
      hasEvent (st &&& ~~~bit) other = hasEvent st other := by
  constructor
  · rw [hasEvent_or]
    simp [hasEvent, h]
  · have hkeep : st &&& ~~~bit &&& other = st &&& other := by
      ext i hi
      have hb : (bit &&& other)[i] = (0#32)[i] := by rw [h]
      simp only [BitVec.getElem_and, BitVec.getElem_zero] at hb
      simp only [BitVec.getElem_and, BitVec.getElem_not]
      revert hb
      cases bit[i] <;> cases other[i] <;> simp
    simp [hasEvent, hkeep]

@[simp] theorem eventSend_self (p : Pending) (id : RtemsId) (ev : EventSet) :
    eventSend p id ev id = p id ||| ev := by
  simp [eventSend]

@[simp] theorem eventClear_self (p : Pending) (id : RtemsId) (ev : EventSet) :
    eventClear p id ev id = p id &&& ~~~ev := by
  simp [eventClear]

end HpscRtems.Rtems
