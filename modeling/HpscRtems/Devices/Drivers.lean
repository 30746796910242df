/-
HpscRtems.Devices.Drivers — the devices of the RTPS R52 from
`init_extra_drivers` (`init.c`) to the end of `shutdown` (`shutdown.c`), with
any number of `test_cpu_rti_timers` in between.

One task at a time executes all this: the one that initialises the drivers,
later the shell. Between any two of its statements it may be moved to
another processor of its affinity, interrupts are served on any processor,
and the rest of the system installs and removes handlers of its own.

The handlers this code installs are `RTEMS_INTERRUPT_UNIQUE`, so a vector
has one of them or handlers of others. `malloc` and the installation of a
handler may fail. What the mailbox interrupt does with the channels, and
their release, is in `Mbox.Isr` and `Mbox.Driver`; the counters of a timer
are whatever the device returns.

`fault` is not in the program: an interrupt handler has used a mailbox that
is freed or a `ctx` whose function has returned.
-/
import HpscRtems.Machine.Registry
import HpscRtems.Machine.Run
import HpscRtems.Mbox.Driver

namespace HpscRtems.Devices

open Machine Rtems Mbox

/-! ## §1 Devices -/

/-- `dev_id_mbox` -/
inductive DevIdMbox where
  | lsio
  | hppsTrch
  | hppsRtps
  deriving DecidableEq

/-- The value of the enumerator. -/
def DevIdMbox.toNat : DevIdMbox → Nat
  | lsio => 0
  | hppsTrch => 1
  | hppsRtps => 2

/-- `struct hpsc_rti_timer` -/
structure HpscRtiTimer where
  base : Nat
  vec : Nat
  isStarted : Bool
  deriving DecidableEq

/-- What is allocated for a device. -/
inductive Dev where
  | mbox (m : HpscMbox)
  | rtit (t : HpscRtiTimer)

/-- `devs_mbox[id]`, and the item `rtits` of a processor. -/
inductive Slot where
  | mbox (id : DevIdMbox)
  | rtit (cpu : Nat)
  deriving DecidableEq

/-- The `CONFIG_` options, the processors and what the devices are probed with. -/
structure Config where
  mboxLsio : Bool
  mboxHppsRtps : Bool
  rtiTimer : Bool
  wdt : Bool
  /-- `rtems_get_processor_count()` -/
  processorCount : Nat
  mboxBase : DevIdMbox → Nat
  mboxInt : DevIdMbox → Line → HpscMboxIrqInfo
  rtitBases : Nat → Nat
  rtitVec : Nat

/-- The mailboxes that are probed. -/
def Config.mbox (cfg : Config) : DevIdMbox → Bool
  | .lsio => cfg.mboxLsio
  | .hppsTrch => false
  | .hppsRtps => cfg.mboxHppsRtps

/-- `RTEMS_ARRAY_SIZE(rtit_names)`, and of `wdt_names` -/
def namesSize : Nat := 2

/-! ## §2 Interrupt handlers -/

/-- An installed handler with its argument. -/
inductive IrqHandler where
  /-- `hpsc_mbox_isr_a` or `hpsc_mbox_isr_b` -/
  | mboxIsr (line : Line) (mbox : Nat)
  /-- `handle_event`, with the `ctx` of a call of `hpsc_rti_timer_test_device`. -/
  | handleEvent (frame : Nat)
  | other
  deriving DecidableEq

abbrev Irqs := Nat → Option IrqHandler

/-- `rtems_interrupt_handler_install(v, .., RTEMS_INTERRUPT_UNIQUE, h)` returns `sc`. -/
def handlerInstall (irqs : Irqs) (v : Nat) (h : IrqHandler) (sc : StatusCode) : Option Irqs :=
  if sc = .successful then
    if irqs v = none then some (Function.update irqs v (some h)) else none
  else some irqs

/-- `rtems_interrupt_handler_remove` -/
def handlerRemove (irqs : Irqs) (v : Nat) (h : IrqHandler) : Irqs × StatusCode :=
  if irqs v = some h then (Function.update irqs v none, .successful) else (irqs, .unsatisfied)

/-! ## §3 State -/

/-- `enum hpsc_rti_timer_test_rc`, the values for a device -/
inductive TestRc where
  | success
  | start
  | stop
  | noAdvance
  | unexpectedEventCount
  deriving DecidableEq

/-- The program points of `init_extra_drivers`. -/
inductive BootPc where
  /-- `malloc` in `hpsc_mbox_probe` -/
  | mboxProbe (id : DevIdMbox)
  | mboxInstall (id : DevIdMbox) (m : Nat) (line : Line)
  /-- `fail_isr_b` -/
  | mboxUndo (id : DevIdMbox) (m : Nat)
  /-- `free_mbox` -/
  | mboxFree (id : DevIdMbox) (m : Nat)
  /-- `dev_set_mbox` -/
  | mboxSet (id : DevIdMbox) (m : Nat)
  | getAffinity
  | rtitPin (cpu : Nat)
  /-- `malloc` in `hpsc_rti_timer_probe` -/
  | rtitProbe (cpu : Nat)
  /-- `dev_cpu_set_rtit`: `PER_CPU_DATA_GET` -/
  | rtitSlot (cpu : Nat) (t : Nat)
  | rtitSet (cpu : Nat) (t : Nat) (slot : Nat)
  | wdtPin (cpu : Nat)
  | wdtInit (cpu : Nat)
  | wdtSlot (cpu : Nat)
  | wdtSet (cpu : Nat) (slot : Nat)
  | setAffinity
  deriving DecidableEq

/-- The program points of `test_cpu_rti_timers`. -/
inductive TestPc where
  | getAffinity
  | pin (cpu : Nat)
  /-- `dev_cpu_get_rtit`: `PER_CPU_DATA_GET` -/
  | slot (cpu : Nat)
  | get (cpu : Nat) (slot : Nat)
  /-- `hpsc_rti_timer_start` -/
  | install (cpu : Nat) (t : Nat)
  | setStarted (cpu : Nat) (t : Nat)
  /-- `do_test_advance` -/
  | advance (cpu : Nat) (t : Nat)
  /-- `do_test_events` -/
  | configure (cpu : Nat) (t : Nat)
  | receive (cpu : Nat) (t : Nat)
  | check (cpu : Nat) (t : Nat)
  /-- `hpsc_rti_timer_configure(tmr, reset_interval_ns)` -/
  | reset (cpu : Nat) (t : Nat) (rc : TestRc)
  /-- `hpsc_rti_timer_stop` -/
  | remove (cpu : Nat) (t : Nat) (rc : TestRc)
  | clearStarted (cpu : Nat) (t : Nat) (rc : TestRc)
  /-- `hpsc_rti_timer_test_device` has returned. -/
  | next (cpu : Nat) (rc : TestRc)
  | setAffinity (rc : TestRc)
  deriving DecidableEq

/-- The program points of `shutdown`, from the mailboxes on. -/
inductive DownPc where
  | mboxGet (id : DevIdMbox)
  /-- `dev_set_mbox(i, NULL)` -/
  | mboxUnset (id : DevIdMbox) (m : Nat)
  /-- `hpsc_mbox_remove`, after the release of the channels -/
  | mboxRemove (id : DevIdMbox) (m : Nat) (line : Line)
  | mboxFree (id : DevIdMbox) (m : Nat)
  | rtitPin (cpu : Nat)
  /-- `dev_cpu_get_rtit` -/
  | rtitSlot (cpu : Nat)
  | rtitGet (cpu : Nat) (slot : Nat)
  /-- `dev_cpu_set_rtit(NULL)` -/
  | rtitUnsetSlot (cpu : Nat) (t : Nat)
  | rtitUnset (cpu : Nat) (t : Nat) (slot : Nat)
  /-- `hpsc_rti_timer_remove` -/
  | rtitRemove (cpu : Nat) (t : Nat)
  | wdtPin (cpu : Nat)
  /-- `dev_cpu_get_wdt` -/
  | wdtSlot (cpu : Nat)
  | wdtGet (cpu : Nat) (slot : Nat)
  /-- `dev_cpu_set_wdt(NULL)` -/
  | wdtUnsetSlot (cpu : Nat) (w : Nat)
  | wdtUnset (cpu : Nat) (w : Nat) (slot : Nat)
  | wdtUninit (cpu : Nat) (w : Nat)
  deriving DecidableEq

/-- The calls of `rtems_panic`. -/
inductive Panic where
  /-- A probe failed. -/
  | probe
  /-- `affinity_pin_to_cpu` -/
  | badCpu
  /-- `hpsc_rti_timer_remove` failed in `shutdown`. -/
  | rtitRemove
  deriving DecidableEq

inductive DevPc where
  | boot (b : BootPc)
  /-- The drivers are initialised. -/
  | idle
  | test (t : TestPc)
  | down (d : DownPc)
  | exited
  | panic (why : Panic)
  | assertFailed
  /-- The task has followed a pointer to freed memory. -/
  | usedFreed
  deriving DecidableEq

/-- The system has come to its end. -/
def DevPc.halted : DevPc → Bool
  | exited | panic _ | assertFailed | usedFreed => true
  | _ => false

/-- A call of `hpsc_rti_timer_test_device` has not returned yet. -/
def TestPc.inDevice : TestPc → Bool
  | getAffinity | pin _ | slot _ | get _ _ | next _ _ | setAffinity _ => false
  | _ => true

def DevPc.inDevice : DevPc → Bool
  | test t => t.inDevice
  | _ => false

/-- The handlers, the memory and the store of `devices.c`. -/
structure Devs where
  irqs : Irqs
  heap : Nat → Option Dev
  /-- `devs_mbox` and `rtits` -/
  store : Slot → Ptr
  /-- The item `wdts` of each processor: an entry of the array `wdts`. -/
  wdts : Nat → Ptr
  /-- `wdt_init_target` has been called on the entry, and `wdt_uninit` not. -/
  wdtReady : Nat → Bool
  /-- The calls of `hpsc_rti_timer_test_device` so far; the last one is `ctx`. -/
  frames : Nat
  fault : Bool

/-- And the task. -/
structure DevState extends Devs where
  affinity : Nat → Bool
  /-- `rtems_get_current_processor()` -/
  cpu : Nat
  /-- The variable `cpuset`. -/
  cpuset : Nat → Bool
  /-- `TEST_EVENT_INTR` is pending. -/
  pending : Bool
  /-- `ctx->events` -/
  events : BitVec 32
  pc : DevPc

/-! ## §4 Statements -/

/-- The section of `init_extra_drivers` that comes with each option. -/
def Config.wdtSection (cfg : Config) : BootPc := if cfg.wdt then .wdtPin 0 else .setAffinity

def Config.rtitSection (cfg : Config) : BootPc :=
  if cfg.rtiTimer then .rtitPin 0 else cfg.wdtSection

def Config.hppsSection (cfg : Config) : BootPc :=
  if cfg.mboxHppsRtps then .mboxProbe .hppsRtps else .getAffinity

def Config.lsioSection (cfg : Config) : BootPc :=
  if cfg.mboxLsio then .mboxProbe .lsio else cfg.hppsSection

/-- What follows the section of a mailbox. -/
def Config.afterMbox (cfg : Config) : DevIdMbox → BootPc
  | .lsio => cfg.hppsSection
  | _ => .getAffinity

/-- The turn of `dev_id_mbox_for_each` after `id`. -/
def DevIdMbox.nextTurn : DevIdMbox → DownPc
  | lsio => .mboxGet .hppsTrch
  | hppsTrch => .mboxGet .hppsRtps
  | hppsRtps => .rtitPin 0

namespace DevState

def goto (s : DevState) (pc : DevPc) : DevState := { s with pc := pc }

/-- `assert(c)` -/
def assert (s : DevState) (c : Bool) (next : DevState) : DevState :=
  if c then next else s.goto .assertFailed

/-- `affinity_pin_self_to_cpu` -/
def affinityPinSelfToCpu (cfg : Config) (s : DevState) (cpu : Nat) (pc : DevPc) : DevState :=
  if cpu < cfg.processorCount then { s with affinity := fun i => i = cpu, cpu := cpu, pc := pc }
  else s.goto (.panic .badCpu)

/-- The common body of `dev_set_mbox` and `dev_cpu_set_rtit`. -/
def devSet (s : DevState) (p : Slot) (dev : Ptr) (pc : DevPc) : DevState :=
  s.assert (dev.isNone || (s.store p).isNone)
    { s with store := Function.update s.store p dev, pc := pc }

def devSetMbox (s : DevState) (id : DevIdMbox) (dev : Ptr) (pc : DevPc) : DevState :=
  s.devSet (.mbox id) dev pc

/-- `dev_cpu_set_rtit`, after `PER_CPU_DATA_GET`. -/
def devCpuSetRtit (s : DevState) (slot : Nat) (dev : Ptr) (pc : DevPc) : DevState :=
  s.devSet (.rtit slot) dev pc

/-- `dev_cpu_set_wdt`, after `PER_CPU_DATA_GET`. -/
def devCpuSetWdt (s : DevState) (slot : Nat) (dev : Ptr) (pc : DevPc) : DevState :=
  s.assert (dev.isNone || (s.wdts slot).isNone)
    { s with wdts := Function.update s.wdts slot dev, pc := pc }

/-- The mailbox a pointer leads to. -/
def withMbox (s : DevState) (m : Nat) (f : HpscMbox → DevState) : DevState :=
  match s.heap m with
  | some (.mbox mb) => f mb
  | _ => s.goto .usedFreed

/-- The timer a pointer leads to. -/
def withRtit (s : DevState) (t : Nat) (f : HpscRtiTimer → DevState) : DevState :=
  match s.heap t with
  | some (.rtit tm) => f tm
  | _ => s.goto .usedFreed

def setDev (s : DevState) (a : Nat) (d : Option Dev) : DevState :=
  { s with heap := Function.update s.heap a d }

/-- `tmr->is_started = b` -/
def setStarted (s : DevState) (t : Nat) (b : Bool) (pc : DevPc) : DevState :=
  s.withRtit t fun tm => { s.setDev t (some (.rtit { tm with isStarted := b })) with pc := pc }

end DevState

/-- The statements of `init_extra_drivers`. -/
def bootStep (cfg : Config) (s : DevState) : BootPc → Option DevState
  | .mboxUndo id m =>
    some (s.withMbox m fun mb =>
      { s with
        irqs := (handlerRemove s.irqs mb.intA.n (.mboxIsr .a m)).1
        pc := .boot (.mboxFree id m) })
  | .mboxFree _ m => some { s.setDev m none with pc := .panic .probe }
  | .mboxSet id m => some (s.devSetMbox id (some m) (.boot (cfg.afterMbox id)))
  | .getAffinity => some { s with cpuset := s.affinity, pc := .boot cfg.rtitSection }
  | .rtitPin cpu =>
    if cpu < cfg.processorCount then
      some (s.assert (cpu < namesSize) (s.affinityPinSelfToCpu cfg cpu (.boot (.rtitProbe cpu))))
    else some (s.goto (.boot cfg.wdtSection))
  | .rtitSlot cpu t => some (s.goto (.boot (.rtitSet cpu t s.cpu)))
  | .rtitSet cpu t slot => some (s.devCpuSetRtit slot (some t) (.boot (.rtitPin (cpu + 1))))
  | .wdtPin cpu =>
    if cpu < cfg.processorCount then
      some (s.assert (cpu < namesSize) (s.affinityPinSelfToCpu cfg cpu (.boot (.wdtInit cpu))))
    else some (s.goto (.boot .setAffinity))
  | .wdtInit cpu =>
    some { s with wdtReady := Function.update s.wdtReady cpu true, pc := .boot (.wdtSlot cpu) }
  | .wdtSlot cpu => some (s.goto (.boot (.wdtSet cpu s.cpu)))
  | .wdtSet cpu slot => some (s.devCpuSetWdt slot (some cpu) (.boot (.wdtPin (cpu + 1))))
  | .mboxProbe _ | .mboxInstall .. | .rtitProbe _ | .setAffinity => none

/-- `TEST_EVENTS_NUM` -/
def testEventsNum : BitVec 32 := 10#32

/-- `TEST_EVENTS_NUM_SKEW` -/
def testEventsNumSkew : BitVec 32 := 1#32

/-- The result of `do_test_events`. -/
def testEventsRc (events : BitVec 32) : TestRc :=
  if events < testEventsNum - testEventsNumSkew ∨ testEventsNum + testEventsNumSkew < events then
    .unexpectedEventCount
  else .success

/-- The statements of `test_cpu_rti_timers`. -/
def testStep (cfg : Config) (s : DevState) : TestPc → Option DevState
  | .getAffinity => some { s with cpuset := s.affinity, pc := .test (.pin 0) }
  | .pin cpu =>
    if cpu < cfg.processorCount then some (s.affinityPinSelfToCpu cfg cpu (.test (.slot cpu)))
    else some (s.goto (.test (.setAffinity .success)))
  | .slot cpu => some (s.goto (.test (.get cpu s.cpu)))
  | .get cpu slot =>
    match s.store (.rtit slot) with
    | none => some (s.goto .assertFailed)
    | some t => some { s with frames := s.frames + 1, events := 0, pc := .test (.install cpu t) }
  | .setStarted cpu t => some (s.setStarted t true (.test (.advance cpu t)))
  | .configure cpu t =>
    some (s.withRtit t fun _ => { s with events := 0, pc := .test (.receive cpu t) })
  | .check cpu t => some (s.goto (.test (.reset cpu t (testEventsRc s.events))))
  | .reset cpu t rc => some (s.withRtit t fun _ => s.goto (.test (.remove cpu t rc)))
  | .remove cpu t rc =>
    some (s.withRtit t fun tm =>
      let r := handlerRemove s.irqs tm.vec (.handleEvent s.frames)
      { s with
        irqs := r.1
        pc := if r.2 = .successful then .test (.clearStarted cpu t rc)
          else .test (.next cpu .stop) })
  | .clearStarted cpu t rc => some (s.setStarted t false (.test (.next cpu rc)))
  | .next cpu rc =>
    some (s.goto (.test (if rc = .success then .pin (cpu + 1) else .setAffinity rc)))
  | .install .. | .advance .. | .receive .. | .setAffinity _ => none

/-- The statements of `shutdown`. -/
def downStep (cfg : Config) (s : DevState) : DownPc → Option DevState
  | .mboxGet id =>
    match s.store (.mbox id) with
    | none => some (s.goto (.down id.nextTurn))
    | some m => some (s.goto (.down (.mboxUnset id m)))
  | .mboxUnset id m => some (s.devSetMbox id none (.down (.mboxRemove id m .a)))
  | .mboxRemove id m line =>
    some (s.withMbox m fun mb =>
      let r := handlerRemove s.irqs (line.info mb).n (.mboxIsr line m)
      s.assert (r.2 = .successful)
        { s with
          irqs := r.1
          pc := .down (match line with
            | .a => .mboxRemove id m .b
            | .b => .mboxFree id m) })
  | .mboxFree id m => some { s.setDev m none with pc := .down id.nextTurn }
  | .rtitPin cpu =>
    if cpu < cfg.processorCount then some (s.affinityPinSelfToCpu cfg cpu (.down (.rtitSlot cpu)))
    else some (s.goto (.down (.wdtPin 0)))
  | .rtitSlot cpu => some (s.goto (.down (.rtitGet cpu s.cpu)))
  | .rtitGet cpu slot =>
    match s.store (.rtit slot) with
    | none => some (s.goto (.down (.rtitPin (cpu + 1))))
    | some t => some (s.goto (.down (.rtitUnsetSlot cpu t)))
  | .rtitUnsetSlot cpu t => some (s.goto (.down (.rtitUnset cpu t s.cpu)))
  | .rtitUnset cpu t slot => some (s.devCpuSetRtit slot none (.down (.rtitRemove cpu t)))
  | .rtitRemove cpu t =>
    some (s.withRtit t fun tm =>
      if tm.isStarted then s.goto (.panic .rtitRemove)
      else { s.setDev t none with pc := .down (.rtitPin (cpu + 1)) })
  | .wdtPin cpu =>
    if cpu < cfg.processorCount then some (s.affinityPinSelfToCpu cfg cpu (.down (.wdtSlot cpu)))
    else some (s.goto .exited)
  | .wdtSlot cpu => some (s.goto (.down (.wdtGet cpu s.cpu)))
  | .wdtGet cpu slot =>
    match s.wdts slot with
    | none => some (s.goto (.down (.wdtPin (cpu + 1))))
    | some w => some (s.goto (.down (.wdtUnsetSlot cpu w)))
  | .wdtUnsetSlot cpu w => some (s.goto (.down (.wdtUnset cpu w s.cpu)))
  | .wdtUnset cpu w slot => some (s.devCpuSetWdt slot none (.down (.wdtUninit cpu w)))
  | .wdtUninit cpu w =>
    some { s with
      wdtReady := Function.update s.wdtReady w false
      pc := .down (.wdtPin (cpu + 1)) }

/-! ## §5 Steps -/

inductive DevCall where
  /-- `test_cpu_rti_timers` -/
  | test
  | shutdown
  deriving DecidableEq

inductive DevAct where
  /-- The task executes its next statement. -/
  | ctl
  /-- `malloc` returns `a`, with the contents `mem`. -/
  | malloc (a : Option Nat) (mem : Fin channels → HpscMboxChan)
  /-- `rtems_interrupt_handler_install` returns `sc`. -/
  | install (sc : StatusCode)
  /-- `rtems_task_set_affinity(RTEMS_SELF, .., &cpuset)`, after which the task
  executes on `cpu`. -/
  | setAffinity (cpu : Nat)
  /-- `do_test_advance` captures the counts. -/
  | advance (count count2 : BitVec 64)
  /-- `rtems_event_receive` in `do_test_events` times out. -/
  | timeout
  | wake
  /-- The task is moved to `cpu`. -/
  | migrate (cpu : Nat)
  /-- An interrupt of the vector `v` is served. -/
  | irq (v : Nat)
  /-- The rest of the system installs or removes its handlers of the vector. -/
  | others (v : Nat) (installed : Bool)
  /-- The rest of the system sends the event to the task. -/
  | othersEvent
  | call (c : DevCall)

/-- `malloc`, and what follows it in a probe. -/
def mallocStep (cfg : Config) (s : DevState) (a : Option Nat)
    (mem : Fin channels → HpscMboxChan) : Option DevState :=
  match s.pc, a with
  | .boot (.mboxProbe _), none | .boot (.rtitProbe _), none => some (s.goto (.panic .probe))
  | .boot (.mboxProbe id), some a =>
    if (s.heap a).isNone then
      let mb := hpscMboxInit mem (cfg.mboxBase id) (cfg.mboxInt id .a) (cfg.mboxInt id .b)
      some { s.setDev a (some (.mbox mb)) with pc := .boot (.mboxInstall id a .a) }
    else none
  | .boot (.rtitProbe cpu), some a =>
    if (s.heap a).isNone then
      some { s.setDev a (some (.rtit ⟨cfg.rtitBases cpu, cfg.rtitVec, false⟩)) with
        pc := .boot (.rtitSlot cpu a) }
    else none
  | _, _ => none

/-- The installation of a handler. -/
def installStep (cfg : Config) (s : DevState) (sc : StatusCode) : Option DevState :=
  match s.pc with
  | .boot (.mboxInstall id m line) =>
    (handlerInstall s.irqs (cfg.mboxInt id line).n (.mboxIsr line m) sc).map fun irqs =>
      { s with
        irqs := irqs
        pc := .boot (match line with
          | .a => if sc = .successful then .mboxInstall id m .b else .mboxFree id m
          | .b => if sc = .successful then .mboxSet id m else .mboxUndo id m) }
  | .test (.install cpu t) =>
    match s.heap t with
    | some (.rtit tm) =>
      (handlerInstall s.irqs tm.vec (.handleEvent s.frames) sc).map fun irqs =>
        { s with
          irqs := irqs
          pc := .test (if sc = .successful then .setStarted cpu t else .next cpu .start) }
    | _ => some (s.goto .usedFreed)
  | _ => none

/-- `rtems_task_set_affinity` with the affinity saved before. -/
def setAffinityStep (cfg : Config) (s : DevState) (cpu : Nat) : Option DevState :=
  if s.cpuset cpu = true ∧ cpu < cfg.processorCount then
    match s.pc with
    | .boot .setAffinity | .test (.setAffinity _) =>
      some { s with affinity := s.cpuset, cpu := cpu, pc := .idle }
    | _ => none
  else none

/-- The handlers of a vector. -/
def irqStep (s : DevState) (v : Nat) : DevState :=
  match s.irqs v with
  | none | some .other => s
  | some (.mboxIsr _ m) =>
    match s.heap m with
    | some (.mbox _) => s
    | _ => { s with fault := true }
  | some (.handleEvent frame) =>
    if frame = s.frames ∧ s.pc.inDevice = true then
      { s with events := s.events + 1, pending := s.pending || s.events + 1 == testEventsNum }
    else { s with fault := true }

def devCallPc : DevCall → DevPc
  | .test => .test .getAffinity
  | .shutdown => .down (.mboxGet .lsio)

/-- One step of the system. -/
def devStep (cfg : Config) (s : DevState) (a : DevAct) : Option DevState :=
  if s.pc.halted then none
  else
    match a with
    | .ctl =>
      match s.pc with
      | .boot b => bootStep cfg s b
      | .test t => testStep cfg s t
      | .down d => downStep cfg s d
      | _ => none
    | .malloc a mem => mallocStep cfg s a mem
    | .install sc => installStep cfg s sc
    | .setAffinity cpu => setAffinityStep cfg s cpu
    | .advance count count2 =>
      match s.pc with
      | .test (.advance cpu t) =>
        some (s.withRtit t fun _ =>
          s.goto (.test (if count2 ≤ count then .reset cpu t .noAdvance else .configure cpu t)))
      | _ => none
    | .timeout =>
      match s.pc with
      | .test (.receive cpu t) => if s.pending then none else some (s.goto (.test (.check cpu t)))
      | _ => none
    | .wake =>
      match s.pc with
      | .test (.receive cpu t) =>
        if s.pending then some { s with pending := false, pc := .test (.check cpu t) } else none
      | _ => none
    | .migrate cpu =>
      if s.affinity cpu = true ∧ cpu < cfg.processorCount then some { s with cpu := cpu } else none
    | .irq v => some (irqStep s v)
    | .others v installed =>
      if s.irqs v = none ∨ s.irqs v = some .other then
        some { s with
          irqs := Function.update s.irqs v (if installed then some .other else none) }
      else none
    | .othersEvent => some { s with pending := true }
    | .call c => if s.pc = .idle then some (s.goto (devCallPc c)) else none

/-- Where `init_extra_drivers` begins: the handlers of others are installed,
and the task executes on `cpu`. -/
def DevState.start (cfg : Config) (others : Nat → Bool) (affinity : Nat → Bool) (cpu : Nat) :
    DevState where
  irqs v := if others v then some .other else none
  heap _ := none
  store _ := none
  wdts _ := none
  wdtReady _ := false
  frames := 0
  fault := false
  affinity := affinity
  cpu := cpu
  cpuset _ := false
  pending := false
  events := 0
  pc := .boot cfg.lsioSection

end HpscRtems.Devices
