/-
HpscRtems.Devices.DriversTheorems — the devices over whole runs, from
`init_extra_drivers` to the end of `shutdown`.

  §1 in every run no interrupt finds freed memory, no assertion fails, and
     only a failed probe ends in a panic;
  §2 between the calls the store has the devices that are configured, each
     processor its own, with the handlers of the mailboxes and no other, and
     `shutdown` comes to its end and leaves nothing.
-/
import HpscRtems.Devices.Points

namespace HpscRtems.Devices

open Machine Rtems Mbox

variable {cfg : Config} {d : Devs} {aff : Nat → Bool} {s s' : DevState}

/-! ## §1 Runs -/

/-- A migration keeps what the task knows. -/
theorem migrate_ctl {pc : DevPc} {c : Nat} (hctl : pc.Ctl cfg aff s) (hc : s.affinity c = true) :
    pc.Ctl cfg aff { s with cpu := c } := by
  have hpin : ∀ {k}, Pinned cfg s.affinity s.cpu k → Pinned cfg s.affinity c k :=
    fun hp => ⟨hp.affinity, hp.affinity c hc, hp.lt⟩
  cases pc with
  | boot b => cases b <;> simp_all [DevPc.Ctl, BootPc.Ctl]
  | test t => cases t <;> simp_all [DevPc.Ctl, TestPc.Ctl]
  | down p => cases p <;> simp_all [DevPc.Ctl, DownPc.Ctl]
  | idle => exact hctl
  | exited => trivial
  | panic why | assertFailed | usedFreed => exact hctl

/-- What the task knows is about itself and its slots. -/
theorem DevPc.Ctl.of_eq {pc : DevPc} (h : pc.Ctl cfg aff s) (hst : s'.store = s.store)
    (ha : s'.affinity = s.affinity) (hc : s'.cpu = s.cpu) (hset : s'.cpuset = s.cpuset) :
    pc.Ctl cfg aff s' := by
  cases pc with
  | boot b => cases b <;> simp_all [DevPc.Ctl, BootPc.Ctl]
  | test t => cases t <;> simp_all [DevPc.Ctl, TestPc.Ctl]
  | down p => cases p <;> simp_all [DevPc.Ctl, DownPc.Ctl]
  | idle => simp_all [DevPc.Ctl]
  | exited => trivial
  | panic why | assertFailed | usedFreed => exact h

/-- An interrupt finds what its handler uses. -/
theorem irq_good (hg : Good cfg aff s) (v : Nat) : Good cfg aff (irqStep s v) := by
  unfold irqStep
  split
  · exact hg
  · exact hg
  · rename_i line m hv
    obtain ⟨mb, hm, -⟩ := (hg.stands.isr line v m).mp hv
    rw [hm]
    exact hg
  · rename_i f hv
    obtain ⟨rfl, t, tm, hh, -⟩ := (hg.stands.event v f).mp hv
    have hin : s.pc.inDevice = true := by
      cases hpc : s.pc with
      | test p => rw [hpc] at hh; cases p <;> first | rfl | cases hh
      | boot b => rw [hpc] at hh; cases b with
        | mboxInstall id m line => cases line <;> cases hh
        | _ => cases hh
      | down p => rw [hpc] at hh; cases p with
        | mboxRemove id m line => cases line <;> cases hh
        | _ => cases hh
      | _ => rw [hpc] at hh; cases hh
    rw [if_pos ⟨rfl, hin⟩]
    exact ⟨hg.stands, hg.ctl.of_eq rfl rfl rfl rfl⟩

/-- Tests of the timers are called only where there are timers. -/
def TestsConfigured (cfg : Config) (_ : DevState) (a : DevAct) : Prop :=
  match a with
  | .call .test => cfg.rtiTimer = true
  | _ => True

instance TestsConfigured.instDecidable (cfg : Config) (s : DevState) :
    ∀ a, Decidable (TestsConfigured cfg s a)
  | .call .test => inferInstanceAs (Decidable (cfg.rtiTimer = true))
  | .call .shutdown | .ctl | .malloc .. | .install _ | .setAffinity _ | .advance .. | .timeout
  | .wake | .migrate _ | .irq _ | .others .. | .othersEvent => isTrue trivial

/-- Every step keeps the state good, or ends in a failed probe. -/
theorem devStep_ends {a : DevAct} (hn : cfg.processorCount ≤ namesSize) (hi : Ends cfg aff s)
    (hc : TestsConfigured cfg s a) (h : devStep cfg s a = some s') : Ends cfg aff s' := by
  rcases hi with hg | hf
  · unfold devStep at h
    split at h
    · cases h
    · cases a with
      | ctl =>
        simp only at h
        split at h
        · exact boot_good hn ‹_› hg h
        · exact .inl (test_good ‹_› hg h)
        · exact .inl (down_good ‹_› hg h)
        · cases h
      | malloc a mem => exact malloc_good hg h
      | install sc => exact install_good hg h
      | setAffinity cpu =>
        simp only [setAffinityStep] at h
        split at h
        · split at h
          · rename_i hpc
            cases h
            have hst := hg.stands
            have hctl := hg.ctl
            rw [hpc] at hst hctl
            exact .inl ⟨hst, hctl⟩
          · rename_i hpc
            cases h
            have hst := hg.stands
            have hctl := hg.ctl
            rw [hpc] at hst hctl
            exact .inl ⟨hst, hctl⟩
          · cases h
        · cases h
      | advance count count2 =>
        simp only at h
        split at h
        · rename_i c t hpc
          have hst := hg.stands
          have hctl := hg.ctl
          rw [hpc] at hst hctl
          obtain ⟨hset, hr, hpin, hslot⟩ := hctl
          obtain ⟨tm, htm, -⟩ := hst.rtit c t (.inl hslot)
          simp only [withRtit_of htm, Option.some.injEq] at h
          subst h
          split
          · exact .inl ⟨hst, hset, hr, hpin, hslot⟩
          · exact .inl ⟨hst, hset, hr, hpin, hslot⟩
        · cases h
      | timeout =>
        simp only at h
        split at h
        · rename_i c t hpc
          have hst := hg.stands
          have hctl := hg.ctl
          rw [hpc] at hst hctl
          split at h <;> cases h
          exact .inl ⟨hst, hctl⟩
        · cases h
      | wake =>
        simp only at h
        split at h
        · rename_i c t hpc
          have hst := hg.stands
          have hctl := hg.ctl
          rw [hpc] at hst hctl
          split at h <;> cases h
          exact .inl ⟨hst, hctl⟩
        · cases h
      | migrate cpu =>
        simp only at h
        split at h <;> cases h
        rename_i hcpu
        exact .inl ⟨hg.stands, migrate_ctl hg.ctl hcpu.1⟩
      | irq v =>
        cases h
        exact .inl (irq_good hg v)
      | others v installed =>
        simp only at h
        split at h <;> cases h
        exact .inl ⟨hg.stands.others ‹_› installed, hg.ctl.of_eq rfl rfl rfl rfl⟩
      | othersEvent =>
        cases h
        exact .inl ⟨hg.stands, hg.ctl.of_eq rfl rfl rfl rfl⟩
      | call c =>
        simp only at h
        split at h <;> cases h
        rename_i hpc
        have hst := hg.stands
        have hctl := hg.ctl
        rw [hpc] at hst hctl
        cases c with
        | test => exact .inl ⟨hst, hctl, hc⟩
        | shutdown => exact .inl ⟨hst, trivial⟩
  · simp [devStep, hf.pc, DevPc.halted] at h

theorem stands_start (others affinity : Nat → Bool) (cpu : Nat) :
    Stands cfg (DevState.start cfg others affinity cpu).toDevs (.boot 0 0 0) where
  owned := Registry.owned_empty _ fun _ => rfl
  fits p a h := by
    rcases h with h | h <;> cases h
  isr line v m := by
    simp only [DevState.start]
    split <;> simp
  event v f := by
    simp only [DevState.start]
    split <;> simp [View.boot]
  started t tm h := by cases h
  filled p := by
    cases p with
    | mbox id => simp [DevState.start, Config.Has, View.boot, Within]
    | rtit c => simp [DevState.start, Config.Has, View.boot, Within]
  wdts c x := by simp [DevState.start, View.boot, Within]
  ready c := by simp [DevState.start, View.boot, Within]
  fault := rfl

theorem Stands.lsioSection (h : Stands cfg d (.boot 0 0 0)) :
    Stands cfg d (cfg.lsioSection.view cfg.processorCount) := by
  unfold Config.lsioSection
  split
  · exact h
  · rename_i hnot
    refine Stands.hppsSection (h.boot_view (fun id hid => ?_) (fun _ _ => Iff.rfl)
      fun _ _ => Iff.rfl)
    cases id with
    | lsio => exact absurd hid hnot
    | hppsTrch | hppsRtps => decide

theorem good_start (others affinity : Nat → Bool) (cpu : Nat) :
    Good cfg affinity (DevState.start cfg others affinity cpu) where
  stands := (stands_start others affinity cpu).lsioSection
  ctl := by
    show cfg.lsioSection.Ctl cfg affinity (DevState.start cfg others affinity cpu)
    unfold Config.lsioSection
    split
    · exact ⟨rfl, ‹_›⟩
    · exact ctl_hppsSection rfl

/-- Every run keeps the state good, or ends in a failed probe. -/
theorem devices_ends (hn : cfg.processorCount ≤ namesSize) {others affinity : Nat → Bool}
    {cpu : Nat} {as : List DevAct}
    (hG : Along (devStep cfg) (TestsConfigured cfg) (DevState.start cfg others affinity cpu) as)
    (h : exec (devStep cfg) (DevState.start cfg others affinity cpu) as = some s) :
    Ends cfg affinity s :=
  exec_invariant (fun _ _ _ hi hc hs => devStep_ends hn hi hc hs)
    (.inl (good_start others affinity cpu)) hG h

/-- Two processors, with everything configured. -/
abbrev twoCpus : Config where
  mboxLsio := true
  mboxHppsRtps := true
  rtiTimer := true
  wdt := true
  processorCount := 2
  mboxBase id := 0x1000 * (id.toNat + 1)
  mboxInt id line := if line = .a then ⟨32 + 2 * id.toNat, 0⟩ else ⟨33 + 2 * id.toNat, 1⟩
  rtitBases c := 0x100 * c
  rtitVec := 24

/-- The contents of a block that `malloc` returns. -/
def blankChans (i : Fin channels) : HpscMboxChan :=
  ⟨0, i.val, ⟨none, none⟩, ⟨none, none⟩, 0#8, 0#8, 0#8, false⟩

/-- `init_extra_drivers`, with an interrupt of a mailbox before the second is there. -/
def bootRun : List DevAct :=
  [.malloc (some 1) blankChans, .install .successful, .install .successful, .ctl, .irq 32,
    .malloc (some 2) blankChans, .install .successful, .install .successful, .ctl, .ctl] ++
  [.ctl, .malloc (some 3) blankChans, .ctl, .ctl, .ctl, .malloc (some 4) blankChans, .ctl, .ctl,
    .ctl] ++
  List.replicate 9 .ctl ++ [.setAffinity 0]

/-- The test of one timer, whose handler is called `k` times. -/
def deviceRun (k : Nat) : List DevAct :=
  List.replicate 3 .ctl ++ [.install .successful, .ctl, .advance 1#64 2#64, .ctl] ++
    List.replicate k (.irq 24) ++ [if k = 10 then .wake else .timeout] ++ List.replicate 5 .ctl

/-- A `test_cpu_rti_timers` in which an interrupt of the second timer is missed. -/
def timersRun : List DevAct :=
  [.call .test, .ctl] ++ deviceRun 10 ++ deviceRun 9 ++ [.ctl, .setAffinity 1]

abbrev twoCpusStart : DevState :=
  DevState.start twoCpus (fun _ => false) (fun _ => true) 0

/-- **No interrupt finds freed memory.** From the start of
`init_extra_drivers` to the end of `shutdown`, whatever fails, whatever
interrupts come and wherever the task is moved, no handler uses a mailbox
that is freed or a `ctx` whose function has returned, no assertion fails,
the task follows no pointer to freed memory, and only a failed probe panics. -/
theorem devices_safe (cfg : Config) (hn : cfg.processorCount ≤ namesSize)
    (others affinity : Nat → Bool) (cpu : Nat) (as : List DevAct) (s : DevState)
    (hG : Along (devStep cfg) (TestsConfigured cfg) (DevState.start cfg others affinity cpu) as)
    (h : exec (devStep cfg) (DevState.start cfg others affinity cpu) as = some s) :
    s.fault = false ∧ s.pc ≠ .assertFailed ∧ s.pc ≠ .usedFreed ∧
      ∀ why, s.pc = .panic why → why = .probe := by
  rcases devices_ends hn hG h with hg | hf
  · have hctl := hg.ctl
    refine ⟨hg.stands.fault, fun hpc => ?_, fun hpc => ?_, fun why hpc => ?_⟩
    · rw [hpc] at hctl
      exact hctl
    · rw [hpc] at hctl
      exact hctl
    · rw [hpc] at hctl
      exact hctl.elim
  · refine ⟨hf.fault, by rw [hf.pc]; simp, by rw [hf.pc]; simp, fun why hpc => ?_⟩
    rw [hf.pc] at hpc
    cases hpc
    rfl

set_option maxRecDepth 4000 in
theorem deviceRun_safe : ∃ s, exec (devStep twoCpus) twoCpusStart
    (bootRun ++ [.call .test, .ctl] ++ (deviceRun 10).take 12) = some s ∧ s.fault = false ∧
      s.irqs 24 = some (.handleEvent 1) := by
  have hrun : ∃ s ∈ exec (devStep twoCpus) twoCpusStart
      (bootRun ++ [.call .test, .ctl] ++ (deviceRun 10).take 12),
      s.irqs 24 = some (.handleEvent 1) := by
    decide
  obtain ⟨s, hs, hirq⟩ := hrun
  exact ⟨s, hs, (devices_safe twoCpus (by decide) _ _ 0
    (bootRun ++ [.call .test, .ctl] ++ (deviceRun 10).take 12) s (by decide) hs).1, hirq⟩

/-! ## §2 Between the calls, and after the last -/

/-- The slot is one that `init_extra_drivers` fills. -/
def Config.Fills (cfg : Config) : Slot → Prop
  | .mbox id => cfg.mbox id = true
  | .rtit c => cfg.rtiTimer = true ∧ c < cfg.processorCount

/-- The devices are as they were configured, and there are no others. -/
structure Settled (cfg : Config) (affinity : Nat → Bool) (s : DevState) : Prop where
  filled : ∀ p, (s.store p).isSome = true ↔ cfg.Fills p
  mbox : ∀ id, cfg.mbox id = true → ∃ m mb, s.store (.mbox id) = some m ∧
    s.heap m = some (.mbox mb) ∧
    ∀ line : Line, line.info mb = cfg.mboxInt id line ∧
      s.irqs (line.info mb).n = some (.mboxIsr line m)
  /-- Each processor has its own timer, and it is not started. -/
  rtit : cfg.rtiTimer = true → ∀ c, c < cfg.processorCount → ∃ t,
    s.store (.rtit c) = some t ∧
    s.heap t = some (.rtit ⟨cfg.rtitBases c, cfg.rtitVec, false⟩)
  /-- And its own watchdog. -/
  wdts : ∀ c x, s.wdts c = some x ↔ x = c ∧ cfg.wdt = true ∧ c < cfg.processorCount
  wdtReady : ∀ c, s.wdtReady c = true ↔ cfg.wdt = true ∧ c < cfg.processorCount
  noLeak : ∀ a, s.heap a ≠ none → ∃ p, s.store p = some a
  noSharing : ∀ p q a, s.store p = some a → s.store q = some a → p = q
  /-- A handler of a mailbox is at the mailbox's own vector. -/
  handlers : ∀ v i, s.irqs v = some i → i = .other ∨
    ∃ line m mb id, i = .mboxIsr line m ∧ s.store (.mbox id) = some m ∧
      s.heap m = some (.mbox mb) ∧ (line.info mb).n = v
  affinity : s.affinity = affinity

/-- Nothing is left. -/
structure Removed (s : DevState) : Prop where
  store : ∀ p, s.store p = none
  heap : ∀ a, s.heap a = none
  handlers : ∀ v i, s.irqs v = some i → i = .other
  wdts : ∀ c, s.wdts c = none ∧ s.wdtReady c = false

theorem Good.settled (hg : Good cfg aff s) (hpc : s.pc = .idle) : Settled cfg aff s := by
  obtain ⟨hst, hctl⟩ := hg
  rw [hpc] at hst hctl
  have hfilled : ∀ p, (s.store p).isSome = true ↔ cfg.Fills p := fun p => by
    rw [hst.filled p]
    cases p with
    | mbox id => exact and_iff_left ⟨Nat.zero_le _, id.toNat_lt⟩
    | rtit c => exact and_congr_right fun _ => and_iff_right (Nat.zero_le _)
  refine
    { filled := hfilled
      mbox := fun id hid => ?_
      rtit := fun hr c hc => ?_
      wdts := fun c x => ?_
      wdtReady := fun c => ?_
      noLeak := fun a ha => ?_
      noSharing := hst.owned.inj
      handlers := fun v i hi => ?_
      affinity := hctl }
  · obtain ⟨m, hm⟩ := Option.isSome_iff_exists.mp ((hfilled (.mbox id)).mpr hid)
    obtain ⟨mb, hmb, hinfo⟩ := hst.mbox id m (.inl hm)
    refine ⟨m, mb, hm, hmb, fun line => ⟨hinfo line, ?_⟩⟩
    exact (hst.isr line _ m).mpr ⟨mb, hmb, rfl, by simp [DevPc.view, View.boot]⟩
  · obtain ⟨t, ht⟩ := Option.isSome_iff_exists.mp ((hfilled (.rtit c)).mpr ⟨hr, hc⟩)
    obtain ⟨tm, htm, hbase, hvec⟩ := hst.rtit c t (.inl ht)
    have hstop : tm.isStarted = false := by
      cases hb : tm.isStarted with
      | false => rfl
      | true =>
        have := (hst.started t tm htm).mp hb
        cases this
    refine ⟨t, ht, ?_⟩
    rw [htm, ← hbase, ← hvec, ← hstop]
  · rw [hst.wdts c x]
    exact and_congr_right fun _ => and_congr_right fun _ => and_iff_right (Nat.zero_le _)
  · rw [hst.ready c]
    exact and_congr_right fun _ => and_iff_right (Nat.zero_le _)
  · rcases hst.owned.owner a (Option.isSome_iff_ne_none.mpr ha) with hh | hp
    · cases hh
    · exact hp
  · cases i with
    | other => exact .inl rfl
    | mboxIsr line m =>
      obtain ⟨mb, hm, hv, -⟩ := (hst.isr line v m).mp hi
      rcases hst.owned.owner m (by rw [show Registry.heap _ m = _ from hm]; rfl) with hh | ⟨p, hp⟩
      · cases hh
      · cases p with
        | mbox id => exact .inr ⟨line, m, mb, id, rfl, hp, hm, hv⟩
        | rtit c =>
          obtain ⟨tm, htm, -⟩ := hst.rtit c m (.inl hp)
          rw [hm] at htm
          cases htm
    | handleEvent f =>
      obtain ⟨-, t, tm, hh, -⟩ := (hst.event v f).mp hi
      cases hh

theorem Good.removed (hg : Good cfg aff s) (hpc : s.pc = .exited) : Removed s := by
  obtain ⟨hst, -⟩ := hg
  rw [hpc] at hst
  have hstore : ∀ p, s.store p = none := fun p => hst.empty fun hhas => by
    cases p with
    | mbox id => exact absurd id.toNat_lt (Nat.not_lt.mpr hhas.2.1)
    | rtit c => exact absurd hhas.2.2 (Nat.not_lt.mpr hhas.2.1)
  have hheap : ∀ a, s.heap a = none := hst.owned.empty_of rfl hstore
  refine ⟨hstore, hheap, fun v i hi => ?_, fun c => ⟨?_, ?_⟩⟩
  · cases i with
    | other => rfl
    | mboxIsr line m =>
      obtain ⟨mb, hm, -⟩ := (hst.isr line v m).mp hi
      rw [hheap m] at hm
      cases hm
    | handleEvent f =>
      obtain ⟨-, t, tm, hh, -⟩ := (hst.event v f).mp hi
      cases hh
  · cases hw : s.wdts c with
    | none => rfl
    | some x =>
      have := ((hst.wdts c x).mp hw).2.2
      exact absurd this.2 (Nat.not_lt.mpr this.1)
  · cases hr : s.wdtReady c with
    | false => rfl
    | true =>
      have := ((hst.ready c).mp hr).2
      exact absurd this.2 (Nat.not_lt.mpr this.1)

/-- **Between the calls** everything stands as configured, whatever the
tests of the timers did, found or failed to do. -/
theorem devices_settled (cfg : Config) (hn : cfg.processorCount ≤ namesSize)
    (others affinity : Nat → Bool) (cpu : Nat) (as : List DevAct) (s : DevState)
    (hG : Along (devStep cfg) (TestsConfigured cfg) (DevState.start cfg others affinity cpu) as)
    (h : exec (devStep cfg) (DevState.start cfg others affinity cpu) as = some s)
    (hpc : s.pc = .idle) : Settled cfg affinity s := by
  rcases devices_ends hn hG h with hg | hf
  · exact hg.settled hpc
  · rw [hf.pc] at hpc
    cases hpc

set_option maxRecDepth 4000 in
theorem timersRun_settled : ∃ s, exec (devStep twoCpus) twoCpusStart (bootRun ++ timersRun) =
    some s ∧ Settled twoCpus (fun _ => true) s := by
  have hrun : ∃ s ∈ exec (devStep twoCpus) twoCpusStart (bootRun ++ timersRun), s.pc = .idle := by
    decide
  obtain ⟨s, hs, hpc⟩ := hrun
  exact ⟨s, hs, devices_settled twoCpus (by decide) _ _ 0 (bootRun ++ timersRun) s (by decide) hs
    hpc⟩

/-- The statements that are left, at most. -/
def DownPc.rank (n : Nat) : DownPc → Nat
  | .mboxGet id => 12 * n + 2 + 5 * (3 - id.toNat)
  | .mboxUnset id _ => 12 * n + 1 + 5 * (3 - id.toNat)
  | .mboxRemove id _ .a => 12 * n + 5 * (3 - id.toNat)
  | .mboxRemove id _ .b => 12 * n + 5 * (3 - id.toNat) - 1
  | .mboxFree id _ => 12 * n + 5 * (3 - id.toNat) - 2
  | .rtitPin c => 6 * n + 1 + 6 * (n - c) + 1
  | .rtitSlot c => 6 * n + 1 + 6 * (n - c)
  | .rtitGet c _ => 6 * n + 6 * (n - c)
  | .rtitUnsetSlot c _ => 6 * n + 6 * (n - c) - 1
  | .rtitUnset c _ _ => 6 * n + 6 * (n - c) - 2
  | .rtitRemove c _ => 6 * n + 6 * (n - c) - 3
  | .wdtPin c => 6 * (n - c) + 1
  | .wdtSlot c => 6 * (n - c)
  | .wdtGet c _ => 6 * (n - c) - 1
  | .wdtUnsetSlot c _ => 6 * (n - c) - 2
  | .wdtUnset c _ _ => 6 * (n - c) - 3
  | .wdtUninit c _ => 6 * (n - c) - 4

/-- The task has gone on, with fewer statements left. -/
def Closer (n : Nat) (p : DownPc) (s : DevState) : Prop :=
  s.pc = .exited ∨ ∃ p', s.pc = .down p' ∧ p'.rank n < p.rank n

theorem nextTurn_rank (n : Nat) (id : DevIdMbox) :
    id.nextTurn.rank n < 12 * n + 5 * (3 - id.toNat) - 2 := by
  cases id <;> simp only [DevIdMbox.nextTurn, DownPc.rank, DevIdMbox.toNat] <;> omega

/-- In `shutdown` a next statement is always there. -/
theorem down_closer {p : DownPc} (hpc : s.pc = .down p) (hg : Good cfg aff s) :
    ∃ s', downStep cfg s p = some s' ∧ Closer cfg.processorCount p s' := by
  obtain ⟨hst, hctl⟩ := hg
  rw [hpc] at hst hctl
  cases p with
  | mboxGet id =>
    have hlt := id.toNat_lt
    simp only [downStep]
    split
    · refine ⟨_, rfl, .inr ⟨_, rfl, Nat.lt_trans (nextTurn_rank cfg.processorCount id) ?_⟩⟩
      simp only [DownPc.rank]
      omega
    · refine ⟨_, rfl, .inr ⟨_, rfl, ?_⟩⟩
      simp only [DownPc.rank]
      omega
  | mboxUnset id m =>
    refine ⟨_, rfl, .inr ⟨.mboxRemove id m .a, rfl, ?_⟩⟩
    simp only [DownPc.rank]
    omega
  | mboxRemove id m line =>
    have hlt := id.toNat_lt
    obtain ⟨mb, hm, -⟩ := hst.mbox id m (.inr (by cases line <;> rfl))
    have hin : s.irqs (line.info mb).n = some (.mboxIsr line m) := by
      refine (hst.isr line _ m).mpr ⟨mb, hm, rfl, ?_⟩
      cases line <;> simp [DevPc.view, DownPc.view, View.down, lacksOnly]
    simp only [downStep, withMbox_of hm, handlerRemove_of hin, DevState.assert, decide_true,
      if_true]
    refine ⟨_, rfl, .inr ⟨_, rfl, ?_⟩⟩
    cases line with
    | a | b =>
      simp only [DownPc.rank]
      omega
  | mboxFree id m => exact ⟨_, rfl, .inr ⟨_, rfl, nextTurn_rank cfg.processorCount id⟩⟩
  | rtitPin c =>
    simp only [downStep]
    split
    · rename_i hlt
      simp only [DevState.affinityPinSelfToCpu, hlt, if_true]
      refine ⟨_, rfl, .inr ⟨_, rfl, ?_⟩⟩
      simp only [DownPc.rank]
      omega
    · refine ⟨_, rfl, .inr ⟨.wdtPin 0, rfl, ?_⟩⟩
      simp only [DownPc.rank]
      omega
  | rtitSlot c =>
    have hlt := Pinned.lt hctl
    refine ⟨_, rfl, .inr ⟨.rtitGet c s.cpu, rfl, ?_⟩⟩
    simp only [DownPc.rank]
    omega
  | rtitGet c k =>
    have hlt := hctl.1.lt
    simp only [downStep]
    split
    · refine ⟨_, rfl, .inr ⟨.rtitPin (c + 1), rfl, ?_⟩⟩
      simp only [DownPc.rank]
      omega
    · refine ⟨_, rfl, .inr ⟨_, rfl, ?_⟩⟩
      simp only [DownPc.rank]
      omega
  | rtitUnsetSlot c t =>
    have hlt := hctl.1.lt
    refine ⟨_, rfl, .inr ⟨.rtitUnset c t s.cpu, rfl, ?_⟩⟩
    simp only [DownPc.rank]
    omega
  | rtitUnset c t k =>
    have hlt := hctl.1.lt
    refine ⟨_, rfl, .inr ⟨.rtitRemove c t, rfl, ?_⟩⟩
    simp only [DownPc.rank]
    omega
  | rtitRemove c t =>
    have hlt := Pinned.lt hctl
    obtain ⟨tm, htm, -⟩ := hst.rtit c t (.inr rfl)
    have hnot : ¬ tm.isStarted = true := fun he => by
      have := (hst.started t tm htm).mp he
      cases this
    simp only [downStep, withRtit_of htm, hnot]
    refine ⟨_, rfl, .inr ⟨.rtitPin (c + 1), rfl, ?_⟩⟩
    simp only [DownPc.rank]
    omega
  | wdtPin c =>
    simp only [downStep]
    split
    · rename_i hlt
      simp only [DevState.affinityPinSelfToCpu, hlt, if_true]
      refine ⟨_, rfl, .inr ⟨_, rfl, ?_⟩⟩
      simp only [DownPc.rank]
      omega
    · exact ⟨_, rfl, .inl rfl⟩
  | wdtSlot c =>
    have hlt := Pinned.lt hctl
    refine ⟨_, rfl, .inr ⟨.wdtGet c s.cpu, rfl, ?_⟩⟩
    simp only [DownPc.rank]
    omega
  | wdtGet c k =>
    have hlt := hctl.1.lt
    simp only [downStep]
    split
    · refine ⟨_, rfl, .inr ⟨.wdtPin (c + 1), rfl, ?_⟩⟩
      simp only [DownPc.rank]
      omega
    · refine ⟨_, rfl, .inr ⟨_, rfl, ?_⟩⟩
      simp only [DownPc.rank]
      omega
  | wdtUnsetSlot c x =>
    have hlt := hctl.1.lt
    refine ⟨_, rfl, .inr ⟨.wdtUnset c x s.cpu, rfl, ?_⟩⟩
    simp only [DownPc.rank]
    omega
  | wdtUnset c x k =>
    have hlt := hctl.1.lt
    refine ⟨_, rfl, .inr ⟨.wdtUninit c x, rfl, ?_⟩⟩
    simp only [DownPc.rank]
    omega
  | wdtUninit c x =>
    have hlt := hctl.1.lt
    refine ⟨_, rfl, .inr ⟨.wdtPin (c + 1), rfl, ?_⟩⟩
    simp only [DownPc.rank]
    omega

/-- The statements that are left lead to the end of `shutdown`. -/
theorem down_exits {n : Nat} : ∀ {s : DevState} {p : DownPc}, s.pc = .down p → Good cfg aff s →
    p.rank cfg.processorCount ≤ n → ∃ k t, exec (devStep cfg) s (List.replicate k .ctl) = some t ∧
      t.pc = .exited ∧ Good cfg aff t := by
  induction n with
  | zero =>
    intro s p hpc hg hle
    obtain ⟨s', hs', hcl⟩ := down_closer hpc hg
    have hstep : devStep cfg s .ctl = some s' := by simp [devStep, hpc, DevPc.halted, hs']
    rcases hcl with hex | ⟨p', -, hlt⟩
    · exact ⟨1, s', exec_cons [] hstep, hex, down_good hpc hg hs'⟩
    · omega
  | succ n ih =>
    intro s p hpc hg hle
    obtain ⟨s', hs', hcl⟩ := down_closer hpc hg
    have hstep : devStep cfg s .ctl = some s' := by simp [devStep, hpc, DevPc.halted, hs']
    have hg' := down_good hpc hg hs'
    rcases hcl with hex | ⟨p', hp', hlt⟩
    · exact ⟨1, s', exec_cons [] hstep, hex, hg'⟩
    · obtain ⟨k, t, hk, ht⟩ := ih hp' hg' (by omega)
      exact ⟨k + 1, t, by rw [List.replicate_succ, exec_cons _ hstep, hk], ht⟩

/-- **Shutdown leaves nothing.** Whatever came before, and wherever the task
is in `shutdown`, its next statements lead to the end; and whenever the end
is reached, every slot is empty, every device is freed, every handler is
removed and every watchdog is shut down. -/
theorem shutdown_removes (cfg : Config) (hn : cfg.processorCount ≤ namesSize)
    (others affinity : Nat → Bool) (cpu : Nat) (as : List DevAct) (s : DevState)
    (hG : Along (devStep cfg) (TestsConfigured cfg) (DevState.start cfg others affinity cpu) as)
    (h : exec (devStep cfg) (DevState.start cfg others affinity cpu) as = some s) :
    (∀ p, s.pc = .down p →
      ∃ k t, exec (devStep cfg) s (List.replicate k .ctl) = some t ∧ t.pc = .exited ∧ Removed t) ∧
    (s.pc = .exited → Removed s) := by
  rcases devices_ends hn hG h with hg | hf
  · refine ⟨fun p hpc => ?_, fun hpc => hg.removed hpc⟩
    obtain ⟨k, t, hk, hex, hgt⟩ := down_exits hpc hg (Nat.le_refl _)
    exact ⟨k, t, hk, hex, hgt.removed hex⟩
  · refine ⟨fun p hpc => ?_, fun hpc => ?_⟩
    · rw [hf.pc] at hpc
      cases hpc
    · rw [hf.pc] at hpc
      cases hpc

set_option maxRecDepth 4000 in
theorem bootRun_removes : ∃ s t k,
    exec (devStep twoCpus) twoCpusStart (bootRun ++ [.call .shutdown, .ctl, .irq 32]) = some s ∧
      exec (devStep twoCpus) s (List.replicate k .ctl) = some t ∧ Removed t := by
  have hrun : ∃ s ∈ exec (devStep twoCpus) twoCpusStart
      (bootRun ++ [.call .shutdown, .ctl, .irq 32]), s.pc = .down (.mboxUnset .lsio 1) := by
    decide
  obtain ⟨s, hs, hpc⟩ := hrun
  obtain ⟨k, t, hk, -, ht⟩ := (shutdown_removes twoCpus (by decide) _ _ 0
    (bootRun ++ [.call .shutdown, .ctl, .irq 32]) s (by decide) hs).1 _ hpc
  exact ⟨s, t, k, hs, hk, ht⟩

end HpscRtems.Devices
