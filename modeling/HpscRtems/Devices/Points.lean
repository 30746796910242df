/-
HpscRtems.Devices.Points — the program points of `init_extra_drivers`,
`test_cpu_rti_timers` and `shutdown`, each with its view, and what the task
knows there about itself (`Ctl`). Every statement leads from a point where
both hold to one where both hold, or to the panic of a failed probe.
-/
import HpscRtems.Devices.Stands

namespace HpscRtems.Devices

open Machine Rtems Mbox

variable {cfg : Config} {d : Devs} {w w' : View}

/-! ## §1 Views -/

def View.boot (m r w : Nat) : View :=
  ⟨none, fun _ => none, none, none, (0, m), (0, r), (0, w), (0, w)⟩

def View.down (n m r w : Nat) : View :=
  ⟨none, fun _ => none, none, none, (m, 3), (r, n), (w, n), (w, n)⟩

/-- Between the calls everything stands, on `n` processors. -/
abbrev View.idle (n : Nat) : View := .boot 3 n n

/-- Only the handler of one line of `m` is not installed. -/
def lacksOnly (line : Line) (m : Nat) : Line → Option Nat :=
  fun l => if l = line then some m else none

def BootPc.view (n : Nat) : BootPc → View
  | .mboxProbe id => .boot id.toNat 0 0
  | .mboxInstall id m .a | .mboxFree id m =>
    { View.boot id.toNat 0 0 with target := some (.mbox id, m), lacks := fun _ => some m }
  | .mboxInstall id m .b | .mboxUndo id m =>
    { View.boot id.toNat 0 0 with target := some (.mbox id, m), lacks := lacksOnly .b m }
  | .mboxSet id m => { View.boot id.toNat 0 0 with target := some (.mbox id, m) }
  | .getAffinity => .boot 3 0 0
  | .rtitPin c | .rtitProbe c => .boot 3 c 0
  | .rtitSlot c t | .rtitSet c t _ => { View.boot 3 c 0 with target := some (.rtit c, t) }
  | .wdtPin c | .wdtInit c => .boot 3 n c
  | .wdtSlot c | .wdtSet c _ => { View.boot 3 n c with ready := (0, c + 1) }
  | .setAffinity => .idle n

def TestPc.view (n : Nat) : TestPc → View
  | .setStarted _ t => { View.idle n with handling := some t }
  | .advance _ t | .configure _ t | .receive _ t | .check _ t | .reset _ t _ | .remove _ t _ =>
    { View.idle n with handling := some t, started := some t }
  | .clearStarted _ t _ => { View.idle n with started := some t }
  | _ => .idle n

def DownPc.view (n : Nat) : DownPc → View
  | .mboxGet id | .mboxUnset id _ => .down n id.toNat 0 0
  | .mboxRemove id m .a => { View.down n (id.toNat + 1) 0 0 with target := some (.mbox id, m) }
  | .mboxRemove id m .b =>
    { View.down n (id.toNat + 1) 0 0 with
      target := some (.mbox id, m)
      lacks := lacksOnly .a m }
  | .mboxFree id m =>
    { View.down n (id.toNat + 1) 0 0 with
      target := some (.mbox id, m)
      lacks := fun _ => some m }
  | .rtitRemove c t => { View.down n 3 (c + 1) 0 with target := some (.rtit c, t) }
  | .rtitPin c | .rtitSlot c | .rtitGet c _ | .rtitUnsetSlot c _ | .rtitUnset c _ _ =>
    .down n 3 c 0
  | .wdtPin c | .wdtSlot c | .wdtGet c _ | .wdtUnsetSlot c _ | .wdtUnset c _ _ => .down n 3 n c
  | .wdtUninit c _ => { View.down n 3 n (c + 1) with ready := (c, n) }

def DevPc.view (n : Nat) : DevPc → View
  | .boot b => b.view n
  | .test t => t.view n
  | .down d => d.view n
  | .exited => .down n 3 n n
  | _ => .idle n

/-- The task executes on the processor `c` and cannot be moved. -/
structure Pinned (cfg : Config) (affinity : Nat → Bool) (cpu c : Nat) : Prop where
  affinity : ∀ i, affinity i = true → i = c
  cpu : cpu = c
  lt : c < cfg.processorCount

variable {aff : Nat → Bool} {s s' : DevState}

/-- What the task knows in `init_extra_drivers`; `aff` is its affinity
before. -/
def BootPc.Ctl (cfg : Config) (aff : Nat → Bool) (s : DevState) : BootPc → Prop
  | .mboxProbe id | .mboxInstall id _ _ | .mboxUndo id _ | .mboxFree id _ | .mboxSet id _ =>
    s.affinity = aff ∧ cfg.mbox id = true
  | .getAffinity => s.affinity = aff
  | .rtitPin c => s.cpuset = aff ∧ cfg.rtiTimer = true ∧ c ≤ cfg.processorCount
  | .rtitProbe c | .rtitSlot c _ =>
    s.cpuset = aff ∧ cfg.rtiTimer = true ∧ Pinned cfg s.affinity s.cpu c
  | .rtitSet c _ k => s.cpuset = aff ∧ cfg.rtiTimer = true ∧ Pinned cfg s.affinity s.cpu c ∧ k = c
  | .wdtPin c => s.cpuset = aff ∧ cfg.wdt = true ∧ c ≤ cfg.processorCount
  | .wdtInit c | .wdtSlot c => s.cpuset = aff ∧ cfg.wdt = true ∧ Pinned cfg s.affinity s.cpu c
  | .wdtSet c k => s.cpuset = aff ∧ cfg.wdt = true ∧ Pinned cfg s.affinity s.cpu c ∧ k = c
  | .setAffinity => s.cpuset = aff

def TestPc.Ctl (cfg : Config) (aff : Nat → Bool) (s : DevState) : TestPc → Prop
  | .getAffinity => s.affinity = aff ∧ cfg.rtiTimer = true
  | .pin c => s.cpuset = aff ∧ cfg.rtiTimer = true ∧ c ≤ cfg.processorCount
  | .slot c | .next c _ => s.cpuset = aff ∧ cfg.rtiTimer = true ∧ Pinned cfg s.affinity s.cpu c
  | .get c k => s.cpuset = aff ∧ cfg.rtiTimer = true ∧ Pinned cfg s.affinity s.cpu c ∧ k = c
  | .install c t | .setStarted c t | .advance c t | .configure c t | .receive c t | .check c t
  | .reset c t _ | .remove c t _ | .clearStarted c t _ =>
    s.cpuset = aff ∧ cfg.rtiTimer = true ∧ Pinned cfg s.affinity s.cpu c ∧
      s.store (.rtit c) = some t
  | .setAffinity _ => s.cpuset = aff

def DownPc.Ctl (cfg : Config) (s : DevState) : DownPc → Prop
  | .mboxUnset id m => s.store (.mbox id) = some m
  | .mboxGet _ | .mboxRemove .. | .mboxFree .. => True
  | .rtitPin c | .wdtPin c => c ≤ cfg.processorCount
  | .rtitSlot c | .rtitRemove c _ | .wdtSlot c => Pinned cfg s.affinity s.cpu c
  | .rtitGet c k | .wdtGet c k => Pinned cfg s.affinity s.cpu c ∧ k = c
  | .rtitUnsetSlot c t => Pinned cfg s.affinity s.cpu c ∧ s.store (.rtit c) = some t
  | .rtitUnset c t k => Pinned cfg s.affinity s.cpu c ∧ s.store (.rtit c) = some t ∧ k = c
  | .wdtUnsetSlot c w | .wdtUninit c w => Pinned cfg s.affinity s.cpu c ∧ w = c
  | .wdtUnset c w k => Pinned cfg s.affinity s.cpu c ∧ w = c ∧ k = c

def DevPc.Ctl (cfg : Config) (aff : Nat → Bool) (s : DevState) : DevPc → Prop
  | .boot b => b.Ctl cfg aff s
  | .idle => s.affinity = aff
  | .test t => t.Ctl cfg aff s
  | .down d => d.Ctl cfg s
  | .exited => True
  | .panic _ | .assertFailed | .usedFreed => False

/-- Everything is as the program point says. -/
structure Good (cfg : Config) (aff : Nat → Bool) (s : DevState) : Prop where
  stands : Stands cfg s.toDevs (s.pc.view cfg.processorCount)
  ctl : s.pc.Ctl cfg aff s

/-- A probe has failed, and the system has come to its end. -/
structure Failed (s : DevState) : Prop where
  pc : s.pc = .panic .probe
  fault : s.fault = false

/-! ## §2 Pointers that lead to devices -/

theorem Stands.mbox (h : Stands cfg d w) (id : DevIdMbox) (m : Nat)
    (hm : d.store (.mbox id) = some m ∨ w.target = some (.mbox id, m)) :
    ∃ mb, d.heap m = some (.mbox mb) ∧ ∀ line : Line, line.info mb = cfg.mboxInt id line := by
  obtain ⟨dev, hdev, hfit⟩ := h.fits _ _ hm
  cases dev with
  | mbox mb => exact ⟨mb, hdev, hfit⟩
  | rtit t => cases hfit

theorem Stands.rtit (h : Stands cfg d w) (c t : Nat)
    (ht : d.store (.rtit c) = some t ∨ w.target = some (.rtit c, t)) :
    ∃ tm, d.heap t = some (.rtit tm) ∧ tm.base = cfg.rtitBases c ∧ tm.vec = cfg.rtitVec := by
  obtain ⟨dev, hdev, hfit⟩ := h.fits _ _ ht
  cases dev with
  | mbox mb => cases hfit
  | rtit tm => exact ⟨tm, hdev, hfit⟩

/-- A slot outside the windows is empty. -/
theorem Stands.empty (h : Stands cfg d w) {p : Slot} (hp : ¬ cfg.Has w p) : d.store p = none := by
  cases hs : d.store p with
  | none => rfl
  | some a => exact absurd ((h.filled p).mp (by rw [hs]; rfl)) hp

/-- An empty slot is not to be filled. -/
theorem Stands.not_has (h : Stands cfg d w) {p : Slot} (hp : d.store p = none) : ¬ cfg.Has w p := by
  intro hhas
  have := (h.filled p).mpr hhas
  rw [hp] at this
  cases this

theorem Pinned.of_pin {c : Nat} (hc : c < cfg.processorCount) :
    Pinned cfg (fun i => i = c) c c :=
  ⟨fun _ h => of_decide_eq_true h, rfl, hc⟩

theorem DevIdMbox.toNat_lt (id : DevIdMbox) : id.toNat < 3 := by
  cases id <;> decide

theorem DevIdMbox.toNat_inj {id id' : DevIdMbox} (h : id.toNat = id'.toNat) : id = id' := by
  cases id <;> cases id' <;> first | rfl | cases h

/-! ## §3 Windows -/

theorem within_zero {n i : Nat} : Within (0, n) i ↔ i < n := by
  simp [Within]

/-- The windows of `init_extra_drivers` may move over what is not configured. -/
theorem Stands.boot_view {m r u m' r' u' : Nat} (h : Stands cfg d (.boot m r u))
    (hm : ∀ id, cfg.mbox id = true → (id.toNat < m' ↔ id.toNat < m))
    (hr : cfg.rtiTimer = true → ∀ c, c < r' ↔ c < r)
    (hu : cfg.wdt = true → ∀ c, c < u' ↔ c < u) : Stands cfg d (.boot m' r' u') := by
  refine h.view rfl rfl rfl rfl (fun p => ?_) (fun hc c => ?_) fun hc c => ?_
  · cases p with
    | mbox id =>
      refine and_congr_right fun hid => ?_
      rw [View.boot, View.boot, within_zero, within_zero]
      exact hm id hid
    | rtit c =>
      refine and_congr_right fun hrt => ?_
      rw [View.boot, View.boot, within_zero, within_zero]
      exact hr hrt c
  · rw [View.boot, View.boot, within_zero, within_zero]
    exact hu hc c
  · rw [View.boot, View.boot, within_zero, within_zero]
    exact hu hc c

/-- The windows of `shutdown` may move over what is empty. -/
theorem Stands.down_view {n m r u m' r' u' : Nat} (h : Stands cfg d (.down n m r u))
    (hm : ∀ id : DevIdMbox, cfg.mbox id = true → (m' ≤ id.toNat ↔ m ≤ id.toNat))
    (hr : cfg.rtiTimer = true → ∀ c, c < n → (r' ≤ c ↔ r ≤ c))
    (hu : cfg.wdt = true → ∀ c, c < n → (u' ≤ c ↔ u ≤ c)) : Stands cfg d (.down n m' r' u') := by
  refine h.view rfl rfl rfl rfl (fun p => ?_) (fun hc c => ?_) fun hc c => ?_
  · cases p with
    | mbox id => exact and_congr_right fun hid => and_congr_left fun _ => hm id hid
    | rtit c => exact and_congr_right fun hrt => and_congr_left fun hc => hr hrt c hc
  · exact and_congr_left fun hcn => hu hc c hcn
  · exact and_congr_left fun hcn => hu hc c hcn

/-! ## §4 `init_extra_drivers` -/

theorem Stands.hppsSection (h : Stands cfg d (.boot 1 0 0)) :
    Stands cfg d (cfg.hppsSection.view cfg.processorCount) := by
  unfold Config.hppsSection
  split
  · change Stands cfg d (.boot 2 0 0)
    refine h.boot_view (fun id hid => ?_) (fun _ _ => Iff.rfl) fun _ _ => Iff.rfl
    cases id with
    | lsio => decide
    | hppsTrch => cases hid
    | hppsRtps => decide
  · rename_i hnot
    change Stands cfg d (.boot 3 0 0)
    refine h.boot_view (fun id hid => ?_) (fun _ _ => Iff.rfl) fun _ _ => Iff.rfl
    cases id with
    | lsio => decide
    | hppsTrch => cases hid
    | hppsRtps => exact absurd hid hnot

theorem Stands.afterMbox {id : DevIdMbox} (hid : cfg.mbox id = true)
    (h : Stands cfg d (.boot (id.toNat + 1) 0 0)) :
    Stands cfg d ((cfg.afterMbox id).view cfg.processorCount) := by
  cases id with
  | lsio => exact h.hppsSection
  | hppsTrch => cases hid
  | hppsRtps => exact h

theorem Stands.wdtSection (h : Stands cfg d (.boot 3 cfg.processorCount 0)) :
    Stands cfg d (cfg.wdtSection.view cfg.processorCount) := by
  unfold Config.wdtSection
  split
  · exact h
  · exact h.boot_view (fun _ _ => Iff.rfl) (fun _ _ => Iff.rfl) fun hw => absurd hw ‹_›

theorem Stands.rtitSection (h : Stands cfg d (.boot 3 0 0)) :
    Stands cfg d (cfg.rtitSection.view cfg.processorCount) := by
  unfold Config.rtitSection
  split
  · exact h
  · refine Stands.wdtSection (h.boot_view (fun _ _ => Iff.rfl) (fun hr => absurd hr ‹_›) ?_)
    exact fun _ _ => Iff.rfl

theorem ctl_hppsSection (h : s.affinity = aff) : cfg.hppsSection.Ctl cfg aff s := by
  unfold Config.hppsSection
  split
  · exact ⟨h, ‹_›⟩
  · exact h

theorem ctl_afterMbox (h : s.affinity = aff) (id : DevIdMbox) :
    (cfg.afterMbox id).Ctl cfg aff s := by
  cases id with
  | lsio => exact ctl_hppsSection h
  | hppsTrch | hppsRtps => exact h

theorem ctl_wdtSection (h : s.cpuset = aff) : cfg.wdtSection.Ctl cfg aff s := by
  unfold Config.wdtSection
  split
  · exact ⟨h, ‹_›, Nat.zero_le _⟩
  · exact h

theorem ctl_rtitSection (h : s.cpuset = aff) : cfg.rtitSection.Ctl cfg aff s := by
  unfold Config.rtitSection
  split
  · exact ⟨h, ‹_›, Nat.zero_le _⟩
  · exact ctl_wdtSection h

/-- A slot is filled. -/
theorem devSet_some {p : Slot} {a : Nat} {pc : DevPc} (hp : s.store p = none) :
    s.devSet p (some a) pc =
      { s with store := Function.update s.store p (some a), pc := pc } := by
  rw [DevState.devSet, hp]
  rfl

/-- A slot is emptied. -/
theorem devSet_none (p : Slot) (pc : DevPc) :
    s.devSet p none pc = { s with store := Function.update s.store p none, pc := pc } := rfl

theorem withMbox_of {m : Nat} {mb : HpscMbox} (hm : s.heap m = some (.mbox mb))
    (f : HpscMbox → DevState) : s.withMbox m f = f mb := by
  rw [DevState.withMbox, hm]

theorem withRtit_of {t : Nat} {tm : HpscRtiTimer} (ht : s.heap t = some (.rtit tm))
    (f : HpscRtiTimer → DevState) : s.withRtit t f = f tm := by
  rw [DevState.withRtit, ht]

/-- A step that ends well or in a failed probe. -/
def Ends (cfg : Config) (aff : Nat → Bool) (s : DevState) : Prop := Good cfg aff s ∨ Failed s

/-- The statements of `init_extra_drivers` keep the state good. -/
theorem boot_good (hn : cfg.processorCount ≤ namesSize) {b : BootPc} (hpc : s.pc = .boot b)
    (hg : Good cfg aff s) (h : bootStep cfg s b = some s') : Ends cfg aff s' := by
  obtain ⟨hst, hctl⟩ := hg
  rw [hpc] at hst hctl
  cases b with
  | mboxProbe id | mboxInstall id m line | rtitProbe c | setAffinity => cases h
  | mboxUndo id m =>
    obtain ⟨mb, hm, hinfo⟩ := hst.mbox id m (.inr rfl)
    obtain ⟨hin, hst'⟩ := hst.removeIsr .a ((BootPc.mboxFree id m).view cfg.processorCount) hm
      (by simp [DevPc.view, BootPc.view, lacksOnly]) rfl rfl rfl
      (fun line hne => by cases line <;> [exact absurd rfl hne; rfl]) rfl rfl (fun _ => Iff.rfl)
      rfl rfl
    simp only [bootStep, withMbox_of hm, Option.some.injEq] at h
    rw [show mb.intA = Line.info mb .a from rfl, handlerRemove_of hin] at h
    subst h
    exact .inl ⟨hst', hctl⟩
  | mboxFree id m =>
    cases h
    exact .inr ⟨rfl, hst.fault⟩
  | mboxSet id m =>
    have hempty : s.store (.mbox id) = none := hst.empty fun hhas => by
      have := hhas.2.2
      exact Nat.lt_irrefl _ this
    simp only [bootStep, DevState.devSetMbox, devSet_some hempty, Option.some.injEq] at h
    subst h
    refine .inl ⟨Stands.afterMbox hctl.2 ?_, ctl_afterMbox (by exact hctl.1) id⟩
    refine hst.put rfl hempty rfl rfl rfl rfl (fun q => ?_) rfl rfl
    cases q with
    | mbox id' =>
      have hid := hctl.2
      simp only [Config.Has, View.boot, within_zero, DevPc.view, BootPc.view, Slot.mbox.injEq]
      constructor
      · rintro ⟨hc, hlt⟩
        rcases Nat.lt_succ_iff_lt_or_eq.mp hlt with hlt | heq
        · exact .inl ⟨hc, hlt⟩
        · exact .inr (DevIdMbox.toNat_inj heq)
      · rintro (⟨hc, hlt⟩ | rfl)
        · exact ⟨hc, Nat.lt_succ_of_lt hlt⟩
        · exact ⟨hid, Nat.lt_succ_self _⟩
    | rtit c => simp [Config.Has, View.boot, DevPc.view, BootPc.view]
  | getAffinity =>
    cases h
    exact .inl ⟨Stands.rtitSection hst, ctl_rtitSection hctl⟩
  | rtitPin c =>
    obtain ⟨hset, hr, hle⟩ := hctl
    simp only [bootStep] at h
    split at h
    · rename_i hlt
      have hname : decide (c < namesSize) = true := decide_eq_true (Nat.lt_of_lt_of_le hlt hn)
      simp only [DevState.assert, hname, DevState.affinityPinSelfToCpu, hlt, if_true,
        Option.some.injEq] at h
      subst h
      exact .inl ⟨hst, hset, hr, .of_pin hlt⟩
    · rename_i hge
      cases h
      have hc : c = cfg.processorCount := by omega
      subst hc
      exact .inl ⟨Stands.wdtSection hst, ctl_wdtSection hset⟩
  | rtitSlot c t =>
    cases h
    obtain ⟨hset, hr, hpin⟩ := hctl
    exact .inl ⟨hst, hset, hr, hpin, hpin.cpu⟩
  | rtitSet c t k =>
    obtain ⟨hset, hr, hpin, rfl⟩ := hctl
    have hempty : s.store (.rtit k) = none := hst.empty fun hhas => by
      have := hhas.2.2
      exact Nat.lt_irrefl _ this
    simp only [bootStep, DevState.devCpuSetRtit, devSet_some hempty, Option.some.injEq] at h
    subst h
    refine .inl ⟨?_, hset, hr, hpin.lt⟩
    change Stands cfg _ (.boot 3 (k + 1) 0)
    refine hst.put rfl hempty rfl rfl rfl rfl (fun q => ?_) rfl rfl
    cases q with
    | mbox id => simp [Config.Has, View.boot, DevPc.view, BootPc.view]
    | rtit c =>
      simp only [Config.Has, View.boot, within_zero, DevPc.view, BootPc.view, Slot.rtit.injEq, hr,
        true_and]
      omega
  | wdtPin c =>
    obtain ⟨hset, hr, hle⟩ := hctl
    simp only [bootStep] at h
    split at h
    · rename_i hlt
      have hname : decide (c < namesSize) = true := decide_eq_true (Nat.lt_of_lt_of_le hlt hn)
      simp only [DevState.assert, hname, DevState.affinityPinSelfToCpu, hlt, if_true,
        Option.some.injEq] at h
      subst h
      exact .inl ⟨hst, hset, hr, .of_pin hlt⟩
    · rename_i hge
      cases h
      have hc : c = cfg.processorCount := by omega
      subst hc
      exact .inl ⟨hst, hset⟩
  | wdtInit c =>
    cases h
    obtain ⟨hset, hr, hpin⟩ := hctl
    refine .inl ⟨?_, hset, hr, hpin⟩
    refine hst.setWdts rfl rfl rfl rfl (fun _ => Iff.rfl) hst.wdts fun i => ?_
    by_cases hi : i = c
    · subst hi
      simp [hr, DevPc.view, BootPc.view, within_zero]
    · simp only [Function.update_of_ne hi, DevPc.view, BootPc.view, within_zero]
      rw [hst.ready i]
      simp only [hr, true_and, DevPc.view, BootPc.view, View.boot, within_zero]
      omega
  | wdtSlot c =>
    cases h
    obtain ⟨hset, hr, hpin⟩ := hctl
    exact .inl ⟨hst, hset, hr, hpin, hpin.cpu⟩
  | wdtSet c k =>
    obtain ⟨hset, hr, hpin, rfl⟩ := hctl
    have hempty : s.wdts k = none := by
      cases hk : s.wdts k with
      | none => rfl
      | some x =>
        have := ((hst.wdts k x).mp hk).2.2.2
        exact absurd this (Nat.lt_irrefl _)
    simp only [bootStep, DevState.devCpuSetWdt, hempty, DevState.assert, Option.isNone_none,
      Bool.or_true, if_true, Option.some.injEq] at h
    subst h
    refine .inl ⟨?_, hset, hr, hpin.lt⟩
    refine hst.setWdts rfl rfl rfl rfl (fun _ => Iff.rfl) (fun i x => ?_) hst.ready
    by_cases hi : i = k
    · subst hi
      simp [hr, DevPc.view, BootPc.view, View.boot, within_zero, eq_comm]
    · simp only [Function.update_of_ne hi]
      rw [hst.wdts i x]
      simp only [hr, true_and, DevPc.view, BootPc.view, View.boot, within_zero]
      omega

theorem malloc_good {a : Option Nat} {mem : Fin channels → HpscMboxChan}
    (hg : Good cfg aff s) (h : mallocStep cfg s a mem = some s') : Ends cfg aff s' := by
  obtain ⟨hst, hctl⟩ := hg
  unfold mallocStep at h
  split at h
  · cases h
    exact .inr ⟨rfl, hst.fault⟩
  · cases h
    exact .inr ⟨rfl, hst.fault⟩
  · rename_i id a hpc
    rw [hpc] at hst hctl
    split at h
    · rename_i hfree
      cases h
      have hfit : Fits cfg (.mbox id)
          (.mbox (hpscMboxInit mem (cfg.mboxBase id) (cfg.mboxInt id .a) (cfg.mboxInt id .b))) :=
        fun line => by cases line <;> rfl
      refine .inl ⟨?_, hctl⟩
      refine hst.alloc (Option.isNone_iff_eq_none.mp hfree) rfl (fun _ => rfl) rfl rfl hfit
        (fun _ he => by cases he) fun line m => ?_
      simp [eq_comm]
    · cases h
  · rename_i c a hpc
    rw [hpc] at hst hctl
    split at h
    · rename_i hfree
      cases h
      have hfit : Fits cfg (.rtit c) (.rtit ⟨cfg.rtitBases c, cfg.rtitVec, false⟩) := ⟨rfl, rfl⟩
      refine .inl ⟨?_, hctl⟩
      refine hst.alloc (Option.isNone_iff_eq_none.mp hfree) rfl (fun _ => rfl) rfl rfl hfit
        (fun _ he => by cases he; rfl) fun line m => ?_
      simp [View.boot]
    · cases h
  · cases h

theorem install_good {sc : StatusCode} (hg : Good cfg aff s)
    (h : installStep cfg s sc = some s') : Ends cfg aff s' := by
  obtain ⟨hst, hctl⟩ := hg
  unfold installStep at h
  split at h
  · rename_i id m line hpc
    rw [hpc] at hst hctl
    obtain ⟨irqs, hinst, rfl⟩ := Option.map_eq_some_iff.mp h
    obtain ⟨mb, hm, hinfo⟩ := hst.mbox id m (.inr (by cases line <;> rfl))
    rcases handlerInstall_some hinst with ⟨rfl, hfree, rfl⟩ | ⟨hsc, rfl⟩
    · rw [← hinfo line] at hfree ⊢
      cases line with
      | a =>
        refine .inl ⟨?_, hctl⟩
        exact hst.installIsr hm hfree rfl rfl rfl
          (fun line hne => by cases line <;> [exact absurd rfl hne; rfl]) rfl rfl
          (fun _ => Iff.rfl) rfl rfl
      | b =>
        refine .inl ⟨?_, hctl⟩
        exact hst.installIsr hm hfree rfl rfl rfl
          (fun line hne => by cases line <;> [rfl; exact absurd rfl hne]) rfl rfl
          (fun _ => Iff.rfl) rfl rfl
    · cases line with
      | a =>
        simp only [hsc, if_false]
        exact .inl ⟨hst, hctl⟩
      | b =>
        simp only [hsc, if_false]
        exact .inl ⟨hst, hctl⟩
  · rename_i c t hpc
    rw [hpc] at hst hctl
    obtain ⟨hset, hr, hpin, hslot⟩ := hctl
    obtain ⟨tm, htm, -⟩ := hst.rtit c t (.inl hslot)
    simp only [htm] at h
    obtain ⟨irqs, hinst, rfl⟩ := Option.map_eq_some_iff.mp h
    rcases handlerInstall_some hinst with ⟨rfl, hfree, rfl⟩ | ⟨hsc, rfl⟩
    · refine .inl ⟨?_, hset, hr, hpin, hslot⟩
      exact hst.installEvent htm hfree rfl rfl rfl rfl rfl (fun _ => Iff.rfl) rfl rfl
    · simp only [hsc, if_false]
      exact .inl ⟨hst, hset, hr, hpin⟩
  · cases h

/-! ## §5 `test_cpu_rti_timers` -/

theorem setStarted_eq {t : Nat} {tm : HpscRtiTimer} (ht : s.heap t = some (.rtit tm)) (b : Bool)
    (pc : DevPc) : s.setStarted t b pc =
      { s with
        heap := Function.update s.heap t (some (.rtit { tm with isStarted := b }))
        pc := pc } := by
  rw [DevState.setStarted, withRtit_of ht]
  rfl

/-- The statements of `test_cpu_rti_timers` keep the state good. -/
theorem test_good {t : TestPc} (hpc : s.pc = .test t) (hg : Good cfg aff s)
    (h : testStep cfg s t = some s') : Good cfg aff s' := by
  obtain ⟨hst, hctl⟩ := hg
  rw [hpc] at hst hctl
  cases t with
  | install c t | advance c t | receive c t | setAffinity rc => cases h
  | getAffinity =>
    cases h
    exact ⟨hst, hctl.1, hctl.2, Nat.zero_le _⟩
  | pin c =>
    obtain ⟨hset, hr, hle⟩ := hctl
    simp only [testStep] at h
    split at h
    · rename_i hlt
      simp only [DevState.affinityPinSelfToCpu, hlt, if_true, Option.some.injEq] at h
      subst h
      exact ⟨hst, hset, hr, .of_pin hlt⟩
    · cases h
      exact ⟨hst, hset⟩
  | slot c =>
    cases h
    obtain ⟨hset, hr, hpin⟩ := hctl
    exact ⟨hst, hset, hr, hpin, hpin.cpu⟩
  | get c k =>
    obtain ⟨hset, hr, hpin, rfl⟩ := hctl
    have hfilled : (s.store (.rtit k)).isSome = true :=
      (hst.filled (.rtit k)).mpr ⟨hr, Nat.zero_le _, hpin.lt⟩
    simp only [testStep] at h
    split at h
    · rename_i hnone
      rw [hnone] at hfilled
      cases hfilled
    · rename_i t hslot
      cases h
      exact ⟨hst.frame rfl, hset, hr, hpin, hslot⟩
  | setStarted c t =>
    obtain ⟨hset, hr, hpin, hslot⟩ := hctl
    obtain ⟨tm, htm, -⟩ := hst.rtit c t (.inl hslot)
    simp only [testStep, setStarted_eq htm, Option.some.injEq] at h
    subst h
    refine ⟨?_, hset, hr, hpin, hslot⟩
    refine hst.setStarted htm rfl rfl rfl ?_ (fun t' hne => ?_) (fun _ => Iff.rfl) rfl rfl
    · simp [DevPc.view, TestPc.view]
    · simp [DevPc.view, TestPc.view, View.boot, Ne.symm hne]
  | configure c t =>
    obtain ⟨hset, hr, hpin, hslot⟩ := hctl
    obtain ⟨tm, htm, -⟩ := hst.rtit c t (.inl hslot)
    simp only [testStep, withRtit_of htm, Option.some.injEq] at h
    subst h
    exact ⟨hst, hset, hr, hpin, hslot⟩
  | check c t =>
    cases h
    exact ⟨hst, hctl⟩
  | reset c t rc =>
    obtain ⟨hset, hr, hpin, hslot⟩ := hctl
    obtain ⟨tm, htm, -⟩ := hst.rtit c t (.inl hslot)
    simp only [testStep, withRtit_of htm, Option.some.injEq] at h
    subst h
    exact ⟨hst, hset, hr, hpin, hslot⟩
  | remove c t rc =>
    obtain ⟨hset, hr, hpin, hslot⟩ := hctl
    obtain ⟨tm, htm, -⟩ := hst.rtit c t (.inl hslot)
    obtain ⟨hin, hst'⟩ := hst.removeEvent
      ((TestPc.clearStarted c t rc).view cfg.processorCount) htm rfl rfl rfl rfl rfl
      (fun _ => Iff.rfl) rfl rfl
    simp only [testStep, withRtit_of htm, handlerRemove_of hin, if_true, Option.some.injEq] at h
    subst h
    exact ⟨hst', hset, hr, hpin, hslot⟩
  | clearStarted c t rc =>
    obtain ⟨hset, hr, hpin, hslot⟩ := hctl
    obtain ⟨tm, htm, -⟩ := hst.rtit c t (.inl hslot)
    simp only [testStep, setStarted_eq htm, Option.some.injEq] at h
    subst h
    refine ⟨?_, hset, hr, hpin⟩
    refine hst.setStarted htm rfl rfl rfl ?_ (fun t' hne => ?_) (fun _ => Iff.rfl) rfl rfl
    · simp [DevPc.view, TestPc.view, View.boot]
    · simp [DevPc.view, TestPc.view, View.boot, Ne.symm hne]
  | next c rc =>
    obtain ⟨hset, hr, hpin⟩ := hctl
    simp only [testStep, Option.some.injEq] at h
    subst h
    split
    · exact ⟨hst, hset, hr, hpin.lt⟩
    · exact ⟨hst, hset⟩

/-! ## §6 `shutdown` -/

theorem Stands.nextTurn {n : Nat} {id : DevIdMbox} (h : Stands cfg d (.down n (id.toNat + 1) 0 0)) :
    Stands cfg d (id.nextTurn.view n) := by
  cases id with
  | lsio | hppsTrch | hppsRtps => exact h

theorem ctl_nextTurn (id : DevIdMbox) : id.nextTurn.Ctl cfg s := by
  cases id with
  | lsio | hppsTrch => trivial
  | hppsRtps => exact Nat.zero_le _

/-- The statements of `shutdown` keep the state good. -/
theorem down_good {p : DownPc} (hpc : s.pc = .down p) (hg : Good cfg aff s)
    (h : downStep cfg s p = some s') : Good cfg aff s' := by
  obtain ⟨hst, hctl⟩ := hg
  rw [hpc] at hst hctl
  cases p with
  | mboxGet id =>
    simp only [downStep] at h
    split at h
    · rename_i hnone
      cases h
      have hhas := hst.not_has hnone
      refine ⟨Stands.nextTurn (hst.down_view (fun id' hid' => ?_) (fun _ _ _ => Iff.rfl)
        fun _ _ _ => Iff.rfl), ctl_nextTurn id⟩
      constructor
      · exact fun hle => Nat.le_of_succ_le hle
      · intro hle
        refine Nat.lt_of_le_of_ne hle fun he => hhas ?_
        rw [DevIdMbox.toNat_inj he]
        exact ⟨hid', Nat.le_refl _, id'.toNat_lt⟩
    · rename_i m hsome
      cases h
      exact ⟨hst, hsome⟩
  | mboxUnset id m =>
    simp only [downStep, DevState.devSetMbox, devSet_none, Option.some.injEq] at h
    subst h
    refine ⟨?_, trivial⟩
    refine hst.take (p := .mbox id) rfl hctl rfl rfl rfl rfl (fun q => ?_) rfl rfl
    cases q with
    | mbox id' =>
      simp only [Config.Has, Within, View.down, DevPc.view, DownPc.view, ne_eq, Slot.mbox.injEq]
      constructor
      · rintro ⟨hc, hle, hlt⟩
        exact ⟨⟨hc, Nat.le_of_succ_le hle, hlt⟩, fun he => by rw [he] at hle; omega⟩
      · rintro ⟨⟨hc, hle, hlt⟩, hne⟩
        refine ⟨hc, Nat.lt_of_le_of_ne hle fun he => hne (DevIdMbox.toNat_inj he).symm, hlt⟩
    | rtit c => simp [Config.Has, View.down, DevPc.view, DownPc.view]
  | mboxRemove id m line =>
    obtain ⟨mb, hm, hinfo⟩ := hst.mbox id m (.inr (by cases line <;> rfl))
    cases line with
    | a =>
      obtain ⟨hin, hst'⟩ := hst.removeIsr .a
        ((DownPc.mboxRemove id m .b).view cfg.processorCount) hm
        (by simp [DevPc.view, DownPc.view, View.down]) rfl rfl rfl
        (fun line hne => by cases line <;> [exact absurd rfl hne; rfl]) rfl rfl (fun _ => Iff.rfl)
        rfl rfl
      simp only [downStep, withMbox_of hm, handlerRemove_of hin, DevState.assert, decide_true,
        if_true, Option.some.injEq] at h
      subst h
      exact ⟨hst', trivial⟩
    | b =>
      obtain ⟨hin, hst'⟩ := hst.removeIsr .b
        ((DownPc.mboxFree id m).view cfg.processorCount) hm
        (by simp [DevPc.view, DownPc.view, lacksOnly]) rfl rfl rfl
        (fun line hne => by cases line <;> [rfl; exact absurd rfl hne]) rfl rfl (fun _ => Iff.rfl)
        rfl rfl
      simp only [downStep, withMbox_of hm, handlerRemove_of hin, DevState.assert, decide_true,
        if_true, Option.some.injEq] at h
      subst h
      exact ⟨hst', trivial⟩
  | mboxFree id m =>
    obtain ⟨mb, hm, -⟩ := hst.mbox id m (.inr rfl)
    cases h
    refine ⟨Stands.nextTurn (hst.freed (p := .mbox id) rfl (fun line m' => ?_) rfl),
      ctl_nextTurn id⟩
    simp only [DevPc.view, DownPc.view, Option.some.injEq]
    exact ⟨fun he => ⟨he.symm, mb, hm⟩, fun he => he.1.symm⟩
  | rtitPin c =>
    simp only [downStep] at h
    split at h
    · rename_i hlt
      simp only [DevState.affinityPinSelfToCpu, hlt, if_true, Option.some.injEq] at h
      subst h
      exact ⟨hst, .of_pin hlt⟩
    · rename_i hge
      cases h
      have hc : c = cfg.processorCount := by
        have : c ≤ cfg.processorCount := hctl
        omega
      subst hc
      exact ⟨hst, Nat.zero_le _⟩
  | rtitSlot c =>
    cases h
    exact ⟨hst, hctl, hctl.cpu⟩
  | rtitGet c k =>
    obtain ⟨hpin, rfl⟩ := hctl
    simp only [downStep] at h
    split at h
    · rename_i hnone
      cases h
      have hhas := hst.not_has hnone
      refine ⟨hst.down_view (fun _ _ => Iff.rfl) (fun hr i hi => ?_) fun _ _ _ => Iff.rfl,
        hpin.lt⟩
      constructor
      · exact fun hle => Nat.le_of_succ_le hle
      · intro hle
        refine Nat.lt_of_le_of_ne hle fun he => hhas ?_
        rw [he]
        exact ⟨hr, Nat.le_refl _, hi⟩
    · rename_i t hsome
      cases h
      exact ⟨hst, hpin, hsome⟩
  | rtitUnsetSlot c t =>
    cases h
    exact ⟨hst, hctl.1, hctl.2, hctl.1.cpu⟩
  | rtitUnset c t k =>
    obtain ⟨hpin, hslot, rfl⟩ := hctl
    simp only [downStep, DevState.devCpuSetRtit, devSet_none, Option.some.injEq] at h
    subst h
    refine ⟨?_, hpin⟩
    refine hst.take (p := .rtit k) rfl hslot rfl rfl rfl rfl (fun q => ?_) rfl rfl
    cases q with
    | mbox id => simp [Config.Has, View.down, DevPc.view, DownPc.view]
    | rtit i =>
      simp only [Config.Has, Within, View.down, DevPc.view, DownPc.view, ne_eq, Slot.rtit.injEq]
      rw [and_assoc]
      refine and_congr_right fun _ => ?_
      omega
  | rtitRemove c t =>
    obtain ⟨tm, htm, -⟩ := hst.rtit c t (.inr rfl)
    have hnot : ¬ tm.isStarted = true := fun he => by
      have := (hst.started t tm htm).mp he
      cases this
    simp only [downStep, withRtit_of htm, hnot, Option.some.injEq] at h
    subst h
    refine ⟨hst.freed (p := .rtit c) rfl (fun line m => ?_) rfl, Pinned.lt hctl⟩
    simp [DevPc.view, DownPc.view, View.down, htm]
  | wdtPin c =>
    simp only [downStep] at h
    split at h
    · rename_i hlt
      simp only [DevState.affinityPinSelfToCpu, hlt, if_true, Option.some.injEq] at h
      subst h
      exact ⟨hst, .of_pin hlt⟩
    · rename_i hge
      cases h
      have hc : c = cfg.processorCount := by
        have : c ≤ cfg.processorCount := hctl
        omega
      subst hc
      exact ⟨hst, trivial⟩
  | wdtSlot c =>
    cases h
    exact ⟨hst, hctl, hctl.cpu⟩
  | wdtGet c k =>
    obtain ⟨hpin, rfl⟩ := hctl
    simp only [downStep] at h
    split at h
    · rename_i hnone
      cases h
      refine ⟨hst.down_view (fun _ _ => Iff.rfl) (fun _ _ _ => Iff.rfl) fun hw i hi => ?_, hpin.lt⟩
      constructor
      · exact fun hle => Nat.le_of_succ_le hle
      · intro hle
        refine Nat.lt_of_le_of_ne hle fun he => ?_
        have := (hst.wdts k k).mpr ⟨rfl, hw, Nat.le_refl _, hpin.lt⟩
        rw [hnone] at this
        cases this
    · rename_i x hsome
      cases h
      exact ⟨hst, hpin, ((hst.wdts k x).mp hsome).1⟩
  | wdtUnsetSlot c x =>
    cases h
    exact ⟨hst, hctl.1, hctl.2, hctl.1.cpu⟩
  | wdtUnset c x k =>
    obtain ⟨hpin, rfl, rfl⟩ := hctl
    simp only [downStep, DevState.devCpuSetWdt, DevState.assert, Option.isNone_none, Bool.true_or,
      if_true, Option.some.injEq] at h
    subst h
    refine ⟨?_, hpin, rfl⟩
    refine hst.setWdts rfl rfl rfl rfl (fun _ => Iff.rfl) (fun i y => ?_) hst.ready
    by_cases hi : i = k
    · subst hi
      rw [Function.update_self]
      constructor
      · exact fun he => by cases he
      · rintro ⟨-, -, hle, -⟩
        exact absurd hle (Nat.not_succ_le_self _)
    · simp only [Function.update_of_ne hi]
      rw [hst.wdts i y]
      refine and_congr_right fun _ => and_congr_right fun _ => ?_
      simp only [DevPc.view, DownPc.view, View.down, Within]
      omega
  | wdtUninit c x =>
    obtain ⟨hpin, rfl⟩ := hctl
    cases h
    refine ⟨?_, hpin.lt⟩
    refine hst.setWdts rfl rfl rfl rfl (fun _ => Iff.rfl) hst.wdts fun i => ?_
    by_cases hi : i = x
    · subst hi
      rw [Function.update_self]
      constructor
      · exact fun he => by cases he
      · rintro ⟨-, hle, -⟩
        exact absurd hle (Nat.not_succ_le_self _)
    · simp only [Function.update_of_ne hi]
      rw [hst.ready i]
      refine and_congr_right fun _ => ?_
      simp only [DevPc.view, DownPc.view, View.down, Within]
      omega

end HpscRtems.Devices
