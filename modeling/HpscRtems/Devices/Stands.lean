/-
HpscRtems.Devices.Stands — what stands between `init_extra_drivers` and the
end of `shutdown`.

A `View` says which slots are filled, which device is in the hands of the
task, and which handlers are installed; `Stands` says that the handlers, the
memory and the store are as the view says. Each operation of the drivers
takes what stands before it to what stands after it.
-/
import HpscRtems.Devices.Drivers

namespace HpscRtems.Devices

open Machine Rtems Mbox

/-! ## §1 What stands -/

/-- Indices from the first to below the second. -/
def Within (w : Nat × Nat) (i : Nat) : Prop := w.1 ≤ i ∧ i < w.2

/-- What a program point says of the devices. -/
structure View where
  /-- The object in the hands of the task, and the slot it is for or from. -/
  target : Option (Slot × Nat)
  /-- The mailbox whose handler of the line is not installed. -/
  lacks : Line → Option Nat
  /-- The timer that `handle_event` is installed for. -/
  handling : Option Nat
  /-- The timer that is started. -/
  started : Option Nat
  mboxes : Nat × Nat
  rtits : Nat × Nat
  wdts : Nat × Nat
  ready : Nat × Nat

/-- The slot is to be filled. -/
def Config.Has (cfg : Config) (w : View) : Slot → Prop
  | .mbox id => cfg.mbox id = true ∧ Within w.mboxes id.toNat
  | .rtit c => cfg.rtiTimer = true ∧ Within w.rtits c

/-- The device is what is probed for the slot. -/
def Fits (cfg : Config) : Slot → Dev → Prop
  | .mbox id, .mbox m => ∀ line : Line, line.info m = cfg.mboxInt id line
  | .rtit c, .rtit t => t.base = cfg.rtitBases c ∧ t.vec = cfg.rtitVec
  | _, _ => False

structure Stands (cfg : Config) (d : Devs) (w : View) : Prop where
  owned : (⟨d.heap, d.store, w.target.map Prod.snd⟩ : Registry Slot Dev).Owned
  fits : ∀ p a, d.store p = some a ∨ w.target = some (p, a) →
    ∃ dev, d.heap a = some dev ∧ Fits cfg p dev
  isr : ∀ line v m, d.irqs v = some (.mboxIsr line m) ↔
    ∃ mb, d.heap m = some (.mbox mb) ∧ (line.info mb).n = v ∧ w.lacks line ≠ some m
  event : ∀ v f, d.irqs v = some (.handleEvent f) ↔
    f = d.frames ∧ ∃ t tm, w.handling = some t ∧ d.heap t = some (.rtit tm) ∧ tm.vec = v
  started : ∀ t tm, d.heap t = some (.rtit tm) → (tm.isStarted = true ↔ w.started = some t)
  filled : ∀ p, (d.store p).isSome = true ↔ cfg.Has w p
  wdts : ∀ c x, d.wdts c = some x ↔ x = c ∧ cfg.wdt = true ∧ Within w.wdts c
  ready : ∀ c, d.wdtReady c = true ↔ cfg.wdt = true ∧ Within w.ready c
  fault : d.fault = false

variable {cfg : Config} {d : Devs} {w w' : View}

/-- A view that says the same. -/
theorem Stands.view (h : Stands cfg d w) (ht : w'.target = w.target) (hl : w'.lacks = w.lacks)
    (hh : w'.handling = w.handling) (hs : w'.started = w.started)
    (hf : ∀ p, cfg.Has w' p ↔ cfg.Has w p)
    (hw : cfg.wdt = true → ∀ c, Within w'.wdts c ↔ Within w.wdts c)
    (hr : cfg.wdt = true → ∀ c, Within w'.ready c ↔ Within w.ready c) : Stands cfg d w' where
  owned := by rw [ht]; exact h.owned
  fits := by rw [ht]; exact h.fits
  isr := by rw [hl]; exact h.isr
  event := by rw [hh]; exact h.event
  started := by rw [hs]; exact h.started
  filled p := (h.filled p).trans (hf p).symm
  wdts c x := by
    rw [h.wdts c x]
    refine and_congr_right fun _ => and_congr_right fun hc => ?_
    exact (hw hc c).symm
  ready c := by
    rw [h.ready c]
    exact and_congr_right fun hc => (hr hc c).symm
  fault := h.fault

/-- What a slot has the address of is allocated. -/
theorem Stands.live (h : Stands cfg d w) {p : Slot} {a : Nat} (hp : d.store p = some a) :
    d.heap a ≠ none := by
  obtain ⟨dev, hdev, -⟩ := h.fits p a (.inl hp)
  rw [hdev]
  exact Option.some_ne_none dev

/-! ## §2 The memory and the store -/

/-- A device is allocated: a mailbox without handlers, or a timer. -/
theorem Stands.alloc (h : Stands cfg d w) {a : Nat} (ha : d.heap a = none)
    (ht : w.target = none) (hl : ∀ line, w.lacks line = none) (hh : w.handling = none)
    (hs : w.started = none) {p : Slot} {dev : Dev} (hfit : Fits cfg p dev)
    (hnew : ∀ tm, dev = .rtit tm → tm.isStarted = false) {l : Line → Option Nat}
    (hl' : ∀ line m, l line = some m ↔ m = a ∧ ∃ mb, dev = .mbox mb) :
    Stands cfg { d with heap := Function.update d.heap a (some dev) }
      { w with target := some (p, a), lacks := l } where
  owned := h.owned.alloc (by rw [ht]; rfl) ha dev
  fits q b hb := by
    by_cases hba : b = a
    · subst hba
      rcases hb with hq | hq
      · exact absurd ha (h.live hq)
      · cases hq
        exact ⟨_, Function.update_self .., hfit⟩
    · rcases hb with hq | hq
      · obtain ⟨dev', hdev, hfit'⟩ := h.fits q b (.inl hq)
        exact ⟨dev', by simp only [Function.update_of_ne hba, hdev], hfit'⟩
      · cases hq
        exact absurd rfl hba
  isr line v m := by
    rw [h.isr line v m]
    by_cases hma : m = a
    · subst hma
      constructor
      · rintro ⟨mb, hmb, -⟩
        rw [ha] at hmb
        cases hmb
      · rintro ⟨mb, hmb, -, hne⟩
        simp only [Function.update_self, Option.some.injEq] at hmb
        exact absurd ((hl' line m).mpr ⟨rfl, mb, hmb⟩) hne
    · have hne : l line ≠ some m := fun he => hma ((hl' line m).mp he).1
      simp only [Function.update_of_ne hma, hl line, hne, ne_eq, reduceCtorEq, not_false_eq_true]
  event v f := by
    rw [h.event v f]
    simp [hh]
  started t tm htm := by
    by_cases hta : t = a
    · subst hta
      simp only [Function.update_self, Option.some.injEq] at htm
      simp [hs, hnew tm htm]
    · simp only [Function.update_of_ne hta] at htm
      exact h.started t tm htm
  filled := h.filled
  wdts := h.wdts
  ready := h.ready
  fault := h.fault

/-- The device in the hands is freed; if it is a mailbox, it has no handler
any more. -/
theorem Stands.freed (h : Stands cfg d w) {p : Slot} {a : Nat} (ht : w.target = some (p, a))
    (hl : ∀ line m, w.lacks line = some m ↔ m = a ∧ ∃ mb, d.heap a = some (.mbox mb))
    (hh : w.handling = none) :
    Stands cfg { d with heap := Function.update d.heap a none }
      { w with target := none, lacks := fun _ => none } where
  owned := h.owned.free (by rw [ht]; rfl)
  fits q b hb := by
    rcases hb with hq | hq
    · have hba : b ≠ a := fun he => h.owned.apart q b hq (by rw [he, ht]; rfl)
      obtain ⟨dev, hdev, hfit⟩ := h.fits q b (.inl hq)
      exact ⟨dev, by simp only [Function.update_of_ne hba, hdev], hfit⟩
    · cases hq
  isr line v m := by
    rw [h.isr line v m]
    by_cases hma : m = a
    · subst hma
      constructor
      · rintro ⟨mb, hmb, -, hne⟩
        exact absurd ((hl line m).mpr ⟨rfl, mb, hmb⟩) hne
      · rintro ⟨mb, hmb, -⟩
        simp at hmb
    · have hne : w.lacks line ≠ some m := fun he => hma ((hl line m).mp he).1
      simp only [Function.update_of_ne hma, hne, ne_eq, reduceCtorEq, not_false_eq_true]
  event v f := by
    rw [h.event v f]
    simp [hh]
  started t tm htm := by
    by_cases hta : t = a
    · subst hta
      simp at htm
    · simp only [Function.update_of_ne hta] at htm
      exact h.started t tm htm
  filled := h.filled
  wdts := h.wdts
  ready := h.ready
  fault := h.fault

/-- The device in the hands goes into its slot. -/
theorem Stands.put (h : Stands cfg d w) {p : Slot} {a : Nat} (ht : w.target = some (p, a))
    (hempty : d.store p = none) (ht' : w'.target = none) (hl : w'.lacks = w.lacks)
    (hh : w'.handling = w.handling) (hs : w'.started = w.started)
    (hf : ∀ q, cfg.Has w' q ↔ cfg.Has w q ∨ q = p) (hw : w'.wdts = w.wdts)
    (hr : w'.ready = w.ready) :
    Stands cfg { d with store := Function.update d.store p (some a) } w' where
  owned := by
    have howned := h.owned.put (p := p) hempty
    rw [ht] at howned
    rw [ht']
    exact howned
  fits q b hb := by
    rcases hb with hq | hq
    · by_cases hqp : q = p
      · subst hqp
        simp only [Function.update_self, Option.some.injEq] at hq
        subst hq
        exact h.fits q a (.inr ht)
      · simp only [Function.update_of_ne hqp] at hq
        exact h.fits q b (.inl hq)
    · rw [ht'] at hq
      cases hq
  isr := by rw [hl]; exact h.isr
  event := by rw [hh]; exact h.event
  started := by rw [hs]; exact h.started
  filled q := by
    rw [hf q]
    by_cases hqp : q = p
    · subst hqp
      simp
    · simp only [Function.update_of_ne hqp, hqp, or_false]
      exact h.filled q
  wdts := by rw [hw]; exact h.wdts
  ready := by rw [hr]; exact h.ready
  fault := h.fault

/-- The device in a slot is taken into the hands. -/
theorem Stands.take (h : Stands cfg d w) {p : Slot} {a : Nat} (ht : w.target = none)
    (hp : d.store p = some a) (ht' : w'.target = some (p, a)) (hl : w'.lacks = w.lacks)
    (hh : w'.handling = w.handling) (hs : w'.started = w.started)
    (hf : ∀ q, cfg.Has w' q ↔ cfg.Has w q ∧ q ≠ p) (hw : w'.wdts = w.wdts)
    (hr : w'.ready = w.ready) :
    Stands cfg { d with store := Function.update d.store p none } w' where
  owned := by
    have howned := h.owned.take (p := p) (by rw [ht]; rfl)
    rw [Registry.take, show Registry.place _ p = some a from hp] at howned
    rw [ht']
    exact howned
  fits q b hb := by
    rcases hb with hq | hq
    · by_cases hqp : q = p
      · subst hqp
        simp at hq
      · simp only [Function.update_of_ne hqp] at hq
        exact h.fits q b (.inl hq)
    · rw [ht'] at hq
      cases hq
      exact h.fits p a (.inl hp)
  isr := by rw [hl]; exact h.isr
  event := by rw [hh]; exact h.event
  started := by rw [hs]; exact h.started
  filled q := by
    rw [hf q]
    by_cases hqp : q = p
    · subst hqp
      simp
    · simp only [Function.update_of_ne hqp, ne_eq, hqp, not_false_eq_true, and_true]
      exact h.filled q
  wdts := by rw [hw]; exact h.wdts
  ready := by rw [hr]; exact h.ready
  fault := h.fault

/-- `is_started` of a timer is written. -/
theorem Stands.setStarted (h : Stands cfg d w) {t : Nat} {tm : HpscRtiTimer}
    (htm : d.heap t = some (.rtit tm)) {b : Bool} (ht : w'.target = w.target)
    (hl : w'.lacks = w.lacks) (hh : w'.handling = w.handling)
    (hb : b = true ↔ w'.started = some t)
    (hs : ∀ t', t' ≠ t → (w'.started = some t' ↔ w.started = some t'))
    (hf : ∀ q, cfg.Has w' q ↔ cfg.Has w q) (hw : w'.wdts = w.wdts) (hr : w'.ready = w.ready) :
    Stands cfg
      { d with heap := Function.update d.heap t (some (.rtit { tm with isStarted := b })) } w' where
  owned := by
    rw [ht]
    exact h.owned.modify (show (d.heap t).isSome = true by rw [htm]; rfl) _
  fits q c hc := by
    rw [ht] at hc
    obtain ⟨dev, hdev, hfit⟩ := h.fits q c hc
    by_cases hct : c = t
    · subst hct
      rw [htm] at hdev
      cases hdev
      refine ⟨_, Function.update_self .., ?_⟩
      cases q with
      | mbox id => cases hfit
      | rtit i => exact hfit
    · exact ⟨dev, by simp only [Function.update_of_ne hct, hdev], hfit⟩
  isr line v m := by
    rw [h.isr line v m, hl]
    by_cases hmt : m = t
    · subst hmt
      simp [htm]
    · simp only [Function.update_of_ne hmt]
  event v f := by
    rw [h.event v f, hh]
    refine and_congr_right fun _ => exists_congr fun t' => ?_
    by_cases htt : t' = t
    · subst htt
      simp [htm]
    · simp only [Function.update_of_ne htt]
  started t' tm' htm' := by
    by_cases htt : t' = t
    · subst htt
      simp only [Function.update_self, Option.some.injEq, Dev.rtit.injEq] at htm'
      subst htm'
      exact hb
    · simp only [Function.update_of_ne htt] at htm'
      rw [h.started t' tm' htm', hs t' htt]
  filled q := (h.filled q).trans (hf q).symm
  wdts := by rw [hw]; exact h.wdts
  ready := by rw [hr]; exact h.ready
  fault := h.fault

/-! ## §3 The handlers and the watchdogs -/

/-- An installation leaves a vector that was free to the handler. -/
theorem handlerInstall_some {irqs irqs' : Irqs} {v : Nat} {h : IrqHandler} {sc : StatusCode}
    (hi : handlerInstall irqs v h sc = some irqs') :
    (sc = .successful ∧ irqs v = none ∧ irqs' = Function.update irqs v (some h)) ∨
      (sc ≠ .successful ∧ irqs' = irqs) := by
  unfold handlerInstall at hi
  split at hi
  · split at hi
    · cases hi
      exact .inl ⟨‹_›, ‹_›, rfl⟩
    · cases hi
  · cases hi
    exact .inr ⟨‹_›, rfl⟩

theorem handlerRemove_of {irqs : Irqs} {v : Nat} {h : IrqHandler} (hi : irqs v = some h) :
    handlerRemove irqs v h = (Function.update irqs v none, .successful) := by
  rw [handlerRemove, if_pos hi]

/-- The vector of an installed handler is its own. -/
theorem Stands.isr_update (h : Stands cfg d w) {v : Nat} {x : Option IrqHandler}
    {line : Line} {v' m : Nat} (hv : v' ≠ v) :
    Function.update d.irqs v x v' = some (.mboxIsr line m) ↔
      ∃ mb, d.heap m = some (.mbox mb) ∧ (line.info mb).n = v' ∧ w.lacks line ≠ some m := by
  rw [Function.update_of_ne hv]
  exact h.isr line v' m

/-- The handler of a mailbox is installed. -/
theorem Stands.installIsr (h : Stands cfg d w) {line : Line} {m : Nat} {mb : HpscMbox}
    (hm : d.heap m = some (.mbox mb)) (hfree : d.irqs (line.info mb).n = none)
    (hlm : w.lacks line = some m) (ht : w'.target = w.target) (hl : w'.lacks line = none)
    (hl' : ∀ line', line' ≠ line → w'.lacks line' = w.lacks line')
    (hh : w'.handling = w.handling) (hs : w'.started = w.started)
    (hf : ∀ q, cfg.Has w' q ↔ cfg.Has w q) (hw : w'.wdts = w.wdts) (hr : w'.ready = w.ready) :
    Stands cfg
      { d with irqs := Function.update d.irqs (line.info mb).n (some (.mboxIsr line m)) } w' where
  owned := by rw [ht]; exact h.owned
  fits := by rw [ht]; exact h.fits
  isr line' v m' := by
    by_cases hv : v = (line.info mb).n
    · subst hv
      simp only [Function.update_self, Option.some.injEq, IrqHandler.mboxIsr.injEq]
      constructor
      · rintro ⟨rfl, rfl⟩
        exact ⟨mb, hm, rfl, by rw [hl]; simp⟩
      · rintro ⟨mb', hm', hn, hne⟩
        by_contra hcon
        -- any other handler of the vector would be there already
        have hold : d.irqs (line.info mb).n = some (.mboxIsr line' m') := by
          refine (h.isr line' _ m').mpr ⟨mb', hm', hn, ?_⟩
          by_cases hline : line' = line
          · subst hline
            rw [hlm]
            intro he
            exact hcon ⟨rfl, Option.some.inj he⟩
          · rw [← hl' line' hline]
            exact hne
        rw [hfree] at hold
        cases hold
    · rw [h.isr_update hv]
      refine exists_congr fun mb' => and_congr_right fun hm' => and_congr_right fun hn => ?_
      by_cases hline : line' = line
      · subst hline
        have hmm : m' ≠ m := fun he => by
          rw [he, hm] at hm'
          cases hm'
          exact hv hn.symm
        rw [hl, hlm]
        simp [Ne.symm hmm]
      · rw [hl' line' hline]
  event v f := by
    by_cases hv : v = (line.info mb).n
    · subst hv
      have hold := h.event (line.info mb).n f
      rw [hfree] at hold
      rw [hh]
      simp only [Function.update_self, Option.some.injEq, reduceCtorEq, false_iff]
      intro hcon
      have := hold.mpr hcon
      cases this
    · rw [hh]
      simp only [Function.update_of_ne hv]
      exact h.event v f
  started := by rw [hs]; exact h.started
  filled q := (h.filled q).trans (hf q).symm
  wdts := by rw [hw]; exact h.wdts
  ready := by rw [hr]; exact h.ready
  fault := h.fault

/-- The handler of a mailbox is removed. -/
theorem Stands.removeIsr (h : Stands cfg d w) (line : Line) (w' : View) {m : Nat} {mb : HpscMbox}
    (hm : d.heap m = some (.mbox mb)) (hlm : w.lacks line ≠ some m) (ht : w'.target = w.target)
    (hl : w'.lacks line = some m) (hold : w.lacks line = none)
    (hl' : ∀ line', line' ≠ line → w'.lacks line' = w.lacks line')
    (hh : w'.handling = w.handling) (hs : w'.started = w.started)
    (hf : ∀ q, cfg.Has w' q ↔ cfg.Has w q) (hw : w'.wdts = w.wdts) (hr : w'.ready = w.ready) :
    d.irqs (line.info mb).n = some (.mboxIsr line m) ∧
      Stands cfg { d with irqs := Function.update d.irqs (line.info mb).n none } w' := by
  have hin : d.irqs (line.info mb).n = some (.mboxIsr line m) :=
    (h.isr line _ m).mpr ⟨mb, hm, rfl, hlm⟩
  refine ⟨hin, ?_⟩
  exact
    { owned := by rw [ht]; exact h.owned
      fits := by rw [ht]; exact h.fits
      isr := by
        intro line' v m'
        by_cases hv : v = (line.info mb).n
        · subst hv
          simp only [Function.update_self, reduceCtorEq, false_iff]
          rintro ⟨mb', hm', hn, hne⟩
          -- the vector was the handler's alone
          have hother : d.irqs (line.info mb).n = some (.mboxIsr line' m') := by
            refine (h.isr line' _ m').mpr ⟨mb', hm', hn, ?_⟩
            by_cases hline : line' = line
            · rw [hline, hold]
              simp
            · rw [← hl' line' hline]
              exact hne
          rw [hin] at hother
          simp only [Option.some.injEq, IrqHandler.mboxIsr.injEq] at hother
          obtain ⟨rfl, rfl⟩ := hother
          exact hne hl
        · rw [h.isr_update hv]
          refine exists_congr fun mb' => and_congr_right fun hm' => and_congr_right fun hn => ?_
          by_cases hline : line' = line
          · subst hline
            have hmm : m' ≠ m := fun he => by
              rw [he, hm] at hm'
              cases hm'
              exact hv hn.symm
            rw [hl, hold]
            simp [Ne.symm hmm]
          · rw [hl' line' hline]
      event := by
        intro v f
        rw [hh]
        by_cases hv : v = (line.info mb).n
        · subst hv
          have hev := h.event (line.info mb).n f
          rw [hin] at hev
          simp only [Function.update_self, reduceCtorEq, false_iff]
          intro hcon
          have := hev.mpr hcon
          cases this
        · simp only [Function.update_of_ne hv]
          exact h.event v f
      started := by rw [hs]; exact h.started
      filled := fun q => (h.filled q).trans (hf q).symm
      wdts := by rw [hw]; exact h.wdts
      ready := by rw [hr]; exact h.ready
      fault := h.fault }

/-- `handle_event` is installed for a timer. -/
theorem Stands.installEvent (h : Stands cfg d w) {t : Nat} {tm : HpscRtiTimer}
    (htm : d.heap t = some (.rtit tm)) (hfree : d.irqs tm.vec = none)
    (hnone : w.handling = none) (ht : w'.target = w.target) (hl : w'.lacks = w.lacks)
    (hh : w'.handling = some t) (hs : w'.started = w.started)
    (hf : ∀ q, cfg.Has w' q ↔ cfg.Has w q) (hw : w'.wdts = w.wdts) (hr : w'.ready = w.ready) :
    Stands cfg { d with irqs := Function.update d.irqs tm.vec (some (.handleEvent d.frames)) }
      w' where
  owned := by rw [ht]; exact h.owned
  fits := by rw [ht]; exact h.fits
  isr line v m := by
    rw [hl]
    by_cases hv : v = tm.vec
    · subst hv
      have hold := h.isr line tm.vec m
      rw [hfree] at hold
      simp only [Function.update_self, Option.some.injEq, reduceCtorEq, false_iff]
      intro hcon
      have := hold.mpr hcon
      cases this
    · exact h.isr_update hv
  event v f := by
    have hold := h.event v f
    rw [hnone] at hold
    rw [hh]
    by_cases hv : v = tm.vec
    · subst hv
      simp only [Function.update_self, Option.some.injEq, IrqHandler.handleEvent.injEq]
      constructor
      · rintro rfl
        exact ⟨rfl, t, tm, rfl, htm, rfl⟩
      · rintro ⟨rfl, -⟩
        rfl
    · simp only [Function.update_of_ne hv, hold]
      constructor
      · rintro ⟨-, _, _, hcon, -⟩
        cases hcon
      · rintro ⟨-, t', tm', ht', htm', hvec⟩
        cases ht'
        rw [htm] at htm'
        cases htm'
        exact absurd hvec.symm hv
  started := by rw [hs]; exact h.started
  filled q := (h.filled q).trans (hf q).symm
  wdts := by rw [hw]; exact h.wdts
  ready := by rw [hr]; exact h.ready
  fault := h.fault

/-- `handle_event` is removed. -/
theorem Stands.removeEvent (h : Stands cfg d w) (w' : View) {t : Nat} {tm : HpscRtiTimer}
    (htm : d.heap t = some (.rtit tm)) (hsome : w.handling = some t) (ht : w'.target = w.target)
    (hl : w'.lacks = w.lacks) (hh : w'.handling = none) (hs : w'.started = w.started)
    (hf : ∀ q, cfg.Has w' q ↔ cfg.Has w q) (hw : w'.wdts = w.wdts) (hr : w'.ready = w.ready) :
    d.irqs tm.vec = some (.handleEvent d.frames) ∧
      Stands cfg { d with irqs := Function.update d.irqs tm.vec none } w' := by
  have hin : d.irqs tm.vec = some (.handleEvent d.frames) :=
    (h.event tm.vec d.frames).mpr ⟨rfl, t, tm, hsome, htm, rfl⟩
  refine ⟨hin, ?_⟩
  exact
    { owned := by rw [ht]; exact h.owned
      fits := by rw [ht]; exact h.fits
      isr := by
        intro line v m
        rw [hl]
        by_cases hv : v = tm.vec
        · subst hv
          have hold := h.isr line tm.vec m
          rw [hin] at hold
          simp only [Function.update_self, reduceCtorEq, false_iff]
          intro hcon
          have := hold.mpr hcon
          cases this
        · exact h.isr_update hv
      event := by
        intro v f
        rw [hh]
        constructor
        · intro hcon
          have hv : v ≠ tm.vec := fun he => by
            subst he
            simp at hcon
          simp only [Function.update_of_ne hv] at hcon
          obtain ⟨-, t', tm', ht', htm', hvec⟩ := (h.event v f).mp hcon
          rw [hsome] at ht'
          cases ht'
          rw [htm] at htm'
          cases htm'
          exact absurd hvec.symm hv
        · rintro ⟨-, _, _, hcon, -⟩
          cases hcon
      started := by rw [hs]; exact h.started
      filled := fun q => (h.filled q).trans (hf q).symm
      wdts := by rw [hw]; exact h.wdts
      ready := by rw [hr]; exact h.ready
      fault := h.fault }

/-- The rest of the system installs or removes handlers where it may. -/
theorem Stands.others (h : Stands cfg d w) {v : Nat}
    (hv : d.irqs v = none ∨ d.irqs v = some .other) (installed : Bool) :
    Stands cfg
      { d with irqs := Function.update d.irqs v (if installed then some .other else none) } w where
  owned := h.owned
  fits := h.fits
  isr line v' m := by
    by_cases hvv : v' = v
    · subst hvv
      rw [← h.isr line v' m]
      rcases hv with hv | hv <;> cases installed <;> simp [hv]
    · exact h.isr_update hvv
  event v' f := by
    rw [← h.event v' f]
    by_cases hvv : v' = v
    · subst hvv
      rcases hv with hv | hv <;> cases installed <;> simp [hv]
    · simp only [Function.update_of_ne hvv]
  started := h.started
  filled := h.filled
  wdts := h.wdts
  ready := h.ready
  fault := h.fault

/-- A call of `hpsc_rti_timer_test_device` begins. -/
theorem Stands.frame (h : Stands cfg d w) (hh : w.handling = none) :
    Stands cfg { d with frames := d.frames + 1 } w where
  owned := h.owned
  fits := h.fits
  isr := h.isr
  event v f := by
    rw [h.event v f]
    simp [hh]
  started := h.started
  filled := h.filled
  wdts := h.wdts
  ready := h.ready
  fault := h.fault

/-- The watchdogs change. -/
theorem Stands.setWdts (h : Stands cfg d w) {wdts : Nat → Ptr} {ready : Nat → Bool}
    (ht : w'.target = w.target) (hl : w'.lacks = w.lacks) (hh : w'.handling = w.handling)
    (hs : w'.started = w.started) (hf : ∀ q, cfg.Has w' q ↔ cfg.Has w q)
    (hw : ∀ c x, wdts c = some x ↔ x = c ∧ cfg.wdt = true ∧ Within w'.wdts c)
    (hr : ∀ c, ready c = true ↔ cfg.wdt = true ∧ Within w'.ready c) :
    Stands cfg { d with wdts := wdts, wdtReady := ready } w' where
  owned := by rw [ht]; exact h.owned
  fits := by rw [ht]; exact h.fits
  isr := by rw [hl]; exact h.isr
  event := by rw [hh]; exact h.event
  started := by rw [hs]; exact h.started
  filled q := (h.filled q).trans (hf q).symm
  wdts := hw
  ready := hr
  fault := h.fault

end HpscRtems.Devices
