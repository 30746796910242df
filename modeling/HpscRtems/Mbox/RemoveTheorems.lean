/-
HpscRtems.Mbox.RemoveTheorems — what `hpsc_mbox_remove` reads and writes.

It releases every channel, claimed or not. A release follows `chan->base`
and tests `chan->owner`, which `hpsc_mbox_init` leaves for the first claim
to set. `removeAccesses` lists the record fields read and the registers
accessed, in order; its register accesses are those of the model
(`removeAccesses_regs`).
-/
import HpscRtems.Mbox.CoherenceTheorems

namespace HpscRtems.Mbox

open Machine Rtems

/-! ## §1 Accesses -/

/-- The fields of a channel record that a release reads. -/
inductive ChanField where
  | base
  | owner
  deriving DecidableEq

inductive Access where
  | field (i : Fin channels) (f : ChanField)
  /-- `EVENT_ENABLE &= ~bits` -/
  | clearEnable (addr : Nat) (bits : Word)
  /-- `CONFIG = v`; the device may not take the value. -/
  | storeConfig (addr : Nat) (v : Word) (takes : Bool)

/-- The register block accessed. -/
def Access.addr? : Access → Option Nat
  | .field _ _ => none
  | .clearEnable addr _ | .storeConfig addr _ _ => some addr

def Access.apply (regs : Nat → ChanBase) : Access → Nat → ChanBase
  | .field _ _ => regs
  | .clearEnable addr bits =>
    Function.update regs addr { regs addr with enable := (regs addr).enable &&& ~~~bits }
  | .storeConfig addr v takes => Function.update regs addr ((regs addr).writeConfig takes v)

/-- The accesses of `hpsc_mbox_chan_release`. -/
def releaseAccesses (env : CallEnv) (s : Mailbox) (i : Fin channels) : List Access :=
  if env.inIsr then []
  else
    let addr := (s.chan i).base
    [.field i .base, .clearEnable addr s.driverBits, .field i .owner] ++
      if (s.chan i).owner ≠ 0 then [.field i .base, .storeConfig addr 0 env.takes] else []

/-- The accesses of the loop of `hpsc_mbox_remove`. -/
def removeAccesses (inIsr : Bool) (takes : Fin channels → Bool) :
    Mailbox → List (Fin channels) → List Access
  | _, [] => []
  | s, i :: is =>
    releaseAccesses ⟨inIsr, takes i⟩ s i ++
      removeAccesses inIsr takes (hpscMboxChanRelease ⟨inIsr, takes i⟩ s i).1 is

theorem releaseAccesses_regs (env : CallEnv) (s : Mailbox) (i : Fin channels) :
    (releaseAccesses env s i).foldl Access.apply s.regs = (hpscMboxChanRelease env s i).1.regs := by
  unfold releaseAccesses hpscMboxChanRelease
  cases hisr : env.inIsr with
  | true => rfl
  | false =>
    simp only [Bool.false_eq_true, if_false, Mailbox.chan_setBlock]
    by_cases howner : (s.chan i).owner = 0
    · simp only [howner, ne_eq, not_true_eq_false, if_false, List.append_nil]
      rfl
    · simp only [howner, ne_eq, not_false_eq_true, if_true]
      rfl

theorem removeAccesses_regs (inIsr : Bool) (takes : Fin channels → Bool) (s : Mailbox)
    (is : List (Fin channels)) :
    (removeAccesses inIsr takes s is).foldl Access.apply s.regs =
      (releaseAll inIsr takes s is).regs := by
  induction is generalizing s with
  | nil => rfl
  | cons i is ih =>
    rw [removeAccesses, List.foldl_append, releaseAccesses_regs, ih]
    rfl

/-- The accesses stay with what is the driver's own, in the state in which
`hpsc_mbox_remove` is called. -/
structure OnlyOwn (s : Driven) (l : List Access) : Prop where
  /-- A record field that is read has been set by a claim. -/
  initialised : ∀ i f, .field i f ∈ l → (s.hist i).claimed = true
  ownBlocks : ∀ a ∈ l, ∀ addr, a.addr? = some addr →
    ∃ i : Fin channels, addr = s.mailbox.mbox.base + i.val * chanBaseSize
  ownedConfig : ∀ addr v takes, .storeConfig addr v takes ∈ l →
    ∃ i : Fin channels, addr = s.mailbox.mbox.base + i.val * chanBaseSize ∧
      (s.hist i).ownership = .held
  driverBits : ∀ addr bits, .clearEnable addr bits ∈ l → bits = s.mailbox.driverBits

/-! ## §2 Records -/

/-- What the records of claimed channels hold, after calls in any order. -/
structure RecordInv (s : Driven) : Prop where
  based : ∀ i : Fin channels, (s.hist i).claimed = true →
    (s.mailbox.chan i).base = s.mailbox.mbox.base + i.val * chanBaseSize
  active : ∀ i, (s.mailbox.chan i).active = true → (s.hist i).claimed = true
  held : ∀ i, (s.hist i).claimed = true → (s.mailbox.chan i).owner ≠ 0 →
    (s.hist i).ownership = .held

theorem destroy_chan (s : Mailbox) (i : Fin channels) :
    (hpscMboxChanDestroy s i).chan i = destroyChan (s.chan i) :=
  Mailbox.chan_setChan s i (destroyChan (s.chan i)) (s.mbox.inst_eq i)

/-- A release leaves the same records whatever its registers are. -/
theorem release_mbox {env : CallEnv} (s : Mailbox) (i : Fin channels) (hisr : env.inIsr = false) :
    (hpscMboxChanRelease env s i).1.mbox = (hpscMboxChanDestroy s i).mbox := by
  simp only [hpscMboxChanRelease, hisr, Bool.false_eq_true, if_false]
  split <;> rfl

/-- A call within the record of channel `i` keeps the invariant if it keeps it there. -/
theorem RecordInv.update {s : Driven} {m : Mailbox} {i : Fin channels} {h : ChanHistory}
    (hi : RecordInv s) (hbase : m.mbox.base = s.mailbox.mbox.base)
    (hchan : ∀ j, j ≠ i → m.chan j = s.mailbox.chan j)
    (hb : h.claimed = true → (m.chan i).base = s.mailbox.mbox.base + i.val * chanBaseSize)
    (ha : (m.chan i).active = true → h.claimed = true)
    (ho : h.claimed = true → (m.chan i).owner ≠ 0 → h.ownership = .held) :
    RecordInv ⟨m, Function.update s.hist i h⟩ := by
  constructor
  case based =>
    intro j
    show (Function.update s.hist i h j).claimed = true → (m.chan j).base = m.mbox.base + _
    rw [hbase]
    by_cases hj : j = i
    · subst hj
      rw [Function.update_self]
      exact hb
    · rw [Function.update_of_ne hj, hchan j hj]
      exact hi.based j
  case active =>
    intro j
    show (m.chan j).active = true → (Function.update s.hist i h j).claimed = true
    by_cases hj : j = i
    · subst hj
      rw [Function.update_self]
      exact ha
    · rw [Function.update_of_ne hj, hchan j hj]
      exact hi.active j
  case held =>
    intro j
    show (Function.update s.hist i h j).claimed = true → (m.chan j).owner ≠ 0 →
      (Function.update s.hist i h j).ownership = .held
    by_cases hj : j = i
    · subst hj
      rw [Function.update_self]
      exact ho
    · rw [Function.update_of_ne hj, hchan j hj]
      exact hi.held j

/-- The record of its channel after a claim from a task: destroyed where the
channel was active, and otherwise initialised, and destroyed on a failure. -/
theorem claim_record {env : CallEnv} {s : Mailbox} {i : Fin channels} (hisr : env.inIsr = false)
    (a : ClaimArgs) :
    ((s.chan i).active = true ∧
        (hpscMboxChanClaim env s i a).1.chan i = destroyChan (s.chan i)) ∨
      ((hpscMboxChanClaim env s i a).2 = .successful ∧
        (hpscMboxChanClaim env s i a).1.chan i = initChan s.mbox.base i.val a) ∨
      (hpscMboxChanClaim env s i a).1.chan i = destroyChan (initChan s.mbox.base i.val a) := by
  cases hact : (s.chan i).active with
  | true =>
    rw [claim_active env hisr hact]
    exact Or.inl ⟨rfl, destroy_chan s i⟩
  | false =>
    rcases claim_inactive env hisr hact a with h | ⟨sc, _, h⟩
    · rw [h]
      exact Or.inr (Or.inl ⟨rfl, claimedState_chan s i a⟩)
    · rw [h, ← hpscMboxChanInit_chan s i a]
      exact Or.inr (Or.inr (destroy_chan _ i))

theorem recordInv_step {s : Driven} (hi : RecordInv s) (op : MboxOp) :
    RecordInv (drivenStep s op).1 := by
  cases op with
  | claim env i a =>
    simp only [drivenStep, mboxStep, Driven.note]
    cases hisr : env.inIsr with
    | true => simpa [hpscMboxChanClaim, hisr] using hi
    | false =>
      have hf := claim_frame env s.mailbox i a
      rcases claim_record hisr a with ⟨hact, hchan⟩ | ⟨hsc, hchan⟩ | hchan
      · refine hi.update hf.base hf.chan ?_ (fun _ => rfl) ?_
        · rw [hchan]
          exact fun _ => hi.based i (hi.active i hact)
        · rw [hchan]
          exact fun _ ho => absurd rfl ho
      · refine hi.update hf.base hf.chan ?_ (fun _ => rfl) ?_
        · rw [hchan]
          exact fun _ => rfl
        · rw [hchan]
          exact fun _ ho => if_pos ⟨hsc, ho⟩
      · refine hi.update hf.base hf.chan ?_ (fun _ => rfl) ?_
        · rw [hchan]
          exact fun _ => rfl
        · rw [hchan]
          exact fun _ ho => absurd rfl ho
  | release env i =>
    simp only [drivenStep, mboxStep, Driven.note]
    cases hisr : env.inIsr with
    | true => simpa [hpscMboxChanRelease, hisr] using hi
    | false =>
      have hm := release_mbox s.mailbox i hisr
      have hf := destroy_frame s.mailbox i
      have hchan : ∀ j, (hpscMboxChanRelease env s.mailbox i).1.chan j =
          (hpscMboxChanDestroy s.mailbox i).chan j := fun j => by
        simp only [Mailbox.chan, hm]
      have hbase : (hpscMboxChanRelease env s.mailbox i).1.mbox.base = s.mailbox.mbox.base := by
        rw [hm]
        exact hf.base
      have hclaimed : ((s.hist i).release env.takes).claimed = (s.hist i).claimed := by
        unfold ChanHistory.release
        split <;> rfl
      refine hi.update hbase (fun j hj => (hchan j).trans (hf.chan j hj)) ?_ ?_ ?_
      · rw [hchan, destroy_chan, hclaimed]
        exact hi.based i
      · rw [hchan, destroy_chan]
        exact fun hk => by cases hk
      · rw [hchan, destroy_chan]
        exact fun _ ho => absurd rfl ho

theorem recordInv_init (heap : Fin channels → HpscMboxChan) (base : Nat)
    (infoA infoB : HpscMboxIrqInfo) (regs : Nat → ChanBase) :
    RecordInv (Driven.init (hpscMboxInit heap base infoA infoB) regs) where
  based _ h := by cases h
  active _ h := by cases h
  held _ h := by cases h

theorem recordInv_final {s : Driven} (hi : RecordInv s) (ops : List MboxOp) :
    RecordInv (final drivenStep s ops) := by
  induction ops generalizing s with
  | nil => exact hi
  | cons op ops ih => exact ih (recordInv_step hi op)

/-- A task claims channel `i`. -/
def MboxOp.claims (i : Fin channels) : MboxOp → Prop
  | .claim env j _ => env.inIsr = false ∧ j = i
  | .release _ _ => False

theorem claimed_step (s : Driven) (op : MboxOp) (i : Fin channels) :
    ((drivenStep s op).1.hist i).claimed = true ↔ (s.hist i).claimed = true ∨ op.claims i := by
  cases op with
  | claim env j a =>
    simp only [drivenStep, Driven.note, MboxOp.claims]
    cases env.inIsr with
    | true => simp
    | false =>
      by_cases hj : j = i
      · subst hj
        simp [ChanHistory.claim]
      · simp [Function.update_of_ne (Ne.symm hj), hj]
  | release env j =>
    simp only [drivenStep, Driven.note, MboxOp.claims, or_false]
    cases env.inIsr with
    | true => simp
    | false =>
      by_cases hj : j = i
      · subst hj
        simp only [Bool.false_eq_true, if_false, Function.update_self, ChanHistory.release]
        split <;> rfl
      · simp [Function.update_of_ne (Ne.symm hj)]

theorem claimed_final (s : Driven) (ops : List MboxOp) (i : Fin channels) :
    ((final drivenStep s ops).hist i).claimed = true ↔
      (s.hist i).claimed = true ∨ ∃ op ∈ ops, op.claims i := by
  induction ops generalizing s with
  | nil => simp [final]
  | cons op ops ih =>
    rw [final, ih, claimed_step]
    simp [or_assoc]

/-! ## §3 Remove -/

/-- The accesses of a release, whatever its channel's record holds. -/
theorem mem_releaseAccesses {env : CallEnv} {s : Mailbox} {i : Fin channels} {x : Access}
    (h : x ∈ releaseAccesses env s i) :
    (∃ f, x = .field i f) ∨ x = .clearEnable (s.chan i).base s.driverBits ∨
      (s.chan i).owner ≠ 0 ∧ x = .storeConfig (s.chan i).base 0 env.takes := by
  unfold releaseAccesses at h
  split at h
  · cases h
  · rcases List.mem_append.mp h with h | h
    · simp only [List.mem_cons, List.not_mem_nil, or_false] at h
      rcases h with rfl | rfl | rfl
      · exact Or.inl ⟨_, rfl⟩
      · exact Or.inr (Or.inl rfl)
      · exact Or.inl ⟨_, rfl⟩
    · split at h
      · rename_i howner
        simp only [List.mem_cons, List.not_mem_nil, or_false] at h
        rcases h with rfl | rfl
        · exact Or.inl ⟨_, rfl⟩
        · exact Or.inr (Or.inr ⟨howner, rfl⟩)
      · cases h

/-- A release of a channel that was claimed stays with what is the driver's. -/
theorem releaseAccesses_own {s : Driven} (hi : RecordInv s) (env : CallEnv) {i : Fin channels}
    (hcl : (s.hist i).claimed = true) : OnlyOwn s (releaseAccesses env s.mailbox i) := by
  have hbase := hi.based i hcl
  constructor
  case initialised =>
    intro j f hmem
    rcases mem_releaseAccesses hmem with ⟨_, h⟩ | h | ⟨_, h⟩ <;> cases h
    exact hcl
  case ownBlocks =>
    intro x hmem addr haddr
    refine ⟨i, hbase ▸ ?_⟩
    rcases mem_releaseAccesses hmem with ⟨_, rfl⟩ | rfl | ⟨_, rfl⟩ <;> cases haddr <;> rfl
  case ownedConfig =>
    intro addr v takes hmem
    rcases mem_releaseAccesses hmem with ⟨_, h⟩ | h | ⟨howner, h⟩ <;> cases h
    exact ⟨i, hbase, hi.held i hcl howner⟩
  case driverBits =>
    intro addr bits hmem
    rcases mem_releaseAccesses hmem with ⟨_, h⟩ | h | ⟨_, h⟩ <;> cases h
    rfl

theorem onlyOwn_nil (s : Driven) : OnlyOwn s [] where
  initialised _ _ h := by cases h
  ownBlocks _ h := by cases h
  ownedConfig _ _ _ h := by cases h
  driverBits _ _ h := by cases h

theorem OnlyOwn.append {s : Driven} {l l' : List Access} (h : OnlyOwn s l) (h' : OnlyOwn s l') :
    OnlyOwn s (l ++ l') where
  initialised i f hmem := (List.mem_append.mp hmem).elim (h.initialised i f) (h'.initialised i f)
  ownBlocks x hmem := (List.mem_append.mp hmem).elim (h.ownBlocks x) (h'.ownBlocks x)
  ownedConfig addr v t hmem :=
    (List.mem_append.mp hmem).elim (h.ownedConfig addr v t) (h'.ownedConfig addr v t)
  driverBits addr bits hmem :=
    (List.mem_append.mp hmem).elim (h.driverBits addr bits) (h'.driverBits addr bits)

/-- What is the driver's after a release was so before it. -/
theorem OnlyOwn.before_release {s : Driven} {env : CallEnv} {i : Fin channels} {l : List Access}
    (h : OnlyOwn (drivenStep s (.release env i)).1 l) : OnlyOwn s l := by
  have hmbox : (drivenStep s (.release env i)).1.mailbox.mbox.base = s.mailbox.mbox.base ∧
      (drivenStep s (.release env i)).1.mailbox.driverBits = s.mailbox.driverBits := by
    simp only [drivenStep, mboxStep, Mailbox.driverBits]
    cases hisr : env.inIsr with
    | true => simp [hpscMboxChanRelease, hisr]
    | false =>
      rw [release_mbox s.mailbox i hisr]
      exact ⟨rfl, rfl⟩
  have hheld : ∀ j, ((drivenStep s (.release env i)).1.hist j).ownership = .held →
      (s.hist j).ownership = .held := by
    intro j
    simp only [drivenStep, Driven.note]
    cases env.inIsr with
    | true => simp
    | false =>
      by_cases hj : j = i
      · subst hj
        simp only [Bool.false_eq_true, if_false, Function.update_self, ChanHistory.release]
        split
        · exact fun hk => by cases hk
        · exact fun hk => hk
      · simp [Function.update_of_ne hj]
  constructor
  case initialised =>
    intro j f hmem
    have hcl := (claimed_step s (.release env i) j).mp (h.initialised j f hmem)
    exact hcl.elim (fun hk => hk) (fun hk => hk.elim)
  case ownBlocks =>
    intro x hmem addr haddr
    rw [← hmbox.1]
    exact h.ownBlocks x hmem addr haddr
  case ownedConfig =>
    intro addr v t hmem
    obtain ⟨j, haddr, hj⟩ := h.ownedConfig addr v t hmem
    exact ⟨j, by rw [← hmbox.1]; exact haddr, hheld j hj⟩
  case driverBits =>
    intro addr bits hmem
    rw [← hmbox.2]
    exact h.driverBits addr bits hmem

theorem removeAccesses_own {s : Driven} (hi : RecordInv s) (inIsr : Bool)
    (takes : Fin channels → Bool) {is : List (Fin channels)}
    (hcl : ∀ i ∈ is, (s.hist i).claimed = true) :
    OnlyOwn s (removeAccesses inIsr takes s.mailbox is) := by
  induction is generalizing s with
  | nil => exact onlyOwn_nil s
  | cons i is ih =>
    have hstep := recordInv_step hi (.release ⟨inIsr, takes i⟩ i)
    have hrest := ih hstep fun j hj =>
      (claimed_step s _ j).mpr (Or.inl (hcl j (List.mem_cons_of_mem _ hj)))
    exact (releaseAccesses_own hi ⟨inIsr, takes i⟩ (hcl i (List.mem_cons_self ..))).append
      hrest.before_release

/-- The pointer of every channel is followed. -/
theorem field_mem_removeAccesses (takes : Fin channels → Bool) (s : Mailbox)
    {is : List (Fin channels)} {i : Fin channels} (h : i ∈ is) :
    .field i .base ∈ removeAccesses false takes s is := by
  induction is generalizing s with
  | nil => cases h
  | cons j is ih =>
    rcases List.mem_cons.mp h with rfl | h
    · exact List.mem_append_left _ (by simp [releaseAccesses])
    · exact List.mem_append_right _ (ih _ h)

theorem removeAccesses_isr (takes : Fin channels → Bool) (s : Mailbox) (is : List (Fin channels)) :
    removeAccesses true takes s is = [] := by
  induction is generalizing s with
  | nil => rfl
  | cons i is ih => exact ih _

/-- **A removal stays with what is the driver's exactly when every channel
has been claimed before** (or it is made from an interrupt handler, and
releases nothing). -/
theorem remove_onlyOwn_iff (heap : Fin channels → HpscMboxChan) (base : Nat)
    (infoA infoB : HpscMboxIrqInfo) (scA scB : StatusCode) (mbox : HpscMbox)
    (hprobe : hpscMboxProbe (some heap) base infoA infoB scA scB = (some mbox, .successful))
    (regs : Nat → ChanBase) (ops : List MboxOp) (inIsr : Bool) (takes : Fin channels → Bool) :
    OnlyOwn (final drivenStep (Driven.init mbox regs) ops)
        (removeAccesses inIsr takes (final drivenStep (Driven.init mbox regs) ops).mailbox
          (List.finRange channels)) ↔
      inIsr = true ∨ ∀ i, ∃ op ∈ ops, op.claims i := by
  have hmbox : mbox = hpscMboxInit heap base infoA infoB := by
    simp only [hpscMboxProbe] at hprobe
    split at hprobe
    · cases hprobe
    · split at hprobe
      · cases hprobe
      · exact (Option.some.inj (Prod.mk.inj hprobe).1).symm
  have hinv : RecordInv (final drivenStep (Driven.init mbox regs) ops) := by
    rw [hmbox]
    exact recordInv_final (recordInv_init heap base infoA infoB regs) ops
  have hclaimed : ∀ i, ((final drivenStep (Driven.init mbox regs) ops).hist i).claimed = true ↔
      ∃ op ∈ ops, op.claims i := fun i =>
    (claimed_final _ ops i).trans ⟨fun h => h.elim (fun hk => by cases hk) (fun hk => hk), Or.inr⟩
  cases inIsr with
  | true =>
    refine iff_of_true ?_ (Or.inl rfl)
    rw [removeAccesses_isr]
    exact onlyOwn_nil _
  | false =>
    simp only [Bool.false_eq_true, false_or]
    constructor
    · intro h i
      exact (hclaimed i).mp
        (h.initialised i .base (field_mem_removeAccesses takes _ (List.mem_finRange i)))
    · intro h
      exact removeAccesses_own hinv false takes fun i _ => (hclaimed i).mpr (h i)

/-- Every channel is claimed by a subscriber. -/
def claimEach : List MboxOp :=
  (List.finRange channels).map fun i =>
    .claim ⟨false, true⟩ i ⟨0, 0, 0, some (.other 64), none, none⟩

theorem claimEach_onlyOwn :
    OnlyOwn (final drivenStep (Driven.init probed.mbox probed.regs) claimEach)
      (removeAccesses false (fun _ => true)
        (final drivenStep (Driven.init probed.mbox probed.regs) claimEach).mailbox
        (List.finRange channels)) :=
  (remove_onlyOwn_iff (fun _ => ⟨0, 0, ⟨none, none⟩, ⟨none, none⟩, 0, 0, 0, false⟩) 0x1000 ⟨32, 0⟩
    ⟨33, 1⟩ .successful .successful probed.mbox rfl probed.regs claimEach false fun _ => true).mpr
    (Or.inr fun i => ⟨_, List.mem_map_of_mem (List.mem_finRange i), rfl, rfl⟩)

/-- A mailbox that is removed right after its probe: the pointers of its
channels are what the memory held. -/
theorem remove_probed_not_onlyOwn :
    ¬ ∀ (heap : Fin channels → HpscMboxChan) (base : Nat) (infoA infoB : HpscMboxIrqInfo)
      (scA scB : StatusCode) (mbox : HpscMbox),
      hpscMboxProbe (some heap) base infoA infoB scA scB = (some mbox, .successful) →
      ∀ (regs : Nat → ChanBase) (ops : List MboxOp) (takes : Fin channels → Bool),
        OnlyOwn (final drivenStep (Driven.init mbox regs) ops)
          (removeAccesses false takes (final drivenStep (Driven.init mbox regs) ops).mailbox
            (List.finRange channels)) := by
  intro hall
  have hown := hall (fun _ => ⟨0x40, 0, ⟨none, none⟩, ⟨none, none⟩, 1, 0, 0, false⟩) 0x1000 ⟨32, 0⟩
    ⟨33, 1⟩ .successful .successful _ rfl probed.regs [] fun _ => true
  have hcl := hown.initialised 0 .base (field_mem_removeAccesses _ _ (List.mem_finRange 0))
  cases hcl

end HpscRtems.Mbox
