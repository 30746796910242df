/-
HpscRtems.Mbox.CoherenceTheorems — the driver's records and the registers
of the channels agree.

A run is any list of claims and releases in which a claim finds its channel
inactive and a release finds one that was claimed before. `Driven` keeps,
next to the mailbox, what the calls so far have done to each channel; the
program has no such record, and until its first claim a channel has no
record worth reading at all. The registers of a channel are looked up at
its own address, not through its pointer.
-/
import HpscRtems.Mbox.ClaimTheorems

namespace HpscRtems.Mbox

open Machine Rtems

/-! ## §1 The history of a channel -/

/-- What became of the last claim of a channel as its owner. -/
inductive Ownership where
  | never
  | held
  /-- Released; `taken` says whether the device took the reset of CONFIG. -/
  | released (taken : Bool)
  deriving DecidableEq

structure ChanHistory where
  /-- A task has claimed the channel, with or without success. -/
  claimed : Bool
  ownership : Ownership
  deriving DecidableEq

def ChanHistory.claim (h : ChanHistory) (a : ClaimArgs) (sc : StatusCode) : ChanHistory where
  claimed := true
  ownership := if sc = .successful ∧ a.owner ≠ 0 then .held else h.ownership

def ChanHistory.release (h : ChanHistory) (taken : Bool) : ChanHistory :=
  if h.ownership = .held then { h with ownership := .released taken } else h

/-- A mailbox and the history of its channels. -/
structure Driven where
  mailbox : Mailbox
  hist : Fin channels → ChanHistory

/-- The histories after a call that returned `sc`. -/
def Driven.note (s : Driven) (sc : StatusCode) : MboxOp → Fin channels → ChanHistory
  | .claim env i a =>
    if env.inIsr then s.hist else Function.update s.hist i ((s.hist i).claim a sc)
  | .release env i =>
    if env.inIsr then s.hist else Function.update s.hist i ((s.hist i).release env.takes)

def drivenStep (s : Driven) (op : MboxOp) : Driven × StatusCode :=
  let r := mboxStep s.mailbox op
  (⟨r.1, s.note r.2 op⟩, r.2)

/-- A mailbox just initialised. -/
def Driven.init (mbox : HpscMbox) (regs : Nat → ChanBase) : Driven :=
  ⟨⟨mbox, regs⟩, fun _ => ⟨false, .never⟩⟩

/-- A claim finds its channel inactive, and a release one that was claimed. -/
def InTurn (s : Driven) : MboxOp → Prop
  | .claim _ i _ => (s.mailbox.chan i).active = false
  | .release _ i => (s.hist i).claimed = true

/-! ## §2 Coherence -/

namespace Mailbox

/-- The register block of channel `i`. -/
def ownBlock (s : Mailbox) (i : Fin channels) : ChanBase :=
  s.regs (s.mbox.base + i.val * chanBaseSize)

/-- The driver's two bits of EVENT_ENABLE. -/
def driverBits (s : Mailbox) : Word := intA s.mbox.intA.idx ||| intB s.mbox.intB.idx

end Mailbox

/-- The record `c`, the registers `b` and the history `h` of a channel agree. -/
structure ChanCoherent (bitA bitB : Word) (c : HpscMboxChan) (b : ChanBase) (h : ChanHistory) :
    Prop where
  enabledA : c.active = true → hasEvent b.enable bitA = c.intA.cb.isSome
  enabledB : c.active = true → hasEvent b.enable bitB = c.intB.cb.isSome
  config : c.active = true → c.owner ≠ 0 → b.config = configWord c.owner c.src c.dest
  disabled : c.active = false → hasEvent b.enable bitA = false ∧ hasEvent b.enable bitB = false
  cleared : c.active = false → h.claimed = true →
    c.owner = 0 ∧ c.intA.cb = none ∧ c.intB.cb = none
  /-- CONFIG is 0 once the last claim as owner has been released and the
  device took the reset. -/
  reset : h.ownership = .released true → b.config = 0

/-- All channels are coherent, and what is not the driver's is as it was in
the registers `regs`. -/
structure Coherent (regs : Nat → ChanBase) (s : Driven) : Prop where
  chan : ∀ i, ChanCoherent (intA s.mailbox.mbox.intA.idx) (intB s.mailbox.mbox.intB.idx)
    (s.mailbox.chan i) (s.mailbox.ownBlock i) (s.hist i)
  foreignBits : ∀ addr, (s.mailbox.regs addr).enable &&& ~~~s.mailbox.driverBits =
    (regs addr).enable &&& ~~~s.mailbox.driverBits
  neverOwned : ∀ i, (s.hist i).ownership = .never → (s.mailbox.ownBlock i).config =
    (regs (s.mailbox.mbox.base + i.val * chanBaseSize)).config
  elsewhere : ∀ addr, (∀ i : Fin channels, addr ≠ s.mailbox.mbox.base + i.val * chanBaseSize) →
    s.mailbox.regs addr = regs addr

/-! ## §3 Enable bits -/

/-- The bits a claim with these callbacks asks for. -/
def claimBits (s : Mailbox) (a : ClaimArgs) : Word :=
  (if a.cbA.isSome then intA s.mbox.intA.idx else 0) |||
    (if a.cbB.isSome then intB s.mbox.intB.idx else 0)

theorem intA_and_intB {i j : Nat} (hi : i < 16) (hj : j < 16) : intA i &&& intB j = 0#32 := by
  have hall : ∀ k l : Fin 16, intA k.val &&& intB l.val = 0#32 := by decide
  exact hall ⟨i, hi⟩ ⟨j, hj⟩

/-- One of two disjoint bits, each set or not. -/
theorem hasEvent_bits {x bitA bitB : Word} (hne : bitA ≠ 0#32) (hdis : bitB &&& bitA = 0#32)
    (hx : hasEvent x bitA = false) (p q : Bool) :
    hasEvent (x ||| ((if p then bitA else 0) ||| (if q then bitB else 0))) bitA = p := by
  have hB : hasEvent (if q then bitB else 0) bitA = false := by
    cases q
    · exact hasEvent_zero bitA
    · simp [hasEvent, hdis]
  have hA : hasEvent (if p then bitA else 0) bitA = p := by
    cases p
    · exact hasEvent_zero bitA
    · simp [hasEvent, hne]
  rw [hasEvent_or, hasEvent_or, hx, hA, hB, Bool.false_or, Bool.or_false]

theorem hasEvent_clear_both (x a b : Word) :
    hasEvent (x &&& ~~~(a ||| b)) a = false ∧ hasEvent (x &&& ~~~(a ||| b)) b = false := by
  have hle : ∀ m : Word, (a ||| b) &&& m = m → hasEvent (x &&& ~~~(a ||| b)) m = false := by
    intro m hm
    have hz : (x &&& ~~~(a ||| b)) &&& m = 0#32 := by
      rw [← hm]
      ext k hk
      simp only [BitVec.getElem_and, BitVec.getElem_not, BitVec.getElem_zero]
      cases (a ||| b)[k] <;> simp
    simp [hasEvent, hz]
  constructor
  · refine hle a ?_
    ext k hk
    simp only [BitVec.getElem_and, BitVec.getElem_or]
    cases a[k] <;> simp
  · refine hle b ?_
    ext k hk
    simp only [BitVec.getElem_and, BitVec.getElem_or]
    cases b[k] <;> simp

/-- Setting some of the bits `a` and `b` leaves the others. -/
theorem or_foreign (x a b : Word) (p q : Bool) :
    (x ||| ((if p then a else 0) ||| (if q then b else 0))) &&& ~~~(a ||| b) =
      x &&& ~~~(a ||| b) := by
  ext k hk
  simp only [BitVec.getElem_and, BitVec.getElem_or, BitVec.getElem_not]
  cases p <;> cases q <;> cases ha : a[k] <;> cases hb : b[k] <;> simp [ha, hb]

theorem and_foreign (x m : Word) : (x &&& ~~~m) &&& ~~~m = x &&& ~~~m := by
  rw [BitVec.and_assoc, BitVec.and_self]

/-! ## §4 What the calls do to their own channel -/

/-- The registers after a claim that succeeds. -/
theorem claimedState_ownBlock (s : Mailbox) (i : Fin channels) (a : ClaimArgs) :
    (claimedState s i a).ownBlock i =
      { s.ownBlock i with
        config := if a.owner ≠ 0 then configWord a.owner a.src a.dest else (s.ownBlock i).config
        enable := (s.ownBlock i).enable ||| claimBits s a } := by
  have hchan := hpscMboxChanInit_chan s i a
  have hinit : (hpscMboxChanInit s i a).block i = s.ownBlock i := by
    rw [Mailbox.block, hchan]
    rfl
  have hbits : enableBits ((hpscMboxChanInit s i a).setBlock i (claimedBlock s i a)) i =
      claimBits s a := by
    simp only [enableBits, Mailbox.chan_setBlock, hchan]
    rfl
  have hown : (claimedState s i a).ownBlock i = (claimedState s i a).block i := by
    rw [Mailbox.block, claimedState_chan, Mailbox.ownBlock, (claimedState_frame s i a).base]
    rfl
  rw [hown, claimedState, enableInterrupts, Mailbox.block_setBlock, Mailbox.block_setBlock, hbits,
    claimedBlock, hinit]
  by_cases howner : a.owner = 0#8 <;> simp [howner]

/-- The record and the registers after a release from a task. -/
theorem release_own {env : CallEnv} {s : Mailbox} {i : Fin channels} (hisr : env.inIsr = false)
    (hbase : (s.chan i).base = s.mbox.base + i.val * chanBaseSize) :
    (hpscMboxChanRelease env s i).1.chan i = destroyChan (s.chan i) ∧
      (hpscMboxChanRelease env s i).1.ownBlock i =
        { s.ownBlock i with
          config :=
            if (s.chan i).owner ≠ 0 ∧ env.takes = true then 0#32 else (s.ownBlock i).config
          enable := (s.ownBlock i).enable &&& ~~~s.driverBits } := by
  have hown : ∀ t : Mailbox, t.mbox = s.mbox → t.ownBlock i = t.block i := by
    intro t ht
    simp only [Mailbox.ownBlock, Mailbox.block, Mailbox.chan, ht]
    exact congrArg t.regs hbase.symm
  have hset : ∀ b, (s.setBlock i b).ownBlock i = b := fun b =>
    (hown (s.setBlock i b) rfl).trans (Mailbox.block_setBlock ..)
  have hset' : ∀ b b', ((s.setBlock i b).setBlock i b').ownBlock i = b' := fun b b' =>
    (hown ((s.setBlock i b).setBlock i b') rfl).trans (Mailbox.block_setBlock ..)
  rw [hown s rfl]
  unfold hpscMboxChanRelease
  simp only [hisr, Bool.false_eq_true, if_false, Mailbox.chan_setBlock]
  by_cases howner : (s.chan i).owner = 0
  · simp only [howner, ne_eq, not_true_eq_false, if_false, false_and]
    exact ⟨by simp [hpscMboxChanDestroy], hset _⟩
  · simp only [howner, ne_eq, not_false_eq_true, if_true, true_and]
    refine ⟨by simp [hpscMboxChanDestroy, hpscMboxChanReset], ?_⟩
    refine (hset' _ _).trans ?_
    rw [Mailbox.block_setBlock]
    cases env.takes <;> rfl

/-! ## §5 The invariant -/

/-- A coherent channel, with what is known of its record by its history. -/
structure ChanInv (base : Nat) (bitA bitB : Word) (c : HpscMboxChan) (b b₀ : ChanBase)
    (h : ChanHistory) : Prop extends ChanCoherent bitA bitB c b h where
  based : h.claimed = true → c.base = base
  fresh : h.claimed = false → c.active = false ∧ h.ownership = .never
  held : h.claimed = true → (c.owner ≠ 0 ↔ h.ownership = .held)
  foreign : b.enable &&& ~~~(bitA ||| bitB) = b₀.enable &&& ~~~(bitA ||| bitB)
  neverOwned : h.ownership = .never → b.config = b₀.config

structure DrivenInv (regs : Nat → ChanBase) (s : Driven) : Prop where
  idxA : s.mailbox.mbox.intA.idx < 16
  idxB : s.mailbox.mbox.intB.idx < 16
  chan : ∀ i : Fin channels, ChanInv (s.mailbox.mbox.base + i.val * chanBaseSize)
    (intA s.mailbox.mbox.intA.idx) (intB s.mailbox.mbox.intB.idx) (s.mailbox.chan i)
    (s.mailbox.ownBlock i) (regs (s.mailbox.mbox.base + i.val * chanBaseSize)) (s.hist i)
  elsewhere : ∀ addr, (∀ i : Fin channels, addr ≠ s.mailbox.mbox.base + i.val * chanBaseSize) →
    s.mailbox.regs addr = regs addr

theorem DrivenInv.coherent {regs : Nat → ChanBase} {s : Driven} (hi : DrivenInv regs s) :
    Coherent regs s where
  chan i := (hi.chan i).toChanCoherent
  foreignBits addr := by
    by_cases h : ∃ i : Fin channels, addr = s.mailbox.mbox.base + i.val * chanBaseSize
    · obtain ⟨i, rfl⟩ := h
      exact (hi.chan i).foreign
    · rw [hi.elsewhere addr fun i hi => h ⟨i, hi⟩]
  neverOwned i := (hi.chan i).neverOwned
  elsewhere := hi.elsewhere

/-- A call within channel `i` keeps the invariant if it keeps it there. -/
theorem DrivenInv.frame {regs : Nat → ChanBase} {s : Driven} {m : Mailbox} {i : Fin channels}
    (hi : DrivenInv regs s) (hf : Frame i s.mailbox m) (h : ChanHistory)
    (hown : ChanInv (s.mailbox.mbox.base + i.val * chanBaseSize)
      (intA s.mailbox.mbox.intA.idx) (intB s.mailbox.mbox.intB.idx) (m.chan i)
      (m.ownBlock i) (regs (s.mailbox.mbox.base + i.val * chanBaseSize)) h) :
    DrivenInv regs ⟨m, Function.update s.hist i h⟩ where
  idxA := by rw [hf.intA]; exact hi.idxA
  idxB := by rw [hf.intB]; exact hi.idxB
  chan j := by
    show ChanInv (m.mbox.base + _) (intA m.mbox.intA.idx) (intB m.mbox.intB.idx) (m.chan j)
      (m.ownBlock j) (regs (m.mbox.base + _)) (Function.update s.hist i h j)
    rw [hf.base, hf.intA, hf.intB]
    by_cases hj : j = i
    · subst hj
      rw [Function.update_self]
      exact hown
    · have hblock : m.ownBlock j = s.mailbox.ownBlock j := by
        simp only [Mailbox.ownBlock, hf.base]
        exact hf.regs _ (blockAddr_ne _ hj)
      rw [Function.update_of_ne hj, hf.chan j hj, hblock]
      exact hi.chan j
  elsewhere addr ha := by
    simp only [hf.base] at ha
    rw [← hi.elsewhere addr ha]
    exact hf.regs addr (ha i)

/-- Whoever owned an inactive channel has released it. -/
theorem ChanInv.not_held {base : Nat} {bitA bitB : Word} {c : HpscMboxChan} {b b₀ : ChanBase}
    {h : ChanHistory} (hi : ChanInv base bitA bitB c b b₀ h) (hact : c.active = false) :
    h.ownership ≠ .held := by
  intro hk
  cases hcl : h.claimed with
  | true => exact (hi.held hcl).mpr hk (hi.cleared hact hcl).1
  | false =>
    rw [(hi.fresh hcl).2] at hk
    cases hk

/-- A claim that succeeds. -/
theorem ChanInv.claimed {base : Nat} {bitA bitB : Word} {c : HpscMboxChan} {b b₀ : ChanBase}
    {h : ChanHistory} (hi : ChanInv (base + c.inst * chanBaseSize) bitA bitB c b b₀ h)
    (hact : c.active = false) (hA : bitA ≠ 0#32) (hB : bitB ≠ 0#32) (hAB : bitA &&& bitB = 0#32)
    (a : ClaimArgs) :
    ChanInv (base + c.inst * chanBaseSize) bitA bitB (initChan base c.inst a)
      { b with
        config := if a.owner ≠ 0 then configWord a.owner a.src a.dest else b.config
        enable := b.enable |||
          ((if a.cbA.isSome then bitA else 0) ||| (if a.cbB.isSome then bitB else 0)) }
      b₀ (h.claim a .successful) := by
  obtain ⟨hoffA, hoffB⟩ := hi.disabled hact
  have hown : (h.claim a .successful).ownership = if a.owner ≠ 0 then .held else h.ownership := by
    simp [ChanHistory.claim]
  constructor
  case toChanCoherent =>
    constructor
    case enabledA =>
      exact fun _ => hasEvent_bits hA (by rw [BitVec.and_comm]; exact hAB) hoffA _ _
    case enabledB =>
      intro _
      show hasEvent (b.enable ||| _) bitB = _
      rw [BitVec.or_comm (if a.cbA.isSome then bitA else 0)]
      exact hasEvent_bits hB hAB hoffB _ _
    case config => exact fun _ ho => if_pos ho
    case disabled => exact fun hk => by cases hk
    case cleared => exact fun hk => by cases hk
    case reset =>
      intro hk
      rw [hown] at hk
      split at hk
      · cases hk
      · rename_i ho
        exact (if_neg ho).trans (hi.reset hk)
  case based => exact fun _ => rfl
  case fresh => exact fun hk => by cases hk
  case held =>
    intro _
    rw [hown]
    show a.owner ≠ 0 ↔ _
    have hheld := hi.not_held hact
    split
    · simp_all
    · simp_all
  case foreign =>
    show (b.enable ||| _) &&& ~~~(bitA ||| bitB) = _
    rw [or_foreign]
    exact hi.foreign
  case neverOwned =>
    intro hk
    rw [hown] at hk
    split at hk
    · cases hk
    · rename_i ho
      exact (if_neg ho).trans (hi.neverOwned hk)

/-- A claim that fails. -/
theorem ChanInv.refused {base : Nat} {bitA bitB : Word} {c : HpscMboxChan} {b b₀ : ChanBase}
    {h : ChanHistory} (hi : ChanInv (base + c.inst * chanBaseSize) bitA bitB c b b₀ h)
    (hact : c.active = false) (a : ClaimArgs) {sc : StatusCode} (hsc : sc ≠ .successful) :
    ChanInv (base + c.inst * chanBaseSize) bitA bitB (destroyChan (initChan base c.inst a)) b b₀
      (h.claim a sc) := by
  have hheld := hi.not_held hact
  have hown : (h.claim a sc).ownership = h.ownership := by
    simp [ChanHistory.claim, hsc]
  constructor
  case toChanCoherent =>
    constructor
    case enabledA => exact fun hk => by cases hk
    case enabledB => exact fun hk => by cases hk
    case config => exact fun hk => by cases hk
    case disabled => exact fun _ => hi.disabled hact
    case cleared => exact fun _ _ => ⟨rfl, rfl, rfl⟩
    case reset => exact fun hk => hi.reset (hown.symm.trans hk)
  case based => exact fun _ => rfl
  case fresh => exact fun hk => by cases hk
  case held =>
    intro _
    rw [hown]
    exact ⟨fun ho => absurd rfl ho, fun hk => absurd hk hheld⟩
  case foreign => exact hi.foreign
  case neverOwned => exact fun hk => hi.neverOwned (hown.symm.trans hk)

/-- A release, whether or not the device takes the reset of CONFIG. -/
theorem ChanInv.released {base : Nat} {bitA bitB : Word} {c : HpscMboxChan} {b b₀ : ChanBase}
    {h : ChanHistory} (hi : ChanInv base bitA bitB c b b₀ h) (hcl : h.claimed = true)
    (takes : Bool) :
    ChanInv base bitA bitB (destroyChan c)
      { b with
        config := if c.owner ≠ 0 ∧ takes = true then 0#32 else b.config
        enable := b.enable &&& ~~~(bitA ||| bitB) }
      b₀ (h.release takes) := by
  have hheld := hi.held hcl
  have hstill : (h.release takes).claimed = true := by
    unfold ChanHistory.release
    split <;> exact hcl
  have hown : (h.release takes).ownership =
      if h.ownership = .held then .released takes else h.ownership := by
    unfold ChanHistory.release
    split <;> rfl
  constructor
  case toChanCoherent =>
    constructor
    case enabledA => exact fun hk => by cases hk
    case enabledB => exact fun hk => by cases hk
    case config => exact fun hk => by cases hk
    case disabled => exact fun _ => hasEvent_clear_both _ _ _
    case cleared => exact fun _ _ => ⟨rfl, rfl, rfl⟩
    case reset =>
      intro hk
      rw [hown] at hk
      split at hk
      · rename_i ho
        cases hk
        exact if_pos ⟨hheld.mpr ho, rfl⟩
      · rename_i ho
        exact (if_neg fun hc => ho (hheld.mp hc.1)).trans (hi.reset hk)
  case based => exact fun _ => hi.based hcl
  case fresh => exact fun hk => absurd (hstill.symm.trans hk) (by simp)
  case held =>
    intro _
    rw [hown]
    refine ⟨fun ho => absurd rfl ho, fun hk => ?_⟩
    split at hk
    · cases hk
    · rename_i ho
      exact absurd hk ho
  case foreign =>
    show (b.enable &&& ~~~(bitA ||| bitB)) &&& ~~~(bitA ||| bitB) = _
    rw [and_foreign]
    exact hi.foreign
  case neverOwned =>
    intro hk
    rw [hown] at hk
    split at hk
    · cases hk
    · rename_i ho
      exact (if_neg fun hc => ho (hheld.mp hc.1)).trans (hi.neverOwned hk)

/-! ## §6 Runs -/

theorem drivenInv_step {regs : Nat → ChanBase} (s : Driven) (op : MboxOp) (hi : DrivenInv regs s)
    (hg : InTurn s op) : DrivenInv regs (drivenStep s op).1 := by
  have hinst : ∀ i, (s.mailbox.chan i).inst = i.val := s.mailbox.mbox.inst_eq
  cases op with
  | claim env i a =>
    have hact : (s.mailbox.chan i).active = false := hg
    have hc := hi.chan i
    rw [← hinst i] at hc
    simp only [drivenStep, mboxStep, Driven.note]
    cases hisr : env.inIsr with
    | true => simpa [hpscMboxChanClaim, hisr] using hi
    | false =>
      simp only [Bool.false_eq_true, if_false]
      rcases claim_inactive env hisr hact a with h | ⟨sc, hsc, h⟩
      · rw [h]
        refine hi.frame (claimedState_frame s.mailbox i a) _ ?_
        have hclaimed := hc.claimed hact (intA_ne_zero hi.idxA) (intB_ne_zero hi.idxB)
          (intA_and_intB hi.idxA hi.idxB) a
        rw [hinst i] at hclaimed
        rw [claimedState_chan, claimedState_ownBlock]
        exact hclaimed
      · rw [h]
        have hf := (init_frame s.mailbox i a).trans
          (destroy_frame (hpscMboxChanInit s.mailbox i a) i)
        refine hi.frame hf _ ?_
        have hrefused := hc.refused hact a hsc
        rw [hinst i] at hrefused
        have hchan : (hpscMboxChanDestroy (hpscMboxChanInit s.mailbox i a) i).chan i =
            destroyChan (initChan s.mailbox.mbox.base i.val a) := by
          rw [← hpscMboxChanInit_chan s.mailbox i a]
          exact Mailbox.chan_setChan ..
        rw [hchan]
        exact hrefused
  | release env i =>
    have hcl : (s.hist i).claimed = true := hg
    have hc := hi.chan i
    simp only [drivenStep, mboxStep, Driven.note]
    cases hisr : env.inIsr with
    | true => simpa [hpscMboxChanRelease, hisr] using hi
    | false =>
      simp only [Bool.false_eq_true, if_false]
      obtain ⟨hchan, hblock⟩ := release_own hisr (hc.based hcl)
      refine hi.frame (release_frame env s.mailbox i (hc.based hcl)) _ ?_
      rw [hchan, hblock]
      exact hc.released hcl env.takes

theorem drivenInv_init {mbox : HpscMbox} {regs : Nat → ChanBase}
    (hA : mbox.intA.idx < 16) (hB : mbox.intB.idx < 16)
    (hact : ∀ i, (mbox.chans i).active = false)
    (hoff : ∀ i : Fin channels, (regs (mbox.base + i.val * chanBaseSize)).enable &&&
      (intA mbox.intA.idx ||| intB mbox.intB.idx) = 0) :
    DrivenInv regs (Driven.init mbox regs) where
  idxA := hA
  idxB := hB
  elsewhere _ _ := rfl
  chan i := by
    have hactive : ∀ b, (mbox.chans i).active = b → b = false := fun b hb =>
      hb.symm.trans (hact i)
    have hbit : ∀ a b : Word, (regs (mbox.base + i.val * chanBaseSize)).enable &&& (a ||| b) = 0 →
        hasEvent (regs (mbox.base + i.val * chanBaseSize)).enable a = false := by
      intro a b hab
      have hz := hasEvent_or a b (regs (mbox.base + i.val * chanBaseSize)).enable
      simp only [hasEvent, BitVec.and_comm (a ||| b), hab] at hz
      simp only [hasEvent, BitVec.and_comm _ a]
      simp_all
    constructor
    case toChanCoherent =>
      constructor
      case enabledA => exact fun hk => by cases hactive _ hk
      case enabledB => exact fun hk => by cases hactive _ hk
      case config => exact fun hk => by cases hactive _ hk
      case disabled =>
        exact fun _ => ⟨hbit _ _ (hoff i), hbit _ _ (by rw [BitVec.or_comm]; exact hoff i)⟩
      case cleared => exact fun _ hk => by cases hk
      case reset => exact fun hk => by cases hk
    case based => exact fun hk => by cases hk
    case fresh => exact fun _ => ⟨hact i, rfl⟩
    case held => exact fun hk => by cases hk
    case foreign => rfl
    case neverOwned => exact fun _ => rfl

/-- **Records and registers stay coherent** in every run from
`hpsc_mbox_init`, whatever the memory it was given held. -/
theorem driver_coherent (heap : Fin channels → HpscMboxChan) (base : Nat)
    (infoA infoB : HpscMboxIrqInfo) (regs : Nat → ChanBase) (ops : List MboxOp)
    (hA : infoA.idx < 16) (hB : infoB.idx < 16)
    (hoff : ∀ i : Fin channels, (regs (base + i.val * chanBaseSize)).enable &&&
      (intA infoA.idx ||| intB infoB.idx) = 0)
    (hturn : Inputs drivenStep InTurn (Driven.init (hpscMboxInit heap base infoA infoB) regs) ops) :
    Coherent regs
      (final drivenStep (Driven.init (hpscMboxInit heap base infoA infoB) regs) ops) := by
  have hinit : DrivenInv regs (Driven.init (hpscMboxInit heap base infoA infoB) regs) :=
    drivenInv_init hA hB (fun _ => rfl) hoff
  exact (final_invariant drivenInv_step hinit hturn).coherent

/-- A server's two claims, one refused by the device, and the release of
the other channel. -/
def claimAndRelease : List MboxOp :=
  let a : ConnectArgs := ⟨0, 1, 0x2e, 0x2d⟩
  [.claim ⟨false, true⟩ 0 (claimFrom a 7), .claim ⟨false, false⟩ 1 (claimTo a 7),
   .release ⟨false, true⟩ 0]

theorem claimAndRelease_coherent :
    Coherent probed.regs (final drivenStep (Driven.init probed.mbox probed.regs) claimAndRelease) :=
  driver_coherent (fun _ => ⟨0, 0, ⟨none, none⟩, ⟨none, none⟩, 0, 0, 0, false⟩) 0x1000 ⟨32, 0⟩
    ⟨33, 1⟩ probed.regs claimAndRelease (by decide) (by decide) (fun _ => BitVec.zero_and)
    ⟨rfl, rfl, rfl, trivial⟩

end HpscRtems.Mbox
