/-
HpscRtems.Mbox.ClaimTheorems — what a failed claim, and a failed
`link_mbox_connect`, leave behind.

Every failure of `hpsc_mbox_chan_claim` goes through the label `cleanup`,
which destroys the channel record. After a CONFIG rejection or an id
mismatch that undoes the claim's own `hpsc_mbox_chan_init`. When the
channel was already active it destroys the record of the claim that holds
it: its callbacks are gone, and so is the owner its release would need.

`Frame i` says that a step stays within channel `i`. Claim and release
are framed (`claim_frame`, `release_frame`), a claim that fails on an
inactive channel also puts the registers back (`claim_failed_inactive`),
and `failed_claim_iff` draws the exact line for claims and for connects.
-/
import HpscRtems.Machine.Run
import HpscRtems.Mbox.Connect

namespace HpscRtems.Mbox

open Rtems

/-! ## §1 Frames -/

/-- The step from `s` to `s'` touches at most the record and the register
block of channel `i`. -/
structure Frame (i : Fin channels) (s s' : Mailbox) : Prop where
  base : s'.mbox.base = s.mbox.base
  intA : s'.mbox.intA = s.mbox.intA
  intB : s'.mbox.intB = s.mbox.intB
  chan : ∀ j, j ≠ i → s'.chan j = s.chan j
  regs : ∀ addr, addr ≠ s.mbox.base + i.val * chanBaseSize → s'.regs addr = s.regs addr

theorem Frame.refl (i : Fin channels) (s : Mailbox) : Frame i s s :=
  ⟨rfl, rfl, rfl, fun _ _ => rfl, fun _ _ => rfl⟩

theorem Frame.trans {i : Fin channels} {s t u : Mailbox} (h : Frame i s t) (h' : Frame i t u) :
    Frame i s u where
  base := h'.base.trans h.base
  intA := h'.intA.trans h.intA
  intB := h'.intB.trans h.intB
  chan j hj := (h'.chan j hj).trans (h.chan j hj)
  regs addr ha := (h'.regs addr (by rw [h.base]; exact ha)).trans (h.regs addr ha)

theorem setChan_frame (s : Mailbox) (i : Fin channels) (c : HpscMboxChan) (h : c.inst = i.val) :
    Frame i s (s.setChan i c h) :=
  ⟨rfl, rfl, rfl, fun _ hj => s.chan_setChan_of_ne c h hj, fun _ _ => rfl⟩

/-- A block write is framed when the channel's pointer leads to its own block. -/
theorem setBlock_frame (s : Mailbox) (i : Fin channels) (b : ChanBase)
    (h : (s.chan i).base = s.mbox.base + i.val * chanBaseSize) : Frame i s (s.setBlock i b) where
  base := rfl
  intA := rfl
  intB := rfl
  chan _ _ := rfl
  regs addr ha := s.regs_setBlock_of_ne i b (by rw [h]; exact ha)

/-- The blocks of two channels lie at two addresses. -/
theorem blockAddr_ne (base : Nat) {i j : Fin channels} (h : j ≠ i) :
    base + j.val * chanBaseSize ≠ base + i.val * chanBaseSize := by
  intro heq
  apply h
  apply Fin.ext
  have hmul : j.val * chanBaseSize = i.val * chanBaseSize := by omega
  exact Nat.eq_of_mul_eq_mul_right (by decide) hmul

/-- A claimed channel stays claimed under a step within another one. -/
theorem Claimed.frame {s s' : Mailbox} {i j : Fin channels} {a : ClaimArgs} (hf : Frame i s s')
    (hj : j ≠ i) (h : Claimed s j a) : Claimed s' j a := by
  have hchan : s'.chan j = s.chan j := hf.chan j hj
  have hbase : (s.chan j).base = s.mbox.base + j.val * chanBaseSize := by
    rw [h.record]
    rfl
  have hblock : s'.block j = s.block j := by
    simp only [Mailbox.block, hchan]
    exact hf.regs _ (by rw [hbase]; exact blockAddr_ne _ hj)
  constructor
  · rw [hchan, hf.base]
    exact h.record
  · rw [hblock, hf.intA]
    exact h.enabledA
  · rw [hblock, hf.intB]
    exact h.enabledB
  · rw [hblock]
    exact h.config

theorem LinkUp.frame {s s' : Mailbox} {i : Fin channels} {l : MboxLink} (hf : Frame i s s')
    (hl : ¬ l.holds i) (h : LinkUp s l) : LinkUp s' l where
  from_up := h.from_up.frame hf fun heq => hl (Or.inl heq.symm)
  to_up := h.to_up.frame hf fun heq => hl (Or.inr heq.symm)

/-- Both channels of a connected link are active. -/
theorem LinkUp.active {s : Mailbox} {l : MboxLink} (h : LinkUp s l) {i : Fin channels}
    (hi : l.holds i) : (s.chan i).active = true := by
  rcases hi with rfl | rfl
  · rw [h.from_up.record]
    rfl
  · rw [h.to_up.record]
    rfl

/-- A link does not survive the destruction of a channel it holds. -/
theorem LinkUp.not_destroyed {s : Mailbox} {l : MboxLink} {i : Fin channels} (hi : l.holds i)
    (h : (s.chan i).active = false) : ¬ LinkUp s l := by
  intro hl
  rw [hl.active hi] at h
  cases h

/-! ## §2 Claim -/

theorem hpscMboxChanInit_chan (s : Mailbox) (i : Fin channels) (a : ClaimArgs) :
    (hpscMboxChanInit s i a).chan i = initChan s.mbox.base i.val a := by
  have hinst : (s.chan i).inst = i.val := s.mbox.inst_eq i
  simp [hpscMboxChanInit, hinst]

theorem hpscMboxChanDestroy_active (s : Mailbox) (i : Fin channels) :
    ((hpscMboxChanDestroy s i).chan i).active = false := by
  simp [hpscMboxChanDestroy, destroyChan]

theorem destroy_frame (s : Mailbox) (i : Fin channels) : Frame i s (hpscMboxChanDestroy s i) :=
  setChan_frame ..

theorem init_frame (s : Mailbox) (i : Fin channels) (a : ClaimArgs) :
    Frame i s (hpscMboxChanInit s i a) :=
  setChan_frame ..

/-- Writing a block back changes nothing. -/
theorem setBlock_self (s : Mailbox) (i : Fin channels) : s.setBlock i (s.block i) = s := by
  simp [Mailbox.setBlock, Mailbox.block, Function.update_eq_self]

/-- **CONFIG write.** It leaves the value in CONFIG, or fails and leaves
everything as it was. -/
theorem configWrite_cases (takes : Bool) (s : Mailbox) (i : Fin channels) (owner src dest : Byte) :
    (hpscMboxChanConfigWrite takes s i owner src dest
        = (s.setBlock i { s.block i with config := configWord owner src dest }, .successful) ∧
      (takes = true ∨ (s.block i).config = configWord owner src dest)) ∨
    (hpscMboxChanConfigWrite takes s i owner src dest = (s, .notOwnerOfResource) ∧
      takes = false ∧ (s.block i).config ≠ configWord owner src dest) := by
  cases takes with
  | true => simp [hpscMboxChanConfigWrite, ChanBase.writeConfig]
  | false =>
    by_cases h : (s.block i).config = configWord owner src dest
    · left
      have hself : { s.block i with config := configWord owner src dest } = s.block i := by
        rw [← h]
      simp [hpscMboxChanConfigWrite, ChanBase.writeConfig, hself, setBlock_self, h]
    · right
      simp [hpscMboxChanConfigWrite, ChanBase.writeConfig, setBlock_self, h]

theorem claimTry_active {takes : Bool} {s : Mailbox} {i : Fin channels} {a : ClaimArgs}
    (h : (s.chan i).active = true) : hpscMboxChanClaimTry takes s i a = (s, .resourceInUse) := by
  simp [hpscMboxChanClaimTry, h]

/-- The block a successful claim leaves in front of the enable bits. -/
def claimedBlock (s : Mailbox) (i : Fin channels) (a : ClaimArgs) : ChanBase :=
  let b := (hpscMboxChanInit s i a).block i
  if a.owner ≠ 0 then { b with config := configWord a.owner a.src a.dest } else b

/-- **Claim, on an inactive channel.** Either it succeeds, and the channel
is initialised, configured by an owner, and enabled; or it reaches the
label `cleanup` with the channel initialised and nothing else changed. -/
theorem claimTry_cases {s : Mailbox} {i : Fin channels} (h : (s.chan i).active = false)
    (takes : Bool) (a : ClaimArgs) :
    hpscMboxChanClaimTry takes s i a
        = (enableInterrupts ((hpscMboxChanInit s i a).setBlock i (claimedBlock s i a)) i,
            .successful) ∨
      ∃ sc, sc ≠ .successful ∧
        hpscMboxChanClaimTry takes s i a = (hpscMboxChanInit s i a, sc) := by
  have howner : ((hpscMboxChanInit s i a).chan i).owner = a.owner := by
    rw [hpscMboxChanInit_chan]
    rfl
  simp only [hpscMboxChanClaimTry, h, Bool.false_eq_true, if_false, howner, claimedBlock]
  by_cases hzero : a.owner = 0
  · -- not owner: the registers are only read
    simp only [hzero, ne_eq, not_true_eq_false, if_false, setBlock_self]
    split
    · exact Or.inr ⟨_, by simp, rfl⟩
    · split
      · exact Or.inr ⟨_, by simp, rfl⟩
      · exact Or.inl rfl
  · simp only [ne_eq, hzero, not_false_eq_true, if_true]
    rcases configWrite_cases takes (hpscMboxChanInit s i a) i a.owner a.src a.dest with h | h
    · rw [h.1]
      exact Or.inl rfl
    · rw [h.1]
      exact Or.inr ⟨_, by simp, rfl⟩

/-- The state a successful claim of an inactive channel leaves. -/
def claimedState (s : Mailbox) (i : Fin channels) (a : ClaimArgs) : Mailbox :=
  enableInterrupts ((hpscMboxChanInit s i a).setBlock i (claimedBlock s i a)) i

theorem claim_active (env : CallEnv) {s : Mailbox} {i : Fin channels} {a : ClaimArgs}
    (hisr : env.inIsr = false) (h : (s.chan i).active = true) :
    hpscMboxChanClaim env s i a = (hpscMboxChanDestroy s i, .resourceInUse) := by
  simp [hpscMboxChanClaim, hisr, claimTry_active h]

/-- **Claim.** A claim from a task of an inactive channel succeeds, or
fails and leaves the channel record destroyed and the registers alone. -/
theorem claim_inactive (env : CallEnv) {s : Mailbox} {i : Fin channels}
    (hisr : env.inIsr = false) (h : (s.chan i).active = false) (a : ClaimArgs) :
    hpscMboxChanClaim env s i a = (claimedState s i a, .successful) ∨
      ∃ sc, sc ≠ .successful ∧
        hpscMboxChanClaim env s i a = (hpscMboxChanDestroy (hpscMboxChanInit s i a) i, sc) := by
  simp only [hpscMboxChanClaim, hisr, Bool.false_eq_true, if_false]
  rcases claimTry_cases h env.takes a with ht | ⟨sc, hsc, ht⟩
  · rw [ht]
    exact Or.inl rfl
  · rw [ht]
    exact Or.inr ⟨sc, hsc, if_neg hsc⟩

theorem claimedState_frame (s : Mailbox) (i : Fin channels) (a : ClaimArgs) :
    Frame i s (claimedState s i a) := by
  have hbase : ((hpscMboxChanInit s i a).chan i).base
      = (hpscMboxChanInit s i a).mbox.base + i.val * chanBaseSize := by
    rw [hpscMboxChanInit_chan]
    rfl
  have h1 := (init_frame s i a).trans (setBlock_frame _ i (claimedBlock s i a) hbase)
  exact h1.trans (setBlock_frame _ i _ hbase)

theorem claimedState_chan (s : Mailbox) (i : Fin channels) (a : ClaimArgs) :
    (claimedState s i a).chan i = initChan s.mbox.base i.val a :=
  hpscMboxChanInit_chan s i a

theorem claim_frame (env : CallEnv) (s : Mailbox) (i : Fin channels) (a : ClaimArgs) :
    Frame i s (hpscMboxChanClaim env s i a).1 := by
  cases hisr : env.inIsr with
  | true =>
    simp only [hpscMboxChanClaim, hisr, if_true]
    exact Frame.refl i s
  | false =>
    cases hact : (s.chan i).active with
    | true =>
      rw [claim_active env hisr hact]
      exact destroy_frame s i
    | false =>
      rcases claim_inactive env hisr hact a with h | ⟨sc, _, h⟩
      · rw [h]
        exact claimedState_frame s i a
      · rw [h]
        exact (init_frame s i a).trans (destroy_frame _ i)

/-- A release from a task, on a channel whose pointer leads to its own block. -/
theorem release_frame (env : CallEnv) (s : Mailbox) (i : Fin channels)
    (h : (s.chan i).base = s.mbox.base + i.val * chanBaseSize) :
    Frame i s (hpscMboxChanRelease env s i).1 := by
  simp only [hpscMboxChanRelease]
  split
  · exact Frame.refl i s
  · have h1 := setBlock_frame s i
      { s.block i with
        enable := (s.block i).enable &&& ~~~(intA s.mbox.intA.idx ||| intB s.mbox.intB.idx) } h
    dsimp only
    split
    · exact (h1.trans (setBlock_frame _ i _ h)).trans (destroy_frame _ i)
    · exact h1.trans (destroy_frame _ i)

theorem intA_ne_zero {idx : Nat} (h : idx < 16) : intA idx ≠ 0#32 := by
  have hall : ∀ k : Fin 16, intA k.val ≠ 0#32 := by decide
  exact hall ⟨idx, h⟩

theorem intB_ne_zero {idx : Nat} (h : idx < 16) : intB idx ≠ 0#32 := by
  have hall : ∀ k : Fin 16, intB k.val ≠ 0#32 := by decide
  exact hall ⟨idx, h⟩

/-- A bit that was just enabled is enabled. -/
theorem and_ne_zero_of_or {x y m : Word} (hm : m ≠ 0#32) (h : y &&& m = m) :
    (x ||| y) &&& m ≠ 0#32 := by
  have hd : (x ||| y) &&& m = (x &&& m) ||| (y &&& m) := by
    ext k hk
    simp only [BitVec.getElem_and, BitVec.getElem_or]
    cases x[k] <;> cases y[k] <;> simp
  rw [hd, h, Ne, BitVec.or_eq_zero_iff]
  exact fun hz => hm hz.2

/-- A claim that succeeds on an inactive channel leaves it claimed. -/
theorem claimedState_claimed {s : Mailbox} (i : Fin channels) (a : ClaimArgs)
    (hA : s.mbox.intA.idx < 16) (hB : s.mbox.intB.idx < 16) :
    Claimed (claimedState s i a) i a := by
  have hchan := hpscMboxChanInit_chan s i a
  have hblock : (claimedState s i a).block i
      = { claimedBlock s i a with
          enable := (claimedBlock s i a).enable |||
            enableBits ((hpscMboxChanInit s i a).setBlock i (claimedBlock s i a)) i } := by
    simp [claimedState, enableInterrupts]
  have hbits : enableBits ((hpscMboxChanInit s i a).setBlock i (claimedBlock s i a)) i
      = (if a.cbA.isSome then intA s.mbox.intA.idx else 0) |||
        (if a.cbB.isSome then intB s.mbox.intB.idx else 0) := by
    simp only [enableBits, Mailbox.chan_setBlock, hchan]
    rfl
  refine ⟨claimedState_chan s i a, fun hcb => ?_, fun hcb => ?_, fun howner => ?_⟩
  · rw [hblock, hbits]
    apply and_ne_zero_of_or (intA_ne_zero hA)
    ext k hk
    simp only [hcb, if_true, BitVec.getElem_and, BitVec.getElem_or]
    show (_ && (intA s.mbox.intA.idx)[k]) = (intA s.mbox.intA.idx)[k]
    cases (intA s.mbox.intA.idx)[k] <;> simp
  · rw [hblock, hbits]
    apply and_ne_zero_of_or (intB_ne_zero hB)
    ext k hk
    simp only [hcb, if_true, BitVec.getElem_and, BitVec.getElem_or]
    show (_ && (intB s.mbox.intB.idx)[k]) = (intB s.mbox.intB.idx)[k]
    cases (intB s.mbox.intB.idx)[k] <;> simp
  · rw [hblock]
    show (claimedBlock s i a).config = _
    simp only [claimedBlock, if_pos howner]

/-- A connect that succeeds found both channels free and leaves its link up. -/
theorem linkUp_of_connect {env : ConnectEnv} {s : Mailbox} {a : ConnectArgs} {link : Nat}
    (hA : s.mbox.intA.idx < 16) (hB : s.mbox.intB.idx < 16)
    (h : (linkMboxConnect env s a).2 = some link) :
    LinkUp (linkMboxConnect env s a).1 ⟨link, a⟩ := by
  unfold linkMboxConnect at h ⊢
  cases hm1 : env.mallocLink with
  | none => simp [hm1] at h
  | some l =>
    cases hm2 : env.mallocMlink with
    | none => simp [hm1, hm2] at h
    | some ml =>
      simp only [hm1, hm2] at h ⊢
      cases hisr : env.inIsr with
      | true => simp [hisr, hpscMboxChanClaim] at h
      | false =>
        simp only [hisr] at h
        cases hact : (s.chan a.idxFrom).active with
        | true => simp [claim_active ⟨false, env.takesFrom⟩ rfl hact] at h
        | false =>
          rcases claim_inactive ⟨false, env.takesFrom⟩ rfl hact (claimFrom a l)
            with hc | ⟨sc, hsc, hc⟩
          · have hf := claimedState_frame s a.idxFrom (claimFrom a l)
            have h1 := claimedState_claimed a.idxFrom (claimFrom a l) hA hB
            rw [hc] at h ⊢
            simp only [ne_eq, not_true_eq_false, if_false] at h ⊢
            generalize claimedState s a.idxFrom (claimFrom a l) = t at h h1 hf ⊢
            cases hact' : (t.chan a.idxTo).active with
            | true => simp [claim_active ⟨false, env.takesTo⟩ rfl hact'] at h
            | false =>
              have hne : a.idxFrom ≠ a.idxTo := by
                intro heq
                rw [← heq, h1.record] at hact'
                cases hact'
              rcases claim_inactive ⟨false, env.takesTo⟩ rfl hact' (claimTo a l)
                with hc' | ⟨sc, hsc, hc'⟩
              · rw [hc'] at h ⊢
                simp only [not_true_eq_false, if_false] at h ⊢
                cases h
                have h2 := claimedState_claimed a.idxTo (claimTo a link)
                  (by rw [hf.intA]; exact hA) (by rw [hf.intB]; exact hB)
                exact ⟨h1.frame (claimedState_frame t a.idxTo _) hne, h2⟩
              · rw [hc'] at h
                simp [hsc] at h
          · rw [hc] at h
            simp [hsc] at h

/-- A link sends and receives on two different channels. -/
theorem LinkUp.idx_ne {s : Mailbox} {l : MboxLink} (h : LinkUp s l) :
    l.args.idxTo ≠ l.args.idxFrom := by
  intro heq
  have hto := h.to_up.record
  rw [heq, h.from_up.record] at hto
  have hcb : some (rcvCb l.args.server) = none := congrArg (fun c => c.intA.cb) hto
  cases hcb

/-- Closing a link leaves the other links up. -/
theorem linkUp_of_close (envFrom envTo : CallEnv) {s : Mailbox} {l l' : MboxLink} (h : LinkUp s l)
    (h' : LinkUp s l') (hfrom : ¬ l'.holds l.args.idxFrom) (hto : ¬ l'.holds l.args.idxTo) :
    LinkUp (linkMboxClose envFrom envTo s l.args).1 l' := by
  have hf := release_frame envFrom s l.args.idxFrom (by rw [h.from_up.record]; rfl)
  have hbase : ((hpscMboxChanRelease envFrom s l.args.idxFrom).1.chan l.args.idxTo).base =
      (hpscMboxChanRelease envFrom s l.args.idxFrom).1.mbox.base +
        l.args.idxTo.val * chanBaseSize := by
    rw [hf.chan _ h.idx_ne, hf.base, h.to_up.record]
    rfl
  exact (h'.frame hf hfrom).frame (release_frame envTo _ l.args.idxTo hbase) hto

/-! ## §3 Failed claims -/

/-- What a failed claim must leave: the active flag of every channel, the
rest of the record of every active channel, and every CONFIG and
EVENT_ENABLE register. -/
structure Unchanged (s s' : Mailbox) : Prop where
  active : ∀ j, (s'.chan j).active = (s.chan j).active
  record : ∀ j, (s.chan j).active = true → s'.chan j = s.chan j
  config : ∀ addr, (s'.regs addr).config = (s.regs addr).config
  enable : ∀ addr, (s'.regs addr).enable = (s.regs addr).enable

/-- A claim that fails changes nothing. -/
def ClaimHarmless (env : CallEnv) (s : Mailbox) (i : Fin channels) (a : ClaimArgs) : Prop :=
  (hpscMboxChanClaim env s i a).2 ≠ .successful → Unchanged s (hpscMboxChanClaim env s i a).1

/-- A claim that fails on an inactive channel has changed nothing. -/
theorem claim_failed_inactive {s : Mailbox} {i : Fin channels} (h : (s.chan i).active = false)
    (a : ClaimArgs) : Unchanged s (hpscMboxChanDestroy (hpscMboxChanInit s i a) i) := by
  have hf := (init_frame s i a).trans (destroy_frame (hpscMboxChanInit s i a) i)
  refine ⟨fun j => ?_, fun j hj => ?_, fun _ => rfl, fun _ => rfl⟩
  · by_cases hji : j = i
    · subst hji
      rw [hpscMboxChanDestroy_active, h]
    · rw [hf.chan j hji]
  · by_cases hji : j = i
    · subst hji
      rw [h] at hj
      cases hj
    · exact hf.chan j hji

/-- **A claim is harmless exactly when the channel is not in use** (or the
call comes from an ISR and is turned away at the door). -/
theorem claimHarmless_iff (env : CallEnv) (s : Mailbox) (i : Fin channels) (a : ClaimArgs) :
    ClaimHarmless env s i a ↔ env.inIsr = true ∨ (s.chan i).active = false := by
  unfold ClaimHarmless
  cases hisr : env.inIsr with
  | true =>
    simp only [hpscMboxChanClaim, hisr, if_true, true_or, iff_true]
    exact fun _ => ⟨fun _ => rfl, fun _ _ => rfl, fun _ => rfl, fun _ => rfl⟩
  | false =>
    cases hact : (s.chan i).active with
    | true =>
      rw [claim_active env hisr hact]
      simp only [Bool.false_eq_true, Bool.true_eq_false, or_self, iff_false]
      intro hun
      have hflag := (hun (by simp)).active i
      rw [hpscMboxChanDestroy_active, hact] at hflag
      cases hflag
    | false =>
      simp only [Bool.false_eq_true, false_or, iff_true]
      intro hfail
      rcases claim_inactive env hisr hact a with h | ⟨sc, _, h⟩
      · rw [h] at hfail
        exact (hfail rfl).elim
      · rw [h]
        exact claim_failed_inactive hact a

/-! ## §4 Failed connects -/

/-- Does the first claim of a connect get through, on a channel that is not
in use? A client asks for nothing there; a server writes CONFIG. -/
def FromTaken (env : ConnectEnv) (s : Mailbox) (a : ConnectArgs) : Prop :=
  a.server = 0 ∨ env.takesFrom = true ∨
    (s.regs (s.mbox.base + a.idxFrom.val * chanBaseSize)).config
      = configWord a.server a.client a.server

theorem claimFrom_taken (env : ConnectEnv) {s : Mailbox} {a : ConnectArgs} (link : Nat)
    (hisr : env.inIsr = false) (h : (s.chan a.idxFrom).active = false) :
    (hpscMboxChanClaim ⟨env.inIsr, env.takesFrom⟩ s a.idxFrom (claimFrom a link)).2 = .successful ↔
      FromTaken env s a := by
  have hchan := hpscMboxChanInit_chan s a.idxFrom (claimFrom a link)
  have hblock : (hpscMboxChanInit s a.idxFrom (claimFrom a link)).block a.idxFrom
      = s.regs (s.mbox.base + a.idxFrom.val * chanBaseSize) := by
    rw [Mailbox.block, hchan]
    rfl
  have howner : ((hpscMboxChanInit s a.idxFrom (claimFrom a link)).chan a.idxFrom).owner
      = a.server := by
    rw [hchan]
    rfl
  simp only [hpscMboxChanClaim, hisr, hpscMboxChanClaimTry, h, howner, Bool.false_eq_true, if_false,
    FromTaken]
  by_cases hzero : a.server = 0
  · simp [claimFrom, hzero]
  · rcases configWrite_cases env.takesFrom (hpscMboxChanInit s a.idxFrom (claimFrom a link))
      a.idxFrom a.server a.client a.server with hw | hw
    · rw [hblock] at hw
      have hzero' : ¬ (claimFrom a link).owner = 0 := hzero
      simp only [ne_eq, hzero, not_false_eq_true, if_true, false_or]
      rw [show hpscMboxChanConfigWrite env.takesFrom _ a.idxFrom (claimFrom a link).owner
        (claimFrom a link).src (claimFrom a link).dest = _ from hw.1]
      simpa using hw.2
    · rw [hblock] at hw
      simp only [ne_eq, hzero, not_false_eq_true, if_true, false_or]
      rw [show hpscMboxChanConfigWrite env.takesFrom _ a.idxFrom (claimFrom a link).owner
        (claimFrom a link).src (claimFrom a link).dest = _ from hw.1]
      simp [hw.2]

/-- A connect that returns `NULL` leaves every connected link subscribed
and releasable. -/
def ConnectHarmless (env : ConnectEnv) (s : Mailbox) (a : ConnectArgs) : Prop :=
  (linkMboxConnect env s a).2 = none →
    ∀ l, LinkUp s l → LinkUp (linkMboxConnect env s a).1 l

/-- The connect reaches a claim of a channel some connected link holds. -/
def ConnectHits (env : ConnectEnv) (s : Mailbox) (a : ConnectArgs) : Prop :=
  env.mallocLink ≠ none ∧ env.mallocMlink ≠ none ∧ env.inIsr = false ∧
    ∃ l, LinkUp s l ∧
      (l.holds a.idxFrom ∨
        l.holds a.idxTo ∧ (s.chan a.idxFrom).active = false ∧ FromTaken env s a)

/-- The release that undoes the first claim finds that channel's own block. -/
theorem base_after_claims (env : CallEnv) {s s' : Mailbox} {a : ConnectArgs} (link : Nat)
    (h : (s.chan a.idxFrom).base = s.mbox.base + a.idxFrom.val * chanBaseSize)
    (hactive : (s.chan a.idxFrom).active = true) (hisr : env.inIsr = false)
    (hs' : s' = (hpscMboxChanClaim env s a.idxTo (claimTo a link)).1) :
    (s'.chan a.idxFrom).base = s'.mbox.base + a.idxFrom.val * chanBaseSize := by
  have hf := claim_frame env s a.idxTo (claimTo a link)
  rw [← hs'] at hf
  rw [hf.base]
  by_cases heq : a.idxFrom = a.idxTo
  · rw [heq] at hactive h ⊢
    rw [hs', claim_active env hisr hactive]
    simpa [hpscMboxChanDestroy, destroyChan] using h
  · rw [hf.chan _ heq]
    exact h

theorem connectHarmless_of_not_hits {env : ConnectEnv} {s : Mailbox} {a : ConnectArgs}
    (h : ¬ ConnectHits env s a) : ConnectHarmless env s a := by
  intro hnone l hl
  unfold linkMboxConnect at hnone ⊢
  cases hm1 : env.mallocLink with
  | none => simpa [hm1] using hl
  | some link =>
    cases hm2 : env.mallocMlink with
    | none => simpa [hm1, hm2] using hl
    | some mlink =>
      simp only [hm1, hm2] at hnone ⊢
      cases hisr : env.inIsr with
      | true => simpa [hpscMboxChanClaim] using hl
      | false =>
        simp only [hisr] at hnone
        have hfrom : ¬ l.holds a.idxFrom := fun hh =>
          h ⟨by simp [hm1], by simp [hm2], hisr, l, hl, Or.inl hh⟩
        have h1 := LinkUp.frame
          (claim_frame ⟨false, env.takesFrom⟩ s a.idxFrom (claimFrom a link)) hfrom hl
        have htaken := claimFrom_taken env (s := s) (a := a) link hisr
        rw [hisr] at htaken
        cases hact : (s.chan a.idxFrom).active with
        | true =>
          rw [claim_active _ rfl hact] at h1 ⊢
          exact h1
        | false =>
          rcases claim_inactive ⟨false, env.takesFrom⟩ rfl hact (claimFrom a link)
            with hc | ⟨sc, hsc, hc⟩
          · -- the first claim got through: the link does not hold the second channel
            have hto : ¬ l.holds a.idxTo := fun hh =>
              h ⟨by simp [hm1], by simp [hm2], hisr, l, hl,
                Or.inr ⟨hh, hact, (htaken hact).mp (by rw [hc])⟩⟩
            have hchan := claimedState_chan s a.idxFrom (claimFrom a link)
            rw [hc] at h1 hnone ⊢
            have h2 := LinkUp.frame
              (claim_frame ⟨false, env.takesTo⟩ _ a.idxTo (claimTo a link)) hto h1
            have hbase := base_after_claims ⟨false, env.takesTo⟩
              (s := claimedState s a.idxFrom (claimFrom a link)) link
              (by rw [hchan]; rfl) (by rw [hchan]; rfl) rfl rfl
            simp only [ne_eq, not_true_eq_false, if_false] at hnone ⊢
            split at hnone
            · rename_i hfail
              rw [if_pos hfail]
              exact LinkUp.frame (release_frame _ _ a.idxFrom hbase) hfrom h2
            · cases hnone
          · rw [hc] at h1 ⊢
            simp only [ne_eq, hsc, not_false_eq_true, if_true]
            exact h1

theorem not_connectHarmless_of_hits {env : ConnectEnv} {s : Mailbox} {a : ConnectArgs}
    (h : ConnectHits env s a) : ¬ ConnectHarmless env s a := by
  obtain ⟨hm1, hm2, hisr, l, hl, hhit⟩ := h
  obtain ⟨link, hm1⟩ := Option.ne_none_iff_exists'.mp hm1
  obtain ⟨mlink, hm2⟩ := Option.ne_none_iff_exists'.mp hm2
  intro hharm
  unfold ConnectHarmless linkMboxConnect at hharm
  simp only [hm1, hm2, hisr] at hharm
  rcases hhit with hfrom | ⟨hto, hact, htaken⟩
  · rw [claim_active _ rfl (hl.active hfrom)] at hharm
    exact LinkUp.not_destroyed hfrom (hpscMboxChanDestroy_active s a.idxFrom) (hharm rfl l hl)
  · have hne : a.idxTo ≠ a.idxFrom := by
      intro heq
      rw [← heq, hl.active hto] at hact
      cases hact
    have hok := (claimFrom_taken env link hisr hact).mpr htaken
    rw [hisr] at hok
    rcases claim_inactive ⟨false, env.takesFrom⟩ rfl hact (claimFrom a link)
      with hc | ⟨sc, hsc, hc⟩
    · have hf := claimedState_frame s a.idxFrom (claimFrom a link)
      have hchan := claimedState_chan s a.idxFrom (claimFrom a link)
      have hactTo : ((claimedState s a.idxFrom (claimFrom a link)).chan a.idxTo).active = true := by
        rw [hf.chan _ hne]
        exact hl.active hto
      have hbase := base_after_claims ⟨false, env.takesTo⟩
        (s := claimedState s a.idxFrom (claimFrom a link)) link (by rw [hchan]; rfl)
        (by rw [hchan]; rfl) rfl rfl
      rw [claim_active _ rfl hactTo] at hbase
      have hrel := release_frame ⟨false, env.takesUndo⟩ _ a.idxFrom hbase
      rw [hc] at hharm
      simp only [ne_eq, not_true_eq_false, if_false,
        claim_active ⟨false, env.takesTo⟩ rfl hactTo] at hharm
      refine LinkUp.not_destroyed hto ?_ (hharm rfl l hl)
      rw [if_pos (by simp), hrel.chan _ hne]
      exact hpscMboxChanDestroy_active _ a.idxTo
    · rw [hc] at hok
      exact (hsc hok).elim

/-- **Where a failed claim is harmless.** A claim that fails changes
nothing exactly when it does not find its channel in use, and a connect
that returns `NULL` leaves the connected links alone exactly when it does
not come to claim a channel one of them holds. -/
theorem failed_claim_iff (s : Mailbox) (env : CallEnv) (i : Fin channels) (a : ClaimArgs)
    (cenv : ConnectEnv) (c : ConnectArgs) :
    (ClaimHarmless env s i a ↔ env.inIsr = true ∨ (s.chan i).active = false) ∧
      (ConnectHarmless cenv s c ↔ ¬ ConnectHits cenv s c) :=
  ⟨claimHarmless_iff env s i a,
    fun hharm hhits => not_connectHarmless_of_hits hhits hharm, connectHarmless_of_not_hits⟩

/-- A mailbox just probed, with every register clear. -/
def probed : Mailbox where
  mbox := hpscMboxInit (fun _ => ⟨0, 0, ⟨none, none⟩, ⟨none, none⟩, 0, 0, 0, false⟩) 0x1000
    ⟨32, 0⟩ ⟨33, 1⟩
  regs _ := ⟨0, 0, 0, fun _ => 0⟩

/-- The two claims by which a server connects its link 7 on channels 0 and 1. -/
def serverClaims : List MboxOp :=
  let a : ConnectArgs := ⟨0, 1, 0x2e, 0x2d⟩
  [.claim ⟨false, true⟩ 0 (claimFrom a 7), .claim ⟨false, true⟩ 1 (claimTo a 7)]

/-- While that link is connected, a claim of channel 0 fails and takes the
channel from it, and so does a connect on channels 2 and 1. -/
theorem failed_claim_harms :
    ¬ (∀ ops env i a, ClaimHarmless env (Machine.final mboxStep probed ops) i a) ∧
      ¬ ∀ ops env a, ConnectHarmless env (Machine.final mboxStep probed ops) a := by
  have hstate : Machine.final mboxStep probed serverClaims =
      (linkMboxConnect ⟨some 7, some 8, false, true, true, true⟩ probed ⟨0, 1, 0x2e, 0x2d⟩).1 :=
    rfl
  constructor
  · intro h
    have hharm := h serverClaims ⟨false, true⟩ 0 ⟨0x2e, 0, 0, none, none, none⟩
    rw [claimHarmless_iff] at hharm
    revert hharm
    decide
  · intro h
    have hup : LinkUp (Machine.final mboxStep probed serverClaims) ⟨7, ⟨0, 1, 0x2e, 0x2d⟩⟩ := by
      rw [hstate]
      exact linkUp_of_connect (by decide) (by decide) rfl
    refine not_connectHarmless_of_hits ?_
      (h serverClaims ⟨some 9, some 10, false, true, true, true⟩ ⟨2, 1, 0x2e, 0x2d⟩)
    exact ⟨by simp, by simp, rfl, _, hup, Or.inr ⟨Or.inr rfl, rfl, Or.inr (Or.inl rfl)⟩⟩

end HpscRtems.Mbox
