/-
HpscRtems.Mbox.ConfigTheorems — the ids in CONFIG, as the owner of a
channel writes them and a subscriber on the other processor checks them.

CONFIG holds three ids of eight bits each and reads back as written. Of
its two checks a claim without an owner makes the second against the wrong
id: the destination in CONFIG is compared with the source asked for.
-/
import HpscRtems.Mbox.CoherenceTheorems

namespace HpscRtems.Mbox

open Rtems

/-! ## §1 Encoding and decoding -/

/-- The three ids of a CONFIG value. -/
def configIds (val : Word) : Byte × Byte × Byte :=
  (((val &&& regConfigOwnerMask) >>> regConfigOwnerShift).setWidth 8,
    ((val &&& regConfigSrcMask) >>> regConfigSrcShift).setWidth 8,
    ((val &&& regConfigDestMask) >>> regConfigDestShift).setWidth 8)

theorem hpscMboxChanConfigRead_eq (s : Mailbox) (i : Fin channels) :
    hpscMboxChanConfigRead s i = configIds (s.block i).config := rfl

/-- Eight bits from `shift` on. -/
def fieldMask (shift : Nat) : Word := 0xff#32 <<< shift

theorem fieldMask_getLsbD {shift k : Nat} (hk : k < 32) :
    (fieldMask shift).getLsbD k = decide (shift ≤ k ∧ k < shift + 8) := by
  have hff : ∀ j : Fin 32, (0xff#32).getLsbD j.val = decide (j.val < 8) := by decide
  rw [fieldMask, BitVec.getLsbD_shiftLeft, Bool.eq_iff_iff]
  by_cases hs : k < shift
  · simp [hs, Nat.not_le.mpr hs]
  · have hj := hff ⟨k - shift, by omega⟩
    simp only at hj
    simp only [hk, hs, decide_true, decide_false, Bool.not_false, Bool.true_and, hj,
      decide_eq_true_eq]
    omega

/-- A field of a word. -/
def field (shift : Nat) (val : Word) : Byte := ((val &&& fieldMask shift) >>> shift).setWidth 8

/-- A byte moved to its field. -/
def toField (shift : Nat) (id : Byte) : Word := (id.setWidth 32 <<< shift) &&& fieldMask shift

theorem field_getLsbD (val : Word) {shift k : Nat} (hs : shift + 8 ≤ 32) (hk : k < 8) :
    (field shift val).getLsbD k = val.getLsbD (shift + k) := by
  have hm : (fieldMask shift).getLsbD (shift + k) = true := by
    rw [fieldMask_getLsbD (by omega)]
    simp only [decide_eq_true_eq]
    omega
  simp [field, hk, hm]

theorem toField_getLsbD (id : Byte) {shift k : Nat} (hk : k < 32) :
    (toField shift id).getLsbD k =
      (decide (shift ≤ k ∧ k < shift + 8) && id.getLsbD (k - shift)) := by
  rw [toField, BitVec.getLsbD_and, fieldMask_getLsbD hk, BitVec.getLsbD_shiftLeft]
  by_cases hin : shift ≤ k ∧ k < shift + 8
  · have hlt : ¬ k < shift := by omega
    simp [hk, hin, hlt, show k - shift < 32 by omega]
  · simp [hin]

/-- A field is not disturbed by what lies outside of it. -/
theorem field_or_toField (val : Word) (id : Byte) {shift shift' : Nat} (hs : shift + 8 ≤ 32)
    (h : shift + 8 ≤ shift' ∨ shift' + 8 ≤ shift) :
    field shift (val ||| toField shift' id) = field shift val := by
  apply BitVec.eq_of_getLsbD_eq
  intro k hk
  have hout : ¬ (shift' ≤ shift + k ∧ shift + k < shift' + 8) := by omega
  rw [field_getLsbD _ hs hk, field_getLsbD _ hs hk, BitVec.getLsbD_or,
    toField_getLsbD id (by omega)]
  simp [hout]

theorem field_or_self {val : Word} (id : Byte) {shift : Nat} (hs : shift + 8 ≤ 32)
    (h : field shift val = 0#8) : field shift (val ||| toField shift id) = id := by
  apply BitVec.eq_of_getLsbD_eq
  intro k hk
  have hval : val.getLsbD (shift + k) = false := by
    rw [← field_getLsbD val hs hk, h, BitVec.getLsbD_zero]
  have hin : shift ≤ shift + k ∧ shift + k < shift + 8 := by omega
  rw [field_getLsbD _ hs hk, BitVec.getLsbD_or, toField_getLsbD id (by omega), hval]
  simp [hin]

theorem configWord_eq (owner src dest : Byte) : configWord owner src dest =
    regConfigUnsecure ||| toField regConfigOwnerShift owner ||| toField regConfigSrcShift src |||
      toField regConfigDestShift dest := rfl

/-- **CONFIG reads back as written**, for all ids. -/
theorem configIds_configWord (owner src dest : Byte) :
    configIds (configWord owner src dest) = (owner, src, dest) := by
  have hids : configIds (configWord owner src dest) =
      (field 8 (configWord owner src dest), field 16 (configWord owner src dest),
        field 24 (configWord owner src dest)) := rfl
  rw [hids, configWord_eq]
  simp only [Prod.mk.injEq, regConfigOwnerShift, regConfigSrcShift, regConfigDestShift]
  refine ⟨?_, ?_, ?_⟩
  · rw [field_or_toField _ _ (by decide) (by decide), field_or_toField _ _ (by decide) (by decide)]
    exact field_or_self owner (by decide) (by decide)
  · rw [field_or_toField _ _ (by decide) (by decide)]
    refine field_or_self src (by decide) ?_
    rw [field_or_toField _ _ (by decide) (by decide)]
    decide
  · refine field_or_self dest (by decide) ?_
    rw [field_or_toField _ _ (by decide) (by decide), field_or_toField _ _ (by decide) (by decide)]
    decide

/-- What `hpsc_mbox_chan_config_write` has written, `hpsc_mbox_chan_config_read` reads. -/
theorem configRead_of_configWrite {takes : Bool} {s : Mailbox} {i : Fin channels}
    {owner src dest : Byte}
    (h : (hpscMboxChanConfigWrite takes s i owner src dest).2 = .successful) :
    hpscMboxChanConfigRead (hpscMboxChanConfigWrite takes s i owner src dest).1 i =
      (owner, src, dest) := by
  rcases configWrite_cases takes s i owner src dest with ⟨hw, _⟩ | ⟨hw, _⟩
  · rw [hw, hpscMboxChanConfigRead_eq, Mailbox.block_setBlock]
    exact configIds_configWord owner src dest
  · rw [hw] at h
    cases h

/-! ## §2 The two claims -/

/-- The check a claim without an owner makes, against the source and the
destination in CONFIG. -/
def Accepts (a : ClaimArgs) (src dest : Byte) : Prop :=
  (a.cbB = none ∨ a.src = 0 ∨ a.src = src) ∧ (a.cbA = none ∨ a.dest = 0 ∨ a.dest = dest)

/-- Two pairs of checks that share the first one and a way out of the second. -/
theorem checks_iff {p q d d' : Prop} :
    (p ∧ (q ∨ d) ↔ p ∧ (q ∨ d')) ↔ ¬ p ∨ q ∨ (d ↔ d') := by
  by_cases hp : p <;> by_cases hq : q <;> simp [hp, hq]

/-- A check passes if there is no callback, no id to compare, or no difference. -/
theorem check_passes {cb : Option Handler} {id : Byte} {d : Prop} :
    ¬ (cb.isSome = true ∧ id ≠ 0 ∧ ¬ d) ↔ cb = none ∨ id = 0 ∨ d := by
  cases cb with
  | none => simp
  | some h => by_cases hid : id = 0#8 <;> simp [hid]

/-- What follows the label `cleanup` does not change the status. -/
theorem claim_status {env : CallEnv} {s : Mailbox} {i : Fin channels} {a : ClaimArgs}
    (hisr : env.inIsr = false) :
    (hpscMboxChanClaim env s i a).2 = (hpscMboxChanClaimTry env.takes s i a).2 := by
  simp only [hpscMboxChanClaim, hisr, Bool.false_eq_true, if_false]
  split <;> rfl

/-- A claim without an owner succeeds if the source asked for is both the
source and the destination in CONFIG, as far as it checks them. -/
theorem claim_nonOwner_iff {env : CallEnv} {s : Mailbox} {i : Fin channels} {a : ClaimArgs}
    (hisr : env.inIsr = false) (hact : (s.chan i).active = false) (howner : a.owner = 0) :
    (hpscMboxChanClaim env s i a).2 = .successful ↔
      (a.cbB = none ∨ a.src = 0 ∨ (configIds (s.ownBlock i).config).2.1 = a.src) ∧
        (a.cbA = none ∨ a.dest = 0 ∨ (configIds (s.ownBlock i).config).2.2 = a.src) := by
  have hchan := hpscMboxChanInit_chan s i a
  have hinit : ((hpscMboxChanInit s i a).chan i).owner = 0 := by
    rw [hchan]
    exact howner
  have hread : hpscMboxChanConfigRead (hpscMboxChanInit s i a) i =
      configIds (s.ownBlock i).config := by
    rw [hpscMboxChanConfigRead_eq, Mailbox.block, hchan]
    rfl
  rw [claim_status hisr, ← check_passes, ← check_passes]
  simp only [hpscMboxChanClaimTry, hact, hinit, hread, Bool.false_eq_true, not_true_eq_false,
    if_false, ne_eq]
  split
  · rename_i hb
    exact ⟨(fun h => by cases h), fun h => absurd hb h.1⟩
  · rename_i hb
    split
    · rename_i ha
      exact ⟨(fun h => by cases h), fun h => absurd ha h.2⟩
    · rename_i ha
      exact ⟨fun _ => ⟨hb, ha⟩, fun _ => rfl⟩

/-- The owner's claim and the subscriber's agree: the subscriber's succeeds
exactly if it asks for the ids of the owner's, and finds these in CONFIG. -/
structure ClaimsAgree (owner : ClaimArgs) (env : CallEnv) (s : Mailbox) (i : Fin channels)
    (a : ClaimArgs) : Prop where
  succeeds : (hpscMboxChanClaim env s i a).2 = .successful ↔ Accepts a owner.src owner.dest
  decodes : hpscMboxChanConfigRead (hpscMboxChanInit s i a) i = (owner.owner, owner.src, owner.dest)

/-- **Where owner and subscriber agree**: the subscriber's claim fails over
its source already, or makes no check of its destination, or its source is
the owner's destination exactly if its destination is. -/
theorem claims_agree_iff (s₁ s₂ : Mailbox) (env₁ env₂ : CallEnv) (i : Fin channels)
    (a₁ a₂ : ClaimArgs) (howner : a₁.owner ≠ 0)
    (hclaim : (hpscMboxChanClaim env₁ s₁ i a₁).2 = .successful)
    (hshared : (s₂.ownBlock i).config = ((hpscMboxChanClaim env₁ s₁ i a₁).1.ownBlock i).config)
    (hinactive : (s₂.chan i).active = false) (hsub : a₂.owner = 0) (htask : env₂.inIsr = false) :
    ClaimsAgree a₁ env₂ s₂ i a₂ ↔
      (a₂.cbB ≠ none ∧ a₂.src ≠ 0 ∧ a₂.src ≠ a₁.src) ∨ a₂.cbA = none ∨ a₂.dest = 0 ∨
        (a₁.dest = a₂.src ↔ a₂.dest = a₁.dest) := by
  have hisr : env₁.inIsr = false := by
    cases hk : env₁.inIsr with
    | false => rfl
    | true => simp [hpscMboxChanClaim, hk] at hclaim
  have hact : (s₁.chan i).active = false := by
    cases hk : (s₁.chan i).active with
    | false => rfl
    | true =>
      rw [claim_active env₁ hisr hk] at hclaim
      cases hclaim
  have hconfig : (s₂.ownBlock i).config = configWord a₁.owner a₁.src a₁.dest := by
    rw [hshared]
    rcases claim_inactive env₁ hisr hact a₁ with h | ⟨sc, hsc, h⟩
    · rw [h, claimedState_ownBlock]
      exact if_pos howner
    · rw [h] at hclaim
      exact absurd hclaim hsc
  have hids : configIds (s₂.ownBlock i).config = (a₁.owner, a₁.src, a₁.dest) := by
    rw [hconfig]
    exact configIds_configWord ..
  have hdecodes : hpscMboxChanConfigRead (hpscMboxChanInit s₂ i a₂) i =
      (a₁.owner, a₁.src, a₁.dest) := by
    rw [hpscMboxChanConfigRead_eq, Mailbox.block, hpscMboxChanInit_chan]
    exact hids
  have hsucceeds := claim_nonOwner_iff htask hinactive hsub
  rw [hids, eq_comm (a := a₁.src)] at hsucceeds
  have hchecks : ((hpscMboxChanClaim env₂ s₂ i a₂).2 = .successful ↔
      Accepts a₂ a₁.src a₁.dest) ↔
      ¬ (a₂.cbB = none ∨ a₂.src = 0 ∨ a₂.src = a₁.src) ∨ (a₂.cbA = none ∨ a₂.dest = 0) ∨
        (a₁.dest = a₂.src ↔ a₂.dest = a₁.dest) := by
    rw [hsucceeds, Accepts, ← or_assoc (a := a₂.cbA = none), ← or_assoc (a := a₂.cbA = none)]
    exact checks_iff
  simp only [not_or, or_assoc] at hchecks
  exact ⟨fun h => hchecks.mp h.succeeds, fun h => ⟨hchecks.mpr h, hdecodes⟩⟩

/-- The server's driver has claimed channel 0 as its owner, for messages
from 0x2d to 0x2e. -/
def owned : Mailbox := (hpscMboxChanClaim ⟨false, true⟩ probed 0 (claimFrom ⟨0, 1, 0x2e, 0x2d⟩ 7)).1

/-- A subscriber to messages to 0x2e that leaves the source open. -/
def subscribe : ClaimArgs := ⟨0, 0, 0x2e, some .linkRecvCmd, none, none⟩

/-- Where both ids are compared, a subscriber to messages from 0x2d to 0x30
is turned away; one whose source is the owner's destination is not. -/
theorem compared_claims_agree :
    ClaimsAgree (claimFrom ⟨0, 1, 0x2e, 0x2d⟩ 7) ⟨false, true⟩ ⟨probed.mbox, owned.regs⟩ 0
        { subscribe with src := 0x2d, dest := 0x30, cbB := some .linkMboxAck } ∧
      ClaimsAgree (claimFrom ⟨0, 1, 0x2e, 0x2d⟩ 7) ⟨false, true⟩ ⟨probed.mbox, owned.regs⟩ 0
        { subscribe with src := 0x2e } :=
  ⟨(claims_agree_iff probed ⟨probed.mbox, owned.regs⟩ ⟨false, true⟩ ⟨false, true⟩ 0
      (claimFrom ⟨0, 1, 0x2e, 0x2d⟩ 7)
      { subscribe with src := 0x2d, dest := 0x30, cbB := some .linkMboxAck } (by decide)
      (by decide) rfl rfl rfl rfl).mpr (.inr (.inr (.inr (by decide)))),
    (claims_agree_iff probed ⟨probed.mbox, owned.regs⟩ ⟨false, true⟩ ⟨false, true⟩ 0
      (claimFrom ⟨0, 1, 0x2e, 0x2d⟩ 7) { subscribe with src := 0x2e } (by decide) (by decide) rfl
      rfl rfl rfl).mpr (.inr (.inr (.inr (by decide))))⟩

/-- The subscriber asks for the ids in CONFIG and is turned away. -/
theorem subscribe_not_agree :
    ¬ ∀ (s₁ s₂ : Mailbox) (env₁ env₂ : CallEnv) (i : Fin channels) (a₁ a₂ : ClaimArgs),
      a₁.owner ≠ 0 →
      (hpscMboxChanClaim env₁ s₁ i a₁).2 = .successful →
      (s₂.ownBlock i).config = ((hpscMboxChanClaim env₁ s₁ i a₁).1.ownBlock i).config →
      (s₂.chan i).active = false → a₂.owner = 0 → env₂.inIsr = false →
      ClaimsAgree a₁ env₂ s₂ i a₂ := by
  intro hall
  have h := (hall probed ⟨probed.mbox, owned.regs⟩ ⟨false, true⟩ ⟨false, true⟩ 0
    (claimFrom ⟨0, 1, 0x2e, 0x2d⟩ 7) subscribe (by decide) (by decide) rfl rfl rfl rfl).succeeds
  have hacc : Accepts subscribe 0x2d 0x2e := ⟨Or.inl rfl, Or.inr (Or.inr rfl)⟩
  have hsc := h.mpr hacc
  revert hsc
  decide

end HpscRtems.Mbox
