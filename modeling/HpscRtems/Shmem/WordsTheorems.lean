/-
HpscRtems.Shmem.WordsTheorems — stop-and-wait over shared memory, access by
access.

The accesses refine the accessors: the stores of a write answer to one
`copy`, at the last of them, the sixteen loads of a read to one `read`, and
a load and a store of the status word to one update, at the store. This
needs that no store of the message falls between two loads, nor a load
between two stores (`CopyAlone`), and that no two updates of the status word
overlap (`UpdatesAlone`).

For a patient sender most of this is what the phases of the accessor level
say. The clear of ACK by the sender's own poll task is in no phase: where it
overlaps another update, a bit is lost or comes back.

  §4 exactly once, as long as no clear of ACK overlaps another update, and
     what an overlap does;
  §5 exactly once and never stuck, without that condition, when the sender
     stands still while its ACK poll task is in `link_shmem_ack`.
-/
import HpscRtems.Link.AtomicTheorems
import HpscRtems.Shmem.Words

namespace HpscRtems.Shmem.Words

open Machine Rtems Link Shmem OneWay

/-! ## §1 The simulation relation -/

/-- The ACK poll task's position at the accessor level. -/
def AckPoll.task : AckPoll → AckTask
  | .poll => .poll
  | .inLinkAck => .inLinkAck
  | .loadAck | .storeAck _ => .clearAck

/-- The receiver's position at the accessor level. -/
def RecvPoll.task : RecvPoll → RecvTask
  | .poll => .poll
  | .read _ _ => .read
  | .loadNew | .storeNew _ => .clearNew
  | .loadAck | .storeAck _ => .setAck

/-- The byte at `j` of a message of `sz` bytes from `buf`. -/
def msgByte (buf : Mem) (sz j : Nat) : Byte := if j < sz then buf j else 0

/-- The state `c` as the accessor state `x`. -/
structure Rel (c : ShmemState) (x : OneWay HpscShmemRegion) : Prop where
  link : x.link = c.link
  calls : x.calls = c.calls
  slot : x.slot = c.slot
  reads : x.reads = c.reads
  status : x.medium.status = c.region.status
  ack : x.ack = c.ack.task
  recv : x.recv = c.recv.task
  written_le : c.written ≤ hpscMsgSize
  copied : x.copied = true ↔ c.written = hpscMsgSize
  writing : c.written ≠ 0 → ∃ tid call, c.link.req = .running tid call .write
  /-- Whoever is to store the status word has loaded it as it is. -/
  newLoaded : ∀ v, c.newLoaded = some v → v = c.region.status ∧ c.written = hpscMsgSize
  ackLoaded : ∀ v, c.ack = .storeAck v → v = c.region.status
  recvNew : ∀ v, c.recv = .storeNew v → v = c.region.status
  recvAck : ∀ v, c.recv = .storeAck v → v = c.region.status
  alone : c.ack.updating = true → c.newLoaded = none ∧ c.recv.updating = false
  newAlone : c.recv.updating = true → c.newLoaded = none
  /-- Outside a write both levels have the same data; inside it the stored
  bytes are those of the message. -/
  data : c.written = 0 ∨ c.written = hpscMsgSize → x.medium.data = c.region.data
  bytes : ∀ tid call, c.link.req = .running tid call .write → ∀ j, j < c.written →
    c.region.data.toMem j = msgByte (bufMem call.buf) call.sz j
  /-- The words loaded so far are in the buffer. -/
  loaded : ∀ i mem, c.recv = .read i mem → 4 * i < hpscMsgSize ∧
    ∀ j, j < 4 * i → mem j = c.region.data.toMem j

variable {addr : Nat → Nat} {c c' : ShmemState} {x : OneWay HpscShmemRegion}

/-- A step that one step of the accessor level answers, or none. -/
def Answers (c' : ShmemState) (x : OneWay HpscShmemRegion) (a : ShmemAct) : Prop :=
  Rel c' x ∨ ∃ b x', oneWayStep shmemMedium x b = some x' ∧ Rel c' x' ∧
    b.call? = a.call? ∧ b.ofTask = a.ofTask ∧ (b = .copy → a = .store ∧ c'.written = hpscMsgSize)

theorem updating_eq_false (h : c.updating = false) :
    c.newLoaded = none ∧ c.ack.updating = false ∧ c.recv.updating = false := by
  simpa [ShmemState.updating, and_assoc] using h

theorem Rel.written_eq_zero (hr : Rel c x)
    (h : ∀ tid call, c.link.req ≠ .running tid call .write) : c.written = 0 := by
  by_contra hne
  obtain ⟨tid, call, hw⟩ := hr.writing hne
  exact h tid call hw

/-- Outside the update of NEW nothing is pending for it. -/
theorem Rel.newLoaded_none (hr : Rel c x)
    (h : ∀ tid call, c.link.req ≠ .running tid call .write) : c.newLoaded = none := by
  cases hl : c.newLoaded with
  | none => rfl
  | some v =>
    have h64 := (hr.newLoaded v hl).2
    rw [hr.written_eq_zero h] at h64
    cases h64

theorem Msg.toMem_ofMem (mem : Mem) {j : Nat} (hj : j < hpscMsgSize) :
    (Msg.ofMem mem).toMem j = mem j := by
  rw [Msg.toMem_eq _ _ hj, Msg.getElem_ofMem]

/-! ## §2 The sender's steps -/

/-- One store more of the message. -/
theorem nextStore_bytes {data buf : Mem} {sz d : Nat} (hd : d < hpscMsgSize)
    (hsz : sz ≤ hpscMsgSize) (h : ∀ j, j < d → data j = msgByte buf sz j) :
    d < (nextStore data buf sz d).2 ∧ (nextStore data buf sz d).2 ≤ hpscMsgSize ∧
      ∀ j, j < (nextStore data buf sz d).2 →
        (nextStore data buf sz d).1 j = msgByte buf sz j := by
  unfold nextStore
  split
  · rename_i hword
    refine ⟨Nat.lt_add_of_pos_right (by decide), Nat.le_trans hword hsz, fun j hj => ?_⟩
    simp only at hj ⊢
    unfold storeWord
    by_cases hlow : j < d
    · rw [if_neg (by omega), h j hlow]
    · rw [if_pos (by omega), byteOf_loadWord _ _ _ (by omega), msgByte, if_pos (by omega)]
      congr 1
      omega
  · refine ⟨Nat.lt_succ_self d, hd, fun j hj => ?_⟩
    simp only at hj ⊢
    by_cases hjd : j = d
    · rw [hjd, Function.update_self]
      rfl
    · rw [Function.update_of_ne hjd, h j (by omega)]

theorem sim_sender {a : Act} (hr : Rel c x) (hb : x.Base)
    (h : wordStep addr c (.sender a) = some c') : Answers c' x (.sender a) := by
  simp only [wordStep] at h
  split at h
  · rename_i hof
    obtain ⟨l, hl, rfl⟩ := Option.map_eq_some_iff.mp h
    have hstep : oneWayStep shmemMedium x (.sender a) =
        some { x with link := l, calls := a.addCall x.calls } := by
      simp only [oneWayStep, hof, if_true, hr.link, hl, Option.map_some]
    -- outside `link_shmem_write` nothing has been stored
    have hzero : c.written = 0 := by
      apply hr.written_eq_zero
      intro tid call hw
      have hs := sendStep_of_stepped hb.link hb.sends hof (step_stepped (hr.link ▸ hl))
      rw [← hr.link] at hw
      cases hs <;> simp_all [Requester.isRunning]
    refine .inr ⟨.sender a, _, hstep, { hr with
      link := rfl
      calls := by rw [hr.calls]
      writing := fun hne => absurd hzero hne
      bytes := fun tid call _ j hj => ?_ }, ?_, rfl, fun he => by cases he⟩
    · have hj0 : j < 0 := hzero ▸ hj
      omega
    · cases a <;> rfl
  · cases h

/-- A store into the data keeps the rest. -/
theorem Rel.stored (hr : Rel c x) {data : Msg} {d : Nat} (slot : Nat) {copied : Bool}
    {medium : HpscShmemRegion} (hst : medium.status = c.region.status) (hle : d ≤ hpscMsgSize)
    (hcop : copied = true ↔ d = hpscMsgSize)
    (hw : ∃ tid call, c.link.req = .running tid call .write)
    (hnone : c.newLoaded = none) (hrecv : c.recv.reading = false)
    (hdata : d = 0 ∨ d = hpscMsgSize → medium.data = data)
    (hbytes : ∀ tid call, c.link.req = .running tid call .write → ∀ j, j < d →
      data.toMem j = msgByte (bufMem call.buf) call.sz j) :
    Rel { c with region := { c.region with data := data }, written := d, slot := slot }
      { x with medium := medium, copied := copied, slot := slot } where
  link := hr.link
  calls := hr.calls
  slot := rfl
  reads := hr.reads
  status := hst
  ack := hr.ack
  recv := hr.recv
  written_le := hle
  copied := hcop
  writing _ := hw
  newLoaded v hv := by
    rw [show c.newLoaded = _ from hv] at hnone
    cases hnone
  ackLoaded := hr.ackLoaded
  recvNew := hr.recvNew
  recvAck := hr.recvAck
  alone := hr.alone
  newAlone := hr.newAlone
  data := hdata
  bytes := hbytes
  loaded i mem hread := by
    -- nothing has been loaded yet
    rw [show c.recv = _ from hread] at hrecv
    have hi : i = 0 := by simpa [RecvPoll.reading] using hrecv
    subst hi
    exact ⟨by decide, fun j hj => absurd hj (Nat.not_lt_zero j)⟩

theorem sim_store (hr : Rel c x) (hg : CopyAlone c .store)
    (h : wordStep addr c .store = some c') : Answers c' x .store := by
  simp only [wordStep] at h
  split at h
  · rename_i tid call hw
    split at h
    · rename_i hlt
      replace hlt := hlt.2
      have hrecv := hg.1 rfl
      obtain ⟨hgrow, hle, hbytes⟩ := nextStore_bytes hlt.1 hlt.2 (hr.bytes tid call hw)
      have hnone : c.newLoaded = none := by
        cases hl : c.newLoaded with
        | none => rfl
        | some v => exact absurd (hr.newLoaded v hl).2 (Nat.ne_of_lt hlt.1)
      have hcop : x.copied = false := by
        by_contra hne
        exact absurd (hr.copied.mp (by simpa using hne)) (Nat.ne_of_lt hlt.1)
      generalize nextStore c.region.data.toMem (bufMem call.buf) call.sz c.written = next at *
      obtain ⟨mem, d⟩ := next
      simp only at hgrow hle hbytes
      simp only [Option.some.injEq] at h
      subst h
      have hmem : ∀ tid' call', c.link.req = .running tid' call' .write → ∀ j, j < d →
          (Msg.ofMem mem).toMem j = msgByte (bufMem call'.buf) call'.sz j := by
        intro tid' call' hw' j hj
        rw [hw] at hw'
        cases hw'
        rw [Msg.toMem_ofMem _ (Nat.lt_of_lt_of_le hj hle), hbytes j hj]
      by_cases hlast : d = hpscMsgSize
      · -- the last store: the whole message stands in the region
        obtain ⟨r, hw'⟩ := shmemWrite_isSome x.medium (bufMem call.buf) (p := 0) rfl hlt.2
        have hwr : shmemMedium.write x.medium (bufMem call.buf) call.sz = some r := by
          show (shmemWrite x.medium (bufMem call.buf) 0 call.sz).map (·.1) = some r
          rw [hw']
          rfl
        have hreq : x.link.req = .running tid call .write := by rw [hr.link, hw]
        have hstep : oneWayStep shmemMedium x .copy =
            some { x with medium := r, copied := true, slot := c.calls.length } := by
          simp only [oneWayStep, hreq, hcop, hwr, Option.map_some, hr.calls]
        obtain ⟨hdata, hst, -⟩ := shmemWrite_zero_data hw'
        rw [if_pos hlast]
        refine .inr ⟨.copy, _, hstep, hr.stored _ (hst.trans hr.status) hle
          (iff_of_true rfl hlast) ⟨tid, call, hw⟩ hnone hrecv (fun _ => ?_) hmem, rfl, rfl,
          fun _ => ⟨rfl, hlast⟩⟩
        rw [show r.data = _ from hdata, Msg.padded]
        refine Msg.ofMem_congr fun j hj => ?_
        rw [hbytes j (hlast ▸ hj)]
        rfl
      · have hnot : x.copied = true ↔ d = hpscMsgSize := by
          rw [hcop]
          exact iff_of_false (by simp) hlast
        have hkept := hr.stored x.slot hr.status hle hnot ⟨tid, call, hw⟩ hnone hrecv
          (fun hk => by
            rcases hk with hs | hs
            · exact absurd hs (Nat.ne_of_gt (Nat.lt_of_le_of_lt (Nat.zero_le _) hgrow))
            · exact absurd hs hlast) hmem
        rw [if_neg hlast, ← hr.slot]
        exact .inl hkept
    · cases h
  · cases h

theorem sim_loadNew (hr : Rel c x) (hg : UpdatesAlone c .loadNew)
    (h : wordStep addr c .loadNew = some c') : Answers c' x .loadNew := by
  obtain ⟨-, hack, hrecv⟩ := updating_eq_false (hg rfl)
  simp only [wordStep] at h
  split at h
  · split at h
    · rename_i hall
      cases h
      refine .inl { hr with
        newLoaded := fun v hv => ?_
        alone := fun hup => absurd hup (by simp [hack])
        newAlone := fun hup => absurd hup (by simp [hrecv]) }
      cases hv
      exact ⟨rfl, hall⟩
    · cases h
  · cases h

theorem sim_storeNew (hr : Rel c x) (h : wordStep addr c .storeNew = some c') :
    Answers c' x .storeNew := by
  simp only [wordStep] at h
  split at h
  · rename_i tid call v hw hv
    obtain ⟨l, hl, rfl⟩ := Option.map_eq_some_iff.mp h
    obtain ⟨rfl, hall⟩ := hr.newLoaded v hv
    have hreq : x.link.req = .running tid call .write := by rw [hr.link, hw]
    have hcop : x.copied = true := hr.copied.mpr hall
    have hstep : oneWayStep shmemMedium x .setNew = some { x with
        link := l
        medium := shmemMedium.setNew x.medium true
        copied := false } := by
      rw [← hr.link] at hl
      simp only [oneWayStep, hreq, hcop, hl, Option.map_some]
    -- nobody else is in an update
    have hnot : c.ack.updating ≠ true := fun hup => by
      rw [(hr.alone hup).1] at hv
      cases hv
    have hrecv : c.recv.updating ≠ true := fun hup => by
      rw [hr.newAlone hup] at hv
      cases hv
    refine .inr ⟨.setNew, _, hstep, { hr with
      link := rfl
      status := ?_
      written_le := Nat.zero_le _
      copied := iff_of_false (by simp) (by simp)
      writing := fun hne => absurd rfl hne
      newLoaded := fun _ hv => by cases hv
      ackLoaded := fun v hv => absurd (by rw [show c.ack = _ from hv]; rfl) hnot
      recvNew := fun v hv => absurd (by rw [show c.recv = _ from hv]; rfl) hrecv
      recvAck := fun v hv => absurd (by rw [show c.recv = _ from hv]; rfl) hrecv
      alone := fun hup => absurd hup hnot
      newAlone := fun _ => rfl
      data := fun _ => hr.data (.inr hall)
      bytes := fun _ _ _ j hj => absurd hj (Nat.not_lt_zero j) }, rfl, rfl, fun he => by cases he⟩
    show (shmemSetNew x.medium true).status = _
    simp [shmemSetNew, hr.status]
  · cases h

/-! ## §3 The poll tasks -/

theorem sim_ack (hr : Rel c x) (hg : UpdatesAlone c .ack) (h : ackStep c = some c') :
    Answers c' x .ack := by
  unfold ackStep at h
  cases hpc : c.ack with
  | poll =>
    simp only [hpc] at h
    split at h
    · rename_i hsees
      cases h
      have hpoll : x.ack = .poll := by rw [hr.ack, hpc]; rfl
      have hack : shmemMedium.isAck x.medium = true := by
        show hasEvent x.medium.status statusBitAck = true
        rw [hr.status]
        exact hsees
      have hstep : oneWayStep shmemMedium x .ackPoll = some { x with ack := .inLinkAck } := by
        simp only [oneWayStep, hpoll, hack, and_self, if_true]
      exact .inr ⟨.ackPoll, _, hstep, { hr with
        ack := rfl
        ackLoaded := fun _ hv => by cases hv
        alone := fun hup => by cases hup }, rfl, rfl, fun he => by cases he⟩
    · cases h
  | inLinkAck =>
    simp only [hpc, Option.some.injEq] at h
    subst h
    have hin : x.ack = .inLinkAck := by rw [hr.ack, hpc]; rfl
    have hstep : oneWayStep shmemMedium x .linkAck = some { x with
        link := c.link.linkAck
        ack := if c.link.linkAck.ack = .idle then .clearAck else .inLinkAck } := by
      simp only [oneWayStep, hin, if_true, hr.link]
    have hreq : c.link.linkAck.req = c.link.req := by
      unfold LinkState.linkAck
      split <;> rfl
    have hnot : ∀ v, (if c.link.linkAck.ack = .idle then AckPoll.loadAck else .inLinkAck) ≠
        .storeAck v := fun v => by split <;> simp
    refine .inr ⟨.linkAck, _, hstep, { hr with
      link := rfl
      ack := ?_
      ackLoaded := fun v hv => absurd hv (hnot v)
      alone := ?_
      writing := ?_
      bytes := ?_ }, rfl, rfl, fun he => by cases he⟩
    · show (if c.link.linkAck.ack = .idle then AckTask.clearAck else .inLinkAck) =
        AckPoll.task (if c.link.linkAck.ack = .idle then .loadAck else .inLinkAck)
      split <;> rfl
    · show c.written ≠ 0 → ∃ tid call, c.link.linkAck.req = .running tid call .write
      rw [hreq]
      exact hr.writing
    · intro hup
      simp only at hup
      split at hup <;> cases hup
    · show ∀ tid call, c.link.linkAck.req = .running tid call .write → _
      rw [hreq]
      exact hr.bytes
  | loadAck =>
    simp only [hpc, Option.some.injEq] at h
    subst h
    obtain ⟨hnew, -, hrecv⟩ := updating_eq_false (hg (decide_eq_true hpc))
    refine .inl { hr with
      ack := by rw [hr.ack, hpc]; rfl
      ackLoaded := fun v hv => ?_
      alone := fun _ => ⟨hnew, hrecv⟩ }
    cases hv
    rfl
  | storeAck v =>
    simp only [hpc, Option.some.injEq] at h
    subst h
    have hv := hr.ackLoaded v hpc
    subst hv
    obtain ⟨hnew, hup⟩ := hr.alone (by rw [hpc]; rfl)
    have hclear : x.ack = .clearAck := by rw [hr.ack, hpc]; rfl
    have hstep : oneWayStep shmemMedium x .clearAck =
        some { x with medium := shmemMedium.setAck x.medium false, ack := .poll } := by
      simp only [oneWayStep, hclear, if_true]
    refine .inr ⟨.clearAck, _, hstep, { hr with
      status := ?_
      ack := rfl
      newLoaded := fun v hv => by rw [show c.newLoaded = _ from hv] at hnew; cases hnew
      ackLoaded := fun _ hv => by cases hv
      recvNew := fun v hv => by rw [show c.recv = _ from hv] at hup; cases hup
      recvAck := fun v hv => by rw [show c.recv = _ from hv] at hup; cases hup
      alone := fun hk => by cases hk }, rfl, rfl, fun he => by cases he⟩
    show (shmemSetAck x.medium false).status = _
    simp [shmemSetAck, hr.status]

/-- A load puts one more word into the buffer. -/
theorem Rel.loaded_succ (hr : Rel c x) {i : Nat} {mem : Mem} (hread : c.recv = .read i mem)
    {j : Nat} (hj : j < 4 * (i + 1)) :
    storeWord mem (4 * i) (loadWord c.region.data.toMem (4 * i)) j = c.region.data.toMem j := by
  unfold storeWord
  by_cases hlow : j < 4 * i
  · rw [if_neg (by omega), (hr.loaded i mem hread).2 j hlow]
  · rw [if_pos (by omega), byteOf_loadWord _ _ _ (by omega)]
    congr 1
    omega

theorem sim_recv (hr : Rel c x) (hu : UpdatesAlone c .recv) (hg : CopyAlone c .recv)
    (h : recvStep c = some c') : Answers c' x .recv := by
  unfold recvStep at h
  cases hpc : c.recv with
  | poll =>
    simp only [hpc] at h
    split at h
    · rename_i hsees
      cases h
      have hpoll : x.recv = .poll := by rw [hr.recv, hpc]; rfl
      have hnew : shmemMedium.isNew x.medium = true := by
        show hasEvent x.medium.status statusBitNew = true
        rw [hr.status]
        exact hsees
      have hstep : oneWayStep shmemMedium x .recvPoll = some { x with recv := .read } := by
        simp only [oneWayStep, hpoll, hnew, and_self, if_true]
      refine .inr ⟨.recvPoll, _, hstep, { hr with
        recv := rfl
        recvNew := fun _ hv => by cases hv
        recvAck := fun _ hv => by cases hv
        alone := fun hup => ⟨(hr.alone hup).1, rfl⟩
        newAlone := fun hup => by cases hup
        loaded := fun i mem hread => ?_ }, rfl, rfl, fun he => by cases he⟩
      cases hread
      exact ⟨by decide, fun j hj => absurd hj (Nat.not_lt_zero j)⟩
    · cases h
  | read i mem =>
    simp only [hpc] at h
    have hbound := (hr.loaded i mem hpc).1
    split at h
    · rename_i hmore
      cases h
      refine .inl { hr with
        recv := by rw [hr.recv, hpc]; rfl
        recvNew := fun _ hv => by cases hv
        recvAck := fun _ hv => by cases hv
        alone := fun hup => ⟨(hr.alone hup).1, rfl⟩
        newAlone := fun hup => by cases hup
        loaded := fun j mem' hread => ?_ }
      cases hread
      exact ⟨hmore, fun j hj => hr.loaded_succ hpc hj⟩
    · rename_i hmore
      cases h
      have hread : x.recv = .read := by rw [hr.recv, hpc]; rfl
      have hstep : oneWayStep shmemMedium x .read = some { x with
          reads := x.reads ++ [(x.slot, shmemMedium.read x.medium)], recv := .clearNew } := by
        simp only [oneWayStep, hread, if_true]
      -- no write is in progress, so the data are those of the accessor level
      have hmsg : shmemMedium.read x.medium = c.region.data := by
        show readMsg x.medium = _
        rw [readMsg_eq, hr.data (hg.2 (by simp [ShmemAct.loadsWord, hpc]))]
      have hbuf : Msg.ofMem (storeWord mem (4 * i) (loadWord c.region.data.toMem (4 * i))) =
          c.region.data := by
        refine Eq.trans (Msg.ofMem_congr fun j hj => ?_) (Msg.ofMem_toMem c.region.data)
        exact hr.loaded_succ hpc (by omega)
      exact .inr ⟨.read, _, hstep, { hr with
        reads := by rw [hmsg, hbuf, hr.reads, hr.slot]
        recv := rfl
        recvNew := fun _ hv => by cases hv
        recvAck := fun _ hv => by cases hv
        alone := fun hup => ⟨(hr.alone hup).1, rfl⟩
        newAlone := fun hup => by cases hup
        loaded := fun _ _ hv => by cases hv }, rfl, rfl, fun he => by cases he⟩
  | loadNew =>
    simp only [hpc, Option.some.injEq] at h
    subst h
    obtain ⟨hnew, hack, -⟩ := updating_eq_false (hu (by
      simp [ShmemAct.beginsUpdate, hpc, RecvPoll.atStatus, RecvPoll.updating]))
    refine .inl { hr with
      recv := by rw [hr.recv, hpc]; rfl
      recvNew := fun v hv => ?_
      recvAck := fun _ hv => by cases hv
      alone := fun hup => absurd hup (by simp [hack])
      newAlone := fun _ => hnew
      loaded := fun _ _ hv => by cases hv }
    cases hv
    rfl
  | storeNew v =>
    simp only [hpc, Option.some.injEq] at h
    subst h
    have hv := hr.recvNew v hpc
    subst hv
    have hnot : c.ack.updating ≠ true := fun hup => by
      have := (hr.alone hup).2
      rw [hpc] at this
      cases this
    have hnew := hr.newAlone (by rw [hpc]; rfl)
    have hclear : x.recv = .clearNew := by rw [hr.recv, hpc]; rfl
    have hstep : oneWayStep shmemMedium x .clearNew =
        some { x with medium := shmemMedium.setNew x.medium false, recv := .setAck } := by
      simp only [oneWayStep, hclear, if_true]
    refine .inr ⟨.clearNew, _, hstep, { hr with
      status := ?_
      recv := rfl
      newLoaded := fun v hv => by rw [show c.newLoaded = _ from hv] at hnew; cases hnew
      ackLoaded := fun v hv => absurd (by rw [show c.ack = _ from hv]; rfl) hnot
      recvNew := fun _ hv => by cases hv
      recvAck := fun _ hv => by cases hv
      alone := fun hup => absurd hup hnot
      newAlone := fun hup => by cases hup
      loaded := fun _ _ hv => by cases hv }, rfl, rfl, fun he => by cases he⟩
    show (shmemSetNew x.medium false).status = _
    simp [shmemSetNew, hr.status]
  | loadAck =>
    simp only [hpc, Option.some.injEq] at h
    subst h
    obtain ⟨hnew, hack, -⟩ := updating_eq_false (hu (by
      simp [ShmemAct.beginsUpdate, hpc, RecvPoll.atStatus, RecvPoll.updating]))
    refine .inl { hr with
      recv := by rw [hr.recv, hpc]; rfl
      recvNew := fun _ hv => by cases hv
      recvAck := fun v hv => ?_
      alone := fun hup => absurd hup (by simp [hack])
      newAlone := fun _ => hnew
      loaded := fun _ _ hv => by cases hv }
    cases hv
    rfl
  | storeAck v =>
    simp only [hpc, Option.some.injEq] at h
    subst h
    have hv := hr.recvAck v hpc
    subst hv
    have hnot : c.ack.updating ≠ true := fun hup => by
      have := (hr.alone hup).2
      rw [hpc] at this
      cases this
    have hnew := hr.newAlone (by rw [hpc]; rfl)
    have hset : x.recv = .setAck := by rw [hr.recv, hpc]; rfl
    have hstep : oneWayStep shmemMedium x .setAck =
        some { x with medium := shmemMedium.setAck x.medium true, recv := .poll } := by
      simp only [oneWayStep, hset, if_true]
    refine .inr ⟨.setAck, _, hstep, { hr with
      status := ?_
      recv := rfl
      newLoaded := fun v hv => by rw [show c.newLoaded = _ from hv] at hnew; cases hnew
      ackLoaded := fun v hv => absurd (by rw [show c.ack = _ from hv]; rfl) hnot
      recvNew := fun _ hv => by cases hv
      recvAck := fun _ hv => by cases hv
      alone := fun hup => absurd hup hnot
      newAlone := fun hup => by cases hup
      loaded := fun _ _ hv => by cases hv }, rfl, rfl, fun he => by cases he⟩
    show (shmemSetAck x.medium true).status = _
    simp [shmemSetAck, hr.status]

/-- **Step lemma.** As long as no updates of the status word overlap and no
copies do, every access is nothing to the accessor level, or one accessor. -/
theorem sim_step {a : ShmemAct} (hr : Rel c x) (hb : x.Base) (hu : UpdatesAlone c a)
    (hg : CopyAlone c a) (h : wordStep addr c a = some c') : Answers c' x a := by
  cases a with
  | sender a => exact sim_sender hr hb h
  | store => exact sim_store hr hg h
  | loadNew => exact sim_loadNew hr hu h
  | storeNew => exact sim_storeNew hr h
  | ack => exact sim_ack hr hu h
  | recv => exact sim_recv hr hu hg h

/-! ## §4 Exactly once -/

/-- While the sender is in `link_shmem_write`, the receiver waits. -/
theorem Rel.recv_poll (hr : Rel c x) (hp : Phase shmemMedium x) {tid : TaskId} {call : Call}
    (hw : c.link.req = .running tid call .write) : c.recv = .poll := by
  have hpos : x.link.req.position = .writing call := by rw [hr.link, hw]; rfl
  have hquiet : Quiet shmemMedium x := by
    simp only [Phase, hpos] at hp
    exact hp.1
  have hrecv := hr.recv.symm.trans hquiet.recv
  cases hc : c.recv with
  | poll => rfl
  | read i mem | loadNew | storeNew v | loadAck | storeAck v =>
    rw [hc] at hrecv
    cases hrecv

/-- While the receiver is in `link_shmem_read`, the sender waits. -/
theorem Rel.not_writing (hr : Rel c x) (hp : Phase shmemMedium x) (hread : c.recv ≠ .poll)
    (tid : TaskId) (call : Call) : c.link.req ≠ .running tid call .write :=
  fun hw => hread (hr.recv_poll hp hw)

/-- For a patient sender, only the clear of ACK can overlap an update. -/
theorem Rel.updatesAlone {a : ShmemAct} (hr : Rel c x) (hp : Phase shmemMedium x)
    (hg : ClearAlone c a) (h : wordStep addr c a = some c') : UpdatesAlone c a := by
  intro hbegins
  cases a with
  | sender _ | store | storeNew => cases hbegins
  | loadNew =>
    simp only [wordStep] at h
    split at h
    · rename_i hw hnone
      have hack : c.ack.updating = false := by
        by_contra hup
        have := hg.2 (by simpa using hup)
        cases this
      simp [ShmemState.updating, hnone, hack, hr.recv_poll hp hw, RecvPoll.updating]
    · cases h
  | ack =>
    have hload : c.ack = .loadAck := of_decide_eq_true hbegins
    obtain ⟨hnew, hrecv⟩ := hg.1 rfl hload
    simp [ShmemState.updating, hnew, hrecv, hload, AckPoll.updating]
  | recv =>
    have hat : c.recv.atStatus = true ∧ c.recv.updating = false := by
      simpa [ShmemAct.beginsUpdate] using hbegins
    have hne : c.recv ≠ .poll := fun he => by
      rw [he] at hat
      cases hat.1
    have hack : c.ack.updating = false := by
      by_contra hup
      have hno := hg.2 (by simpa using hup)
      rw [show ShmemAct.recv.atStatus c = c.recv.atStatus from rfl, hat.1] at hno
      cases hno
    simp [ShmemState.updating, hr.newLoaded_none (hr.not_writing hp hne), hack, hat.2]

/-- For a patient sender, no copies overlap. -/
theorem Rel.copyAlone {a : ShmemAct} (hr : Rel c x) (hp : Phase shmemMedium x)
    (h : wordStep addr c a = some c') : CopyAlone c a := by
  constructor
  · rintro rfl
    simp only [wordStep] at h
    split at h
    · rw [hr.recv_poll hp ‹_›]
      rfl
    · cases h
  · intro hload
    refine .inl (hr.written_eq_zero (hr.not_writing hp fun he => ?_))
    cases a <;> simp [ShmemAct.loadsWord, he] at hload

/-- Every call waits without time-out and sends at least one byte. -/
def PatientSends (_ : ShmemState) (a : ShmemAct) : Prop :=
  ∀ call ∈ a.call?, call.ticks = noTimeout ∧ call.sz ≠ 0

instance (c : ShmemState) (a : ShmemAct) : Decidable (PatientSends c a) :=
  inferInstanceAs (Decidable (∀ call ∈ a.call?, call.ticks = noTimeout ∧ call.sz ≠ 0))

/-- The calls are the same at both levels. -/
theorem patientNonempty_of {a : ShmemAct} {b : OneWayAct} (hg : PatientSends c a)
    (hcall : b.call? = a.call?) : PatientNonempty x b := by
  refine ⟨fun call hc => ?_, fun call hc => ?_⟩
  · exact (hg call (hcall ▸ hc)).1
  · exact (hg call (hcall ▸ hc)).2

/-- **The accesses refine the accessors**, as long as no clear of ACK
overlaps another update of the status word. -/
theorem words_refine (addr : Nat → Nat) :
    Refines (wordStep addr) (oneWayStep shmemMedium)
      (fun c a => PatientSends c a ∧ ClearAlone c a)
      (fun c x => Rel c x ∧ PatientInv x ∧ Phase shmemMedium x) where
  sim {c a c' x} hr hg h := by
    obtain ⟨hrel, hi, hp⟩ := hr
    rcases sim_step hrel hi.base (hrel.updatesAlone hp hg.2 h) (hrel.copyAlone hp h) h with
      hk | ⟨b, x', hstep, hk, hcall, -⟩
    · exact ⟨[], x, rfl, hk, hi, hp⟩
    · have hi' := patientInv_step hi (patientNonempty_of hg.1 hcall) hstep
      exact ⟨[b], x', exec_cons _ hstep, hk, hi', phase_step hi hp hstep⟩

theorem rel_start (r : HpscShmemRegion) (heap : LinkRequestCtx) (p : Pending) :
    Rel (ShmemState.start r heap p) (OneWay.start r heap p) where
  link := rfl
  calls := rfl
  slot := rfl
  reads := rfl
  status := rfl
  ack := rfl
  recv := rfl
  written_le := Nat.zero_le _
  copied := by simp [OneWay.start, ShmemState.start]
  writing h := absurd rfl h
  newLoaded _ h := by cases h
  ackLoaded _ h := by cases h
  recvNew _ h := by cases h
  recvAck _ h := by cases h
  alone h := by cases h
  newAlone h := by cases h
  data _ := rfl
  bytes _ _ h := by cases h
  loaded _ _ h := by cases h

/-- The messages of the calls, each with zeros up to 64 bytes. -/
def ShmemState.sent (c : ShmemState) : List Msg :=
  c.calls.map fun call => Msg.padded (bufMem call.buf) call.sz

/-- The messages read are the messages sent, in order and each once, up to
the call in progress; a call that has returned has had its message read. -/
structure Delivered (c : ShmemState) : Prop where
  reads : c.got = c.sent ∨ (c.link.req.isRunning = true ∧ c.got = c.sent.dropLast)
  returned : c.link.req.isRunning = false → c.got = c.sent

instance (c : ShmemState) : Decidable (Delivered c) :=
  decidable_of_iff ((c.got = c.sent ∨ (c.link.req.isRunning = true ∧
      c.got = c.sent.dropLast)) ∧ (c.link.req.isRunning = false → c.got = c.sent))
    ⟨fun h => ⟨h.1, h.2⟩, fun h => ⟨h.reads, h.returned⟩⟩

theorem delivered_of_rel (hr : Rel c x) (hp : Phase shmemMedium x) : Delivered c := by
  have hsent : sent shmemMedium x = c.sent := by
    unfold sent ShmemState.sent
    rw [hr.calls]
    rfl
  have hgot : got x = c.got := by
    unfold got ShmemState.got
    rw [hr.reads]
  have honce := hp.exactlyOnce
  constructor
  · have h := honce.reads
    rwa [hgot, hsent, hr.link] at h
  · intro hret
    have h := honce.returned (by rw [hr.link]; exact hret)
    rwa [hgot, hsent] at h

/-- **Stop-and-wait over shared memory.** On a region where NEW and ACK are
clear, and whatever the order of the accesses, sends of at least one byte
without time-out are read exactly once, whole and in order, each before its
call returns, as long as no clear of ACK overlaps another update of the
status word. -/
theorem shmemWords_exactlyOnce (addr : Nat → Nat) (r : HpscShmemRegion) (heap : LinkRequestCtx)
    (p : Pending) (as : List ShmemAct) (c : ShmemState) (hclear : r.Clear)
    (hG : Along (wordStep addr) (fun c a => PatientSends c a ∧ ClearAlone c a)
      (ShmemState.start r heap p) as)
    (h : exec (wordStep addr) (ShmemState.start r heap p) as = some c) : Delivered c := by
  have hstart : Phase shmemMedium (OneWay.start r heap p) :=
    phase_start heap p hclear.1 hclear.2
  obtain ⟨bs, x, -, hr, -, hp⟩ :=
    (words_refine addr).exec ⟨rel_start r heap p, patientInv_start r heap p, hstart⟩ hG h
  exact delivered_of_rel hr hp

/-- The link has not been used yet; a bit of no meaning is set. -/
abbrev freshWords : ShmemState :=
  ShmemState.start ⟨Msg.zero, 0x80#32⟩ ⟨0, 0, false, none, 0, 0⟩ fun _ => 0

/-- Every call's buffer is at 0x1000. -/
abbrev bufAt : Nat → Nat := fun _ => 0x1000

/-- The sending task up to the store of the message's last word. -/
def writeRun (buf : List Byte) : List ShmemAct :=
  [.sender (.call 1 (.requestSend buf hpscMsgSize noTimeout 0)), .sender .run, .sender .run,
   .sender .run] ++ List.replicate 16 .store

/-- The receiver's answer. -/
def answerRun : List ShmemAct := List.replicate 21 .recv

/-- A send that is answered, and returns before its ACK is cleared. -/
def sendRun (buf : List Byte) : List ShmemAct :=
  writeRun buf ++ [.loadNew, .storeNew] ++ answerRun ++ List.replicate 6 .ack ++
    [.sender .wake, .sender .run, .sender .run]

set_option maxRecDepth 4000 in
theorem sendRun_delivered : ∃ c,
    exec (wordStep bufAt) freshWords (sendRun [1, 2, 3] ++ [.ack, .ack]) = some c ∧
      Delivered c := by
  have hrun : (exec (wordStep bufAt) freshWords (sendRun [1, 2, 3] ++ [.ack, .ack])).isSome := by
    decide
  obtain ⟨c, hc⟩ := Option.isSome_iff_exists.mp hrun
  exact ⟨c, hc, shmemWords_exactlyOnce _ _ _ _ (sendRun [1, 2, 3] ++ [.ack, .ack]) c
    (by decide) (by decide) hc⟩

/-- The second send loads the status word before the ACK of the first is
cleared and stores it after: the old ACK is back, and answers a message that
nobody has read. -/
def overlapRun : List ShmemAct :=
  sendRun [1, 2, 3] ++ writeRun [4, 5, 6] ++ [.loadNew, .ack, .ack, .storeNew] ++
    List.replicate 6 .ack ++ [.sender .wake, .sender .run, .sender .run]

set_option maxRecDepth 8000 in
/-- Patient sends alone are not enough. -/
theorem overlapRun_not_delivered :
    Along (wordStep bufAt) PatientSends freshWords overlapRun ∧
      ∃ c, exec (wordStep bufAt) freshWords overlapRun = some c ∧ ¬ Delivered c := by
  have hrun : (exec (wordStep bufAt) freshWords overlapRun).map
      (fun c => (c.link.req.isRunning, c.reads.length, c.calls.length)) = some (false, 1, 2) := by
    decide
  obtain ⟨c, hc, hv⟩ := Option.map_eq_some_iff.mp hrun
  simp only [Prod.mk.injEq] at hv
  refine ⟨by decide, c, hc, fun hd => ?_⟩
  have hlen := congrArg List.length (hd.returned hv.1)
  simp only [ShmemState.got, ShmemState.sent, List.length_map] at hlen
  omega

/-! ## §5 A sender that its ACK poll task interrupts -/

/-- The sending task stands still while its ACK poll task is in `link_shmem_ack`. -/
def HandlerFirst (c : ShmemState) (a : ShmemAct) : Prop := c.ack ≠ .poll → a.ofTask = false

instance (c : ShmemState) (a : ShmemAct) : Decidable (HandlerFirst c a) :=
  inferInstanceAs (Decidable (_ → _))

/-- The relation with the gap closed: while the ACK poll task is in
`link_shmem_ack`, the sender is not in `shmem_set_new`. -/
structure RelFirst (c : ShmemState) (x : OneWay HpscShmemRegion) : Prop where
  rel : Rel c x
  inv : AtomicInv shmemMedium x
  handler : c.ack ≠ .poll → c.newLoaded = none

theorem AckPoll.task_ne_poll {k : AckPoll} (h : k ≠ .poll) : k.task ≠ .poll := by
  cases k with
  | poll => exact absurd rfl h
  | inLinkAck | loadAck | storeAck v => simp [AckPoll.task]

/-- While the ACK poll task is at work, the receiver waits. -/
theorem RelFirst.recv_poll (hr : RelFirst c x) (h : c.ack ≠ .poll) : c.recv = .poll := by
  have hx : x.ack ≠ .poll := by
    rw [hr.rel.ack]
    exact AckPoll.task_ne_poll h
  have hrecv := hr.rel.recv.symm.trans (hr.inv.quiet hx).1
  cases hc : c.recv with
  | poll => rfl
  | read i mem | loadNew | storeNew v | loadAck | storeAck v =>
    rw [hc] at hrecv
    cases hrecv

/-- No clear of ACK overlaps another update. -/
theorem RelFirst.clearAlone {a : ShmemAct} (hr : RelFirst c x) (hf : HandlerFirst c a) :
    ClearAlone c a := by
  constructor
  · intro _ hload
    have hne : c.ack ≠ .poll := by rw [hload]; simp
    exact ⟨hr.handler hne, by rw [hr.recv_poll hne]; rfl⟩
  · intro hup
    have hne : c.ack ≠ .poll := fun he => by
      rw [he] at hup
      cases hup
    have htask := hf hne
    cases a with
    | sender _ | ack => rfl
    | store | loadNew | storeNew => cases htask
    | recv =>
      rw [ShmemAct.atStatus, hr.recv_poll hne]
      rfl

/-- Where the ACK poll task enters `link_shmem_ack`, the sender waits. -/
theorem RelFirst.handler_step {a : ShmemAct} (hr : RelFirst c x) (hf : HandlerFirst c a)
    (h : wordStep addr c a = some c') (hack : c'.ack ≠ .poll) : c'.newLoaded = none := by
  cases a with
  | sender a =>
    simp only [wordStep] at h
    split at h
    · obtain ⟨l, -, rfl⟩ := Option.map_eq_some_iff.mp h
      exact hr.handler hack
    · cases h
  | store =>
    simp only [wordStep] at h
    split at h
    · split at h
      · cases h
        exact hr.handler hack
      · cases h
    · cases h
  | loadNew =>
    simp only [wordStep] at h
    split at h
    · split at h
      · cases h
        have := hf hack
        cases this
      · cases h
    · cases h
  | storeNew =>
    simp only [wordStep] at h
    split at h
    · obtain ⟨l, -, rfl⟩ := Option.map_eq_some_iff.mp h
      rfl
    · cases h
  | recv =>
    have hsame : c'.ack = c.ack ∧ c'.newLoaded = c.newLoaded := by
      simp only [wordStep, recvStep] at h
      repeat' split at h
      all_goals first | cases h; done | (cases h; exact ⟨rfl, rfl⟩)
    rw [hsame.2]
    exact hr.handler (hsame.1 ▸ hack)
  | ack =>
    simp only [wordStep, ackStep] at h
    cases hpc : c.ack with
    | poll =>
      simp only [hpc] at h
      split at h
      · rename_i hsees
        cases h
        -- an ACK stands, so the sender waits for it
        have hpoll : x.ack = .poll := by rw [hr.rel.ack, hpc]; rfl
        have hsees' : shmemMedium.isAck x.medium = true := by
          show hasEvent x.medium.status statusBitAck = true
          rw [hr.rel.status]
          exact hsees
        obtain ⟨⟨call, hpos⟩, -⟩ := hr.inv.phase.answered (.inl ⟨hpoll, hsees'⟩)
        apply hr.rel.newLoaded_none
        intro tid call' hw
        rw [hr.rel.link, hw] at hpos
        cases hpos
      · cases h
    | inLinkAck | loadAck | storeAck v =>
      simp only [hpc, Option.some.injEq] at h
      subst h
      exact hr.handler (by rw [hpc]; simp)

theorem words_refine_first (addr : Nat → Nat) :
    Refines (wordStep addr) (oneWayStep shmemMedium)
      (fun c a => PatientSends c a ∧ HandlerFirst c a) RelFirst where
  sim {c a c' x} hr hg h := by
    have hhandler := hr.handler_step hg.2 h
    have hp := hr.inv.phase
    rcases sim_step hr.rel hr.inv.patient.base (hr.rel.updatesAlone hp (hr.clearAlone hg.2) h)
        (hr.rel.copyAlone hp h) h with hk | ⟨b, x', hstep, hk, hcall, htask, -⟩
    · exact ⟨[], x, rfl, hk, hr.inv, hhandler⟩
    · have hatomic : HandlerAtomic x b := fun hne => by
        rw [htask]
        refine hg.2 fun hpoll => hne ?_
        rw [hr.rel.ack, hpoll]
        rfl
      exact ⟨[b], x', exec_cons _ hstep, hk,
        atomicInv_step hr.inv (patientNonempty_of hg.1 hcall) hatomic hstep, hhandler⟩

/-- A sender that waits finds one of the bits set. -/
def NotStuck (c : ShmemState) : Prop :=
  c.link.req.inAckWait = true → c.link.notified = false → c.ack = .poll → c.recv = .poll →
    pollSees c.region statusBitNew = true ∨ pollSees c.region statusBitAck = true

/-- **Never stuck.** When the sender stands still while its ACK poll task is
in `link_shmem_ack`, patient sends are read exactly once, whole and in
order, and a waiting sender is always waiting for a bit that one of the
poll tasks is going to see, whatever the receiver does meanwhile. -/
theorem shmemWords_handlerFirst (addr : Nat → Nat) (r : HpscShmemRegion) (heap : LinkRequestCtx)
    (p : Pending) (as : List ShmemAct) (c : ShmemState) (hclear : r.Clear)
    (hG : Along (wordStep addr) (fun c a => PatientSends c a ∧ HandlerFirst c a)
      (ShmemState.start r heap p) as)
    (h : exec (wordStep addr) (ShmemState.start r heap p) as = some c) :
    Delivered c ∧ NotStuck c := by
  have hstart : RelFirst (ShmemState.start r heap p) (OneWay.start r heap p) :=
    ⟨rel_start r heap p, atomicInv_start heap p hclear.1 hclear.2, fun _ => rfl⟩
  obtain ⟨bs, x, -, hr⟩ := (words_refine_first addr).exec hstart hG h
  refine ⟨delivered_of_rel hr.rel hr.inv.phase, fun hw hn hack hrecv => ?_⟩
  have hlost := hr.inv.alive.notLost (by rw [Blocked, hr.rel.link]; exact ⟨hw, hn⟩)
    (by rw [hr.rel.ack, hack]; rfl) (by rw [hr.rel.recv, hrecv]; rfl)
  have hst := hr.rel.status
  simpa only [shmemMedium, pollSees, shmemGetStatus, hst] using hlost

set_option maxRecDepth 4000 in
theorem sendRun_notStuck : ∃ c,
    exec (wordStep bufAt) freshWords
        (writeRun [1, 2, 3] ++ [.loadNew, .storeNew] ++ answerRun) = some c ∧
      Delivered c ∧ NotStuck c := by
  have hrun : (exec (wordStep bufAt) freshWords
      (writeRun [1, 2, 3] ++ [.loadNew, .storeNew] ++ answerRun)).isSome := by
    decide
  obtain ⟨c, hc⟩ := Option.isSome_iff_exists.mp hrun
  exact ⟨c, hc, shmemWords_handlerFirst _ _ _ _
    (writeRun [1, 2, 3] ++ [.loadNew, .storeNew] ++ answerRun) c (by decide) (by decide) hc⟩

end HpscRtems.Shmem.Words
