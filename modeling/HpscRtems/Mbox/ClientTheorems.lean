/-
HpscRtems.Mbox.ClientTheorems — a link connected in client mode, to the
channels another processor's server has configured.

The server owns both channels and writes its id and the client's to their
CONFIG registers. `link_mbox_connect` in client mode passes 0 for the
server's id, so the claim of the channel to receive on has a source but no
callback on event B, and the claim of the channel to send on a destination
but no callback on event A. The claims compare an id only together with the
other callback, and so compare nothing: every client gets the channels.
-/
import HpscRtems.Mbox.ConfigTheorems

namespace HpscRtems.Mbox

open Rtems

/-! ## §1 The two processors -/

/-- The arguments a client with id `c` connects with to the server's link. -/
def clientArgs (a : ConnectArgs) (c : Byte) : ConnectArgs := ⟨a.idxTo, a.idxFrom, 0, c⟩

/-- The driver on the client's processor: both channels of the server's
link are inactive, and lead to the CONFIG registers the server wrote. -/
structure Peer (server : Mailbox) (a : ConnectArgs) (client : Mailbox) : Prop where
  fromInactive : (client.chan a.idxFrom).active = false
  toInactive : (client.chan a.idxTo).active = false
  fromConfig : (client.ownBlock a.idxFrom).config = (server.ownBlock a.idxFrom).config
  toConfig : (client.ownBlock a.idxTo).config = (server.ownBlock a.idxTo).config

/-- `malloc` returns memory for both blocks, and a task makes the call. -/
structure ConnectEnv.Ready (env : ConnectEnv) : Prop where
  link : env.mallocLink ≠ none
  mlink : env.mallocMlink ≠ none
  task : env.inIsr = false

/-! ## §2 What the server has done -/

/-- The channels a server got are two. -/
theorem connect_idx_ne {env : ConnectEnv} {s : Mailbox} {a : ConnectArgs}
    (h : (linkMboxConnect env s a).2 ≠ none) : a.idxTo ≠ a.idxFrom := by
  intro heq
  apply h
  unfold linkMboxConnect
  cases env.mallocLink with
  | none => rfl
  | some link =>
    cases env.mallocMlink with
    | none => rfl
    | some mlink =>
      cases hisr : env.inIsr with
      | true => simp [hpscMboxChanClaim]
      | false =>
        dsimp only
        split
        · rfl
        · rename_i hok
          -- the first claim has made the channel active
          have hact : ((hpscMboxChanClaim ⟨false, env.takesFrom⟩ s a.idxFrom
              (claimFrom a link)).1.chan a.idxTo).active = true := by
            cases hfree : (s.chan a.idxFrom).active with
            | true =>
              rw [claim_active _ rfl hfree] at hok
              exact absurd (by simp) hok
            | false =>
              rcases claim_inactive ⟨false, env.takesFrom⟩ rfl hfree (claimFrom a link)
                with hc | ⟨sc, hsc, hc⟩
              · rw [hc, heq, claimedState_chan]
                rfl
              · rw [hc] at hok
                exact absurd hsc hok
          rw [claim_active _ rfl hact]
          rfl

/-- **What a client could compare with**: CONFIG has its id as the
destination of the channel it receives on and as the source of the channel
it sends on. -/
theorem peer_config {env : ConnectEnv} {s client : Mailbox} {a : ConnectArgs} {link : Nat}
    (hA : s.mbox.intA.idx < 16) (hB : s.mbox.intB.idx < 16)
    (h : (linkMboxConnect env s a).2 = some link) (hserver : a.server ≠ 0)
    (hp : Peer (linkMboxConnect env s a).1 a client) :
    configIds (client.ownBlock a.idxTo).config = (a.server, a.server, a.client) ∧
      configIds (client.ownBlock a.idxFrom).config = (a.server, a.client, a.server) := by
  have hup := linkUp_of_connect hA hB h
  have hto : ((linkMboxConnect env s a).1.ownBlock a.idxTo).config
      = configWord a.server a.server a.client := by
    have hc := hup.to_up.config hserver
    rw [Mailbox.block, hup.to_up.record] at hc
    exact hc
  have hfrom : ((linkMboxConnect env s a).1.ownBlock a.idxFrom).config
      = configWord a.server a.client a.server := by
    have hc := hup.from_up.config hserver
    rw [Mailbox.block, hup.from_up.record] at hc
    exact hc
  rw [hp.toConfig, hp.fromConfig, hto, hfrom]
  exact ⟨configIds_configWord .., configIds_configWord ..⟩

/-! ## §3 What the client does -/

/-- A connect in client mode gets any two inactive channels. -/
theorem client_connects {env : ConnectEnv} {s : Mailbox} {a : ConnectArgs} (hready : env.Ready)
    (hclient : a.server = 0) (hne : a.idxTo ≠ a.idxFrom)
    (hfrom : (s.chan a.idxFrom).active = false) (hto : (s.chan a.idxTo).active = false) :
    (linkMboxConnect env s a).2 ≠ none := by
  obtain ⟨link, hlink⟩ := Option.ne_none_iff_exists'.mp hready.link
  obtain ⟨mlink, hmlink⟩ := Option.ne_none_iff_exists'.mp hready.mlink
  unfold linkMboxConnect
  simp only [hlink, hmlink, hready.task]
  have h1 : (hpscMboxChanClaim ⟨false, env.takesFrom⟩ s a.idxFrom (claimFrom a link)).2
      = .successful :=
    (claim_nonOwner_iff rfl hfrom hclient).mpr ⟨Or.inl rfl, Or.inr (Or.inl hclient)⟩
  have hact : ((hpscMboxChanClaim ⟨false, env.takesFrom⟩ s a.idxFrom
      (claimFrom a link)).1.chan a.idxTo).active = false := by
    rw [(claim_frame _ s a.idxFrom _).chan _ hne]
    exact hto
  have h2 : (hpscMboxChanClaim ⟨false, env.takesTo⟩ (hpscMboxChanClaim ⟨false, env.takesFrom⟩ s
      a.idxFrom (claimFrom a link)).1 a.idxTo (claimTo a link)).2 = .successful :=
    (claim_nonOwner_iff rfl hact hclient).mpr ⟨Or.inr (Or.inl hclient), Or.inl rfl⟩
  simp [h1, h2]

/-- The connect of client `c` tells whether the server configured the
channels for it. -/
def AttachesRight (env : ConnectEnv) (client : Mailbox) (a : ConnectArgs) (c : Byte) : Prop :=
  (linkMboxConnect env client (clientArgs a c)).2 ≠ none ↔ c = a.client

/-- **Where a client's connect is right**: for the client the server named.
Any other one gets the channels too. -/
theorem attachesRight_iff (env cenv : ConnectEnv) (server client : Mailbox) (a : ConnectArgs)
    (c : Byte) (hserver : (linkMboxConnect env server a).2 ≠ none)
    (hp : Peer (linkMboxConnect env server a).1 a client) (hready : cenv.Ready) :
    AttachesRight cenv client a c ↔ c = a.client := by
  have hok : (linkMboxConnect cenv client (clientArgs a c)).2 ≠ none :=
    client_connects hready rfl (connect_idx_ne hserver).symm hp.toInactive hp.fromInactive
  unfold AttachesRight
  constructor
  · intro h
    exact h.mp hok
  · intro h
    exact ⟨fun _ => h, fun _ => hok⟩

/-- Server 0x2e connects its link to client 0x2d on channels 0 and 1. -/
def served : Mailbox × Option Nat :=
  linkMboxConnect ⟨some 7, some 8, false, true, true, true⟩ probed ⟨0, 1, 0x2e, 0x2d⟩

theorem served_attachesRight :
    AttachesRight ⟨some 3, some 4, false, true, true, true⟩ ⟨probed.mbox, served.1.regs⟩
      ⟨0, 1, 0x2e, 0x2d⟩ 0x2d :=
  (attachesRight_iff ⟨some 7, some 8, false, true, true, true⟩
    ⟨some 3, some 4, false, true, true, true⟩ probed ⟨probed.mbox, served.1.regs⟩
    ⟨0, 1, 0x2e, 0x2d⟩ 0x2d (by decide) ⟨rfl, rfl, rfl, rfl⟩ ⟨nofun, nofun, rfl⟩).mpr rfl

/-- Client 0x2c gets the channels that were configured for 0x2d. -/
theorem stranger_attaches :
    ¬ ∀ (env cenv : ConnectEnv) (server client : Mailbox) (a : ConnectArgs) (c : Byte),
      a.server ≠ 0 → a.client ≠ 0 → c ≠ 0 → (linkMboxConnect env server a).2 ≠ none →
      Peer (linkMboxConnect env server a).1 a client → cenv.Ready →
      AttachesRight cenv client a c := by
  intro hall
  have h := hall ⟨some 7, some 8, false, true, true, true⟩
    ⟨some 3, some 4, false, true, true, true⟩ probed ⟨probed.mbox, served.1.regs⟩
    ⟨0, 1, 0x2e, 0x2d⟩ 0x2c (by decide) (by decide) (by decide) (by decide) ⟨rfl, rfl, rfl, rfl⟩
    ⟨nofun, nofun, rfl⟩
  have hc : (0x2c : Byte) = 0x2d := h.mp (by decide)
  revert hc
  decide

end HpscRtems.Mbox
