/-
HpscRtems.Mbox.Connect — links over a mailbox: `link_mbox_connect` and
`link_mbox_close` (`link-mbox.c`).

A link takes two channels. The one it receives on gets its receive
callback on event A, the one it sends on gets `link_mbox_ack` on event B,
and both callbacks get the link as their argument. The two heap blocks are
the results of `malloc`, which may be `NULL`.

`LinkUp` says that both channels still are as the two claims left them:
subscribed to their events with the link's callbacks, and with the owner
on record that the release needs to give the CONFIG registers back.
-/
import HpscRtems.Mbox.Driver

namespace HpscRtems.Mbox

open Rtems

/-! ## Connect and close -/

/-- The arguments of `link_mbox_connect` after the name and the mailbox. -/
structure ConnectArgs where
  idxFrom : Fin channels
  idxTo : Fin channels
  server : Byte
  client : Byte
  deriving DecidableEq

/-- What `link_mbox_connect` meets on its way: the results of the two
`malloc` calls, the calling context, and whether the device takes the
CONFIG writes of the two claims and of the release that undoes the first. -/
structure ConnectEnv where
  mallocLink : Ptr
  mallocMlink : Ptr
  inIsr : Bool
  takesFrom : Bool
  takesTo : Bool
  takesUndo : Bool
  deriving DecidableEq

/-- `rcv_cb` -/
def rcvCb (server : Byte) : Handler :=
  if server ≠ 0 then .linkRecvCmd else .linkRecvReply

/-- The claim of the channel to receive on, by the link at `link`. -/
def claimFrom (a : ConnectArgs) (link : Nat) : ClaimArgs :=
  ⟨a.server, a.client, a.server, some (rcvCb a.server), none, some link⟩

/-- The claim of the channel to send on. -/
def claimTo (a : ConnectArgs) (link : Nat) : ClaimArgs :=
  ⟨a.server, a.server, a.client, none, some .linkMboxAck, some link⟩

/-- `link_mbox_connect`: the address of the new `struct link`, or `none`
for `NULL`. -/
def linkMboxConnect (env : ConnectEnv) (s : Mailbox) (a : ConnectArgs) : Mailbox × Option Nat :=
  match env.mallocLink, env.mallocMlink with
  | some link, some _ =>
    let c := hpscMboxChanClaim ⟨env.inIsr, env.takesFrom⟩ s a.idxFrom (claimFrom a link)
    if c.2 ≠ .successful then (c.1, none)
    else
      let c' := hpscMboxChanClaim ⟨env.inIsr, env.takesTo⟩ c.1 a.idxTo (claimTo a link)
      if c'.2 ≠ .successful then
        ((hpscMboxChanRelease ⟨env.inIsr, env.takesUndo⟩ c'.1 a.idxFrom).1, none)
      else (c'.1, some link)
  | _, _ => (s, none)

/-- `link_mbox_close`: release both channels. -/
def linkMboxClose (envFrom envTo : CallEnv) (s : Mailbox) (a : ConnectArgs) : Mailbox × Bool :=
  let (s, sc) := hpscMboxChanRelease envFrom s a.idxFrom
  let (s, sc') := hpscMboxChanRelease envTo s a.idxTo
  (s, sc = .successful ∧ sc' = .successful)

/-! ## Connected links -/

/-- A connected link: its address and the arguments it was connected with. -/
structure MboxLink where
  addr : Nat
  args : ConnectArgs
  deriving DecidableEq

/-- Channel `i` is as the claim `a` left it. -/
structure Claimed (s : Mailbox) (i : Fin channels) (a : ClaimArgs) : Prop where
  record : s.chan i = initChan s.mbox.base i.val a
  enabledA : a.cbA.isSome → (s.block i).enable &&& intA s.mbox.intA.idx ≠ 0
  enabledB : a.cbB.isSome → (s.block i).enable &&& intB s.mbox.intB.idx ≠ 0
  config : a.owner ≠ 0 → (s.block i).config = configWord a.owner a.src a.dest

/-- The link is subscribed to its events and can be released properly. -/
structure LinkUp (s : Mailbox) (l : MboxLink) : Prop where
  from_up : Claimed s l.args.idxFrom (claimFrom l.args l.addr)
  to_up : Claimed s l.args.idxTo (claimTo l.args l.addr)

/-- Does the link hold channel `i`? -/
def MboxLink.holds (l : MboxLink) (i : Fin channels) : Prop :=
  i = l.args.idxFrom ∨ i = l.args.idxTo

end HpscRtems.Mbox
