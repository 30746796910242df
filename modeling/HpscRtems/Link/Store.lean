/-
HpscRtems.Link.Store — the link store (`link-store.c`), used by any number
of tasks at a time.

Every function is a sequence of program points, and a step takes one task
from one of its points to the next: `malloc`, taking `lmtx`, one turn of the
search loop, `rtems_chain_append`, `rtems_chain_extract`, `rtems_chain_get`,
`free`, releasing `lmtx`, and reading `snode->link`. The first node of a
search is read with the mutex already taken, in the step that takes it.

The chain is RTEMS's: a list of the nodes in it. Blocks are objects of C, so
`malloc` never gives the same block twice, and a node that is read or freed
after it was freed leaves the task in `fault`. `link->name` is set before a
link is appended and stays, so the names are a parameter.

`link_store_get` reads `snode->link` after releasing the mutex, and
`link_store_extract_first` both reads and frees its node after that.
-/
import HpscRtems.Machine.Linearize
import HpscRtems.Rtems

namespace HpscRtems.LinkStore

open Rtems Machine

/-! ## §1 Calls -/

/-- A block of the heap. -/
abbrev Block := Nat

/-- The functions of the link store with their arguments. -/
inductive Call (L : Type) where
  | append (link : L)
  | contains (name : Option String)
  | isEmpty
  | get (name : Option String)
  | extract (name : Option String)
  | extractFirst
  deriving DecidableEq

inductive Result (L : Type) where
  | status (sc : StatusCode)
  | bool (b : Bool)
  | link (link : Option L)
  deriving DecidableEq

/-- The two tests of the loop of `link_store_node_get`. A name may be `NULL`. -/
def nameMatches (name linkName : Option String) : Bool :=
  if (name.isSome && linkName.isNone) || (name.isNone && linkName.isSome) then false
  else (name.isNone && linkName.isNone) || name = linkName

/-- The functions that call `link_store_node_get`. -/
inductive Search where
  | contains
  | get
  | extract
  deriving DecidableEq

def Search.call {L : Type} (name : Option String) : Search → Call L
  | contains => .contains name
  | get => .get name
  | extract => .extract name

/-! ## §2 State -/

/-- What a task does once it has released the mutex. -/
inductive After (L : Type) where
  | ret (c : Call L) (r : Result L)
  /-- `snode->link` in `link_store_get`. -/
  | getNode (name : Option String) (snode : Block)
  /-- `snode->link` in `link_store_extract_first`. -/
  | firstNode (snode : Block)
  deriving DecidableEq

/-- Where a task is. -/
inductive Pc (L : Type) where
  | idle
  | enter (c : Call L)
  | appendLock (link : L) (snode : Block)
  | appendChain (link : L) (snode : Block)
  /-- `link_store_node_get`, before the loop test; `none` is the tail. -/
  | walk (f : Search) (name : Option String) (node : Option Block)
  | take (name : Option String) (snode : Block)
  | takeFree (name : Option String) (snode : Block) (link : L)
  | empty
  | first
  | unlock (k : After L)
  | after (k : After L)
  | firstFree (snode : Block) (link : L)
  /-- A freed node was used. -/
  | fault (c : Call L)
  deriving DecidableEq

/-- `lchain`, `lmtx`, the heap and the tasks. `fresh` is the block `malloc`
gives next. -/
structure Store (θ L : Type) where
  chain : List Block
  owner : Option θ
  heap : Block → Option L
  fresh : Block
  pc : θ → Pc L

/-- The empty store, with nobody in it. -/
def Store.init {θ L : Type} : Store θ L where
  chain := []
  owner := none
  heap := fun _ => none
  fresh := 0
  pc := fun _ => .idle

inductive Act (θ L : Type) where
  | call (t : θ) (c : Call L)
  /-- `ok` is whether `malloc` finds memory, where the task calls it. -/
  | run (t : θ) (ok : Bool)
  | ret (t : θ) (c : Call L) (r : Result L)
  deriving DecidableEq

/-- What the callers see. -/
def Act.event {θ L : Type} : Act θ L → List (Event θ (Call L) (Result L))
  | call t c => [.call t c]
  | run _ _ => []
  | ret t c r => [.ret t c r]

/-! ## §3 Steps -/

/-- `rtems_chain_next`, for a node of the chain; `none` is the tail. -/
def chainNext : List Block → Block → Option Block
  | [], _ => none
  | q :: qs, p => if q = p then qs.head? else chainNext qs p

section Steps

variable {θ L : Type} [DecidableEq θ] [DecidableEq L]

namespace Store

def goto (s : Store θ L) (t : θ) (pc : Pc L) : Store θ L :=
  { s with pc := Function.update s.pc t pc }

/-- `rtems_mutex_lock(&lmtx)` -/
def lock (s : Store θ L) (t : θ) (pc : Pc L) : Option (Store θ L) :=
  if s.owner = none then some { s.goto t pc with owner := some t } else none

/-- `free(snode)` -/
def free (s : Store θ L) (p : Block) : Store θ L :=
  { s with heap := Function.update s.heap p none }

/-- `malloc` and `snode->link = link`. Nobody else has the node yet. -/
def malloc (s : Store θ L) (link : L) : Store θ L :=
  { s with heap := Function.update s.heap s.fresh (some link), fresh := s.fresh + 1 }

end Store

/-- `link_store_append`, up to the mutex. -/
def appendStep (s : Store θ L) (t : θ) (link : L) (ok : Bool) : Store θ L :=
  if ok then (s.malloc link).goto t (.appendLock link s.fresh)
  else s.goto t (.after (.ret (.append link) (.status .noMemory)))

/-- What the caller of `link_store_node_get` does with the node it returns. -/
def found (s : Store θ L) (t : θ) (name : Option String) (p : Block) : Search → Store θ L
  | .contains => s.goto t (.unlock (.ret (.contains name) (.bool true)))
  | .get => s.goto t (.unlock (.getNode name p))
  | .extract => s.goto t (.take name p)

/-- What it does with `NULL`. -/
def notFound (s : Store θ L) (t : θ) (name : Option String) : Search → Store θ L
  | .contains => s.goto t (.unlock (.ret (.contains name) (.bool false)))
  | .get => s.goto t (.unlock (.ret (.get name) (.link none)))
  | .extract => s.goto t (.unlock (.ret (.extract name) (.link none)))

/-- The loop of `link_store_node_get`. -/
def walkStep (nm : L → Option String) (s : Store θ L) (t : θ) (f : Search)
    (name : Option String) : Option Block → Store θ L
  | none => notFound s t name f
  | some p =>
    match s.heap p with
    | none => s.goto t (.fault (f.call name))
    | some link =>
      if nameMatches name (nm link) then found s t name p f
      else s.goto t (.walk f name (chainNext s.chain p))

/-- One step of a task from its program point. -/
def runStep (nm : L → Option String) (s : Store θ L) (t : θ) (ok : Bool) :
    Pc L → Option (Store θ L)
  | .enter (.append link) => some (appendStep s t link ok)
  | .enter (.contains name) => s.lock t (.walk .contains name s.chain.head?)
  | .enter .isEmpty => s.lock t .empty
  | .enter (.get name) => s.lock t (.walk .get name s.chain.head?)
  | .enter (.extract name) => s.lock t (.walk .extract name s.chain.head?)
  | .enter .extractFirst => s.lock t .first
  | .appendLock link p => s.lock t (.appendChain link p)
  | .appendChain link p =>
    some ({ s with chain := s.chain ++ [p] }.goto t
      (.unlock (.ret (.append link) (.status .successful))))
  | .walk f name node => some (walkStep nm s t f name node)
  | .take name p =>
    match s.heap p with
    | none => some (s.goto t (.fault (.extract name)))
    | some link => some ({ s with chain := s.chain.erase p }.goto t (.takeFree name p link))
  | .takeFree name p link =>
    match s.heap p with
    | none => some (s.goto t (.fault (.extract name)))
    | some _ => some ((s.free p).goto t (.unlock (.ret (.extract name) (.link (some link)))))
  | .empty => some (s.goto t (.unlock (.ret .isEmpty (.bool s.chain.isEmpty))))
  | .first =>
    match s.chain with
    | [] => some (s.goto t (.unlock (.ret .extractFirst (.link none))))
    | p :: ps => some ({ s with chain := ps }.goto t (.unlock (.firstNode p)))
  | .unlock k => some { s.goto t (.after k) with owner := none }
  | .after (.getNode name p) =>
    match s.heap p with
    | none => some (s.goto t (.fault (.get name)))
    | some link => some (s.goto t (.after (.ret (.get name) (.link (some link)))))
  | .after (.firstNode p) =>
    match s.heap p with
    | none => some (s.goto t (.fault .extractFirst))
    | some link => some (s.goto t (.firstFree p link))
  | .firstFree p link =>
    match s.heap p with
    | none => some (s.goto t (.fault .extractFirst))
    | some _ => some ((s.free p).goto t (.after (.ret .extractFirst (.link (some link)))))
  | .idle | .after (.ret _ _) | .fault _ => none

def step (nm : L → Option String) (s : Store θ L) : Act θ L → Option (Store θ L)
  | .call t c => if s.pc t = .idle then some (s.goto t (.enter c)) else none
  | .run t ok => runStep nm s t ok (s.pc t)
  | .ret t c r => if s.pc t = .after (.ret c r) then some (s.goto t .idle) else none

end Steps

/-! ## §4 What the store is for -/

/-- A list of links. The choice is whether an append finds memory. -/
def fifo {L : Type} (nm : L → Option String) (links : List L) :
    Call L → Bool → List L × Result L
  | .append link, true => (links ++ [link], .status .successful)
  | .append _, false => (links, .status .noMemory)
  | .contains name, _ => (links, .bool (links.any (nm · = name)))
  | .isEmpty, _ => (links, .bool links.isEmpty)
  | .get name, _ => (links, .link (links.find? (nm · = name)))
  | .extract name, _ =>
    (links.eraseP (nm · = name), .link (links.find? (nm · = name)))
  | .extractFirst, _ => (links.tail, .link links.head?)

end HpscRtems.LinkStore
