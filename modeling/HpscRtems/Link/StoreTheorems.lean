/-
HpscRtems.Link.StoreTheorems — the nodes of the link store, whatever the
tasks that share it do.

  §2 every node is in the chain, or belongs to one task, or is free;
  §3 the exact condition for no freed node to be used: no node is freed
     under a `link_store_get` that has found it and not yet read it;
  §4 whoever has the mutex gives it back, and every call can end.
-/
import HpscRtems.Link.Store
import Mathlib.Data.List.Nodup
import Mathlib.Data.Fintype.Basic

namespace HpscRtems.LinkStore

open Rtems Machine

variable {θ L : Type} {nm : L → Option String}

/-! ## §1 Names, nodes and the chain -/

@[simp] theorem nameMatches_iff (name linkName : Option String) :
    nameMatches name linkName = true ↔ linkName = name := by
  cases name <;> cases linkName <;> simp [nameMatches, eq_comm]

/-- The nodes passed by a search for `name`. -/
def Unnamed (nm : L → Option String) (heap : Block → Option L) (name : Option String)
    (nodes : List Block) : Prop :=
  ∀ q ∈ nodes, ∀ link, heap q = some link → nm link ≠ name

theorem chainNext_split {pre post : List Block} {p : Block} (h : (pre ++ p :: post).Nodup) :
    chainNext (pre ++ p :: post) p = post.head? := by
  induction pre with
  | nil => simp [chainNext]
  | cons q qs ih =>
    have hne : q ≠ p := fun he => by
      subst he
      simp at h
    rw [List.cons_append, List.nodup_cons] at h
    simp [chainNext, hne, ih h.2]

theorem erase_split {pre post : List Block} {p : Block} (h : (pre ++ p :: post).Nodup) :
    (pre ++ p :: post).erase p = pre ++ post := by
  have hp : p ∉ pre := fun hp => by
    rw [List.nodup_middle, List.nodup_cons] at h
    exact h.1 (List.mem_append_left _ hp)
  rw [List.erase_append_right _ hp, List.erase_cons_head]

/-! ## §2 Where every node is -/

/-- The points at which a task has the mutex. -/
def Pc.locked : Pc L → Bool
  | .appendChain _ _ | .walk _ _ _ | .take _ _ | .takeFree _ _ _ | .empty | .first
  | .unlock _ => true
  | _ => false

def After.owns : After L → Option Block
  | .firstNode p => some p
  | _ => none

/-- The node that no other task may touch. -/
def Pc.owns : Pc L → Option Block
  | .appendLock _ p | .appendChain _ p | .takeFree _ p _ | .firstFree p _ => some p
  | .unlock k | .after k => k.owns
  | _ => none

def After.held : After L → Option Block
  | .getNode _ p => some p
  | _ => none

/-- The node that `link_store_get` has found and has still to read, without
the mutex or about to release it. -/
def Pc.held : Pc L → Option Block
  | .unlock k | .after k => k.held
  | _ => none

/-- The link that the owned node carries, where the task relies on it. -/
def Pc.carries : Pc L → Option L
  | .appendLock link _ | .appendChain link _ | .takeFree _ _ link | .firstFree _ link => some link
  | _ => none

/-- What a search knows of the chain. -/
def Pc.Found (nm : L → Option String) (s : Store θ L) : Pc L → Prop
  | .walk _ name (some p) =>
    ∃ pre post, s.chain = pre ++ p :: post ∧ Unnamed nm s.heap name pre
  | .walk _ name none => Unnamed nm s.heap name s.chain
  | .take name p =>
    ∃ pre post link, s.chain = pre ++ p :: post ∧ Unnamed nm s.heap name pre ∧
      s.heap p = some link ∧ nm link = name
  | _ => True

structure Inv (nm : L → Option String) (s : Store θ L) : Prop where
  lock : ∀ t, (s.pc t).locked = true ↔ s.owner = some t
  nodup : s.chain.Nodup
  live : ∀ p ∈ s.chain, (s.heap p).isSome = true
  owned : ∀ t p, (s.pc t).owns = some p → p ∉ s.chain ∧ (s.heap p).isSome = true
  carried : ∀ t p l, (s.pc t).owns = some p → (s.pc t).carries = some l → s.heap p = some l
  distinct : ∀ t u p, (s.pc t).owns = some p → (s.pc u).owns = some p → t = u
  account : ∀ p, (s.heap p).isSome = true → p ∈ s.chain ∨ ∃ t, (s.pc t).owns = some p
  bound : ∀ p, (s.heap p).isSome = true → p < s.fresh
  held : ∀ t p, (s.pc t).held = some p → p < s.fresh
  found : ∀ t, (s.pc t).Found nm s

theorem inv_init : Inv nm (Store.init : Store θ L) where
  lock := by simp [Store.init, Pc.locked]
  nodup := List.nodup_nil
  live := by simp [Store.init]
  owned := by simp [Store.init, Pc.owns]
  carried := by simp [Store.init, Pc.owns]
  distinct := by simp [Store.init, Pc.owns]
  account := by simp [Store.init]
  bound := by simp [Store.init]
  held := by simp [Store.init, Pc.held]
  found := by simp [Store.init, Pc.Found]

/-- A search knows something only while it has the mutex. -/
theorem Pc.found_of_not_locked {s : Store θ L} {pc : Pc L} (h : pc.locked = false) :
    pc.Found nm s := by
  cases pc with
  | walk f name node => cases h
  | take name p => cases h
  | _ => trivial

theorem Unnamed.congr {heap heap' : Block → Option L} {name : Option String} {nodes : List Block}
    (h : Unnamed nm heap name nodes) (hh : ∀ p ∈ nodes, heap' p = heap p) :
    Unnamed nm heap' name nodes :=
  fun q hq link hl => h q hq link (hh q hq ▸ hl)

/-- A search knows as much after a change outside the chain. -/
theorem Pc.Found.congr {s s' : Store θ L} {pc : Pc L} (h : pc.Found nm s)
    (hchain : s'.chain = s.chain) (hh : ∀ p ∈ s.chain, s'.heap p = s.heap p) :
    pc.Found nm s' := by
  have hpre : ∀ {pre post : List Block} {p : Block}, s.chain = pre ++ p :: post →
      (∀ q ∈ pre, s'.heap q = s.heap q) ∧ s'.heap p = s.heap p := fun hc =>
    ⟨fun q hq => hh q (by simp [hc, hq]), hh _ (by simp [hc])⟩
  match pc with
  | .walk f name (some p) =>
    obtain ⟨pre, post, hc, hu⟩ := h
    exact ⟨pre, post, hchain.trans hc, hu.congr (hpre hc).1⟩
  | .walk f name none =>
    simp only [Pc.Found, hchain] at h ⊢
    exact h.congr hh
  | .take name p =>
    obtain ⟨pre, post, link, hc, hu, hl, hn⟩ := h
    exact ⟨pre, post, link, hchain.trans hc, hu.congr (hpre hc).1, (hpre hc).2.trans hl, hn⟩
  | .idle | .enter _ | .appendLock _ _ | .appendChain _ _ | .takeFree _ _ _ | .empty | .first
  | .unlock _ | .after _ | .firstFree _ _ | .fault _ => trivial

section Moves

variable {s s' : Store θ L} {t : θ} {pc : Pc L}

/-- Nobody else has the mutex. -/
theorem Inv.others (hi : Inv nm s) (h : (s.pc t).locked = true) {u : θ} (hu : u ≠ t) :
    (s.pc u).locked = false := by
  cases hl : (s.pc u).locked with
  | false => rfl
  | true => exact absurd (Option.some.inj (((hi.lock u).mp hl).symm.trans ((hi.lock t).mp h))) hu

/-- A search starts at the first node, having passed none. -/
theorem found_walk_head (f : Search) (name : Option String) (s : Store θ L) :
    (Pc.walk f name s.chain.head?).Found nm s := by
  match hc : s.chain with
  | [] =>
    intro q hq
    rw [hc] at hq
    cases hq
  | p :: post => exact ⟨[], post, hc, fun q hq => by cases hq⟩

variable [DecidableEq θ]

/-- What the memory and the task that moves have to meet. -/
structure Fits (nm : L → Option String) (s s' : Store θ L) (t : θ) (pc : Pc L) : Prop where
  moves : s'.pc = Function.update s.pc t pc
  lock : pc.locked = true ↔ s'.owner = some t
  lockOthers : ∀ u, u ≠ t → (s.owner = some u ↔ s'.owner = some u)
  nodup : s'.chain.Nodup
  live : ∀ p ∈ s'.chain, (s'.heap p).isSome = true
  owned : ∀ p, pc.owns = some p → p ∉ s'.chain ∧ (s'.heap p).isSome = true
  carried : ∀ p l, pc.owns = some p → pc.carries = some l → s'.heap p = some l
  others : ∀ u p, u ≠ t → (s.pc u).owns = some p →
    p ∉ s'.chain ∧ s'.heap p = s.heap p ∧ pc.owns ≠ some p
  account : ∀ p, (s'.heap p).isSome = true →
    p ∈ s'.chain ∨ pc.owns = some p ∨ ∃ u, u ≠ t ∧ (s.pc u).owns = some p
  grows : s.fresh ≤ s'.fresh
  bound : ∀ p, (s'.heap p).isSome = true → p < s'.fresh
  held : ∀ p, pc.held = some p → p < s'.fresh
  found : pc.Found nm s'
  foundOthers : ∀ u, u ≠ t → (s.pc u).Found nm s'

theorem Inv.moved (hi : Inv nm s) (t : θ) (pc : Pc L) (hf : Fits nm s s' t pc) : Inv nm s' := by
  have hself : s'.pc t = pc := by rw [hf.moves, Function.update_self]
  have hother : ∀ u, u ≠ t → s'.pc u = s.pc u := fun u hu => by
    rw [hf.moves, Function.update_of_ne hu]
  refine ⟨?_, hf.nodup, hf.live, ?_, ?_, ?_, ?_, hf.bound, ?_, ?_⟩
  · intro u
    by_cases hut : u = t
    · subst hut
      rw [hself]
      exact hf.lock
    · rw [hother u hut, hi.lock u]
      exact hf.lockOthers u hut
  · intro u p hu
    by_cases hut : u = t
    · subst hut
      exact hf.owned p (hself ▸ hu)
    · rw [hother u hut] at hu
      obtain ⟨hc, hh, -⟩ := hf.others u p hut hu
      exact ⟨hc, hh ▸ (hi.owned u p hu).2⟩
  · intro u p l hu hl
    by_cases hut : u = t
    · subst hut
      exact hf.carried p l (hself ▸ hu) (hself ▸ hl)
    · rw [hother u hut] at hu hl
      rw [(hf.others u p hut hu).2.1, hi.carried u p l hu hl]
  · intro u v p hu hv
    by_cases hut : u = t <;> by_cases hvt : v = t
    · rw [hut, hvt]
    · subst hut
      rw [hother v hvt] at hv
      exact absurd (hself ▸ hu) (hf.others v p hvt hv).2.2
    · subst hvt
      rw [hother u hut] at hu
      exact absurd (hself ▸ hv) (hf.others u p hut hu).2.2
    · rw [hother u hut] at hu
      rw [hother v hvt] at hv
      exact hi.distinct u v p hu hv
  · intro p hp
    obtain h | h | ⟨u, hut, hu⟩ := hf.account p hp
    · exact .inl h
    · exact .inr ⟨t, hself.symm ▸ h⟩
    · exact .inr ⟨u, (hother u hut).symm ▸ hu⟩
  · intro u p hu
    by_cases hut : u = t
    · subst hut
      exact hf.held p (hself ▸ hu)
    · exact Nat.lt_of_lt_of_le (hi.held u p (hother u hut ▸ hu)) hf.grows
  · intro u
    by_cases hut : u = t
    · subst hut
      exact hself.symm ▸ hf.found
    · exact (hother u hut).symm ▸ hf.foundOthers u hut

/-- The task goes on, and may take or release the mutex. -/
theorem Inv.goto (hi : Inv nm s) {o : Option θ} (howns : pc.owns = (s.pc t).owns)
    (hcarry : ∀ p l, pc.owns = some p → pc.carries = some l → s.heap p = some l)
    (hheld : ∀ p, pc.held = some p → p < s.fresh) (hfound : pc.Found nm s)
    (hlock : pc.locked = true ↔ o = some t)
    (hother : ∀ u, u ≠ t → (s.owner = some u ↔ o = some u)) :
    Inv nm { s.goto t pc with owner := o } := by
  refine hi.moved t pc ⟨rfl, hlock, hother, hi.nodup, hi.live, ?_, hcarry, ?_, ?_,
    Nat.le_refl _, hi.bound, hheld, hfound, fun u _ => hi.found u⟩
  · exact fun p hp => hi.owned t p (howns ▸ hp)
  · intro u p hut hu
    exact ⟨(hi.owned u p hu).1, rfl, fun hp => hut (hi.distinct u t p hu (howns ▸ hp))⟩
  · intro p hp
    obtain h | ⟨u, hu⟩ := hi.account p hp
    · exact .inl h
    · by_cases hut : u = t
      · subst hut
        exact .inr (.inl (howns.trans hu))
      · exact .inr (.inr ⟨u, hut, hu⟩)

/-- `malloc` gives the task a node of its own. -/
theorem Inv.malloc (hi : Inv nm s) (link : L) (h : (s.pc t).owns = none)
    (hl : (s.pc t).locked = false) :
    Inv nm ((s.malloc link).goto t (.appendLock link s.fresh)) := by
  have hnew : ∀ p, (s.heap p).isSome = true → p ≠ s.fresh := fun p hp he =>
    absurd (hi.bound p hp) (by rw [he]; exact Nat.lt_irrefl _)
  have hold : ∀ p, (s.heap p).isSome = true → (s.malloc link).heap p = s.heap p := fun p hp =>
    Function.update_of_ne (hnew p hp) _ _
  refine hi.moved t (.appendLock link s.fresh) ⟨rfl, ?_, fun _ _ => Iff.rfl,
    hi.nodup, ?_, ?_, ?_, ?_, ?_, Nat.le_succ _, ?_, by simp [Pc.held], trivial, ?_⟩
  · have hnot : s.owner ≠ some t := fun ho => by
      rw [(hi.lock t).mpr ho] at hl
      cases hl
    exact iff_of_false (fun h => by cases h) hnot
  · intro p hp
    rw [Store.goto, hold p (hi.live p hp)]
    exact hi.live p hp
  · intro p hp
    cases hp
    refine ⟨fun hp => hnew _ (hi.live _ hp) rfl, ?_⟩
    simp [Store.goto, Store.malloc]
  · intro p l hp hl
    cases hp
    cases hl
    simp [Store.goto, Store.malloc]
  · intro u p _ hu
    obtain ⟨hc, hl⟩ := hi.owned u p hu
    exact ⟨hc, hold p hl, fun he => hnew p hl (Option.some.inj he).symm⟩
  · intro p hp
    by_cases hpf : p = s.fresh
    · exact .inr (.inl (by rw [hpf]; rfl))
    · simp only [Store.goto, Store.malloc, Function.update_of_ne hpf] at hp
      obtain h' | ⟨u, hu⟩ := hi.account p hp
      · exact .inl h'
      · refine .inr (.inr ⟨u, ?_, hu⟩)
        rintro rfl
        rw [h] at hu
        cases hu
  · intro p hp
    by_cases hpf : p = s.fresh
    · rw [hpf]
      exact Nat.lt_succ_self _
    · simp only [Store.goto, Store.malloc, Function.update_of_ne hpf] at hp
      exact Nat.lt_succ_of_lt (hi.bound p hp)
  · intro u _
    exact (hi.found u).congr rfl fun p hp => hold p (hi.live p hp)

/-- `rtems_chain_append` of the task's own node. -/
theorem Inv.append (hi : Inv nm s) {p : Block} {k : After L} (hl : (s.pc t).locked = true)
    (howns : (s.pc t).owns = some p) (hk : k.owns = none) (hheld : k.held = none) :
    Inv nm ({ s with chain := s.chain ++ [p] }.goto t (.unlock k)) := by
  obtain ⟨hpc, hpl⟩ := hi.owned t p howns
  refine hi.moved t (.unlock k) ⟨rfl, ?_, fun _ _ => Iff.rfl, ?_, ?_, ?_, ?_,
    ?_, ?_, Nat.le_refl _, hi.bound, ?_, trivial,
    fun u hu => Pc.found_of_not_locked (hi.others hl hu)⟩
  · exact iff_of_true rfl ((hi.lock t).mp hl)
  · exact hi.nodup.append (List.nodup_singleton p) (by simpa using hpc)
  · intro q hq
    obtain hq | hq := List.mem_append.mp hq
    · exact hi.live q hq
    · rw [List.mem_singleton.mp hq]
      exact hpl
  · intro q hq
    rw [Pc.owns, hk] at hq
    cases hq
  · intro q l hq
    rw [Pc.owns, hk] at hq
    cases hq
  · intro u q hut hu
    refine ⟨?_, rfl, by rw [Pc.owns, hk]; simp⟩
    simp only [Store.goto, List.mem_append, List.mem_singleton, not_or]
    refine ⟨(hi.owned u q hu).1, ?_⟩
    rintro rfl
    exact hut (hi.distinct u t _ hu howns)
  · intro q hq
    obtain h | ⟨u, hu⟩ := hi.account q hq
    · exact .inl (List.mem_append_left _ h)
    · by_cases hut : u = t
      · subst hut
        rw [howns] at hu
        cases hu
        exact .inl (List.mem_append_right _ (List.mem_singleton_self p))
      · exact .inr (.inr ⟨u, hut, hu⟩)
  · intro q hq
    rw [Pc.held, hheld] at hq
    cases hq

/-- A node leaves the chain and is the task's own. -/
theorem Inv.extract (hi : Inv nm s) {p : Block} {pre post : List Block}
    (hl : (s.pc t).locked = true) (hnone : (s.pc t).owns = none)
    (hchain : s.chain = pre ++ p :: post) (howns : pc.owns = some p)
    (hcarry : ∀ l, pc.carries = some l → s.heap p = some l) (hheld : pc.held = none)
    (hlock : pc.locked = true) (hfound : pc.Found nm { s with chain := pre ++ post }) :
    Inv nm ({ s with chain := pre ++ post }.goto t pc) := by
  have hnodup := hi.nodup
  rw [hchain, List.nodup_middle, List.nodup_cons] at hnodup
  have hsub : ∀ q ∈ pre ++ post, q ∈ s.chain := fun q hq => by
    rw [hchain, List.mem_append, List.mem_cons]
    exact (List.mem_append.mp hq).imp_right .inr
  have hp : p ∈ s.chain := by simp [hchain]
  refine hi.moved t pc ⟨rfl, ?_, fun _ _ => Iff.rfl, hnodup.2, ?_, ?_, ?_,
    ?_, ?_, Nat.le_refl _, hi.bound, ?_, hfound,
    fun u hu => Pc.found_of_not_locked (hi.others hl hu)⟩
  · exact iff_of_true hlock ((hi.lock t).mp hl)
  · exact fun q hq => hi.live q (hsub q hq)
  · intro q hq
    rw [howns] at hq
    cases hq
    exact ⟨hnodup.1, hi.live p hp⟩
  · intro q l hq hc
    rw [howns] at hq
    cases hq
    exact hcarry l hc
  · intro u q hut hu
    have hq := (hi.owned u q hu).1
    refine ⟨fun h => hq (hsub q h), rfl, ?_⟩
    rw [howns]
    intro he
    cases he
    exact hq hp
  · intro q hq
    obtain h | ⟨u, hu⟩ := hi.account q hq
    · rw [hchain, List.mem_append, List.mem_cons, or_left_comm] at h
      obtain rfl | h := h
      · exact .inr (.inl howns)
      · exact .inl (List.mem_append.mpr h)
    · refine .inr (.inr ⟨u, ?_, hu⟩)
      rintro rfl
      rw [hnone] at hu
      cases hu
  · intro q hq
    rw [hheld] at hq
    cases hq

/-- `free` of the task's own node. -/
theorem Inv.free (hi : Inv nm s) {p : Block} (howns : (s.pc t).owns = some p)
    (hlock : pc.locked = (s.pc t).locked) (hnone : pc.owns = none) (hheld : pc.held = none)
    (hfound : pc.Found nm (s.free p)) : Inv nm ((s.free p).goto t pc) := by
  have hpc := (hi.owned t p howns).1
  have hother : ∀ q, q ≠ p → (s.free p).heap q = s.heap q := fun q hq =>
    Function.update_of_ne hq _ _
  have hchain : ∀ q ∈ s.chain, (s.free p).heap q = s.heap q := fun q hq =>
    hother q fun he => hpc (he ▸ hq)
  have hlive : ∀ q, ((s.free p).heap q).isSome = true → q ≠ p ∧ (s.heap q).isSome = true := by
    intro q hq
    have hqp : q ≠ p := by
      rintro rfl
      simp [Store.free] at hq
    exact ⟨hqp, hother q hqp ▸ hq⟩
  refine hi.moved t pc ⟨rfl, hlock ▸ hi.lock t, fun _ _ => Iff.rfl,
    hi.nodup, ?_, ?_, ?_, ?_, ?_, Nat.le_refl _, fun q hq => hi.bound q (hlive q hq).2, ?_, hfound,
    fun u _ => (hi.found u).congr rfl hchain⟩
  · intro q hq
    rw [Store.goto, hchain q hq]
    exact hi.live q hq
  · intro q hq
    rw [hnone] at hq
    cases hq
  · intro q l hq
    rw [hnone] at hq
    cases hq
  · intro u q hut hu
    refine ⟨(hi.owned u q hu).1, hother q ?_, by rw [hnone]; simp⟩
    rintro rfl
    exact hut (hi.distinct u t _ hu howns)
  · intro q hq
    obtain ⟨hqp, hq⟩ := hlive q hq
    obtain h | ⟨u, hu⟩ := hi.account q hq
    · exact .inl h
    · refine .inr (.inr ⟨u, ?_, hu⟩)
      rintro rfl
      exact hqp (Option.some.inj (hu.symm.trans howns))
  · intro q hq
    rw [hheld] at hq
    cases hq

/-- The task goes on, with the mutex or without it, and with no node. -/
theorem Inv.stay (hi : Inv nm s) (h : (s.pc t).owns = none) (howns : pc.owns = none)
    (hheld : pc.held = none) (hlock : pc.locked = (s.pc t).locked) (hfound : pc.Found nm s) :
    Inv nm (s.goto t pc) := by
  refine hi.goto (howns.trans h.symm) ?_ ?_ hfound (hlock ▸ hi.lock t) fun _ _ => Iff.rfl
  · intro p l hp
    rw [howns] at hp
    cases hp
  · intro p hp
    rw [hheld] at hp
    cases hp

theorem lock_eq_some (h : s.lock t pc = some s') :
    s.owner = none ∧ s' = { s.goto t pc with owner := some t } := by
  simp only [Store.lock] at h
  split at h
  · exact ⟨‹_›, (Option.some.inj h).symm⟩
  · cases h

/-- The task takes the mutex. -/
theorem Inv.lockStep (hi : Inv nm s) (h : s.lock t pc = some s')
    (howns : pc.owns = (s.pc t).owns) (hcarries : pc.carries = (s.pc t).carries)
    (hheld : pc.held = none) (hfound : pc.Found nm s) (hlock : pc.locked = true) : Inv nm s' := by
  obtain ⟨ho, rfl⟩ := lock_eq_some h
  refine hi.goto howns ?_ ?_ hfound (iff_of_true hlock rfl) fun u hu => ?_
  · exact fun p l hp hl => hi.carried t p l (howns ▸ hp) (hcarries ▸ hl)
  · intro p hp
    rw [hheld] at hp
    cases hp
  · rw [ho]
    exact iff_of_false (fun ho => by cases ho) fun he => hu (Option.some.inj he).symm

theorem Inv.walk (hi : Inv nm s) {f : Search} {name : Option String} {node : Option Block}
    (hpc : s.pc t = .walk f name node) : Inv nm (walkStep nm s t f name node) := by
  have hfound := hi.found t
  have hl : (s.pc t).locked = true := by rw [hpc]; rfl
  have ho : (s.pc t).owns = none := by rw [hpc]; rfl
  rw [hpc] at hfound
  match node with
  | none => cases f <;> exact hi.stay ho rfl rfl hl.symm trivial
  | some p =>
    obtain ⟨pre, post, hc, hu⟩ := hfound
    obtain ⟨link, hlink⟩ := Option.isSome_iff_exists.mp (hi.live p (by simp [hc]))
    simp only [walkStep, hlink]
    split
    · rename_i hm
      rw [nameMatches_iff] at hm
      cases f with
      | contains => exact hi.stay ho rfl rfl hl.symm trivial
      | get =>
        refine hi.goto ho.symm (fun _ _ hp => by cases hp) (fun q hq => ?_) trivial
          (iff_of_true rfl ((hi.lock t).mp hl)) fun _ _ => Iff.rfl
        cases hq
        exact hi.bound p (by simp [hlink])
      | extract => exact hi.stay ho rfl rfl hl.symm ⟨pre, post, link, hc, hu, hlink, hm⟩
    · rename_i hm
      rw [nameMatches_iff] at hm
      refine hi.stay ho rfl rfl hl.symm ?_
      have hpass : Unnamed nm s.heap name (pre ++ [p]) := by
        intro q hq l hql
        obtain hq | hq := List.mem_append.mp hq
        · exact hu q hq l hql
        · rw [List.mem_singleton.mp hq, hlink] at hql
          cases hql
          exact hm
      have hnodup := hi.nodup
      rw [hc] at hnodup ⊢
      rw [chainNext_split hnodup]
      match post with
      | [] =>
        simp only [List.head?_nil, Pc.Found, hc]
        exact hpass
      | q :: qs => exact ⟨pre ++ [p], qs, by simp [hc], hpass⟩

/-- **Step lemma.** No step of any task breaks the store. -/
theorem inv_runStep (hi : Inv nm s) {ok : Bool} (h : runStep nm s t ok (s.pc t) = some s') :
    Inv nm s' := by
  have hfound := hi.found t
  have howned := hi.owned t
  have hcarried := hi.carried t
  have hheld := hi.held t
  cases hpc : s.pc t with
  | idle | fault c =>
    rw [hpc] at h
    cases h
  | enter c =>
    rw [hpc] at h
    have ho : (s.pc t).owns = none := by rw [hpc]; rfl
    have hc : (s.pc t).carries = none := by rw [hpc]; rfl
    have hl : (s.pc t).locked = false := by rw [hpc]; rfl
    cases c with
    | append link =>
      cases h
      cases ok with
      | true => exact hi.malloc link ho hl
      | false => exact hi.stay ho rfl rfl hl.symm trivial
    | contains name | get name | extract name =>
      exact hi.lockStep h ho.symm hc.symm rfl (found_walk_head _ name s) rfl
    | isEmpty | extractFirst => exact hi.lockStep h ho.symm hc.symm rfl trivial rfl
  | appendLock link p =>
    rw [hpc] at h
    exact hi.lockStep h (by rw [hpc]; rfl) (by rw [hpc]; rfl) rfl trivial rfl
  | appendChain link p =>
    rw [hpc] at h
    cases h
    exact hi.append (by rw [hpc]; rfl) (by rw [hpc]; rfl) rfl rfl
  | walk f name node =>
    rw [hpc] at h
    cases h
    exact hi.walk hpc
  | take name p =>
    rw [hpc] at h hfound
    obtain ⟨pre, post, link, hc, -, hlink, -⟩ := hfound
    simp only [runStep, hlink, Option.some.injEq] at h
    subst h
    have hnodup := hi.nodup
    rw [hc] at hnodup
    rw [hc, erase_split hnodup]
    refine hi.extract (by rw [hpc]; rfl) (by rw [hpc]; rfl) hc rfl (fun l hl => ?_) rfl rfl trivial
    cases hl
    exact hlink
  | takeFree name p link | firstFree p link =>
    rw [hpc] at h howned
    obtain ⟨l, hlink⟩ := Option.isSome_iff_exists.mp (howned p rfl).2
    simp only [runStep, hlink, Option.some.injEq] at h
    subst h
    exact hi.free (by rw [hpc]; rfl) (by rw [hpc]; rfl) rfl rfl trivial
  | empty =>
    rw [hpc] at h
    cases h
    exact hi.stay (by rw [hpc]; rfl) rfl rfl (by rw [hpc]; rfl) trivial
  | first =>
    rw [hpc] at h
    match hc : s.chain with
    | [] =>
      simp only [runStep, hc, Option.some.injEq] at h
      subst h
      exact hi.stay (by rw [hpc]; rfl) rfl rfl (by rw [hpc]; rfl) trivial
    | p :: ps =>
      simp only [runStep, hc, Option.some.injEq] at h
      subst h
      have hsplit : s.chain = [] ++ p :: ps := hc
      exact hi.extract (by rw [hpc]; rfl) (by rw [hpc]; rfl) hsplit rfl (fun _ hl => by cases hl)
        rfl rfl trivial
  | unlock k =>
    rw [hpc] at h hheld
    cases h
    refine hi.goto (by rw [hpc]; rfl) (fun _ _ _ hl => by cases hl) (fun p hp => hheld p hp) trivial
      (iff_of_false (fun hl => by cases hl) fun ho => by cases ho) fun u hu => ?_
    rw [(hi.lock t).mp (by rw [hpc]; rfl)]
    exact iff_of_false (fun he => hu (Option.some.inj he).symm) fun ho => by cases ho
  | after k =>
    rw [hpc] at h howned
    cases k with
    | ret c r => cases h
    | getNode name p =>
      simp only [runStep] at h
      split at h <;> cases h <;>
        exact hi.stay (by rw [hpc]; rfl) rfl rfl (by rw [hpc]; rfl) trivial
    | firstNode p =>
      obtain ⟨l, hlink⟩ := Option.isSome_iff_exists.mp (howned p rfl).2
      simp only [runStep, hlink, Option.some.injEq] at h
      subst h
      refine hi.goto (by rw [hpc]; rfl) (fun q m hq hm => ?_) (fun _ hp => by cases hp) trivial
        (iff_of_false (fun hl => by cases hl) fun ho => ?_) fun _ _ => Iff.rfl
      · cases hq
        cases hm
        exact hlink
      · have hl := (hi.lock t).mpr ho
        rw [hpc] at hl
        cases hl

end Moves

/-! ## §3 Freed nodes -/

/-- The node that the next step of the task frees. -/
def Pc.frees : Pc L → Option Block
  | .takeFree _ p _ | .firstFree p _ => some p
  | _ => none

theorem Pc.owns_of_frees {pc : Pc L} {p : Block} (h : pc.frees = some p) : pc.owns = some p := by
  cases pc <;> first | exact h | cases h

theorem Pc.held_of_frees {pc : Pc L} {p : Block} (h : pc.frees = some p) : pc.held = none := by
  cases pc <;> first | rfl | cases h

def Pc.failed : Pc L → Bool
  | .fault _ => true
  | _ => false

/-- What one step of `t` does to the heap and to `t`. -/
structure Effect [DecidableEq θ] (s s' : Store θ L) (t : θ) (pc : Pc L) : Prop where
  moves : s'.pc = Function.update s.pc t pc
  keeps : ∀ p, (s.heap p).isSome = true → (s.pc t).frees ≠ some p → s'.heap p = s.heap p
  frees : ∀ p, (s.pc t).frees = some p → s'.heap p = none
  buries : ∀ p, p < s.fresh → s.heap p = none → s'.heap p = none
  holds : ∀ p, pc.held = some p → (s.pc t).held = some p ∨ p ∈ s.chain
  dangles : ∀ p, (s.pc t).held = some p → s.heap p = none →
    pc.held = some p ∨ ∃ c, pc = .fault c
  faults : ∀ c, pc = .fault c →
    ∃ name p, c = .get name ∧ (s.pc t).held = some p ∧ s.heap p = none

section Effects

variable [DecidableEq θ] {s s' : Store θ L} {t : θ} {pc : Pc L}

/-- A step that leaves the heap alone and may find a node of the chain. -/
theorem Effect.search (hmoves : s'.pc = Function.update s.pc t pc) (hheap : s'.heap = s.heap)
    (hfrees : (s.pc t).frees = none) (hdangles : (s.pc t).held = none)
    (hholds : ∀ p, pc.held = some p → p ∈ s.chain) (hfaults : pc.failed = false) :
    Effect s s' t pc where
  moves := hmoves
  keeps p _ _ := by rw [hheap]
  frees p hp := by
    rw [hfrees] at hp
    cases hp
  buries p _ hp := hheap ▸ hp
  holds p hp := .inr (hholds p hp)
  dangles p hp := by
    rw [hdangles] at hp
    cases hp
  faults c hc := by
    rw [hc] at hfaults
    cases hfaults

/-- A step that leaves the heap alone. -/
theorem Effect.quiet (hmoves : s'.pc = Function.update s.pc t pc) (hheap : s'.heap = s.heap)
    (hfrees : (s.pc t).frees = none) (hdangles : (s.pc t).held = none) (hholds : pc.held = none)
    (hfaults : pc.failed = false) : Effect s s' t pc := by
  refine .search hmoves hheap hfrees hdangles (fun p hp => ?_) hfaults
  rw [hholds] at hp
  cases hp

/-- `free` in the middle of a function. -/
theorem Effect.free {p : Block} (hfrees : (s.pc t).frees = some p)
    (hdangles : (s.pc t).held = none) (hholds : pc.held = none) (hfaults : pc.failed = false) :
    Effect s ((s.free p).goto t pc) t pc where
  moves := rfl
  keeps q _ hq := Function.update_of_ne (fun h => hq (by rw [hfrees, h])) _ _
  frees q hq := by
    rw [hfrees] at hq
    cases hq
    simp [Store.goto, Store.free]
  buries q _ hq := by
    by_cases hqp : q = p
    · subst hqp
      simp [Store.goto, Store.free]
    · simpa [Store.goto, Store.free, hqp] using hq
  holds q hq := by
    rw [hholds] at hq
    cases hq
  dangles q hq := by
    rw [hdangles] at hq
    cases hq
  faults c hc := by
    rw [hc] at hfaults
    cases hfaults

theorem Inv.walk_effect (hi : Inv nm s) {f : Search} {name : Option String} {node : Option Block}
    (hpc : s.pc t = .walk f name node) : ∃ pc, Effect s (walkStep nm s t f name node) t pc := by
  have hfound := hi.found t
  have hf : (s.pc t).frees = none := by rw [hpc]; rfl
  have hd : (s.pc t).held = none := by rw [hpc]; rfl
  rw [hpc] at hfound
  match node with
  | none => cases f <;> exact ⟨_, .quiet rfl rfl hf hd rfl rfl⟩
  | some p =>
    obtain ⟨pre, post, hc, hu⟩ := hfound
    have hp : p ∈ s.chain := by simp [hc]
    obtain ⟨link, hlink⟩ := Option.isSome_iff_exists.mp (hi.live p hp)
    simp only [walkStep, hlink]
    split
    · cases f with
      | contains | extract => exact ⟨_, .quiet rfl rfl hf hd rfl rfl⟩
      | get =>
        refine ⟨_, .search rfl rfl hf hd (fun q hq => ?_) rfl⟩
        cases hq
        exact hp
    · exact ⟨_, .quiet rfl rfl hf hd rfl rfl⟩

theorem lock_effect (h : s.lock t pc = some s') (hfrees : (s.pc t).frees = none)
    (hdangles : (s.pc t).held = none) (hholds : pc.held = none) (hfaults : pc.failed = false) :
    Effect s s' t pc := by
  obtain ⟨-, rfl⟩ := lock_eq_some h
  exact .quiet rfl rfl hfrees hdangles hholds hfaults

/-- `snode->link` of a node that may be gone. -/
theorem getNode_effect {name : Option String} {p : Block} {ok : Bool}
    (hpc : s.pc t = .after (.getNode name p))
    (h : runStep nm s t ok (.after (.getNode name p)) = some s') : ∃ pc, Effect s s' t pc := by
  have hf : (s.pc t).frees = none := by rw [hpc]; rfl
  have hd : (s.pc t).held = some p := by rw [hpc]; rfl
  have hfrees : ∀ q, (s.pc t).frees = some q → s.heap q = none := fun q hq => by
    rw [hf] at hq
    cases hq
  simp only [runStep] at h
  split at h
  · rename_i hnone
    cases h
    refine ⟨.fault (.get name), rfl, fun _ _ _ => rfl, hfrees, fun _ _ hq => hq,
      (fun _ hq => by cases hq), fun _ _ _ => .inr ⟨_, rfl⟩, fun c hc => ?_⟩
    cases hc
    exact ⟨name, p, rfl, hd, hnone⟩
  · rename_i l hsome
    cases h
    refine ⟨.after (.ret (.get name) (.link (some l))), rfl, fun _ _ _ => rfl, hfrees,
      fun _ _ hq => hq, (fun _ hq => by cases hq), fun q hq hn => ?_, fun _ hc => by cases hc⟩
    rw [hd] at hq
    cases hq
    rw [hsome] at hn
    cases hn

theorem Inv.effect (hi : Inv nm s) {ok : Bool} (h : runStep nm s t ok (s.pc t) = some s') :
    ∃ pc, Effect s s' t pc := by
  have hfound := hi.found t
  have howned := hi.owned t
  cases hpc : s.pc t with
  | idle | fault c =>
    rw [hpc] at h
    cases h
  | enter c =>
    rw [hpc] at h
    have hf : (s.pc t).frees = none := by rw [hpc]; rfl
    have hd : (s.pc t).held = none := by rw [hpc]; rfl
    cases c with
    | append link =>
      cases h
      cases ok with
      | true =>
        have hnew : ∀ p, p < s.fresh → (s.malloc link).heap p = s.heap p := fun p hp =>
          Function.update_of_ne (Nat.ne_of_lt hp) _ _
        refine ⟨.appendLock link s.fresh, rfl, fun p hp _ => hnew p (hi.bound p hp), fun p hp => ?_,
          fun p hp hn => (hnew p hp).trans hn, (fun p hp => by cases hp), fun p hp => ?_,
          fun c hc => by cases hc⟩
        · rw [hf] at hp
          cases hp
        · rw [hd] at hp
          cases hp
      | false => exact ⟨_, .quiet rfl rfl hf hd rfl rfl⟩
    | contains name | get name | extract name | isEmpty | extractFirst =>
      exact ⟨_, lock_effect h hf hd rfl rfl⟩
  | appendLock link p =>
    rw [hpc] at h
    exact ⟨_, lock_effect h (by rw [hpc]; rfl) (by rw [hpc]; rfl) rfl rfl⟩
  | appendChain link p =>
    rw [hpc] at h
    cases h
    exact ⟨_, .quiet rfl rfl (by rw [hpc]; rfl) (by rw [hpc]; rfl) rfl rfl⟩
  | empty =>
    rw [hpc] at h
    cases h
    exact ⟨_, .quiet rfl rfl (by rw [hpc]; rfl) (by rw [hpc]; rfl) rfl rfl⟩
  | walk f name node =>
    rw [hpc] at h
    cases h
    exact hi.walk_effect hpc
  | take name p =>
    rw [hpc] at h hfound
    obtain ⟨pre, post, link, hc, -, hlink, -⟩ := hfound
    simp only [runStep, hlink, Option.some.injEq] at h
    subst h
    exact ⟨_, .quiet rfl rfl (by rw [hpc]; rfl) (by rw [hpc]; rfl) rfl rfl⟩
  | takeFree name p link | firstFree p link =>
    rw [hpc] at h howned
    obtain ⟨l, hlink⟩ := Option.isSome_iff_exists.mp (howned p rfl).2
    simp only [runStep, hlink, Option.some.injEq] at h
    subst h
    exact ⟨_, .free (by rw [hpc]; rfl) (by rw [hpc]; rfl) rfl rfl⟩
  | first =>
    rw [hpc] at h
    match hc : s.chain with
    | [] | p :: ps =>
      simp only [runStep, hc, Option.some.injEq] at h
      subst h
      exact ⟨_, .quiet rfl rfl (by rw [hpc]; rfl) (by rw [hpc]; rfl) rfl rfl⟩
  | unlock k =>
    rw [hpc] at h
    cases h
    have hf : (s.pc t).frees = none := by rw [hpc]; rfl
    have hd : (s.pc t).held = k.held := by rw [hpc]; rfl
    refine ⟨.after k, rfl, fun p _ _ => rfl, fun p hp => ?_, fun p _ hp => hp,
      fun p hp => .inl (hd.trans hp), fun p hp _ => .inl (hd.symm.trans hp),
      fun c hc => by cases hc⟩
    rw [hf] at hp
    cases hp
  | after k =>
    rw [hpc] at h howned
    cases k with
    | ret c r => cases h
    | getNode name p => exact getNode_effect hpc h
    | firstNode p =>
      obtain ⟨l, hlink⟩ := Option.isSome_iff_exists.mp (howned p rfl).2
      simp only [runStep, hlink, Option.some.injEq] at h
      subst h
      exact ⟨_, .quiet rfl rfl (by rw [hpc]; rfl) (by rw [hpc]; rfl) rfl rfl⟩

end Effects

section Steps

variable [DecidableEq θ] [DecidableEq L] {s s' : Store θ L}

/-- What a step can do: call, return, or move on. -/
theorem step_cases {a : Act θ L} (h : step nm s a = some s') :
    (∃ t c, a = .call t c ∧ s.pc t = .idle ∧ s' = s.goto t (.enter c)) ∨
    (∃ t ok, a = .run t ok ∧ runStep nm s t ok (s.pc t) = some s') ∨
    (∃ t c r, a = .ret t c r ∧ s.pc t = .after (.ret c r) ∧ s' = s.goto t .idle) := by
  cases a with
  | call t c =>
    simp only [step] at h
    split at h
    · exact .inl ⟨t, c, rfl, ‹_›, (Option.some.inj h).symm⟩
    · cases h
  | run t ok => exact .inr (.inl ⟨t, ok, rfl, h⟩)
  | ret t c r =>
    simp only [step] at h
    split at h
    · exact .inr (.inr ⟨t, c, r, rfl, ‹_›, (Option.some.inj h).symm⟩)
    · cases h

theorem inv_step {a : Act θ L} (hi : Inv nm s) (h : step nm s a = some s') : Inv nm s' := by
  obtain ⟨t, c, rfl, hpc, rfl⟩ | ⟨t, ok, rfl, h⟩ | ⟨t, c, r, rfl, hpc, rfl⟩ := step_cases h
  · exact hi.stay (by rw [hpc]; rfl) rfl rfl (by rw [hpc]; rfl) trivial
  · exact inv_runStep hi h
  · exact hi.stay (by rw [hpc]; rfl) rfl rfl (by rw [hpc]; rfl) trivial

/-- The task that a step takes on. -/
def Act.task : Act θ L → θ
  | call t _ | run t _ | ret t _ _ => t

/-- The node that a step frees. -/
def Act.frees (s : Store θ L) : Act θ L → Option Block
  | .run t _ => (s.pc t).frees
  | _ => none

theorem Inv.step_effect {a : Act θ L} (hi : Inv nm s) (h : step nm s a = some s') :
    ∃ pc, Effect s s' a.task pc ∧ a.frees s = (s.pc a.task).frees := by
  obtain ⟨t, c, rfl, hpc, rfl⟩ | ⟨t, ok, rfl, h⟩ | ⟨t, c, r, rfl, hpc, rfl⟩ := step_cases h
  · have hfrees : (s.pc t).frees = none := by rw [hpc]; rfl
    exact ⟨.enter c, .quiet rfl rfl hfrees (by rw [Act.task, hpc]; rfl) rfl rfl, hfrees.symm⟩
  · obtain ⟨pc, he⟩ := hi.effect h
    exact ⟨pc, he, rfl⟩
  · have hfrees : (s.pc t).frees = none := by rw [hpc]; rfl
    exact ⟨.idle, .quiet rfl rfl hfrees (by rw [Act.task, hpc]; rfl) rfl rfl, hfrees.symm⟩

/-- No node is freed under a `link_store_get` that has found it and has
still to read it. -/
def KeepsHeld (s : Store θ L) (a : Act θ L) : Prop :=
  ∀ p ∈ a.frees s, ∀ u, (s.pc u).held ≠ some p

instance KeepsHeld.instDecidable [Fintype θ] (s : Store θ L) (a : Act θ L) :
    Decidable (KeepsHeld s a) :=
  inferInstanceAs (Decidable (∀ p ∈ a.frees s, ∀ u, (s.pc u).held ≠ some p))

/-- No task has used a freed node or is about to. -/
structure Sound (s : Store θ L) : Prop where
  noFault : ∀ t c, s.pc t ≠ .fault c
  heldLive : ∀ t p, (s.pc t).held = some p → (s.heap p).isSome = true

omit [DecidableEq θ] [DecidableEq L] in
theorem sound_init : Sound (Store.init : Store θ L) where
  noFault := by simp [Store.init]
  heldLive := by simp [Store.init, Pc.held]

theorem Sound.step {a : Act θ L} (hd : Sound s) (hi : Inv nm s) (hk : KeepsHeld s a)
    (h : step nm s a = some s') : Sound s' := by
  obtain ⟨pc, he, hfrees⟩ := hi.step_effect h
  have hkeep : ∀ p u, (s.pc u).held = some p → s'.heap p = s.heap p := fun p u hu =>
    he.keeps p (hd.heldLive u p hu) fun hf => hk p (hfrees.trans hf) u hu
  constructor
  · intro u c hu
    rw [he.moves] at hu
    by_cases hut : u = a.task
    · subst hut
      rw [Function.update_self] at hu
      obtain ⟨name, p, -, hheld, hnone⟩ := he.faults c hu
      have := hd.heldLive _ p hheld
      rw [hnone] at this
      cases this
    · rw [Function.update_of_ne hut] at hu
      exact hd.noFault u c hu
  · intro u p hu
    rw [he.moves] at hu
    by_cases hut : u = a.task
    · subst hut
      rw [Function.update_self] at hu
      obtain hheld | hp := he.holds p hu
      · rw [hkeep p _ hheld]
        exact hd.heldLive _ p hheld
      · -- a node of the chain belongs to nobody, so the step does not free it
        have hnf : (s.pc a.task).frees ≠ some p := fun hf =>
          (hi.owned _ p (Pc.owns_of_frees hf)).1 hp
        rw [he.keeps p (hi.live p hp) hnf]
        exact hi.live p hp
    · rw [Function.update_of_ne hut] at hu
      rw [hkeep p u hu]
      exact hd.heldLive u p hu

/-- A task has used a freed node, or holds one to read it. -/
def Doomed (s : Store θ L) : Prop :=
  ∃ t, (∃ c, s.pc t = .fault c) ∨ ∃ p, (s.pc t).held = some p ∧ s.heap p = none

theorem Doomed.step {a : Act θ L} (hd : Doomed s) (hi : Inv nm s) (h : step nm s a = some s') :
    Doomed s' := by
  obtain ⟨pc, he, -⟩ := hi.step_effect h
  obtain ⟨u, hu⟩ := hd
  refine ⟨u, ?_⟩
  by_cases hut : u = a.task
  · subst hut
    rw [he.moves, Function.update_self]
    obtain ⟨c, hc⟩ | ⟨p, hp, hn⟩ := hu
    · -- a task at a fault takes no step
      exfalso
      obtain ⟨t, d, rfl, hpc, -⟩ | ⟨t, ok, rfl, hrun⟩ | ⟨t, d, r, rfl, hpc, -⟩ := step_cases h
      · rw [Act.task, hpc] at hc
        cases hc
      · rw [Act.task] at hc
        rw [hc] at hrun
        cases hrun
      · rw [Act.task, hpc] at hc
        cases hc
    · obtain hheld | hf := he.dangles p hp hn
      · exact .inr ⟨p, hheld, he.buries p (hi.held _ p hp) hn⟩
      · exact .inl hf
  · rw [he.moves, Function.update_of_ne hut]
    exact hu.imp_right fun ⟨p, hp, hn⟩ => ⟨p, hp, he.buries p (hi.held u p hp) hn⟩

theorem doomed_of_not_keepsHeld {a : Act θ L} (hi : Inv nm s) (h : step nm s a = some s')
    (hk : ¬ KeepsHeld s a) : Doomed s' := by
  simp only [KeepsHeld, Option.mem_def, not_forall, not_not] at hk
  obtain ⟨p, hfree, u, hu⟩ := hk
  obtain ⟨pc, he, hfrees⟩ := hi.step_effect h
  have hut : u ≠ a.task := by
    rintro rfl
    rw [hfrees] at hfree
    rw [Pc.held_of_frees hfree] at hu
    cases hu
  refine ⟨u, .inr ⟨p, ?_, he.frees p (hfrees ▸ hfree)⟩⟩
  rw [he.moves, Function.update_of_ne hut]
  exact hu

/-- Only `link_store_get` uses a freed node. -/
theorem fault_step {a : Act θ L} (hi : Inv nm s)
    (hd : ∀ t c, s.pc t = .fault c → ∃ name, c = .get name) (h : step nm s a = some s') :
    ∀ t c, s'.pc t = .fault c → ∃ name, c = .get name := by
  obtain ⟨pc, he, -⟩ := hi.step_effect h
  intro u c hu
  rw [he.moves] at hu
  by_cases hut : u = a.task
  · subst hut
    rw [Function.update_self] at hu
    obtain ⟨name, -, hc, -⟩ := he.faults c hu
    exact ⟨name, hc⟩
  · rw [Function.update_of_ne hut] at hu
    exact hd u c hu

theorem fault_run {as : List (Act θ L)} (h : exec (step nm) Store.init as = some s) :
    Inv nm s ∧ ∀ t c, s.pc t = .fault c → ∃ name, c = .get name :=
  exec_invariant' (I := fun s => Inv nm s ∧ ∀ t c, s.pc t = .fault c → ∃ name, c = .get name)
    (fun _ _ _ hi h => ⟨inv_step hi.1 h, fault_step hi.1 hi.2 h⟩)
    ⟨inv_init, by simp [Store.init]⟩ h

/-- **Memory.** In every run of every number of tasks no node is in the
chain twice, none is freed twice or lost, and a call that uses a freed node
is a `link_store_get`: with all calls over, the live blocks are exactly the
nodes of the chain. -/
theorem store_memory (nm : L → Option String) (as : List (Act θ L)) (s : Store θ L)
    (h : exec (step nm) Store.init as = some s) :
    s.chain.Nodup ∧ (∀ p ∈ s.chain, (s.heap p).isSome = true) ∧
      (∀ t c, s.pc t = .fault c → ∃ name, c = .get name) ∧
      ((∀ t, s.pc t = .idle ∨ (s.pc t).failed = true) →
        ∀ p, (s.heap p).isSome = true ↔ p ∈ s.chain) := by
  obtain ⟨hi, hget⟩ := fault_run h
  refine ⟨hi.nodup, hi.live, hget, fun hidle p => ⟨fun hp => ?_, hi.live p⟩⟩
  obtain hc | ⟨t, ht⟩ := hi.account p hp
  · exact hc
  · exfalso
    obtain hpc | hpc := hidle t <;> cases hp : s.pc t <;> rw [hp] at hpc ht <;>
      first | cases hpc; done | cases ht

/-- One named link and one without a name. -/
def twoNames (link : Bool) : Option String :=
  if link then none else some "TRCH"

/-- A task appends a link. -/
def appendRun (t link : Bool) : List (Act Bool Bool) :=
  [.call t (.append link), .run t true, .run t true, .run t true, .run t true,
    .ret t (.append link) (.status .successful)]

theorem appendRun_memory :
    ∃ s, exec (step twoNames) Store.init (appendRun false false) = some s ∧
      ∀ p, (s.heap p).isSome = true ↔ p ∈ s.chain :=
  ⟨_, rfl, (store_memory twoNames (appendRun false false) _ rfl).2.2.2 (by decide)⟩

/-- **Freed nodes, exactly.** When every `link_store_get` has read what it
found, no freed node was used if and only if none was freed between the
search of a `link_store_get` and its read. -/
theorem store_no_fault_iff (nm : L → Option String) (as : List (Act θ L)) (s : Store θ L)
    (h : exec (step nm) Store.init as = some s) (hread : ∀ t, (s.pc t).held = none) :
    (∀ t c, s.pc t ≠ .fault c) ↔ Along (step nm) KeepsHeld Store.init as := by
  constructor
  · intro hnf
    refine along_of_exec (I := Inv nm) (D := Doomed) (fun _ _ _ => inv_step)
      (fun _ _ _ => doomed_of_not_keepsHeld) (fun _ _ _ hi hd => hd.step hi) inv_init h ?_
    rintro ⟨t, ⟨c, hc⟩ | ⟨p, hp, -⟩⟩
    · exact hnf t c hc
    · rw [hread t] at hp
      cases hp
  · intro hk
    have hrun := exec_invariant (I := fun s => Inv nm s ∧ Sound s)
      (fun _ _ _ hi hk h => ⟨inv_step hi.1 h, hi.2.step hi.1 hk h⟩)
      ⟨inv_init, sound_init⟩ hk h
    exact hrun.2.noFault

/-- One task gets the link by its name. Before it has read the node, the
other takes the link out and frees the node. -/
def overlapRun : List (Act Bool Bool) :=
  appendRun false false ++ [.call false (.get (some "TRCH")), .run false true, .run false true,
    .run false true, .call true .extractFirst, .run true true, .run true true, .run true true,
    .run true true, .run true true, .ret true .extractFirst (.link (some false)), .run false true]

theorem overlapRun_fault : ∃ s, exec (step twoNames) Store.init overlapRun = some s ∧
    ¬ ∀ t c, s.pc t ≠ .fault c :=
  ⟨_, rfl, fun h =>
    absurd ((store_no_fault_iff twoNames overlapRun _ rfl (by decide)).mp h) (by decide)⟩

end Steps

/-! ## §4 The mutex is given back -/

/-- How many turns a search still has before it. -/
def turnsLeft (chain : List Block) : Option Block → Nat
  | none => 0
  | some p => (chain.dropWhile (· ≠ p)).length

/-- At most so many steps until a task with the mutex has released it. -/
def Pc.rank (chain : List Block) : Pc L → Nat
  | .walk _ _ node => 4 + turnsLeft chain node
  | .take _ _ => 3
  | .takeFree _ _ _ | .appendChain _ _ | .empty | .first => 2
  | .unlock _ => 1
  | _ => 0

theorem turnsLeft_split {pre post : List Block} {p : Block} (h : (pre ++ p :: post).Nodup) :
    turnsLeft (pre ++ p :: post) (some p) = post.length + 1 := by
  have hpre : ∀ q ∈ pre, (decide (q ≠ p)) = true := fun q hq => by
    rw [List.nodup_middle, List.nodup_cons] at h
    exact decide_eq_true fun he => h.1 (List.mem_append_left _ (he ▸ hq))
  rw [turnsLeft, List.dropWhile_append_of_pos hpre]
  simp

/-- The turns left at the node after `p`. -/
theorem turnsLeft_next {pre post : List Block} {p : Block} (h : (pre ++ p :: post).Nodup) :
    turnsLeft (pre ++ p :: post) post.head? = post.length := by
  match post with
  | [] => rfl
  | q :: qs =>
    have hsplit : pre ++ p :: q :: qs = (pre ++ [p]) ++ q :: qs := by simp
    rw [hsplit] at h ⊢
    rw [List.head?_cons, turnsLeft_split h, List.length_cons]

theorem Pc.rank_pos {chain : List Block} {pc : Pc L} (h : pc.locked = true) :
    1 ≤ pc.rank chain := by
  cases pc with
  | walk f name node =>
    simp only [Pc.rank]
    omega
  | appendChain _ _ | take _ _ | takeFree _ _ _ | empty | first | unlock _ => simp [Pc.rank]
  | idle | enter _ | appendLock _ _ | after _ | firstFree _ _ | fault _ => cases h

section Progress

variable [DecidableEq θ] {s s' : Store θ L} {t : θ}

/-- The task still has the mutex and is closer to releasing it, or has just
released it. -/
def Nearer (s s' : Store θ L) (t : θ) : Prop :=
  ((s'.pc t).locked = true ∧ (s'.pc t).rank s'.chain < (s.pc t).rank s.chain) ∨
    (s'.owner = none ∧ ∃ k, s'.pc t = .after k)

theorem Nearer.of_goto {s₁ : Store θ L} {pc : Pc L} (hl : pc.locked = true)
    (hr : pc.rank s₁.chain < (s.pc t).rank s.chain) : Nearer s (s₁.goto t pc) t := by
  refine .inl ?_
  simp only [Store.goto, Function.update_self]
  exact ⟨hl, hr⟩

theorem walk_nearer (hi : Inv nm s) {f : Search} {name : Option String} {node : Option Block}
    (hpc : s.pc t = .walk f name node) : Nearer s (walkStep nm s t f name node) t := by
  have hfound := hi.found t
  have hnodup := hi.nodup
  rw [hpc] at hfound
  match node with
  | none => cases f <;> exact .of_goto rfl (by simp [hpc, Pc.rank, turnsLeft])
  | some p =>
    obtain ⟨pre, post, hc, hu⟩ := hfound
    obtain ⟨link, hlink⟩ := Option.isSome_iff_exists.mp (hi.live p (by simp [hc]))
    simp only [walkStep, hlink]
    rw [hc] at hnodup
    split
    · cases f with
      | contains | get | extract =>
        refine .of_goto rfl ?_
        simp only [hpc, Pc.rank]
        omega
    · refine .of_goto rfl ?_
      simp only [hpc, Pc.rank, hc, chainNext_split hnodup, turnsLeft_split hnodup,
        turnsLeft_next hnodup]
      omega

/-- A task with the mutex is never stopped, and it does not call `malloc`. -/
theorem runStep_nearer (hi : Inv nm s) (hl : (s.pc t).locked = true) (ok : Bool) :
    ∃ s', runStep nm s t ok (s.pc t) = some s' ∧ Nearer s s' t := by
  have hfound := hi.found t
  have howned := hi.owned t
  cases hpc : s.pc t with
  | idle | enter c | appendLock link p | after k | firstFree p link | fault c =>
    rw [hpc] at hl
    cases hl
  | appendChain link p => exact ⟨_, rfl, .of_goto rfl (by simp [hpc, Pc.rank])⟩
  | walk f name node => exact ⟨_, rfl, walk_nearer hi hpc⟩
  | take name p =>
    rw [hpc] at hfound
    obtain ⟨pre, post, link, hc, -, hlink, -⟩ := hfound
    refine ⟨({ s with chain := s.chain.erase p } : Store θ L).goto t (.takeFree name p link),
      by simp only [runStep, hlink], .of_goto rfl ?_⟩
    simp [hpc, Pc.rank]
  | takeFree name p link =>
    rw [hpc] at howned
    obtain ⟨l, hlink⟩ := Option.isSome_iff_exists.mp (howned p rfl).2
    refine ⟨(s.free p).goto t (.unlock (.ret (.extract name) (.link (some link)))),
      by simp only [runStep, hlink], .of_goto rfl ?_⟩
    simp [hpc, Pc.rank]
  | empty => exact ⟨_, rfl, .of_goto rfl (by simp [hpc, Pc.rank])⟩
  | first =>
    match hc : s.chain with
    | [] =>
      exact ⟨s.goto t (.unlock (.ret .extractFirst (.link none))), by simp only [runStep, hc],
        .of_goto rfl (by simp [hpc, Pc.rank])⟩
    | p :: ps =>
      exact ⟨({ s with chain := ps } : Store θ L).goto t (.unlock (.firstNode p)),
        by simp only [runStep, hc], .of_goto rfl (by simp [hpc, Pc.rank])⟩
  | unlock k =>
    refine ⟨_, rfl, .inr ⟨rfl, k, ?_⟩⟩
    simp [Store.goto]

variable [DecidableEq L]

/-- On its own, a task with the mutex gets to where it has released it. -/
theorem release_run (hi : Inv nm s) (hl : (s.pc t).locked = true) :
    ∃ n s', exec (step nm) s (List.replicate n (.run t true)) = some s' ∧
      n ≤ (s.pc t).rank s.chain ∧ Inv nm s' ∧ s'.owner = none ∧ (∃ k, s'.pc t = .after k) ∧
      ∀ u, u ≠ t → s'.pc u = s.pc u := by
  -- by induction on how far the task is from the release
  induction hr : (s.pc t).rank s.chain using Nat.strongRecOn generalizing s with
  | _ r ih =>
    obtain ⟨s₁, hrun, hnear⟩ := runStep_nearer hi hl true
    have hstep : step nm s (.run t true) = some s₁ := hrun
    have hi₁ := inv_step hi hstep
    obtain ⟨pc, he⟩ := hi.effect hrun
    have hothers : ∀ u, u ≠ t → s₁.pc u = s.pc u := fun u hu => by
      rw [he.moves, Function.update_of_ne hu]
    obtain ⟨hl₁, hr₁⟩ | ⟨ho, hk⟩ := hnear
    · rw [hr] at hr₁
      obtain ⟨n, s', hex, hn, hi', ho, hk, hu⟩ := ih _ hr₁ hi₁ hl₁ rfl
      refine ⟨n + 1, s', ?_, by omega, hi', ho, hk, fun u hut => ?_⟩
      · rw [List.replicate_succ, exec_cons _ hstep]
        exact hex
      · rw [hu u hut, hothers u hut]
    · exact ⟨1, s₁, exec_cons _ hstep, hr ▸ Pc.rank_pos hl, hi₁, ho, hk, hothers⟩

/-- Only `t`, and whoever has the mutex, has to run. -/
def Helps (s : Store θ L) (t : θ) : Act θ L → Prop
  | .run u ok => ok = true ∧ (u = t ∨ s.owner = some u)
  | _ => False

/-- The call of `t` is over: it has its result, or it is a `link_store_get`
that has used a freed node. -/
def Over (s : Store θ L) (t : θ) : Prop :=
  (∃ c r, s.pc t = .after (.ret c r)) ∨ ∃ name, s.pc t = .fault (.get name)

/-- `t` can be brought to the end of its call. -/
def Ends (nm : L → Option String) (s : Store θ L) (t : θ) : Prop :=
  ∃ as s', exec (step nm) s as = some s' ∧ (∀ a ∈ as, Helps s t a) ∧ Over s' t

theorem Ends.here (h : Over s t) : Ends nm s t := ⟨[], s, rfl, by simp, h⟩

/-- After some steps of `t`, or of whoever has the mutex. -/
theorem Ends.after {as : List (Act θ L)} (hex : exec (step nm) s as = some s')
    (has : ∀ a ∈ as, Helps s t a) (hown : ∀ u, s'.owner = some u → u = t ∨ s.owner = some u)
    (h : Ends nm s' t) : Ends nm s t := by
  obtain ⟨bs, s'', hbs, hhelp, hover⟩ := h
  refine ⟨as ++ bs, s'', by rw [exec_append _ hex, hbs], fun a ha => ?_, hover⟩
  obtain ha | ha := List.mem_append.mp ha
  · exact has a ha
  · have := hhelp a ha
    cases a with
    | call u c | ret u c r => exact this
    | run u ok => exact ⟨this.1, this.2.elim .inl (hown u)⟩

/-- After one step of `t`. -/
theorem Ends.run (h : runStep nm s t true (s.pc t) = some s')
    (hown : ∀ u, s'.owner = some u → u = t ∨ s.owner = some u) (he : Ends nm s' t) :
    Ends nm s t := by
  have hstep : step nm s (.run t true) = some s' := h
  refine he.after (exec_cons [] hstep) (fun a ha => ?_) hown
  rw [List.mem_singleton.mp ha]
  exact ⟨rfl, .inl rfl⟩

theorem Ends.ret {s₁ : Store θ L} {c : Call L} {r : Result L}
    (hrun : runStep nm s t true (s.pc t) = some (s₁.goto t (.after (.ret c r))))
    (hown : s₁.owner = s.owner) : Ends nm s t :=
  .run hrun (fun _ hu => .inr (hown ▸ hu)) (.here (.inl ⟨c, r, Function.update_self ..⟩))

theorem ends_firstFree (hi : Inv nm s) {p : Block} {link : L} (hpc : s.pc t = .firstFree p link) :
    Ends nm s t := by
  have howned := hi.owned t
  rw [hpc] at howned
  obtain ⟨l, hh⟩ := Option.isSome_iff_exists.mp (howned p rfl).2
  have hrun : runStep nm s t true (s.pc t) =
      some ((s.free p).goto t (.after (.ret .extractFirst (.link (some link))))) := by
    simp only [hpc, runStep, hh]
  exact .ret hrun rfl

/-- With the mutex behind it, the call ends. -/
theorem ends_after (hi : Inv nm s) {k : After L} (hpc : s.pc t = .after k) : Ends nm s t := by
  have howned := hi.owned t
  rw [hpc] at howned
  cases k with
  | ret c r => exact .here (.inl ⟨c, r, hpc⟩)
  | getNode name p =>
    cases hh : s.heap p with
    | none =>
      have hrun : runStep nm s t true (s.pc t) = some (s.goto t (.fault (.get name))) := by
        simp only [hpc, runStep, hh]
      exact .run hrun (fun u hu => .inr hu) (.here (.inr ⟨name, Function.update_self ..⟩))
    | some link =>
      have hrun : runStep nm s t true (s.pc t) =
          some (s.goto t (.after (.ret (.get name) (.link (some link))))) := by
        simp only [hpc, runStep, hh]
      exact .ret hrun rfl
  | firstNode p =>
    obtain ⟨link, hh⟩ := Option.isSome_iff_exists.mp (howned p rfl).2
    have hrun : runStep nm s t true (s.pc t) = some (s.goto t (.firstFree p link)) := by
      simp only [hpc, runStep, hh]
    exact .run hrun (fun u hu => .inr hu)
      (ends_firstFree (inv_runStep hi hrun) (Function.update_self ..))

/-- With the mutex in hand, the call ends. -/
theorem ends_locked (hi : Inv nm s) (hl : (s.pc t).locked = true) : Ends nm s t := by
  obtain ⟨n, s', hex, -, hi', ho, ⟨k, hk⟩, -⟩ := release_run hi hl
  refine .after hex (fun a ha => ?_) (fun u hu => ?_) (ends_after hi' hk)
  · rw [List.eq_of_mem_replicate ha]
    exact ⟨rfl, .inl rfl⟩
  · rw [ho] at hu
    cases hu

/-- The call of a task that is about to take the free mutex ends. -/
theorem ends_lock (hi : Inv nm s) (pc : Pc L)
    (hrun : runStep nm s t true (s.pc t) = s.lock t pc) (hl : pc.locked = true)
    (ho : s.owner = none) : Ends nm s t := by
  have hlock : s.lock t pc = some { s.goto t pc with owner := some t } := if_pos ho
  refine .run (hrun.trans hlock) (fun u hu => .inl (Option.some.inj hu).symm) ?_
  refine ends_locked (inv_runStep hi (hrun.trans hlock)) ?_
  simp [Store.goto, hl]

/-- Whoever has the mutex can get out of the way of `t`. -/
theorem ends_of_free (hi : Inv nm s) (hl : (s.pc t).locked = false)
    (h : ∀ s' : Store θ L, Inv nm s' → s'.owner = none → s'.pc t = s.pc t → Ends nm s' t) :
    Ends nm s t := by
  cases ho : s.owner with
  | none => exact h s hi ho rfl
  | some u =>
    have hlu := (hi.lock u).mpr ho
    have htu : t ≠ u := fun he => by
      rw [he, hlu] at hl
      cases hl
    obtain ⟨n, s', hex, -, hi', ho', -, hothers⟩ := release_run hi hlu
    refine .after hex (fun a ha => ?_) (fun v hv => ?_) (h s' hi' ho' (hothers t htu))
    · rw [List.eq_of_mem_replicate ha]
      exact ⟨rfl, .inr ho⟩
    · rw [ho'] at hv
      cases hv

theorem ends_appendLock (hi : Inv nm s) {p : Block} {link : L}
    (hpc : s.pc t = .appendLock link p) : Ends nm s t := by
  refine ends_of_free hi (by rw [hpc]; rfl) fun s' hi' ho hpc' => ?_
  rw [hpc] at hpc'
  exact ends_lock hi' (.appendChain link p) (by rw [hpc']; rfl) rfl ho

/-- A call that begins with the mutex. -/
theorem ends_enter (hi : Inv nm s) {c : Call L} (hpc : s.pc t = .enter c)
    (pc : Store θ L → Pc L) (hrun : ∀ s', runStep nm s' t true (.enter c) = s'.lock t (pc s'))
    (hl : ∀ s', (pc s').locked = true) : Ends nm s t := by
  refine ends_of_free hi (by rw [hpc]; rfl) fun s' hi' ho hpc' => ?_
  exact ends_lock hi' (pc s') (by rw [hpc', hpc, hrun]) (hl s') ho

theorem ends_of_busy (hi : Inv nm s)
    (hget : ∀ t c, s.pc t = .fault c → ∃ name, c = .get name) (ht : s.pc t ≠ .idle) :
    Ends nm s t := by
  cases hpc : s.pc t with
  | idle => exact absurd hpc ht
  | enter c =>
    cases c with
    | append link =>
      have hrun : runStep nm s t true (s.pc t) =
          some ((s.malloc link).goto t (.appendLock link s.fresh)) := by
        rw [hpc]
        rfl
      exact .run hrun (fun u hu => .inr hu)
        (ends_appendLock (inv_runStep hi hrun) (Function.update_self ..))
    | contains name =>
      exact ends_enter hi hpc (fun s => .walk .contains name s.chain.head?) (fun _ => rfl)
        fun _ => rfl
    | get name =>
      exact ends_enter hi hpc (fun s => .walk .get name s.chain.head?) (fun _ => rfl) fun _ => rfl
    | extract name =>
      exact ends_enter hi hpc (fun s => .walk .extract name s.chain.head?) (fun _ => rfl)
        fun _ => rfl
    | isEmpty => exact ends_enter hi hpc (fun _ => .empty) (fun _ => rfl) fun _ => rfl
    | extractFirst => exact ends_enter hi hpc (fun _ => .first) (fun _ => rfl) fun _ => rfl
  | appendLock link p => exact ends_appendLock hi hpc
  | appendChain _ _ | walk _ _ _ | take _ _ | takeFree _ _ _ | empty | first | unlock _ =>
    exact ends_locked hi (by rw [hpc]; rfl)
  | after k => exact ends_after hi hpc
  | firstFree p link => exact ends_firstFree hi hpc
  | fault c =>
    obtain ⟨name, rfl⟩ := hget t c hpc
    exact .here (.inr ⟨name, hpc⟩)

/-- **No deadlock.** In every run of every number of tasks, a task in the
middle of a call can be brought to the end of it by running only that task
and the one that has the mutex, and the one that has the mutex always has a
step, which takes it nearer to the release. -/
theorem store_no_deadlock (nm : L → Option String) (as : List (Act θ L)) (s : Store θ L)
    (h : exec (step nm) Store.init as = some s) :
    (∀ t, s.pc t ≠ .idle → Ends nm s t) ∧
      ∀ u, s.owner = some u → ∀ ok, ∃ s', step nm s (.run u ok) = some s' ∧ Nearer s s' u := by
  obtain ⟨hi, hget⟩ := fault_run h
  refine ⟨fun t ht => ends_of_busy hi hget ht, fun u hu ok => ?_⟩
  exact runStep_nearer hi ((hi.lock u).mpr hu) ok

/-- One task waits for the mutex that the other has. -/
def waitingRun : List (Act Bool Bool) :=
  [.call true .isEmpty, .run true true, .call false (.get none)]

theorem waitingRun_ends : ∃ s, exec (step twoNames) Store.init waitingRun = some s ∧
    s.owner = some true ∧ Ends twoNames s false ∧
    ∃ s', step twoNames s (.run true true) = some s' ∧ Nearer s s' true := by
  have h := store_no_deadlock twoNames waitingRun _ rfl
  exact ⟨_, rfl, rfl, h.1 false (by decide), h.2 true rfl true⟩

end Progress

end HpscRtems.LinkStore
