/-
HpscRtems.Machine.Linearize — objects shared by several clients, over any
object, any clients and any operations.

The object is a function `obj : σ → ι → ν → σ × ο`; the choice `ν` is what
the caller does not decide. A client calls, the operation takes effect at
one commit, and the client returns with the answer of that commit:
`Atomic.step` is this machine. A history is the list of calls and returns,
and it is linearizable when some run of the machine has it, that is, when
every operation can be taken to happen at one instant between its call and
its return.

`TraceRefines.exec` lifts a forward simulation that keeps what can be
observed, and with it `linearizable_of_refines` carries the history of a
concrete machine over. §3 compares a history with the log of the commits:
what has returned was committed, and what was committed had been called.
-/
import HpscRtems.Machine.Run
import Mathlib.Data.List.Count
import Mathlib.Data.List.Perm.Subperm

namespace HpscRtems.Machine

variable {S T α β ε σ ι ο ν θ : Type*}

/-! ## §1 Simulations that keep what is observed -/

/-- What a list of actions shows. -/
def trace (obs : α → List ε) (as : List α) : List ε := as.flatMap obs

@[simp] theorem trace_nil (obs : α → List ε) : trace obs [] = [] := rfl

@[simp] theorem trace_cons (obs : α → List ε) (a : α) (as : List α) :
    trace obs (a :: as) = obs a ++ trace obs as := rfl

@[simp] theorem trace_append (obs : α → List ε) (as bs : List α) :
    trace obs (as ++ bs) = trace obs as ++ trace obs bs := List.flatMap_append

/-- `Refines` with the abstract answer showing what the concrete step shows. -/
structure TraceRefines (step : S → α → Option S) (stepA : T → β → Option T)
    (obs : α → List ε) (obsA : β → List ε) (G : S → α → Prop) (R : S → T → Prop) : Prop where
  sim : ∀ {s a s' t}, R s t → G s a → step s a = some s' →
    ∃ ans t', exec stepA t ans = some t' ∧ trace obsA ans = obs a ∧ R s' t'

/-- Every concrete run along `G` is answered by an abstract run that shows the same. -/
theorem TraceRefines.exec {step : S → α → Option S} {stepA : T → β → Option T}
    {obs : α → List ε} {obsA : β → List ε} {G : S → α → Prop} {R : S → T → Prop}
    (r : TraceRefines step stepA obs obsA G R) {s s' : S} {t : T} {as : List α} (hR : R s t)
    (hG : Along step G s as) (h : Machine.exec step s as = some s') :
    ∃ bs t', Machine.exec stepA t bs = some t' ∧ trace obsA bs = trace obs as ∧ R s' t' := by
  induction as generalizing s t with
  | nil => cases h; exact ⟨[], t, rfl, rfl, hR⟩
  | cons a as ih =>
    obtain ⟨u, hsu, hu⟩ := exec_cons_some h
    obtain ⟨ans, t', hans, hobs, hR'⟩ := r.sim hR hG.1 hsu
    obtain ⟨bs, t'', hbs, hobs', hR''⟩ := ih hR' (hG.2 u hsu) hu
    refine ⟨ans ++ bs, t'', ?_, ?_, hR''⟩
    · rw [exec_append _ hans]
      exact hbs
    · rw [trace_append, trace_cons, hobs, hobs']

/-! ## §2 The atomic object -/

/-- Where a client is. -/
inductive ClientPc (ι ο : Type*) where
  | idle
  | called (i : ι)
  | done (i : ι) (o : ο)
  deriving DecidableEq

/-- The object, its clients, and the log of the commits so far. -/
structure Atomic (σ ι ο θ : Type*) where
  obj : σ
  pc : θ → ClientPc ι ο
  log : List (θ × ι × ο)

inductive AtomicAct (θ ι ο ν : Type*) where
  | call (t : θ) (i : ι)
  | commit (t : θ) (n : ν)
  | ret (t : θ) (i : ι) (o : ο)

/-- What the clients see. -/
inductive Event (θ ι ο : Type*) where
  | call (t : θ) (i : ι)
  | ret (t : θ) (i : ι) (o : ο)
  deriving DecidableEq

/-- Commits are not seen. -/
def AtomicAct.event : AtomicAct θ ι ο ν → List (Event θ ι ο)
  | call t i => [.call t i]
  | commit _ _ => []
  | ret t i o => [.ret t i o]

namespace Atomic

/-- Nobody has called. -/
def init (s₀ : σ) : Atomic σ ι ο θ := ⟨s₀, fun _ => .idle, []⟩

variable [DecidableEq θ] [DecidableEq ι] [DecidableEq ο]

def step (obj : σ → ι → ν → σ × ο) (s : Atomic σ ι ο θ) :
    AtomicAct θ ι ο ν → Option (Atomic σ ι ο θ)
  | .call t i =>
    if s.pc t = .idle then some { s with pc := Function.update s.pc t (.called i) } else none
  | .commit t n =>
    match s.pc t with
    | .called i =>
      some { obj := (obj s.obj i n).1
             pc := Function.update s.pc t (.done i (obj s.obj i n).2)
             log := s.log ++ [(t, i, (obj s.obj i n).2)] }
    | _ => none
  | .ret t i o =>
    if s.pc t = .done i o then some { s with pc := Function.update s.pc t .idle } else none

variable {obj : σ → ι → ν → σ × ο} {s s' : Atomic σ ι ο θ}

theorem step_call {t : θ} (i : ι) (h : s.pc t = .idle) :
    step obj s (.call t i) = some { s with pc := Function.update s.pc t (.called i) } :=
  if_pos h

theorem step_commit {t : θ} {i : ι} (n : ν) (h : s.pc t = .called i) :
    step obj s (.commit t n) =
      some { obj := (obj s.obj i n).1
             pc := Function.update s.pc t (.done i (obj s.obj i n).2)
             log := s.log ++ [(t, i, (obj s.obj i n).2)] } := by
  simp only [step, h]

theorem step_ret {t : θ} {i : ι} {o : ο} (h : s.pc t = .done i o) :
    step obj s (.ret t i o) = some { s with pc := Function.update s.pc t .idle } :=
  if_pos h

/-- What a step can do. -/
theorem step_cases {a : AtomicAct θ ι ο ν} (h : step obj s a = some s') :
    (∃ t i, a = .call t i ∧ s.pc t = .idle ∧
      s' = { s with pc := Function.update s.pc t (.called i) }) ∨
    (∃ t i n, a = .commit t n ∧ s.pc t = .called i ∧
      s' = { obj := (obj s.obj i n).1
             pc := Function.update s.pc t (.done i (obj s.obj i n).2)
             log := s.log ++ [(t, i, (obj s.obj i n).2)] }) ∨
    (∃ t i o, a = .ret t i o ∧ s.pc t = .done i o ∧
      s' = { s with pc := Function.update s.pc t .idle }) := by
  cases a with
  | call t i =>
    simp only [step] at h
    split at h
    · exact .inl ⟨t, i, rfl, ‹_›, (Option.some.inj h).symm⟩
    · cases h
  | commit t n =>
    simp only [step] at h
    split at h
    · exact .inr (.inl ⟨t, _, n, rfl, ‹_›, (Option.some.inj h).symm⟩)
    · cases h
  | ret t i o =>
    simp only [step] at h
    split at h
    · exact .inr (.inr ⟨t, i, o, rfl, ‹_›, (Option.some.inj h).symm⟩)
    · cases h

end Atomic

section Histories

variable [DecidableEq θ] [DecidableEq ι] [DecidableEq ο]

/-- `h` is what the clients see in some run of the atomic object, and `s` is
where that run ends. -/
def LinearizesTo (obj : σ → ι → ν → σ × ο) (s₀ : σ) (h : List (Event θ ι ο))
    (s : Atomic σ ι ο θ) : Prop :=
  ∃ as, exec (Atomic.step obj) (Atomic.init s₀) as = some s ∧ trace AtomicAct.event as = h

/-- `h` is linearizable. -/
def Linearizable (obj : σ → ι → ν → σ × ο) (s₀ : σ) (h : List (Event θ ι ο)) : Prop :=
  ∃ s, LinearizesTo obj s₀ h s

variable {obj : σ → ι → ν → σ × ο} {s₀ : σ} {s : Atomic σ ι ο θ} {h : List (Event θ ι ο)}

/-- A machine that refines the atomic object has linearizable histories. -/
theorem linearizesTo_of_refines {step : S → α → Option S} {obs : α → List (Event θ ι ο)}
    {G : S → α → Prop} {R : S → Atomic σ ι ο θ → Prop}
    (r : TraceRefines step (Atomic.step obj) obs AtomicAct.event G R) {c c' : S} {as : List α}
    (hR : R c (Atomic.init s₀)) (hG : Along step G c as) (hex : exec step c as = some c') :
    ∃ s, LinearizesTo obj s₀ (trace obs as) s ∧ R c' s := by
  obtain ⟨bs, s, hbs, htr, hR'⟩ := r.exec hR hG hex
  exact ⟨s, ⟨bs, hbs, htr⟩, hR'⟩

/-! ## §3 The log of the commits -/

/-- What can be seen and what was committed, after the same actions: by
induction from the last action on. -/
theorem LinearizesTo.induct {I : List (Event θ ι ο) → Atomic σ ι ο θ → Prop}
    (hinit : I [] (Atomic.init s₀))
    (hcall : ∀ h s t i, I h s → s.pc t = .idle →
      I (h ++ [.call t i]) { s with pc := Function.update s.pc t (.called i) })
    (hcommit : ∀ h s t i n, I h s → s.pc t = .called i →
      I h { obj := (obj s.obj i n).1
            pc := Function.update s.pc t (.done i (obj s.obj i n).2)
            log := s.log ++ [(t, i, (obj s.obj i n).2)] })
    (hret : ∀ h s t i o, I h s → s.pc t = .done i o →
      I (h ++ [.ret t i o]) { s with pc := Function.update s.pc t .idle })
    (hl : LinearizesTo obj s₀ h s) : I h s := by
  obtain ⟨as, hex, htr⟩ := hl
  suffices hrun : ∀ (as : List (AtomicAct θ ι ο ν)) (g : List (Event θ ι ο))
      (u s : Atomic σ ι ο θ), I g u → exec (Atomic.step obj) u as = some s →
      I (g ++ trace AtomicAct.event as) s by
    have := hrun as [] _ s hinit hex
    rwa [List.nil_append, htr] at this
  intro as
  induction as with
  | nil =>
    intro g u s hi hu
    cases hu
    simpa using hi
  | cons a as ih =>
    intro g u s hi hu
    obtain ⟨v, huv, hv⟩ := exec_cons_some hu
    rw [trace_cons, ← List.append_assoc]
    apply ih _ _ _ _ hv
    obtain ⟨t, i, rfl, hpc, rfl⟩ | ⟨t, i, n, rfl, hpc, rfl⟩ | ⟨t, i, o, rfl, hpc, rfl⟩ :=
      Atomic.step_cases huv
    · exact hcall _ _ _ _ hi hpc
    · rw [AtomicAct.event, List.append_nil]
      exact hcommit _ _ _ _ _ hi hpc
    · exact hret _ _ _ _ _ hi hpc

/-- The calls of a history. -/
def calls : List (Event θ ι ο) → List (θ × ι) :=
  List.filterMap fun
    | .call t i => some (t, i)
    | .ret _ _ _ => none

/-- The returns of a history. -/
def returns : List (Event θ ι ο) → List (θ × ι × ο) :=
  List.filterMap fun
    | .call _ _ => none
    | .ret t i o => some (t, i, o)

/-- The operation that the client `t` has committed and not returned from. -/
def ClientPc.answer (t : θ) : ClientPc ι ο → List (θ × ι × ο)
  | .done i o => [(t, i, o)]
  | _ => []

/-- The operation that the client `t` has called and not committed. -/
def ClientPc.waiting (t : θ) : ClientPc ι ο → List (θ × ι)
  | .called i => [(t, i)]
  | _ => []

/-- The commits of `t` are its returns in the same order, and the one about to return. -/
theorem LinearizesTo.log_client (hl : LinearizesTo obj s₀ h s) (t : θ) :
    s.log.filter (·.1 = t) = (returns h).filter (·.1 = t) ++ (s.pc t).answer t := by
  refine LinearizesTo.induct (I := fun h s => s.log.filter (·.1 = t) =
    (returns h).filter (·.1 = t) ++ (s.pc t).answer t) rfl ?_ ?_ ?_ hl
  · intro h s u i ih hpc
    by_cases htu : t = u
    · subst htu
      simpa [returns, hpc, ClientPc.answer] using ih
    · simpa [returns, Function.update_of_ne htu] using ih
  · intro h s u i n ih hpc
    by_cases htu : t = u
    · subst htu
      simp only [hpc, ClientPc.answer, List.append_nil] at ih
      simp [ClientPc.answer, ih]
    · simpa [Function.update_of_ne htu, Ne.symm htu] using ih
  · intro h s u i o ih hpc
    by_cases htu : t = u
    · subst htu
      simp only [hpc, ClientPc.answer] at ih
      simpa [returns, ClientPc.answer] using ih
    · simpa [returns, Function.update_of_ne htu, Ne.symm htu] using ih

/-- The calls of `t` are its commits in the same order, and the one still waiting. -/
theorem LinearizesTo.calls_client (hl : LinearizesTo obj s₀ h s) (t : θ) :
    (calls h).filter (·.1 = t) =
      (s.log.filter (·.1 = t)).map (fun e => (e.1, e.2.1)) ++ (s.pc t).waiting t := by
  refine LinearizesTo.induct (I := fun h s => (calls h).filter (·.1 = t) =
    (s.log.filter (·.1 = t)).map (fun e => (e.1, e.2.1)) ++ (s.pc t).waiting t) rfl ?_ ?_ ?_ hl
  · intro h s u i ih hpc
    by_cases htu : t = u
    · subst htu
      simp only [hpc, ClientPc.waiting, List.append_nil] at ih
      simpa [calls, ClientPc.waiting] using ih
    · simpa [calls, Function.update_of_ne htu, Ne.symm htu] using ih
  · intro h s u i n ih hpc
    by_cases htu : t = u
    · subst htu
      simp only [hpc, ClientPc.waiting] at ih
      simp [ClientPc.waiting, ih]
    · simpa [Function.update_of_ne htu, Ne.symm htu] using ih
  · intro h s u i o ih hpc
    by_cases htu : t = u
    · subst htu
      simpa [calls, hpc, ClientPc.waiting] using ih
    · simpa [calls, Function.update_of_ne htu] using ih

/-- What has returned was committed, as often. -/
theorem LinearizesTo.returns_subperm (hl : LinearizesTo obj s₀ h s) :
    (returns h).Subperm s.log := by
  rw [List.subperm_ext_iff]
  rintro ⟨t, i, o⟩ -
  have hlog : s.log.count (t, i, o) = (s.log.filter (·.1 = t)).count (t, i, o) :=
    (List.count_filter (by simp)).symm
  have hret : (returns h).count (t, i, o) = ((returns h).filter (·.1 = t)).count (t, i, o) :=
    (List.count_filter (by simp)).symm
  rw [hlog, hret, hl.log_client t, List.count_append]
  exact Nat.le_add_right _ _

/-- What was committed had been called, as often. -/
theorem LinearizesTo.calls_subperm (hl : LinearizesTo obj s₀ h s) :
    (s.log.map fun e => (e.1, e.2.1)).Subperm (calls h) := by
  rw [List.subperm_ext_iff]
  rintro ⟨t, i⟩ -
  have hlog : (s.log.map fun e => (e.1, e.2.1)).count (t, i) =
      ((s.log.filter (·.1 = t)).map fun e => (e.1, e.2.1)).count (t, i) := by
    have hcount := List.count_filter (l := s.log.map fun e => (e.1, e.2.1)) (a := (t, i))
      (p := (·.1 = t)) (by simp)
    rw [← hcount, List.filter_map]
    rfl
  have hcall : (calls h).count (t, i) = ((calls h).filter (·.1 = t)).count (t, i) :=
    (List.count_filter (by simp)).symm
  rw [hlog, hcall, hl.calls_client t, List.count_append]
  exact Nat.le_add_right _ _

end Histories

end HpscRtems.Machine
