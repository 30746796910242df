/-
HpscRtems.Machine.Run — runs of partial labelled machines and of Mealy
machines, over arbitrary states and labels.

A machine is a function `step : σ → α → Option σ`; `none` says that the
action is not enabled. `exec` runs a list of actions, `Along step G s as`
says that every step of the run from `s` meets the condition `G` on the
state BEFORE the step and the action taken. Two rules carry every
induction over runs of this development:

  `exec_invariant`   an invariant kept by every step that meets `G` holds
                     after every run along which `G` holds;
  `along_of_inv`     a property of single steps that the invariant gives
                     holds along the whole run.

`Refines` is the forward simulation between two machines in which one
concrete step is answered by any number of abstract steps, and
`Refines.exec` lifts it to runs.

§3 has the total variant with outputs, `σ → ι → σ × ο`, for components
whose every operation answers: `outputs_eq_iff` compares the outputs of
two such machines along a run.
-/
import Mathlib.Logic.Basic
import Mathlib.Data.List.Basic

namespace HpscRtems.Machine

variable {σ τ α β ι ο : Type*}

/-! ## §1 Runs and conditions along runs -/

/-- The state after the actions `as`, or `none` when one of them is not
enabled where its turn comes. -/
def exec (step : σ → α → Option σ) : σ → List α → Option σ
  | s, [] => some s
  | s, a :: as =>
    match step s a with
    | none => none
    | some s' => exec step s' as

/-- Every step of the run of `as` from `s` meets `G`. -/
def Along (step : σ → α → Option σ) (G : σ → α → Prop) : σ → List α → Prop
  | _, [] => True
  | s, a :: as => G s a ∧ ∀ s', step s a = some s' → Along step G s' as

/-- Whether a condition holds along a run can be computed. -/
instance Along.instDecidable (step : σ → α → Option σ) (G : σ → α → Prop)
    [∀ s a, Decidable (G s a)] : ∀ s as, Decidable (Along step G s as)
  | _, [] => isTrue trivial
  | s, a :: as =>
    have : Decidable (∀ s', step s a = some s' → Along step G s' as) :=
      match h : step s a with
      | none => isTrue (by simp)
      | some t =>
        have := Along.instDecidable step G t as
        decidable_of_iff (Along step G t as) (by simp)
    inferInstanceAs (Decidable (_ ∧ _))

section Runs

variable {step : σ → α → Option σ} {G H : σ → α → Prop} {I : σ → Prop}

@[simp] theorem exec_nil (s : σ) : exec step s [] = some s := rfl

theorem exec_cons {s s' : σ} {a : α} (as : List α) (h : step s a = some s') :
    exec step s (a :: as) = exec step s' as := by
  simp [exec, h]

/-- A run that starts with `a` takes an enabled step and goes on. -/
theorem exec_cons_some {s s'' : σ} {a : α} {as : List α}
    (h : exec step s (a :: as) = some s'') :
    ∃ s', step s a = some s' ∧ exec step s' as = some s'' := by
  simp only [exec] at h
  split at h
  · cases h
  · exact ⟨_, ‹_›, h⟩

theorem exec_append {s s' : σ} {as : List α} (bs : List α) (h : exec step s as = some s') :
    exec step s (as ++ bs) = exec step s' bs := by
  induction as generalizing s with
  | nil => cases h; rfl
  | cons a as ih =>
    obtain ⟨t, hst, ht⟩ := exec_cons_some h
    rw [List.cons_append, exec_cons _ hst, ih ht]

/-- Along a longer run the condition holds up to any state on the way,
and from there on. -/
theorem along_append {s s' : σ} {as bs : List α} (h : exec step s as = some s') :
    Along step G s (as ++ bs) ↔ Along step G s as ∧ Along step G s' bs := by
  induction as generalizing s with
  | nil => cases h; simp [Along]
  | cons a as ih =>
    obtain ⟨t, hst, ht⟩ := exec_cons_some h
    have ih' := ih ht
    constructor
    · intro hk
      obtain ⟨hg, hrest⟩ := hk
      have := ih'.mp (hrest t hst)
      refine ⟨⟨hg, fun u hu => ?_⟩, this.2⟩
      rw [hst] at hu
      cases hu
      exact this.1
    · rintro ⟨⟨hg, hrest⟩, hbs⟩
      refine ⟨hg, fun u hu => ?_⟩
      rw [hst] at hu
      cases hu
      exact ih'.mpr ⟨hrest t hst, hbs⟩

/-- Two conditions along a run are one. -/
theorem along_and {P : σ → α → Prop} (hG : ∀ s a, G s a → H s a → P s a) {s : σ} {as : List α}
    (h : Along step G s as) (h' : Along step H s as) : Along step P s as := by
  induction as generalizing s with
  | nil => trivial
  | cons a as ih => exact ⟨hG _ _ h.1 h'.1, fun t ht => ih (h.2 t ht) (h'.2 t ht)⟩

/-- A condition that the actions meet in every state. -/
theorem along_of_forall {as : List α} (h : ∀ a ∈ as, ∀ s, G s a) (s : σ) : Along step G s as := by
  induction as generalizing s with
  | nil => trivial
  | cons a as ih =>
    refine ⟨h a (List.mem_cons_self ..) s, fun t _ => ih (fun b hb => ?_) t⟩
    exact h b (List.mem_cons_of_mem _ hb)

/-! ## §2 Invariants and simulation -/

/-- **Run rule.** What every step meeting `G` keeps, every run along `G` keeps. -/
theorem exec_invariant (hstep : ∀ s a s', I s → G s a → step s a = some s' → I s')
    {s s' : σ} {as : List α} (hs : I s) (hG : Along step G s as)
    (h : exec step s as = some s') : I s' := by
  induction as generalizing s with
  | nil => cases h; exact hs
  | cons a as ih =>
    obtain ⟨t, hst, ht⟩ := exec_cons_some h
    exact ih (hstep _ _ _ hs hG.1 hst) (hG.2 t hst) ht

/-- The run rule without a condition on the steps. -/
theorem exec_invariant' (hstep : ∀ s a s', I s → step s a = some s' → I s')
    {s s' : σ} {as : List α} (hs : I s) (h : exec step s as = some s') : I s' := by
  induction as generalizing s with
  | nil => cases h; exact hs
  | cons a as ih =>
    obtain ⟨t, hst, ht⟩ := exec_cons_some h
    exact ih (hstep _ _ _ hs hst) ht

/-- What the invariant gives for a single step holds at every step of a run. -/
theorem along_of_inv (hstep : ∀ s a s', I s → G s a → step s a = some s' → I s')
    (hH : ∀ s a, I s → G s a → H s a) {s : σ} {as : List α} (hs : I s)
    (hG : Along step G s as) : Along step H s as := by
  induction as generalizing s with
  | nil => trivial
  | cons a as ih =>
    exact ⟨hH _ _ hs hG.1, fun s' hs' => ih (hstep _ _ _ hs hG.1 hs') (hG.2 s' hs')⟩

/-- If each step that breaks `G` leads to `D`, which then stays, a run that
does not end in `D` meets `G` all along. -/
theorem along_of_exec {D : σ → Prop} (hstep : ∀ s a s', I s → step s a = some s' → I s')
    (hbad : ∀ s a s', I s → step s a = some s' → ¬ G s a → D s')
    (hD : ∀ s a s', I s → D s → step s a = some s' → D s') {s t : σ} {as : List α}
    (hs : I s) (h : exec step s as = some t) (ht : ¬ D t) : Along step G s as := by
  induction as generalizing s with
  | nil => trivial
  | cons a as ih =>
    obtain ⟨u, hsu, hu⟩ := exec_cons_some h
    have hu' := hstep _ _ _ hs hsu
    refine ⟨?_, fun v hv => ?_⟩
    · by_contra hG
      have hDI : I t ∧ D t := exec_invariant' (I := fun s => I s ∧ D s)
        (fun _ _ _ hi h => ⟨hstep _ _ _ hi.1 h, hD _ _ _ hi.1 hi.2 h⟩)
        ⟨hu', hbad _ _ _ hs hsu hG⟩ hu
      exact ht hDI.2
    · rw [hsu] at hv
      cases hv
      exact ih hu' hu

/-- A forward simulation: related states stay related when the concrete
machine takes a step meeting `G` and the abstract one answers with the
actions `ans`. -/
structure Refines (step : σ → α → Option σ) (stepA : τ → β → Option τ)
    (G : σ → α → Prop) (R : σ → τ → Prop) : Prop where
  sim : ∀ {s a s' t}, R s t → G s a → step s a = some s' →
    ∃ ans t', exec stepA t ans = some t' ∧ R s' t'

/-- Every concrete run along `G` is answered by an abstract run that ends
in a related state. -/
theorem Refines.exec {stepA : τ → β → Option τ} {R : σ → τ → Prop}
    (r : Refines step stepA G R) {s s' : σ} {t : τ} {as : List α} (hR : R s t)
    (hG : Along step G s as) (h : Machine.exec step s as = some s') :
    ∃ bs t', Machine.exec stepA t bs = some t' ∧ R s' t' := by
  induction as generalizing s t with
  | nil => cases h; exact ⟨[], t, rfl, hR⟩
  | cons a as ih =>
    obtain ⟨u, hsu, hu⟩ := exec_cons_some h
    obtain ⟨ans, t', hans, hR'⟩ := r.sim hR hG.1 hsu
    obtain ⟨bs, t'', hbs, hR''⟩ := ih hR' (hG.2 u hsu) hu
    exact ⟨ans ++ bs, t'', by rw [exec_append _ hans]; exact hbs, hR''⟩

end Runs

/-! ## §3 Machines with outputs -/

/-- The outputs of a total machine on a list of inputs. -/
def outputs (step : σ → ι → σ × ο) : σ → List ι → List ο
  | _, [] => []
  | s, i :: is => (step s i).2 :: outputs step (step s i).1 is

/-- The state of a total machine after a list of inputs. -/
def final (step : σ → ι → σ × ο) : σ → List ι → σ
  | s, [] => s
  | s, i :: is => final step (step s i).1 is

/-- Every input meets `G` in the state it arrives in. -/
def Inputs (step : σ → ι → σ × ο) (G : σ → ι → Prop) : σ → List ι → Prop
  | _, [] => True
  | s, i :: is => G s i ∧ Inputs step G (step s i).1 is

/-- Two machines whose related states answer alike exactly on the inputs
that meet `G`, and stay related there, give the same outputs exactly on
the runs all of whose inputs meet `G`. -/
theorem outputs_eq_iff {stepC : σ → ι → σ × ο} {stepA : τ → ι → τ × ο}
    {G : σ → ι → Prop} {R : σ → τ → Prop}
    (hout : ∀ {s t i}, R s t → ((stepC s i).2 = (stepA t i).2 ↔ G s i))
    (hrel : ∀ {s t i}, R s t → G s i → R (stepC s i).1 (stepA t i).1)
    {s : σ} {t : τ} (h : R s t) (is : List ι) :
    outputs stepC s is = outputs stepA t is ↔ Inputs stepC G s is := by
  induction is generalizing s t with
  | nil => simp [outputs, Inputs]
  | cons i is ih =>
    simp only [outputs, Inputs, List.cons.injEq]
    constructor
    · intro hk
      obtain ⟨ho, hrest⟩ := hk
      have hg := (hout h).mp ho
      exact ⟨hg, (ih (hrel h hg)).mp hrest⟩
    · intro hk
      obtain ⟨hg, hrest⟩ := hk
      exact ⟨(hout h).mpr hg, (ih (hrel h hg)).mpr hrest⟩

/-- Along such a run the final states are related too. -/
theorem final_related {stepC : σ → ι → σ × ο} {stepA : τ → ι → τ × ο}
    {G : σ → ι → Prop} {R : σ → τ → Prop}
    (hrel : ∀ {s t i}, R s t → G s i → R (stepC s i).1 (stepA t i).1)
    {s : σ} {t : τ} (h : R s t) {is : List ι} (hG : Inputs stepC G s is) :
    R (final stepC s is) (final stepA t is) := by
  induction is generalizing s t with
  | nil => exact h
  | cons i is ih => exact ih (hrel h hG.1) hG.2

/-- The run rule for machines with outputs. -/
theorem final_invariant {step : σ → ι → σ × ο} {G : σ → ι → Prop} {I : σ → Prop}
    (hstep : ∀ s i, I s → G s i → I (step s i).1) {s : σ} (hs : I s) {is : List ι}
    (hG : Inputs step G s is) : I (final step s is) := by
  induction is generalizing s with
  | nil => exact hs
  | cons i is ih => exact ih (hstep s i hs hG.1) hG.2

end HpscRtems.Machine
