/-
HpscRtems.Machine.Rank — runs that come to an end, over any machine.

`Inevitable step G n P s` says that every run along `G` from `s` has at most
`n` steps, and that `P` holds wherever such a run cannot be continued. It is
the liveness counterpart of an invariant, without fairness: the rule
`inevitable_of_rank` asks for a rank that every step lowers, and for `P` in
the states that are left. Where the rank is a sum over the parties,
`sum_weight_update` says what the step of one of them does to it.
-/
import Mathlib.Algebra.BigOperators.Fin
import HpscRtems.Machine.Run

namespace HpscRtems.Machine

variable {σ α : Type*} {step : σ → α → Option σ} {G : σ → α → Prop} {I P : σ → Prop}

/-- No action that meets `G` is enabled. -/
def AtRest (step : σ → α → Option σ) (G : σ → α → Prop) (s : σ) : Prop :=
  ∀ a, G s a → step s a = none

/-- Every run along `G` has at most `n` steps, and ends in `P` where it
cannot be continued. -/
def Inevitable (step : σ → α → Option σ) (G : σ → α → Prop) (n : Nat) (P : σ → Prop)
    (s : σ) : Prop :=
  ∀ as t, Along step G s as → exec step s as = some t →
    as.length ≤ n ∧ (AtRest step G t → P t)

/-- A run lowers a rank that every step lowers by its length at least. -/
theorem exec_length_add_rank_le {rank : σ → Nat}
    (hstep : ∀ s a s', I s → G s a → step s a = some s' → I s')
    (hrank : ∀ s a s', I s → G s a → step s a = some s' → rank s' < rank s) {s t : σ}
    {as : List α} (hs : I s) (hG : Along step G s as) (h : exec step s as = some t) :
    as.length + rank t ≤ rank s := by
  induction as generalizing s with
  | nil =>
    cases h
    simp
  | cons a as ih =>
    obtain ⟨u, hsu, hu⟩ := exec_cons_some h
    have hlt := hrank _ _ _ hs hG.1 hsu
    have hle := ih (hstep _ _ _ hs hG.1 hsu) (hG.2 u hsu) hu
    simp only [List.length_cons]
    omega

/-- **Rank rule.** -/
theorem inevitable_of_rank {rank : σ → Nat} {n : Nat}
    (hstep : ∀ s a s', I s → G s a → step s a = some s' → I s')
    (hrank : ∀ s a s', I s → G s a → step s a = some s' → rank s' < rank s)
    (hrest : ∀ s, I s → AtRest step G s → P s) {s : σ} (hs : I s) (hn : rank s ≤ n) :
    Inevitable step G n P s := by
  intro as t hG h
  have hle := exec_length_add_rank_le hstep hrank hs hG h
  refine ⟨by omega, hrest t (exec_invariant hstep hs hG h)⟩

/-- One party goes on: the sum loses its old weight and gains its new one. -/
theorem sum_weight_update {ι π : Type*} [Fintype ι] [DecidableEq ι] (w : π → Nat) (f : ι → π)
    (i : ι) (x : π) :
    ∑ j, w (Function.update f i x j) + w (f i) = ∑ j, w (f j) + w x := by
  have hcomp : (fun j => w (Function.update f i x j)) =
      Function.update (fun j => w (f j)) i (w x) := Function.comp_update w f i x
  have hnew := Finset.sum_update_of_mem (Finset.mem_univ i) (fun j => w (f j)) (w x)
  have hold := Finset.add_sum_erase Finset.univ (fun j => w (f j)) (Finset.mem_univ i)
  rw [Finset.sdiff_singleton_eq_erase] at hnew
  rw [hcomp, hnew]
  omega

end HpscRtems.Machine
