/-
HpscRtems.Link.StoreHistoryTheorems — what the callers of the link store see.

  §1 every step is nothing to the list of links, or the whole of one call,
     so that the store is linearizable as long as no node is freed under a
     `link_store_get`;
  §2 no link is extracted more often than it was appended;
  §3 a task that drains the store gets its links in the order they were
     appended, and then `NULL`.
-/
import HpscRtems.Link.StoreTheorems

namespace HpscRtems.LinkStore

open Rtems Machine

variable {θ L : Type} {nm : L → Option String} {s s' : Store θ L}

/-! ## §1 One list of links -/

/-- The links of the nodes of the chain. -/
def Holds (heap : Block → Option L) (chain : List Block) (links : List L) : Prop :=
  chain.map heap = links.map some

theorem Holds.split {heap : Block → Option L} {pre post : List Block} {p : Block}
    {links : List L} (h : Holds heap (pre ++ p :: post) links) :
    ∃ lpre l lpost, links = lpre ++ l :: lpost ∧ Holds heap pre lpre ∧ heap p = some l ∧
      Holds heap post lpost := by
  rw [Holds, List.map_append, List.map_cons, eq_comm, List.map_eq_append_iff] at h
  obtain ⟨lpre, rest, rfl, hpre, hrest⟩ := h
  obtain ⟨l, lpost, rfl, hl, hpost⟩ := List.map_eq_cons_iff.mp hrest
  exact ⟨lpre, l, lpost, rfl, hpre.symm, hl.symm, hpost.symm⟩

theorem Holds.append {heap : Block → Option L} {pre post : List Block} {lpre lpost : List L}
    (h : Holds heap pre lpre) (h' : Holds heap post lpost) :
    Holds heap (pre ++ post) (lpre ++ lpost) := by
  rw [Holds, List.map_append, List.map_append, h, h']

theorem Holds.congr {heap heap' : Block → Option L} {chain : List Block} {links : List L}
    (h : Holds heap chain links) (hh : ∀ p ∈ chain, heap' p = heap p) :
    Holds heap' chain links := by
  rw [Holds, List.map_congr_left hh, h]

/-- No link before the node has the name. -/
theorem Holds.unnamed {heap : Block → Option L} {nodes : List Block} {links : List L}
    {name : Option String} (h : Holds heap nodes links) (hu : Unnamed nm heap name nodes) :
    ∀ l ∈ links, nm l ≠ name := by
  intro l hl
  have : some l ∈ nodes.map heap := by
    rw [h]
    exact List.mem_map_of_mem hl
  obtain ⟨q, hq, hql⟩ := List.mem_map.mp this
  exact hu q hq l hql

section Find

variable {links lpre lpost : List L} {l : L} {name : Option String}

theorem find_none (h : ∀ l ∈ links, nm l ≠ name) : links.find? (nm · = name) = none := by
  simpa using h

theorem eraseP_none (h : ∀ l ∈ links, nm l ≠ name) : links.eraseP (nm · = name) = links :=
  List.eraseP_of_forall_not (by simpa using h)

theorem find_split (h : ∀ l ∈ lpre, nm l ≠ name) (hl : nm l = name) :
    (lpre ++ l :: lpost).find? (nm · = name) = some l := by
  rw [List.find?_append, find_none h]
  simp [hl]

theorem eraseP_split (h : ∀ l ∈ lpre, nm l ≠ name) (hl : nm l = name) :
    (lpre ++ l :: lpost).eraseP (nm · = name) = lpre ++ lpost := by
  rw [List.eraseP_append_right _ (by simpa using h)]
  simp [hl]

theorem any_none (h : ∀ l ∈ links, nm l ≠ name) : links.any (nm · = name) = false := by
  simpa using h

theorem any_split (hl : nm l = name) : (lpre ++ l :: lpost).any (nm · = name) = true := by
  simp [hl]

/-- A found element and the rest. -/
theorem perm_cons_eraseP {p : L → Bool} (h : links.find? p = some l) :
    links.Perm (l :: links.eraseP p) := by
  obtain ⟨hx, pre, post, rfl, hpre⟩ := List.find?_eq_some_iff_append.mp h
  have hnone : ∀ y ∈ pre, ¬ p y = true := fun y hy => by simpa using hpre y hy
  rw [List.eraseP_append_right _ hnone, List.eraseP_cons_of_pos hx]
  exact List.perm_middle

end Find

/-- What a task past its critical section is going to return. -/
def After.client (heap : Block → Option L) : After L → ClientPc (Call L) (Result L)
  | .ret c r => .done c r
  | .getNode name p => .done (.get name) (.link (heap p))
  | .firstNode p => .done .extractFirst (.link (heap p))

/-- A call counts as done from the step on that reads the answer off the
chain, or changes it. -/
def Pc.client (heap : Block → Option L) : Pc L → ClientPc (Call L) (Result L)
  | .idle | .fault _ => .idle
  | .enter c => .called c
  | .appendLock link _ | .appendChain link _ => .called (.append link)
  | .walk f name _ => .called (f.call name)
  | .take name _ => .called (.extract name)
  | .takeFree name _ link => .done (.extract name) (.link (some link))
  | .empty => .called .isEmpty
  | .first => .called .extractFirst
  | .unlock k | .after k => k.client heap
  | .firstFree _ link => .done .extractFirst (.link (some link))

theorem Pc.client_congr {heap heap' : Block → Option L} {pc : Pc L}
    (h : ∀ p, pc.held = some p ∨ pc.owns = some p → heap' p = heap p) :
    pc.client heap' = pc.client heap := by
  cases pc with
  | unlock k | after k =>
    cases k with
    | ret c r => rfl
    | getNode name p => simp [Pc.client, After.client, h p (.inl rfl)]
    | firstNode p => simp [Pc.client, After.client, h p (.inr rfl)]
  | _ => rfl

/-- What the step of `t` is to the list `links`: nothing, or the whole of a call. -/
def Answers (nm : L → Option String) (s s' : Store θ L) (t : θ) (links : List L) : Prop :=
  ((s'.pc t).client s'.heap = (s.pc t).client s.heap ∧ Holds s'.heap s'.chain links) ∨
    ∃ c n, (s.pc t).client s.heap = .called c ∧
      (s'.pc t).client s'.heap = .done c (fifo nm links c n).2 ∧
      Holds s'.heap s'.chain (fifo nm links c n).1

/-- A step outside the chain is nothing to the list. -/
theorem Answers.silent {t : θ} {pc : Pc L} {links : List L} (hpc : s'.pc t = pc)
    (hclient : pc.client s'.heap = (s.pc t).client s.heap)
    (hh : Holds s'.heap s'.chain links) : Answers nm s s' t links :=
  .inl ⟨hpc ▸ hclient, hh⟩

variable [DecidableEq θ]

theorem walk_answers {t : θ} {f : Search} {name : Option String} {node : Option Block}
    {links : List L} (hi : Inv nm s) (hh : Holds s.heap s.chain links)
    (hpc : s.pc t = .walk f name node) : Answers nm s (walkStep nm s t f name node) t links := by
  have hfound := hi.found t
  rw [hpc] at hfound
  match node with
  | none =>
    have hnone := hh.unnamed hfound
    cases f with
    | contains =>
      refine .inr ⟨.contains name, true, by rw [hpc]; rfl, ?_, hh⟩
      simp [walkStep, notFound, Store.goto, Pc.client, After.client, fifo, any_none hnone]
    | get =>
      refine .inr ⟨.get name, true, by rw [hpc]; rfl, ?_, hh⟩
      simp [walkStep, notFound, Store.goto, Pc.client, After.client, fifo, find_none hnone]
    | extract =>
      refine .inr ⟨.extract name, true, by rw [hpc]; rfl, ?_, ?_⟩
      · simp [walkStep, notFound, Store.goto, Pc.client, After.client, fifo, find_none hnone]
      · simp only [fifo, eraseP_none hnone]
        exact hh
  | some p =>
    obtain ⟨pre, post, hc, hu⟩ := hfound
    have hsplit := hh
    rw [hc] at hsplit
    obtain ⟨lpre, link, lpost, hlinks, hlpre, hlink, -⟩ := hsplit.split
    have hunnamed := hlpre.unnamed hu
    simp only [walkStep, hlink]
    split
    · rename_i hm
      rw [nameMatches_iff] at hm
      cases f with
      | contains =>
        refine .inr ⟨.contains name, true, by rw [hpc]; rfl, ?_, hh⟩
        simp only [found, Store.goto, Function.update_self, Pc.client, After.client, fifo, hlinks,
          any_split hm]
      | get =>
        refine .inr ⟨.get name, true, by rw [hpc]; rfl, ?_, hh⟩
        simp only [found, Store.goto, Function.update_self, Pc.client, After.client, fifo, hlinks,
          find_split hunnamed hm, hlink]
      | extract => exact .silent (Function.update_self ..) (by rw [hpc]; rfl) hh
    · exact .silent (Function.update_self ..) (by rw [hpc]; rfl) hh

/-- **Step lemma.** Every step is nothing to the list of links, or the
whole of one call. -/
theorem run_answers {t : θ} {ok : Bool} {links : List L} (hi : Inv nm s) (hd : Sound s)
    (hh : Holds s.heap s.chain links) (h : runStep nm s t ok (s.pc t) = some s') :
    Answers nm s s' t links := by
  have hfound := hi.found t
  have howned := hi.owned t
  have hcarried := hi.carried t
  cases hpc : s.pc t with
  | idle | fault c =>
    rw [hpc] at h
    cases h
  | enter c =>
    rw [hpc] at h
    cases c with
    | append link =>
      cases h
      cases ok with
      | true =>
        have hold : ∀ p ∈ s.chain, (s.malloc link).heap p = s.heap p := fun p hp =>
          Function.update_of_ne (Nat.ne_of_lt (hi.bound p (hi.live p hp))) _ _
        exact .silent (Function.update_self ..) (by rw [hpc]; rfl) (hh.congr hold)
      | false =>
        refine .inr ⟨.append link, false, by rw [hpc]; rfl, ?_, hh⟩
        simp [appendStep, Store.goto, Pc.client, After.client, fifo]
    | contains name | get name | extract name | isEmpty | extractFirst =>
      obtain ⟨-, rfl⟩ := lock_eq_some h
      exact .silent (Function.update_self ..) (by rw [hpc]; rfl) hh
  | appendLock link p =>
    rw [hpc] at h
    obtain ⟨-, rfl⟩ := lock_eq_some h
    exact .silent (Function.update_self ..) (by rw [hpc]; rfl) hh
  | appendChain link p =>
    rw [hpc] at h hcarried
    cases h
    refine .inr ⟨.append link, true, by rw [hpc]; rfl, ?_, ?_⟩
    · simp [Store.goto, Pc.client, After.client, fifo]
    · have hp : Holds s.heap [p] [link] := by simp [Holds, hcarried p link rfl rfl]
      exact hh.append hp
  | walk f name node =>
    rw [hpc] at h
    cases h
    exact walk_answers hi hh hpc
  | take name p =>
    rw [hpc] at h hfound
    obtain ⟨pre, post, link, hc, hu, hlink, hm⟩ := hfound
    simp only [runStep, hlink, Option.some.injEq] at h
    subst h
    have hnodup := hi.nodup
    have hsplit := hh
    rw [hc] at hsplit hnodup
    obtain ⟨lpre, l, lpost, hlinks, hlpre, hl, hlpost⟩ := hsplit.split
    rw [hlink] at hl
    cases hl
    have hunnamed := hlpre.unnamed hu
    refine .inr ⟨.extract name, true, by rw [hpc]; rfl, ?_, ?_⟩
    · simp only [Store.goto, Function.update_self, Pc.client, fifo, hlinks, find_split hunnamed hm]
    · simp only [Store.goto, fifo, hlinks, eraseP_split hunnamed hm, hc, erase_split hnodup]
      exact hlpre.append hlpost
  | takeFree name p link | firstFree p link =>
    rw [hpc] at h howned
    obtain ⟨hpc', hlive⟩ := howned p rfl
    obtain ⟨l, hlink⟩ := Option.isSome_iff_exists.mp hlive
    simp only [runStep, hlink, Option.some.injEq] at h
    subst h
    have hkeep : ∀ q ∈ s.chain, (s.free p).heap q = s.heap q := fun q hq =>
      Function.update_of_ne (fun he : q = p => hpc' (he ▸ hq)) _ _
    exact .silent (Function.update_self ..) (by rw [hpc]; rfl) (hh.congr hkeep)
  | empty =>
    rw [hpc] at h
    cases h
    refine .inr ⟨.isEmpty, true, by rw [hpc]; rfl, ?_, hh⟩
    have hnil : s.chain.isEmpty = links.isEmpty := by
      have := congrArg List.isEmpty hh
      simpa using this
    simp [Store.goto, Pc.client, After.client, fifo, hnil]
  | first =>
    rw [hpc] at h
    cases hc : s.chain with
    | nil =>
      simp only [runStep, hc, Option.some.injEq] at h
      subst h
      have hnil : links = [] := by simpa [Holds, hc] using hh
      subst hnil
      refine .inr ⟨.extractFirst, true, by rw [hpc]; rfl, ?_, hh⟩
      simp [Store.goto, Pc.client, After.client, fifo]
    | cons p ps =>
      simp only [runStep, hc, Option.some.injEq] at h
      subst h
      have hsplit : Holds s.heap ([] ++ p :: ps) links := by rwa [hc] at hh
      obtain ⟨lpre, l, lpost, rfl, hlpre, hl, hlpost⟩ := hsplit.split
      have hnil : lpre = [] := List.map_eq_nil_iff.mp hlpre.symm
      subst hnil
      refine .inr ⟨.extractFirst, true, by rw [hpc]; rfl, ?_, hlpost⟩
      simp [Store.goto, Pc.client, After.client, fifo, hl]
  | unlock k =>
    rw [hpc] at h
    cases h
    exact .silent (Function.update_self ..) (by rw [hpc]; rfl) hh
  | after k =>
    rw [hpc] at h howned
    cases k with
    | ret c r => cases h
    | getNode name p =>
      obtain ⟨l, hlink⟩ := Option.isSome_iff_exists.mp (hd.heldLive t p (by rw [hpc]; rfl))
      simp only [runStep, hlink, Option.some.injEq] at h
      subst h
      refine .silent (Function.update_self ..) ?_ hh
      rw [hpc]
      simp [Pc.client, After.client, hlink]
    | firstNode p =>
      obtain ⟨l, hlink⟩ := Option.isSome_iff_exists.mp (howned p rfl).2
      simp only [runStep, hlink, Option.some.injEq] at h
      subst h
      refine .silent (Function.update_self ..) ?_ hh
      rw [hpc]
      simp [Pc.client, After.client, hlink]

/-- The store is the list, and every task is where its client is. -/
structure Sim (nm : L → Option String) (s : Store θ L)
    (a : Atomic (List L) (Call L) (Result L) θ) : Prop where
  inv : Inv nm s
  sound : Sound s
  pc : ∀ t, a.pc t = (s.pc t).client s.heap
  links : Holds s.heap s.chain a.obj

omit [DecidableEq θ] in
theorem sim_init : Sim nm (Store.init : Store θ L) (Atomic.init []) where
  inv := inv_init
  sound := sound_init
  pc _ := rfl
  links := rfl

variable [DecidableEq L]

theorem Sim.others {a : Atomic (List L) (Call L) (Result L) θ} {act : Act θ L} (hs : Sim nm s a)
    (hk : KeepsHeld s act) (h : step nm s act = some s') {u : θ} (hu : u ≠ act.task) :
    (s'.pc u).client s'.heap = a.pc u := by
  obtain ⟨pc, he, hfrees⟩ := hs.inv.step_effect h
  rw [he.moves, Function.update_of_ne hu, hs.pc u]
  apply Pc.client_congr
  rintro p (hp | hp)
  · exact he.keeps p (hs.sound.heldLive u p hp) fun hf => hk p (hfrees.trans hf) u hp
  · refine he.keeps p (hs.inv.owned u p hp).2 fun hf => hu ?_
    exact hs.inv.distinct _ _ p hp (Pc.owns_of_frees hf)

theorem sim_refines : TraceRefines (step nm) (Atomic.step (fifo nm)) Act.event
    AtomicAct.event KeepsHeld (Sim (θ := θ) nm) where
  sim := by
    intro s act s' a hs hk h
    have hinv := inv_step hs.inv h
    have hsound := hs.sound.step hs.inv hk h
    have hothers := fun u hu => hs.others (u := u) hk h hu
    obtain ⟨t, c, rfl, hpc, rfl⟩ | ⟨t, ok, rfl, hrun⟩ | ⟨t, c, r, rfl, hpc, rfl⟩ := step_cases h
    · have hidle : a.pc t = .idle := by rw [hs.pc, hpc]; rfl
      refine ⟨[.call t c], _, exec_cons _ (Atomic.step_call c hidle), rfl, hinv, hsound, ?_,
        hs.links⟩
      intro u
      by_cases hut : u = t
      · subst hut
        simp [Store.goto, Pc.client]
      · rw [hothers u hut]
        exact Function.update_of_ne hut _ _
    · obtain ⟨hclient, hh⟩ | ⟨c, n, hcalled, hdone, hh⟩ := run_answers hs.inv hs.sound hs.links hrun
      · refine ⟨[], a, rfl, rfl, hinv, hsound, ?_, hh⟩
        intro u
        by_cases hut : u = t
        · subst hut
          rw [hclient, hs.pc]
        · exact (hothers u hut).symm
      · have hc : a.pc t = .called c := by rw [hs.pc, hcalled]
        refine ⟨[.commit t n], _, exec_cons _ (Atomic.step_commit n hc), rfl, hinv, hsound, ?_, hh⟩
        intro u
        by_cases hut : u = t
        · subst hut
          rw [hdone]
          exact Function.update_self ..
        · rw [hothers u hut]
          exact Function.update_of_ne hut _ _
    · have hdone : a.pc t = .done c r := by rw [hs.pc, hpc]; rfl
      refine ⟨[.ret t c r], _, exec_cons _ (Atomic.step_ret hdone), rfl, hinv, hsound, ?_, hs.links⟩
      intro u
      by_cases hut : u = t
      · subst hut
        simp [Store.goto, Pc.client]
      · rw [hothers u hut]
        exact Function.update_of_ne hut _ _

/-- A run without a use of a freed node, and a run of the list. -/
theorem exec_linearizes {as : List (Act θ L)} {s : Store θ L}
    (hk : Along (step nm) KeepsHeld Store.init as) (h : exec (step nm) Store.init as = some s) :
    ∃ a, LinearizesTo (fifo nm) [] (trace Act.event as) a ∧ Sim nm s a :=
  linearizesTo_of_refines sim_refines sim_init hk h

/-- **Linearizability.** As long as no node is freed under a
`link_store_get`, every run of any number of tasks can be taken to be a
sequence of whole calls on one list of links: append at the end, find and
extract the first of the name, extract the first. -/
theorem store_linearizable (nm : L → Option String) (as : List (Act θ L)) (s : Store θ L)
    (hk : Along (step nm) KeepsHeld Store.init as) (h : exec (step nm) Store.init as = some s) :
    Linearizable (fifo nm) [] (trace Act.event as) :=
  let ⟨a, ha, _⟩ := exec_linearizes hk h
  ⟨a, ha⟩

/-- One task searches while the other appends. -/
def searchRun : List (Act Bool Bool) :=
  [.call true (.append true), .run true true, .call false (.get none), .run false true,
    .run false true, .run false true, .run true true, .run true true, .run true true,
    .ret false (.get none) (.link none), .ret true (.append true) (.status .successful)]

theorem searchRun_linearizable :
    Linearizable (fifo twoNames) [] (trace Act.event searchRun) :=
  store_linearizable twoNames searchRun _ (by decide) rfl

/-! ## §2 No link twice -/

/-- The link that a call has put into the store. -/
def appendedBy : θ × Call L × Result L → Option L
  | (_, .append link, .status .successful) => some link
  | _ => none

/-- The link that a call has taken out. -/
def extractedBy : θ × Call L × Result L → Option L
  | (_, .extract _, .link link) | (_, .extractFirst, .link link) => link
  | _ => none

/-- The link that a call is to put into the store. -/
def appends : θ × Call L → Option L
  | (_, .append link) => some link
  | _ => none

section Ledger

variable {h : List (Event θ (Call L) (Result L))} {a : Atomic (List L) (Call L) (Result L) θ}

theorem filterMap_singleton {α β : Type} (f : α → Option β) (x : α) :
    [x].filterMap f = (f x).toList := by
  cases hf : f x <;> simp [hf]

theorem subperm_filterMap {α β : Type} (f : α → Option β) {l m : List α} (h : l.Subperm m) :
    (l.filterMap f).Subperm (m.filterMap f) := by
  obtain ⟨k, hk, hs⟩ := h
  exact ⟨k.filterMap f, hk.filterMap f, hs.filterMap f⟩

/-- A selection that selects less. -/
theorem filterMap_sublist {α β : Type} {f g : α → Option β} {l : List α}
    (h : ∀ x y, f x = some y → g x = some y) : (l.filterMap f).Sublist (l.filterMap g) := by
  induction l with
  | nil => exact List.Sublist.refl _
  | cons x l ih =>
    cases hf : f x with
    | none =>
      rw [List.filterMap_cons_none hf]
      cases hg : g x with
      | none =>
        rw [List.filterMap_cons_none hg]
        exact ih
      | some y =>
        rw [List.filterMap_cons_some hg]
        exact ih.cons y
    | some y =>
      rw [List.filterMap_cons_some hf, List.filterMap_cons_some (h x y hf)]
      exact ih.cons_cons y

omit [DecidableEq θ] [DecidableEq L] in
theorem appends_of_appendedBy {e : θ × Call L × Result L} {link : L}
    (h : appendedBy e = some link) : appends (e.1, e.2.1) = some link := by
  obtain ⟨u, c, r⟩ := e
  simp only [appendedBy] at h
  split at h
  · rename_i he
    cases he
    exact h
  · cases h

omit [DecidableEq θ] [DecidableEq L] in
/-- One call keeps the account. -/
theorem fifo_ledger (nm : L → Option String) (links : List L) (u : θ) (c : Call L) (n : Bool) :
    (links ++ (appendedBy (u, c, (fifo nm links c n).2)).toList).Perm
      ((extractedBy (u, c, (fifo nm links c n).2)).toList ++ (fifo nm links c n).1) := by
  cases c with
  | append link => cases n <;> simp [fifo, appendedBy, extractedBy]
  | contains name | isEmpty | get name => simp [fifo, appendedBy, extractedBy]
  | extract name =>
    simp only [fifo, appendedBy, extractedBy, Option.toList_none, List.append_nil]
    cases hf : links.find? (nm · = name) with
    | none =>
      rw [List.find?_eq_none] at hf
      rw [List.eraseP_of_forall_not hf]
      exact List.Perm.refl _
    | some link => exact perm_cons_eraseP hf
  | extractFirst => cases links <;> simp [fifo, appendedBy, extractedBy]

/-- What went in is what came out and what is in. -/
theorem log_ledger (hl : LinearizesTo (fifo nm) [] h a) :
    (a.log.filterMap appendedBy).Perm (a.log.filterMap extractedBy ++ a.obj) := by
  refine LinearizesTo.induct (I := fun _ a =>
    (a.log.filterMap appendedBy).Perm (a.log.filterMap extractedBy ++ a.obj))
    (List.Perm.refl _) (fun _ _ _ _ ih _ => ih) ?_ (fun _ _ _ _ _ ih _ => ih) hl
  intro h a u c n ih _
  have hstep := fifo_ledger nm a.obj u c n
  have hin := ih.append_right (appendedBy (u, c, (fifo nm a.obj c n).2)).toList
  have hout := hstep.append_left (a.log.filterMap extractedBy)
  rw [← List.append_assoc] at hout
  simp only [List.filterMap_append, filterMap_singleton, List.append_assoc]
  rw [List.append_assoc] at hin hout
  exact hin.trans hout

/-- **No link twice.** As long as no node is freed under a `link_store_get`,
the links that any run has extracted are among those that were appended,
each at most as often. -/
theorem store_ledger (nm : L → Option String) (as : List (Act θ L)) (s : Store θ L)
    (hk : Along (step nm) KeepsHeld Store.init as) (h : exec (step nm) Store.init as = some s) :
    ((returns (trace Act.event as)).filterMap extractedBy).Subperm
      ((calls (trace Act.event as)).filterMap appends) := by
  obtain ⟨a, hl, -⟩ := exec_linearizes hk h
  have hout := subperm_filterMap extractedBy hl.returns_subperm
  have hin := subperm_filterMap appends hl.calls_subperm
  have hledger : (a.log.filterMap extractedBy).Subperm (a.log.filterMap appendedBy) :=
    (List.sublist_append_left _ _).subperm.trans (log_ledger hl).symm.subperm
  have happends : (a.log.filterMap appendedBy).Sublist
      ((a.log.map fun e => (e.1, e.2.1)).filterMap appends) := by
    rw [List.filterMap_map]
    exact filterMap_sublist fun e link he => appends_of_appendedBy he
  exact hout.trans (hledger.trans (happends.subperm.trans hin))

/-- Two tasks take the one link out; one of them gets it. -/
def contendRun : List (Act Bool Bool) :=
  appendRun false false ++ [.call false .extractFirst, .call true (.extract (some "TRCH")),
    .run false true, .run false true, .run false true, .run true true, .run false true,
    .run true true, .run false true, .run true true, .ret false .extractFirst (.link (some false)),
    .ret true (.extract (some "TRCH")) (.link none)]

theorem contendRun_ledger :
    ((returns (trace Act.event contendRun)).filterMap extractedBy).Subperm [false] :=
  store_ledger twoNames contendRun _ (by decide) rfl

end Ledger

/-! ## §3 Draining the store -/

/-- Nobody but `t` changes the store, and `t` only takes first links out. -/
def drains (t : θ) : θ × Call L → Bool
  | (_, .append _) | (_, .extract _) => false
  | (u, .extractFirst) => u = t
  | _ => true

/-- What `t` got from `link_store_extract_first`. -/
def firsts (t : θ) : θ × Call L × Result L → Option (Result L)
  | (u, .extractFirst, r) => if u = t then some r else none
  | _ => none

section Drain

variable {h : List (Event θ (Call L) (Result L))} {a : Atomic (List L) (Call L) (Result L) θ}

/-- After so many of its calls, `t` has got the first links in order, then `NULL`. -/
structure Drained (t : θ) (links : List L) (a : Atomic (List L) (Call L) (Result L) θ) : Prop where
  called : ∀ u c, a.pc u = .called c → drains t (u, c) = true
  taken : ∃ n, a.obj = links.drop n ∧
    a.log.filterMap (firsts t) = (List.range n).map fun i => .link links[i]?

omit [DecidableEq L] in
/-- One commit of a drain. -/
theorem Drained.commit {t : θ} {links : List L} (hd : Drained t links a) {u : θ} {c : Call L}
    (hc : a.pc u = .called c) (n : Bool) :
    Drained t links
      { obj := (fifo nm a.obj c n).1
        pc := Function.update a.pc u (.done c (fifo nm a.obj c n).2)
        log := a.log ++ [(u, c, (fifo nm a.obj c n).2)] } := by
  refine ⟨fun v d hv => ?_, ?_⟩
  · by_cases hvu : v = u
    · subst hvu
      simp only [Function.update_self] at hv
      cases hv
    · simp only [Function.update_of_ne hvu] at hv
      exact hd.called v d hv
  · have hdrain := hd.called u c hc
    obtain ⟨k, hobj, hlog⟩ := hd.taken
    simp only [List.filterMap_append, filterMap_singleton]
    cases c with
    | append link | extract name => cases hdrain
    | contains name | isEmpty | get name => exact ⟨k, hobj, by simpa [firsts] using hlog⟩
    | extractFirst =>
      have hu : u = t := of_decide_eq_true hdrain
      refine ⟨k + 1, ?_, ?_⟩
      · simp only [fifo, hobj, List.tail_drop]
      · simp [firsts, hu, hlog, fifo, hobj, List.range_succ, List.head?_drop]

theorem drained_of_linearizes {t : θ} {links : List L} (hl : LinearizesTo (fifo nm) links h a)
    (hcalls : ∀ e ∈ calls h, drains t e = true) : Drained t links a := by
  refine LinearizesTo.induct
    (I := fun h a => (∀ e ∈ calls h, drains t e = true) → Drained t links a)
    ?_ ?_ ?_ ?_ hl hcalls
  · intro _
    exact ⟨(fun u c hu => by cases hu), 0, rfl, rfl⟩
  · intro h a u c ih hpc hcalls
    simp only [calls, List.filterMap_append, List.mem_append] at hcalls
    have hd := ih fun e he => hcalls e (.inl he)
    refine ⟨fun v d hv => ?_, hd.taken⟩
    by_cases hvu : v = u
    · subst hvu
      simp only [Function.update_self] at hv
      cases hv
      exact hcalls (v, c) (.inr (by simp))
    · simp only [Function.update_of_ne hvu] at hv
      exact hd.called v d hv
  · intro h a u c n ih hpc hcalls
    exact (ih hcalls).commit hpc n
  · intro h a u c r ih hpc hcalls
    simp only [calls, List.filterMap_append, List.mem_append] at hcalls
    have hd := ih fun e he => hcalls e (.inl he)
    refine ⟨fun v d hv => ?_, hd.taken⟩
    by_cases hvu : v = u
    · subst hvu
      simp only [Function.update_self] at hv
      cases hv
    · simp only [Function.update_of_ne hvu] at hv
      exact hd.called v d hv

omit [DecidableEq L] in
/-- Only the returns of `t` count. -/
theorem firsts_filter (t : θ) (l : List (θ × Call L × Result L)) :
    (l.filter (·.1 = t)).filterMap (firsts t) = l.filterMap (firsts t) := by
  rw [List.filterMap_filter]
  congr 1
  funext e
  obtain ⟨u, c, r⟩ := e
  by_cases hu : u = t
  · simp [hu]
  · cases c <;> simp [hu, firsts]

theorem map_range_prefix {α : Type} {f : Nat → α} {l m : List α} {n : Nat}
    (h : l ++ m = (List.range n).map f) : l = (List.range l.length).map f := by
  have hlen : l.length ≤ n := by
    have := congrArg List.length h
    simp at this
    omega
  have htake := congrArg (List.take l.length) h
  rw [List.take_left, ← List.map_take, List.take_range, Nat.min_eq_left hlen] at htake
  exact htake

omit [DecidableEq θ] [DecidableEq L] in
/-- A store at rest is the list of its links. -/
theorem sim_at_rest (hi : Inv nm s) (hidle : ∀ u, s.pc u = .idle) {links : List L}
    (hlinks : Holds s.heap s.chain links) : Sim nm s (Atomic.init links) where
  inv := hi
  sound := by
    constructor
    · intro t c hc
      rw [hidle t] at hc
      cases hc
    · intro t p hp
      rw [hidle t] at hp
      cases hp
  pc t := by
    rw [hidle t]
    rfl
  links := hlinks

/-- **Draining.** A task that takes first links out of a store at rest gets
its links in the order they were appended, then `NULL` for ever, while
other tasks search the store but do not change it. -/
theorem store_drain (nm : L → Option String) (as : List (Act θ L)) (s : Store θ L)
    (h : exec (step nm) Store.init as = some s) (hidle : ∀ u, s.pc u = .idle)
    (links : List L) (hlinks : s.chain.map s.heap = links.map some) (t : θ)
    (bs : List (Act θ L)) (s' : Store θ L) (h' : exec (step nm) s bs = some s')
    (hk : Along (step nm) KeepsHeld s bs)
    (hcalls : ∀ e ∈ calls (trace Act.event bs), drains t e = true) :
    let got := (returns (trace Act.event bs)).filterMap (firsts t)
    got = (List.range got.length).map fun i => .link links[i]? := by
  have hi : Inv nm s := exec_invariant' (fun _ _ _ => inv_step) inv_init h
  obtain ⟨a, hl, -⟩ := linearizesTo_of_refines sim_refines (sim_at_rest hi hidle hlinks) hk h'
  obtain ⟨n, -, hlog⟩ := (drained_of_linearizes hl hcalls).taken
  -- what has returned to `t` is the log of `t`, less the call about to return
  have hclient := congrArg (List.filterMap (firsts t)) (hl.log_client t)
  rw [List.filterMap_append, firsts_filter, firsts_filter, hlog] at hclient
  exact map_range_prefix hclient.symm

/-- A task takes a first link out. -/
def firstRun (t link : Bool) : List (Act Bool Bool) :=
  [.call t .extractFirst, .run t true, .run t true, .run t true, .run t true, .run t true,
    .ret t .extractFirst (.link (some link))]

/-- Two links and then `NULL`. -/
def drainRun : List (Act Bool Bool) :=
  firstRun false true ++ firstRun false false ++ [.call false .extractFirst, .run false true,
    .run false true, .run false true, .ret false .extractFirst (.link none)]

theorem drainRun_order :
    let got := (returns (trace Act.event drainRun)).filterMap (firsts false)
    got = (List.range got.length).map fun i => .link [true, false][i]? :=
  store_drain twoNames (appendRun false true ++ appendRun true false) _ rfl (by decide)
    [true, false] rfl false drainRun _ rfl (by decide) (by decide)

end Drain

end HpscRtems.LinkStore
