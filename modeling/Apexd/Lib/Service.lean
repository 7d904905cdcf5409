import Apexd.Lib.Prog

/-!
# Processes that die and are started again

* `Crashes` — the states seen while a program runs, dies at any point, and a recovery program is
  run after each death; `Crashes.inv` is the rule for an invariant of all of them.
* `Service` — a process that runs a boot program after every start and then serves requests one
  at a time.  `Service.Runs` are its runs, in which it may die inside any program;
  `Service.Runs.inv` is the rule for invariants: `I` at every moment, `J` between requests.
* `Service.serveAll` — requests served under a deterministic handler, for concrete runs.
-/

set_option autoImplicit false

namespace Prog

variable {C : Type} {R : C → Type} {E α β W ι : Type} {K : Kernel C R W} {I J : W → Prop}

/-! ## One program and its recovery -/

/-- The states seen while `p` runs from `w` and, after each death, `r` runs. -/
inductive Crashes (K : Kernel C R W) (restart : W → W → Prop) (p : Prog C R E α) (r : Prog C R E β)
    (w : W) : W → Prop where
  | first {q : Prog C R E α} {w' : W} (h : Reaches K p w q w') : Crashes K restart p r w w'
  | again {q : Prog C R E β} {w₁ w₂ w' : W} (h : Crashes K restart p r w w₁)
      (hr : restart w₁ w₂) (t : Reaches K r w₂ q w') : Crashes K restart p r w w'

/-- **Crash safety**: an invariant of the program and of the recovery from any state that satisfies
it holds at every moment, however often the process dies. -/
theorem Crashes.inv {restart : W → W → Prop} {p : Prog C R E α} {r : Prog C R E β}
    {P : Except E α → W → Prop} {Q : Except E β → W → Prop} {w w' : W} (hp : wp K I p P w)
    (hr : ∀ w₁ w₂, I w₁ → restart w₁ w₂ → wp K I r Q w₂) (h : Crashes K restart p r w w') :
    I w' := by
  induction h with
  | first h => exact (hp.reaches h).inv
  | again _ hs ht ih => exact ((hr _ _ ih hs).reaches ht).inv

/-! ## Services -/

/-- A process that runs `boot` at every start and then serves requests. -/
structure Service (C : Type) (R : C → Type) (E α W ι : Type) where
  kernel : Kernel C R W
  restart : W → W → Prop
  boot : Prog C R E α
  request : ι → Prog C R E α

/-- The program of a request; `none` is the boot program. -/
def Service.prog (S : Service C R E α W ι) : Option ι → Prog C R E α
  | none => S.boot
  | some i => S.request i

/-- One program of a service: from where, how it ended (`none` if the process died inside it), and
where. -/
structure Episode (E α W ι : Type) where
  request : Option ι
  before : W
  outcome : Option (Except E α)
  after : W

/-- What happened is a run of the program. -/
def Episode.Valid (S : Service C R E α W ι) (e : Episode E α W ι) : Prop :=
  match e.outcome with
  | some x => Ends S.kernel (S.prog e.request) e.before x e.after
  | none => ∃ q, Reaches S.kernel (S.prog e.request) e.before q e.after

/-- The runs of a service whose episodes all satisfy `cond`: `Runs up w` when the state `w` was
left by an episode (or is the initial one), with the process alive if `up`. -/
inductive Service.Runs (S : Service C R E α W ι) (cond : Episode E α W ι → Prop) (w₀ : W) :
    Bool → W → Prop where
  | off : Runs S cond w₀ false w₀
  | boot {up : Bool} {w : W} {e : Episode E α W ι} (h : Runs S cond w₀ up w)
      (hr : S.restart w e.before) (he : e.request = none) (hv : e.Valid S) (hc : cond e) :
      Runs S cond w₀ e.outcome.isSome e.after
  | serve {e : Episode E α W ι} (h : Runs S cond w₀ true e.before) (he : e.request.isSome)
      (hv : e.Valid S) (hc : cond e) : Runs S cond w₀ e.outcome.isSome e.after

section Runs

variable {S : Service C R E α W ι} {cond : Episode E α W ι → Prop} {w₀ w w₁ w' : W} {up : Bool}

/-- The process is started and comes up. -/
theorem Service.Runs.booted {x : Except E α} (h : S.Runs cond w₀ up w) (hr : S.restart w w₁)
    (he : Ends S.kernel S.boot w₁ x w') (hc : cond ⟨none, w₁, some x, w'⟩) :
    S.Runs cond w₀ true w' :=
  .boot (e := ⟨none, w₁, some x, w'⟩) h hr rfl he hc

/-- A request is served. -/
theorem Service.Runs.served {i : ι} {x : Except E α} (h : S.Runs cond w₀ true w)
    (he : Ends S.kernel (S.request i) w x w') (hc : cond ⟨some i, w, some x, w'⟩) :
    S.Runs cond w₀ true w' :=
  .serve (e := ⟨some i, w, some x, w'⟩) h rfl he hc

/-- The process dies inside a request. -/
theorem Service.Runs.died {i : ι} {q : Prog C R E α} (h : S.Runs cond w₀ true w)
    (he : Reaches S.kernel (S.request i) w q w') (hc : cond ⟨some i, w, none, w'⟩) :
    S.Runs cond w₀ false w' :=
  .serve (e := ⟨some i, w, none, w'⟩) h rfl ⟨q, he⟩ hc

/-- One request after the other under a handler, each for at most `n` commands. -/
def Service.serveAll (S : Service C R E α W ι) (step : (c : C) → W → Option (R c × W)) (n : Nat) :
    List ι → W → W
  | [], w => w
  | i :: rest, w => S.serveAll step n rest (runN step n (S.request i) w).2

/-- Each of them has ended. -/
def Service.served (S : Service C R E α W ι) (step : (c : C) → W → Option (R c × W)) (n : Nat) :
    List ι → W → Bool
  | [], _ => true
  | i :: rest, w =>
    let x := runN step n (S.request i) w
    x.1.result?.isSome && S.served step n rest x.2

theorem Service.Runs.serveAll {step : (c : C) → W → Option (R c × W)}
    (hstep : ∀ c w r w', step c w = some (r, w') → S.kernel.sem c w r w') {n : Nat} {l : List ι}
    (h : S.Runs cond w₀ true w) (hc : ∀ i ∈ l, ∀ w x w', cond ⟨some i, w, some x, w'⟩)
    (hl : S.served step n l w = true) : S.Runs cond w₀ true (S.serveAll step n l w) := by
  induction l generalizing w with
  | nil => exact h
  | cons i rest ih =>
    unfold Service.served at hl
    rw [Bool.and_eq_true] at hl
    obtain ⟨x, hx⟩ := Option.isSome_iff_exists.1 hl.1
    have hserved := h.served (runN_ends hstep hx) (hc i List.mem_cons_self _ x _)
    exact ih hserved (fun j hj => hc j (List.mem_cons_of_mem _ hj)) hl.2

end Runs

/-- **Invariants of a service**: `I` at every moment and `J` between requests. -/
theorem Service.Runs.inv {S : Service C R E α W ι} {cond : Episode E α W ι → Prop} {w₀ : W}
    (h0 : I w₀) (hJ : ∀ w, J w → I w)
    (hboot : ∀ e, (∃ w, I w ∧ S.restart w e.before) → e.request = none → e.Valid S → cond e →
      if e.outcome.isSome then J e.after else I e.after)
    (hreq : ∀ e, J e.before → e.request.isSome → e.Valid S → cond e →
      if e.outcome.isSome then J e.after else I e.after) {up : Bool} {w : W}
    (h : S.Runs cond w₀ up w) : if up then J w else I w := by
  induction h with
  | off => exact h0
  | boot h hr he hv hc ih =>
    refine hboot _ ⟨_, ?_, hr⟩ he hv hc
    split at ih
    · exact hJ _ ih
    · exact ih
  | serve h he hv hc ih => exact hreq _ ih he hv hc

/-- An episode of a program with a weakest precondition. -/
theorem Episode.Valid.wp {S : Service C R E α W ι} {e : Episode E α W ι} (hv : e.Valid S)
    {Q : Except E α → W → Prop} (h : wp S.kernel I (S.prog e.request) Q e.before) :
    match e.outcome with
    | some x => I e.after ∧ Q x e.after
    | none => I e.after := by
  unfold Episode.Valid at hv
  split at hv
  · exact wp_ofExcept.1 (h.reaches hv)
  · obtain ⟨q, hq⟩ := hv
    exact (h.reaches hq).inv

/-- The rule when every program keeps the invariants whatever the conditions are. -/
theorem Service.Runs.inv_of_wp {S : Service C R E α W ι} {cond : Episode E α W ι → Prop} {w₀ : W}
    (h0 : I w₀) (hJ : ∀ w, J w → I w)
    (hboot : ∀ w w₁, I w → S.restart w w₁ → wp S.kernel I S.boot (fun _ => J) w₁)
    (hreq : ∀ i w, J w → wp S.kernel I (S.request i) (fun _ => J) w) {up : Bool} {w : W}
    (h : S.Runs cond w₀ up w) : if up then J w else I w := by
  refine h.inv h0 hJ ?_ ?_
  · rintro ⟨_, b, o, a⟩ ⟨w, hI, hr⟩ rfl hv _
    have := hv.wp (hboot w b hI hr)
    cases o with
    | none => exact this
    | some x => exact this.2
  · rintro ⟨r, b, o, a⟩ hJb hs hv _
    obtain ⟨i, rfl⟩ := Option.isSome_iff_exists.1 hs
    have := hv.wp (hreq i b hJb)
    cases o with
    | none => exact this
    | some x => exact this.2

end Prog
