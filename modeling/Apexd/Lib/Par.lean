import Apexd.Lib.Prog

/-!
# Two programs that interleave

* `Par K₁ K₂ p q s p' q' s'` — the commands of `p` (under `K₁`) and of `q` (under `K₂`) were
  executed in some interleaving on a shared state.
* `Kernel.among` — a kernel in which the environment moves before every command, as far as `Rely`
  allows, and every command must stay within `Guar`.
* `guardedStep` — a handler for such kernels, for concrete runs.
* `Par.inv` — **rely and guarantee**: if each program is correct among moves that the other
  guarantees, every interleaving keeps the invariant and ends in both postconditions.
-/

set_option autoImplicit false

/-- The commands of a program among those of an environment. -/
def Kernel.among {C : Type} {R : C → Type} {S : Type} (K : Kernel C R S)
    (Rely Guar : S → S → Prop) : Kernel C R S where
  pre c s := ∀ s', Rely s s' → K.pre c s' ∧ ∀ r s'', K.sem c s' r s'' → Guar s' s''
  sem c s r s'' := ∃ s', Rely s s' ∧ K.sem c s' r s''

/-- A kernel whose commands are taken only when `ok` allows them. -/
def Kernel.restrict {C : Type} {R : C → Type} {S : Type} (K : Kernel C R S) (ok : C → S → Prop) :
    Kernel C R S where
  pre := K.pre
  sem c s r s' := ok c s ∧ K.sem c s r s'

namespace Prog

variable {C : Type} {R : C → Type} {E α β S : Type} {K K₁ K₂ : Kernel C R S} {I : S → Prop}

/-- Interleaved runs of two programs. -/
inductive Par (K₁ K₂ : Kernel C R S) : Prog C R E α → Prog C R E β → S →
    Prog C R E α → Prog C R E β → S → Prop where
  | here (p : Prog C R E α) (q : Prog C R E β) (s : S) : Par K₁ K₂ p q s p q s
  | left {c : C} {k : R c → Prog C R E α} {q q' : Prog C R E β} {p' : Prog C R E α} {s s' s'' : S}
      {r : R c} (h : K₁.sem c s r s') (t : Par K₁ K₂ (k r) q s' p' q' s'') :
      Par K₁ K₂ (call c k) q s p' q' s''
  | right {c : C} {k : R c → Prog C R E β} {p p' : Prog C R E α} {q' : Prog C R E β} {s s' s'' : S}
      {r : R c} (h : K₂.sem c s r s') (t : Par K₁ K₂ p (k r) s' p' q' s'') :
      Par K₁ K₂ p (call c k) s p' q' s''

/-- A run of the first program alone. -/
theorem Par.of_left {p p' : Prog C R E α} {s s' : S} (h : Reaches K₁ p s p' s') (q : Prog C R E β) :
    Par K₁ K₂ p q s p' q s' := by
  induction h with
  | here => exact .here _ _ _
  | step hs _ ih => exact .left hs ih

/-- A run of the second program alone. -/
theorem Par.of_right {q q' : Prog C R E β} {s s' : S} (p : Prog C R E α)
    (h : Reaches K₂ q s q' s') : Par K₁ K₂ p q s p q' s' := by
  induction h with
  | here => exact .here _ _ _
  | step hs _ ih => exact .right hs ih

theorem Par.trans {p p' p'' : Prog C R E α} {q q' q'' : Prog C R E β} {s s' s'' : S}
    (h : Par K₁ K₂ p q s p' q' s') (h' : Par K₁ K₂ p' q' s' p'' q'' s'') :
    Par K₁ K₂ p q s p'' q'' s'' := by
  induction h with
  | here => exact h'
  | left hs _ ih => exact .left hs (ih h')
  | right hs _ ih => exact .right hs (ih h')

/-- A handler for a kernel whose commands are restricted. -/
def guardedStep (step : (c : C) → S → Option (R c × S)) (ok : C → S → Bool) (c : C) (s : S) :
    Option (R c × S) :=
  if ok c s then step c s else none

theorem guardedStep_sem {step : (c : C) → S → Option (R c × S)}
    (hstep : ∀ c s r s', step c s = some (r, s') → K.sem c s r s') {ok : C → S → Bool}
    (c : C) (s : S) (r : R c) (s' : S) (h : guardedStep step ok c s = some (r, s')) :
    (K.restrict fun c s => ok c s = true).sem c s r s' := by
  unfold guardedStep at h
  split at h
  · rename_i hok
    exact ⟨hok, hstep _ _ _ _ h⟩
  · cases h

variable {Rely Guar : S → S → Prop}

/-- One command among an environment. -/
theorem wp_call_among {c : C} {k : R c → Prog C R E α} {Q : Except E α → S → Prop}
    {s : S} (hI : I s) (h : ∀ s', Rely s s' → K.pre c s' ∧ ∀ r s'', K.sem c s' r s'' →
      Guar s' s'' ∧ wp (K.among Rely Guar) I (k r) Q s'') :
    wp (K.among Rely Guar) I (call c k) Q s := by
  refine ⟨hI, fun s' hr => ⟨(h s' hr).1, fun r s'' hs => ((h s' hr).2 r s'' hs).1⟩, ?_⟩
  rintro r s'' ⟨s', hr, hs⟩
  exact ((h s' hr).2 r s'' hs).2

/-- One command that moves nothing. -/
theorem wp_look_among {c : C} {k : R c → Prog C R E α} {Q : Except E α → S → Prop}
    {s : S} (hI : I s)
    (hrely : ∀ s', Rely s s' → I s') (hrefl : ∀ s', Guar s' s') (hpre : ∀ s', K.pre c s')
    (hlook : ∀ s' r s'', K.sem c s' r s'' → s'' = s')
    (h : ∀ s', Rely s s' → I s' → ∀ r, K.sem c s' r s' → wp (K.among Rely Guar) I (k r) Q s') :
    wp (K.among Rely Guar) I (call c k) Q s := by
  refine wp_call_among hI fun s' hr => ⟨hpre s', fun r s'' hs => ?_⟩
  obtain rfl := hlook _ _ _ hs
  exact ⟨hrefl _, h _ hr (hrely _ hr) r hs⟩

/-- Moves of the environment keep what is known about a program. -/
theorem wp.rely {p : Prog C R E α} {Q : Except E α → S → Prop} {s s' : S}
    (htrans : ∀ a b c, Rely a b → Rely b c → Rely a c) (hI : ∀ a b, I a → Rely a b → I b)
    (hQ : ∀ x a b, Q x a → Rely a b → Q x b) (h : wp (K.among Rely Guar) I p Q s)
    (hr : Rely s s') : wp (K.among Rely Guar) I p Q s' := by
  cases p with
  | ret a => exact ⟨hI _ _ h.1 hr, hQ _ _ _ h.2 hr⟩
  | fail e => exact ⟨hI _ _ h.1 hr, hQ _ _ _ h.2 hr⟩
  | call c k =>
    refine ⟨hI _ _ h.1 hr, fun s'' hr' => h.2.1 s'' (htrans _ _ _ hr hr'), ?_⟩
    rintro r s₂ ⟨s₁, hr', hs⟩
    exact h.2.2 r s₂ ⟨s₁, htrans _ _ _ hr hr', hs⟩

/-- **Rely and guarantee.** -/
theorem Par.inv {Rely₁ Guar₁ Rely₂ Guar₂ : S → S → Prop} {p p' : Prog C R E α} {q q' : Prog C R E β}
    {s s' : S} {P : Except E α → S → Prop} {Q : Except E β → S → Prop}
    (hrefl₁ : ∀ a, Rely₁ a a) (hrefl₂ : ∀ a, Rely₂ a a)
    (htrans₁ : ∀ a b c, Rely₁ a b → Rely₁ b c → Rely₁ a c)
    (htrans₂ : ∀ a b c, Rely₂ a b → Rely₂ b c → Rely₂ a c)
    (hI₁ : ∀ a b, I a → Rely₁ a b → I b) (hI₂ : ∀ a b, I a → Rely₂ a b → I b)
    (hP : ∀ x a b, P x a → Rely₁ a b → P x b) (hQ : ∀ x a b, Q x a → Rely₂ a b → Q x b)
    (h12 : ∀ a b, Guar₁ a b → Rely₂ a b) (h21 : ∀ a b, Guar₂ a b → Rely₁ a b)
    (hp : wp (K₁.among Rely₁ Guar₁) I p P s) (hq : wp (K₂.among Rely₂ Guar₂) I q Q s)
    (h : Par K₁ K₂ p q s p' q' s') :
    wp (K₁.among Rely₁ Guar₁) I p' P s' ∧ wp (K₂.among Rely₂ Guar₂) I q' Q s' := by
  induction h with
  | here => exact ⟨hp, hq⟩
  | left hs _ ih =>
    have hg := (hp.2.1 _ (hrefl₁ _)).2 _ _ hs
    exact ih (hp.2.2 _ _ ⟨_, hrefl₁ _, hs⟩) (hq.rely htrans₂ hI₂ hQ (h12 _ _ hg))
  | right hs _ ih =>
    have hg := (hq.2.1 _ (hrefl₂ _)).2 _ _ hs
    exact ih (hp.rely htrans₁ hI₁ hP (h21 _ _ hg)) (hq.2.2 _ _ ⟨_, hrefl₂ _, hs⟩)

end Prog
