import Mathlib.Logic.Basic

/-!
# Programs over commands, their runs, and weakest preconditions with a crash invariant

A `Prog C R E α` is a tree of commands: it issues `c : C`, continues with any reply in
`R c`, and ends with a value of `α` or an error of `E`.  A `Kernel` says what a command needs
and what it may answer.  Nothing here knows which commands there are.

* `Reaches`, `Ends` — partial runs (a process may stop anywhere) and complete runs.
* `wp K I p Q w` — every state a run of `p` from `w` passes through satisfies `I`, every
  command finds what it needs, and every complete run ends in `Q`; `wp_bind`, `wp_attempt`,
  `wp_forM` and `wp_foldlM` are the rules for composing it.
* `Uses S p` — the commands of `p` lie in `S`; `Uses.wp` turns a fact about single commands
  into an invariant of the program.
* `Yields P p` — every value `p` may return satisfies `P`.
* `Total p` — `p` does not end in an error.
* `Keeps K I p` — `p` keeps `I`, from wherever it starts.
* `Kernel.withPre` — a kernel with another condition on the commands; `Kernel.only` — one with fewer
  outcomes; `Kernel.disturb` — one whose state others may change; `Kernel.observe` — one that also
  keeps a history variable.
* `embed` — a program as a part of one over more commands: each command is translated, and each
  reply back.
* `Refines` — a program whose runs are runs of another one over less state; `refines_embed` and
  `Refines.bind` put such programs together.
* `runN` — execution under a deterministic handler, for concrete runs.
-/

set_option autoImplicit false

/-- A program: a value, an error, or a command and what follows each reply. -/
inductive Prog (C : Type) (R : C → Type) (E α : Type) where
  | ret (a : α)
  | fail (e : E)
  | call (c : C) (k : R c → Prog C R E α)

/-- What a command needs, and which reply and state it may lead to. -/
structure Kernel (C : Type) (R : C → Type) (W : Type) where
  pre : C → W → Prop
  sem : (c : C) → W → R c → W → Prop

namespace Prog

variable {C : Type} {R : C → Type} {E E' α β γ W G : Type}

def bind : Prog C R E α → (α → Prog C R E β) → Prog C R E β
  | ret a, f => f a
  | fail e, _ => fail e
  | call c k, f => call c fun r => (k r).bind f

instance : Monad (Prog C R E) where
  pure := ret
  bind := bind

/-- Issue one command and return its reply. -/
def exec (c : C) : Prog C R E (R c) := call c ret

/-- The outcome as a value: an error no longer ends the program. -/
def attempt : Prog C R E α → Prog C R E' (Except E α)
  | ret a => ret (.ok a)
  | fail e => ret (.error e)
  | call c k => call c fun r => (k r).attempt

def mapErr (g : E → E') : Prog C R E α → Prog C R E' α
  | ret a => ret a
  | fail e => fail (g e)
  | call c k => call c fun r => (k r).mapErr g

/-- Continue with a value or an error already at hand. -/
def ofExcept : Except E α → Prog C R E α
  | .ok a => ret a
  | .error e => fail e

/-- Fail with `e` unless `b` holds. -/
def require (b : Bool) (e : E) : Prog C R E Unit := if b then ret () else fail e

/-- Run `p` only if `b` holds. -/
def when (b : Bool) (p : Prog C R E Unit) : Prog C R E Unit := if b then p else ret ()

/-- A scope guard that is disarmed on success: on an error, run `cleanup` and fail. -/
def onFail (p : Prog C R E α) (cleanup : Prog C R E' Unit) : Prog C R E α :=
  (p.attempt : Prog C R E (Except E α)).bind fun
    | .ok a => ret a
    | .error e => cleanup.attempt.bind fun _ => fail e

/-- A scope guard that is never disarmed: `cleanup` runs on every way out. -/
def andThen (p : Prog C R E α) (cleanup : Prog C R E' Unit) : Prog C R E α :=
  (p.attempt : Prog C R E (Except E α)).bind fun x => cleanup.attempt.bind fun _ => ofExcept x

@[simp] theorem pure_eq (a : α) : (pure a : Prog C R E α) = ret a := rfl
@[simp] theorem bind_eq (p : Prog C R E α) (f : α → Prog C R E β) : p >>= f = p.bind f := rfl
@[simp] theorem ret_bind (a : α) (f : α → Prog C R E β) : (ret a).bind f = f a := rfl
@[simp] theorem fail_bind (e : E) (f : α → Prog C R E β) : (fail e).bind f = fail e := rfl

@[simp] theorem exec_bind (c : C) (f : R c → Prog C R E β) : (exec c).bind f = call c f := rfl

@[simp] theorem ofExcept_ok (a : α) : (ofExcept (.ok a) : Prog C R E α) = ret a := rfl
@[simp] theorem ofExcept_error (e : E) : (ofExcept (.error e) : Prog C R E α) = fail e := rfl

theorem bind_assoc (p : Prog C R E α) (f : α → Prog C R E β) (g : β → Prog C R E γ) :
    (p.bind f).bind g = p.bind fun a => (f a).bind g := by
  induction p with
  | ret a => rfl
  | fail e => rfl
  | call c k ih => simp only [bind, ih]

theorem bind_ret (p : Prog C R E α) : p.bind ret = p := by
  induction p with
  | ret a => rfl
  | fail e => rfl
  | call c k ih => simp only [bind, ih]

instance : LawfulMonad (Prog C R E) := .mk' _ (fun p => bind_ret p) (fun _ _ => rfl)
  fun p f g => bind_assoc p f g

/-! ## Runs -/

/-- Partial runs: `Reaches K p w p' w'` when `p` may have become `p'` in state `w'`. -/
inductive Reaches (K : Kernel C R W) : Prog C R E α → W → Prog C R E α → W → Prop where
  | here (p : Prog C R E α) (w : W) : Reaches K p w p w
  | step {c : C} {k : R c → Prog C R E α} {w w' w'' : W} {r : R c} {p : Prog C R E α}
      (h : K.sem c w r w') (t : Reaches K (k r) w' p w'') : Reaches K (call c k) w p w''

/-- Complete runs. -/
def Ends (K : Kernel C R W) (p : Prog C R E α) (w : W) (x : Except E α) (w' : W) : Prop :=
  Reaches K p w (ofExcept x) w'

variable {K : Kernel C R W}

theorem Reaches.trans {p p' p'' : Prog C R E α} {w w' w'' : W} (h : Reaches K p w p' w')
    (h' : Reaches K p' w' p'' w'') : Reaches K p w p'' w'' := by
  induction h with
  | here => exact h'
  | step hs _ ih => exact .step hs (ih h')

theorem Reaches.mono {K' : Kernel C R W} {p p' : Prog C R E α} {w w' : W} (h : Reaches K p w p' w')
    (hK : ∀ c w r w', K.sem c w r w' → K'.sem c w r w') : Reaches K' p w p' w' := by
  induction h with
  | here => exact .here _ _
  | step hs _ ih => exact .step (hK _ _ _ _ hs) ih

theorem Reaches.bind {p p' : Prog C R E α} {w w' : W} (f : α → Prog C R E β)
    (h : Reaches K p w p' w') : Reaches K (p.bind f) w (p'.bind f) w' := by
  induction h with
  | here => exact .here _ _
  | step hs _ ih => exact .step hs ih

/-- A complete run of the first part followed by a run of the rest. -/
theorem Ends.bind {p : Prog C R E α} {f : α → Prog C R E β} {q : Prog C R E β} {w w' w'' : W}
    {a : α} (h : Ends K p w (.ok a) w') (h' : Reaches K (f a) w' q w'') :
    Reaches K (p.bind f) w q w'' :=
  (Reaches.bind f h).trans h'

/-- A run of a composed program is in the first part or past it. -/
theorem Reaches.of_bind {p : Prog C R E α} {f : α → Prog C R E β} {q : Prog C R E β} {w w' : W}
    (h : Reaches K (p.bind f) w q w') : (∃ p', Reaches K p w p' w' ∧ q = p'.bind f) ∨
      ∃ a w₁, Ends K p w (.ok a) w₁ ∧ Reaches K (f a) w₁ q w' := by
  induction p generalizing w with
  | ret a => exact Or.inr ⟨a, w, .here _ _, h⟩
  | fail e =>
    cases h
    exact Or.inl ⟨fail e, .here _ _, rfl⟩
  | call c k ih =>
    cases h with
    | here => exact Or.inl ⟨call c k, .here _ _, rfl⟩
    | step hs t =>
      rcases ih _ t with ⟨p', hp, he⟩ | ⟨a, w₁, ha, hq⟩
      · exact Or.inl ⟨p', .step hs hp, he⟩
      · exact Or.inr ⟨a, w₁, .step hs ha, hq⟩

theorem Ends.of_call {c : C} {k : R c → Prog C R E α} {x : Except E α} {w w' : W}
    (h : Ends K (call c k) w x w') : ∃ r w₁, K.sem c w r w₁ ∧ Ends K (k r) w₁ x w' := by
  unfold Ends at h
  generalize hq : (ofExcept x : Prog C R E α) = q at h
  cases h with
  | here => cases x <;> cases hq
  | step hs t =>
    subst hq
    exact ⟨_, _, hs, t⟩

/-- A complete run of a composed program fails in the first part or passes it. -/
theorem Ends.of_bind {p : Prog C R E α} {f : α → Prog C R E β} {x : Except E β} {w w' : W}
    (h : Ends K (p.bind f) w x w') : (∃ e, x = .error e ∧ Ends K p w (.error e) w') ∨
      ∃ a w₁, Ends K p w (.ok a) w₁ ∧ Ends K (f a) w₁ x w' := by
  rcases Reaches.of_bind h with ⟨p', hp, he⟩ | hrest
  · cases p' with
    | ret a =>
      refine Or.inr ⟨a, w', hp, ?_⟩
      unfold Ends
      rw [he]
      exact .here _ _
    | fail e =>
      cases x with
      | error e' =>
        cases he
        exact Or.inl ⟨e, rfl, hp⟩
      | ok b => cases he
    | call c k => cases x <;> cases he
  · exact Or.inr hrest

theorem Reaches.require {b : Bool} {e : E} {p : Prog C R E Unit} {w w' : W}
    (h : Reaches K (require b e) w p w') : w' = w := by
  cases b <;> cases h <;> rfl

/-! ## Weakest preconditions -/

/-- Every state passed through satisfies `I`, every command finds what it needs, and every
complete run ends in `Q`. -/
def wp (K : Kernel C R W) (I : W → Prop) : Prog C R E α → (Except E α → W → Prop) → W → Prop
  | ret a, Q, w => I w ∧ Q (.ok a) w
  | fail e, Q, w => I w ∧ Q (.error e) w
  | call c k, Q, w => I w ∧ K.pre c w ∧ ∀ r w', K.sem c w r w' → wp K I (k r) Q w'

variable {I I' : W → Prop}

theorem wp_fail {e : E} {Q : Except E α → W → Prop} {w : W} :
    wp K I (fail e : Prog C R E α) Q w ↔ I w ∧ Q (.error e) w := Iff.rfl

theorem wp_call {c : C} {k : R c → Prog C R E α} {Q : Except E α → W → Prop} {w : W} :
    wp K I (call c k) Q w ↔
      I w ∧ K.pre c w ∧ ∀ r w', K.sem c w r w' → wp K I (k r) Q w' := Iff.rfl

theorem wp_ofExcept {x : Except E α} {Q : Except E α → W → Prop} {w : W} :
    wp K I (ofExcept x : Prog C R E α) Q w ↔ I w ∧ Q x w := by
  cases x <;> rfl

theorem wp.inv {p : Prog C R E α} {Q : Except E α → W → Prop} {w : W} (h : wp K I p Q w) : I w := by
  cases p <;> exact h.1

theorem wp.mono {p : Prog C R E α} {Q Q' : Except E α → W → Prop} {w : W} (h : wp K I p Q w)
    (hI : ∀ w, I w → I' w) (hQ : ∀ x w, I w → Q x w → Q' x w) : wp K I' p Q' w := by
  induction p generalizing w with
  | ret a => exact ⟨hI w h.1, hQ _ w h.1 h.2⟩
  | fail e => exact ⟨hI w h.1, hQ _ w h.1 h.2⟩
  | call c k ih => exact ⟨hI w h.1, h.2.1, fun r w' hs => ih r (h.2.2 r w' hs)⟩

theorem wp.imp {p : Prog C R E α} {Q Q' : Except E α → W → Prop} {w : W} (h : wp K I p Q w)
    (hQ : ∀ x w, I w → Q x w → Q' x w) : wp K I p Q' w :=
  h.mono (fun _ h => h) hQ

theorem wp.and {p : Prog C R E α} {Q Q' : Except E α → W → Prop} {w : W} (h : wp K I p Q w)
    (h' : wp K I' p Q' w) :
    wp K (fun w => I w ∧ I' w) p (fun x w => Q x w ∧ Q' x w) w := by
  induction p generalizing w with
  | ret a => exact ⟨⟨h.1, h'.1⟩, h.2, h'.2⟩
  | fail e => exact ⟨⟨h.1, h'.1⟩, h.2, h'.2⟩
  | call c k ih =>
    exact ⟨⟨h.1, h'.1⟩, h.2.1, fun r w' hs => ih r (h.2.2 r w' hs) (h'.2.2 r w' hs)⟩

/-- What a composed program must do after its first part. -/
def Then (K : Kernel C R W) (I : W → Prop) (f : α → Prog C R E β) (Q : Except E β → W → Prop) :
    Except E α → W → Prop
  | .ok a, w => wp K I (f a) Q w
  | .error e, w => Q (.error e) w

theorem wp_bind {p : Prog C R E α} {f : α → Prog C R E β} {Q : Except E β → W → Prop} {w : W} :
    wp K I (p.bind f) Q w ↔ wp K I p (Then K I f Q) w := by
  induction p generalizing w with
  | ret a => exact ⟨fun h => ⟨h.inv, h⟩, fun h => h.2⟩
  | fail e => exact Iff.rfl
  | call c k ih => simp only [bind, wp_call, ih]

theorem wp.bind {p : Prog C R E α} {f : α → Prog C R E β} {P : Except E α → W → Prop}
    {Q : Except E β → W → Prop} {w : W} (h : wp K I p P w)
    (hok : ∀ a w, I w → P (.ok a) w → wp K I (f a) Q w)
    (herr : ∀ e w, I w → P (.error e) w → Q (.error e) w) : wp K I (p.bind f) Q w := by
  refine wp_bind.2 (h.imp ?_)
  intro x w hI hP
  cases x with
  | ok a => exact hok a w hI hP
  | error e => exact herr e w hI hP

theorem wp_attempt {p : Prog C R E α} {Q : Except E' (Except E α) → W → Prop} {w : W} :
    wp K I (p.attempt : Prog C R E' (Except E α)) Q w ↔ wp K I p (fun x w => Q (.ok x) w) w := by
  induction p generalizing w with
  | ret a => exact Iff.rfl
  | fail e => exact Iff.rfl
  | call c k ih => simp only [attempt, wp_call, ih]

theorem wp_mapErr {p : Prog C R E α} {g : E → E'} {Q : Except E' α → W → Prop} {w : W} :
    wp K I (p.mapErr g) Q w ↔ wp K I p (fun x w => Q (x.mapError g) w) w := by
  induction p generalizing w with
  | ret a => exact Iff.rfl
  | fail e => exact Iff.rfl
  | call c k ih => simp only [mapErr, wp_call, ih]

theorem wp_require {b : Bool} {e : E} {Q : Except E Unit → W → Prop} {w : W} :
    wp K I (require b e : Prog C R E Unit) Q w ↔
      I w ∧ Q (if b then .ok () else .error e) w := by
  cases b <;> rfl

theorem wp_when {b : Bool} {p : Prog C R E Unit} {Q : Except E Unit → W → Prop} {w : W}
    (ht : b = true → wp K I p Q w) (hf : b = false → I w ∧ Q (.ok ()) w) :
    wp K I (when b p) Q w := by
  cases b with
  | true => exact ht rfl
  | false => exact hf rfl

/-- The disarmed guard: success passes through, an error runs the cleanup first. -/
theorem wp_onFail {p : Prog C R E α} {cleanup : Prog C R E' Unit} {Q : Except E α → W → Prop}
    {w : W} : wp K I (p.onFail cleanup) Q w ↔
      wp K I p (fun
        | .ok a, w => Q (.ok a) w
        | .error e, w => wp K I cleanup (fun _ w => Q (.error e) w) w) w := by
  unfold onFail
  rw [wp_bind, wp_attempt]
  constructor
  · intro h
    refine h.imp ?_
    rintro (e | a) w _ hx
    · simp only [Then, wp_bind, wp_attempt, wp_fail] at hx
      exact hx.imp fun _ _ _ h => h.2
    · exact hx.2
  · intro h
    refine h.imp ?_
    rintro (e | a) w hI hx
    · simp only [Then, wp_bind, wp_attempt, wp_fail]
      exact hx.imp fun _ _ hI h => ⟨hI, h⟩
    · exact ⟨hI, hx⟩

/-- The guard that always fires: the cleanup runs before the outcome is passed on. -/
theorem wp_andThen {p : Prog C R E α} {cleanup : Prog C R E' Unit} {Q : Except E α → W → Prop}
    {w : W} : wp K I (p.andThen cleanup) Q w ↔
      wp K I p (fun x w => wp K I cleanup (fun _ w => Q x w) w) w := by
  unfold andThen
  rw [wp_bind, wp_attempt]
  constructor
  · intro h
    refine h.imp fun x w _ hx => ?_
    simp only [Then, wp_bind, wp_attempt, wp_ofExcept] at hx
    exact hx.imp fun _ _ _ h => h.2
  · intro h
    refine h.imp fun x w _ hx => ?_
    simp only [Then, wp_bind, wp_attempt, wp_ofExcept]
    exact hx.imp fun _ _ hI h => ⟨hI, h⟩

/-- A loop over a list: `J` relates what is left of the list to the state. -/
theorem wp_forM {f : β → Prog C R E PUnit} {Q : Except E PUnit → W → Prop}
    (J : List β → W → Prop) (l : List β)
    (hstep : ∀ x rest w, x :: rest <:+ l → J (x :: rest) w →
      wp K I (f x) (fun | .ok _, w => J rest w | .error e, w => Q (.error e) w) w)
    (hdone : ∀ w, J [] w → I w ∧ Q (.ok ⟨⟩) w) {w : W} (h : J l w) :
    wp K I (forM l f) Q w := by
  suffices ∀ s w, s <:+ l → J s w → wp K I (forM s f) Q w from this l w (List.suffix_refl l) h
  intro s
  induction s with
  | nil => intro w _ hJ; exact hdone w hJ
  | cons x rest ih =>
    intro w hs hJ
    rw [List.forM_cons]
    refine wp_bind.2 ((hstep x rest w hs hJ).imp ?_)
    rintro (e | a) w' _ hx
    · exact hx
    · exact ih w' ((List.suffix_cons x rest).trans hs) hx

/-- A loop with an accumulator. -/
theorem wp_foldlM {f : γ → β → Prog C R E γ} {Q : Except E γ → W → Prop}
    (J : List β → γ → W → Prop) (l : List β)
    (hstep : ∀ x rest acc w, x :: rest <:+ l → J (x :: rest) acc w →
      wp K I (f acc x) (fun | .ok acc, w => J rest acc w | .error e, w => Q (.error e) w) w)
    (hdone : ∀ acc w, J [] acc w → I w ∧ Q (.ok acc) w) {acc : γ} {w : W} (h : J l acc w) :
    wp K I (l.foldlM f acc) Q w := by
  suffices ∀ s acc w, s <:+ l → J s acc w → wp K I (s.foldlM f acc) Q w from
    this l acc w (List.suffix_refl l) h
  intro s
  induction s with
  | nil => intro acc w _ hJ; exact hdone acc w hJ
  | cons x rest ih =>
    intro acc w hs hJ
    rw [List.foldlM_cons]
    refine wp_bind.2 ((hstep x rest acc w hs hJ).imp ?_)
    rintro (e | a) w' _ hx
    · exact hx
    · exact ih a w' ((List.suffix_cons x rest).trans hs) hx

/-- A loop that collects its results. -/
theorem wp_mapM {f : β → Prog C R E γ} {Q : Except E (List γ) → W → Prop}
    (J : List β → List γ → W → Prop) (l : List β)
    (hstep : ∀ x rest acc w, x :: rest <:+ l → J (x :: rest) acc w →
      wp K I (f x) (fun | .ok y, w => J rest (acc ++ [y]) w | .error e, w => Q (.error e) w) w)
    (hdone : ∀ acc w, J [] acc w → I w ∧ Q (.ok acc) w) {w : W} (h : J l [] w) :
    wp K I (l.mapM f) Q w := by
  suffices ∀ s acc w, s <:+ l → J s acc w → wp K I (s.mapM f) (fun
      | .ok ys, w => Q (.ok (acc ++ ys)) w
      | .error e, w => Q (.error e) w) w by
    refine (this l [] w (List.suffix_refl l) h).imp ?_
    rintro (e | ys) w' _ hq
    · exact hq
    · exact hq
  intro s
  induction s with
  | nil =>
    intro acc w _ hJ
    obtain ⟨hI, hQ⟩ := hdone acc w hJ
    exact ⟨hI, by simpa using hQ⟩
  | cons x rest ih =>
    intro acc w hs hJ
    rw [List.mapM_cons]
    refine wp_bind.2 ((hstep x rest acc w hs hJ).imp ?_)
    rintro (e | y) w' _ hx
    · exact hx
    · refine wp_bind.2 ((ih (acc ++ [y]) w' ((List.suffix_cons x rest).trans hs) hx).imp ?_)
      rintro (e | ys) w'' hI hq
      · exact hq
      · exact ⟨hI, by simpa using hq⟩

/-- `wp` is carried along every run. -/
theorem wp.reaches {p p' : Prog C R E α} {Q : Except E α → W → Prop} {w w' : W}
    (h : wp K I p Q w) (hr : Reaches K p w p' w') : wp K I p' Q w' := by
  induction hr with
  | here => exact h
  | step hs _ ih => exact ih (h.2.2 _ _ hs)

theorem wp.ends {p : Prog C R E α} {Q : Except E α → W → Prop} {w w' : W} {x : Except E α}
    (h : wp K I p Q w) (hr : Ends K p w x w') : Q x w' :=
  (wp_ofExcept.1 (h.reaches hr)).2

/-! ## The commands a program may issue -/

def Uses (S : C → Prop) : Prog C R E α → Prop
  | ret _ => True
  | fail _ => True
  | call c k => S c ∧ ∀ r, (k r).Uses S

variable {S S' : C → Prop}

@[simp] theorem uses_ret (a : α) : (ret a : Prog C R E α).Uses S := trivial
@[simp] theorem uses_fail (e : E) : (fail e : Prog C R E α).Uses S := trivial

@[simp] theorem uses_call {c : C} {k : R c → Prog C R E α} :
    (call c k).Uses S ↔ S c ∧ ∀ r, (k r).Uses S := Iff.rfl

theorem uses_bind {p : Prog C R E α} {f : α → Prog C R E β} (hp : p.Uses S)
    (hf : ∀ a, (f a).Uses S) : (p.bind f).Uses S := by
  induction p with
  | ret a => exact hf a
  | fail e => trivial
  | call c k ih => exact ⟨hp.1, fun r => ih r (hp.2 r)⟩

theorem uses_exec {c : C} (h : S c) : (exec c : Prog C R E (R c)).Uses S := ⟨h, fun _ => trivial⟩

theorem uses_exec_bind {c : C} {f : R c → Prog C R E β} (hc : S c) (hf : ∀ r, (f r).Uses S) :
    ((exec c).bind f).Uses S := ⟨hc, hf⟩

theorem uses_attempt {p : Prog C R E α} (hp : p.Uses S) :
    (p.attempt : Prog C R E' (Except E α)).Uses S := by
  induction p with
  | ret a => trivial
  | fail e => trivial
  | call c k ih => exact ⟨hp.1, fun r => ih r (hp.2 r)⟩

theorem uses_mapErr {p : Prog C R E α} {g : E → E'} (hp : p.Uses S) : (p.mapErr g).Uses S := by
  induction p with
  | ret a => trivial
  | fail e => trivial
  | call c k ih => exact ⟨hp.1, fun r => ih r (hp.2 r)⟩

theorem uses_ofExcept (x : Except E α) : (ofExcept x : Prog C R E α).Uses S := by
  cases x <;> trivial

theorem uses_require (b : Bool) (e : E) : (require b e : Prog C R E Unit).Uses S := by
  cases b <;> trivial

theorem uses_when {b : Bool} {p : Prog C R E Unit} (hp : p.Uses S) : (when b p).Uses S := by
  cases b
  · trivial
  · exact hp

theorem uses_onFail {p : Prog C R E α} {cleanup : Prog C R E' Unit} (hp : p.Uses S)
    (hc : cleanup.Uses S) : (p.onFail cleanup).Uses S := by
  refine uses_bind (uses_attempt hp) ?_
  rintro (e | a)
  · exact uses_bind (uses_attempt hc) fun _ => trivial
  · trivial

theorem uses_andThen {p : Prog C R E α} {cleanup : Prog C R E' Unit} (hp : p.Uses S)
    (hc : cleanup.Uses S) : (p.andThen cleanup).Uses S :=
  uses_bind (uses_attempt hp) fun x => uses_bind (uses_attempt hc) fun _ => uses_ofExcept x

theorem uses_forM {f : β → Prog C R E PUnit} (l : List β) (h : ∀ x ∈ l, (f x).Uses S) :
    (forM l f).Uses S := by
  induction l with
  | nil => trivial
  | cons x l ih =>
    rw [List.forM_cons]
    exact uses_bind (h x List.mem_cons_self) fun _ => ih fun y hy => h y (List.mem_cons_of_mem _ hy)

theorem uses_foldlM {f : γ → β → Prog C R E γ} (l : List β) (acc : γ)
    (h : ∀ acc, ∀ x ∈ l, (f acc x).Uses S) : (l.foldlM f acc).Uses S := by
  induction l generalizing acc with
  | nil => trivial
  | cons x l ih =>
    rw [List.foldlM_cons]
    exact uses_bind (h acc x List.mem_cons_self) fun acc' =>
      ih acc' fun a y hy => h a y (List.mem_cons_of_mem _ hy)

theorem uses_mapM {f : β → Prog C R E γ} (l : List β) (h : ∀ x ∈ l, (f x).Uses S) :
    (l.mapM f).Uses S := by
  induction l with
  | nil => trivial
  | cons x l ih =>
    rw [List.mapM_cons]
    exact uses_bind (h x List.mem_cons_self) fun y =>
      uses_bind (ih fun z hz => h z (List.mem_cons_of_mem _ hz)) fun _ => trivial

theorem Uses.mono {p : Prog C R E α} (hp : p.Uses S) (h : ∀ c, S c → S' c) : p.Uses S' := by
  induction p with
  | ret a => trivial
  | fail e => trivial
  | call c k ih => exact ⟨h c hp.1, fun r => ih r (hp.2 r)⟩

theorem Reaches.uses {p p' : Prog C R E α} {w w' : W} (h : Reaches K p w p' w') (hp : p.Uses S) :
    p'.Uses S := by
  induction h with
  | here => exact hp
  | step _ _ ih => exact ih (hp.2 _)

theorem uses_all (p : Prog C R E α) : p.Uses fun _ => True := by
  induction p with
  | ret a => trivial
  | fail e => trivial
  | call c k ih => exact ⟨trivial, ih⟩

/-- **The frame rule**: what every command of `S` keeps, a program over `S` keeps. -/
theorem Uses.wp {p : Prog C R E α} {w : W} (hp : p.Uses S)
    (hpre : ∀ c w, S c → I w → K.pre c w)
    (hstep : ∀ c w r w', S c → I w → K.sem c w r w' → I w') (h : I w) :
    wp K I p (fun _ => I) w := by
  induction p generalizing w with
  | ret a => exact ⟨h, h⟩
  | fail e => exact ⟨h, h⟩
  | call c k ih =>
    exact ⟨h, hpre c w hp.1 h, fun r w' hs => ih r (hp.2 r) (hstep c w r w' hp.1 h hs)⟩

/-- A part of a program whose commands leave the state as it is. -/
theorem wp.bind_stays {I' : W → Prop} {p : Prog C R E α} {f : α → Prog C R E β}
    {P : Except E α → W → Prop} {Q : Except E β → W → Prop} {w : W} (h : wp K I p P w)
    (hp : p.Uses S) (hS : ∀ c r w', S c → K.sem c w r w' → w' = w) (hI : I' w)
    (hok : ∀ a, P (.ok a) w → wp K I' (f a) Q w) (herr : ∀ e, P (.error e) w → Q (.error e) w) :
    wp K I' (p.bind f) Q w := by
  induction p with
  | ret a => exact hok a h.2
  | fail e => exact ⟨hI, herr e h.2⟩
  | call c k ih =>
    refine ⟨hI, h.2.1, fun r w' hs => ?_⟩
    obtain rfl : w' = w := hS c r w' hp.1 hs
    exact ih r (h.2.2 r w' hs) (hp.2 r)

/-- Where every command has some outcome, a program has a complete run. -/
theorem wp.exists_ends {p : Prog C R E α} {Q : Except E α → W → Prop} {w : W} (h : wp K I p Q w)
    (hp : p.Uses S) (hS : ∀ c w, S c → K.pre c w → ∃ r w', K.sem c w r w') :
    ∃ x w', Ends K p w x w' ∧ Q x w' := by
  induction p generalizing w with
  | ret a => exact ⟨.ok a, w, .here _ _, h.2⟩
  | fail e => exact ⟨.error e, w, .here _ _, h.2⟩
  | call c k ih =>
    obtain ⟨r, w₁, hs⟩ := hS c w hp.1 h.2.1
    obtain ⟨x, w', hends, hQ⟩ := ih r (h.2.2 r w₁ hs) (hp.2 r)
    exact ⟨x, w', .step hs hends, hQ⟩

/-! ## Programs that keep an invariant -/

/-- From any state that satisfies `I`, the program satisfies it at every moment. -/
def Keeps (K : Kernel C R W) (I : W → Prop) (p : Prog C R E α) : Prop :=
  ∀ w, I w → wp K I p (fun _ _ => True) w

theorem Uses.keeps {p : Prog C R E α} (hp : p.Uses S) (hpre : ∀ c w, S c → I w → K.pre c w)
    (hstep : ∀ c w r w', S c → I w → K.sem c w r w' → I w') : p.Keeps K I := fun _ h =>
  (hp.wp hpre hstep h).imp fun _ _ _ _ => trivial

theorem keeps_ret (a : α) : (ret a : Prog C R E α).Keeps K I := fun _ h => ⟨h, trivial⟩

theorem keeps_bind {p : Prog C R E α} {f : α → Prog C R E β} (hp : p.Keeps K I)
    (hf : ∀ a, (f a).Keeps K I) : (p.bind f).Keeps K I := fun w h =>
  (hp w h).bind (fun a w' hI _ => hf a w' hI) fun _ _ _ _ => trivial

theorem keeps_attempt {p : Prog C R E α} (hp : p.Keeps K I) :
    (p.attempt : Prog C R E' (Except E α)).Keeps K I := fun w h => wp_attempt.2 (hp w h)

theorem keeps_mapErr {p : Prog C R E α} {g : E → E'} (hp : p.Keeps K I) :
    (p.mapErr g).Keeps K I := fun w h => wp_mapErr.2 (hp w h)

theorem keeps_onFail {p : Prog C R E α} {cleanup : Prog C R E' Unit} (hp : p.Keeps K I)
    (hc : cleanup.Keeps K I) : (p.onFail cleanup).Keeps K I := by
  intro w h
  refine wp_onFail.2 ((hp w h).imp ?_)
  rintro (e | a) w' hI _
  · exact hc w' hI
  · trivial

theorem keeps_when {b : Bool} {p : Prog C R E Unit} (hp : p.Keeps K I) : (when b p).Keeps K I := by
  cases b
  · exact keeps_ret ()
  · exact hp

theorem keeps_forM {f : β → Prog C R E PUnit} (l : List β) (h : ∀ x ∈ l, (f x).Keeps K I) :
    (forM l f).Keeps K I := by
  induction l with
  | nil => exact keeps_ret _
  | cons x l ih =>
    rw [List.forM_cons]
    exact keeps_bind (h x List.mem_cons_self) fun _ => ih fun y hy =>
      h y (List.mem_cons_of_mem _ hy)

theorem keeps_mapM {f : β → Prog C R E γ} (l : List β) (h : ∀ x ∈ l, (f x).Keeps K I) :
    (l.mapM f).Keeps K I := by
  induction l with
  | nil => exact keeps_ret _
  | cons x l ih =>
    rw [List.mapM_cons]
    exact keeps_bind (h x List.mem_cons_self) fun y =>
      keeps_bind (ih fun z hz => h z (List.mem_cons_of_mem _ hz)) fun _ => keeps_ret _

/-! ## The values a program may return -/

def Yields (P : α → Prop) : Prog C R E α → Prop
  | ret a => P a
  | fail _ => True
  | call _ k => ∀ r, (k r).Yields P

variable {P : α → Prop}

theorem yields_bind {p : Prog C R E β} {f : β → Prog C R E α} {P' : β → Prop} (hp : p.Yields P')
    (hf : ∀ b, P' b → (f b).Yields P) : (p.bind f).Yields P := by
  induction p with
  | ret b => exact hf b hp
  | fail e => trivial
  | call c k ih => exact fun r => ih r (hp r)

theorem yields_then {p : Prog C R E β} {f : β → Prog C R E α} (hf : ∀ b, (f b).Yields P) :
    (p.bind f).Yields P := by
  induction p with
  | ret b => exact hf b
  | fail e => trivial
  | call c k ih => exact fun r => ih r

theorem yields_attempt {p : Prog C R E α} (hp : p.Yields P) :
    (p.attempt : Prog C R E' (Except E α)).Yields fun x => ∀ a, x = .ok a → P a := by
  induction p with
  | ret a => rintro _ ⟨⟩; exact hp
  | fail e => rintro _ ⟨⟩
  | call c k ih => exact fun r => ih r (hp r)

theorem yields_onFail {p : Prog C R E α} {cleanup : Prog C R E' Unit} (hp : p.Yields P) :
    (p.onFail cleanup).Yields P := by
  refine yields_bind (yields_attempt hp) ?_
  rintro (e | a) h
  · exact yields_then fun _ => trivial
  · exact h a rfl

theorem yields_foldlM {f : α → β → Prog C R E α} (l : List β) {acc : α} (h : P acc)
    (hf : ∀ acc, P acc → ∀ x ∈ l, (f acc x).Yields P) : (l.foldlM f acc).Yields P := by
  induction l generalizing acc with
  | nil => exact h
  | cons x l ih =>
    rw [List.foldlM_cons]
    exact yields_bind (hf acc h x List.mem_cons_self) fun acc' h' =>
      ih h' fun a ha y hy => hf a ha y (List.mem_cons_of_mem _ hy)

/-- The rule of `Uses` for a program that continues with what the first part may return. -/
theorem uses_bind_yields {p : Prog C R E α} {f : α → Prog C R E β} (hp : p.Uses S) (hy : p.Yields P)
    (hf : ∀ a, P a → (f a).Uses S) : (p.bind f).Uses S := by
  induction p with
  | ret a => exact hf a hy
  | fail e => trivial
  | call c k ih => exact ⟨hp.1, fun r => ih r (hp.2 r) (hy r)⟩

theorem wp.yields {K : Kernel C R W} {I : W → Prop} {p : Prog C R E α} {Q : Except E α → W → Prop}
    {w : W} (h : wp K I p Q w) (hy : p.Yields P) :
    wp K I p (fun x w => Q x w ∧ ∀ a, x = .ok a → P a) w := by
  induction p generalizing w with
  | ret a => exact ⟨h.1, h.2, by rintro _ ⟨⟩; exact hy⟩
  | fail e => exact ⟨h.1, h.2, by rintro _ ⟨⟩⟩
  | call c k ih => exact ⟨h.1, h.2.1, fun r w' hs => ih r (h.2.2 r w' hs) (hy r)⟩

/-! ## Programs that do not fail -/

def Total : Prog C R E α → Prop
  | ret _ => True
  | fail _ => False
  | call _ k => ∀ r, (k r).Total

theorem total_bind {p : Prog C R E β} {f : β → Prog C R E α} (hp : p.Total)
    (hf : ∀ b, (f b).Total) : (p.bind f).Total := by
  induction p with
  | ret b => exact hf b
  | fail e => exact hp.elim
  | call c k ih => exact fun r => ih r (hp r)

theorem total_exec_bind {c : C} {f : R c → Prog C R E α} (hf : ∀ r, (f r).Total) :
    ((exec c : Prog C R E (R c)).bind f).Total := hf

theorem total_attempt (p : Prog C R E α) : (p.attempt : Prog C R E' (Except E α)).Total := by
  induction p with
  | ret a => trivial
  | fail e => trivial
  | call c k ih => exact fun r => ih r

theorem total_when {b : Bool} {p : Prog C R E Unit} (hp : p.Total) : (when b p).Total := by
  cases b
  · trivial
  · exact hp

theorem total_forM {f : β → Prog C R E PUnit} (l : List β) (h : ∀ x ∈ l, (f x).Total) :
    (forM l f).Total := by
  induction l with
  | nil => trivial
  | cons x l ih =>
    rw [List.forM_cons]
    exact total_bind (h x List.mem_cons_self) fun _ => ih fun y hy =>
      h y (List.mem_cons_of_mem _ hy)

theorem total_foldlM {f : α → β → Prog C R E α} (l : List β) {acc : α}
    (hf : ∀ acc, ∀ x ∈ l, (f acc x).Total) : (l.foldlM f acc).Total := by
  induction l generalizing acc with
  | nil => trivial
  | cons x l ih =>
    rw [List.foldlM_cons]
    exact total_bind (hf acc x List.mem_cons_self) fun acc' => ih fun a y hy =>
      hf a y (List.mem_cons_of_mem _ hy)

theorem wp.total {K : Kernel C R W} {I : W → Prop} {p : Prog C R E α}
    {Q : Except E α → W → Prop} {w : W}
    (h : wp K I p Q w) (hp : p.Total) : wp K I p (fun x w => Q x w ∧ ∃ a, x = .ok a) w := by
  induction p generalizing w with
  | ret a => exact ⟨h.1, h.2, a, rfl⟩
  | fail e => exact hp.elim
  | call c k ih => exact ⟨h.1, h.2.1, fun r w' hs => ih r (h.2.2 r w' hs) (hp r)⟩

/-! ## Other conditions on the commands -/

end Prog

/-- The same outcomes under another condition on the commands. -/
def Kernel.withPre {C : Type} {R : C → Type} {W : Type} (K : Kernel C R W) (pre : C → W → Prop) :
    Kernel C R W where
  pre := pre
  sem := K.sem

/-- The outcomes that satisfy `P`. -/
def Kernel.only {C : Type} {R : C → Type} {W : Type} (K : Kernel C R W)
    (P : (c : C) → W → R c → Prop) : Kernel C R W where
  pre := K.pre
  sem c w r w' := P c w r ∧ K.sem c w r w'

/-- The same outcomes in a state that others may change before each command. -/
def Kernel.disturb {C : Type} {R : C → Type} {W : Type} (K : Kernel C R W) (D : W → W → Prop) :
    Kernel C R W where
  pre c w := ∀ w', D w w' → K.pre c w'
  sem c w r w' := ∃ w₁, D w w₁ ∧ K.sem c w₁ r w'

namespace Prog

variable {C : Type} {R : C → Type} {E α W : Type} {K : Kernel C R W} {I : W → Prop}
  {pre : C → W → Prop} {p : Prog C R E α} {Q : Except E α → W → Prop} {w : W}

theorem wp.withPre {S : C → Prop} (h : wp K I p Q w) (hp : p.Uses S)
    (hpre : ∀ c w, S c → I w → pre c w) : wp (K.withPre pre) I p Q w := by
  induction p generalizing w with
  | ret a => exact h
  | fail e => exact h
  | call c k ih =>
    exact ⟨h.1, hpre c w hp.1 h.1, fun r w' hs => ih r (h.2.2 r w' hs) (hp.2 r)⟩

/-- What the steps that meet a condition keep. -/
theorem wp.keep {T : W → Prop} (h : wp (K.withPre pre) I p Q w)
    (hK : ∀ c w, I w → K.pre c w) (hT : T w)
    (hstep : ∀ c w r w', pre c w → I w → K.sem c w r w' → I w' → T w → T w') :
    wp K (fun w => I w ∧ T w) p (fun x w => Q x w ∧ T w) w := by
  induction p generalizing w with
  | ret a => exact ⟨⟨h.1, hT⟩, h.2, hT⟩
  | fail e => exact ⟨⟨h.1, hT⟩, h.2, hT⟩
  | call c k ih =>
    refine ⟨⟨h.1, hT⟩, hK c w h.1, fun r w' hs => ?_⟩
    have hrest := h.2.2 r w' hs
    exact ih r hrest (hstep c w r w' h.2.1 h.1 hs hrest.inv hT)

/-- The rule for a kernel over more state, of which the first one sees a part. -/
theorem wp.comap {V : Type} {K' : Kernel C R V} {f : V → W} {v : V} (h : wp K I p Q (f v))
    (hpre : ∀ c v, K.pre c (f v) → K'.pre c v)
    (hsem : ∀ c v r v', K'.sem c v r v' → K.sem c (f v) r (f v')) :
    wp K' (fun v => I (f v)) p (fun x v => Q x (f v)) v := by
  induction p generalizing v with
  | ret a => exact h
  | fail e => exact h
  | call c k ih =>
    exact ⟨h.1, hpre c v h.2.1, fun r v' hs => ih r (h.2.2 r (f v') (hsem c v r v' hs))⟩

/-- The rule for a kernel with fewer outcomes. -/
theorem wp.only {P : (c : C) → W → R c → Prop} (h : wp K I p Q w) : wp (K.only P) I p Q w :=
  wp.comap (f := id) h (fun _ _ hp => hp) fun _ _ _ _ hs => hs.2

theorem Reaches.withPre {p' : Prog C R E α} {w' : W} (h : Reaches K p w p' w') :
    Reaches (K.withPre pre) p w p' w' := by
  induction h with
  | here => exact .here _ _
  | step hs _ ih => exact .step hs ih

/-- The condition holds wherever a run comes to a command. -/
theorem wp.pre_reached (h : wp (K.withPre pre) I p Q w) {c : C} {k : R c → Prog C R E α} {w' : W}
    (hr : Reaches K p w (call c k) w') : pre c w' :=
  (h.reaches hr.withPre).2.1

end Prog

/-! ## History variables -/

/-- A kernel that updates a history variable at every command. -/
def Kernel.observe {C : Type} {R : C → Type} {W G : Type} (K : Kernel C R W)
    (upd : (c : C) → W → R c → W → G → G) : Kernel C R (W × G) where
  pre c s := K.pre c s.1
  sem c s r s' := K.sem c s.1 r s'.1 ∧ s'.2 = upd c s.1 r s'.1 s.2

namespace Prog

variable {C : Type} {R : C → Type} {E α W G : Type} {K : Kernel C R W} {I : W → Prop}

/-- A history variable changes nothing about the states a program goes through. -/
theorem wp.observe {upd : (c : C) → W → R c → W → G → G} {p : Prog C R E α}
    {Q : Except E α → W → Prop} {w : W} (h : wp K I p Q w) (g : G) :
    wp (K.observe upd) (fun s => I s.1) p (fun x s => Q x s.1) (w, g) :=
  wp.comap (f := Prod.fst) (v := (w, g)) h (fun _ _ hp => hp) fun _ _ _ _ hs => hs.1

/-- What the steps that meet a condition keep of a history variable. -/
theorem wp.observe_withPre {pre : C → W → Prop} {upd : (c : C) → W → R c → W → G → G}
    {T : W → G → Prop} {p : Prog C R E α} {Q : Except E α → W → Prop} {w : W} {g : G}
    (h : wp (K.withPre pre) I p Q w) (hK : ∀ c w, I w → K.pre c w) (hT : T w g)
    (hstep : ∀ c w r w' g, pre c w → I w → K.sem c w r w' → T w g → T w' (upd c w r w' g)) :
    wp (K.observe upd) (fun s => I s.1 ∧ T s.1 s.2) p (fun x s => Q x s.1 ∧ T s.1 s.2) (w, g) := by
  induction p generalizing w g with
  | ret a => exact ⟨⟨h.1, hT⟩, h.2, hT⟩
  | fail e => exact ⟨⟨h.1, hT⟩, h.2, hT⟩
  | call c k ih =>
    refine ⟨⟨h.1, hT⟩, hK c w h.1, ?_⟩
    rintro r ⟨w', g'⟩ ⟨hs, hg⟩
    obtain rfl : g' = upd c w r w' g := hg
    exact ih r (h.2.2 r w' hs) (hstep c w r w' g h.2.1 h.1 hs hT)

/-- Nor does it change while a program issues only commands that do not touch it. -/
theorem wp.observe_uses {upd : (c : C) → W → R c → W → G → G} {S : C → Prop} {p : Prog C R E α}
    {Q : Except E α → W → Prop} {w : W} {g : G} (h : wp K I p Q w) (hp : p.Uses S)
    (hS : ∀ c w r w', S c → upd c w r w' g = g) :
    wp (K.observe upd) (fun s => I s.1) p (fun x s => Q x s.1 ∧ s.2 = g) (w, g) := by
  induction p generalizing w with
  | ret a => exact ⟨h.1, h.2, rfl⟩
  | fail e => exact ⟨h.1, h.2, rfl⟩
  | call c k ih =>
    refine ⟨h.1, h.2.1, ?_⟩
    rintro r ⟨w', g'⟩ ⟨hs, hg⟩
    obtain rfl : g' = g := hg.trans (hS c w r w' hp.1)
    exact ih r (h.2.2 r w' hs) (hp.2 r)

/-- A program whose first command settles a history variable for good. -/
theorem wp.observe_first {upd : (c : C) → W → R c → W → G → G} {c : C} {k : R c → Prog C R E α}
    {Q : Except E α → W → Prop} {w : W} {g g' : G} (h : wp K I (call c k) Q w)
    (hc : ∀ r w', upd c w r w' g = g') (hg : ∀ c w r w', upd c w r w' g' = g') :
    wp (K.observe upd) (fun s => I s.1) (call c k) (fun x s => Q x s.1 ∧ s.2 = g') (w, g) := by
  refine ⟨h.1, h.2.1, ?_⟩
  rintro r ⟨w', g''⟩ ⟨hs, hg''⟩
  obtain rfl : g'' = g' := hg''.trans (hc r w')
  exact wp.observe_uses (h.2.2 r w' hs) (uses_all _) fun c w r w' _ => hg c w r w'

/-! ## Execution -/

/-- Run at most `n` commands under a handler; `none` stops the program where it is. -/
def runN (step : (c : C) → W → Option (R c × W)) : Nat → Prog C R E α → W → Prog C R E α × W
  | n + 1, call c k, w =>
    match step c w with
    | some (r, w') => runN step n (k r) w'
    | none => (call c k, w)
  | _, p, w => (p, w)

/-- The outcome of a program that has ended. -/
def result? : Prog C R E α → Option (Except E α)
  | ret a => some (.ok a)
  | fail e => some (.error e)
  | call _ _ => none

theorem result?_eq_some {p : Prog C R E α} {x : Except E α} :
    p.result? = some x ↔ p = ofExcept x := by
  cases p <;> cases x <;> simp [result?]

/-- What the handler does is a run of the program. -/
theorem runN_reaches {step : (c : C) → W → Option (R c × W)}
    (hstep : ∀ c w r w', step c w = some (r, w') → K.sem c w r w') (n : Nat) (p : Prog C R E α)
    (w : W) : Reaches K p w (runN step n p w).1 (runN step n p w).2 := by
  induction n generalizing p w with
  | zero => cases p <;> exact .here _ _
  | succ n ih =>
    cases p with
    | ret a => exact .here _ _
    | fail e => exact .here _ _
    | call c k =>
      unfold runN
      split
      · rename_i r w' heq
        exact .step (hstep c w r w' heq) (ih _ _)
      · exact .here _ _

theorem runN_ends {step : (c : C) → W → Option (R c × W)}
    (hstep : ∀ c w r w', step c w = some (r, w') → K.sem c w r w') {n : Nat} {p : Prog C R E α}
    {w : W} {x : Except E α} (h : (runN step n p w).1.result? = some x) :
    Ends K p w x (runN step n p w).2 := by
  have hr := runN_reaches hstep n p w
  rw [result?_eq_some.1 h] at hr
  exact hr

/-- A handler for a kernel with fewer outcomes. -/
def onlyStep (step : (c : C) → W → Option (R c × W)) (ok : (c : C) → W → R c → Bool)
    (c : C) (w : W) : Option (R c × W) :=
  (step c w).filter fun x => ok c w x.1

theorem onlyStep_sem {step : (c : C) → W → Option (R c × W)} {ok : (c : C) → W → R c → Bool}
    {P : (c : C) → W → R c → Prop}
    (hstep : ∀ c w r w', step c w = some (r, w') → ok c w r = true → P c w r ∧ K.sem c w r w')
    (c : C) (w : W)
    (r : R c) (w' : W) (h : onlyStep step ok c w = some (r, w')) : (K.only P).sem c w r w' := by
  obtain ⟨hs, hok⟩ := Option.filter_eq_some_iff.1 h
  exact hstep c w r w' hs hok

/-- A handler for a kernel whose state others change: `f` is what they do before a command. -/
def disturbStep (step : (c : C) → W → Option (R c × W)) (f : C → W → W) (c : C) (w : W) :
    Option (R c × W) :=
  step c (f c w)

theorem disturbStep_sem {step : (c : C) → W → Option (R c × W)} {D : W → W → Prop} {f : C → W → W}
    (hstep : ∀ c w r w', step c w = some (r, w') → K.sem c w r w') (hf : ∀ c w, D w (f c w))
    (c : C) (w : W)
    (r : R c) (w' : W) (h : disturbStep step f c w = some (r, w')) : (K.disturb D).sem c w r w' :=
  ⟨f c w, hf c w, hstep c _ r w' h⟩

/-- A handler for a kernel with a history variable. -/
def observeStep (step : (c : C) → W → Option (R c × W))
    (upd : (c : C) → W → R c → W → G → G) (c : C) (s : W × G) : Option (R c × (W × G)) :=
  (step c s.1).map fun x => (x.1, x.2, upd c s.1 x.1 x.2 s.2)

theorem observeStep_sem {step : (c : C) → W → Option (R c × W)}
    (hstep : ∀ c w r w', step c w = some (r, w') → K.sem c w r w')
    {upd : (c : C) → W → R c → W → G → G} (c : C) (s : W × G) (r : R c) (s' : W × G)
    (h : observeStep step upd c s = some (r, s')) : (K.observe upd).sem c s r s' := by
  obtain ⟨⟨r', w'⟩, hx, he⟩ := Option.map_eq_some_iff.1 h
  cases he
  exact ⟨hstep _ _ _ _ hx, rfl⟩

/-! ## Programs inside programs with more commands -/

section Embed

variable {C C' : Type} {R : C → Type} {R' : C' → Type} {E E' α W W' : Type}

/-- The program over other commands: `f` translates the commands, `g` their replies and `h` the
errors. -/
def embed (f : C → C') (g : (c : C) → R' (f c) → R c) (h : E → E') : Prog C R E α → Prog C' R' E' α
  | ret a => ret a
  | fail e => fail (h e)
  | call c k => call (f c) fun r => (k (g c r)).embed f g h

variable {f : C → C'} {g : (c : C) → R' (f c) → R c} {h : E → E'}

/-- Each translated command does on the part `π` of the state what the command does, and keeps `J`
of the rest. -/
theorem wp.embed {K : Kernel C R W} {K' : Kernel C' R' W'} {I : W → Prop}
    {J : W' → Prop} {π : W' → W} (hpre : ∀ c s, J s → K.pre c (π s) → K'.pre (f c) s)
    (hsem : ∀ c s r s', J s → K'.sem (f c) s r s' → K.sem c (π s) (g c r) (π s') ∧ J s')
    {p : Prog C R E α} {Q : Except E α → W → Prop} {s : W'} (hp : wp K I p Q (π s)) (hJ : J s) :
    wp K' (fun s => I (π s) ∧ J s) (p.embed f g h)
      (fun x s => J s ∧ ∃ y, x = y.mapError h ∧ Q y (π s)) s := by
  induction p generalizing s with
  | ret a => exact ⟨⟨hp.1, hJ⟩, hJ, .ok a, rfl, hp.2⟩
  | fail e => exact ⟨⟨hp.1, hJ⟩, hJ, .error e, rfl, hp.2⟩
  | call c k ih =>
    refine ⟨⟨hp.1, hJ⟩, hpre c s hJ hp.2.1, fun r s' hs => ?_⟩
    obtain ⟨hs, hJ'⟩ := hsem c s r s' hJ hs
    exact ih (g c r) (hp.2.2 _ _ hs) hJ'

end Embed

/-! ## Refinement -/

section Refines

variable {C C' : Type} {R : C → Type} {R' : C' → Type} {E α β W W' : Type}
  {K' : Kernel C' R' W'} {K : Kernel C R W} {π : W' → W}

/-- What holds of the runs of `p` holds of those of `q`, whose states `π` takes to the states of
`p`. -/
def Refines (K' : Kernel C' R' W') (K : Kernel C R W) (π : W' → W) (q : Prog C' R' E α)
    (p : Prog C R E α) : Prop :=
  ∀ (I : W → Prop) (Q : Except E α → W → Prop) (s : W'), wp K I p Q (π s) →
    wp K' (fun s => I (π s)) q (fun x s => Q x (π s)) s

/-- One part after the other, where what follows needs to refine only for what may have been
returned. -/
theorem Refines.bind {q : Prog C' R' E α} {p : Prog C R E α} {g : α → Prog C' R' E β}
    {f : α → Prog C R E β}
    (hp : Refines K' K π q p) (hf : ∀ a, Refines K' K π (g a) (f a)) :
    Refines K' K π (q.bind g) (p.bind f) := by
  intro I Q s h
  refine wp_bind.2 ((hp I _ s (wp_bind.1 h)).imp ?_)
  rintro (e | a) s' _ hx
  · exact hx
  · exact hf a I Q s' hx

theorem Refines.attempt {q : Prog C' R' E α} {p : Prog C R E α} (h : Refines K' K π q p) :
    Refines K' K π (q.attempt : Prog C' R' E (Except E α)) (p.attempt : Prog C R E (Except E α)) :=
  fun I _ s hw => wp_attempt.2 (h I _ s (wp_attempt.1 hw))

/-- A command that is not seen through `π` comes before the rest. -/
theorem Refines.skip {c : C'} {g : R' c → Prog C' R' E α} {p : Prog C R E α}
    (hpre : ∀ s, K'.pre c s)
    (hsem : ∀ s r s', K'.sem c s r s' → π s' = π s) (hg : ∀ r, Refines K' K π (g r) p) :
    Refines K' K π ((exec c).bind g) p := by
  intro I Q s h
  refine ⟨h.inv, hpre s, fun r s' hs => ?_⟩
  rw [← hsem s r s' hs] at h
  exact hg r I Q s' h

/-- A program inside one with more commands, where the translated commands do what the commands
do. -/
theorem refines_embed {f : C → C'} {g : (c : C) → R' (f c) → R c} {p : Prog C R E α}
    (hpre : ∀ c s, K.pre c (π s) → K'.pre (f c) s)
    (hsem : ∀ c s r s', K'.sem (f c) s r s' → K.sem c (π s) (g c r) (π s')) :
    Refines K' K π (p.embed f g id) p := by
  intro I Q s h
  refine (wp.embed (J := fun _ => True) (fun c s _ => hpre c s)
    (fun c s r s' _ hs => ⟨hsem c s r s' hs, trivial⟩) h trivial).mono (fun _ hI => hI.1) ?_
  rintro x s' _ ⟨-, y, rfl, hQ⟩
  cases y <;> exact hQ

end Refines

end Prog
