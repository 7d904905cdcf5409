import Apexd.Session

/-!
# The directory of a new session

`ApexSession::CreateSession` when any of the calls `stat`, `mkdir` and `chmod` may fail, under any
umask.

* `dirCalls` — the kernel in which just the calls in `fails` fail and `mkdir` leaves out the bits of
  the umask.
* `wp_createDirIfNeeded_calls` — when `createDirIfNeeded` succeeds, and when the directory has its
  mode.
* `createSession_dirMode_iff` — no error of these calls comes out of `CreateSession`, so what it
  says holds exactly when the directory can be made or has its mode already.
-/

set_option autoImplicit false

namespace Apexd

open Text Prog

/-- `mode & ~umask` -/
def masked (umask mode : Nat) : Nat := mode ^^^ (mode &&& umask)

/-- The calls that make a directory. -/
def DirCall : Sys → Prop
  | .stat _ | .mkdir _ _ | .chmod _ _ => True
  | _ => False

/-- The calls in `fails` fail, with any reason but a missing file for `stat`; all others do what
they do. -/
def dirCalls (umask : Nat) (fails : Sys → Prop) : Kernel Sys Sys.Res World where
  pre _ _ := True
  sem
    | .stat p, w, r, w' =>
      (fails (.stat p) ∧ (∃ e : Errno, e ≠ .enoent ∧ r = .error e) ∧ w' = w) ∨
        (¬ fails (.stat p) ∧ r = w.stat p ∧ w' = w)
    | .mkdir p mode, w, r, w' =>
      (fails (.mkdir p mode) ∧ (∃ e : Errno, r = .error e) ∧ w' = w) ∨
        (¬ fails (.mkdir p mode) ∧ (r, w') = w.mkdir p (masked umask mode))
    | .chmod p mode, w, r, w' =>
      (fails (.chmod p mode) ∧ (∃ e : Errno, r = .error e) ∧ w' = w) ∨
        (¬ fails (.chmod p mode) ∧ (r, w') = w.chmod p mode)
    | c, w, r, w' => c.Normal w r w'

/-- A directory with a mode. -/
def World.HasDir (w : World) (p : String) (mode : Nat) :
    Prop := ∃ d, w.dirs p = some d ∧ d.mode = mode

/-- A directory may be added at a path: nothing is there, and its parent takes it. -/
def World.Vacant (w : World) (p : String) : Prop :=
  w.dirs p = none ∧ w.mounted p = none ∧ w.mounted (dirName p) = none ∧
    ∃ parent : Dir, w.dirs (dirName p) = some parent ∧ parent.lookup (baseName p) = none

section Calls

variable {umask : Nat} {fails : Sys → Prop} {w : World} {path : String} {mode : Nat}

theorem World.Vacant.file? (h : w.Vacant path) : w.file? path = none := by
  obtain ⟨-, -, -, parent, hd, hl⟩ := h
  unfold World.file? World.node?
  rw [hd, Option.bind_some, hl]
  rfl

theorem World.Vacant.mkdir (h : w.Vacant path) (mode : Nat) :
    ∃ parent : Dir, w.mkdir path mode = (.ok (), (w.setDir (dirName path) (some parent)).setDir path
      (some (Dir.empty mode))) := by
  obtain ⟨hd, -, hm, parent, hp, hl⟩ := h
  refine ⟨parent.insert (baseName path) (noSlash_baseName path) .dir, ?_⟩
  unfold World.mkdir
  simp only [hd, hm, hp, hl, Option.isSome_none, Bool.false_eq_true, if_false]

/-- Where `stat` finds nothing, `mkdir` fails if the place is not vacant. -/
theorem World.mkdir_not_vacant (hm : w.mounted path = none) (h : ¬ w.Vacant path) (mode : Nat) :
    ∃ e, w.mkdir path mode = (.error e, w) := by
  rcases w.mkdir_cases path mode with he | ⟨parent, hn, hd, hl, he⟩
  · exact he
  · by_cases hp : w.mounted (dirName path) = none
    · exact absurd ⟨hn, hm, hp, parent, hd, hl⟩ h
    · refine ⟨.eacces, ?_⟩
      unfold World.mkdir
      rw [hn, if_neg (by simp), if_pos (Option.isSome_iff_ne_none.2 hp)]

/-- The directory is there or can be made. -/
def World.DirReady (fails : Sys → Prop) (w : World) (path : String) (mode : Nat) : Prop :=
  ¬ fails (.stat path) ∧ ((w.dirs path).isSome ∨ w.Vacant path ∧ ¬ fails (.mkdir path mode))

/-- The directory gets its mode: from `chmod`, or from `mkdir` when the umask takes nothing away. -/
def World.GetsMode (umask : Nat) (fails : Sys → Prop) (w : World) (path : String) (mode : Nat) :
    Prop :=
  ¬ fails (.stat path) ∧
    ((w.dirs path).isSome ∧ ¬ fails (.chmod path mode) ∨
      w.Vacant path ∧ ¬ fails (.mkdir path mode) ∧
        (¬ fails (.chmod path mode) ∨ masked umask mode = mode))

/-- What `createDirIfNeeded` has done. -/
structure World.DirTried (umask : Nat) (fails : Sys → Prop) (path : String) (mode : Nat) (w : World)
    (x : Except String Unit) (w' : World) : Prop where
  mounts : w'.mounts = w.mounts
  other : ∀ q, q ≠ path → q ≠ dirName path → w'.dirs q = w.dirs q
  ok : x = .ok () ↔ w.DirReady fails path mode ∧ ¬ fails (.chmod path mode)
  made : x = .ok () → ∃ d, w'.dirs path = some d ∧
    d.entries = ((w.dirs path).map (·.entries)).getD []
  mode : w'.HasDir path mode ↔ w.HasDir path mode ∨ w.GetsMode umask fails path mode

theorem World.dirTried_fails {e : String} (h : ¬ w.DirReady fails path mode) :
    w.DirTried umask fails path mode (.error e) w where
  mounts := rfl
  other _ _ _ := rfl
  ok := iff_of_false nofun fun hr => h hr.1
  made := nofun
  mode := by
    refine ⟨Or.inl, ?_⟩
    rintro (hd | ⟨hs, hd | hv⟩)
    · exact hd
    · exact absurd ⟨hs, Or.inl hd.1⟩ h
    · exact absurd ⟨hs, Or.inr ⟨hv.1, hv.2.1⟩⟩ h

/-- `chmod` and what it leaves. -/
theorem wp_chmod_calls {Q : Except String Unit → World → Prop} {msg : String}
    (hok : ∀ d, w.dirs path = some d → ¬ fails (.chmod path mode) →
      Q (.ok ()) (w.setDir path (some (d.chmod mode))))
    (herr : ∀ e, w.dirs path = none ∨ fails (.chmod path mode) → Q (.error e) w) :
    wp (dirCalls umask fails) (fun _ => True) (sys (.chmod path mode) >>= check msg) Q w := by
  refine ⟨trivial, trivial, ?_⟩
  rintro r w' (⟨hf, ⟨e, rfl⟩, rfl⟩ | ⟨hf, hs⟩)
  · exact ⟨trivial, herr _ (Or.inr hf)⟩
  · unfold World.chmod at hs
    cases hd : w.dirs path with
    | none =>
      rw [hd] at hs
      cases hs
      exact ⟨trivial, herr _ (Or.inl hd)⟩
    | some d =>
      rw [hd] at hs
      cases hs
      exact ⟨trivial, hok d hd hf⟩

/-- `chmod` of what is there. -/
theorem wp_chmod_there (hs : ¬ fails (.stat path))
    (hex : (w.mounted path).isSome ∨ (w.dirs path).isSome) :
    wp (dirCalls umask fails) (fun _ => True)
      (sys (.chmod path mode) >>= check ("Could not chmod " ++ path))
      (w.DirTried umask fails path mode) w := by
  have hvac : ¬ w.Vacant path := by
    rintro ⟨hd, hm, -⟩
    simp [hd, hm] at hex
  refine wp_chmod_calls ?_ ?_
  · intro d hd hc
    have hsome : (w.dirs path).isSome := by simp [hd]
    refine ⟨rfl, fun q hq _ => World.setDir_other _ _ hq, ?_, ?_, ?_⟩
    · exact iff_of_true rfl ⟨⟨hs, Or.inl hsome⟩, hc⟩
    · intro _
      exact ⟨_, World.setDir_self _ _ _, by rw [hd]; rfl⟩
    · exact iff_of_true ⟨_, World.setDir_self _ _ _, rfl⟩ (Or.inr ⟨hs, Or.inl ⟨hsome, hc⟩⟩)
  · intro e hne
    refine ⟨rfl, fun _ _ _ => rfl, iff_of_false nofun ?_, nofun, ⟨Or.inl, ?_⟩⟩
    · rintro ⟨⟨-, hr⟩, hc⟩
      rcases hr with hd | ⟨hv, -⟩
      · rcases hne with hn | hf
        · simp [hn] at hd
        · exact hc hf
      · exact hvac hv
    · rintro (hd | ⟨-, ⟨hd, hc⟩ | ⟨hv, -⟩⟩)
      · exact hd
      · rcases hne with hn | hf
        · simp [hn] at hd
        · exact absurd hf hc
      · exact absurd hv hvac

/-- `chmod` of a directory that was just made. -/
theorem wp_chmod_made (hs : ¬ fails (.stat path)) (hv : w.Vacant path)
    (hfm : ¬ fails (.mkdir path mode)) (parent : Dir) :
    wp (dirCalls umask fails) (fun _ => True)
      (sys (.chmod path mode) >>= check ("Could not chmod " ++ path))
      (w.DirTried umask fails path mode)
      ((w.setDir (dirName path) (some parent)).setDir path
        (some (Dir.empty (masked umask mode)))) := by
  have hd : w.dirs path = none := hv.1
  have hnone : ¬ (w.dirs path).isSome := by simp [hd]
  have hother : ∀ q, q ≠ path → q ≠ dirName path →
      ((w.setDir (dirName path) (some parent)).setDir path
        (some (Dir.empty (masked umask mode)))).dirs q = w.dirs q := fun q h h' => by
    rw [World.setDir_other _ _ h, World.setDir_other _ _ h']
  refine wp_chmod_calls ?_ ?_
  · intro d hd' hc
    rw [World.setDir_self] at hd'
    cases hd'
    refine ⟨rfl, ?_, iff_of_true rfl ⟨⟨hs, Or.inr ⟨hv, hfm⟩⟩, hc⟩, ?_, ?_⟩
    · intro q h h'
      rw [World.setDir_other _ _ h, hother q h h']
    · intro _
      exact ⟨_, World.setDir_self _ _ _, by rw [hd]; rfl⟩
    · exact iff_of_true ⟨_, World.setDir_self _ _ _, rfl⟩
        (Or.inr ⟨hs, Or.inr ⟨hv, hfm, Or.inl hc⟩⟩)
  · intro e hne
    rw [World.setDir_self] at hne
    have hfc : fails (.chmod path mode) := hne.resolve_left nofun
    refine ⟨rfl, hother, iff_of_false nofun fun h => h.2 hfc, nofun, ?_⟩
    -- the directory has the mode that `mkdir` gave it
    constructor
    · rintro ⟨d, hd', hmode⟩
      rw [World.setDir_self] at hd'
      cases hd'
      exact Or.inr ⟨hs, Or.inr ⟨hv, hfm, Or.inr hmode⟩⟩
    · rintro (⟨d, hd', -⟩ | ⟨-, ⟨h, -⟩ | ⟨-, -, h | h⟩⟩)
      · rw [hd] at hd'
        cases hd'
      · exact absurd h hnone
      · exact absurd hfc h
      · exact ⟨_, World.setDir_self _ _ _, h⟩

/-- **When `createDirIfNeeded` succeeds**, and when the directory has its mode afterwards. -/
theorem wp_createDirIfNeeded_calls :
    wp (dirCalls umask fails) (fun _ => True) (createDirIfNeeded path mode)
      (w.DirTried umask fails path mode) w := by
  unfold createDirIfNeeded
  rw [bind_eq, exec_bind]
  refine ⟨trivial, trivial, ?_⟩
  rintro r w' (⟨hf, ⟨e, he, rfl⟩, rfl⟩ | ⟨hs, rfl, rfl⟩)
  · have hnot : ¬ w'.DirReady fails path mode := fun hr => hr.1 hf
    cases e <;> first | exact absurd rfl he | exact ⟨trivial, World.dirTried_fails hnot⟩
  cases hm : w'.mounted path with
  | some m =>
    rw [show w'.stat path = .ok ⟨true, 0o755⟩ by unfold World.stat; rw [hm]]
    exact wp_chmod_there hs (Or.inl (by simp [hm]))
  | none =>
    cases hd : w'.dirs path with
    | some d =>
      rw [show w'.stat path = .ok ⟨true, d.mode⟩ by unfold World.stat; rw [hm, hd]]
      exact wp_chmod_there hs (Or.inr (by simp [hd]))
    | none =>
      have hnone : ¬ (w'.dirs path).isSome := by simp [hd]
      cases hf : w'.file? path with
      | some f =>
        rw [show w'.stat path = .ok ⟨false, 0o644⟩ by unfold World.stat; rw [hm, hd, hf]]
        refine ⟨trivial, World.dirTried_fails ?_⟩
        rintro ⟨-, h | ⟨hv, -⟩⟩
        · exact hnone h
        · rw [hv.file?] at hf
          cases hf
      | none =>
        rw [show w'.stat path = .error .enoent by unfold World.stat; rw [hm, hd, hf]]
        refine ⟨trivial, trivial, ?_⟩
        rintro r w₁ (⟨hfm, ⟨e, rfl⟩, rfl⟩ | ⟨hfm, hmk⟩)
        · refine ⟨trivial, World.dirTried_fails ?_⟩
          rintro ⟨-, h | h⟩
          · exact hnone h
          · exact h.2 hfm
        · by_cases hv : w'.Vacant path
          · obtain ⟨parent, hmade⟩ := hv.mkdir (masked umask mode)
            rw [hmade] at hmk
            cases hmk
            exact wp_chmod_made hs hv hfm parent
          · obtain ⟨e, he⟩ := World.mkdir_not_vacant hm hv (masked umask mode)
            rw [he] at hmk
            cases hmk
            refine ⟨trivial, World.dirTried_fails ?_⟩
            rintro ⟨-, h | h⟩
            · exact hnone h
            · exact hv h.1

/-! ## The session directory -/

theorem dirCalls_some (c : Sys) (h : DirCall c) : ∃ r w', (dirCalls umask fails).sem c w r w' := by
  cases c with
  | stat p =>
    by_cases hf : fails (.stat p)
    · exact ⟨_, _, Or.inl ⟨hf, ⟨.eio, by decide, rfl⟩, rfl⟩⟩
    · exact ⟨_, _, Or.inr ⟨hf, rfl, rfl⟩⟩
  | mkdir p mode =>
    by_cases hf : fails (.mkdir p mode)
    · exact ⟨_, _, Or.inl ⟨hf, ⟨.eio, rfl⟩, rfl⟩⟩
    · exact ⟨_, _, Or.inr ⟨hf, rfl⟩⟩
  | chmod p mode =>
    by_cases hf : fails (.chmod p mode)
    · exact ⟨_, _, Or.inl ⟨hf, ⟨.eio, rfl⟩, rfl⟩⟩
    · exact ⟨_, _, Or.inr ⟨hf, rfl⟩⟩
  | _ => exact h.elim

/-- The session directory has its mode already, or `/data/apex/sessions` is or can be made a
directory and the session directory then gets its mode. -/
def World.SessionDirMade (umask : Nat) (fails : Sys → Prop) (w : World) (id : Int32) : Prop :=
  w.HasDir (getSessionDir id) 0o700 ∨
    w.DirReady fails kApexSessionsDir 0o700 ∧ ¬ fails (.chmod kApexSessionsDir 0o700) ∧
      ¬ fails (.stat (getSessionDir id)) ∧
      ((w.dirs (getSessionDir id)).isSome ∧ ¬ fails (.chmod (getSessionDir id) 0o700) ∨
        w.dirs (getSessionDir id) = none ∧ w.mounted (getSessionDir id) = none ∧
          w.mounted kApexSessionsDir = none ∧
          (∀ d, w.dirs kApexSessionsDir = some d → d.lookup (toString id) = none) ∧
          ¬ fails (.mkdir (getSessionDir id) 0o700) ∧
          (¬ fails (.chmod (getSessionDir id) 0o700) ∨ masked umask 0o700 = 0o700))

/-- In the state that the first call leaves, the session directory is as vacant as before. -/
theorem World.DirTried.vacant {id : Int32} {w₁ : World}
    (h : w.DirTried umask fails kApexSessionsDir 0o700 (.ok ()) w₁) :
    w₁.Vacant (getSessionDir id) ↔
      w.dirs (getSessionDir id) = none ∧ w.mounted (getSessionDir id) = none ∧
        w.mounted kApexSessionsDir = none ∧
        ∀ d, w.dirs kApexSessionsDir = some d → d.lookup (toString id) = none := by
  obtain ⟨d₁, hd₁, he⟩ := h.made rfl
  have hmounted : ∀ p, w₁.mounted p = w.mounted p := fun p => by
    unfold World.mounted
    rw [h.mounts]
  have hother : w₁.dirs (getSessionDir id) = w.dirs (getSessionDir id) :=
    h.other _ (sessions_ne_sessionDir id).symm (join_ne (by decide))
  have hbase : baseName (getSessionDir id) = toString id := baseName_join (noSlash_int _) _
  have hlookup : d₁.lookup (toString id) = none ↔
      ∀ d, w.dirs kApexSessionsDir = some d → d.lookup (toString id) = none := by
    unfold Dir.lookup
    rw [he]
    cases w.dirs kApexSessionsDir with
    | none => simp
    | some d => simp
  unfold World.Vacant
  rw [hother, hmounted, hmounted, dirName_getSessionDir, hd₁, hbase, ← hlookup]
  constructor
  · rintro ⟨hn, hm, hms, parent, hp, hl⟩
    cases hp
    exact ⟨hn, hm, hms, hl⟩
  · rintro ⟨hn, hm, hms, hl⟩
    exact ⟨hn, hm, hms, d₁, rfl, hl⟩

/-- `CreateSession` returns a session whatever happens; the directory is there when it can be
made. -/
theorem wp_createSession_calls {id : Int32} :
    wp (dirCalls umask fails) (fun _ => True) (createSession id) (fun x w' => (∃ s, x = .ok s) ∧
      (w'.HasDir (getSessionDir id) 0o700 ↔ w.SessionDirMade umask fails id)) w := by
  unfold createSession createSessionDirIfNeeded
  simp only [bind_eq, Prog.bind_assoc]
  refine wp_bind.2 (wp_attempt.2 (wp_createDirIfNeeded_calls.imp ?_))
  rintro (e | _) w₁ - h₁
  · -- nothing more is tried
    have hnot : ¬ (w.DirReady fails kApexSessionsDir 0o700 ∧
        ¬ fails (.chmod kApexSessionsDir 0o700)) := fun h =>
      nomatch h₁.ok.2 h
    have hsame : w₁.dirs (getSessionDir id) = w.dirs (getSessionDir id) :=
      h₁.other _ (sessions_ne_sessionDir id).symm (join_ne (by decide))
    refine ⟨trivial, ⟨_, rfl⟩, ?_⟩
    unfold World.HasDir World.SessionDirMade
    rw [hsame]
    constructor
    · exact Or.inl
    · rintro (h | ⟨hr, hc, -⟩)
      · exact h
      · exact absurd ⟨hr, hc⟩ hnot
  · have hok := h₁.ok.1 rfl
    have hsame : w₁.dirs (getSessionDir id) = w.dirs (getSessionDir id) :=
      h₁.other _ (sessions_ne_sessionDir id).symm (join_ne (by decide))
    have hmade : ∀ w' : World, (w'.HasDir (getSessionDir id) 0o700 ↔
        w₁.HasDir (getSessionDir id) 0o700 ∨ w₁.GetsMode umask fails (getSessionDir id) 0o700) →
        (w'.HasDir (getSessionDir id) 0o700 ↔ w.SessionDirMade umask fails id) := by
      intro w' h
      unfold World.HasDir World.GetsMode at h
      unfold World.HasDir World.SessionDirMade
      rw [h, h₁.vacant, hsame]
      simp only [hok, true_and, and_assoc, not_false_eq_true]
      rfl
    refine wp_bind.2 (wp_bind.2 (wp_attempt.2 (wp_createDirIfNeeded_calls.imp ?_)))
    rintro (e | _) w' - h₂
    · exact ⟨trivial, trivial, ⟨_, rfl⟩, hmade w' h₂.mode⟩
    · exact ⟨trivial, trivial, ⟨_, rfl⟩, hmade w' h₂.mode⟩

/-- **What `CreateSession` says** holds exactly when the directory has its mode already or can be
made: no failure of a call is reported. -/
theorem createSession_dirMode_iff (umask : Nat) (fails : Sys → Prop) (id : Int32) (w : World) :
    wp (dirCalls umask fails) (fun _ => True) (createSession id)
      (fun x w' => (∃ s, x = .ok s) → w'.HasDir (getSessionDir id) 0o700) w ↔
      w.SessionDirMade umask fails id := by
  constructor
  · intro h
    obtain ⟨x, w', -, hQ, hok, hiff⟩ := (h.and wp_createSession_calls).exists_ends
      (uses_createSession (S := DirCall) (fun _ => trivial) (fun _ _ => trivial) fun _ _ => trivial)
      fun c _ hc _ => dirCalls_some c hc
    exact hiff.1 (hQ hok)
  · intro h
    exact wp_createSession_calls.imp fun _ _ _ hx _ => hx.2.2 h

end Calls

/-- A session "created" on a file system that lets nothing be made. -/
theorem createSession_readOnly :
    ¬ ∀ (umask : Nat) (fails : Sys → Prop) (id : Int32) (w : World),
      wp (dirCalls umask fails) (fun _ => True) (createSession id)
        (fun x w' => (∃ s, x = .ok s) → w'.HasDir (getSessionDir id) 0o700) w := by
  intro h
  have hrun := h 0o077 (fun c => match c with | .mkdir _ _ => True | _ => False) 5
    (World.ofDirs [(kApexDataDir, Dir.empty 0o755)])
  -- `stat` finds no sessions directory and `mkdir` fails
  have hstat : World.stat (World.ofDirs [(kApexDataDir, Dir.empty 0o755)]) kApexSessionsDir =
      .error .enoent := by
    decide
  have hmkdir := (hrun.2.2 _ _ (Or.inr ⟨nofun, hstat.symm, rfl⟩)).2.2 _ _
    (Or.inl ⟨trivial, ⟨.eacces, rfl⟩, rfl⟩)
  obtain ⟨d, hd, -⟩ := hmkdir.2 ⟨_, rfl⟩
  have hnone : World.dirs (World.ofDirs [(kApexDataDir, Dir.empty 0o755)])
      (getSessionDir 5) = none := by
    decide
  rw [hnone] at hd
  cases hd

end Apexd
