import Apexd.StageAtomic

/-!
# The devices of a mount

`mountNonFlattened` from the first loop device to the accepted mount, when every call may be refused
but the clean-up calls succeed.

* `Held` — the devices a program has bound or created and not let go.
* `Free`, `Holds` — nothing acquired; a loop device, perhaps a dm device on it, perhaps a mount.
  One lemma for each call that leads from one to the other, one `wp_` lemma for each function.
* `mountNonFlattened_devices` — what is held at the end, and what `LOOP_CLR_FD` finds.
-/

set_option autoImplicit false

namespace Apexd

open Text Prog

/-! ## What is held -/

/-- The devices a program has bound or created and not let go. -/
structure Held where
  loops : List String
  dms : List String

def Held.nothing : Held := ⟨[], []⟩

def Held.upd : (c : Sys) → World → c.Res → World → Held → Held
  | .loopSetFd d _, _, .ok _, _, h => { h with loops := d :: h.loops }
  | .loopClrFd d, _, .ok _, _, h => { h with loops := h.loops.erase d }
  | .dmCreate n _, _, true, _, h => { h with dms := n :: h.dms }
  | .dmDelete n, _, true, _, h => { h with dms := h.dms.erase n }
  | _, _, _, _, h => h

/-- Clean-up calls do what they are for: only the deletion of a device the program did not create
may be refused. -/
def Sys.CleansUp : (c : Sys) → World × Held → c.Res → Prop
  | .umount2 p, s, r => r = (s.1.umount2 p).1
  | .rmdir p, s, r => r = (s.1.rmdir p).1
  | .loopClrFd d, s, r => d ∈ s.2.loops → r = .ok ()
  | .dmDelete n, s, r => n ∈ s.2.dms → r = true
  | _, _, _ => True

/-- Any call may be refused, but clean-up succeeds. -/
def cleanKernel : Kernel Sys Sys.Res (World × Held) :=
  ((kernel .off Sys.Refused).observe Held.upd).only Sys.CleansUp

/-- What `LOOP_CLR_FD` should find: nothing stands on the device, and the program has bound it,
unless nobody has. -/
def ClearsOwn : Sys → World × Held → Prop
  | .loopClrFd d, s => ¬ s.1.loopHeld d ∧ (d ∈ s.2.loops ∨ s.1.findLoop d = none)
  | _, _ => True

/-- The kernel under which `LOOP_CLR_FD` is watched. -/
def deviceKernel : Kernel Sys Sys.Res (World × Held) := cleanKernel.withPre ClearsOwn

/-- Nothing more is held than at the start. -/
structure Free (s₀ s : World × Held) : Prop where
  only : s₀.1.OnlyDevices s.1
  loops : s.1.loops.Sublist s₀.1.loops
  dms : s.1.dms.Sublist s₀.1.dms
  held : s.2 = s₀.2

/-- A loop device for the file `path`, perhaps a dm device on it, perhaps a mount. -/
structure Holds (s₀ : World × Held) (loop path : String) (dm : Option DmDevice) (m : Option Mount)
    (s : World × Held) : Prop where
  world : s.1 = { s₀.1 with mounts := m.toList ++ s₀.1.mounts, loops := s.1.loops, dms := s.1.dms }
  loops : ∃ l rest, s.1.loops = l :: rest ∧ l.device = loop ∧ l.backing = path ∧
    l.autoclear = false ∧ rest.Sublist s₀.1.loops ∧ ∀ x ∈ rest, x.device ≠ loop
  dms : ∃ rest, s.1.dms = dm.toList ++ rest ∧ rest.Sublist s₀.1.dms ∧
    ∀ x ∈ rest, x.slave ≠ loop ∧ ∀ d ∈ dm, x.name ≠ d.name
  mounts : ∀ x ∈ s₀.1.mounts, x.loop ≠ some loop
  held : s.2 = ⟨loop :: s₀.2.loops, dm.toList.map (·.name) ++ s₀.2.dms⟩

theorem Free.refl (s : World × Held) :
    Free s s := ⟨rfl, List.Sublist.refl _, List.Sublist.refl _, rfl⟩

/-- A step of this kernel: a normal outcome, or a refusal without effect. -/
theorem clean_cases {c : Sys} {r : c.Res} {s s' : World × Held} (h : cleanKernel.sem c s r s') :
    c.CleansUp s r ∧ ∃ w', s' = (w', Held.upd c s.1 r w' s.2) ∧
      (c.Normal s.1 r w' ∨ c.refusal r ∧ w' = s.1) := by
  obtain ⟨w', g'⟩ := s'
  obtain ⟨hc, hs, hg⟩ := h
  exact ⟨hc, w', congrArg (Prod.mk w') hg, hs⟩

section Steps

variable {s₀ s s' : World × Held} {loop path : String} {dm : Option DmDevice} {m : Option Mount}

theorem World.OnlyDevices.trans {w w' w'' : World} (h : w.OnlyDevices w')
    (h' : w'.OnlyDevices w'') : w.OnlyDevices w'' := by
  unfold World.OnlyDevices at *
  rw [h', h]

theorem World.settle_onlyDevices (w : World) : w.OnlyDevices w.settle := rfl

/-- Changes of devices alone leave the rest as it is. -/
theorem Holds.world_of (h : Holds s₀ loop path dm m s) {w' : World} (hd : s.1.OnlyDevices w') :
    w' = { s₀.1 with mounts := m.toList ++ s₀.1.mounts, loops := w'.loops, dms := w'.dms } := by
  unfold World.OnlyDevices at hd
  rw [hd, h.world]

/-- A loop device that is not marked stays when the others settle. -/
theorem settle_loops {w : World} {l : Loop} {rest : List Loop} (hl : w.loops = l :: rest)
    (ha : l.autoclear = false) :
    ∃ rest', w.settle.loops = l :: rest' ∧ rest'.Sublist rest := by
  refine ⟨rest.filter fun x => decide (x.autoclear = true → w.loopHeld x.device), ?_,
    List.filter_sublist⟩
  simp [World.settle, hl, ha]

theorem Holds.settle (h : Holds s₀ loop path dm m s) :
    Holds s₀ loop path dm m (s.1.settle, s.2) := by
  obtain ⟨l, rest, hl, hd, hp, ha, hsub, hne⟩ := h.loops
  obtain ⟨rest', hl', hsub'⟩ := settle_loops hl ha
  refine ⟨?_, ⟨l, rest', hl', hd, hp, ha, hsub'.trans hsub, fun x hx => hne x (hsub'.subset hx)⟩,
    h.dms, h.mounts, h.held⟩
  exact h.world_of s.1.settle_onlyDevices

theorem Holds.findLoop (h : Holds s₀ loop path dm m s) : ∃ l, s.1.findLoop loop = some l := by
  obtain ⟨l, rest, hl, hd, -⟩ := h.loops
  exact ⟨l, by simp [World.findLoop, hl, hd]⟩

/-- Nothing stands on the device any more. -/
theorem Holds.notHeld (h : Holds s₀ loop path none none s) : ¬ s.1.loopHeld loop := by
  obtain ⟨rest, hd, -, hne⟩ := h.dms
  rintro (⟨x, hx, hxl⟩ | ⟨d, hdm, hds⟩)
  · rw [h.world] at hx
    exact h.mounts x hx hxl
  · rw [hd] at hdm
    exact (hne d hdm).1 hds

/-- `LOOP_SET_FD` on a device that is not in use. -/
theorem Free.setFd (h : Free s₀ s) (hu : ¬ s.1.loopInUse loop) {r : Except Errno Unit}
    (hs : cleanKernel.sem (.loopSetFd loop path) s r s') :
    (r = .ok () ∧ Holds s₀ loop path none none s') ∨ ∃ e, r = .error e ∧ s' = s := by
  obtain ⟨-, w', rfl, hn | ⟨⟨e, -, rfl⟩, rfl⟩⟩ := clean_cases hs
  · have hn' : (r, w') = s.1.loopSetFd loop path := hn
    unfold World.loopSetFd at hn'
    split at hn'
    · cases hn'
      exact Or.inr ⟨_, rfl, rfl⟩
    · cases hn'
      exact Or.inr ⟨_, rfl, rfl⟩
    · rename_i f _ _
      cases hn'
      refine Or.inl ⟨rfl, ⟨?_, ⟨_, s.1.loops, rfl, rfl, rfl, rfl, h.loops, ?_⟩,
        ⟨s.1.dms, rfl, h.dms, ?_⟩, ?_, ?_⟩⟩
      · exact h.only.trans rfl
      · intro x hx hxd
        exact hu (Or.inl ⟨x, hx, hxd⟩)
      · intro x hx
        exact ⟨fun hxs => hu (Or.inr (Or.inr ⟨x, hx, hxs⟩)), by rintro d ⟨⟩⟩
      · intro x hx hxl
        refine hu (Or.inr (Or.inl ⟨x, ?_, hxl⟩))
        rw [h.only]
        exact hx
      · simp [Held.upd, h.held]
  · exact Or.inr ⟨e, rfl, rfl⟩

/-- `LOOP_CLR_FD` on a device nobody has bound. -/
theorem Free.clrFd (h : Free s₀ s) (hf : s.1.findLoop loop = none) {r : Except Errno Unit}
    (hs : cleanKernel.sem (.loopClrFd loop) s r s') : Free s₀ s' := by
  obtain ⟨-, w', rfl, hn | ⟨⟨e, -, rfl⟩, rfl⟩⟩ := clean_cases hs
  · have hn' : (r, w') = s.1.loopClrFd loop := hn
    unfold World.loopClrFd at hn'
    rw [hf] at hn'
    cases hn'
    exact h
  · exact h

/-- `LOOP_SET_STATUS64` on the device that was bound. -/
theorem Holds.setStatus (h : Holds s₀ loop path dm m s) {o : Int} {z : Nat} {i : String}
    {r : Except Errno Unit}
    (hs : cleanKernel.sem (.loopSetStatus loop o z i) s r s') : Holds s₀ loop path dm m s' := by
  obtain ⟨-, w', rfl, hn | ⟨⟨e, -, rfl⟩, rfl⟩⟩ := clean_cases hs
  · have hn' : (r, w') = s.1.loopSetStatus loop o z i := hn
    obtain ⟨l₀, hl₀⟩ := h.findLoop
    unfold World.loopSetStatus at hn'
    rw [hl₀] at hn'
    cases hn'
    obtain ⟨l, rest, hl, hd, hp, ha, hsub, hne⟩ := h.loops
    refine ⟨?_, ⟨{ l with offset := o, sizeLimit := z, id := i }, rest, ?_, hd, hp, ha, hsub, hne⟩,
      h.dms, h.mounts, h.held⟩
    · exact h.world_of rfl
    · have hrest : rest.map (fun l => if l.device = loop then
          { l with offset := o, sizeLimit := z, id := i } else l) = rest := by
        refine (List.map_congr_left fun x hx => ?_).trans (List.map_id rest)
        exact if_neg (hne x hx)
      simp only [hl, List.map_cons, if_pos hd, hrest]
  · exact h

/-- `LOOP_CLR_FD` lets the device go. -/
theorem Holds.clrFd (h : Holds s₀ loop path none none s) {r : Except Errno Unit}
    (hs : cleanKernel.sem (.loopClrFd loop) s r s') : Free s₀ s' := by
  obtain ⟨hc, w', rfl, hn | ⟨⟨e, -, he⟩, -⟩⟩ := clean_cases hs
  · have hn' : (r, w') = s.1.loopClrFd loop := hn
    obtain ⟨l₀, hl₀⟩ := h.findLoop
    unfold World.loopClrFd at hn'
    rw [hl₀] at hn'
    cases hn'
    obtain ⟨l, rest, hl, hd, hp, ha, hsub, hne⟩ := h.loops
    obtain ⟨restd, hdms, hdsub, -⟩ := h.dms
    have hheld := h.notHeld
    refine ⟨?_, ?_, ?_, ?_⟩
    · exact h.world_of rfl
    · have hrest : rest.map (fun l => if l.device = loop then { l with autoclear := true } else l) =
        rest := by
        refine (List.map_congr_left fun x hx => ?_).trans (List.map_id rest)
        exact if_neg (hne x hx)
      have hsettle : (({ s.1 with loops := s.1.loops.map fun l =>
          if l.device = loop then { l with autoclear := true } else l } : World).settle).loops =
            rest.filter fun x => decide (x.autoclear = true → s.1.loopHeld x.device) := by
        simp only [World.settle, hl, List.map_cons, if_pos hd, hrest]
        rw [List.filter_cons_of_neg]
        · rfl
        · simp only [hd, Bool.not_eq_true, decide_eq_false_iff_not, forall_const]
          exact hheld
      rw [hsettle]
      exact List.filter_sublist.trans hsub
    · rw [show (({ s.1 with loops := _ } : World).settle).dms = s.1.dms from rfl, hdms]
      exact hdsub
    · simp [Held.upd, h.held]
  · have hok : r = .ok () := hc (by rw [h.held]; exact List.mem_cons_self)
    rw [hok] at he
    cases he

/-- A device of this name that was there before may go. -/
theorem Holds.dmDelete_old (h : Holds s₀ loop path none none s) {name : String}
    (hn : name ∉ s₀.2.dms) {r : Bool}
    (hs : cleanKernel.sem (.dmDelete name) s r s') : Holds s₀ loop path none none s' := by
  obtain ⟨-, w', rfl, hnorm | ⟨rfl, rfl⟩⟩ := clean_cases hs
  · have hd : (r, w') = s.1.dmDelete name := hnorm
    unfold World.dmDelete at hd
    split at hd
    · cases hd
      exact h
    · split at hd
      · cases hd
        exact h
      · cases hd
        obtain ⟨rest, hrest, hsub, hne⟩ := h.dms
        have hgone : Holds s₀ loop path none none
          ({ s.1 with dms := s.1.dms.filter fun x => x.name != name },
            Held.upd (.dmDelete name) s.1 true s.1 s.2) := by
          refine ⟨h.world_of rfl, h.loops, ⟨_, rfl, ?_, ?_⟩, h.mounts, ?_⟩
          · rw [hrest]
            exact List.filter_sublist.trans hsub
          · intro x hx
            rw [hrest] at hx
            exact hne x (List.mem_of_mem_filter hx)
          · simp [Held.upd, h.held, List.erase_of_not_mem hn]
        exact hgone.settle
  · exact h

/-- `CreateDevice` on the loop device. -/
theorem Holds.dmCreate (h : Holds s₀ loop path none none s) {name : String} {t : VerityTable}
    (ht : t.device = loop) {r : Bool} (hs : cleanKernel.sem (.dmCreate name t) s r s') :
    (r = true ∧ ∃ d : DmDevice, d.name = name ∧ d.slave = loop ∧
      Holds s₀ loop path (some d) none s') ∨ r = false ∧ s' = s := by
  obtain ⟨-, w', rfl, ⟨n, -, hd⟩ | ⟨rfl, rfl⟩⟩ := clean_cases hs
  · unfold World.dmCreate at hd
    split at hd
    · rename_i hfind _
      cases hd
      obtain ⟨rest, hrest, hsub, hne⟩ := h.dms
      refine Or.inl ⟨rfl, ⟨name, dmPath n, t.device⟩, rfl, ht, h.world_of rfl, h.loops,
        ?_, h.mounts, ?_⟩
      · refine ⟨s.1.dms, rfl, by rw [hrest]; exact hsub, fun x hx => ⟨?_, ?_⟩⟩
        · rw [hrest] at hx
          exact (hne x hx).1
        · rintro d ⟨⟩
          simpa using List.find?_eq_none.1 hfind x hx
      · simp [Held.upd, h.held]
    · cases hd
      exact Or.inr ⟨rfl, rfl⟩
  · exact Or.inr ⟨rfl, rfl⟩

/-- The deletion of the device the program has created. -/
theorem Holds.dmDelete (h : Holds s₀ loop path dm none s) {d : DmDevice}
    (hd : dm = some d) {r : Bool}
    (hs : cleanKernel.sem (.dmDelete d.name) s r s') :
    r = true ∧ Holds s₀ loop path none none s' := by
  subst hd
  obtain ⟨hc, w', rfl, hnorm | ⟨rfl, rfl⟩⟩ := clean_cases hs
  · obtain rfl : r = true := hc (by simp [h.held])
    have hw : (true, w') = s.1.dmDelete d.name := hnorm
    unfold World.dmDelete at hw
    split at hw
    · cases hw
    · split at hw
      · cases hw
      · cases hw
        obtain ⟨rest, hrest, hsub, hne⟩ := h.dms
        have hgone : Holds s₀ loop path none none
          ({ s.1 with dms := s.1.dms.filter fun x => x.name != d.name },
            Held.upd (.dmDelete d.name) s.1 true s.1 s.2) := by
          refine ⟨h.world_of rfl, h.loops, ⟨rest, ?_, hsub, ?_⟩, h.mounts, ?_⟩
          · rw [hrest]
            simp only [Option.toList_some, List.singleton_append, Option.toList_none,
              List.nil_append]
            rw [List.filter_cons_of_neg (by simp)]
            exact List.filter_eq_self.2 fun x hx => by simpa using (hne x hx).2 d rfl
          · intro x hx
            exact ⟨(hne x hx).1, by rintro _ ⟨⟩⟩
          · simp [Held.upd, h.held]
        exact ⟨rfl, hgone.settle⟩
  · have ht : false = true := hc (by simp [h.held])
    cases ht

/-- `mount` on the mount point. -/
theorem Holds.mount (h : Holds s₀ loop path dm none s) {b p : String} {r : Except Errno Unit}
    (hs : cleanKernel.sem (.mount b p) s r s') :
    (r = .ok () ∧ ∃ m : Mount, m.mountPoint = p ∧ Holds s₀ loop path dm (some m) s') ∨
      ∃ e, r = .error e ∧ s' = s := by
  obtain ⟨-, w', rfl, hn | ⟨⟨e, -, rfl⟩, rfl⟩⟩ := clean_cases hs
  · have hw : (r, w') = s.1.mount b p := hn
    rcases s.1.mount_cases b p with ⟨e, he⟩ | ⟨n, f, -, -, he⟩
    · rw [he] at hw
      cases hw
      exact Or.inr ⟨e, rfl, rfl⟩
    · rw [he] at hw
      cases hw
      refine Or.inl ⟨rfl, ⟨p, b, some n, .image f, none⟩, rfl, ?_, h.loops, h.dms, h.mounts, h.held⟩
      exact congrArg (fun w : World => w.pushMount ⟨p, b, some n, .image f, none⟩) h.world
  · exact Or.inr ⟨e, rfl, rfl⟩

/-- `umount2` takes the mount away again. -/
theorem Holds.umount2 (h : Holds s₀ loop path dm m s) {x : Mount} (hm : m = some x)
    {r : Except Errno Unit}
    (hs : cleanKernel.sem (.umount2 x.mountPoint) s r s') : Holds s₀ loop path dm none s' := by
  subst hm
  have hmounts : s.1.mounts = x :: s₀.1.mounts := by
    rw [h.world]
    rfl
  have hmounted : s.1.mounted x.mountPoint = some x := by simp [World.mounted, hmounts]
  obtain ⟨hc, w', rfl, hn | ⟨⟨e, -, he⟩, -⟩⟩ := clean_cases hs
  · have hw : (r, w') = s.1.umount2 x.mountPoint := hn
    unfold World.umount2 at hw
    rw [hmounted] at hw
    cases hw
    have hgone : Holds s₀ loop path dm none
        ({ s.1 with mounts := s.1.mounts.eraseP fun y => y.mountPoint == x.mountPoint }, s.2) := by
      refine ⟨?_, h.loops, h.dms, h.mounts, h.held⟩
      rw [hmounts, List.eraseP_cons_of_pos (by simp)]
      exact congrArg (fun w : World => { w with mounts := s₀.1.mounts }) h.world
    exact hgone.settle
  · have hr : r = (s.1.umount2 x.mountPoint).1 := hc
    unfold World.umount2 at hr
    rw [hmounted] at hr
    rw [hr] at he
    cases he

/-- The device was set up: it carries the mark of apexd, a dm device stands on it alone, and what is
mounted is on one of the two. -/
structure Owns (s₀ : World × Held) (loop path : String) (dm : Option DmDevice) (m : Option Mount)
    (s : World × Held) : Prop extends Holds s₀ loop path dm m s where
  name : ∃ k, loop = loopName k
  ids : ∀ l ∈ s.1.loops, l.device = loop → l.id = kApexLoopIdPrefix
  slave : ∀ d ∈ dm, d.slave = loop
  paths : ∀ d ∈ dm, (∃ n, d.path = dmPath n) ∧ ∀ x ∈ s.1.dms, x.path = d.path → x = d
  mounted : ∀ x ∈ m, ∀ k, x.loop = some (loopName k) → loopName k = loop

theorem dmPath_ne_loopName (n k : Nat) : dmPath n ≠ loopName k := by
  intro h
  have hl := congrArg (fun s => s.toList.take 12) h
  simp [dmPath, loopName] at hl

/-- `LOOP_SET_STATUS64` marks the device. -/
theorem Holds.setStatus_owns (h : Holds s₀ loop path none none s) (hk : ∃ k, loop = loopName k)
    {o : Int} {z : Nat}
    (hs : cleanKernel.sem (.loopSetStatus loop o z kApexLoopIdPrefix) s (.ok ()) s') :
    Owns s₀ loop path none none s' := by
  have h' := h.setStatus hs
  obtain ⟨-, w', rfl, hn | ⟨⟨e, -, he⟩, -⟩⟩ := clean_cases hs
  · refine { h' with name := hk, ids := ?_, slave := by simp, paths := by simp, mounted := by simp }
    obtain ⟨l₀, hl₀⟩ := h.findLoop
    have hn' : (Except.ok (), w') = s.1.loopSetStatus loop o z kApexLoopIdPrefix := hn
    unfold World.loopSetStatus at hn'
    rw [hl₀] at hn'
    cases hn'
    intro l hl hd
    obtain ⟨x, -, rfl⟩ := List.mem_map.1 hl
    by_cases hx : x.device = loop
    · rw [if_pos hx]
    · rw [if_neg hx] at hd
      exact absurd hd hx
  · cases he

/-- The calls that put something on loop devices or take it away. -/
def StandsOn : Sys → Prop
  | .dmCreate _ _ => True
  | .dmDelete _ => True
  | .mount _ _ => True
  | .umount2 _ => True
  | _ => False

theorem StandsOn.loops {c : Sys} {r : c.Res} (hc : StandsOn c) (hs : cleanKernel.sem c s r s') :
    s'.1.loops.Sublist s.1.loops := by
  obtain ⟨-, w', rfl, hn | ⟨-, rfl⟩⟩ := clean_cases hs
  · cases c with
    | dmCreate n t =>
      obtain ⟨k, -, hd⟩ := hn
      unfold World.dmCreate at hd
      split at hd <;> cases hd <;> exact List.Sublist.refl _
    | dmDelete n =>
      have hd : (r, w') = s.1.dmDelete n := hn
      unfold World.dmDelete at hd
      split at hd
      · cases hd
        exact List.Sublist.refl _
      · split at hd <;> cases hd
        · exact List.Sublist.refl _
        · exact List.filter_sublist
    | mount b p =>
      have hm : (r, w') = s.1.mount b p := hn
      rcases s.1.mount_cases b p with ⟨e, he⟩ | ⟨n, f, -, -, he⟩ <;> rw [he] at hm <;> cases hm <;>
        exact List.Sublist.refl _
    | umount2 p =>
      have hu : (r, w') = s.1.umount2 p := hn
      rcases s.1.umount2_cases p with ⟨e, -, he⟩ | ⟨-, he⟩ <;> rw [he] at hu <;> cases hu
      · exact List.Sublist.refl _
      · exact List.filter_sublist
    | _ => exact hc.elim
  · exact List.Sublist.refl _

/-- What stays of the mark when something is put on the device or taken away. -/
theorem Owns.standsOn (h : Owns s₀ loop path dm m s) {c : Sys} {r : c.Res} (hc : StandsOn c)
    (hs : cleanKernel.sem c s r s') :
    ∀ l ∈ s'.1.loops, l.device = loop → l.id = kApexLoopIdPrefix :=
  fun l hl => h.ids l ((hc.loops hs).subset hl)

theorem Owns.dmDelete_old (h : Owns s₀ loop path none none s) {name : String}
    (hn : name ∉ s₀.2.dms) {r : Bool}
    (hs : cleanKernel.sem (.dmDelete name) s r s') : Owns s₀ loop path none none s' where
  toHolds := h.toHolds.dmDelete_old hn hs
  name := h.name
  ids := h.standsOn (c := .dmDelete name) trivial hs
  slave := h.slave
  paths := by simp
  mounted := h.mounted

theorem Owns.dmCreate (h : Owns s₀ loop path none none s) {name : String} {t : VerityTable}
    (ht : t.device = loop) {r : Bool} (hs : cleanKernel.sem (.dmCreate name t) s r s') :
    (r = true ∧ ∃ d : DmDevice, d.name = name ∧ Owns s₀ loop path (some d) none s') ∨
    r = false ∧ s' = s := by
  rcases h.toHolds.dmCreate ht hs with ⟨rfl, d, hd, hds, h'⟩ | hr
  · refine Or.inl ⟨rfl, d, hd,
      { h' with name := h.name, ids := ?_, slave := ?_, paths := ?_, mounted := h.mounted }⟩
    · exact h.standsOn (c := .dmCreate name t) trivial hs
    · rintro _ ⟨⟩
      exact hds
    · rintro _ ⟨⟩
      obtain ⟨rest, hrest, -⟩ := h'.dms
      obtain ⟨-, w', rfl, ⟨n, hfree, hw⟩ | ⟨hr, -⟩⟩ := clean_cases hs
      · unfold World.dmCreate at hw
        split at hw
        · cases hw
          -- the new device has a number of its own
          obtain ⟨rfl, -⟩ := List.cons.inj hrest
          refine ⟨⟨n, rfl⟩, fun x hx hxp => ?_⟩
          rcases List.mem_cons.1 hx with rfl | hx
          · rfl
          · exact absurd hxp (hfree x hx)
        · cases hw
      · cases hr
  · exact Or.inr hr

theorem Owns.dmDelete (h : Owns s₀ loop path dm none s) {d : DmDevice} (hd : dm = some d) {r : Bool}
    (hs : cleanKernel.sem (.dmDelete d.name) s r s') :
    r = true ∧ Owns s₀ loop path none none s' := by
  obtain ⟨hr, h'⟩ := h.toHolds.dmDelete hd hs
  exact ⟨hr, { h' with
    name := h.name, ids := h.standsOn (c := .dmDelete d.name) trivial hs, slave := by simp,
      paths := by simp,
    mounted := h.mounted }⟩

/-- The path of the dm device, as it is looked up. -/
theorem Owns.getPath {d : DmDevice} (h : Owns s₀ loop path (some d) m s) {p : String}
    (hs : cleanKernel.sem (.dmGetPath d.name) s (some p) s') : p = d.path := by
  obtain ⟨rest, hrest, -⟩ := h.dms
  obtain ⟨-, w', -, ⟨hr, -⟩ | ⟨hr, -⟩⟩ := clean_cases hs
  · have hfind : s.1.findDm d.name = some d := by simp [World.findDm, hrest]
    rw [hfind] at hr
    exact Option.some.inj hr
  · cases hr

/-- The loop device behind a block device that belongs to the mount. -/
theorem Owns.blockFile (h : Owns s₀ loop path dm m s) {b n : String} {f : File}
    (hb : b = loop ∨ ∃ d ∈ dm, b = d.path) (hf : s.1.blockFile? b = some (n, f)) (k : Nat)
    (hn : n = loopName k) : loopName k = loop := by
  have hfound : ∀ {d : String} {l : Loop}, s.1.findLoop d = some l → l.device = d := fun hl =>
    eq_of_beq (List.find?_some hl :)
  unfold World.blockFile? at hf
  split at hf
  · rename_i l hl
    cases hf
    rcases hb with rfl | ⟨d, hd, rfl⟩
    · exact hn ▸ hfound hl
    · obtain ⟨i, hi⟩ := (h.paths d hd).1
      exact absurd (hi ▸ (hfound hl).symm.trans hn) (dmPath_ne_loopName i k)
  · split at hf
    · cases hf
    · rename_i hnone _ x hx
      obtain ⟨l, hl, he⟩ := Option.map_eq_some_iff.1 hf
      cases he
      rcases hb with rfl | ⟨d, hd, rfl⟩
      · obtain ⟨l, hl⟩ := h.findLoop
        rw [hnone] at hl
        cases hl
      · have hxd : x = d := (h.paths d hd).2 x (List.mem_of_find?_eq_some hx)
          (eq_of_beq (List.find?_some hx :))
        rw [hxd, h.slave d hd] at hl
        exact hn ▸ hfound hl

theorem Owns.mount (h : Owns s₀ loop path dm none s) {b p : String}
    (hb : b = loop ∨ ∃ d ∈ dm, b = d.path)
    {r : Except Errno Unit} (hs : cleanKernel.sem (.mount b p) s r s') :
    (r = .ok () ∧ ∃ m : Mount, m.mountPoint = p ∧ Owns s₀ loop path dm (some m) s') ∨
      ∃ e, r = .error e ∧ s' = s := by
  rcases h.toHolds.mount hs with ⟨rfl, m, hm, h'⟩ | hr
  · refine Or.inl ⟨rfl, m, hm, { h' with
      name := h.name, ids := h.standsOn (c := .mount b p) trivial hs, slave := h.slave, paths :=
        ?_, mounted := ?_ }⟩
    · obtain ⟨-, w', rfl, hn | ⟨⟨e, -, he⟩, -⟩⟩ := clean_cases hs
      · have hdms : w'.dms = s.1.dms := by rw [World.mount_onlyMounts hn]
        show ∀ d ∈ dm, _ ∧ ∀ x ∈ w'.dms, _
        rw [hdms]
        exact h.paths
      · cases he
    · rintro _ ⟨⟩ k hk
      obtain ⟨-, w', rfl, hn | ⟨⟨e, -, he⟩, -⟩⟩ := clean_cases hs
      · have hw : (Except.ok (), w') = s.1.mount b p := hn
        have hmounts : w'.mounts = m :: s.1.mounts := by
          rw [show w'.mounts = _ from congrArg World.mounts h'.world, h.world]
          rfl
        rcases s.1.mount_cases b p with ⟨e, he⟩ | ⟨n, f, -, hf, he⟩
        · rw [he] at hw
          cases hw
        · rw [he] at hw
          cases hw
          obtain ⟨rfl, -⟩ := List.cons.inj hmounts
          exact h.blockFile hb hf k (Option.some.inj hk)
      · cases he
  · exact Or.inr hr

theorem Owns.umount2 (h : Owns s₀ loop path dm m s) {x : Mount} (hm : m = some x)
    {r : Except Errno Unit}
    (hs : cleanKernel.sem (.umount2 x.mountPoint) s r s') : Owns s₀ loop path dm none s' where
  toHolds := h.toHolds.umount2 hm hs
  name := h.name
  ids := h.standsOn (c := .umount2 x.mountPoint) trivial hs
  slave := h.slave
  paths := by
    obtain ⟨-, w', rfl, hn | ⟨-, rfl⟩⟩ := clean_cases hs
    · have hdms : w'.dms = s.1.dms := by rw [World.umount2_onlyMounts hn]
      show ∀ d ∈ dm, _ ∧ ∀ x ∈ w'.dms, _
      rw [hdms]
      exact h.paths
    · exact h.paths
  mounted := by simp

end Steps

/-! ## Calls that change nothing -/

theorem DeviceQuery.same {c : Sys} {r : c.Res} {s s' : World × Held} (hc : DeviceQuery c)
    (hs : cleanKernel.sem c s r s') : s' = s := by
  obtain ⟨-, w', rfl, hn | ⟨-, rfl⟩⟩ := clean_cases hs
  · cases c with
    | loopGetFree =>
      obtain ⟨n, -, -, rfl⟩ := hn
      rfl
    | _ => first
      | exact hc.elim
      | (obtain ⟨-, rfl⟩ := hn; rfl)
  · cases c <;> first | exact hc.elim | rfl

theorem DeviceQuery.pre {c : Sys} (hc : DeviceQuery c) (s : World × Held) : ClearsOwn c s := by
  cases c <;> first | exact hc.elim | trivial

/-- The rest of a program, after a part that only asks. -/
theorem wp_query_bind {α β : Type} {p : ApexM α} {f : α → ApexM β}
    {Q : Except String β → World × Held → Prop}
    {s : World × Held} (hp : p.Uses DeviceQuery)
    (hok : ∀ a, wp deviceKernel (fun _ => True) (f a) Q s)
    (herr : ∀ e, Q (.error e) s) : wp deviceKernel (fun _ => True) (p.bind f) Q s := by
  have hstay : wp deviceKernel (fun _ => True) p (fun _ _ => True) s :=
    hp.keeps (fun c s hc _ => hc.pre s) (fun _ _ _ _ _ _ _ => trivial) s trivial
  exact hstay.bind_stays hp (fun c r s' hc hs => hc.same hs) trivial (fun a _ => hok a)
    fun e _ => herr e

theorem wp_query {α : Type} {p : ApexM α} {Q : Except String α → World × Held → Prop}
    {s : World × Held}
    (hp : p.Uses DeviceQuery) (hQ : ∀ x, Q x s) : wp deviceKernel (fun _ => True) p Q s := by
  rw [← bind_ret p]
  exact wp_query_bind hp (fun a => ⟨trivial, hQ _⟩) fun e => hQ _

/-! ## The functions -/

section Functions

variable {s₀ s : World × Held} {loop path : String} {dm : Option DmDevice}

theorem wp_setUpLoopDevice (h : Free s₀ s) (hk : ∃ k, loop = loopName k) (hu : ¬ s.1.loopInUse loop)
    (offset : Int) (size : Nat) :
    wp deviceKernel (fun _ => True) (setUpLoopDevice loop path offset size) (fun
      | .ok _, s' => Owns s₀ loop path none none s'
      | .error _, s' => Holds s₀ loop path none none s' ∨ s' = s) s := by
  unfold setUpLoopDevice
  simp only [bind_eq, exec_bind]
  refine ⟨trivial, trivial, fun r s₁ hs₁ => ?_⟩
  rcases h.setFd hu hs₁ with ⟨rfl, h₁⟩ | ⟨e, rfl, rfl⟩
  · refine ⟨trivial, trivial, fun r s₂ hs₂ => ?_⟩
    cases r with
    | error e => exact ⟨trivial, Or.inl (h₁.setStatus hs₂)⟩
    | ok _ =>
      have h₂ := h₁.setStatus_owns hk hs₂
      simp only [check, ret_bind]
      refine wp_query_bind (uses_sys_check (c := .loopFlush loop) _ trivial) (fun _ => ?_) fun e =>
        Or.inl h₂.toHolds
      refine wp_query ?_ fun x => ?_
      · refine uses_exec_bind trivial fun r => ?_
        cases r with
        | error e => exact uses_configureReadAhead loop
        | ok _ => exact uses_exec_bind trivial fun _ => uses_configureReadAhead loop
      · cases x with
        | ok _ => exact h₂
        | error e => exact Or.inl h₂.toHolds
  · exact ⟨trivial, Or.inr rfl⟩

/-- The destructor of a device that is bound but not accepted. -/
theorem Holds.wp_maybeCloseBad (h : Holds s₀ loop path none none s)
    {Q : Except String Unit → World × Held → Prop}
    (hQ : ∀ s', Free s₀ s' → Q (.ok ()) s') :
    wp deviceKernel (fun _ => True) (maybeCloseBad loop) Q s := by
  refine ⟨trivial, ⟨h.notHeld, Or.inl ?_⟩, fun r s' hs => ⟨trivial, hQ s' (h.clrFd hs)⟩⟩
  rw [h.held]
  exact List.mem_cons_self

theorem wp_createLoopDevice (h : Free s₀ s) (offset : Int) (size : Nat) :
    wp deviceKernel (fun _ => True) (createLoopDevice path offset size) (fun
      | .ok loop, s' => Owns s₀ loop path none none s'
      | .error _, s' => Free s₀ s') s := by
  unfold createLoopDevice
  refine wp_query_bind (uses_sys_check _ trivial) (fun _ => ?_) fun _ => h
  simp only [bind_eq, exec_bind]
  refine ⟨trivial, trivial, fun r s₁ hs₁ => ?_⟩
  obtain rfl : s₁ = s := DeviceQuery.same (c := .loopGetFree) trivial hs₁
  cases r with
  | error e => exact ⟨trivial, h⟩
  | ok num =>
    have hfree : ¬ s₁.1.loopInUse (loopName num) := by
      obtain ⟨-, w', -, ⟨n, hr, hu, -⟩ | ⟨⟨e, he⟩, -⟩⟩ := clean_cases hs₁
      · cases hr
        exact hu
      · cases he
    simp only [check, ret_bind]
    refine wp_query_bind (uses_sys_check (c := .openFile path) _ trivial) (fun _ => ?_) fun _ => h
    refine wp_query_bind (uses_openLoopDevice _ _) (fun _ => ?_) fun _ => h
    refine wp_bind.2 (wp_onFail.2 ((wp_setUpLoopDevice h ⟨num, rfl⟩ hfree offset size).imp ?_))
    rintro (e | u) s₂ - hx
    · rcases hx with h₂ | rfl
      · exact h₂.wp_maybeCloseBad fun s' h' => h'
      · have hnone : s₂.1.findLoop (loopName num) = none := by
          refine List.find?_eq_none.2 fun l hl he => hfree (Or.inl ⟨l, hl, ?_⟩)
          exact eq_of_beq he
        refine ⟨trivial, ⟨fun hh => hfree (Or.inr hh), Or.inr hnone⟩, fun r s' hs => ?_⟩
        exact ⟨trivial, h.clrFd hnone hs⟩
    · exact ⟨trivial, hx⟩

theorem wp_createLoopDeviceLoop (apex : ApexFile) (n : Nat) {s : World × Held} (h : Free s₀ s) :
    wp deviceKernel (fun _ => True) (createLoopDeviceLoop apex n) (fun
      | .ok loop, s' => Owns s₀ loop apex.path none none s'
      | .error _, s' => Free s₀ s') s := by
  induction n generalizing s with
  | zero => exact ⟨trivial, h⟩
  | succ n ih =>
    refine wp_bind.2 (wp_attempt.2 ((wp_createLoopDevice h _ _).imp ?_))
    rintro (e | loop) s₁ - hx
    · dsimp only [Then]
      split
      · exact ⟨trivial, hx⟩
      · exact ih hx
    · exact ⟨trivial, hx⟩

theorem wp_mountBlockDevice (h : Owns s₀ loop path dm none s) (apex : ApexFile) {block : String}
    (hb : block = loop ∨ ∃ d ∈ dm, block = d.path) (mountPoint : String) (readSize : Option Nat) :
    wp deviceKernel (fun _ => True) (mountBlockDevice apex block mountPoint readSize) (fun
      | .ok _, s' => ∃ m : Mount, m.mountPoint = mountPoint ∧ Owns s₀ loop path dm (some m) s'
      | .error _, s' => Owns s₀ loop path dm none s') s := by
  have hmount : wp deviceKernel (fun _ => True) (mountVerified apex block mountPoint) (fun
      | .ok _, s' => ∃ m : Mount, m.mountPoint = mountPoint ∧ Owns s₀ loop path dm (some m) s'
      | .error _, s' => Owns s₀ loop path dm none s') s := by
    unfold mountVerified
    simp only [bind_eq, exec_bind]
    refine ⟨trivial, trivial, fun r s₁ hs₁ => ?_⟩
    rcases h.mount hb hs₁ with ⟨rfl, m, rfl, h₁⟩ | ⟨e, rfl, rfl⟩
    · refine wp_bind.2 (wp_attempt.2 (wp_query (uses_verifyMountedImage _ _) fun x => ?_))
      cases x with
      | ok _ => exact ⟨trivial, m, rfl, h₁⟩
      | error e => exact ⟨trivial, trivial, fun r s₂ hs₂ => ⟨trivial, h₁.umount2 rfl hs₂⟩⟩
    · exact ⟨trivial, h⟩
  have hwait : (waitForDevice block .kWaitToBeCreated).Uses DeviceQuery :=
    uses_waitForDevice (fun _ => trivial) _ _
  cases readSize with
  | none =>
    rw [mountBlockDevice_none]
    exact wp_query_bind hwait (fun _ => hmount) fun _ => h
  | some size =>
    rw [mountBlockDevice_some]
    refine wp_query_bind hwait (fun _ => ?_) fun _ => h
    exact wp_query_bind (uses_sys_check _ trivial) (fun _ => hmount) fun _ => h

/-- The removal of a device that was there before; its outcome is only logged. -/
theorem Owns.wp_deleteOld (h : Owns s₀ loop path none none s) {name : String}
    (hn : name ∉ s₀.2.dms) :
    wp deviceKernel (fun _ => True) (deleteVerityDeviceByName name)
      (fun _ s' => Owns s₀ loop path none none s') s := by
  unfold deleteVerityDeviceByName
  simp only [bind_eq, exec_bind]
  refine ⟨trivial, trivial, fun r s₁ hs₁ => ?_⟩
  obtain rfl : s₁ = s := DeviceQuery.same (c := .dmGetPath name) trivial hs₁
  cases r with
  | none => exact ⟨trivial, h⟩
  | some p =>
    simp only [deleteVerityDevice, bind_eq, exec_bind]
    refine ⟨trivial, trivial, fun r s₂ hs₂ => ?_⟩
    have h₂ := h.dmDelete_old hn hs₂
    exact wp_query (uses_bind (uses_require _ _) fun _ => uses_waitForDevice (fun _ => trivial) _ _)
      fun _ => h₂

/-- The removal of the device the program has created. -/
theorem Owns.wp_deleteVerityDevice (h : Owns s₀ loop path dm none s) {d : DmDevice}
    (hd : dm = some d) (p : String)
    {Q : Except String Unit → World × Held → Prop}
    (hQ : ∀ x s', Owns s₀ loop path none none s' → Q x s') :
    wp deviceKernel (fun _ => True) (deleteVerityDevice d.name p) Q s := by
  unfold deleteVerityDevice
  simp only [bind_eq, exec_bind]
  refine ⟨trivial, trivial, fun r s₁ hs₁ => ?_⟩
  obtain ⟨rfl, h₁⟩ := h.dmDelete hd hs₁
  exact wp_query (uses_waitForDevice (fun _ => trivial) _ _) fun x => hQ x s₁ h₁

theorem wp_createVerityDevice (h : Owns s₀ loop path none none s) {name : String}
    (hn : name ∉ s₀.2.dms) {table : VerityTable} (ht : table.device = loop) :
    wp deviceKernel (fun _ => True) (createVerityDevice name table) (fun
      | .ok p, s' => ∃ d : DmDevice, d.name = name ∧ p = d.path ∧ Owns s₀ loop path (some d) none s'
      | .error _, s' => Owns s₀ loop path none none s') s := by
  have hcreate : ∀ s₁ : World × Held, Owns s₀ loop path none none s₁ →
      wp deviceKernel (fun _ => True) (do
      let created ← sys (.dmCreate name table)
      require created "Couldn't create verity device."
      (createdPath name).onFail (deleteVerityDevice name "") : ApexM String) (fun
        | .ok p, s' =>
          ∃ d : DmDevice, d.name = name ∧ p = d.path ∧ Owns s₀ loop path (some d) none s'
        | .error _, s' => Owns s₀ loop path none none s') s₁ := by
    intro s₁ h₁
    simp only [bind_eq, exec_bind]
    refine ⟨trivial, trivial, fun r s₂ hs₂ => ?_⟩
    rcases h₁.dmCreate ht hs₂ with ⟨rfl, d, rfl, h₂⟩ | ⟨rfl, rfl⟩
    · refine wp_onFail.2 ⟨trivial, trivial, fun r s₃ hs₃ => ?_⟩
      obtain rfl : s₃ = s₂ := DeviceQuery.same (c := .dmGetPath d.name) trivial hs₃
      cases r with
      | none => exact ⟨trivial, h₂.wp_deleteVerityDevice rfl "" fun _ _ h => h⟩
      | some p => exact ⟨trivial, d, rfl, h₂.getPath hs₃, h₂⟩
    · exact ⟨trivial, h₁⟩
  unfold createVerityDevice
  rw [bind_eq, exec_bind]
  refine ⟨trivial, trivial, fun b s₁ hs₁ => ?_⟩
  obtain rfl : s₁ = s := DeviceQuery.same (c := .dmGetState name) trivial hs₁
  refine wp_bind.2 (wp_when (fun _ => ?_) fun _ => ⟨trivial, hcreate s₁ h⟩)
  refine wp_bind.2 (wp_attempt.2 ((h.wp_deleteOld hn).imp fun x s₂ _ h₂ => ?_))
  exact ⟨trivial, hcreate s₂ h₂⟩

/-- What is there once the mount is accepted: the dm device if the mount is on dm-verity. -/
def Mounted (cfg : Config) (apex : ApexFile) (mountPoint deviceName : String) (s₀ : World × Held)
    (loop : String) (s : World × Held) : Prop :=
  ∃ (dm : Option DmDevice) (m : Mount), dm.isSome = mountOnVerity cfg apex.path ∧
    (∀ d ∈ dm, d.name = deviceName ∧ d.slave = loop) ∧ m.mountPoint = mountPoint ∧
    Holds s₀ loop apex.path dm (some m) s

/-- The same, with all that is known of the devices. -/
def MountOwned (cfg : Config) (apex : ApexFile) (mountPoint deviceName : String) (s₀ : World × Held)
    (loop : String) (s : World × Held) : Prop :=
  ∃ (dm : Option DmDevice) (m : Mount), dm.isSome = mountOnVerity cfg apex.path ∧
    (∀ d ∈ dm, d.name = deviceName) ∧ m.mountPoint = mountPoint ∧
      Owns s₀ loop apex.path dm (some m) s

theorem MountOwned.mounted {cfg : Config} {apex : ApexFile} {mountPoint deviceName : String}
    (h : MountOwned cfg apex mountPoint deviceName s₀ loop s) :
    Mounted cfg apex mountPoint deviceName s₀ loop s := by
  obtain ⟨dm, m, hv, hname, hm, ho⟩ := h
  exact ⟨dm, m, hv, fun d hd => ⟨hname d hd, ho.slave d hd⟩, hm, ho.toHolds⟩

theorem wp_mountLoopDevice (cfg : Config) (apex : ApexFile) (h : Owns s₀ loop apex.path none none s)
    {mountPoint deviceName : String} (hn : deviceName ∉ s₀.2.dms) (verifyImage : Bool) :
    wp deviceKernel (fun _ => True)
      (mountLoopDevice cfg apex loop mountPoint deviceName verifyImage) (fun
      | .ok _, s' => MountOwned cfg apex mountPoint deviceName s₀ loop s'
      | .error _, s' => Owns s₀ loop apex.path none none s') s := by
  unfold mountLoopDevice
  simp only [bind_eq, exec_bind]
  refine ⟨trivial, trivial, fun r s₁ hs₁ => ?_⟩
  obtain rfl : s₁ = s := DeviceQuery.same (c := .verifyApexVerity apex.path) trivial hs₁
  refine wp_query_bind (uses_mapErr (uses_ofExcept r)) (fun verityData => ?_) fun _ => h
  split
  · rename_i hv
    refine wp_bind.2 (wp_mapErr.2 ((wp_createVerityDevice h hn rfl).imp ?_))
    rintro (e | device) s₂ - hx
    · exact hx
    · obtain ⟨d, rfl, rfl, h₂⟩ := hx
      refine wp_onFail.2 (wp_query_bind (uses_configureReadAhead d.path) (fun _ => ?_) fun _ => ?_)
      · refine (wp_mountBlockDevice h₂ apex (Or.inr ⟨d, rfl, rfl⟩) _ _).imp ?_
        rintro (e | u) s₃ - hx
        · exact hx.wp_deleteVerityDevice rfl d.path fun _ _ h => h
        · obtain ⟨m, hm, h₃⟩ := hx
          exact ⟨some d, m, hv.symm, by rintro _ ⟨⟩; rfl, hm, h₃⟩
      · exact h₂.wp_deleteVerityDevice rfl d.path fun _ _ h => h
  · rename_i hv
    refine (wp_mountBlockDevice h apex (Or.inl rfl) _ _).imp ?_
    rintro (e | u) s₃ - hx
    · exact hx
    · obtain ⟨m, hm, h₃⟩ := hx
      exact ⟨none, m, (Bool.not_eq_true _ ▸ hv).symm, by rintro _ ⟨⟩, hm, h₃⟩

theorem wp_mountNonFlattened (cfg : Config) (apex : ApexFile) (h : Free s₀ s)
    (mountPoint deviceName : String) (hn : deviceName ∉ s₀.2.dms) (verifyImage : Bool) :
    wp deviceKernel (fun _ => True) (mountNonFlattened cfg apex mountPoint deviceName verifyImage)
      (fun
      | .ok data, s' => ∃ loop, data = ⟨loop, apex.path, mountPoint, deviceName⟩ ∧
          MountOwned cfg apex mountPoint deviceName s₀ loop s'
      | .error _, s' => Free s₀ s') s := by
  unfold mountNonFlattened
  refine wp_query_bind (uses_require _ _) (fun _ => ?_) fun _ => h
  refine wp_bind.2 ((wp_createLoopDeviceLoop apex _ h).imp ?_)
  rintro (e | loop) s₁ - h₁
  · exact h₁
  · refine wp_bind.2 (wp_onFail.2 ((wp_mountLoopDevice cfg apex h₁ hn verifyImage).imp ?_))
    rintro (e | u) s₂ - h₂
    · exact h₂.wp_maybeCloseBad fun s' h' => h'
    · exact ⟨trivial, loop, rfl, h₂⟩

/-- **`mountNonFlattened` neither leaks nor frees twice.**  When it fails, every loop device it has
bound was cleared and every dm device it has created deleted, and the mounts are as they were; when
it succeeds, one loop device is bound to the file, with a dm device on it exactly if the mount is on
dm-verity, and both are the ones the result names.  At every `LOOP_CLR_FD` nothing stands on the
device any more, and the program holds it unless it is not bound at all. -/
theorem mountNonFlattened_devices {cfg : Config} {apex : ApexFile} {mountPoint deviceName : String}
    {verifyImage : Bool} {w : World} {q : ApexM MountedApexData} (hr : Reaches cleanKernel
      (mountNonFlattened cfg apex mountPoint deviceName verifyImage) (w, .nothing) q s) :
    (∀ e, q = fail e → Free (w, .nothing) s) ∧
    (∀ data, q = ret data → ∃ loop, data = ⟨loop, apex.path, mountPoint, deviceName⟩ ∧
      Mounted cfg apex mountPoint deviceName (w, .nothing) loop s) ∧
    ∀ d k, q = call (.loopClrFd d) k → ¬ s.1.loopHeld d ∧
      (d ∈ s.2.loops ∨ s.1.findLoop d = none) := by
  have hwp := wp_mountNonFlattened cfg apex (Free.refl (w, .nothing)) mountPoint deviceName
    List.not_mem_nil verifyImage
  refine ⟨fun e he => ?_, fun data hd => ?_, fun d k hc => ?_⟩
  · subst he
    exact hwp.ends (x := .error e) (Reaches.withPre hr)
  · subst hd
    obtain ⟨loop, he, hm⟩ := hwp.ends (x := .ok data) (Reaches.withPre hr)
    exact ⟨loop, he, hm.mounted⟩
  · subst hc
    exact hwp.pre_reached hr

end Functions

/-! ## A run -/

/-- The clean-up calls of a computed run succeed. -/
def Sys.cleansUp? : (c : Sys) → World × Held → c.Res → Bool
  | .loopClrFd d, s, .error _ => !s.2.loops.contains d
  | .dmDelete n, s, false => !s.2.dms.contains n
  | _, _, _ => true

def cleanStep : (c : Sys) → World × Held → Option (c.Res × (World × Held)) :=
  onlyStep (observeStep Sys.run Held.upd) Sys.cleansUp?

theorem cleanStep_sem (c : Sys) (s : World × Held) (r : c.Res) (s' : World × Held)
    (h : cleanStep c s = some (r, s')) : cleanKernel.sem c s r s' := by
  refine onlyStep_sem (fun c s r s' hs hok => ⟨?_, observeStep_sem Sys.run_sem c s r s' hs⟩) c s r
    s' h
  cases c with
  | umount2 p =>
    cases hs
    rfl
  | rmdir p =>
    cases hs
    rfl
  | loopClrFd d =>
    intro hd
    cases r with
    | ok _ => rfl
    | error e => simp [Sys.cleansUp?, hd] at hok
  | dmDelete n =>
    intro hd
    cases r with
    | true => rfl
    | false => simp [Sys.cleansUp?, hd] at hok
  | _ => trivial

/-- A package on the data partition, with its directory below `/apex`. -/
def dataWorld : World := World.ofDirs
  [ (kApexRoot, mountPointDir),
    ("/apex/a@2", Dir.empty 0o755),
    (kActiveApexPackagesDataDir, dataApexDir) ]

def dataPackage : ApexFile :=
  ⟨"/data/apex/active/a.apex", false, 4096, 8192, plainManifest 2 version_two, []⟩

/-- The package is mounted on dm-verity. -/
theorem mountNonFlattened_devices_update :
    ∃ loop, Mounted deviceConfig dataPackage "/apex/a@2" "a@2"
    (dataWorld, .nothing) loop (runN cleanStep 40
      (mountNonFlattened deviceConfig dataPackage "/apex/a@2" "a@2" true)
      (dataWorld, .nothing)).2 := by
  have hres : (runN cleanStep 40 (mountNonFlattened deviceConfig dataPackage "/apex/a@2" "a@2" true)
      (dataWorld, .nothing)).1.result? =
        some (.ok ⟨"/dev/block/loop0", "/data/apex/active/a.apex", "/apex/a@2", "a@2"⟩) := by decide
  obtain ⟨loop, -, hm⟩ := (mountNonFlattened_devices (runN_ends cleanStep_sem hres)).2.1 _ rfl
  exact ⟨loop, hm⟩

end Apexd
