import Apexd.Devices

/-!
# Mounts that are taken down again

The packages a call has mounted, with their devices, while it may still mount more or take the first
one down.

* `teardownKernel` — any call may be refused, but clean-up calls succeed, and while a mount is taken
  down the look-ups before them do.
* `Live` — what a program holds exists: true of every program.
* `Stacked` — the packages mounted at a moment of the call; `Stacked.push` for one more,
  `Stacked.umount2`, `Stacked.dmDelete` and `Stacked.clrFd` for the first one.
-/

set_option autoImplicit false

namespace Apexd

open Text Prog

/-! ## The kernel -/

/-- Whether a mount is being taken down: since an `umount2`, and until the next loop device is asked
for. -/
def tearingDown : (c : Sys) → World × Held → c.Res → World × Held → Bool → Bool
  | .umount2 _, _, _, _, _ => true
  | .loopGetFree, _, _, _, _ => false
  | _, _, _, _, b => b

/-- While a mount is taken down, the devices the call holds are found. -/
def Sys.LooksUp : (c : Sys) → (World × Held) × Bool → c.Res → Prop
  | .dmGetPath n, t, r => t.2 = true → n ∈ t.1.2.dms → r ≠ none
  | .openDevice d, t, r => t.2 = true → d ∈ t.1.2.loops → r = .ok ()
  | .loopGetStatus d, t, r => t.2 = true → d ∈ t.1.2.loops → ∃ id, r = .ok id
  | _, _, _ => True

def teardownKernel : Kernel Sys Sys.Res ((World × Held) × Bool) :=
    (cleanKernel.observe tearingDown).only Sys.LooksUp

/-! ## What is held exists -/

/-- The loop devices a program holds are bound and its dm devices are there. -/
structure Live (s : World × Held) : Prop where
  loopsNodup : s.2.loops.Nodup
  loops : ∀ d ∈ s.2.loops, ∃ l ∈ s.1.loops, l.device = d ∧ l.autoclear = false
  dmsNodup : s.2.dms.Nodup
  dms : ∀ n ∈ s.2.dms, ∃ d ∈ s.1.dms, d.name = n

section Live

variable {s s' : World × Held}

theorem Live.nothing (w : World) :
    Live (w, .nothing) := ⟨List.nodup_nil, by simp [Held.nothing], List.nodup_nil,
  by simp [Held.nothing]⟩

/-- Loop devices may go once nobody holds them. -/
theorem Live.congr (h : Live s) {w' : World}
    (hl : ∀ l ∈ s.1.loops, l.autoclear = false → l ∈ w'.loops)
    (hd : w'.dms = s.1.dms) : Live (w', s.2) where
  loopsNodup := h.loopsNodup
  loops d hd := by
    obtain ⟨l, hl', hld, hla⟩ := h.loops d hd
    exact ⟨l, hl l hl' hla, hld, hla⟩
  dmsNodup := h.dmsNodup
  dms n hn := by
    obtain ⟨d, hd', hdn⟩ := h.dms n hn
    exact ⟨d, hd ▸ hd', hdn⟩

theorem mem_settle {w : World} {l : Loop} (hl : l ∈ w.loops) (ha : l.autoclear = false) :
    l ∈ w.settle.loops :=
  List.mem_filter.2 ⟨hl, by simp [ha]⟩

theorem findLoop_eq_none {w : World} {d : String} (h : w.findLoop d = none) :
    ∀ l ∈ w.loops, l.device ≠ d :=
  fun l hl he => List.find?_eq_none.1 h l hl (beq_iff_eq.2 he)

theorem Live.setFd (h : Live s) {d t : String} {r : Except Errno Unit} {w' : World}
    (hn : (r, w') = s.1.loopSetFd d t) : Live (w', Held.upd (.loopSetFd d t) s.1 r w' s.2) := by
  unfold World.loopSetFd at hn
  split at hn
  · cases hn
    exact h
  · cases hn
    exact h
  · rename_i hnone _
    cases hn
    have hnew : d ∉ s.2.loops := by
      intro hd
      obtain ⟨l, hl, hld, -⟩ := h.loops d hd
      exact findLoop_eq_none hnone l hl hld
    refine ⟨List.nodup_cons.2 ⟨hnew, h.loopsNodup⟩, ?_, h.dmsNodup, h.dms⟩
    intro x hx
    rcases List.mem_cons.1 hx with rfl | hx
    · exact ⟨_, List.mem_cons_self, rfl, rfl⟩
    · obtain ⟨l, hl, hlx⟩ := h.loops x hx
      exact ⟨l, List.mem_cons_of_mem _ hl, hlx⟩

theorem Live.setStatus (h : Live s) {d : String} {o : Int} {z : Nat} {i : String}
    {r : Except Errno Unit} {w' : World}
    (hn : (r, w') = s.1.loopSetStatus d o z i) : Live (w', s.2) := by
  unfold World.loopSetStatus at hn
  split at hn
  · cases hn
    exact h
  · cases hn
    refine ⟨h.loopsNodup, fun x hx => ?_, h.dmsNodup, h.dms⟩
    obtain ⟨l, hl, hlx, hla⟩ := h.loops x hx
    refine ⟨_, List.mem_map_of_mem hl, ?_⟩
    split
    · exact ⟨hlx, hla⟩
    · exact ⟨hlx, hla⟩

theorem Live.clrFd (h : Live s) {d : String} {r : Except Errno Unit} {w' : World}
    (hn : (r, w') = s.1.loopClrFd d) : Live (w', Held.upd (.loopClrFd d) s.1 r w' s.2) := by
  unfold World.loopClrFd at hn
  split at hn
  · cases hn
    exact h
  · cases hn
    refine ⟨h.loopsNodup.erase d, fun x hx => ?_, h.dmsNodup, h.dms⟩
    obtain ⟨hne, hx⟩ := h.loopsNodup.mem_erase_iff.1 hx
    obtain ⟨l, hl, hlx, hla⟩ := h.loops x hx
    refine ⟨l, mem_settle (List.mem_map.2 ⟨l, hl, if_neg ?_⟩) hla, hlx, hla⟩
    rwa [hlx]

theorem Live.dmCreate (h : Live s) {n : String} {t : VerityTable} {k : Nat} {r : Bool} {w' : World}
    (hn : (r, w') = s.1.dmCreate n t.device k) :
    Live (w', Held.upd (.dmCreate n t) s.1 r w' s.2) := by
  unfold World.dmCreate at hn
  split at hn
  · rename_i hnone _
    cases hn
    have hnew : n ∉ s.2.dms := by
      intro hd
      obtain ⟨d, hd, hdn⟩ := h.dms n hd
      exact List.find?_eq_none.1 hnone d hd (beq_iff_eq.2 hdn)
    refine ⟨h.loopsNodup, h.loops, List.nodup_cons.2 ⟨hnew, h.dmsNodup⟩, fun x hx => ?_⟩
    rcases List.mem_cons.1 hx with rfl | hx
    · exact ⟨_, List.mem_cons_self, rfl⟩
    · obtain ⟨d, hd, hdx⟩ := h.dms x hx
      exact ⟨d, List.mem_cons_of_mem _ hd, hdx⟩
  · cases hn
    exact h

theorem Live.dmDelete (h : Live s) {n : String} {r : Bool} {w' : World}
    (hn : (r, w') = s.1.dmDelete n) : Live (w', Held.upd (.dmDelete n) s.1 r w' s.2) := by
  unfold World.dmDelete at hn
  split at hn
  · cases hn
    exact h
  · split at hn
    · cases hn
      exact h
    · cases hn
      refine ⟨h.loopsNodup, fun x hx => ?_, h.dmsNodup.erase n, fun x hx => ?_⟩
      · obtain ⟨l, hl, hlx, hla⟩ := h.loops x hx
        exact ⟨l, mem_settle hl hla, hlx, hla⟩
      · obtain ⟨hne, hx⟩ := h.dmsNodup.mem_erase_iff.1 hx
        obtain ⟨d, hd, hdx⟩ := h.dms x hx
        exact ⟨d, List.mem_filter.2 ⟨hd, by simpa [hdx] using hne⟩, hdx⟩

end Live

/-! ## Calls that change no device -/

/-- The calls that change no device, no mount and no entry of the database. -/
def SparesDevices : Sys → Prop
  | .loopSetFd _ _ => False
  | .loopSetStatus _ _ _ _ => False
  | .loopClrFd _ => False
  | .dmCreate _ _ => False
  | .dmDelete _ => False
  | .mount _ _ => False
  | .bindMount _ _ => False
  | .umount2 _ => False
  | .setDb _ => False
  | _ => True

/-- The same devices, mounts and entries of the database. -/
structure World.SameDevices (w w' : World) : Prop where
  mounts : w'.mounts = w.mounts
  loops : w'.loops = w.loops
  dms : w'.dms = w.dms
  db : w'.db = w.db

theorem World.SameDevices.refl (w : World) : w.SameDevices w := ⟨rfl, rfl, rfl, rfl⟩

theorem World.SameDevices.trans {w w' w'' : World} (h : w.SameDevices w')
    (h' : w'.SameDevices w'') : w.SameDevices w'' :=
  ⟨h'.mounts.trans h.mounts, h'.loops.trans h.loops, h'.dms.trans h.dms, h'.db.trans h.db⟩

theorem World.OnlyDirs.sameDevices {w w' : World} (h : w.OnlyDirs w') : w.SameDevices w' :=
  ⟨by rw [h], by rw [h], by rw [h], by rw [h]⟩

theorem SparesDevices.same {c : Sys} (hc : SparesDevices c) {s s' : World × Held} {r : c.Res}
    (hs : cleanKernel.sem c s r s') : s.1.SameDevices s'.1 ∧ s'.2 = s.2 := by
  obtain ⟨-, w', rfl, hn | ⟨-, rfl⟩⟩ := clean_cases hs
  · refine ⟨?_, by cases c <;> first | rfl | exact hc.elim⟩
    cases c with
    | mkdir p mode => exact (World.mkdir_onlyDirs hn).sameDevices
    | chmod p mode => exact (World.chmod_onlyDirs hn).sameDevices
    | rmdir p => exact (World.rmdir_onlyDirs hn).sameDevices
    | unlink p => exact (World.unlink_onlyDirs hn).sameDevices
    | unlinkRetry p => exact (World.unlink_onlyDirs hn).sameDevices
    | link src dst => exact (World.link_onlyDirs hn).sameDevices
    | rename src dst => exact (World.rename_onlyDirs hn).sameDevices
    | writeFile p b => exact (World.writeFile_onlyDirs hn).sameDevices
    | removeAll p =>
      obtain ⟨-, rfl⟩ := hn
      exact (s.1.removeAll_onlyDirs p).sameDevices
    | loopGetFree =>
      obtain ⟨n, -, -, rfl⟩ := hn
      exact .refl _
    | abort m => exact hn.elim
    | startCheckpoint n =>
      obtain rfl : w' = s.1 := hn
      exact .refl _
    | log m =>
      obtain rfl : w' = s.1 := hn
      exact .refl _
    | _ => first | exact hc.elim | (obtain ⟨-, rfl⟩ := hn; exact .refl _)
  · exact ⟨.refl _, by cases c <;> first | rfl | exact hc.elim⟩

/-- **What is held exists**, whatever the program. -/
theorem Live.step {c : Sys} {s s' : World × Held} {r : c.Res} (h : Live s)
    (hs : cleanKernel.sem c s r s') : Live s' := by
  by_cases hc : SparesDevices c
  · obtain ⟨hsame, hheld⟩ := hc.same hs
    have h' : Live (s'.1, s.2) := h.congr (fun l hl _ => hsame.loops ▸ hl) hsame.dms
    rwa [← hheld] at h'
  · obtain ⟨-, w', rfl, hn | ⟨href, rfl⟩⟩ := clean_cases hs
    · cases c with
      | loopSetFd d t => exact h.setFd hn
      | loopSetStatus d o z i => exact h.setStatus hn
      | loopClrFd d => exact h.clrFd hn
      | dmCreate n t =>
        obtain ⟨k, -, hk⟩ := hn
        exact h.dmCreate hk
      | dmDelete n => exact h.dmDelete hn
      | mount b p =>
        have hm : (r, w') = s.1.mount b p := hn
        rcases s.1.mount_cases b p with ⟨e, he⟩ | ⟨n, f, -, -, he⟩ <;> rw [he] at hm
          <;> cases hm <;> exact h.congr (fun _ hl _ => hl) rfl
      | bindMount src p =>
        have hm : (r, w') = s.1.bindMount src p := hn
        rcases s.1.bindMount_cases src p with ⟨e, he⟩ | ⟨m, -, -, -, -, -, he⟩ <;> rw [he] at hm
          <;> cases hm <;> exact h.congr (fun _ hl _ => hl) rfl
      | umount2 p =>
        have hm : (r, w') = s.1.umount2 p := hn
        rcases s.1.umount2_cases p with ⟨e, -, he⟩ | ⟨-, he⟩ <;> rw [he] at hm <;> cases hm
        · exact h
        · exact h.congr (fun _ hl ha => mem_settle hl ha) rfl
      | setDb db =>
        obtain rfl : w' = { s.1 with db := db } := hn
        exact h.congr (fun _ hl _ => hl) rfl
      | _ => exact absurd trivial hc
    · cases c with
      | loopSetFd d t =>
        obtain ⟨e, -, rfl⟩ := href
        exact h
      | loopClrFd d =>
        obtain ⟨e, -, rfl⟩ := href
        exact h
      | dmCreate n t =>
        obtain rfl : r = false := href
        exact h
      | dmDelete n =>
        obtain rfl : r = false := href
        exact h
      | loopSetStatus d o z i => exact h
      | mount b p => exact h
      | bindMount src p => exact h
      | umount2 p => exact h
      | setDb db => exact href.elim
      | _ => exact absurd trivial hc

/-! ## The mounts of a call -/

/-- A package that a call has mounted from a loop device, perhaps through dm-verity. -/
structure MountedApex where
  data : MountedApexData
  onVerity : Bool
  mount : Mount

structure MountedApex.Sound (m : MountedApex) : Prop where
  point : m.mount.mountPoint = m.data.mountPoint
  named : m.data.mountPoint = join kApexRoot m.data.deviceName
  device : m.data.deviceName ≠ ""
  on : ∀ k, m.mount.loop = some (loopName k) → loopName k = m.data.loopName
  loop : ∃ k, m.data.loopName = loopName k

def loopNames (ms : List MountedApex) : List String := ms.map (·.data.loopName)

def dmNames (ms : List MountedApex) :
    List String := (ms.filter (·.onVerity)).map (·.data.deviceName)

/-- The packages `ms` are mounted, the first one first; the dm devices of `ds` and the loop devices
of `ls` are there.  Nothing else is new since `w`. -/
structure Stacked (w : World) (ms ds ls : List MountedApex) (s : World × Held) : Prop where
  mounts : s.1.mounts = (ms.map (·.mount)).reverse ++ w.mounts
  dms : (s.1.dms.filter fun d => decide (d.name ∉ dmNames ds)).Sublist w.dms
  loops : (s.1.loops.filter fun l => decide (l.device ∉ loopNames ls)).Sublist w.loops
  heldDms : s.2.dms.Perm (dmNames ds)
  heldLoops : s.2.loops.Perm (loopNames ls)
  ids : ∀ l ∈ s.1.loops, l.device ∈ loopNames ls → l.id = kApexLoopIdPrefix
  slaves : ∀ d ∈ s.1.dms, ∀ m ∈ ls, d.slave = m.data.loopName →
    m ∈ ds ∧ m.onVerity = true ∧ d.name = m.data.deviceName
  base : ∀ m ∈ ls, ∀ x ∈ w.mounts, x.loop ≠ some m.data.loopName
  sound : ∀ m ∈ ls, m.Sound
  apart : ls.Pairwise fun a b => a.data.mountPoint ≠ b.data.mountPoint ∧
    a.data.loopName ≠ b.data.loopName

section Stack

variable {w : World} {m : MountedApex} {ms ds ls : List MountedApex} {s s' : World × Held}

theorem Stacked.start (w : World) : Stacked w [] [] [] (w, .nothing) where
  mounts := rfl
  dms := List.filter_sublist
  loops := List.filter_sublist
  heldDms := .refl _
  heldLoops := .refl _
  ids := by simp [loopNames]
  slaves := by simp
  base := by simp
  sound := by simp
  apart := List.Pairwise.nil

theorem Stacked.done (h : Stacked w [] [] [] s) :
    s.1.mounts = w.mounts ∧ s.1.dms.Sublist w.dms ∧ s.1.loops.Sublist w.loops := by
  refine ⟨h.mounts, ?_, ?_⟩
  · simpa [dmNames] using h.dms
  · simpa [loopNames] using h.loops

/-- Other devices than those of the call may go. -/
theorem Stacked.congr (h : Stacked w ms ds ls s) (hm : s'.1.mounts = s.1.mounts)
    (hd : s'.1.dms.Sublist s.1.dms)
    (hl : s'.1.loops.Sublist s.1.loops) (hheld : s'.2 = s.2) : Stacked w ms ds ls s' where
  mounts := hm.trans h.mounts
  dms := (hd.filter _).trans h.dms
  loops := (hl.filter _).trans h.loops
  heldDms := hheld ▸ h.heldDms
  heldLoops := hheld ▸ h.heldLoops
  ids l hl' := h.ids l (hl.subset hl')
  slaves d hd' := h.slaves d (hd.subset hd')
  base := h.base
  sound := h.sound
  apart := h.apart

theorem Stacked.same (h : Stacked w ms ds ls s) (hs : s.1.SameDevices s'.1) (hheld : s'.2 = s.2) :
    Stacked w ms ds ls s' :=
  h.congr hs.mounts (hs.dms ▸ List.Sublist.refl _) (hs.loops ▸ List.Sublist.refl _) hheld

theorem Stacked.free (h : Stacked w ms ds ls s) (hf : Free s s') : Stacked w ms ds ls s' :=
  h.congr (by rw [hf.only]) hf.dms hf.loops hf.held

/-- `umount2` takes the oldest mount away. -/
theorem Stacked.umount2 (h : Stacked w (m :: ms) (m :: ms) (m :: ms) s) {r : Except Errno Unit}
    (hs : cleanKernel.sem (.umount2 m.data.mountPoint) s r s') :
    r = .ok () ∧ Stacked w ms (m :: ms) (m :: ms) s' := by
  have hmounts : s.1.mounts = (ms.map (·.mount)).reverse ++ m.mount :: w.mounts := by
    rw [h.mounts, List.map_cons, List.reverse_cons, List.append_assoc]
    rfl
  have hother : ∀ x ∈ (ms.map (·.mount)).reverse, ¬ (x.mountPoint == m.data.mountPoint) = true := by
    intro x hx he
    obtain ⟨o, ho, rfl⟩ := List.mem_map.1 (List.mem_reverse.1 hx)
    rw [(h.sound o (List.mem_cons_of_mem _ ho)).point] at he
    exact ((List.pairwise_cons.1 h.apart).1 o ho).1 (eq_of_beq he).symm
  have hself : (fun x : Mount => x.mountPoint == m.data.mountPoint) m.mount = true :=
    beq_iff_eq.2 (h.sound m List.mem_cons_self).point
  have hmounted : s.1.mounted m.data.mountPoint = some m.mount := by
    unfold World.mounted
    rw [hmounts, List.find?_append, List.find?_eq_none.2 hother, Option.none_or]
    exact List.find?_cons_of_pos (p := fun x : Mount => x.mountPoint == m.data.mountPoint) hself
  obtain ⟨hc, w', rfl, hn | ⟨⟨e, -, he⟩, -⟩⟩ := clean_cases hs
  · have hw : (r, w') = s.1.umount2 m.data.mountPoint := hn
    unfold World.umount2 at hw
    rw [hmounted] at hw
    cases hw
    refine ⟨rfl, ?_⟩
    have herase : (s.1.mounts.eraseP fun x => x.mountPoint == m.data.mountPoint) =
        (ms.map (·.mount)).reverse ++ w.mounts := by
      rw [hmounts, List.eraseP_append_right _ hother]
      exact congrArg _ (List.eraseP_cons_of_pos hself)
    have hl : (({ s.1 with mounts := s.1.mounts.eraseP fun x =>
        x.mountPoint == m.data.mountPoint } :
        World).settle).loops.Sublist s.1.loops := List.filter_sublist
    exact { h with
      mounts := herase, loops := (hl.filter _).trans h.loops, ids := fun l hl' =>
        h.ids l (hl.subset hl') }
  · have hr : r = (s.1.umount2 m.data.mountPoint).1 := hc
    unfold World.umount2 at hr
    rw [hmounted] at hr
    rw [hr] at he
    cases he

theorem dmNames_cons : dmNames (m :: ms) = if m.onVerity then m.data.deviceName :: dmNames ms else
    dmNames ms := by
  unfold dmNames
  rw [List.filter_cons]
  split <;> rfl

/-- Without dm-verity there is nothing to delete. -/
theorem Stacked.noDm (h : Stacked w ms (m :: ms) ls s) (hv : m.onVerity = false) :
    Stacked w ms ms ls s := by
  have hnames : dmNames (m :: ms) = dmNames ms := by rw [dmNames_cons, hv]; rfl
  refine { h with
    dms := hnames ▸ h.dms, heldDms := hnames ▸ h.heldDms, slaves := fun d hd o ho hs => ?_ }
  obtain ⟨hmem, hov, hname⟩ := h.slaves d hd o ho hs
  refine ⟨(List.mem_cons.1 hmem).resolve_left ?_, hov, hname⟩
  rintro rfl
  rw [hv] at hov
  cases hov

/-- Packages at different mount points have different devices. -/
theorem Stacked.device_ne (h : Stacked w ms ds (m :: ls) s) :
    ∀ o ∈ ls, o.data.deviceName ≠ m.data.deviceName := by
  intro o ho he
  refine ((List.pairwise_cons.1 h.apart).1 o ho).1 ?_
  rw [(h.sound m List.mem_cons_self).named, (h.sound o (List.mem_cons_of_mem _ ho)).named, he]

theorem Stacked.device_not_mem (h : Stacked w ms ds (m :: ls) s) :
    m.data.deviceName ∉ dmNames ls := by
  intro hm
  obtain ⟨o, ho, he⟩ := List.mem_map.1 hm
  exact h.device_ne o (List.mem_of_mem_filter ho) he

/-- The deletion of the oldest dm device. -/
theorem Stacked.dmDelete (h : Stacked w ms (m :: ms) (m :: ms) s) {r : Bool}
    (hs : cleanKernel.sem (.dmDelete m.data.deviceName) s r s') : Stacked w ms ms (m :: ms) s' := by
  obtain ⟨hc, w', rfl, hn | ⟨rfl, rfl⟩⟩ := clean_cases hs
  · have hw : (r, w') = s.1.dmDelete m.data.deviceName := hn
    have hheld : m.onVerity = true → r = true := fun hv =>
      hc (h.heldDms.mem_iff.2 (by rw [dmNames_cons, if_pos hv]; simp))
    have hfail : r = false → m.onVerity = false := by
      intro hr
      cases hv : m.onVerity with
      | false => rfl
      | true => exact absurd (hheld hv) (by simp [hr])
    unfold World.dmDelete at hw
    split at hw
    · cases hw
      exact h.noDm (hfail rfl)
    · split at hw
      · cases hw
        exact h.noDm (hfail rfl)
      · cases hw
        have hl : (({ s.1 with dms := s.1.dms.filter fun x => x.name != m.data.deviceName } :
            World).settle).loops.Sublist s.1.loops := List.filter_sublist
        have hleft : ∀ d ∈ s.1.dms.filter fun x => x.name != m.data.deviceName, d ∈ s.1.dms ∧
            d.name ≠ m.data.deviceName :=
          fun d hd => ⟨List.mem_of_mem_filter hd, by simpa using (List.mem_filter.1 hd).2⟩
        refine { h with
          dms := ?_, loops := (hl.filter _).trans h.loops, heldDms := ?_, ids := fun l hl' =>
            h.ids l (hl.subset hl'),
          slaves := fun d hd o ho hos => ?_ }
        · refine List.Sublist.trans ?_ h.dms
          show ((s.1.dms.filter fun x => x.name != m.data.deviceName).filter _).Sublist _
          rw [List.filter_filter]
          refine List.monotone_filter_right _ fun d hd => ?_
          rw [Bool.and_eq_true] at hd
          have hne : d.name ≠ m.data.deviceName := by simpa using hd.2
          have hni : d.name ∉ dmNames ms := by simpa using hd.1
          rw [dmNames_cons]
          split <;> simp [hne, hni]
        · show (s.2.dms.erase m.data.deviceName).Perm (dmNames ms)
          have hperm := h.heldDms
          rw [dmNames_cons] at hperm
          split at hperm
          · simpa using hperm.erase m.data.deviceName
          · rw [List.erase_of_not_mem]
            · exact hperm
            · exact fun hm => h.device_not_mem (hperm.mem_iff.1 hm)
        · obtain ⟨hd, hne⟩ := hleft d hd
          obtain ⟨hmem, hov, hname⟩ := h.slaves d hd o ho hos
          refine ⟨(List.mem_cons.1 hmem).resolve_left ?_, hov, hname⟩
          rintro rfl
          exact hne hname
  · refine h.noDm ?_
    cases hv : m.onVerity with
    | false => rfl
    | true =>
      have ht : false = true := hc (h.heldDms.mem_iff.2 (by rw [dmNames_cons, if_pos hv]; simp))
      cases ht

/-- Nothing stands on the oldest loop device any more. -/
theorem Stacked.notHeld (h : Stacked w ms ms (m :: ms) s) : ¬ s.1.loopHeld m.data.loopName := by
  have hapart := (List.pairwise_cons.1 h.apart).1
  rintro (⟨x, hx, hxl⟩ | ⟨d, hd, hds⟩)
  · rw [h.mounts] at hx
    rcases List.mem_append.1 hx with hx | hx
    · obtain ⟨o, ho, rfl⟩ := List.mem_map.1 (List.mem_reverse.1 hx)
      obtain ⟨k, hk⟩ := (h.sound m List.mem_cons_self).loop
      rw [hk] at hxl
      have hon := (h.sound o (List.mem_cons_of_mem _ ho)).on k hxl
      exact (hapart o ho).2 (hk.trans hon)
    · exact h.base m List.mem_cons_self x hx hxl
  · obtain ⟨hmem, -⟩ := h.slaves d hd m List.mem_cons_self hds
    exact (hapart m hmem).2 rfl

/-- What `LOOP_CLR_FD` leaves when nothing stands on the device. -/
theorem loopClrFd_loops {w w' : World} {d : String} {r : Except Errno Unit}
    (h : (r, w') = w.loopClrFd d)
    (hh : ¬ w.loopHeld d) : w'.loops.Sublist w.loops ∧ ∀ l ∈ w'.loops, l.device ≠ d := by
  unfold World.loopClrFd at h
  split at h
  · rename_i hnone
    cases h
    exact ⟨.refl _, findLoop_eq_none hnone⟩
  · cases h
    let mark : Loop → Loop := fun l => if l.device = d then { l with autoclear := true } else l
    have hdev : ∀ l, (mark l).device = l.device := by
      intro l
      show (if _ then _ else _ : Loop).device = _
      split <;> rfl
    have hgone : ∀ l ∈ w.loops,
      decide ((mark l).autoclear = true → w.loopHeld (mark l).device) = true →
        l.device ≠ d := by
      rintro l - hl rfl
      have hl := of_decide_eq_true hl
      rw [hdev] at hl
      refine hh (hl ?_)
      show (if _ then _ else _ : Loop).autoclear = _
      rw [if_pos rfl]
    have hloops : (({ w with loops := w.loops.map mark } : World).settle).loops =
        w.loops.filter fun l => decide
            ((mark l).autoclear = true → w.loopHeld (mark l).device) := by
      show (w.loops.map mark).filter (fun l => decide (l.autoclear = true → w.loopHeld l.device)) =
        _
      rw [List.filter_map]
      refine (List.map_congr_left fun l hl => ?_).trans (List.map_id _)
      obtain ⟨hl, hok⟩ := List.mem_filter.1 hl
      exact if_neg (hgone l hl hok)
    show (World.settle { w with loops := w.loops.map mark }).loops.Sublist w.loops ∧
      ∀ l ∈ (World.settle { w with loops := w.loops.map mark }).loops, l.device ≠ d
    rw [hloops]
    refine ⟨List.filter_sublist, fun l hl => ?_⟩
    obtain ⟨hl, hok⟩ := List.mem_filter.1 hl
    exact hgone l hl hok

/-- `LOOP_CLR_FD` on the oldest loop device. -/
theorem Stacked.clrFd (h : Stacked w ms ms (m :: ms) s) {r : Except Errno Unit}
    (hs : cleanKernel.sem (.loopClrFd m.data.loopName) s r s') : Stacked w ms ms ms s' := by
  have hheld : m.data.loopName ∈ s.2.loops := h.heldLoops.mem_iff.2 List.mem_cons_self
  obtain ⟨hc, w', rfl, hn | ⟨⟨e, -, he⟩, -⟩⟩ := clean_cases hs
  · obtain rfl : r = .ok () := hc hheld
    have hw : (Except.ok (), w') = s.1.loopClrFd m.data.loopName := hn
    have honly := World.loopClrFd_onlyDevices hw
    have hdms : w'.dms = s.1.dms := by
      unfold World.loopClrFd at hw
      split at hw <;> cases hw
      rfl
    obtain ⟨hsub, hne⟩ := loopClrFd_loops hw h.notHeld
    refine ⟨?_, ?_, ?_, h.heldDms, ?_, ?_, ?_, ?_, ?_, (List.pairwise_cons.1 h.apart).2⟩
    · show w'.mounts = _
      rw [honly]
      exact h.mounts
    · show (w'.dms.filter _).Sublist _
      rw [hdms]
      exact h.dms
    · refine List.Sublist.trans ?_ h.loops
      have hsame : (w'.loops.filter fun l => decide (l.device ∉ loopNames ms)) =
          w'.loops.filter fun l => decide (l.device ∉ loopNames (m :: ms)) := by
        refine List.filter_congr fun l hl => ?_
        simp [loopNames, hne l hl]
      show (w'.loops.filter _).Sublist _
      rw [hsame]
      exact hsub.filter _
    · have hperm := h.heldLoops.erase m.data.loopName
      simpa [Held.upd, loopNames] using hperm
    · exact fun l hl hm => h.ids l (hsub.subset hl) (List.mem_cons_of_mem _ hm)
    · show ∀ d ∈ w'.dms, _
      rw [hdms]
      exact fun d hd o ho => h.slaves d hd o (List.mem_cons_of_mem _ ho)
    · exact fun o ho => h.base o (List.mem_cons_of_mem _ ho)
    · exact fun o ho => h.sound o (List.mem_cons_of_mem _ ho)
  · have hr : r = .ok () := hc hheld
    rw [hr] at he
    cases he

theorem dmNames_append {m : MountedApex} :
    dmNames (ms ++ [m]) = dmNames ms ++ if m.onVerity then [m.data.deviceName] else [] := by
  unfold dmNames
  rw [List.filter_append, List.map_append]
  congr 1
  cases hv : m.onVerity <;> simp [hv]

theorem loopNames_append {m : MountedApex} :
    loopNames (ms ++ [m]) = loopNames ms ++ [m.data.loopName] := by
  unfold loopNames
  rw [List.map_append]
  rfl

/-- A package is mounted at a place where nothing was. -/
theorem Stacked.push {cfg : Config} {apex : ApexFile} {mountPoint deviceName loop : String}
    (h : Stacked w ms ms ms s) (hm : MountOwned cfg apex mountPoint deviceName s loop s')
    (hl : Live s') (hpoint : mountPoint = join kApexRoot deviceName) (hdevice : deviceName ≠ "")
    (hfree : s.1.mounted mountPoint = none) : ∃ m : MountedApex,
      m.data = ⟨loop, apex.path, mountPoint, deviceName⟩ ∧ Stacked w (ms ++ [m]) (ms ++ [m])
        (ms ++ [m]) s' := by
  obtain ⟨dm, mt, -, hname, hmt, ho⟩ := hm
  let m : MountedApex := ⟨⟨loop, apex.path, mountPoint, deviceName⟩, dm.isSome, mt⟩
  have hheld := ho.held
  have hfresh : loop ∉ loopNames ms := by
    intro hmem
    have hnodup := hl.loopsNodup
    rw [hheld] at hnodup
    exact (List.nodup_cons.1 hnodup).1 (h.heldLoops.mem_iff.2 hmem)
  have hapart : ∀ o ∈ ms, o.data.mountPoint ≠ mountPoint ∧ o.data.loopName ≠ loop := by
    intro o hom
    refine ⟨fun he => ?_, fun he => hfresh (List.mem_map.2 ⟨o, hom, he⟩)⟩
    refine List.find?_eq_none.1 hfree o.mount ?_ (beq_iff_eq.2 ((h.sound o hom).point.trans he))
    rw [h.mounts]
    exact List.mem_append_left _ (List.mem_reverse.2 (List.mem_map_of_mem hom))
  have hmounts : s'.1.mounts = mt :: s.1.mounts := by
    rw [ho.world]
    rfl
  obtain ⟨l, rest, hloops, hld, -, -, hsub, -⟩ := ho.loops
  obtain ⟨restd, hdms, hsubd, hned⟩ := ho.dms
  refine ⟨m, rfl, ?_, ?_, ?_, ?_, ?_, ?_, ?_, ?_, ?_, ?_⟩
  · rw [hmounts, h.mounts, List.map_append, List.reverse_append]
    rfl
  · refine List.Sublist.trans ?_ ((hsubd.filter _).trans h.dms)
    rw [hdms, dmNames_append, List.filter_append]
    have hnew : dm.toList.filter (fun d => decide
        (d.name ∉ dmNames ms ++ if m.onVerity = true then [m.data.deviceName] else [])) = [] := by
      refine List.filter_eq_nil_iff.2 fun d hd => ?_
      have hd : dm = some d := Option.mem_toList.1 hd
      subst hd
      simp [m, hname d rfl]
    rw [hnew, List.nil_append]
    refine List.monotone_filter_right _ fun d hd => ?_
    simp only [decide_eq_true_eq, List.mem_append, not_or] at hd ⊢
    exact hd.1
  · refine List.Sublist.trans ?_ ((hsub.filter _).trans h.loops)
    rw [hloops, loopNames_append, List.filter_cons_of_neg (by simp [m, hld])]
    refine List.monotone_filter_right _ fun x hx => ?_
    simp only [decide_eq_true_eq, List.mem_append, not_or] at hx ⊢
    exact hx.1
  · rw [hheld, dmNames_append]
    cases dm with
    | none => simpa [m] using h.heldDms
    | some d =>
      have hd : d.name = deviceName := hname d rfl
      simpa [m, hd] using (h.heldDms.cons deviceName).trans (List.perm_append_singleton _ _).symm
  · rw [hheld, loopNames_append]
    exact (h.heldLoops.cons loop).trans (List.perm_append_singleton _ _).symm
  · intro x hx hxm
    rw [loopNames_append] at hxm
    rcases List.mem_append.1 hxm with hxm | hxm
    · rw [hloops] at hx
      rcases List.mem_cons.1 hx with rfl | hx
      · exact ho.ids x (hloops ▸ List.mem_cons_self) hld
      · exact h.ids x (hsub.subset hx) hxm
    · exact ho.ids x hx (List.mem_singleton.1 hxm)
  · intro d hd o hom hs
    rcases List.mem_append.1 hom with hom | hom
    · rw [hdms] at hd
      rcases List.mem_append.1 hd with hd | hd
      · have hd : dm = some d := Option.mem_toList.1 hd
        exact absurd ((ho.slave d hd).symm.trans hs).symm (hapart o hom).2
      · obtain ⟨hmem, hrest⟩ := h.slaves d (hsubd.subset hd) o hom hs
        exact ⟨List.mem_append_left _ hmem, hrest⟩
    · obtain rfl : o = m := List.mem_singleton.1 hom
      refine ⟨List.mem_append_right _ (List.mem_singleton_self _), ?_⟩
      rw [hdms] at hd
      rcases List.mem_append.1 hd with hd | hd
      · have hd : dm = some d := Option.mem_toList.1 hd
        subst hd
        exact ⟨rfl, hname d rfl⟩
      · exact absurd hs (hned d hd).1
  · intro o hom
    rcases List.mem_append.1 hom with hom | hom
    · exact h.base o hom
    · obtain rfl : o = m := List.mem_singleton.1 hom
      intro x hx
      refine ho.mounts x ?_
      rw [h.mounts]
      exact List.mem_append_right _ hx
  · intro o hom
    rcases List.mem_append.1 hom with hom | hom
    · exact h.sound o hom
    · obtain rfl : o = m := List.mem_singleton.1 hom
      exact ⟨hmt, hpoint, hdevice, ho.mounted mt rfl, ho.name⟩
  · refine List.pairwise_append.2 ⟨h.apart, List.pairwise_singleton _ _, fun a ha b hb => ?_⟩
    obtain rfl : b = m := List.mem_singleton.1 hb
    exact hapart a ha

end Stack

end Apexd
