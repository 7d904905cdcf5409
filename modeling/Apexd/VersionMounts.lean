import Apexd.VersionTable

/-!
# Mounting a version

`MountPackageImpl` keeps the table of the mounted versions at every moment, whatever is refused.

* `World.Bound` — a loop device that was bound and is not mounted yet; one `wp_` lemma for each
  function that leads from a free device to a mount.
* `World.Tabled` — the table, together with a fact that only files, directories and entries decide.
* `World.Tabled.wp_mountPackageImpl` — the whole.
-/

set_option autoImplicit false

namespace Apexd

open Text Prog

/-! ## Loop devices on the way to a mount -/

/-- A loop device is bound to a file, is to stay, and is not mounted yet. -/
structure World.Bound (w : World) (loop path : String) : Prop where
  found : ∃ l, w.findLoop loop = some l ∧ l.backing = path ∧ w.file? path = some l.file ∧
    l.autoclear = false
  unmounted : ∀ m ∈ w.mounts, m.loop ≠ some loop

/-- The calls that set up a bound loop device and the dm device on it. -/
def SetupCmd : Sys → Prop
  | .loopSetStatus _ _ _ _ => True
  | .dmCreate _ _ => True
  | .dmDelete _ => True
  | c => DeviceQuery c

/-- The calls around them that change no mount. -/
def SpareCmd : Sys → Prop
  | .mkdir p _ => belowApex p
  | .rmdir p => belowApex p
  | .loopSetFd d _ => ∃ n, d = loopName n
  | c => KeepsMounts c

theorem DeviceQuery.setup {c : Sys} (h : DeviceQuery c) : SetupCmd c := by
  cases c <;> first | exact h | trivial

theorem SetupCmd.spare {c : Sys} (h : SetupCmd c) : SpareCmd c := by
  cases c <;> first | exact h.elim | trivial

theorem DeviceQuery.spare {c : Sys} (h : DeviceQuery c) : SpareCmd c := h.setup.spare

theorem SpareCmd.keeps {c : Sys} (h : SpareCmd c) : KeepsMounts c := by
  cases c <;> first | exact h | trivial

theorem SpareCmd.table {c : Sys} (h : SpareCmd c) : TableCmd c := by
  cases c <;> first | exact h.elim | exact h | trivial

/-- No file, no directory outside `/apex` and no entry of the database has changed. -/
structure World.SameStore (w w' : World) : Prop where
  files : ∀ q, w'.file? q = w.file? q
  dirs : ∀ p, p ≠ kApexRoot → belowApex p = false → w'.dirs p = w.dirs p
  db : w'.db = w.db

theorem World.SameStore.of_dirs {w w' : World} (h : w'.dirs = w.dirs) (hdb : w'.db = w.db) :
    w.SameStore w' :=
  ⟨World.file?_congr h, fun _ _ _ => by rw [h], hdb⟩

theorem SpareCmd.store {c : Sys} (h : SpareCmd c) {w w' : World} {r : c.Res}
    (hs : c.Normal w r w') : w.SameStore w' := by
  have hdevices : w.OnlyDevices w' → w.SameStore w' := fun hd => .of_dirs (by rw [hd]) (by rw [hd])
  cases c with
  | mkdir p mode =>
    have ho := outside_mkdir h hs
    exact ⟨ho.files, ho.dirs, by rw [World.mkdir_onlyDirs hs]⟩
  | rmdir p =>
    have ho := outside_rmdir h hs
    exact ⟨ho.files, ho.dirs, by rw [World.rmdir_onlyDirs hs]⟩
  | loopSetFd d t => exact hdevices (World.loopSetFd_onlyDevices hs)
  | loopSetStatus d o z i => exact hdevices (World.loopSetStatus_onlyDevices hs)
  | loopClrFd d => exact hdevices (World.loopClrFd_onlyDevices hs)
  | dmCreate n t =>
    obtain ⟨k, _, hs⟩ := hs
    exact hdevices (World.dmCreate_onlyDevices hs)
  | dmDelete n => exact hdevices (World.dmDelete_onlyDevices hs)
  | loopGetFree =>
    obtain ⟨n, _, _, rfl⟩ := hs
    exact .of_dirs rfl rfl
  | _ => first
    | exact h.elim
    | (obtain ⟨_, rfl⟩ := hs; exact .of_dirs rfl rfl)

section Bound

variable {w w' : World} {loop path : String}

theorem World.Bound.mapLoops (h : w.Bound loop path) {f : Loop → Loop}
    (hd : ∀ l, (f l).device = l.device)
    (hb : ∀ l, (f l).backing = l.backing) (hf : ∀ l, (f l).file = l.file)
    (ha : ∀ l, (f l).autoclear = l.autoclear) :
    ({ w with loops := w.loops.map f } : World).Bound loop path where
  found := by
    obtain ⟨l, hl, hback, hfile, hauto⟩ := h.found
    have hcomp : ((fun x : Loop => x.device == loop) ∘ f) = fun x : Loop => x.device == loop :=
      funext fun x => congrArg (· == loop) (hd x)
    refine ⟨f l, ?_, (hb l).trans hback, ?_, (ha l).trans hauto⟩
    · show (w.loops.map f).find? _ = _
      rw [List.find?_map, hcomp]
      exact congrArg (Option.map f) hl
    · rw [hf]
      exact hfile
  unmounted := h.unmounted

theorem World.Bound.settle (h : w.Bound loop path) : w.settle.Bound loop path where
  found := by
    obtain ⟨l, hl, hback, hfile, hauto⟩ := h.found
    refine ⟨l, find?_filter_of_some hl (decide_eq_true fun ha => ?_), hback, hfile, hauto⟩
    rw [hauto] at ha
    cases ha
  unmounted := h.unmounted

theorem World.Bound.step (h : w.Bound loop path) {c : Sys} {r : c.Res} (hc : SetupCmd c)
    (hs : c.Normal w r w') : w'.Bound loop path := by
  cases c with
  | loopSetStatus d o z i =>
    have hs : (r, w') = w.loopSetStatus d o z i := hs
    unfold World.loopSetStatus at hs
    split at hs
    · cases hs
      exact h
    · cases hs
      refine h.mapLoops ?_ ?_ ?_ ?_ <;> intro l <;> split <;> rfl
  | dmCreate n t =>
    obtain ⟨k, _, hs⟩ := hs
    unfold World.dmCreate at hs
    split at hs <;> cases hs <;> exact ⟨h.found, h.unmounted⟩
  | dmDelete n =>
    have hs : (r, w') = w.dmDelete n := hs
    unfold World.dmDelete at hs
    split at hs
    · cases hs
      exact h
    · split at hs
      · cases hs
        exact h
      · cases hs
        exact World.Bound.settle ⟨h.found, h.unmounted⟩
  | loopGetFree =>
    obtain ⟨n, _, _, rfl⟩ := hs
    exact h
  | _ => first
    | exact hc.elim
    | (obtain ⟨_, rfl⟩ := hs; exact h)

/-- A free loop device is bound. -/
theorem World.Bound.setFd (hfree : ¬ w.loopInUse loop) (hs : (.ok (), w') = w.loopSetFd loop path) :
    w'.Bound loop path := by
  unfold World.loopSetFd at hs
  split at hs
  · cases hs
  · cases hs
  · rename_i f _ hfile
    cases hs
    refine ⟨⟨⟨loop, path, f, 0, 0, "", false⟩, ?_, rfl, hfile, rfl⟩,
      fun m hm he => hfree (Or.inr (Or.inl ⟨m, hm, he⟩))⟩
    exact List.find?_cons_of_pos (beq_self_eq_true loop)

end Bound

/-! ## What a mount shows -/

/-- The mount shows the directory or the image at a path. -/
def World.ShowsPath (w : World) (m : Mount) (path : String) : Prop :=
  m.root = .dir path ∨ ∃ f, m.root = .image f ∧ w.file? path = some f

theorem World.ShowsPath.same {w w' : World} {m : Mount} {path : String} (h : w.ShowsPath m path)
    (hf : w'.file? path = w.file? path) : w'.ShowsPath m path := by
  unfold ShowsPath
  rwa [hf]

/-- The file at `path` is mounted from the loop device. -/
def World.MountedAt (w : World) (mountPoint loop path : String) : Prop :=
  ∃ m ∈ w.mounts, m.mountPoint = mountPoint ∧ m.loop = some loop ∧ w.ShowsPath m path

theorem World.SameMounts.mountedAt {w w' : World} {mountPoint loop path : String}
    (h : w.SameMounts w')
    (hm : w.MountedAt mountPoint loop path) : w'.MountedAt mountPoint loop path := by
  obtain ⟨m, hmem, hp, hl, hs⟩ := hm
  exact ⟨m, h.mounts ▸ hmem, hp, hl, hs.same (h.files path)⟩

/-! ## Programs -/

/-- The table, together with a fact about the files and the database. -/
structure World.Tabled (From : String → String → Option File → Prop) (Kept : World → Prop)
    (w : World) : Prop where
  kept : Kept w
  table : w.Table From

section Programs

variable {From : String → String → Option File → Prop} {Kept : World → Prop}
    {F : Faults} {α β : Type}
  {w : World} {loop path : String}

theorem DeviceQuery.stays (hF : F.Refusals) {c : Sys} {r : c.Res} {w' : World} (hc : DeviceQuery c)
    (hs : (kernel .off F).sem c w r w') : w' = w := by
  rcases hs with hn | hf
  · cases c with
    | loopGetFree =>
      obtain ⟨n, _, _, rfl⟩ := hn
      rfl
    | _ => first
      | exact hc.elim
      | (obtain ⟨_, rfl⟩ := hn; rfl)
  · exact (hF _ _ _ _ hf).2

/-- The rest of a program, after queries. -/
theorem wp_queried_bind (hF : F.Refusals) {I : World → Prop} {p : ApexM β} {f : β → ApexM α}
    {Q : Except String α → World → Prop} (hp : p.Uses DeviceQuery) (hI : I w)
    (hok : ∀ b, wp (kernel .off F) I (f b) Q w) (herr : ∀ e, Q (.error e) w) :
    wp (kernel .off F) I (p.bind f) Q w := by
  have hany : wp (kernel .off F) (fun _ => True) p (fun _ _ => True) w :=
    ((uses_all p).wp (fun c _ _ _ => by cases c <;> trivial) (fun _ _ _ _ _ h _ => h) trivial).imp
      fun _ _ h _ => h
  exact hany.bind_stays hp (fun c r w' hc hs => hc.stays hF hs) hI (fun b _ => hok b)
    fun e _ => herr e

theorem uses_deleteVerityDevice_setup (name path : String) :
    (deleteVerityDevice name path).Uses SetupCmd :=
  uses_exec_bind trivial fun r => uses_bind (uses_require r _) fun _ =>
    uses_waitForDevice (fun _ => trivial) _ _

theorem uses_deleteVerityDeviceByName_setup (name : String) :
    (deleteVerityDeviceByName name).Uses SetupCmd := by
  refine uses_exec_bind trivial fun r => ?_
  cases r with
  | none => trivial
  | some p => exact uses_deleteVerityDevice_setup name p

variable (hF : F.Refusals) (hkept : ∀ w w' : World, w.SameStore w' → Kept w → Kept w')

include hF hkept

theorem World.Tabled.wp_spare (h : w.Tabled From Kept) {p : ApexM α} (hp : p.Uses SpareCmd) :
    wp (kernel .off F) (World.Tabled From Kept) p (fun _ w' => w.SameMounts w') w := by
  have hkeep : p.Keeps (kernel .off F) fun w' => w'.Tabled From Kept ∧ w.SameMounts w' := by
    apply hp.keeps
    · intro c _ _ _
      cases c <;> trivial
    · rintro c w₁ r w₂ hc ⟨h₁, hsame⟩ (hn | hf)
      · exact ⟨⟨hkept _ _ (hc.store hn) h₁.kept, h₁.table.step hc.table hn⟩,
          hsame.trans (hc.keeps.same hn)⟩
      · rw [(hF _ _ _ _ hf).2]
        exact ⟨h₁, hsame⟩
  exact (hkeep w ⟨h, .refl w⟩).mono (fun _ h => h.1) fun _ _ h _ => h.2

theorem World.Tabled.wp_setup (h : w.Tabled From Kept) (hb : w.Bound loop path) {p : ApexM α}
    (hp : p.Uses SetupCmd) :
    wp (kernel .off F) (World.Tabled From Kept) p
      (fun _ w' => w.SameMounts w' ∧ w'.Bound loop path) w := by
  have hkeep : p.Keeps (kernel .off F) fun w' => w'.Bound loop path := by
    apply hp.keeps
    · intro c _ _ _
      cases c <;> trivial
    · rintro c w₁ r w₂ hc h₁ (hn | hf)
      · exact h₁.step hc hn
      · rw [(hF _ _ _ _ hf).2]
        exact h₁
  have hspare := h.wp_spare hF hkept (hp.mono fun _ hc => hc.spare)
  exact (hspare.and (hkeep w hb)).mono (fun _ h => h.1) fun _ _ hI h => ⟨h.1, hI.2⟩

theorem World.Tabled.wp_setUpLoopDevice (h : w.Tabled From Kept) {n : Nat}
    (hfree : ¬ w.loopInUse (loopName n)) (path : String) (offset : Int) (size : Nat) :
    wp (kernel .off F) (World.Tabled From Kept) (setUpLoopDevice (loopName n) path offset size)
      (fun x w' => w.SameMounts w' ∧ (x = .ok () → w'.Bound (loopName n) path)) w := by
  have hread : (configureReadAhead (loopName n)).Uses SetupCmd := (uses_configureReadAhead _).mono
    fun _ h => h.setup
  unfold setUpLoopDevice
  refine ⟨h, trivial, fun r w₁ hs => ?_⟩
  have h₁ : w₁.Tabled From Kept ∧ w.SameMounts w₁ ∧ (r = .ok () → w₁.Bound (loopName n) path) := by
    rcases hs with hn | hf
    · have hsame := KeepsMounts.same (c := .loopSetFd (loopName n) path) trivial hn
      have hstore := SpareCmd.store (c := .loopSetFd (loopName n) path) ⟨n, rfl⟩ hn
      refine ⟨⟨hkept _ _ hstore h.kept, h.table.loopSetFd ⟨n, rfl⟩ hn⟩, hsame, ?_⟩
      rintro rfl
      exact .setFd hfree hn
    · obtain ⟨⟨e, _, rfl⟩, rfl⟩ := hF _ _ _ _ hf
      exact ⟨h, .refl _, nofun⟩
  obtain ⟨h₁, hsame, hbound⟩ := h₁
  cases r with
  | error e => exact ⟨h₁, hsame, nofun⟩
  | ok _ =>
    refine (h₁.wp_setup hF hkept (hbound rfl) ?_).imp fun _ _ _ h => ⟨hsame.trans h.1, fun _ => h.2⟩
    simp only [check, ret_bind]
    refine uses_bind (uses_sys_check _ trivial) fun _ =>
      uses_bind (uses_sys_check _ trivial) fun _ => ?_
    refine uses_exec_bind trivial fun r => ?_
    cases r with
    | error e => exact uses_bind trivial fun _ => hread
    | ok _ => exact uses_exec_bind trivial fun _ => hread

theorem World.Tabled.wp_createLoopDevice (h : w.Tabled From Kept) (path : String) (offset : Int)
    (size : Nat) : wp (kernel .off F) (World.Tabled From Kept) (createLoopDevice path offset size)
      (fun x w' => w.SameMounts w' ∧ ∀ loop, x = .ok loop → (∃ n, loop = loopName n) ∧
        w'.Bound loop path) w := by
  have herr : ∀ (e : String) (w' : World), w.SameMounts w' → w.SameMounts w' ∧
      ∀ loop, (.error e : Except String String) = .ok loop → (∃ n, loop = loopName n) ∧
          w'.Bound loop path :=
    fun e w' hs => ⟨hs, nofun⟩
  unfold createLoopDevice
  refine wp_queried_bind hF (uses_sys_check _ trivial) h (fun _ => ?_) fun e => herr e w (.refl w)
  simp only [bind_eq, exec_bind]
  refine ⟨h, trivial, fun r w₁ hs => ?_⟩
  obtain rfl : w₁ = w := DeviceQuery.stays hF (c := .loopGetFree) trivial hs
  cases r with
  | error e => exact ⟨h, herr _ w₁ (.refl w₁)⟩
  | ok num =>
    have hfree : ¬ w₁.loopInUse (loopName num) := by
      rcases hs with ⟨n, hr, hu, _⟩ | hf
      · cases hr
        exact hu
      · obtain ⟨⟨e, he⟩, _⟩ := hF _ _ _ _ hf
        cases he
    simp only [check, ret_bind]
    refine wp_queried_bind hF (uses_sys_check (c := .openFile path) _ trivial) h (fun _ => ?_)
      fun e => herr e w₁ (.refl w₁)
    refine wp_queried_bind hF (uses_openLoopDevice _ _) h (fun _ => ?_) fun e =>
      herr e w₁ (.refl w₁)
    refine wp_bind.2 (wp_onFail.2 ((h.wp_setUpLoopDevice hF hkept hfree path offset size).imp ?_))
    rintro (e | u) w₂ h₂ ⟨hsame, hbound⟩
    · refine (h₂.wp_spare hF hkept (p := maybeCloseBad _) ⟨trivial, fun _ => trivial⟩).imp ?_
      intro _ w₃ _ hsame'
      exact herr e w₃ (hsame.trans hsame')
    · refine ⟨h₂, hsame, ?_⟩
      rintro _ ⟨⟩
      exact ⟨⟨num, rfl⟩, hbound rfl⟩

theorem World.Tabled.wp_createLoopDeviceLoop (h : w.Tabled From Kept) (apex : ApexFile) (n : Nat) :
    wp (kernel .off F) (World.Tabled From Kept) (createLoopDeviceLoop apex n)
      (fun x w' => w.SameMounts w' ∧ ∀ loop, x = .ok loop → (∃ n, loop = loopName n) ∧
        w'.Bound loop apex.path) w := by
  induction n generalizing w with
  | zero => exact ⟨h, .refl w, nofun⟩
  | succ n ih =>
    refine wp_bind.2 (wp_attempt.2 ((h.wp_createLoopDevice hF hkept _ _ _).imp ?_))
    rintro (e | loop) w₁ h₁ ⟨hsame, hbound⟩
    · dsimp only [Then]
      split
      · exact ⟨h₁, hsame, nofun⟩
      · refine (ih h₁).imp ?_
        rintro x w₂ _ ⟨hsame', hx⟩
        exact ⟨hsame.trans hsame', hx⟩
    · refine ⟨h₁, hsame, ?_⟩
      rintro _ ⟨⟩
      exact hbound loop rfl

theorem World.Tabled.wp_createVerityDevice (h : w.Tabled From Kept) (hb : w.Bound loop path)
    (name : String) {table : VerityTable} (ht : table.device = loop) :
    wp (kernel .off F) (World.Tabled From Kept) (createVerityDevice name table)
      (fun x w' => w.SameMounts w' ∧ w'.Bound loop path ∧ ∀ block, x = .ok block →
        ∃ d, w'.findDmPath block = some d ∧ d.slave = loop ∧ d.name = name) w := by
  have hcreate : ∀ w₁ : World, w₁.Tabled From Kept → w₁.Bound loop path →
      wp (kernel .off F) (World.Tabled From Kept) (do
      let created ← sys (.dmCreate name table)
      require created "Couldn't create verity device."
      (createdPath name).onFail (deleteVerityDevice name "") : ApexM String)
      (fun x w' => w₁.SameMounts w' ∧ w'.Bound loop path ∧ ∀ block, x = .ok block →
        ∃ d, w'.findDmPath block = some d ∧ d.slave = loop ∧ d.name = name) w₁ := by
    intro w₁ h₁ hb₁
    have hcreated : wp (kernel .off F) (fun _ => True) (sys (.dmCreate name table) : ApexM Bool)
        (fun x w₂ => x = .ok true → ∃ n, w₂.findDm name = some ⟨name, dmPath n, loop⟩ ∧
          w₂.findDmPath (dmPath n) = some ⟨name, dmPath n, loop⟩) w₁ := by
      refine ⟨trivial, trivial, fun r w₂ hs => ⟨trivial, ?_⟩⟩
      rintro ⟨⟩
      rcases hs with ⟨n, _, hs⟩ | hf
      · unfold World.dmCreate at hs
        split at hs
        · cases hs
          rw [ht]
          exact ⟨n, List.find?_cons_of_pos (beq_self_eq_true name),
            List.find?_cons_of_pos (beq_self_eq_true (dmPath n))⟩
        · cases hs
      · have hr := (hF _ _ _ _ hf).1
        cases hr
    refine wp_bind.2 (((h₁.wp_setup hF hkept hb₁ (p := sys (.dmCreate name table))
      ⟨trivial, fun _ => trivial⟩).and hcreated).mono (fun _ h => h.1) ?_)
    rintro (e | created) w₂ ⟨h₂, _⟩ ⟨⟨hsame, hb₂⟩, hnew⟩
    · exact ⟨hsame, hb₂, nofun⟩
    · refine wp_bind.2 (wp_require.2 ⟨h₂, ?_⟩)
      cases created with
      | false => exact ⟨hsame, hb₂, nofun⟩
      | true =>
        obtain ⟨n, hname, hpath⟩ := hnew rfl
        refine wp_onFail.2 ⟨h₂, trivial, fun r w₃ hs => ?_⟩
        obtain rfl : w₃ = w₂ := DeviceQuery.stays hF (c := .dmGetPath name) trivial hs
        cases r with
        | none =>
          refine ⟨h₂, (h₂.wp_setup hF hkept hb₂ (uses_deleteVerityDevice_setup name "")).imp ?_⟩
          rintro _ w₄ _ ⟨hsame', hb₄⟩
          exact ⟨hsame.trans hsame', hb₄, nofun⟩
        | some block =>
          refine ⟨h₂, hsame, hb₂, ?_⟩
          rintro _ ⟨⟩
          rcases hs with ⟨hr, _⟩ | hf
          · rw [hname] at hr
            cases hr
            exact ⟨_, hpath, rfl, rfl⟩
          · have hr := (hF _ _ _ _ hf).1
            cases hr
  unfold createVerityDevice
  refine wp_queried_bind hF (p := sys (.dmGetState name)) ⟨trivial, fun _ => trivial⟩
    h (fun b => ?_) fun e => ⟨.refl w, hb, nofun⟩
  have hdelete := uses_when (b := b) (uses_logged (uses_deleteVerityDeviceByName_setup name))
  refine wp_bind.2 ((h.wp_setup hF hkept hb hdelete).imp ?_)
  rintro (e | u) w₁ h₁ ⟨hsame, hb₁⟩
  · exact ⟨hsame, hb₁, nofun⟩
  · refine (hcreate w₁ h₁ hb₁).imp ?_
    rintro x w₂ _ ⟨hsame', hx⟩
    exact ⟨hsame.trans hsame', hx⟩

/-- The block device of a mount: the loop device, or a dm device over it. -/
def World.BlockOn (w : World) (block loop name : String) : Prop :=
  block = loop ∨ ∃ d, w.findDmPath block = some d ∧ d.slave = loop ∧ d.name = name

/-- What is known of a package that was mounted. -/
structure World.HasMount (w : World) (data : MountedApexData) (mountPoint deviceName : String) :
    Prop where
  point : data.mountPoint = mountPoint
  device : data.deviceName = "" ∨ data.deviceName = deviceName
  mount : ∃ m ∈ w.mounts, m.mountPoint = mountPoint ∧
    (data.loopName = "" ∨ m.loop = some data.loopName) ∧ w.ShowsPath m data.fullPath

/-- **The mount itself**: from a device that no other version is mounted from. -/
theorem World.Tabled.mount (h : w.Tabled From Kept) (hb : w.Bound loop path)
    (hloop : ∃ n, loop = loopName n)
    {block name mountPoint : String} (hblock : w.BlockOn block loop name)
    (hpoint : mountPoint = join kApexRoot name)
    (ho : isPathForBuiltinApexes mountPoint = false) (hnone : w.mounted mountPoint = none)
    (hfrom : ∀ f, w.file? path = some f → From mountPoint path (some f)) {w' : World}
    {r : Except Errno Unit}
    (hs : (kernel .off F).sem (.mount block mountPoint) w r w') : w'.Tabled From Kept ∧
      (r = .ok () → w'.MountedAt mountPoint loop path) := by
  rcases hs with hn | hf
  · have hs : (r, w') = w.mount block mountPoint := hn
    rcases w.mount_cases block mountPoint with ⟨e, he⟩ | ⟨n, f, _, hfile, he⟩
    · rw [he] at hs
      cases hs
      exact ⟨h, nofun⟩
    · rw [he] at hs
      cases hs
      obtain ⟨l, hl, hback, hpath, _⟩ := hb.found
      have hdev := World.findLoop_device hl
      have hnf : n = loop ∧ f = l.file := by
        unfold World.blockFile? at hfile
        rcases hblock with rfl | ⟨d, hd, hslave, _⟩
        · rw [hl] at hfile
          cases hfile
          exact ⟨hdev, rfl⟩
        · -- a dm device is not taken for a loop device
          have hnot : w.findLoop block = none := by
            refine List.find?_eq_none.2 fun x hx hxb => ?_
            obtain ⟨k, hk⟩ := h.table.loopNames x hx
            obtain ⟨i, hi⟩ := h.table.dmPaths d (List.mem_of_find?_eq_some hd)
            have hxb : x.device = block := eq_of_beq hxb
            exact dmPath_ne_loopName i k
              (hi.symm.trans ((World.findDmPath_path hd).trans (hxb.symm.trans hk)))
          have hd' : (w.dms.find? fun x => x.path == block) = some d := hd
          rw [hnot, hd'] at hfile
          dsimp only at hfile
          rw [hslave, hl] at hfile
          cases hfile
          exact ⟨hdev, rfl⟩
      obtain ⟨rfl, rfl⟩ := hnf
      have hserves : w.Serves From ⟨mountPoint, block, some n, .image l.file, none⟩ := by
        refine Or.inr ⟨l, congrArg some hdev.symm, hdev.symm ▸ hl, rfl, ?_, ?_⟩
        · rw [hback]
          exact hfrom l.file hpath
        · rw [hdev]
          refine hblock.imp_right ?_
          rintro ⟨d, hd, hslave, hname⟩
          exact ⟨d, hd, hslave, hname ▸ hpoint⟩
      refine ⟨⟨hkept w _ (.of_dirs rfl rfl) h.kept, h.table.pushVersion hserves ho hnone ?_⟩,
        fun _ => ?_⟩
      · rintro d ⟨⟩ a ha
        exact hb.unmounted a ha
      · exact ⟨_, List.mem_cons_self, rfl, rfl, Or.inr ⟨l.file, rfl, hpath⟩⟩
  · obtain ⟨⟨e, _, rfl⟩, rfl⟩ := hF _ _ _ _ hf
    exact ⟨h, nofun⟩

theorem World.Tabled.wp_mountBlockDevice (h : w.Tabled From Kept) (hb : w.Bound loop path)
    (hloop : ∃ n, loop = loopName n) {block name mountPoint : String}
    (hblock : w.BlockOn block loop name)
    (hpoint : mountPoint = join kApexRoot name) (ho : isPathForBuiltinApexes mountPoint = false)
    (hnone : w.mounted mountPoint = none)
    (hfrom : ∀ f, w.file? path = some f → From mountPoint path (some f))
    (apex : ApexFile) (readSize : Option Nat) :
    wp (kernel .off F) (World.Tabled From Kept) (mountBlockDevice apex block mountPoint readSize)
      (fun x w' => x = .ok () → w'.MountedAt mountPoint loop path) w := by
  have hmount : wp (kernel .off F) (World.Tabled From Kept) (mountVerified apex block mountPoint)
      (fun x w' => x = .ok () → w'.MountedAt mountPoint loop path) w := by
    unfold mountVerified
    rw [bind_eq, exec_bind]
    refine ⟨h, trivial, fun r w₁ hs => ?_⟩
    obtain ⟨h₁, hnew⟩ := h.mount hF hkept hb hloop hblock hpoint ho hnone hfrom hs
    cases r with
    | error e => exact ⟨h₁, nofun⟩
    | ok _ =>
      have hverify := (uses_verifyMountedImage apex mountPoint).mono fun _ h => h.spare
      refine wp_bind.2 (wp_attempt.2 ((h₁.wp_spare hF hkept hverify).imp ?_))
      rintro (e | u) w₂ h₂ hsame
      · refine ⟨h₂, trivial, fun r w₃ hs₃ => ?_⟩
        -- the mount goes again
        have h₃ : w₃.Tabled From Kept := by
          rcases hs₃ with hn | hf
          · have hmounts := World.umount2_onlyMounts hn
            have hstore : w₂.SameStore w₃ := .of_dirs (by rw [hmounts]) (by rw [hmounts])
            exact ⟨hkept _ _ hstore h₂.kept, h₂.table.umount2 hn⟩
          · rw [(hF _ _ _ _ hf).2]
            exact h₂
        exact ⟨h₃, nofun⟩
      · refine ⟨h₂, fun _ => ?_⟩
        exact hsame.mountedAt (hnew rfl)
  have hwait : (waitForDevice block .kWaitToBeCreated).Uses DeviceQuery :=
    uses_waitForDevice (fun _ => trivial) _ _
  cases readSize with
  | none =>
    rw [mountBlockDevice_none]
    exact wp_queried_bind hF hwait h (fun _ => hmount) fun _ => nofun
  | some size =>
    rw [mountBlockDevice_some]
    refine wp_queried_bind hF hwait h (fun _ => ?_) fun _ => nofun
    exact wp_queried_bind hF (uses_sys_check (c := .readVerityDevice block size) _ trivial) h
      (fun _ => hmount) fun _ => nofun

theorem World.Tabled.wp_mountLoopDevice (h : w.Tabled From Kept) {apex : ApexFile}
    (hb : w.Bound loop apex.path)
    (hloop : ∃ n, loop = loopName n) {name mountPoint : String}
    (hpoint : mountPoint = join kApexRoot name)
    (ho : isPathForBuiltinApexes mountPoint = false) (hnone : w.mounted mountPoint = none)
    (hfrom : ∀ w f, Kept w → w.file? apex.path = some f → From mountPoint apex.path (some f))
    (cfg : Config) (verifyImage : Bool) :
    wp (kernel .off F) (World.Tabled From Kept)
      (mountLoopDevice cfg apex loop mountPoint name verifyImage)
      (fun x w' => x = .ok () → w'.MountedAt mountPoint loop apex.path) w := by
  unfold mountLoopDevice
  refine wp_queried_bind hF (p := sys (.verifyApexVerity apex.path)) ⟨trivial, fun _ => trivial⟩
    h (fun r => ?_) fun e => nofun
  refine wp_queried_bind hF (uses_mapErr (uses_ofExcept r)) h (fun verityData => ?_) fun e => nofun
  split
  · refine wp_bind.2 (wp_mapErr.2 ((wp.imp (h.wp_createVerityDevice hF hkept hb name (by rfl)) ?_)))
    rintro (e | device) w₁ h₁ ⟨hsame, hb₁, hdm⟩
    · exact nofun
    · have hnone₁ : w₁.mounted mountPoint = none := by
        unfold World.mounted at hnone ⊢
        rw [hsame.mounts]
        exact hnone
      have hclean := (uses_deleteVerityDevice_setup name device).mono fun _ h => h.spare
      refine wp_onFail.2 ((wp_queried_bind hF (uses_configureReadAhead device) h₁
        (Q := fun x w' => x = .ok () → w'.MountedAt mountPoint loop apex.path)
        (fun _ => ?_) fun _ => nofun).imp ?_)
      · exact h₁.wp_mountBlockDevice hF hkept hb₁ hloop (Or.inr (hdm device rfl)) hpoint ho hnone₁
          (fun f => hfrom w₁ f h₁.kept) apex _
      · rintro (e | u) w₂ h₂ hx
        · exact (h₂.wp_spare hF hkept hclean).imp fun _ _ _ _ => nofun
        · exact hx
  · exact h.wp_mountBlockDevice hF hkept hb hloop (Or.inl rfl) hpoint ho hnone
      (fun f => hfrom w f h.kept) apex none

theorem World.Tabled.wp_mountNonFlattened (h : w.Tabled From Kept) {apex : ApexFile}
    {name mountPoint : String}
    (hpoint : mountPoint = join kApexRoot name) (ho : isPathForBuiltinApexes mountPoint = false)
    (hnone : w.mounted mountPoint = none)
    (hfrom : ∀ w f, Kept w → w.file? apex.path = some f → From mountPoint apex.path (some f))
    (cfg : Config) (verifyImage : Bool) :
    wp (kernel .off F) (World.Tabled From Kept)
      (mountNonFlattened cfg apex mountPoint name verifyImage)
      (fun x w' => ∀ data, x = .ok data → w'.HasMount data mountPoint name) w := by
  unfold mountNonFlattened
  refine wp_bind.2 (wp_require.2 ⟨h, ?_⟩)
  split
  · refine wp_bind.2 ((h.wp_createLoopDeviceLoop hF hkept apex _).imp ?_)
    rintro (e | loop) w₁ h₁ ⟨hsame, hbound⟩
    · exact nofun
    · obtain ⟨hloop, hb⟩ := hbound loop rfl
      have hnone₁ : w₁.mounted mountPoint = none := by
        unfold World.mounted at hnone ⊢
        rw [hsame.mounts]
        exact hnone
      refine wp_bind.2 (wp_onFail.2
        ((h₁.wp_mountLoopDevice hF hkept hb hloop hpoint ho hnone₁ hfrom cfg verifyImage).imp ?_))
      rintro (e | u) w₂ h₂ hx
      · refine (h₂.wp_spare hF hkept (p := maybeCloseBad loop) ⟨trivial, fun _ => trivial⟩).imp ?_
        intro _ _ _ _
        exact nofun
      · refine ⟨h₂, ?_⟩
        rintro _ ⟨⟩
        obtain ⟨m, hm, hmp, hml, hshows⟩ := hx rfl
        exact ⟨rfl, Or.inr rfl, m, hm, hmp, Or.inr hml, hshows⟩
  · exact nofun

theorem World.Tabled.wp_mountFlattened (h : w.Tabled From Kept) {apex : ApexFile}
    {name mountPoint : String}
    (ho : isPathForBuiltinApexes mountPoint = false) (hnone : w.mounted mountPoint = none)
    (hfrom : isPathForBuiltinApexes apex.path = true → From mountPoint apex.path none) :
    wp (kernel .off F) (World.Tabled From Kept) (mountFlattened apex mountPoint)
      (fun x w' => ∀ data, x = .ok data → w'.HasMount data mountPoint name) w := by
  unfold mountFlattened
  refine wp_bind.2 (wp_require.2 ⟨h, ?_⟩)
  split
  · rename_i hbuiltin
    refine ⟨h, trivial, fun r w₁ hs => ?_⟩
    have h₁ : w₁.Tabled From Kept ∧
        (r = .ok () → ∃ m ∈ w₁.mounts, m.mountPoint = mountPoint ∧ m.root = .dir apex.path) := by
      rcases hs with hn | hf
      · have hs : (r, w₁) = w.bindMount apex.path mountPoint := hn
        have hsource : w.mounted apex.path = none := by
          refine List.find?_eq_none.2 fun m hm he => ?_
          have := h.table.outside m hm
          rw [eq_of_beq he, hbuiltin] at this
          cases this
        rcases w.bindMount_cases apex.path mountPoint with ⟨e, he⟩ | ⟨m, _, rfl, _, _, hm, he⟩
        · rw [he] at hs
          cases hs
          exact ⟨h, nofun⟩
        · rw [he] at hs
          cases hs
          obtain ⟨hblock, hloop, hroot, _⟩ := hm hsource
          refine ⟨⟨hkept w _ (.of_dirs rfl rfl) h.kept,
            h.table.pushVersion (Or.inl ?_) ho hnone ?_⟩, fun _ => ?_⟩
          · exact ⟨hloop, hblock, _, hroot, hfrom hbuiltin⟩
          · intro d hd
            rw [hloop] at hd
            cases hd
          · exact ⟨m, List.mem_cons_self, rfl, hroot⟩
      · obtain ⟨⟨e, _, rfl⟩, rfl⟩ := hF _ _ _ _ hf
        exact ⟨h, nofun⟩
    obtain ⟨h₁, hnew⟩ := h₁
    cases r with
    | error e => exact ⟨h₁, nofun⟩
    | ok _ =>
      refine ⟨h₁, ?_⟩
      rintro _ ⟨⟩
      obtain ⟨m, hm, hmp, hroot⟩ := hnew rfl
      exact ⟨rfl, Or.inl rfl, m, hm, hmp, Or.inl rfl, Or.inl hroot⟩
  · exact nofun

/-- **`MountPackageImpl` keeps the table at every moment.** -/
theorem World.Tabled.wp_mountPackageImpl (h : w.Tabled From Kept) {apex : ApexFile}
    {name mountPoint : String}
    (hpoint : mountPoint = join kApexRoot name) (ho : isPathForBuiltinApexes mountPoint = false)
    (hfrom : ∀ w f, Kept w → w.file? apex.path = some f → apex.flattened = false →
      From mountPoint apex.path (some f))
    (hflat : apex.flattened = true → isPathForBuiltinApexes apex.path = true →
      From mountPoint apex.path none)
    (cfg : Config) (verifyImage : Bool) :
    wp (kernel .off F) (World.Tabled From Kept)
      (mountPackageImpl cfg apex mountPoint name verifyImage)
      (fun x w' => ∀ data, x = .ok data → w'.HasMount data mountPoint name) w := by
  have hbelow : belowApex mountPoint := hpoint ▸ below_join _ _
  unfold mountPackageImpl
  refine wp_bind.2 ((h.wp_spare hF hkept (uses_pathExists trivial)).imp ?_)
  rintro (e | b) w₁ h₁ _
  · exact nofun
  have hmkdir : (when (!b) (sys (.mkdir mountPoint kMkdirMode) >>=
      check ("Could not create mount point " ++ mountPoint))).Uses SpareCmd :=
    uses_when (uses_sys_check _ hbelow)
  refine wp_bind.2 ((h₁.wp_spare hF hkept hmkdir).imp ?_)
  rintro (e | u) w₂ h₂ _
  · exact nofun
  have hguard : (do
      let _ ← sys (.rmdir mountPoint)
      ret () : ApexM Unit).Uses SpareCmd := uses_exec_bind hbelow fun _ => trivial
  refine wp_onFail.2 ?_
  have hbody : wp (kernel .off F) (World.Tabled From Kept) (do
      let empty ← isEmptyDirectory mountPoint
      when (!empty) (failErrno (mountPoint ++ " is not empty"))
      if apex.flattened then mountFlattened apex mountPoint
      else mountNonFlattened cfg apex mountPoint name verifyImage : ApexM MountedApexData)
      (fun x w' => ∀ data, x = .ok data → w'.HasMount data mountPoint name) w₂ := by
    have hempty : (isEmptyDirectory mountPoint).Uses SpareCmd := by
      refine uses_exec_bind trivial fun r => ?_
      cases r <;> trivial
    refine wp_bind.2 (((h₂.wp_spare hF hkept hempty).and
      (wp_isEmptyDirectory_table hF mountPoint w₂)).mono (fun _ h => h.1) ?_)
    rintro (e | b) w₃ ⟨h₃, _⟩ ⟨_, rfl, hnone⟩
    · exact nofun
    refine wp_bind.2 ?_
    cases b with
    | false =>
      refine ⟨h₃, trivial, fun text w₄ hs => ?_⟩
      cases hF.strerror hs
      exact ⟨h₃, nofun⟩
    | true =>
      have hnone := hnone rfl
      refine ⟨h₃, ?_⟩
      show wp _ _ (if apex.flattened then _ else _) _ _
      split
      · rename_i hflattened
        exact h₃.wp_mountFlattened hF hkept ho hnone (hflat hflattened)
      · rename_i hflattened
        have hnot : apex.flattened = false := by simpa using hflattened
        exact h₃.wp_mountNonFlattened hF hkept hpoint ho hnone
          (fun w f hw hf => hfrom w f hw hf hnot) cfg verifyImage
  refine hbody.imp ?_
  rintro (e | data) w₃ h₃ hx
  · exact (h₃.wp_spare hF hkept hguard).imp fun _ _ _ _ => nofun
  · exact hx

end Programs

end Apexd
