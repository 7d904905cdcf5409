import Apexd.Verify

/-!
# Keys of the built-in packages

`collectApexKeys`, `updateScannedApexKeys` and `getApexKey` (`apex_key.cpp`).

* `ScannedKeys` — `gScannedApexKeys`, from package names to keys; the first key of a name stays.
* `updateScannedApexKeys_keeps`, `updateScannedApexKeys_ok` — what was scanned is not changed, and
  after a success every pair is there.
* `wp_collectApexKeysFromDirs_all` — the keys that are there after a collection are those of the
  packages.
* `collectApexKeys_spec` — the collection succeeds exactly when the packages of a name agree on
  their key, and then these are the keys, in whatever order they were found; no key is ever
  replaced.
-/

set_option autoImplicit false

namespace Apexd

open Text Prog

/-- `gScannedApexKeys`. -/
abbrev ScannedKeys := List (List UInt8 × List UInt8)

/-- A key name and the content of the key. -/
abbrev KeyPair := List UInt8 × List UInt8

/-- The name of the key is the name of the package it is bundled in. -/
def embeddedKey (file : String) : ApexM KeyPair := do
  let apexFile ← (openApex file).mapErr ("Failed to open " ++ file ++ " : " ++ ·)
  ret (bytes apexFile.manifest.name, apexFile.pubkey)

def collectEmbedddedApexKeysFromDir (dir : String) : ApexM (List KeyPair) := do
  match ← sys (.access dir) with
  | .error .enoent => ret []
  | _ => do
    let scanBuiltinApexes := isPathForBuiltinApexes dir
    require scanBuiltinApexes ("Can't scan embedded APEX keys from " ++ dir)
    let apexFiles ← findApexFilesByName dir scanBuiltinApexes
    apexFiles.mapM embeddedKey

/-- The keys after the pairs were put in; a failure leaves those before it there. -/
def updateScannedApexKeys (keys : ScannedKeys) : List KeyPair → ScannedKeys × Except String Unit
  | [] => (keys, .ok ())
  | kp :: rest =>
    match keys.lookup kp.1 with
    | none => updateScannedApexKeys (kp :: keys) rest
    | some existingKey =>
      if existingKey = kp.2 then updateScannedApexKeys keys rest
      else (keys, .error ("Key for package " ++ ofBytes kp.1 ++
        " does not match with the existing key"))

/-- The loop of `collectApexKeys`. -/
def collectApexKeysFromDirs (keys : ScannedKeys) :
    List String → ApexM (ScannedKeys × Except String Unit)
  | [] => ret (keys, .ok ())
  | dir :: rest => do
    match ← (collectEmbedddedApexKeysFromDir dir).attempt with
    | .error e => ret (keys, .error ("Failed to collect keys from " ++ dir ++ " : " ++ e))
    | .ok keyPairs =>
      match updateScannedApexKeys keys keyPairs with
      | (keys, .ok _) => collectApexKeysFromDirs keys rest
      | (keys, .error e) => ret (keys, .error e)

def collectApexKeys (keys : ScannedKeys) : ApexM (ScannedKeys × Except String Unit) :=
  collectApexKeysFromDirs keys kApexPackageBuiltinDirs

def getApexKey (keys : ScannedKeys) (keyName : List UInt8) : Except String (List UInt8) :=
  match keys.lookup keyName with
  | none => .error ("No key found for package " ++ ofBytes keyName)
  | some key => .ok key

/-- The keys are collected by looking. -/
theorem uses_collectApexKeys (keys : ScannedKeys) : (collectApexKeys keys).Uses Looks := by
  have hopen : ∀ file, (openApex file).Uses Looks := fun file => uses_exec_bind trivial fun r =>
    uses_ofExcept r
  have hdir : ∀ dir, (collectEmbedddedApexKeysFromDir dir).Uses Looks := by
    intro dir
    have hrest : (do
        let scanBuiltinApexes := isPathForBuiltinApexes dir
        require scanBuiltinApexes ("Can't scan embedded APEX keys from " ++ dir)
        let apexFiles ← findApexFilesByName dir scanBuiltinApexes
        apexFiles.mapM embeddedKey : ApexM (List KeyPair)).Uses Looks := by
      refine uses_bind (uses_require _ _) fun _ => uses_bind (uses_readDir trivial) fun files => ?_
      exact uses_mapM _ fun file _ => uses_bind (uses_mapErr (hopen file)) fun _ => trivial
    refine uses_exec_bind trivial fun r => ?_
    split
    · trivial
    · exact hrest
  have hdirs : ∀ (dirs : List String) (keys : ScannedKeys),
      (collectApexKeysFromDirs keys dirs).Uses Looks := by
    intro dirs
    induction dirs with
    | nil => exact fun _ => trivial
    | cons dir rest ih =>
      intro keys
      refine uses_bind (uses_attempt (hdir dir)) fun x => ?_
      cases x with
      | error e => trivial
      | ok keyPairs =>
        dsimp only
        rcases updateScannedApexKeys keys keyPairs with ⟨keys', e | u⟩
        · trivial
        · exact ih keys'
  exact hdirs _ _

section Update

variable {keys : ScannedKeys} {pairs : List KeyPair} {name key : List UInt8}

theorem lookup_cons_new {kp : KeyPair} (hnew : keys.lookup kp.1 = none)
    (h : keys.lookup name = some key) : List.lookup name (kp :: keys) = some key := by
  rw [List.lookup_cons]
  split
  · rename_i hname
    rw [eq_of_beq hname, hnew] at h
    cases h
  · exact h

/-- A key that was scanned stays. -/
theorem updateScannedApexKeys_keeps (h : keys.lookup name = some key) :
    (updateScannedApexKeys keys pairs).1.lookup name = some key := by
  induction pairs generalizing keys with
  | nil => exact h
  | cons kp rest ih =>
    unfold updateScannedApexKeys
    split
    · rename_i hnew
      exact ih (lookup_cons_new hnew h)
    · split
      · exact ih h
      · exact h

/-- After a success every pair is in the map. -/
theorem updateScannedApexKeys_ok (h : (updateScannedApexKeys keys pairs).2 = .ok ()) :
    ∀ kp ∈ pairs, (updateScannedApexKeys keys pairs).1.lookup kp.1 = some kp.2 := by
  induction pairs generalizing keys with
  | nil => intro kp hkp; cases hkp
  | cons kp rest ih =>
    unfold updateScannedApexKeys at h ⊢
    cases hl : keys.lookup kp.1 with
    | none =>
      rw [hl] at h
      rw [List.forall_mem_cons]
      refine ⟨updateScannedApexKeys_keeps ?_, ih h⟩
      rw [List.lookup_cons, beq_self_eq_true]
    | some existingKey =>
      rw [hl] at h
      dsimp only at h ⊢
      split at h
      · rename_i heq
        subst heq
        rw [if_pos rfl, List.forall_mem_cons]
        exact ⟨updateScannedApexKeys_keeps hl, ih h⟩
      · cases h

/-- Every key was there or comes from a pair. -/
theorem updateScannedApexKeys_origin
    (h : (updateScannedApexKeys keys pairs).1.lookup name = some key) :
    keys.lookup name = some key ∨ (name, key) ∈ pairs := by
  induction pairs generalizing keys with
  | nil => exact Or.inl h
  | cons kp rest ih =>
    unfold updateScannedApexKeys at h
    split at h
    · rcases ih h with hold | hmem
      · rw [List.lookup_cons] at hold
        split at hold
        · rename_i hname
          have hkey := Option.some.inj hold
          exact Or.inr (by rw [eq_of_beq hname, ← hkey]; exact List.mem_cons_self)
        · exact Or.inl hold
      · exact Or.inr (List.mem_cons_of_mem _ hmem)
    · split at h
      · exact (ih h).imp_right (List.mem_cons_of_mem _)
      · exact Or.inl h

/-- The pairs can be put in exactly when they agree with what is there and among each other. -/
theorem updateScannedApexKeys_ok_iff : (updateScannedApexKeys keys pairs).2 = .ok () ↔
    ∀ name k₁ k₂, (keys.lookup name = some k₁ ∨ (name, k₁) ∈ pairs) →
      (keys.lookup name = some k₂ ∨ (name, k₂) ∈ pairs) → k₁ = k₂ := by
  constructor
  · intro h name k₁ k₂ h₁ h₂
    have hput : ∀ k, keys.lookup name = some k ∨ (name, k) ∈ pairs →
        (updateScannedApexKeys keys pairs).1.lookup name = some k := by
      rintro k (hk | hk)
      · exact updateScannedApexKeys_keeps hk
      · exact updateScannedApexKeys_ok h _ hk
    exact Option.some.inj ((hput k₁ h₁).symm.trans (hput k₂ h₂))
  · intro h
    induction pairs generalizing keys with
    | nil => rfl
    | cons kp rest ih =>
      unfold updateScannedApexKeys
      cases hl : keys.lookup kp.1 with
      | none =>
        refine ih fun name k₁ k₂ h₁ h₂ => ?_
        -- the pair put in is one of the pairs
        have hback : ∀ k, List.lookup name (kp :: keys) = some k ∨ (name, k) ∈ rest →
            keys.lookup name = some k ∨ (name, k) ∈ kp :: rest := by
          rintro k (hk | hk)
          · rw [List.lookup_cons] at hk
            split at hk
            · rename_i hname
              have hkey := Option.some.inj hk
              exact Or.inr (by rw [eq_of_beq hname, ← hkey]; exact List.mem_cons_self)
            · exact Or.inl hk
          · exact Or.inr (List.mem_cons_of_mem _ hk)
        exact h name k₁ k₂ (hback k₁ h₁) (hback k₂ h₂)
      | some existingKey =>
        have hsame : existingKey = kp.2 := h kp.1 _ _ (Or.inl hl) (Or.inr List.mem_cons_self)
        dsimp only
        rw [if_pos hsame]
        refine ih fun name k₁ k₂ h₁ h₂ => ?_
        exact h name k₁ k₂ (h₁.imp_right (List.mem_cons_of_mem _))
          (h₂.imp_right (List.mem_cons_of_mem _))

end Update

/-! ## Which keys are collected -/

section Collect

variable {V : Watch} {F : Faults} {w : World} {keys : ScannedKeys}

/-- The key is bundled in a package of that name in one of the directories. -/
def World.BundledIn (w : World) (dirs : List String) (kp : KeyPair) : Prop :=
  ∃ dir ∈ dirs, ∃ d : Dir, w.dirs dir = some d ∧ ∃ e ∈ d.entries,
    isApexEntry true (World.dirEntry dir e) = true ∧
    ∃ apex, w.openApex (join dir e.1) = .ok apex ∧ bytes apex.manifest.name = kp.1 ∧
      apex.pubkey = kp.2

/-- Each directory is missing, or all its packages can be opened. -/
def World.Openable (w : World) (dirs : List String) : Prop :=
  ∀ dir ∈ dirs, w.mounted dir = none ∧ w.file? dir = none ∧ ∀ d, w.dirs dir = some d →
    ∀ e ∈ d.entries,
    isApexEntry true (World.dirEntry dir e) = true → ∃ apex, w.openApex (join dir e.1) = .ok apex

theorem World.bundledIn_cons {dir : String} {rest : List String} {kp : KeyPair} :
    w.BundledIn (dir :: rest) kp ↔ w.BundledIn [dir] kp ∨ w.BundledIn rest kp := by
  unfold World.BundledIn
  simp

/-- The keys of the packages at the paths, in their order. -/
theorem wp_embeddedKeys {files : List String}
    (h : ∀ file ∈ files, ∃ apex, w.openApex file = .ok apex) :
    wp (kernel V Sys.NoFault) (fun _ => True) (files.mapM embeddedKey)
      (fun x w' => w' = w ∧ ∃ l, x = .ok l ∧
      ∀ kp, kp ∈ l ↔ ∃ file ∈ files, ∃ apex, w.openApex file = .ok apex ∧
        bytes apex.manifest.name = kp.1 ∧ apex.pubkey = kp.2) w := by
  induction files with
  | nil => exact ⟨trivial, rfl, [], rfl, fun kp => by simp⟩
  | cons file rest ih =>
    obtain ⟨apex, ha⟩ := h file List.mem_cons_self
    rw [List.mapM_cons]
    have hkey : wp (kernel V Sys.NoFault) (fun _ => True) (embeddedKey file)
        (fun x w' => w' = w ∧ x = .ok (bytes apex.manifest.name, apex.pubkey)) w := by
      unfold embeddedKey
      refine wp_bind.2 (wp_mapErr.2 ⟨trivial, trivial, ?_⟩)
      rintro r w' (⟨rfl, rfl⟩ | hf)
      · rw [ha]
        exact ⟨trivial, trivial, rfl, rfl⟩
      · exact hf.elim
    refine wp_bind.2 (hkey.imp ?_)
    rintro x w' - ⟨rfl, rfl⟩
    refine wp_bind.2 ((ih fun file hfile => h file (List.mem_cons_of_mem _ hfile)).imp ?_)
    rintro x w'' - ⟨rfl, l, rfl, hl⟩
    refine ⟨trivial, rfl, _, rfl, fun kp => ?_⟩
    rw [List.mem_cons, hl]
    constructor
    · rintro (rfl | ⟨file', hfile', hkp⟩)
      · exact ⟨file, List.mem_cons_self, apex, ha, rfl, rfl⟩
      · exact ⟨file', List.mem_cons_of_mem _ hfile', hkp⟩
    · rintro ⟨file', hfile', apex', ha', hname, hkey'⟩
      rcases List.mem_cons.1 hfile' with rfl | hfile'
      · rw [ha] at ha'
        cases ha'
        exact Or.inl (Prod.ext hname.symm hkey'.symm)
      · exact Or.inr ⟨file', hfile', apex', ha', hname, hkey'⟩

/-- All keys of a directory are found, in some order. -/
theorem wp_collectEmbedddedApexKeysFromDir_all {dir : String}
    (hdir : isPathForBuiltinApexes dir = true) (ho : w.Openable [dir]) :
    wp (kernel V Sys.NoFault) (fun _ => True) (collectEmbedddedApexKeysFromDir dir)
      (fun x w' => w' = w ∧ ∃ l, x = .ok l ∧ ∀ kp, kp ∈ l ↔ w.BundledIn [dir] kp) w := by
  obtain ⟨hm, hf, hopen⟩ := ho dir List.mem_cons_self
  unfold collectEmbedddedApexKeysFromDir
  refine ⟨trivial, trivial, ?_⟩
  rintro r w' (⟨rfl, rfl⟩ | hfault)
  case inr => exact hfault.elim
  dsimp only [ret_bind]
  cases hd : w'.dirs dir with
  | none =>
    rw [show w'.stat dir = .error .enoent by unfold World.stat; rw [hm, hd, hf]]
    refine ⟨trivial, rfl, [], rfl, fun kp => iff_of_false List.not_mem_nil ?_⟩
    rintro ⟨dir', hdir', d, hd', -⟩
    rw [List.mem_singleton.1 hdir', hd] at hd'
    cases hd'
  | some d =>
    rw [show w'.stat dir = .ok ⟨true, d.mode⟩ by unfold World.stat; rw [hm, hd]]
    change wp _ _ (Prog.bind _ _) _ _
    refine wp_bind.2 (wp_require.2 ⟨trivial, ?_⟩)
    rw [if_pos hdir]
    refine wp_bind.2 (wp_readDir (Sys.NoFault.commits.reads) hm trivial ?_ ?_)
    · intro hnone
      rw [hd] at hnone
      cases hnone
    rintro d' es hd' hperm
    rw [hd] at hd'
    cases hd'
    rw [hdir]
    have hmem : ∀ file, file ∈ ((es.filter fun e => isApexEntry true (World.dirEntry dir e)).map
        fun e => join dir e.1) ↔
        ∃ e ∈ d.entries, isApexEntry true (World.dirEntry dir e) = true ∧ join dir e.1 = file := by
      intro file
      simp only [List.mem_map, List.mem_filter, hperm.mem_iff, and_assoc]
    refine (wp_embeddedKeys fun file hfile => ?_).imp ?_
    · obtain ⟨e, he, hfilter, rfl⟩ := (hmem file).1 hfile
      exact hopen d hd e he hfilter
    · rintro x w'' - ⟨rfl, l, rfl, hl⟩
      refine ⟨rfl, l, rfl, fun kp => ?_⟩
      rw [hl]
      constructor
      · rintro ⟨file, hfile, hkp⟩
        obtain ⟨e, he, hfilter, rfl⟩ := (hmem file).1 hfile
        exact ⟨dir, List.mem_cons_self, d, hd, e, he, hfilter, hkp⟩
      · rintro ⟨dir', hdir', d', hd', e, he, hfilter, hkp⟩
        rw [List.mem_singleton] at hdir'
        subst hdir'
        rw [hd] at hd'
        cases hd'
        exact ⟨_, (hmem _).2 ⟨e, he, hfilter, rfl⟩, hkp⟩

/-- The loop, when what is recorded so far are the keys in `P`. -/
theorem wp_collectApexKeysFromDirs_all {dirs : List String} (P : KeyPair → Prop)
    (hb : ∀ dir ∈ dirs, isPathForBuiltinApexes dir = true) (ho : w.Openable dirs)
    (hkeys : ∀ name key, keys.lookup name = some key ↔ P (name, key)) :
    wp (kernel V Sys.NoFault) (fun _ => True) (collectApexKeysFromDirs keys dirs)
      (fun x w' => w' = w ∧ ∃ keys' st, x = .ok (keys', st) ∧
        (st = .ok () ↔ ∀ name k₁ k₂, P (name, k₁) ∨ w.BundledIn dirs (name, k₁) →
          P (name, k₂) ∨ w.BundledIn dirs (name, k₂) → k₁ = k₂) ∧
        (st = .ok () → ∀ name key, keys'.lookup name = some key ↔ P (name, key) ∨
          w.BundledIn dirs (name, key))) w := by
  induction dirs generalizing keys P with
  | nil =>
    have hnone : ∀ kp, ¬ w.BundledIn [] kp := by
      rintro kp ⟨dir, hdir, -⟩
      cases hdir
    refine ⟨trivial, rfl, keys, .ok (), rfl, iff_of_true rfl ?_, fun _ name key => ?_⟩
    · intro name k₁ k₂ h₁ h₂
      have hk₁ := (hkeys name k₁).2 (h₁.resolve_right (hnone _))
      exact Option.some.inj (hk₁.symm.trans ((hkeys name k₂).2 (h₂.resolve_right (hnone _))))
    · rw [hkeys]
      exact ⟨Or.inl, fun h => h.resolve_right (hnone _)⟩
  | cons dir rest ih =>
    have hone : w.Openable [dir] := fun d hd => ho d (by
      rw [List.mem_singleton.1 hd]
      exact List.mem_cons_self)
    unfold collectApexKeysFromDirs
    refine wp_bind.2 (wp_attempt.2
      ((wp_collectEmbedddedApexKeysFromDir_all (hb dir List.mem_cons_self) hone).imp ?_))
    rintro x w' - ⟨rfl, pairs, rfl, hpairs⟩
    have hoffered : ∀ name key, keys.lookup name = some key ∨ (name, key) ∈ pairs ↔
        P (name, key) ∨ w'.BundledIn [dir] (name, key) := fun name key => by rw [hkeys, hpairs]
    have hupdate : (updateScannedApexKeys keys pairs).2 = .ok () ↔ _ := updateScannedApexKeys_ok_iff
    simp only [hoffered] at hupdate
    dsimp only [Then]
    split
    · rename_i keys₁ u heq
      have hok : (updateScannedApexKeys keys pairs).2 = .ok () := by rw [heq]
      have hlookup : ∀ name key, keys₁.lookup name = some key ↔ P (name, key) ∨
          w'.BundledIn [dir] (name, key) := by
        intro name key
        rw [← hoffered]
        constructor
        · intro h
          exact updateScannedApexKeys_origin (by rw [heq]; exact h)
        · rintro (h | h)
          · have hkept : (updateScannedApexKeys keys pairs).1.lookup name = some key :=
              updateScannedApexKeys_keeps h
            rwa [heq] at hkept
          · have hput := updateScannedApexKeys_ok hok _ h
            rwa [heq] at hput
      refine (ih (fun kp => P kp ∨ w'.BundledIn [dir] kp)
        (fun d hd => hb d (List.mem_cons_of_mem _ hd))
        (fun d hd => ho d (List.mem_cons_of_mem _ hd)) hlookup).imp ?_
      rintro x w'' - ⟨rfl, keys₂, st, rfl, hst, hkeys₂⟩
      refine ⟨rfl, keys₂, st, rfl, ?_⟩
      have hcons : ∀ kp, w''.BundledIn (dir :: rest) kp ↔ w''.BundledIn [dir] kp ∨
          w''.BundledIn rest kp := fun _ =>
        World.bundledIn_cons
      simp only [hcons, ← or_assoc]
      exact ⟨hst, hkeys₂⟩
    · rename_i keys₁ e heq
      refine ⟨trivial, rfl, keys₁, .error e, rfl, iff_of_false nofun ?_, nofun⟩
      intro hall
      have hbad : ¬ (updateScannedApexKeys keys pairs).2 = .ok () := by
        rw [heq]
        nofun
      refine hbad (hupdate.2 fun name k₁ k₂ h₁ h₂ => hall name k₁ k₂ ?_ ?_)
      · exact h₁.imp_right fun h => World.bundledIn_cons.2 (Or.inl h)
      · exact h₂.imp_right fun h => World.bundledIn_cons.2 (Or.inl h)

/-- A recorded key stays, whatever the collection meets. -/
theorem wp_collectApexKeysFromDirs_keeps (K : Kernel Sys Sys.Res World) (hK : ∀ c w, K.pre c w)
    {dirs : List String} :
    wp K (fun _ => True) (collectApexKeysFromDirs keys dirs)
      (fun x _ => ∃ keys' st, x = .ok (keys', st) ∧
      ∀ name key, keys.lookup name = some key → keys'.lookup name = some key) w := by
  induction dirs generalizing keys w with
  | nil => exact ⟨trivial, keys, .ok (), rfl, fun _ _ h => h⟩
  | cons dir rest ih =>
    unfold collectApexKeysFromDirs
    have hrun : wp K (fun _ => True) (collectEmbedddedApexKeysFromDir dir) (fun _ _ => True) w :=
      ((uses_all _).wp (S := fun _ => True) (fun c w _ _ => hK c w)
        (fun _ _ _ _ _ _ _ => trivial) trivial)
    refine wp_bind.2 (wp_attempt.2 (hrun.imp ?_))
    rintro (e | pairs) w' - -
    · exact ⟨trivial, keys, _, rfl, fun _ _ h => h⟩
    have hkeeps : ∀ name key, keys.lookup name = some key →
        (updateScannedApexKeys keys pairs).1.lookup name = some key := fun _ _ h =>
          updateScannedApexKeys_keeps h
    dsimp only [Then]
    split
    · rename_i keys₁ u heq
      rw [heq] at hkeeps
      refine ih.imp ?_
      rintro x w'' - ⟨keys', st, rfl, hkept⟩
      exact ⟨keys', st, rfl, fun name key h => hkept name key (hkeeps name key h)⟩
    · rename_i keys₁ e heq
      rw [heq] at hkeeps
      exact ⟨trivial, keys₁, .error e, rfl, hkeeps⟩

theorem getApexKey_eq_ok {name key : List UInt8} :
    getApexKey keys name = .ok key ↔ keys.lookup name = some key := by
  unfold getApexKey
  split
  · rename_i h
    rw [h]
    exact ⟨nofun, nofun⟩
  · rename_i k h
    rw [h]
    simp

/-- **The collection of keys**: it succeeds exactly when the packages of a name agree on their key,
in whatever order they are found, and then these are the keys; no run of it ever replaces a recorded
key. -/
theorem collectApexKeys_spec {dirs : List String}
    (hb : ∀ dir ∈ dirs, isPathForBuiltinApexes dir = true) (ho : w.Openable dirs) :
    wp (kernel .off Sys.NoFault) (fun _ => True) (collectApexKeysFromDirs [] dirs)
      (fun x w' => w' = w ∧ ∃ keys st, x = .ok (keys, st) ∧
        (st = .ok () ↔ ∀ name k₁ k₂, w.BundledIn dirs (name, k₁) →
          w.BundledIn dirs (name, k₂) → k₁ = k₂) ∧
        (st = .ok () → ∀ name key, getApexKey keys name = .ok key ↔ w.BundledIn dirs (name, key)))
        w ∧
    ∀ (F : Faults) (dirs : List String) (keys : ScannedKeys) (w : World),
      wp (kernel .off F) (fun _ => True) (collectApexKeysFromDirs keys dirs) (fun x _ => ∃ keys' st,
        x = .ok (keys', st) ∧ ∀ name key, getApexKey keys name = .ok key →
          getApexKey keys' name = .ok key) w := by
  constructor
  · refine (wp_collectApexKeysFromDirs_all (fun _ => False) hb ho fun name key => by simp).imp ?_
    rintro x w' - ⟨rfl, keys, st, rfl, hst, hkeys⟩
    simp only [false_or] at hst hkeys
    refine ⟨rfl, keys, st, rfl, hst, fun h name key => ?_⟩
    rw [getApexKey_eq_ok]
    exact hkeys h name key
  · intro F dirs keys w
    refine (wp_collectApexKeysFromDirs_keeps (kernel .off F)
      (fun c _ => by cases c <;> trivial)).imp ?_
    rintro x w' - ⟨keys', st, rfl, hkept⟩
    refine ⟨keys', st, rfl, fun name key h => ?_⟩
    rw [getApexKey_eq_ok] at h ⊢
    exact hkept name key h

end Collect

/-- A package that holds its key. -/
def keyedPackage (m : ApexManifest) (key : UInt8) : Node := .file ⟨1, .apex
  { manifest := m
    imageOffset := 4096
    imageSize := 8192
    pubkey := [key]
    verity := .error ""
    intact := true
    payloadManifest := none
    shimScan := .ok ()
    hashTxt := none
    sha512 := "" }⟩

/-- Two packages on the system partition, and another version of one of them on the product
partition, which holds `key`. -/
def keyedWorld (key : UInt8) : World := .ofDirs
  [(kApexPackageSystemDir, ⟨0o755,
      [("a.apex", keyedPackage (plainManifest 1 version_one) 1),
        ("b.apex", keyedPackage plainOther 2)],
      by decide, by decide⟩),
    ("/product/apex", ⟨0o755, [("a.apex", keyedPackage (plainManifest 2 version_two) key)], by
      simp, by simp [NoSlash]⟩)]

def collectKeyed (key : UInt8) : ApexM (ScannedKeys × Except String Unit) × World :=
  runN Sys.run 20 (collectApexKeys []) (keyedWorld key)

theorem keyedWorld_openable (key : UInt8) : (keyedWorld key).Openable kApexPackageBuiltinDirs := by
  intro dir hdir
  simp only [kApexPackageBuiltinDirs, List.mem_cons, List.not_mem_nil, or_false] at hdir
  rcases hdir with rfl | rfl
  · refine ⟨rfl, rfl, fun d hd e he _ => ?_⟩
    cases hd
    simp only [List.mem_cons, List.not_mem_nil, or_false] at he
    rcases he with rfl | rfl <;> exact ⟨_, rfl⟩
  · refine ⟨rfl, rfl, fun d hd e he _ => ?_⟩
    have hflat : (keyedWorld key).dirs (join "/product/apex" "a.apex") = none := by
      simp [keyedWorld, World.ofDirs, List.lookup_cons, kApexPackageSystemDir, join]
    have hfile : (keyedWorld key).file? (join "/product/apex" "a.apex") =
        (keyedPackage (plainManifest 2 version_two) key).file? := by
      rw [World.file?_join (by decide), hd]
      cases hd
      rfl
    cases hd
    rw [List.mem_singleton.1 he]
    unfold World.openApex
    rw [World.file?_join (by decide), hflat, hfile]
    exact ⟨_, rfl⟩

/-- With the same key in both versions the keys are those of the packages; with another key in the
second version the collection fails. -/
theorem collectApexKeys_spec_product :
    (∃ keys, (collectKeyed 1).1.result? = some (.ok (keys, .ok ())) ∧
      getApexKey keys (bytes "a") = .ok [1] ∧
      ∀ name key, getApexKey keys name = .ok key ↔ (keyedWorld 1).BundledIn kApexPackageBuiltinDirs
        (name, key)) ∧
    (∃ keys e, (collectKeyed 3).1.result? = some (.ok (keys, .error e))) ∧
      ¬ ∀ name k₁ k₂, (keyedWorld 3).BundledIn kApexPackageBuiltinDirs (name, k₁) →
        (keyedWorld 3).BundledIn kApexPackageBuiltinDirs (name, k₂) → k₁ = k₂ := by
  have hb : ∀ dir ∈ kApexPackageBuiltinDirs, isPathForBuiltinApexes dir = true := by decide
  have hsame : (collectKeyed 1).1.result? =
      some (.ok ([(bytes "b", [2]), (bytes "a", [1])], .ok ())) := by decide
  have hother : (collectKeyed 3).1.result? =
      some (.ok ([(bytes "b", [2]), (bytes "a", [1])],
          .error "Key for package a does not match with the existing key")) := by
    decide
  obtain ⟨-, keys, st, hk, -, hkeys⟩ :=
    (collectApexKeys_spec hb (keyedWorld_openable 1)).1.ends (runN_ends Sys.run_sem hsame)
  obtain ⟨-, keys', st', hk', hst', -⟩ :=
    (collectApexKeys_spec hb (keyedWorld_openable 3)).1.ends (runN_ends Sys.run_sem hother)
  cases hk
  cases hk'
  exact ⟨⟨_, hsame, by decide, hkeys rfl⟩, ⟨_, _, hother⟩, fun h => by cases hst'.2 h⟩

end Apexd
