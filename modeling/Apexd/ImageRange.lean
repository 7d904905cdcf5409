import Apexd.ApexVerity

/-!
# The bytes of the image

Which bytes of a package file `VerifyApexVerity` reads, for the entry of the image in the archive.

* `openArchiveFile` — `ApexFile::Open` for a file: the offset of the image is kept in an `int32_t`.
* `imageKernel` — the calls on the package file, with the condition that what is read is part of the
  image.
* `verifyApexVerity_inImage_iff` — when every read is.
-/

set_option autoImplicit false

namespace Apexd

open Text Prog

/-! ## Opening a package file -/

/-- An entry of a zip archive. -/
structure ZipEntry where
  offset : UInt64
  uncompressedLength : UInt32

/-- The functions of libziparchive, for the file at one path; an error is a code. -/
structure ZipArchive where
  openArchive : Except Int Unit
  findEntry : String → Except Int ZipEntry
  extractToMemory : ZipEntry → Except Int (List UInt8)
  errorCodeString : Int → String

def kImageFilename : String := "apex_payload.img"

/-- The value of an `int32_t`. -/
def int32T (n : Int) : Int := n.bmod (2 ^ 32)

/-- `ApexFile::Open` for a path that is no flattened package. -/
def openArchiveFile (zip : ZipArchive) (parseManifest : List UInt8 → Except String ApexManifest)
    (path : String) : Except String ApexFile := do
  zip.openArchive.mapError fun ret => "Failed to open package " ++ path ++ ": " ++
    zip.errorCodeString ret
  let find (name : String) := (zip.findEntry name).mapError fun ret =>
    "Could not find entry \"" ++ name ++ "\" in package " ++ path ++ ": " ++ zip.errorCodeString ret
  let image ← find kImageFilename
  let manifestEntry ← find kManifestFilename
  let manifestContent ← (zip.extractToMemory manifestEntry).mapError fun ret =>
    "Failed to extract manifest from package " ++ path ++ ": " ++ zip.errorCodeString ret
  let bundledKey := match zip.findEntry kBundledPublicKeyFilename with
    | .error _ => .ok []
    | .ok entry => (zip.extractToMemory entry).mapError fun ret =>
      "Failed to extract public key from package " ++ path ++ ": " ++ zip.errorCodeString ret
  let pubkey ← bundledKey
  let manifest ← parseManifest manifestContent
  .ok ⟨path, false, int32T image.offset.toNat, image.uncompressedLength.toNat, manifest, pubkey⟩

/-- What is kept of the entry of the image. -/
theorem openArchiveFile_image {zip : ZipArchive}
    {parseManifest : List UInt8 → Except String ApexManifest}
    {path : String} {apex : ApexFile} (h : openArchiveFile zip parseManifest path = .ok apex)
    {image : ZipEntry} (hi : zip.findEntry kImageFilename = .ok image) :
    apex.imageOffset = int32T image.offset.toNat ∧
      apex.imageSize = image.uncompressedLength.toNat := by
  unfold openArchiveFile at h
  obtain ⟨_, -, h⟩ := bind_eq_ok.1 h
  obtain ⟨image', himage, h⟩ := bind_eq_ok.1 h
  obtain ⟨_, -, h⟩ := bind_eq_ok.1 h
  obtain ⟨_, -, h⟩ := bind_eq_ok.1 h
  obtain ⟨_, -, h⟩ := bind_eq_ok.1 h
  obtain ⟨_, -, h⟩ := bind_eq_ok.1 h
  rw [mapError_eq_ok, hi] at himage
  cases himage
  obtain rfl := Except.ok.inj h
  simp only [and_self]

/-! ## What is read -/

/-- The bytes at an offset are bytes of the image. -/
def InImage (entry : ZipEntry) (offset : Int) (count : Nat) : Prop :=
  count = 0 ∨ entry.offset.toNat ≤ offset ∧
    offset + count ≤ entry.offset.toNat + entry.uncompressedLength.toNat

/-- A call reads bytes of the image only; at a negative offset nothing is read. -/
def Fd.StaysIn (entry : ZipEntry) : Fd → OpenFile → Prop
  | .open, _ => True
  | .lseek _, _ => True
  | .read count, f => InImage entry f.position count
  | .readFullyAtOffset count offset, _ => offset < 0 ∨ InImage entry offset count

def imageKernel (entry : ZipEntry) :
    Kernel Fd Fd.Res OpenFile := fdKernel.withPre (Fd.StaysIn entry)

/-- Every read is of the image: no footer is read, or the image is large enough for it and begins
before 2 GiB, and the place of the vbmeta that the footer gives ends in the image, is no place at
all, or holds nothing. -/
def ReadsImageOnly (avb : LibAvb) (entry : ZipEntry) (content : List UInt8) : Prop :=
  int32T entry.offset.toNat + entry.uncompressedLength.toNat < 64 ∨
  int32T entry.offset.toNat + entry.uncompressedLength.toNat = 2 ^ 32 + 63 ∨
  (entry.offset.toNat < 2 ^ 31 ∧ 64 ≤ entry.uncompressedLength.toNat ∧
    ∀ footerData footer,
      (content.drop (entry.offset.toNat + entry.uncompressedLength.toNat - 64)).take
        64 = footerData →
      footerData.length = 64 → avb.footerValidateAndByteswap footerData = some footer →
      footer.vbmetaSize.toNat ≤ kVbMetaMaxSize →
        footer.vbmetaSize.toNat = 0 ∨
        footer.vbmetaOffset.toNat + footer.vbmetaSize.toNat ≤ entry.uncompressedLength.toNat ∨
        2 ^ 63 ≤ entry.offset.toNat + footer.vbmetaOffset.toNat ∧
          entry.offset.toNat + footer.vbmetaOffset.toNat < 2 ^ 64)

section Range

variable {avb : LibAvb} {keys : ScannedKeys} {allowed : Bool} {apex : ApexFile} {entry : ZipEntry}
    {f : OpenFile}

theorem wp_checkFd_bind {K : Kernel Fd Fd.Res OpenFile} {α β : Type} {msg : String}
    {r : Except Errno α} {k : α → FdM β} {Q : Except String β → OpenFile → Prop} :
    wp K (fun _ => True) ((checkFd msg r).bind k) Q f ↔
      match r with
      | .ok a => wp K (fun _ => True) (k a) Q f
      | .error e => Q (.error (perror msg e)) f := by
  cases r with
  | ok a => exact Iff.rfl
  | error e => exact ⟨fun h => h.2, fun h => ⟨trivial, h⟩⟩

/-- The footer is sought at no place below the file. -/
theorem footerOffset_eq (hsize : avb.footerSize = 64)
    (hoff : apex.imageOffset = int32T entry.offset.toNat)
    (hlen : apex.imageSize = entry.uncompressedLength.toNat) :
    footerOffset avb apex = int32T entry.offset.toNat + entry.uncompressedLength.toNat - 64 := by
  have hlow : -2 ^ 31 ≤ int32T entry.offset.toNat := Int.le_bmod (by decide)
  have hhigh : int32T entry.offset.toNat < 2 ^ 31 := Int.bmod_lt (by decide)
  have hlt : entry.uncompressedLength.toNat < 2 ^ 32 := entry.uncompressedLength.toNat_lt
  unfold footerOffset offT
  rw [hsize, hoff, hlen, Int.add_comm (entry.uncompressedLength.toNat : Int)]
  exact Int.bmod_eq_of_le (by omega) (by omega)

/-- The footer is inside when the offset was kept and the image is large enough for it. -/
theorem footer_inImage_iff :
    InImage entry (int32T entry.offset.toNat + entry.uncompressedLength.toNat - 64) 64 ↔
      entry.offset.toNat < 2 ^ 31 ∧ 64 ≤ entry.uncompressedLength.toNat := by
  have hlt : entry.uncompressedLength.toNat < 2 ^ 32 := entry.uncompressedLength.toNat_lt
  have hmod : (2 ^ 32 : Int) ∣ entry.offset.toNat - int32T entry.offset.toNat :=
    Int.dvd_self_sub_bmod
  have hlow : -2 ^ 31 ≤ int32T entry.offset.toNat := Int.le_bmod (by decide)
  have hhigh : int32T entry.offset.toNat < 2 ^ 31 := Int.bmod_lt (by decide)
  unfold InImage
  omega

/-- The vbmeta is inside when it ends in the image; a place that is negative as an `off_t` is not
read at all. -/
theorem vbMeta_inImage_iff {footer : AvbFooter} (ho : entry.offset.toNat < 2 ^ 31)
    (hoff : apex.imageOffset = entry.offset.toNat) :
    vbMetaOffset apex footer < 0 ∨
      InImage entry (vbMetaOffset apex footer) footer.vbmetaSize.toNat ↔
      footer.vbmetaSize.toNat = 0 ∨
      footer.vbmetaOffset.toNat + footer.vbmetaSize.toNat ≤ entry.uncompressedLength.toNat ∨
      2 ^ 63 ≤ entry.offset.toNat + footer.vbmetaOffset.toNat ∧
        entry.offset.toNat + footer.vbmetaOffset.toNat < 2 ^ 64 := by
  have hlt : entry.uncompressedLength.toNat < 2 ^ 32 := entry.uncompressedLength.toNat_lt
  have hv : footer.vbmetaOffset.toNat < 2 ^ 64 := footer.vbmetaOffset.toNat_lt
  have heq : vbMetaOffset apex footer = offT (entry.offset.toNat + footer.vbmetaOffset.toNat) := by
    unfold vbMetaOffset
    rw [hoff]
  rw [heq]
  have hmod : (2 ^ 64 : Int) ∣ (entry.offset.toNat + footer.vbmetaOffset.toNat) -
      offT (entry.offset.toNat + footer.vbmetaOffset.toNat) := Int.dvd_self_sub_bmod
  have hlow : -2 ^ 63 ≤ offT (entry.offset.toNat + footer.vbmetaOffset.toNat) :=
    Int.le_bmod (by decide)
  have hhigh : offT (entry.offset.toNat + footer.vbmetaOffset.toNat) < 2 ^ 63 :=
    Int.bmod_lt (by decide)
  unfold InImage
  omega

theorem int32T_eq_of_lt (ho : entry.offset.toNat < 2 ^ 31) :
    int32T entry.offset.toNat = entry.offset.toNat :=
  Int.bmod_eq_of_le (by omega) (by omega)

/-- Reading the footer and what follows it: nothing of it is read when `lseek` says no or the place
looks like its error. -/
theorem wp_getAvbFooter_image {β : Type} {k : AvbFooter → FdM β}
    {Q : Except String β → OpenFile → Prop} (hQ : ∀ e f', Q (.error e) f')
    (hread : 0 ≤ footerOffset avb apex → (footerOffset avb apex).bmod (2 ^ 32) ≠ -1 →
      InImage entry (footerOffset avb apex) avb.footerSize)
    (hk : ∀ footerData footer f', 0 ≤ footerOffset avb apex → (footerOffset avb apex).bmod
      (2 ^ 32) ≠ -1 →
      (f.content.drop (footerOffset avb apex).toNat).take avb.footerSize = footerData →
      footerData.length = avb.footerSize → avb.footerValidateAndByteswap footerData = some footer →
      wp (imageKernel entry) (fun _ => True) (k footer) Q f') :
    wp (imageKernel entry) (fun _ => True) ((getAvbFooter avb apex).bind k) Q f := by
  unfold getAvbFooter
  simp only [bind_eq, Prog.bind_assoc, exec_bind]
  refine ⟨trivial, trivial, fun r f₁ hs => wp_checkFd_bind.2 ?_⟩
  cases r with
  | error e => exact hQ _ _
  | ok place =>
    have hsought : 0 ≤ footerOffset avb apex ∧ place = footerOffset avb apex ∧
      f₁.content = f.content ∧
        f₁.position = (footerOffset avb apex).toNat := by
      obtain hn | ⟨⟨e, he⟩, -⟩ := hs
      · dsimp only [Fd.run] at hn
        split at hn
        · cases hn
        · rename_i hoff
          cases hn
          exact ⟨not_lt.1 hoff, rfl, rfl, rfl⟩
      · cases he
    obtain ⟨hoff, rfl, hcontent, hposition⟩ := hsought
    refine wp_bind.2 (wp_require.2 ⟨trivial, ?_⟩)
    split
    case isFalse => exact hQ _ _
    rename_i hplace
    have hne : (footerOffset avb apex).bmod (2 ^ 32) ≠ -1 := by simpa using hplace
    refine ⟨trivial, ?_, fun r f₂ hs => wp_checkFd_bind.2 ?_⟩
    · have hin := hread hoff hne
      change InImage entry f₁.position avb.footerSize
      rwa [hposition, Int.toNat_of_nonneg hoff]
    cases r with
    | error e => exact hQ _ _
    | ok footerData =>
      refine wp_bind.2 (wp_require.2 ⟨trivial, ?_⟩)
      by_cases hlen : (footerData.length == avb.footerSize) = true
      case neg =>
        rw [if_neg hlen]
        exact hQ _ _
      rw [if_pos hlen]
      dsimp only [Then]
      cases hv : avb.footerValidateAndByteswap footerData with
      | none => exact ⟨trivial, hQ _ _⟩
      | some footer =>
        refine hk footerData footer f₂ hoff hne ?_ (eq_of_beq hlen) hv
        -- a read that returned all it was asked for
        have hall : ∀ n f' (r : Except Errno (List UInt8)), (Fd.read n).run f₁ = some (r, f') →
            r = .ok ((f.content.drop (footerOffset avb apex).toNat).take n) := by
          intro n f' r h
          cases h
          rw [hcontent, hposition]
        obtain hn | ⟨⟨e, he⟩, -⟩ | ⟨n, hlt, hn⟩ := hs
        · exact (Except.ok.inj (hall _ _ _ hn)).symm
        · cases he
        · have hshort := Except.ok.inj (hall _ _ _ hn)
          have hle : footerData.length ≤ n := by
            rw [hshort]
            exact List.length_take_le _ _
          rw [eq_of_beq hlen] at hle
          omega

/-- The run in which all of the footer is read. -/
theorem getAvbFooter_image_run {β : Type} {k : AvbFooter → FdM β}
    {Q : Except String β → OpenFile → Prop}
    (h : wp (imageKernel entry) (fun _ => True) ((getAvbFooter avb apex).bind k) Q f)
    (hoff : 0 ≤ footerOffset avb apex) (hne : (footerOffset avb apex).bmod (2 ^ 32) ≠ -1) :
    InImage entry (footerOffset avb apex) avb.footerSize ∧ ∀ footerData footer,
      (f.content.drop (footerOffset avb apex).toNat).take avb.footerSize = footerData →
      footerData.length = avb.footerSize → avb.footerValidateAndByteswap footerData = some footer →
      ∃ f', wp (imageKernel entry) (fun _ => True) (k footer) Q f' := by
  unfold getAvbFooter at h
  simp only [bind_eq, Prog.bind_assoc, exec_bind] at h
  have hsought := wp_checkFd_bind.1 (h.2.2 (.ok (footerOffset avb apex))
    ⟨f.content, (footerOffset avb apex).toNat⟩ (Or.inl (if_neg (not_lt.2 hoff))))
  have hplace := (wp_require.1 (wp_bind.1 hsought)).2
  rw [if_pos (by simpa using hne)] at hplace
  constructor
  · have hin : InImage entry ((footerOffset avb apex).toNat : Int) avb.footerSize := hplace.2.1
    rwa [Int.toNat_of_nonneg hoff] at hin
  · rintro footerData footer hdata hlen hv
    have hread := wp_checkFd_bind.1 (hplace.2.2 (.ok footerData) _ (Or.inl (by rw [← hdata]; rfl)))
    have hall := (wp_require.1 (wp_bind.1 hread)).2
    rw [if_pos (by simpa using hlen)] at hall
    dsimp only [Then] at hall
    rw [hv] at hall
    exact ⟨_, hall⟩

/-- Reading the vbmeta: nothing of it is read when it is too large. -/
theorem wp_verifyVbMeta_image {footer : AvbFooter} {β : Type} {k : List UInt8 → FdM β}
    {Q : Except String β → OpenFile → Prop} (hQ : ∀ x f', Q x f')
    (hk : ∀ b, (k b).Uses fun _ => False)
    (hread : footer.vbmetaSize.toNat ≤ kVbMetaMaxSize → vbMetaOffset apex footer < 0 ∨
      InImage entry (vbMetaOffset apex footer) footer.vbmetaSize.toNat) :
    wp (imageKernel entry) (fun _ => True)
      ((verifyVbMeta avb keys allowed apex footer).bind k) Q f := by
  unfold verifyVbMeta
  simp only [bind_eq, Prog.bind_assoc]
  refine wp_bind.2 (wp_require.2 ⟨trivial, ?_⟩)
  split
  case isFalse => exact hQ _ _
  rename_i hsize
  refine ⟨trivial, hread (by simpa using hsize), fun r f₁ _ => wp_checkFd_bind.2 ?_⟩
  cases r with
  | error e => exact hQ _ _
  | ok vbmeta =>
    have hrest : ((ofExcept (verifyVbMetaSignature avb keys allowed apex vbmeta) : FdM Unit).bind
      fun _ => k vbmeta).Uses
        fun _ => False := uses_bind (uses_ofExcept _) fun _ => hk vbmeta
    exact (hrest.wp (I := fun _ => True) (fun _ _ h _ => h.elim)
      (fun _ _ _ _ h _ _ => h.elim) trivial).imp fun x f' _ _ => hQ x f'

theorem verifyVbMeta_image_run {footer : AvbFooter} {β : Type} {k : List UInt8 → FdM β}
    {Q : Except String β → OpenFile → Prop}
    (h : wp (imageKernel entry) (fun _ => True)
      ((verifyVbMeta avb keys allowed apex footer).bind k) Q f)
    (hsize : footer.vbmetaSize.toNat ≤ kVbMetaMaxSize) :
    vbMetaOffset apex footer < 0 ∨
      InImage entry (vbMetaOffset apex footer) footer.vbmetaSize.toNat := by
  unfold verifyVbMeta at h
  simp only [bind_eq, Prog.bind_assoc] at h
  have hread := (wp_require.1 (wp_bind.1 h)).2
  rw [if_pos (by simpa using hsize)] at hread
  exact hread.2.1

/-- The places that look like an error of `lseek`. -/
theorem footer_unread_iff :
    (int32T entry.offset.toNat + entry.uncompressedLength.toNat - 64 : Int) < 0 ∨
      (int32T entry.offset.toNat + entry.uncompressedLength.toNat - 64 : Int).bmod (2 ^ 32) = -1 ↔
    int32T entry.offset.toNat + entry.uncompressedLength.toNat < 64 ∨
      int32T entry.offset.toNat + entry.uncompressedLength.toNat = 2 ^ 32 + 63 := by
  have hlt : entry.uncompressedLength.toNat < 2 ^ 32 := entry.uncompressedLength.toNat_lt
  have hhigh : int32T entry.offset.toNat < 2 ^ 31 := Int.bmod_lt (by decide)
  generalize int32T entry.offset.toNat = t at hhigh ⊢
  have hmod : (2 ^ 32 : Int) ∣ (t + entry.uncompressedLength.toNat - 64) -
      (t + entry.uncompressedLength.toNat - 64 : Int).bmod (2 ^ 32) := Int.dvd_self_sub_bmod
  have hlow : -2 ^ 31 ≤ (t + entry.uncompressedLength.toNat - 64 : Int).bmod (2 ^ 32) :=
    Int.le_bmod (by decide)
  have hup : (t + entry.uncompressedLength.toNat - 64 : Int).bmod (2 ^ 32) < 2 ^ 31 :=
    Int.bmod_lt (by decide)
  omega

/-- If all reads are of the image, the condition holds. -/
theorem readsImageOnly_of_wp (hsize : avb.footerSize = 64)
    (hoff : apex.imageOffset = int32T entry.offset.toNat)
    (hlen : apex.imageSize = entry.uncompressedLength.toNat)
    (h : wp (imageKernel entry) (fun _ => True) (verifyApexVerity avb keys allowed apex)
      (fun _ _ => True) f) :
    ReadsImageOnly avb entry f.content := by
  have hF := footerOffset_eq hsize hoff hlen
  by_cases hun : int32T entry.offset.toNat + entry.uncompressedLength.toNat < 64 ∨
      int32T entry.offset.toNat + entry.uncompressedLength.toNat = 2 ^ 32 + 63
  · exact hun.imp_right Or.inl
  right
  right
  rw [← footer_unread_iff, ← hF, not_or, not_lt] at hun
  -- the run in which every call succeeds
  have hopened := h.2.2 (.ok ()) ⟨f.content, 0⟩ (Or.inl rfl)
  obtain ⟨hin, hfooter⟩ := getAvbFooter_image_run hopened hun.1 hun.2
  rw [hF, hsize, footer_inImage_iff] at hin
  refine ⟨hin.1, hin.2, fun footerData footer hdata hdlen hv hmax => ?_⟩
  have hplace : (footerOffset avb apex).toNat = entry.offset.toNat +
      entry.uncompressedLength.toNat - 64 := by
    rw [hF, int32T_eq_of_lt hin.1]
    omega
  obtain ⟨f', hrun⟩ := hfooter footerData footer (by rw [hplace, hsize, hdata])
    (hdlen.trans hsize.symm) hv
  rw [int32T_eq_of_lt hin.1] at hoff
  exact (vbMeta_inImage_iff hin.1 hoff).1 (verifyVbMeta_image_run hrun hmax)

/-- If the condition holds, all reads are of the image. -/
theorem wp_verifyApexVerity_image (hsize : avb.footerSize = 64)
    (hoff : apex.imageOffset = int32T entry.offset.toNat)
    (hlen : apex.imageSize = entry.uncompressedLength.toNat)
    (h : ReadsImageOnly avb entry f.content) :
    wp (imageKernel entry) (fun _ => True) (verifyApexVerity avb keys allowed apex)
      (fun _ _ => True) f := by
  have hF := footerOffset_eq hsize hoff hlen
  have hk : ∀ b, Prog.Uses (fun _ => False) (do
      let descriptor ← ofExcept (findDescriptor avb b)
      let verifiedDescriptor ← ofExcept (verifyDescriptor avb (b.drop descriptor))
      ret (verityDataOf avb verifiedDescriptor (b.drop descriptor)) : FdM ApexVerityData) :=
          fun b =>
    uses_bind (uses_ofExcept _) fun _ => uses_bind (uses_ofExcept _) fun _ => trivial
  unfold verifyApexVerity
  refine ⟨trivial, trivial, fun r f₁ hs => wp_checkFd_bind.2 ?_⟩
  have hcontent : f₁.content = f.content := by
    obtain hn | ⟨-, rfl⟩ := hs
    · cases hn
      rfl
    · rfl
  cases r with
  | error e => trivial
  | ok u =>
    have hsafe : 0 ≤ footerOffset avb apex → (footerOffset avb apex).bmod (2 ^ 32) ≠ -1 →
        _ := fun h0 hne =>
      (or_assoc.2 h).resolve_left fun hun => by
        rw [← footer_unread_iff, ← hF] at hun
        rcases hun with hneg | hlike
        · exact absurd h0 (not_le.2 hneg)
        · exact hne hlike
    refine wp_getAvbFooter_image (fun _ _ => trivial) ?_ ?_
    · intro h0 hne
      obtain ⟨ho, hl, -⟩ := hsafe h0 hne
      rw [hF, hsize, footer_inImage_iff]
      exact ⟨ho, hl⟩
    · rintro footerData footer f₂ h0 hne hdata hdlen hv
      obtain ⟨ho, hl, hmeta⟩ := hsafe h0 hne
      rw [int32T_eq_of_lt ho] at hoff hF
      refine wp_verifyVbMeta_image (fun _ _ => trivial) hk fun hmax => ?_
      have hplace : (footerOffset avb apex).toNat = entry.offset.toNat +
          entry.uncompressedLength.toNat - 64 := by
        rw [hF]
        omega
      rw [hcontent, hplace, hsize] at hdata
      exact (vbMeta_inImage_iff ho hoff).2
        (hmeta footerData footer hdata (hdlen.trans hsize) hv hmax)

/-- A place inside the image was not cut short. -/
theorem inImage_places (hsize : avb.footerSize = 64)
    (hoff : apex.imageOffset = int32T entry.offset.toNat)
    (hlen : apex.imageSize = entry.uncompressedLength.toNat)
    (hin : InImage entry (footerOffset avb apex) 64) :
    footerOffset avb apex = entry.offset.toNat + entry.uncompressedLength.toNat - 64 ∧
      ∀ footer, InImage entry (vbMetaOffset apex footer) footer.vbmetaSize.toNat →
        footer.vbmetaSize.toNat = 0 ∨
        vbMetaOffset apex footer = entry.offset.toNat + footer.vbmetaOffset.toNat := by
  have hF := footerOffset_eq hsize hoff hlen
  rw [hF] at hin
  obtain ⟨ho, -⟩ := footer_inImage_iff.1 hin
  rw [int32T_eq_of_lt ho] at hF hoff
  refine ⟨hF, fun footer hvb => ?_⟩
  have hv : footer.vbmetaOffset.toNat < 2 ^ 64 := footer.vbmetaOffset.toNat_lt
  have hlt : entry.uncompressedLength.toNat < 2 ^ 32 := entry.uncompressedLength.toNat_lt
  have hmod : (2 ^ 64 : Int) ∣ (apex.imageOffset + footer.vbmetaOffset.toNat) - vbMetaOffset
      apex footer :=
    Int.dvd_self_sub_bmod
  unfold InImage at hvb
  omega

/-- **When everything that `VerifyApexVerity` reads is part of the image**; then no place was cut
short. -/
theorem verifyApexVerity_inImage_iff (hsize : avb.footerSize = 64) {zip : ZipArchive}
    {parseManifest : List UInt8 → Except String ApexManifest} {path : String}
    (hopen : openArchiveFile zip parseManifest path = .ok apex)
    (hentry : zip.findEntry kImageFilename = .ok entry)
    (keys : ScannedKeys) (kDebugAllowBundledKey : Bool) (f : OpenFile) :
    (wp (imageKernel entry) (fun _ => True) (verifyApexVerity avb keys kDebugAllowBundledKey apex)
        (fun _ _ => True) f ↔ ReadsImageOnly avb entry f.content) ∧
    (InImage entry (footerOffset avb apex) 64 →
      footerOffset avb apex = entry.offset.toNat + entry.uncompressedLength.toNat - 64 ∧
      ∀ footer, InImage entry (vbMetaOffset apex footer) footer.vbmetaSize.toNat →
        footer.vbmetaSize.toNat = 0 ∨
        vbMetaOffset apex footer = entry.offset.toNat + footer.vbmetaOffset.toNat) := by
  obtain ⟨hoff, hlen⟩ := openArchiveFile_image hopen hentry
  exact ⟨⟨readsImageOnly_of_wp hsize hoff hlen, wp_verifyApexVerity_image hsize hoff hlen⟩,
    inImage_places hsize hoff hlen⟩

end Range

/-- An archive with the image at a place; the manifest is that of the shim. -/
def imageZip (offset : UInt64) (length : UInt32) : ZipArchive where
  openArchive := .ok ()
  findEntry name :=
    if name = kImageFilename then .ok ⟨offset, length⟩
    else if name = kManifestFilename then .ok ⟨64, 0⟩
    else .error (-7)
  extractToMemory _ := .ok []
  errorCodeString _ := ""

theorem imageZip_image (offset : UInt64) (length : UInt32) :
    (imageZip offset length).findEntry kImageFilename = .ok ⟨offset, length⟩ := by
  simp [imageZip]

theorem imageZip_open (offset : UInt64) (length : UInt32) :
    openArchiveFile (imageZip offset length) (fun _ => .ok shimFile.manifest) "a.apex" = .ok
      ⟨"a.apex", false, int32T offset.toNat, length.toNat, shimFile.manifest, []⟩ := by
  have hmanifest : (imageZip offset length).findEntry kManifestFilename = .ok ⟨64, 0⟩ := by
    simp [imageZip, kImageFilename, kManifestFilename]
  have hkey : (imageZip offset length).findEntry kBundledPublicKeyFilename = .error (-7) := by
    simp [imageZip, kImageFilename, kManifestFilename, kBundledPublicKeyFilename]
  unfold openArchiveFile
  simp only [hmanifest, hkey, imageZip_image]
  rfl

/-- The image of the shim, after a header of 4096 bytes. -/
theorem verifyApexVerity_inImage_shim :
    wp (imageKernel ⟨4096, 2240⟩) (fun _ => True)
      (verifyApexVerity shimAvb [] true
        ⟨"a.apex", false, int32T (4096 : UInt64).toNat, (2240 : UInt32).toNat,
        shimFile.manifest, []⟩) (fun _ _ => True)
          ⟨List.replicate 4096 0 ++ shimVbmeta ++ shimFooter, 0⟩ := by
  refine (verifyApexVerity_inImage_iff rfl (imageZip_open 4096 2240) (imageZip_image 4096 2240)
    [] true _).1.2 ?_
  refine Or.inr (Or.inr ⟨by decide, by decide, ?_⟩)
  have hplace : (ZipEntry.mk 4096 2240).offset.toNat +
      (ZipEntry.mk 4096 2240).uncompressedLength.toNat - 64 = 6272 := by
    decide
  rw [hplace]
  rintro footerData footer rfl - hv -
  have hfooter : (shimAvb.footerValidateAndByteswap
      (((List.replicate 4096 0 ++ shimVbmeta ++ shimFooter).drop 6272).take 64)).map
        (fun footer => (footer.vbmetaOffset, footer.vbmetaSize)) = some (0, 2176) := by
          decide +kernel
  rw [hv] at hfooter
  obtain ⟨hoffset, hsize⟩ := Prod.mk.inj (Option.some.inj hfooter)
  rw [hoffset, hsize]
  decide

/-- An image shorter than a footer: what stands before it is read. -/
theorem verifyApexVerity_tinyImage :
    ∃ apex, openArchiveFile (imageZip 4096 32)
      (fun _ => .ok shimFile.manifest) "a.apex" = .ok apex ∧
      ¬ wp (imageKernel ⟨4096, 32⟩) (fun _ => True) (verifyApexVerity shimAvb [] true apex)
        (fun _ _ => True) ⟨List.replicate 5000 0, 0⟩ := by
  refine ⟨_, imageZip_open 4096 32, fun h => ?_⟩
  have hopened := h.2.2 (.ok ()) ⟨List.replicate 5000 0, 0⟩ (Or.inl rfl)
  obtain ⟨hin, -⟩ := getAvbFooter_image_run hopened (by decide) (by decide)
  revert hin
  unfold InImage
  decide

end Apexd
