import Apexd.ApexKey

/-!
# Verification of a package with libavb

`ApexFile::VerifyApexVerity` and what it calls (`apex_file.cpp`).

* `LibAvb` — the functions of libavb that are called; nothing is assumed about them.
* `Fd`, `fdKernel` — the calls on the open package file; any of them may fail, and a read may be
  short.
* `verifyVbMetaSignature_ok_iff`, `findDescriptor_ok_iff`, `verifyVbMeta_ok`, `wp_getAvbFooter` —
  one lemma for each function of the chain.
* `verifyApexVerity_sound` — what is known of a package that was accepted.
* `verifyApexVerity_builtin` — without bundled keys it is signed by a built-in package of its name.
-/

set_option autoImplicit false

namespace Apexd

open Text Prog

/-! ## libavb -/

/-- The fields of `AvbFooter` that are used. -/
structure AvbFooter where
  vbmetaOffset : UInt64
  vbmetaSize : UInt64

inductive AvbVBMetaVerifyResult where
  | OK
  | OK_NOT_SIGNED
  | INVALID_VBMETA_HEADER
  | UNSUPPORTED_VERSION
  | HASH_MISMATCH
  | SIGNATURE_MISMATCH
  | other (number : Nat)
  deriving DecidableEq

/-- A hashtree descriptor with the lengths of what follows it. -/
structure HashtreeDescriptor extends AvbHashtreeDescriptor where
  partitionNameLen : UInt32
  saltLen : UInt32
  rootDigestLen : UInt32

/-- The library.  A pointer into a buffer is given as an offset, what it points to as the bytes from
there on. -/
structure LibAvb where
  /-- `AVB_FOOTER_SIZE` -/
  footerSize : Nat
  footerValidateAndByteswap : List UInt8 → Option AvbFooter
  /-- with the public key it finds -/
  vbmetaImageVerify : List UInt8 → AvbVBMetaVerifyResult × List UInt8
  vbmetaVerifyResultToString : AvbVBMetaVerifyResult → String
  /-- the place and the length of the value -/
  propertyLookup : List UInt8 → List UInt8 → Option (Nat × Nat)
  descriptorGetAll : List UInt8 → List Nat
  /-- the tag -/
  descriptorValidateAndByteswap : List UInt8 → Option UInt64
  /-- `AVB_DESCRIPTOR_TAG_HASHTREE` -/
  descriptorTagHashtree : UInt64
  /-- `sizeof(AvbHashtreeDescriptor)` -/
  hashtreeDescriptorSize : Nat
  hashtreeDescriptorValidateAndByteswap : List UInt8 → Option HashtreeDescriptor

/-! ## The package file -/

/-- The calls on the descriptor of the package file. -/
inductive Fd where
  | open
  | lseek (offset : Int)
  | read (count : Nat)
  | readFullyAtOffset (count : Nat) (offset : Int)

@[reducible] def Fd.Res : Fd → Type
  | .open => Except Errno Unit
  | .lseek _ => Except Errno Int
  | .read _ => Except Errno (List UInt8)
  | .readFullyAtOffset _ _ => Except Errno (List UInt8)

/-- The content of the file and the position of the descriptor. -/
structure OpenFile where
  content : List UInt8
  position : Nat

/-- The bytes of a file at an offset; no bytes are anywhere. -/
def ReadAt (content : List UInt8) (offset : Int) (b : List UInt8) : Prop :=
  b = [] ∨ 0 ≤ offset ∧ (content.drop offset.toNat).take b.length = b

/-- What a call does when it succeeds. -/
def Fd.run : (c : Fd) → OpenFile → Option (c.Res × OpenFile)
  | .open, f => some (.ok (), { f with position := 0 })
  | .lseek offset, f =>
    if offset < 0 then some (.error .einval, f)
    else some (.ok offset, { f with position := offset.toNat })
  | .read count, f =>
    let b := (f.content.drop f.position).take count
    some (.ok b, { f with position := f.position + b.length })
  | .readFullyAtOffset count offset, f =>
    if count = 0 then some (.ok [], f)
    else if offset < 0 then some (.error .einval, f)
    else
      let b := (f.content.drop offset.toNat).take count
      some (if b.length = count then .ok b else .error .eio, f)

/-- A call may fail, and a read may return less than there is. -/
def Fd.Fault : (c : Fd) → OpenFile → c.Res → OpenFile → Prop
  | .open, f, r, f' => (∃ e, r = .error e) ∧ f' = f
  | .lseek _, f, r, f' => (∃ e, r = .error e) ∧ f' = f
  | .read count, f, r, f' => (∃ e, r = .error e) ∧ f' = f ∨
    ∃ n < count, (Fd.read n).run f = some (r, f')
  | .readFullyAtOffset _ _, f, r, f' => (∃ e, r = .error e) ∧ f' = f

def fdKernel : Kernel Fd Fd.Res OpenFile where
  pre _ _ := True
  sem c f r f' := c.run f = some (r, f') ∨ c.Fault f r f'

abbrev FdM (α : Type) := Prog Fd Fd.Res String α

/-- The reply, or a message and the text of `errno`. -/
def checkFd {α : Type} (msg : String) (r : Except Errno α) :
    FdM α := ofExcept (r.mapError (perror msg))

/-! ## The chain -/

def kApexKeyProp : String := "apex.key"

def kVbMetaMaxSize : Nat := 64 * 1024

/-- The value of an `off_t`. -/
def offT (n : Int) : Int := n.bmod (2 ^ 64)

def footerOffset (avb : LibAvb) (apex : ApexFile) :
    Int := offT (apex.imageSize + apex.imageOffset - avb.footerSize)

def vbMetaOffset (apex : ApexFile) (footer : AvbFooter) :
    Int := offT (apex.imageOffset + footer.vbmetaOffset.toNat)

/-- The place that `lseek` returns is put into an `int`. -/
def getAvbFooter (avb : LibAvb) (apex : ApexFile) : FdM AvbFooter := do
  let place ← exec (.lseek (footerOffset avb apex)) >>= checkFd "Couldn't seek to AVB footer"
  require (place.bmod (2 ^ 32) != -1) "Couldn't seek to AVB footer"
  let footerData ← exec (.read avb.footerSize) >>= checkFd "Couldn't read AVB footer"
  require (footerData.length == avb.footerSize) "Couldn't read AVB footer"
  match avb.footerValidateAndByteswap footerData with
  | none => fail "AVB footer verification failed."
  | some footer => ret footer

def verifyPublicKey (key publicKeyContent : List UInt8) : Except String Unit :=
  if publicKeyContent = key then .ok
    () else .error "Failed to compare the bundled public key with key"

/-- The name ends at the first zero byte, wherever the value ends. -/
def getPublicKeyName (avb : LibAvb) (apex : ApexFile) (data : List UInt8) :
    Except String (List UInt8) :=
  match avb.propertyLookup data (bytes kApexKeyProp) with
  | none => .error ("Cannot find prop '" ++ kApexKeyProp ++ "' from " ++ apex.path)
  | some (offset, keyNameLen) =>
    if keyNameLen = 0 then .error ("Cannot find prop '" ++ kApexKeyProp ++ "' from " ++ apex.path)
    else
      let keyName := cString (data.drop offset)
      if keyName = bytes apex.manifest.name then .ok keyName
      else .error ("Key mismatch: apex name is '" ++ apex.manifest.name ++ "' but key name is '" ++
        ofBytes keyName ++ "'")

section Chain

variable (avb : LibAvb) (keys : ScannedKeys) (kDebugAllowBundledKey : Bool) (apex : ApexFile)

/-- Whether the key that signed the data is the one for the package. -/
def verifySigningKey (pk keyName : List UInt8) : Except String Unit :=
  let verify (content : List UInt8) : Except String Unit :=
      (verifyPublicKey pk content).mapError fun e =>
    "Error verifying " ++ apex.path ++ ": couldn't verify public key: " ++ e
  match getApexKey keys keyName with
  | .ok publicKey => verify publicKey
  | .error e => if kDebugAllowBundledKey then verify apex.pubkey else .error e

def verifyVbMetaSignature (data : List UInt8) : Except String Unit :=
  let (res, pk) := avb.vbmetaImageVerify data
  match res with
  | .OK =>
    (getPublicKeyName avb apex data).bind (verifySigningKey keys kDebugAllowBundledKey apex pk)
  | .OK_NOT_SIGNED | .HASH_MISMATCH | .SIGNATURE_MISMATCH =>
    .error ("Error verifying " ++ apex.path ++ ": " ++ avb.vbmetaVerifyResultToString res)
  | .INVALID_VBMETA_HEADER => .error ("Error verifying " ++ apex.path ++ ": invalid vbmeta header")
  | .UNSUPPORTED_VERSION => .error ("Error verifying " ++ apex.path ++ ": unsupported version")
  | .other _ => .error "Unknown vmbeta_image_verify return value"

def verifyVbMeta (footer : AvbFooter) : FdM (List UInt8) := do
  require (footer.vbmetaSize.toNat ≤ kVbMetaMaxSize) "VbMeta size in footer exceeds kVbMetaMaxSize."
  let vbmeta ← exec (.readFullyAtOffset footer.vbmetaSize.toNat (vbMetaOffset apex footer)) >>=
    checkFd "Couldn't read AVB meta-data"
  ofExcept (verifyVbMetaSignature avb keys kDebugAllowBundledKey apex vbmeta)
  ret vbmeta

/-- The loop over the descriptors. -/
def findHashtree (data : List UInt8) : List Nat → Except String Nat
  | [] => .error "Couldn't find any AVB hashtree descriptors."
  | p :: rest =>
    match avb.descriptorValidateAndByteswap (data.drop p) with
    | none => .error "Couldn't validate AvbDescriptor."
    | some tag => if tag = avb.descriptorTagHashtree then .ok p else findHashtree data rest

def findDescriptor (data : List UInt8) :
    Except String Nat := findHashtree avb data (avb.descriptorGetAll data)

def verifyDescriptor (desc : List UInt8) : Except String HashtreeDescriptor :=
  match avb.hashtreeDescriptorValidateAndByteswap desc with
  | none => .error "Couldn't validate AvbDescriptor."
  | some verifiedDesc => .ok verifiedDesc

def getSalt (desc : HashtreeDescriptor) (trailingData : List UInt8) : String :=
  bytesToHex ((trailingData.drop desc.partitionNameLen.toNat).take desc.saltLen.toNat)

def getDigest (desc : HashtreeDescriptor) (trailingData : List UInt8) : String :=
  bytesToHex ((trailingData.drop (desc.partitionNameLen.toNat + desc.saltLen.toNat)).take
    desc.rootDigestLen.toNat)

/-- What is returned for a descriptor, from the bytes that begin with it. -/
def verityDataOf (desc : HashtreeDescriptor) (b : List UInt8) : ApexVerityData where
  desc := desc.toAvbHashtreeDescriptor
  salt := getSalt desc (b.drop avb.hashtreeDescriptorSize)
  rootDigest := getDigest desc (b.drop avb.hashtreeDescriptorSize)

def verifyApexVerity : FdM ApexVerityData := do
  exec .open >>= checkFd ("Failed to open " ++ apex.path)
  let footer ← getAvbFooter avb apex
  let vbmetaData ← verifyVbMeta avb keys kDebugAllowBundledKey apex footer
  let descriptor ← ofExcept (findDescriptor avb vbmetaData)
  let verifiedDescriptor ← ofExcept (verifyDescriptor avb (vbmetaData.drop descriptor))
  ret (verityDataOf avb verifiedDescriptor (vbmetaData.drop descriptor))

end Chain

/-! ## What each function accepts -/

/-- The first zero-terminated string of the property `apex.key` is the name of the package. -/
def HasKeyName (avb : LibAvb) (apex : ApexFile) (data : List UInt8) : Prop :=
  ∃ offset len, avb.propertyLookup data (bytes kApexKeyProp) = some (offset, len) ∧ len ≠ 0 ∧
    cString (data.drop offset) = bytes apex.manifest.name

/-- The key that was scanned for the package, or, where bundled keys are allowed and none was, its
own. -/
def TrustedKey (keys : ScannedKeys) (kDebugAllowBundledKey : Bool) (apex : ApexFile)
    (pk : List UInt8) : Prop :=
  keys.lookup (bytes apex.manifest.name) = some pk ∨
    keys.lookup (bytes apex.manifest.name) = none ∧ kDebugAllowBundledKey = true ∧ apex.pubkey = pk

/-- The first hashtree descriptor; those before it are valid ones of other kinds. -/
def FirstHashtree (avb : LibAvb) (data : List UInt8) (p : Nat) : Prop :=
  ∃ before after, avb.descriptorGetAll data = before ++ p :: after ∧
    (∀ q ∈ before, ∃ tag, avb.descriptorValidateAndByteswap (data.drop q) = some tag ∧
      tag ≠ avb.descriptorTagHashtree) ∧
    avb.descriptorValidateAndByteswap (data.drop p) = some avb.descriptorTagHashtree

section Accepts

variable {avb : LibAvb} {keys : ScannedKeys} {allowed : Bool} {apex : ApexFile}
    {data pk : List UInt8}

theorem verifyPublicKey_ok_iff {content : List UInt8} :
    verifyPublicKey pk content = .ok () ↔ content = pk := by
  unfold verifyPublicKey
  split
  · rename_i h
    exact ⟨fun _ => h, fun _ => rfl⟩
  · rename_i h
    constructor
    · intro hok
      cases hok
    · intro heq
      exact absurd heq h

theorem mapError_eq_ok {ε ε' α : Type} {f : ε → ε'} {x : Except ε α} {a : α} :
    x.mapError f = .ok a ↔ x = .ok a := by
  cases x <;> simp [Except.mapError]

theorem bind_eq_ok {ε α β : Type} {f : α → Except ε β} {x : Except ε α} {b : β} :
    x.bind f = .ok b ↔ ∃ a, x = .ok a ∧ f a = .ok b := by
  cases x <;> simp [Except.bind]

theorem getPublicKeyName_ok_iff {name : List UInt8} : getPublicKeyName avb apex data = .ok name ↔
    HasKeyName avb apex data ∧ name = bytes apex.manifest.name := by
  unfold getPublicKeyName HasKeyName
  cases hl : avb.propertyLookup data (bytes kApexKeyProp) with
  | none =>
    constructor
    · intro h
      cases h
    · rintro ⟨⟨offset, len, h, _⟩, _⟩
      cases h
  | some x =>
    obtain ⟨offset, len⟩ := x
    dsimp only
    constructor
    · intro h
      split at h
      · cases h
      · rename_i hlen
        split at h
        · rename_i hname
          cases h
          exact ⟨⟨offset, len, rfl, hlen, hname⟩, hname⟩
        · cases h
    · rintro ⟨⟨offset', len', heq, hlen, hname⟩, rfl⟩
      cases heq
      rw [if_neg hlen, if_pos hname, hname]

theorem verifySigningKey_ok_iff :
    verifySigningKey keys allowed apex pk (bytes apex.manifest.name) = .ok () ↔
      TrustedKey keys allowed apex pk := by
  unfold verifySigningKey getApexKey TrustedKey
  cases hl : keys.lookup (bytes apex.manifest.name) with
  | some key =>
    dsimp only
    rw [mapError_eq_ok, verifyPublicKey_ok_iff]
    simp
  | none =>
    dsimp only
    cases allowed with
    | true =>
      rw [if_pos rfl, mapError_eq_ok, verifyPublicKey_ok_iff]
      simp
    | false =>
      rw [if_neg Bool.false_ne_true]
      simp

theorem verifyVbMetaSignature_ok_iff : verifyVbMetaSignature avb keys allowed apex data = .ok () ↔
    ∃ pk, avb.vbmetaImageVerify data = (.OK, pk) ∧ HasKeyName avb apex data ∧
      TrustedKey keys allowed apex pk := by
  unfold verifyVbMetaSignature
  obtain ⟨res, pk⟩ := avb.vbmetaImageVerify data
  cases res with
  | OK =>
    dsimp only
    rw [bind_eq_ok]
    constructor
    · rintro ⟨name, hname, hkey⟩
      obtain ⟨hhas, rfl⟩ := getPublicKeyName_ok_iff.1 hname
      exact ⟨pk, rfl, hhas, verifySigningKey_ok_iff.1 hkey⟩
    · rintro ⟨pk', hpk, hhas, hkey⟩
      cases hpk
      exact ⟨_, getPublicKeyName_ok_iff.2 ⟨hhas, rfl⟩, verifySigningKey_ok_iff.2 hkey⟩
  | _ =>
    constructor
    · intro h
      cases h
    · rintro ⟨pk', hpk, _⟩
      cases hpk

theorem findDescriptor_ok_iff {p : Nat} :
    findDescriptor avb data = .ok p ↔ FirstHashtree avb data p := by
  unfold findDescriptor FirstHashtree
  induction avb.descriptorGetAll data with
  | nil =>
    constructor
    · intro h
      cases h
    · rintro ⟨before, after, h, _⟩
      simp at h
  | cons q rest ih =>
    unfold findHashtree
    constructor
    · intro h
      split at h
      · cases h
      rename_i tag htag
      split at h
      · rename_i heq
        cases h
        refine ⟨[], rest, rfl, ?_, heq ▸ htag⟩
        intro q hq
        cases hq
      · rename_i hne
        obtain ⟨before, after, hsplit, hbefore, hp⟩ := ih.1 h
        refine ⟨q :: before, after, congrArg (q :: ·) hsplit, ?_, hp⟩
        rw [List.forall_mem_cons]
        exact ⟨⟨tag, htag, hne⟩, hbefore⟩
    · rintro ⟨before, after, hsplit, hbefore, hp⟩
      cases before with
      | nil =>
        cases hsplit
        rw [hp]
        exact if_pos rfl
      | cons q' before =>
        rw [List.cons_append] at hsplit
        obtain ⟨rfl, hrest⟩ := List.cons.inj hsplit
        rw [List.forall_mem_cons] at hbefore
        obtain ⟨⟨tag, htag, hne⟩, hbefore⟩ := hbefore
        rw [htag]
        dsimp only
        rw [if_neg hne]
        exact ih.2 ⟨before, after, hrest, hbefore, hp⟩

theorem verifyDescriptor_ok_iff {desc : HashtreeDescriptor} :
    verifyDescriptor avb data = .ok desc ↔ avb.hashtreeDescriptorValidateAndByteswap data =
      some desc := by
  unfold verifyDescriptor
  cases avb.hashtreeDescriptorValidateAndByteswap data <;> simp

end Accepts

/-! ## A package that was accepted -/

/-- What was checked of the footer and of the signed data. -/
structure VerifiedVbMeta (avb : LibAvb) (keys : ScannedKeys) (kDebugAllowBundledKey : Bool)
    (apex : ApexFile) (content vbmeta : List UInt8) : Prop where
  /-- the data stand where the footer at the end of the image says -/
  place : ∃ footerData footer, ReadAt content (footerOffset avb apex) footerData ∧
    footerData.length = avb.footerSize ∧ avb.footerValidateAndByteswap footerData = some footer ∧
    ReadAt content (vbMetaOffset apex footer) vbmeta ∧ vbmeta.length = footer.vbmetaSize.toNat
  size : vbmeta.length ≤ kVbMetaMaxSize
  signed : ∃ pk, avb.vbmetaImageVerify vbmeta = (.OK, pk) ∧
    TrustedKey keys kDebugAllowBundledKey apex pk
  named : HasKeyName avb apex vbmeta

/-- The data are those of the first hashtree descriptor. -/
def DescribedBy (avb : LibAvb) (vbmeta : List UInt8) (data : ApexVerityData) : Prop :=
  ∃ p desc, FirstHashtree avb vbmeta p ∧ avb.hashtreeDescriptorValidateAndByteswap
    (vbmeta.drop p) = some desc ∧ data = verityDataOf avb desc (vbmeta.drop p)

section Runs

variable {avb : LibAvb} {keys : ScannedKeys} {allowed : Bool} {apex : ApexFile} {f : OpenFile}

theorem wp_checkFd {α : Type} {msg : String} {r : Except Errno α}
    {Q : Except String α → OpenFile → Prop} :
    wp fdKernel (fun _ => True) (checkFd msg r) Q f ↔ Q (r.mapError (perror msg)) f := by
  unfold checkFd
  rw [wp_ofExcept]
  simp

/-- The place that was sought, unless it failed. -/
theorem wp_lseek {offset : Int} {msg : String} : wp fdKernel (fun _ => True)
    (exec (.lseek offset) >>= checkFd msg) (fun x f' => f'.content = f.content ∧
      ∀ place, x = .ok place → 0 ≤ offset ∧ f'.position = offset.toNat) f := by
  refine ⟨trivial, trivial, fun r f' hs => wp_checkFd.2 ?_⟩
  obtain hn | ⟨⟨e, rfl⟩, rfl⟩ := hs
  · dsimp only [Fd.run] at hn
    split at hn
    · cases hn
      exact ⟨rfl, fun place h => by cases h⟩
    · rename_i hoff
      cases hn
      exact ⟨rfl, fun place _ => ⟨not_lt.1 hoff, rfl⟩⟩
  · exact ⟨rfl, fun place h => by cases h⟩

/-- What was read from the position, unless it failed. -/
theorem wp_read {count : Nat} {msg : String} : wp fdKernel (fun _ => True)
    (exec (.read count) >>= checkFd msg) (fun x f' => f'.content = f.content ∧
      ∀ b, x = .ok b → ∃ n, b = (f.content.drop f.position).take n) f := by
  have hrun : ∀ n f' (r : Except Errno (List UInt8)), (Fd.read n).run f = some (r, f') →
      f'.content = f.content ∧ r = .ok ((f.content.drop f.position).take n) := by
    intro n f' r h
    cases h
    exact ⟨rfl, rfl⟩
  refine ⟨trivial, trivial, fun r f' hs => wp_checkFd.2 ?_⟩
  obtain hn | ⟨⟨e, rfl⟩, rfl⟩ | ⟨n, _, hn⟩ := hs
  · obtain ⟨hc, rfl⟩ := hrun count f' r hn
    refine ⟨hc, ?_⟩
    rintro _ ⟨⟩
    exact ⟨count, rfl⟩
  · exact ⟨rfl, fun b h => by cases h⟩
  · obtain ⟨hc, rfl⟩ := hrun n f' r hn
    refine ⟨hc, ?_⟩
    rintro _ ⟨⟩
    exact ⟨n, rfl⟩

theorem wp_readFullyAtOffset {count : Nat} {offset : Int} {msg : String} :
    wp fdKernel (fun _ => True)
    (exec (.readFullyAtOffset count offset) >>= checkFd msg) (fun x f' => f'.content = f.content ∧
      ∀ b, x = .ok b → ReadAt f.content offset b ∧ b.length = count) f := by
  refine ⟨trivial, trivial, fun r f' hs => wp_checkFd.2 ?_⟩
  obtain hn | ⟨⟨e, rfl⟩, rfl⟩ := hs
  · dsimp only [Fd.run] at hn
    split at hn
    · rename_i hcount
      cases hn
      refine ⟨rfl, ?_⟩
      rintro _ ⟨⟩
      exact ⟨Or.inl rfl, hcount.symm⟩
    split at hn
    · cases hn
      exact ⟨rfl, fun b h => by cases h⟩
    · rename_i hoff
      cases hn
      refine ⟨rfl, fun b hb => ?_⟩
      rw [mapError_eq_ok] at hb
      split at hb
      · rename_i hlen
        obtain rfl := Except.ok.inj hb
        refine ⟨Or.inr ⟨not_lt.1 hoff, ?_⟩, hlen⟩
        rw [hlen]
      · cases hb
  · exact ⟨rfl, fun b h => by cases h⟩

/-- The footer is read at the end of the image. -/
theorem wp_getAvbFooter :
    wp fdKernel (fun _ => True) (getAvbFooter avb apex) (fun x f' => f'.content = f.content ∧
    ∀ footer, x = .ok footer → ∃ footerData, ReadAt f.content (footerOffset avb apex) footerData ∧
      footerData.length = avb.footerSize ∧ avb.footerValidateAndByteswap footerData = some footer)
        f := by
  unfold getAvbFooter
  refine wp_lseek.bind ?_ ?_
  case refine_2 =>
    intro e f₁ _ h₁
    exact ⟨h₁.1, fun footer h => by cases h⟩
  intro place f₁ _ h₁
  obtain ⟨hoff, hpos⟩ := h₁.2 place rfl
  refine wp_bind.2 (wp_require.2 ⟨trivial, ?_⟩)
  split
  case isFalse => exact ⟨h₁.1, fun footer h => by cases h⟩
  refine wp_read.bind ?_ ?_
  case refine_2 =>
    intro e f₂ _ h₂
    exact ⟨h₂.1.trans h₁.1, fun footer h => by cases h⟩
  intro footerData f₂ _ h₂
  have hc : f₂.content = f.content := h₂.1.trans h₁.1
  obtain ⟨n, hread⟩ := h₂.2 footerData rfl
  refine wp_bind.2 (wp_require.2 ⟨trivial, ?_⟩)
  cases hlen : footerData.length == avb.footerSize with
  | false => exact ⟨hc, fun footer h => by cases h⟩
  | true =>
    dsimp only [Then, if_true]
    cases hv : avb.footerValidateAndByteswap footerData with
    | none => exact ⟨trivial, hc, fun footer h => by cases h⟩
    | some footer =>
      refine ⟨trivial, hc, ?_⟩
      rintro _ ⟨⟩
      refine ⟨footerData, Or.inr ⟨hoff, ?_⟩, eq_of_beq hlen, hv⟩
      rw [h₁.1, hpos] at hread
      rw [hread, List.length_take, List.take_eq_take_iff]
      omega

theorem wp_verifyVbMeta {footer : AvbFooter} : wp fdKernel (fun _ => True)
    (verifyVbMeta avb keys allowed apex footer) (fun x f' => f'.content = f.content ∧
      ∀ vbmeta, x = .ok vbmeta → ReadAt f.content (vbMetaOffset apex footer) vbmeta ∧
        vbmeta.length = footer.vbmetaSize.toNat ∧ vbmeta.length ≤ kVbMetaMaxSize ∧
        verifyVbMetaSignature avb keys allowed apex vbmeta = .ok ()) f := by
  unfold verifyVbMeta
  refine wp_bind.2 (wp_require.2 ⟨trivial, ?_⟩)
  split
  case isFalse => exact ⟨rfl, fun vbmeta h => by cases h⟩
  rename_i hsize
  refine wp_readFullyAtOffset.bind ?_ ?_
  case refine_2 =>
    intro e f₁ _ h₁
    exact ⟨h₁.1, fun vbmeta h => by cases h⟩
  intro vbmeta f₁ _ h₁
  obtain ⟨hread, hlen⟩ := h₁.2 vbmeta rfl
  refine wp_bind.2 (wp_ofExcept.2 ⟨trivial, ?_⟩)
  cases hs : verifyVbMetaSignature avb keys allowed apex vbmeta with
  | error e => exact ⟨h₁.1, fun vbmeta h => by cases h⟩
  | ok _ =>
    refine ⟨trivial, h₁.1, ?_⟩
    rintro _ ⟨⟩
    exact ⟨hread, hlen, hlen ▸ of_decide_eq_true hsize, hs⟩

/-- The whole chain. -/
theorem wp_verifyApexVerity : wp fdKernel (fun _ => True) (verifyApexVerity avb keys allowed apex)
    (fun x _ => ∀ data, x = .ok data → ∃ vbmeta,
      VerifiedVbMeta avb keys allowed apex f.content vbmeta ∧ DescribedBy avb vbmeta data) f := by
  unfold verifyApexVerity
  have hopen : wp fdKernel (fun _ => True) (exec .open >>= checkFd ("Failed to open " ++ apex.path))
      (fun _ f' => f'.content = f.content) f := by
    refine ⟨trivial, trivial, fun r f' hs => wp_checkFd.2 ?_⟩
    obtain hn | ⟨_, rfl⟩ := hs
    · cases hn
      rfl
    · rfl
  refine hopen.bind ?_ fun e _ _ _ data h => by cases h
  intro _ f₁ _ h₁
  refine wp_getAvbFooter.bind ?_ fun e _ _ _ data h => by cases h
  intro footer f₂ _ h₂
  obtain ⟨footerData, hfooter, hfooterLen, hvalid⟩ := h₂.2 footer rfl
  refine wp_verifyVbMeta.bind ?_ fun e _ _ _ data h => by cases h
  intro vbmeta f₃ _ h₃
  obtain ⟨hread, hlen, hsize, hsigned⟩ := h₃.2 vbmeta rfl
  rw [h₁] at hfooter
  rw [h₂.1, h₁] at hread
  refine wp_bind.2 (wp_ofExcept.2 ⟨trivial, ?_⟩)
  cases hfind : findDescriptor avb vbmeta with
  | error e =>
    intro data h
    cases h
  | ok p =>
    refine wp_bind.2 (wp_ofExcept.2 ⟨trivial, ?_⟩)
    cases hdesc : verifyDescriptor avb (vbmeta.drop p) with
    | error e =>
      intro data h
      cases h
    | ok desc =>
      refine ⟨trivial, ?_⟩
      rintro _ ⟨⟩
      obtain ⟨pk, hpk, hnamed, hkey⟩ := verifyVbMetaSignature_ok_iff.1 hsigned
      refine ⟨vbmeta, ⟨?_, hsize, ⟨pk, hpk, hkey⟩, hnamed⟩, ?_⟩
      · exact ⟨footerData, footer, hfooter, hfooterLen, hvalid, hread, hlen⟩
      · exact ⟨p, desc, findDescriptor_ok_iff.1 hfind, verifyDescriptor_ok_iff.1 hdesc, rfl⟩

/-- **A package that is accepted is signed with the key for its name**, and what is returned
describes the very data that are signed; without bundled keys no package is accepted for which no
key was scanned. -/
theorem verifyApexVerity_sound {data : ApexVerityData} {f' : OpenFile}
    (h : Ends fdKernel (verifyApexVerity avb keys allowed apex) f (.ok data) f') :
    (∃ vbmeta, VerifiedVbMeta avb keys allowed apex f.content vbmeta ∧
      DescribedBy avb vbmeta data) ∧
      (allowed = false → ∃ key, keys.lookup (bytes apex.manifest.name) = some key) := by
  obtain ⟨vbmeta, hverified, hdescribed⟩ := wp_verifyApexVerity.ends h data rfl
  refine ⟨⟨vbmeta, hverified, hdescribed⟩, ?_⟩
  rintro rfl
  obtain ⟨pk, _, hkey | ⟨_, hallowed, _⟩⟩ := hverified.signed
  · exact ⟨pk, hkey⟩
  · cases hallowed

/-- **Without bundled keys it is a built-in package of the same name that signs**, when the keys
were collected from the built-in packages. -/
theorem verifyApexVerity_builtin {w w' : World} (ho : w.Openable kApexPackageBuiltinDirs)
    (hk : Ends (kernel .off Sys.NoFault) (collectApexKeys []) w (.ok (keys, .ok ())) w')
    {data : ApexVerityData}
    {f' : OpenFile} (h : Ends fdKernel (verifyApexVerity avb keys false apex) f (.ok data) f') :
    ∃ vbmeta pk, avb.vbmetaImageVerify vbmeta = (.OK, pk) ∧
      w.BundledIn kApexPackageBuiltinDirs (bytes apex.manifest.name, pk) ∧
        DescribedBy avb vbmeta data := by
  obtain ⟨_, keys', st, hx, -, hkeys⟩ :=
    (wp_collectApexKeysFromDirs_all (fun _ => False) (by decide) ho fun name key => by simp).ends hk
  cases hx
  obtain ⟨vbmeta, hverified, hdescribed⟩ := wp_verifyApexVerity.ends h data rfl
  obtain ⟨pk, hpk, hkey⟩ := hverified.signed
  refine ⟨vbmeta, pk, hpk, ?_, hdescribed⟩
  rcases hkey with hkey | ⟨_, hallowed, _⟩
  · exact ((hkeys rfl _ _).1 hkey).resolve_left id
  · cases hallowed

end Runs

/-! ## The shim package -/

/-- A number of `len` bytes, the most significant one first. -/
def beBytes (len n : Nat) : List UInt8 := (List.range len).map fun i =>
    UInt8.ofNat (n / 256 ^ (len - 1 - i))

def beField (b : List UInt8) (offset len : Nat) : Nat :=
  ((b.drop offset).take len).foldl (fun n x => 256 * n + x.toNat) 0

/-- The vbmeta of `shim/com.android.apex.cts.shim.v1.apex`. -/
def shimVbmeta : List UInt8 :=
  ([
    0x4156423000000001000000000000000000000240000000000000054000000002000000000000000000000000,
    0x0000002000000000000000200000000000000200000000000000013000000000000004080000000000000538,
    0x0000000000000000000000000000000000000000000001300000000000000000000000000000000061766274,
    0x6f6f6c20312e312e300000000000000000000000000000000000000000000000000000000000000000000000,
    0x0000000000000000000000000000000000000000000000000000000000000000000000000000000000000000,
    0x000000000000000000000000000000000000000000000000000000000000000000000000ff231e79952cf571,
    0xb5317a43595730591d473023c2a93fb4dbd02046215fe434584ae8ee686a9334b2c06e4f5865887215913dd1,
    0xc4b0e85a43d662a94795161c8de1d92055713e215e4b43ed2fc179f1787f01ba6f3547942ac2231d3b442b2e,
    0x6838636e7b694c0e58c7eb7b269e6a63f0feda8d877b39cb7d4b914beb8c7ae8300c7931bf558294c71eb3cd,
    0x35ca5867034cc6f18063f7596be06ea6bfbb05ae13599a2d8ff79fa8cadb52fc4be729a1542d6a5cbe312985,
    0x79598abe4806b2e21979779e11a542af3c2d76824c0a02048acbd74317a9941a10f28f3429af7e93ebf40b4e,
    0xf23f4e9fab2567ba37adca92c6c2c6c2df59cea2eabecf0fb67a1176459b5ed4fd540ab3aa575071988167ba,
    0x2654cf464221cac3aa7aef5951d6742b7d8599addd613f3514a0fb091896e8db6e70fd13662f93baa846f10c,
    0xe0a094585a1aeb44ddcd0b6b4c5277b92d7a1067172bfd13c6a889320a8595eace8945ae092dae946dda1b79,
    0x886319f9c3286ce6e56d76acd89d1bd1e42135f5d910c68f7a2c31caab2423c9f9433a08440f854af6007e21,
    0xc9624f00afcf05fb852b8eb86e3aae357bd340e0383ba0e2fb02da00f23e49dcd9d208ab9cc23078861296e9,
    0x187fde298c874eba597723cdf81996541cc70d2337e2ecde417ca9493af5bc196a102ead69541e2c0f601b6e,
    0x29955e6027c35e9f6f8e7e7eecff2086aab583cdddc230643ce82eb1df4e9b70f07d5eb2354da93679c2983c,
    0x97eb6b8ba739174b000000000000000000000000000000000000000000000000000000000000000000000000,
    0x0000000100000000000000d800000001000000000003f000000000000003f000000000000000100000001000,
    0x0000100000000000000000000000000000000000000000007368613100000000000000000000000000000000,
    0x0000000000000000000000000000000000000020000000140000000000000000000000000000000000000000,
    0x0000000000000000000000000000000000000000000000000000000000000000000000000000000000000000,
    0x4d575cbe483acbbbf5bf5328bf98b1f13fd744e08405fd8e29414a7fb7f2a232ad204290f1e2ad14af46a830,
    0x1946aad497769edf000000000000000000000000000000380000000000000008000000000000001961706578,
    0x2e6b657900636f6d2e616e64726f69642e617065782e6374732e7368696d000000000000000010003c8eeab3,
    0xe7659691cc282ad3f46bb483379e77803eb763ff171005207676f79dec3f2fcdac00345f2dd33200238bf267,
    0xd9ab9607c0b82c1db1b08ebad68835319ccd784ba34546f020407d19e3f365379eae7c66f3188eb311f968ff,
    0x69baa7f55d0af2f426f53bf05a17a204b38c10d24afd9cda090df7a6181619ce0091e89ff402ea9aaed5f889,
    0x1f0d9c46644f30144ae5f18f27990705a1e5ca595a1128c007940fc288ccb26db02b8e18bac2bb58f8ce7ce3,
    0xf7340ebb29b722abc32751a50bc091c48df1e685ef876173fc590f66aa967399eb6afc36977f5dce8b7a2bcf,
    0x2955b23127196363f7a9472a8aab6af9eec5a4547838e449672ebbdea232d0bfea31a5a481e15c6dde517c76,
    0x45e7ab629a09fedf3db229964193d886fa81a6dbb0453e05e48a771af2f822d6d9eb15ac9412231dd78a3310,
    0x80ab4230a12f47dddaad2a62cea527ec86313155d1aacfdacb5287bb8dcb4856a0ec57c2f6c19f2fb140b9fb,
    0xabebc6902fd5990fc1af426a0d892168140625d01d3dfcf94514ba309614423c108ffa7e669914005f58a747,
    0x32dacad69a6408453637f05737ef50ddb7d1fc72ec652022870c7c5ac5a991b1a869ce23d050e8c3861426cf,
    0xfa35528b172669ff5e388e7a81be113fa504e49ccfeb0fa610922c6965fed7543fdbac31adda12eb55f1031e,
    0xe53e0ac640250c8ac829e173740c721e853cb762d7bd7ca0105c2b856a1dcc9b6a98b76e10d2e9e43b3942b1,
    0xbf592a0dcb4c8b5eb042af475789219d4db31ec73c113a1489e4c01fe62e07d099dd9c3a344caffe23a4a6de,
    0xde0aecf61c7569c7e9334c8116d545be29850fe5c861cb8fb68589411eeb003aa73c4867ddfc83042deb86a5,
    0x0423160ddf8badc9a8f60a96ecbc12dc575a56304e95d1cf7535a66e0fe072c39b395c36fd04e49010676e03,
    0x4a760d564769b56a812e2da524b5bd10d5c46b4a3fc7bc7d905ff70a16ff5b3185f748502d5208aadf260d01,
    0x7e21fadabe133956da29a8fe696da569a052d32da8571a400f10d8504e8a0798f68e5de626d8de1a30c93f72,
    0xcd2237521db7f6d241b3af4d647a5a29190b7ff5551785cb73270970e8465ae5191fa2dec9a0fb0c9b0647ea,
    0x1808a746af22640b91b114157c150f1c174e8b80d82cef8d3da30a30f09a575c8d95930ef9d2875c9a51a00b,
    0x46fc42dd6ef2091c1003d1841cd362cd7c8938fc918f74d465af213ad1f4c0bcdc0a73265aef487dac724c39,
    0xb7b3d9e28d1f397a3fe59ac7896d2f30ef5e8c1360b872139c9e2b967d675e9b8be1030c37b7b0f907f944af,
    0x932293b20db668607a807d4a6d8650cb0e06d6ba4c4110404a3c5f484ee62c01e2e08dd807fa1d5380573ea2,
    0x24f196214373be291a8cea067e4e415c8698bbe677e4854308c07ee562ffe8e4f0b4ba4bed54a89e1f24fa64,
    0xb73db5957132eab68b0da5bb0000000000000000000000000000000000000000000000000000000000000000
      ].flatMap (beBytes 44)).take 2176

/-- The footer for an image of these data alone. -/
def shimFooter : List UInt8 := bytes "AVBf" ++ beBytes 4 1 ++ beBytes 4 0 ++ beBytes 8 0 ++
    beBytes 8 0 ++
  beBytes 8 2176 ++ beBytes 28 0

/-- The key that signed it. -/
def shimKey : List UInt8 := (shimVbmeta.drop 1136).take 1032

/-- The descriptors that begin at `p` and end before `stop`. -/
def descriptorsFrom (vbmeta : List UInt8) (stop : Nat) : Nat → Nat → List Nat
  | 0, _ => []
  | n + 1, p =>
    if p < stop then p :: descriptorsFrom vbmeta stop n (p + 16 + beField vbmeta (p + 8) 8) else []

/-- The descriptors begin where the header says. -/
def shimDescriptors (vbmeta : List UInt8) : List Nat :=
  let start := 256 + beField vbmeta 12 8 + beField vbmeta 96 8
  descriptorsFrom vbmeta (start + beField vbmeta 104 8) 8 start

/-- A property descriptor holds its key, a zero byte and its value. -/
def shimProperty (vbmeta key : List UInt8) (p : Nat) : Option (Nat × Nat) :=
  let keyLen := beField vbmeta (p + 16) 8
  if beField vbmeta p 8 = 0 && (vbmeta.drop (p + 32)).take keyLen = key then
    some (p + 32 + keyLen + 1, beField vbmeta (p + 24) 8)
  else none

/-- The formats of libavb; the only signature it knows is the one of the shim. -/
def shimAvb : LibAvb where
  footerSize := 64
  footerValidateAndByteswap b :=
    if b.take 4 = bytes "AVBf" && beField b 4 4 ≤ 1 then
      some ⟨UInt64.ofNat (beField b 20 8), UInt64.ofNat (beField b 28 8)⟩
    else none
  vbmetaImageVerify b := if b = shimVbmeta then (.OK, shimKey) else (.INVALID_VBMETA_HEADER, [])
  vbmetaVerifyResultToString _ := ""
  propertyLookup b key := (shimDescriptors b).findSome? (shimProperty b key)
  descriptorGetAll := shimDescriptors
  descriptorValidateAndByteswap b := some (UInt64.ofNat (beField b 0 8))
  descriptorTagHashtree := 1
  hashtreeDescriptorSize := 180
  hashtreeDescriptorValidateAndByteswap b :=
    if beField b 0 8 = 1 then
      some ⟨⟨beField b 16 4, beField b 20 8, beField b 28 8, beField b 44 4, beField b 48 4,
        ofBytes (cString ((b.drop 72).take 32))⟩, UInt32.ofNat (beField b 104 4),
        UInt32.ofNat (beField b 108 4), UInt32.ofNat (beField b 112 4)⟩
    else none

def shimFile : ApexFile where
  path := "/system/apex/com.android.apex.cts.shim.apex"
  flattened := false
  imageOffset := 0
  imageSize := 2240
  manifest := shimManifest 1 version_one
  pubkey := shimKey

def shimData : ApexVerityData where
  desc := ⟨1, 258048, 258048, 4096, 4096, "sha1"⟩
  salt := "4d575cbe483acbbbf5bf5328bf98b1f13fd744e08405fd8e29414a7fb7f2a232"
  rootDigest := "ad204290f1e2ad14af46a8301946aad497769edf"

/-- The shim package is accepted with its key. -/
theorem verifyApexVerity_sound_shim :
    (∃ vbmeta, VerifiedVbMeta shimAvb [(bytes "com.android.apex.cts.shim", shimKey)] false shimFile
      (shimVbmeta ++ shimFooter) vbmeta ∧ DescribedBy shimAvb vbmeta shimData) ∧
    ∃ key, List.lookup (bytes "com.android.apex.cts.shim")
      [(bytes "com.android.apex.cts.shim", shimKey)] = some key := by
  have hres : (runN Fd.run 8
    (verifyApexVerity shimAvb [(bytes "com.android.apex.cts.shim", shimKey)] false shimFile)
      ⟨shimVbmeta ++ shimFooter, 0⟩).1.result? = some (.ok shimData) := by decide +kernel
  have hsound := verifyApexVerity_sound (runN_ends (fun _ _ _ _ h => Or.inl h) hres)
  exact ⟨hsound.1, hsound.2 rfl⟩

end Apexd
