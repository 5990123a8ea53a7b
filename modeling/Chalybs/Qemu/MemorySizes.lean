import Chalybs.Foundation.Lists
import Chalybs.Hugepages.Record
import Chalybs.Qemu.Command
import Chalybs.Qemu.LookingGlass

/-!
# Sizes of memory

The hugepages of a VM and the file of Looking Glass are sized by 64-bit arithmetic on values of the
configuration that are in MiB and have no bound.

* `Covers` — the pages hold the memory of the guest, and none of them is spare.
* `ShmCalls.withLengths` — a host that also keeps the lengths of the files.
* `wiredSize` — the size of the file as QEMU is told.
* `sizes_exact_iff` — for which values the sizes are exact.
-/

namespace Chalybs

open Foundation

/-! ## Hugepages -/

/-- The bytes of a page. -/
def pageBytes : ℕ := 2 * 2 ^ 20

/-- The pages hold so many MiB, without a page to spare. -/
structure Covers (memMb : UInt64) (pages : ℕ) : Prop where
  spare : ((pages : ℤ) - 1) * pageBytes < memMb.toNat * 2 ^ 20
  enough : (memMb.toNat : ℤ) * 2 ^ 20 ≤ pages * pageBytes
  none : pages = 0 ↔ memMb = 0

section

variable {V : Type} {q : QemuConfig}

lemma toNat_requiredPages (q : QemuConfig) :
    q.requiredPages.toNat =
      (q.memMb.toNat * 2 ^ 20 % 2 ^ 64 + 2 * 2 ^ 20 - 1) % 2 ^ 64 / (2 * 2 ^ 20) := by
  have hsize : (2 * 1024 * 1024 : UInt64) = 2097152 := by decide
  have hlt := q.memMb.toNat_lt
  simp only [QemuConfig.requiredPages, hsize, UInt64.toNat_div, UInt64.toNat_sub,
    UInt64.toNat_add, UInt64.toNat_mul, UInt64.reduceToNat]
  omega

/-- **The pages that are required** cover the memory up to 16 EiB less 2 MiB. -/
lemma covers_requiredPages_iff :
    Covers q.memMb q.requiredPages.toNat ↔ q.memMb.toNat ≤ 2 ^ 44 - 2 := by
  have hlt := q.memMb.toNat_lt
  have hpages := toNat_requiredPages q
  have hzero : q.memMb = 0 ↔ q.memMb.toNat = 0 := by
    rw [← UInt64.toNat_inj]
    rfl
  have hbytes : pageBytes = 2 * 2 ^ 20 := rfl
  constructor
  · intro hcovers
    have henough := hcovers.enough
    rw [hbytes] at henough
    omega
  · intro hle
    have hmod : q.memMb.toNat * 2 ^ 20 % 2 ^ 64 = q.memMb.toNat * 2 ^ 20 :=
      Nat.mod_eq_of_lt (by omega)
    rw [hmod] at hpages
    refine ⟨?_, ?_, ?_⟩
    · rw [hbytes]
      omega
    · rw [hbytes]
      omega
    · rw [hzero]
      omega

/-- The bytes that are recorded are those of the pages. -/
lemma recordOn_bytes (node : UInt16) :
    (q.recordOn node).pages = q.requiredPages.toNat ∧
      (q.recordOn node).bytes = (q.recordOn node).pages * pageBytes := by
  refine ⟨rfl, ?_⟩
  have hpages := toNat_requiredPages q
  have hsize : (2 * 1024 * 1024 : UInt64) = 2097152 := by decide
  have hbytes : pageBytes = 2097152 := rfl
  simp only [QemuConfig.recordOn, hsize, hbytes, UInt64.toNat_mul, UInt64.reduceToNat]
  omega

end

/-! ## The file of Looking Glass -/

section

variable {V : Type}

/-- A computation on the host, apart from the lengths of the files. -/
def besideLengths {ε α : Type} :
    EStateM ε V α → EStateM ε (V × (String → Option UInt64)) α :=
  zoom Prod.fst fun v t => (v, t.2)

/-- The operations on a host that also keeps the lengths of the files. -/
def ShmCalls.withLengths (os : ShmCalls V) : ShmCalls (V × (String → Option UInt64)) where
  missingParent path t := os.missingParent path t.1
  createDirAll path := besideLengths (os.createDirAll path)
  openFile path := do
    besideLengths (os.openFile path)
    modify fun t => (t.1, Function.update t.2 path (some 0))
  setLen path len := do
    besideLengths (os.setLen path len)
    modify fun t => (t.1, Function.update t.2 path (some len))
  setOwner path t := (os.setOwner path t.1, t.2)
  removeFile path t := (os.removeFile path t.1, Function.update t.2 path none)

/-- The size in bytes that the last part of an argument gives in MiB. -/
def sizeBytes (arg : String) : Option ℕ :=
  (arg.toList.splitOn ',').getLast?.bind fun part =>
    let digits := (part.drop 5).dropLast
    if part.take 5 = "size=".toList ∧ part.getLast? = some 'M' ∧ digits.all Char.isDigit then
      some (Nat.ofDigitChars 10 digits 0 * 2 ^ 20)
    else none

example : sizeBytes "memory-backend-file,id=ivshmem,size=128M" = some (128 * 2 ^ 20) := by decide

/-- The size of the file as QEMU is told. -/
def wiredSize (rt : VmRuntime) : Option ℕ :=
  (optionValues "-object" (QemuCommandBuilder.new rt).applyLookingGlass.args).head?.bind sizeBytes

variable {os : ShmCalls V} {rt : VmRuntime} {lg : LookingGlassConfig}

/-- The size that is written is read back. -/
lemma sizeBytes_append (front : String) (n : ℕ) :
    sizeBytes (front ++ s!",size={n}M") = some (n * 2 ^ 20) := by
  have htext : (front ++ s!",size={n}M").toList =
      front.toList ++ ',' :: ("size=".toList ++ (Nat.toDigits 10 n ++ ['M'])) := by
    show (front ++ (",size=" ++ Nat.repr n ++ "M")).toList = _
    simp only [String.toList_append, Nat.toList_repr]
    rw [List.append_assoc]
    rfl
  have hdigits : ∀ c ∈ Nat.toDigits 10 n, c.isDigit = true := fun c hc =>
    Nat.isDigit_of_mem_toDigits (by decide) (by decide) hc
  have hcomma : ',' ∉ "size=".toList ++ (Nat.toDigits 10 n ++ ['M']) := by
    have hnot : ',' ∉ Nat.toDigits 10 n := fun hmem => absurd (hdigits _ hmem) (by decide)
    simp [hnot]
  have htake : ("size=".toList ++ (Nat.toDigits 10 n ++ ['M'])).take 5 = "size=".toList := rfl
  have hdrop : (("size=".toList ++ (Nat.toDigits 10 n ++ ['M'])).drop 5).dropLast =
      Nat.toDigits 10 n := by
    show (Nat.toDigits 10 n ++ ['M']).dropLast = _
    rw [List.dropLast_concat]
  have hlast : ("size=".toList ++ (Nat.toDigits 10 n ++ ['M'])).getLast? = some 'M' := by
    rw [← List.append_assoc, List.getLast?_append]
    rfl
  rw [sizeBytes, htext, splitOn_append_last hcomma, List.getLast?_append]
  simp only [List.getLast?_singleton, Option.some_or, Option.bind_some, htake, hdrop, hlast,
    true_and, List.all_eq_true.mpr hdigits, if_true,
    Nat.ofDigitChars_toDigits (by decide : 1 < 10) (by decide : 10 ≤ 10)]

/-- **What QEMU is told** is the configured size. -/
lemma wiredSize_eq (hlg : rt.cfg.lookingGlassShm = some lg) :
    wiredSize rt = some (lg.memMb.toNat * 2 ^ 20) := by
  obtain ⟨hconfigured, hsize⟩ := Option.filter_eq_some_iff.mp hlg
  have hnonzero : lg.memMb ≠ 0 := of_decide_eq_true hsize
  have hargs : (QemuCommandBuilder.new rt).applyLookingGlass.args =
      ["-object", s!"memory-backend-file,id=ivshmem,share=on,mem-path={lg.shmName}," ++
          s!"size={lg.memMb}M", "-device", "ivshmem-plain,memdev=ivshmem,bus=pcie.0"] := by
    have hrt : (QemuCommandBuilder.new rt).rt = rt := rfl
    rw [QemuCommandBuilder.applyLookingGlass, hrt, hconfigured]
    simp only [hnonzero, if_false]
    rfl
  have htext : s!"memory-backend-file,id=ivshmem,share=on,mem-path={lg.shmName}," ++
      s!"size={lg.memMb}M" = s!"memory-backend-file,id=ivshmem,share=on,mem-path={lg.shmName}" ++
        s!",size={lg.memMb.toNat}M" := by
    rw [← String.toList_inj]
    show ("memory-backend-file,id=ivshmem,share=on,mem-path=" ++ lg.shmName ++ "," ++
      ("size=" ++ Nat.repr lg.memMb.toNat ++ "M")).toList =
        ("memory-backend-file,id=ivshmem,share=on,mem-path=" ++ lg.shmName ++
          (",size=" ++ Nat.repr lg.memMb.toNat ++ "M")).toList
    simp only [String.toList_append, List.append_assoc]
    rfl
  rw [wiredSize, hargs, htext]
  exact sizeBytes_append _ _

/-- **The file** has the configured length as the code computes it. -/
lemma ends_prepare_length (hlg : rt.cfg.lookingGlassShm = some lg)
    (s : (V × (String → Option UInt64)) × List ShmEvent) :
    Ends (os.withLengths.prepareLookingGlassShm rt.cfg) s
      (fun _ s' => s'.1.2 lg.shmName = some (lg.memMb * 1024 * 1024)) fun _ _ => True := by
  rw [ShmCalls.prepareLookingGlassShm, hlg]
  dsimp only
  rw [ends_bind]
  refine ends_of_forall (fun _ s₁ => ?_) fun _ _ => trivial
  rw [ends_bind]
  refine ends_of_forall (fun _ s₂ => ?_) fun _ _ => trivial
  rw [ends_bind]
  refine ends_of_forall (fun _ s₃ => ?_) fun _ _ => trivial
  rw [ends_bind, onHost]
  refine ends_zoom.mpr (ends_adaptExcept.mpr ?_)
  show Ends (besideLengths (os.setLen lg.shmName _) >>= _) _ _ _
  rw [ends_bind]
  refine ends_of_forall (fun _ u => ?_) fun _ _ => trivial
  show (Function.update u.2 lg.shmName (some (lg.memMb * 1024 * 1024))) lg.shmName = _
  rw [Function.update_self]

lemma length_exact_iff (memMb : UInt64) :
    (memMb * 1024 * 1024).toNat = memMb.toNat * 2 ^ 20 ↔ memMb.toNat < 2 ^ 44 := by
  have hlt := memMb.toNat_lt
  simp only [UInt64.toNat_mul, UInt64.reduceToNat]
  omega

end

/-- **When the sizes are exact**, whatever the host answers.  The pages that are required, and those
that provisioning records, cover the memory exactly up to 2^44 - 2 MiB, and the bytes are always
those of the pages; the file has the length that QEMU is told for sizes below 2^44 MiB. -/
theorem sizes_exact_iff {V W : Type} (os : HugepageCalls V) (shm : ShmCalls W) (rt : VmRuntime)
    (t : (HugepageRecord × List CoreEvent) × HugeWorld V)
    (s : (W × (String → Option UInt64)) × List ShmEvent) :
    (Covers rt.cfg.qemu.memMb rt.cfg.qemu.requiredPages.toNat ↔
        rt.cfg.qemu.memMb.toNat ≤ 2 ^ 44 - 2) ∧
      Ends (os.provisionForVm rt) t (fun _ t' => rt.cfg.qemu.hugepages = true →
          (Covers rt.cfg.qemu.memMb t'.1.1.pages ↔ rt.cfg.qemu.memMb.toNat ≤ 2 ^ 44 - 2) ∧
            t'.1.1.bytes = t'.1.1.pages * pageBytes)
        (fun _ _ => True) ∧
      Ends (shm.withLengths.prepareLookingGlassShm rt.cfg) s
        (fun _ s' => ∀ lg, rt.cfg.lookingGlassShm = some lg →
          ((s'.1.2 lg.shmName).map UInt64.toNat = wiredSize rt ↔ lg.memMb.toNat < 2 ^ 44))
        fun _ _ => True := by
  refine ⟨covers_requiredPages_iff, ?_, ?_⟩
  · refine (ends_provisionForVm_record rt t).mono (fun _ t' hrecord henabled => ?_)
      fun _ _ _ => trivial
    rw [if_pos henabled] at hrecord
    obtain ⟨node, -, hrecord⟩ := hrecord
    obtain ⟨hpages, hbytes⟩ := @recordOn_bytes rt.cfg.qemu node
    rw [hrecord, hpages]
    exact ⟨covers_requiredPages_iff, hpages ▸ hbytes⟩
  · cases hlg : rt.cfg.lookingGlassShm with
    | none => exact ends_of_forall (fun _ _ _ h => by cases h) fun _ _ => trivial
    | some lg =>
        refine (ends_prepare_length hlg s).mono (fun _ s' hlength lg' hlg' => ?_) fun _ _ h => h
        obtain rfl := Option.some.inj hlg'
        rw [hlength, wiredSize_eq hlg, Option.map_some, Option.some.injEq]
        exact length_exact_iff lg.memMb

/-- A VM with hugepages and a shared memory, on the node of `hugeHost`. -/
def sizedVm (memMb lgMb : UInt64) : VmRuntime :=
  let rt := runtimeWith {}
  { rt with cfg := { rt.cfg with
      qemu := { rt.cfg.qemu with memMb, hugepages := true }
      numa := some { hugepageNode := some 0 }
      peripherals := some {
        lookingGlass := some { shmName := "/dev/shm/looking-glass", memMb := lgMb } } } }

/-- 2^44 - 1 MiB of memory, and 2^44 MiB for Looking Glass. -/
def wrappingVm : VmRuntime := sizedVm 0xfffffffffff 0x100000000000

/-- With 2^44 - 1 MiB of memory, hugepages are provisioned without a page; with 2^44 MiB for Looking
Glass, the file is empty. -/
theorem sizes_wrap :
    (⟨AList.singleton "a" wrappingVm.cfg⟩ : RootConfig).validate = .ok () ∧
      Ends (obligingCalls.provisionForVm wrappingVm) (({}, []), hugeHost 0)
        (fun _ t' => t'.1.1 = ⟨some 0, 0, 0, true⟩ ∧ ¬ Covers 0xfffffffffff t'.1.1.pages)
        (fun _ _ => False) ∧
      Ends (plainShmCalls.withLengths.prepareLookingGlassShm wrappingVm.cfg)
        (((), fun _ => none), [])
        (fun _ s' => s'.1.2 "/dev/shm/looking-glass" = some 0) (fun _ _ => False) ∧
      wiredSize wrappingVm = some (2 ^ 64) := by
  refine ⟨by decide, ?_, ?_, ?_⟩
  · refine ends_of_eq (fun _ t' hrun => ?_) fun _ _ hrun => ?_
    · have hrecord : t'.1.1 = ⟨some 0, 0, 0, true⟩ := by
        injection hrun with _ ht
        rw [← ht]
        rfl
      refine ⟨hrecord, fun hcovers => ?_⟩
      have henough := hcovers.enough
      rw [hrecord] at henough
      exact absurd henough (by decide)
    · injection hrun
  · refine ends_of_eq (fun _ s' hrun => ?_) fun _ _ hrun => ?_
    · injection hrun with _ hs
      rw [← hs]
      rfl
    · injection hrun
  · have hlg : wrappingVm.cfg.lookingGlassShm =
        some { shmName := "/dev/shm/looking-glass", memMb := 0x100000000000 } := rfl
    exact wiredSize_eq hlg

end Chalybs
