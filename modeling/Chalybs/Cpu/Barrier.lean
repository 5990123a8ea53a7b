import Chalybs.Cpu.Completeness
import Chalybs.Core.Numerals

/-!
# Waiting for the vCPU threads

`wait_for_qemu_threads` (`affinity.rs`) scans the threads of QEMU until it has seen every vCPU.  It
compares the number of indices first; `pin_vcpus` only asks for each index.

* `scanComplete`, `waitForQemuThreads` — one scan, and the loop over 400 of them.
* `waitForQemuThreads_returns` — the loop returns exactly if one of the scans is complete.
* `FindsMissing`, `findsMissing_iff` — what `pin_vcpus` asks for.
* `BarrierAgrees`, `barrierAgrees_iff` — when both agree about a scan.
-/

namespace Chalybs

open Foundation

variable {V : Type}

/-! ## The barrier -/

/-- Whether a scan has found the vCPUs: as many different indices as expected, and none of those
expected is missing. -/
def scanComplete (expected : UInt32) (threads : List (ℕ × ℕ)) : Bool :=
  let indices := sortDedup (threads.map Prod.snd)
  if indices.length % 2 ^ 32 = expected.toNat then
    ((List.range expected.toNat).filter fun v => !indices.contains v).isEmpty
  else false

/-- What the host does in the 5 milliseconds between two scans. -/
structure BarrierCalls (V : Type) extends AffinityCalls V where
  sleep : V → V

/-- A scan has found the vCPUs of the process. -/
def scanSucceeds (os : AffinityCalls V) (pid : ℕ) (expected : UInt32) (v : V) : Bool :=
  match discoverVcpus os pid v with
  | .ok threads => scanComplete expected threads
  | .error _ => false

/-- The loop of `wait_for_qemu_threads`, with the number of scans that are left. -/
def scanLoop (os : BarrierCalls V) (pid : ℕ) (expected : UInt32) : ℕ → EStateM ChalybsError V Unit
  | 0 => throw (.Affinity (s!"timed out waiting for {expected.toNat} vCPU threads for QEMU pid " ++
      s!"{pid} via procfs"))
  | n + 1 => do
      let v ← get
      if scanSucceeds os.toAffinityCalls pid expected v then pure ()
      else do
        modify os.sleep
        scanLoop os pid expected n

/-- `wait_for_qemu_threads`. -/
def waitForQemuThreads (os : BarrierCalls V) (rt : VmRuntime) : EStateM ChalybsError V Unit :=
  match rt.qemu with
  | none => throw (.Affinity "QEMU state not present in runtime")
  | some q => scanLoop os q.pid rt.cfg.qemu.numVcpus 400

section

variable {os : BarrierCalls V} {rt : VmRuntime} {q : QemuState} {expected : UInt32} {v : V}

/-- A turn of the loop. -/
lemma scanLoop_succ (os : BarrierCalls V) (pid : ℕ) (expected : UInt32) (n : ℕ) (v : V) :
    scanLoop os pid expected (n + 1) v =
      if scanSucceeds os.toAffinityCalls pid expected v then .ok () v
      else scanLoop os pid expected n (os.sleep v) := by
  show (if scanSucceeds os.toAffinityCalls pid expected v then pure () else _ :
    EStateM ChalybsError V Unit) v = _
  split_ifs
  · rfl
  · rfl

/-- The loop returns exactly if one of the scans succeeds. -/
lemma scanLoop_returns {pid n : ℕ} :
    (∃ v', scanLoop os pid expected n v = .ok () v') ↔
      ∃ i < n, scanSucceeds os.toAffinityCalls pid expected (os.sleep^[i] v) = true := by
  induction n generalizing v with
  | zero =>
      refine iff_of_false ?_ ?_
      · rintro ⟨v', h⟩
        cases h
      · rintro ⟨i, hi, -⟩
        exact Nat.not_lt_zero i hi
  | succ n ih =>
      rw [scanLoop_succ]
      split_ifs with hscan
      · exact iff_of_true ⟨v, rfl⟩ ⟨0, Nat.zero_lt_succ n, hscan⟩
      · rw [ih]
        constructor
        · rintro ⟨i, hi, h⟩
          exact ⟨i + 1, Nat.succ_lt_succ hi, h⟩
        · rintro ⟨i, hi, h⟩
          cases i with
          | zero => exact absurd h hscan
          | succ i => exact ⟨i, Nat.lt_of_succ_lt_succ hi, h⟩

/-- **The barrier is passed** exactly if one of 400 scans succeeds. -/
lemma waitForQemuThreads_returns (hq : rt.qemu = some q) :
    (∃ v', waitForQemuThreads os rt v = .ok () v') ↔
      ∃ i < 400, scanSucceeds os.toAffinityCalls q.pid rt.cfg.qemu.numVcpus (os.sleep^[i] v) := by
  rw [waitForQemuThreads, hq]
  exact scanLoop_returns

end

/-! ## One scan -/

/-- The indices that the threads show. -/
abbrev shown (threads : List (ℕ × ℕ)) : List ℕ := threads.map Prod.snd

section

variable {expected : UInt32} {threads : List (ℕ × ℕ)}

lemma lt_of_parseVcpuName {name : String} {idx : ℕ} (h : parseVcpuName name = some idx) :
    idx < 2 ^ 32 := by
  rw [parseVcpuName] at h
  split at h
  · dsimp only at h
    split_ifs at h
    cases hparse : parseU32 _ with
    | error e =>
        rw [hparse] at h
        cases h
    | ok n =>
        rw [hparse] at h
        obtain rfl := Option.some.inj h
        exact (parseU32_eq_ok.mp hparse).2
  · cases h

/-- The indices have the type `u32`. -/
lemma lt_of_discoverVcpus {os : AffinityCalls V} {pid : ℕ} {v : V}
    (h : discoverVcpus os pid v = .ok threads) : ∀ idx ∈ shown threads, idx < 2 ^ 32 := by
  rw [discoverVcpus] at h
  split at h
  · cases h
  · split at h
    · cases h
    next tasks _ =>
      obtain rfl := Except.ok.inj h
      intro idx hidx
      obtain ⟨thread, hthread, rfl⟩ := List.mem_map.mp hidx
      obtain ⟨task, -, htask⟩ := List.mem_filterMap.mp hthread
      obtain ⟨idx, hname, rfl⟩ := Option.map_eq_some_iff.mp htask
      exact lt_of_parseVcpuName hname

lemma scanComplete_eq_true :
    scanComplete expected threads = true ↔
      (shown threads).toFinset.card % 2 ^ 32 = expected.toNat ∧
        ∀ idx < expected.toNat, idx ∈ shown threads := by
  rw [scanComplete, length_sortDedup]
  split_ifs with hcard
  · rw [List.isEmpty_iff, List.filter_eq_nil_iff, and_iff_right hcard]
    simp [mem_sortDedup]
  · exact iff_of_false id fun h => hcard h.1

/-- **A scan that shows every vCPU** is taken for complete if it shows no other index; and if it
shows all `2 ^ 32` indices, when none is expected. -/
lemma card_eq_iff (hlt : ∀ idx ∈ shown threads, idx < 2 ^ 32)
    (hall : ∀ idx < expected.toNat, idx ∈ shown threads) :
    (shown threads).toFinset.card % 2 ^ 32 = expected.toNat ↔
      (∀ idx ∈ shown threads, idx < expected.toNat) ∨
        expected.toNat = 0 ∧ ∀ idx < 2 ^ 32, idx ∈ shown threads := by
  have hexpected : expected.toNat < 2 ^ 32 := expected.toNat_lt
  have hbelow : Finset.range expected.toNat ⊆ (shown threads).toFinset :=
    fun idx hidx => List.mem_toFinset.mpr (hall idx (Finset.mem_range.mp hidx))
  have habove : (shown threads).toFinset ⊆ Finset.range (2 ^ 32) :=
    fun idx hidx => Finset.mem_range.mpr (hlt idx (List.mem_toFinset.mp hidx))
  have hle : (shown threads).toFinset.card ≤ 2 ^ 32 := by
    simpa only [Finset.card_range] using Finset.card_le_card habove
  constructor
  · intro hcard
    rcases Nat.lt_or_eq_of_le hle with hless | hfull
    · rw [Nat.mod_eq_of_lt hless] at hcard
      have heq : Finset.range expected.toNat = (shown threads).toFinset :=
        Finset.eq_of_subset_of_card_le hbelow (by rw [Finset.card_range, hcard])
      left
      intro idx hidx
      rwa [← List.mem_toFinset, ← heq, Finset.mem_range] at hidx
    · have heq : (shown threads).toFinset = Finset.range (2 ^ 32) :=
        Finset.eq_of_subset_of_card_le habove (by rw [Finset.card_range, hfull])
      rw [hfull, Nat.mod_self] at hcard
      refine .inr ⟨hcard.symm, fun idx hidx => ?_⟩
      rwa [← List.mem_toFinset, heq, Finset.mem_range]
  · rintro (hbound | ⟨hnone, hfull⟩)
    · have heq : (shown threads).toFinset = Finset.range expected.toNat := by
        refine Finset.Subset.antisymm (fun idx hidx => ?_) hbelow
        exact Finset.mem_range.mpr (hbound idx (List.mem_toFinset.mp hidx))
      rw [heq, Finset.card_range, Nat.mod_eq_of_lt hexpected]
    · have heq : (shown threads).toFinset = Finset.range (2 ^ 32) := by
        refine Finset.Subset.antisymm habove fun idx hidx => ?_
        exact List.mem_toFinset.mpr (hfull idx (Finset.mem_range.mp hidx))
      rw [heq, Finset.card_range, Nat.mod_self, hnone]

end

/-! ## What `pin_vcpus` asks for -/

/-- The error of `pin_vcpus` about indices without a thread. -/
def missingVcpus (missing : List ℕ) : ChalybsError :=
  let indices := joinWith ", " (missing.map toString)
  .Affinity s!"missing vCPU threads for indices: [{indices}]"

/-- `pin_vcpus` stops since an index has no thread. -/
def FindsMissing (os : AffinityCalls V) (rt : VmRuntime) (v : V) : Prop :=
  ∃ missing v', pinVcpus os rt v = .error (missingVcpus missing) v'

section

variable {os : AffinityCalls V} {rt : VmRuntime} {v : V}

/-- The errors of the pinning itself have other texts. -/
lemma pinThreads_error (os : AffinityCalls V) (rt : VmRuntime)
    (threads : List (Sigma fun _ : ℕ => ℕ)) (v : V) :
    Ends (pinThreads os rt threads) v (fun _ _ => True)
      fun e _ => ∀ missing, e ≠ missingVcpus missing := by
  have hother : ∀ {text : String}, text.toList.head? = some 'f' →
      ∀ missing, ChalybsError.Affinity text ≠ missingVcpus missing := by
    intro text htext missing h
    rw [ChalybsError.Affinity.inj h] at htext
    simp [String.toList_append, toString] at htext
  induction threads generalizing v with
  | nil => trivial
  | cons thread threads ih =>
      obtain ⟨idx, tid⟩ := thread
      rw [pinThreads]
      cases rt.vcpuTarget idx with
      | none => exact ih v
      | some hostCpu =>
          dsimp only
          split_ifs
          · exact hother (by simp [String.toList_append, toString])
          · rw [ends_bind]
            refine ends_adaptExcept.mpr (ends_of_forall (fun _ v => ih v) fun e _ => ?_)
            exact hother (by simp [String.toList_append, toString])

/-- The threads by their indices. -/
abbrev threadsByIndex (threads : List (ℕ × ℕ)) : AList fun _ : ℕ => ℕ :=
  threads.foldl (fun m thread => m.insert thread.2 thread.1) ∅

/-- The indices that are expected and have no thread. -/
abbrev missingIndices (expected : UInt32) (threads : List (ℕ × ℕ)) : List ℕ :=
  (List.range expected.toNat).filter fun idx => !decide (idx ∈ threadsByIndex threads)

lemma mem_foldl_insert {threads : List (ℕ × ℕ)} {m : AList fun _ : ℕ => ℕ} {idx : ℕ} :
    idx ∈ threads.foldl (fun m thread => m.insert thread.2 thread.1) m ↔
      idx ∈ m ∨ idx ∈ shown threads := by
  induction threads generalizing m with
  | nil => simp
  | cons thread threads ih =>
      rw [List.foldl_cons, ih, AList.mem_insert]
      simp only [shown, List.map_cons, List.mem_cons]
      tauto

lemma missingIndices_ne_nil {expected : UInt32} {threads : List (ℕ × ℕ)} :
    (!(missingIndices expected threads).isEmpty) = true ↔
      ∃ idx < expected.toNat, idx ∉ shown threads := by
  simp [List.isEmpty_eq_false_iff, List.filter_eq_nil_iff, mem_foldl_insert]

/-- **`pin_vcpus`** stops if an index is missing; else it pins the threads. -/
lemma ends_pinVcpus {q : QemuState} {threads : List (ℕ × ℕ)} (hq : rt.qemu = some q)
    (hthreads : discoverVcpus os q.pid v = .ok threads)
    (henough : rt.cfg.qemu.numVcpus.toNat ≤ rt.cpus.vm.cpus.length) {Q : Unit → V → Prop}
    {E : ChalybsError → V → Prop} :
    Ends (pinVcpus os rt) v Q E ↔
      if !(missingIndices rt.cfg.qemu.numVcpus threads).isEmpty then
        E (missingVcpus (missingIndices rt.cfg.qemu.numVcpus threads)) v
      else Ends (pinThreads os rt (threadsByIndex threads).entries) v Q E := by
  rw [pinVcpus, hq]
  dsimp only
  rw [ends_bind, ends_fromExcept, checkVcpuCount_eq_ok.mpr henough]
  dsimp only
  rw [ends_bind, ends_get, ends_bind, ends_fromExcept, hthreads]
  dsimp only
  split_ifs
  · exact Iff.rfl
  · exact Iff.rfl

/-- **`pin_vcpus` finds an index missing** exactly if one that is expected is not shown. -/
lemma findsMissing_iff {q : QemuState} {threads : List (ℕ × ℕ)} (hq : rt.qemu = some q)
    (hthreads : discoverVcpus os q.pid v = .ok threads)
    (henough : rt.cfg.qemu.numVcpus.toNat ≤ rt.cpus.vm.cpus.length) :
    FindsMissing os rt v ↔ ∃ idx < rt.cfg.qemu.numVcpus.toNat, idx ∉ shown threads := by
  rw [← missingIndices_ne_nil]
  constructor
  · rintro ⟨missing, v', hrun⟩
    by_contra hnone
    have hpins : Ends (pinVcpus os rt) v (fun _ _ => True)
        fun e _ => ∀ missing, e ≠ missingVcpus missing := by
      rw [ends_pinVcpus hq hthreads henough, if_neg hnone]
      exact pinThreads_error os rt _ v
    rw [Ends, hrun] at hpins
    exact hpins missing rfl
  · intro hsome
    have hstops : Ends (pinVcpus os rt) v (fun _ _ => False)
        fun e _ => e = missingVcpus (missingIndices rt.cfg.qemu.numVcpus threads) := by
      rw [ends_pinVcpus hq hthreads henough, if_pos hsome]
    obtain ⟨e, v', hrun, rfl⟩ := hstops.exists_error
    exact ⟨_, v', hrun⟩

end

/-! ## When both agree -/

/-- A scan is taken for complete exactly if it shows every vCPU, which is if `pin_vcpus` finds none
missing; the barrier is passed then. -/
structure BarrierAgrees (os : BarrierCalls V) (rt : VmRuntime) (threads : List (ℕ × ℕ)) (v : V) :
    Prop where
  complete_iff : scanComplete rt.cfg.qemu.numVcpus threads = true ↔
    ∀ idx < rt.cfg.qemu.numVcpus.toNat, idx ∈ shown threads
  missing_iff : scanComplete rt.cfg.qemu.numVcpus threads = true ↔
    ¬ FindsMissing os.toAffinityCalls rt v
  passes : (∀ idx < rt.cfg.qemu.numVcpus.toNat, idx ∈ shown threads) →
    waitForQemuThreads os rt v = .ok () v

/-- The scan shows no index that is not expected; or it lacks an expected one; or none is expected
and it shows all there are. -/
def NoExtraVcpus (expected : UInt32) (threads : List (ℕ × ℕ)) : Prop :=
  (∀ idx ∈ shown threads, idx < expected.toNat) ∨
    (∃ idx < expected.toNat, idx ∉ shown threads) ∨
      expected.toNat = 0 ∧ ∀ idx < 2 ^ 32, idx ∈ shown threads

/-- **When the barrier and `pin_vcpus` agree**: unless the scan shows every vCPU and others besides,
which makes the barrier wait on. -/
theorem barrierAgrees_iff {os : BarrierCalls V} {rt : VmRuntime} {q : QemuState}
    {threads : List (ℕ × ℕ)} {v : V} (hq : rt.qemu = some q)
    (hthreads : discoverVcpus os.toAffinityCalls q.pid v = .ok threads)
    (henough : rt.cfg.qemu.numVcpus.toNat ≤ rt.cpus.vm.cpus.length) :
    BarrierAgrees os rt threads v ↔ NoExtraVcpus rt.cfg.qemu.numVcpus threads := by
  have hlt := lt_of_discoverVcpus hthreads
  have hfinds := findsMissing_iff hq hthreads henough
  have hcomplete : (scanComplete rt.cfg.qemu.numVcpus threads = true ↔
      ∀ idx < rt.cfg.qemu.numVcpus.toNat, idx ∈ shown threads) ↔
        NoExtraVcpus rt.cfg.qemu.numVcpus threads := by
    rw [scanComplete_eq_true, NoExtraVcpus]
    by_cases hall : ∀ idx < rt.cfg.qemu.numVcpus.toNat, idx ∈ shown threads
    · have hnone : ¬ ∃ idx < rt.cfg.qemu.numVcpus.toNat, idx ∉ shown threads := by
        push Not
        exact hall
      rw [card_eq_iff hlt hall, and_iff_left hall, iff_true_right hall, or_iff_right hnone]
    · have hsome : ∃ idx < rt.cfg.qemu.numVcpus.toNat, idx ∉ shown threads := by
        push Not at hall
        exact hall
      exact iff_of_true (iff_of_false (fun h => hall h.2) hall) (.inr (.inl hsome))
  constructor
  · intro h
    exact hcomplete.mp h.complete_iff
  · intro h
    have hiff := hcomplete.mpr h
    refine ⟨hiff, hiff.trans ?_, fun hall => ?_⟩
    · rw [hfinds]
      push Not
      exact Iff.rfl
    · rw [waitForQemuThreads, hq]
      dsimp only
      rw [scanLoop_succ, scanSucceeds, hthreads]
      exact if_pos (hiff.mpr hall)

/-- A process with three vCPU threads. -/
def threeThreads : BarrierCalls Unit where
  openProcess _ _ := .ok ()
  tasks _ _ := .ok [(100, "qemu-system-x86"), (101, "CPU 0/KVM"), (102, "CPU 1/KVM"),
    (103, "CPU 2/KVM")]
  setAffinity _ _ := pure ()
  sleep := id

/-- A VM of two vCPUs on the process. -/
def twoVcpuRuntime : VmRuntime :=
  { VmRuntime.new "a" (minimalVmConfig {} {}) ⟨⟨[0]⟩, ⟨[1, 2]⟩⟩ with qemu := some ⟨100⟩ }

/-- The thread of a third vCPU keeps the barrier from being passed, while `pin_vcpus` succeeds. -/
theorem extra_vcpu_blocks :
    discoverVcpus threeThreads.toAffinityCalls 100 () = .ok [(101, 0), (102, 1), (103, 2)] ∧
      ¬ BarrierAgrees threeThreads twoVcpuRuntime [(101, 0), (102, 1), (103, 2)] () := by
  refine ⟨by decide, fun h => ?_⟩
  have hcomplete := h.complete_iff.mpr (by decide)
  exact absurd hcomplete (by decide)

/-- The same process without the third thread. -/
def twoThreads : BarrierCalls Unit :=
  { threeThreads with
    tasks := fun _ _ => .ok [(100, "qemu-system-x86"), (101, "CPU 0/KVM"), (102, "CPU 1/KVM")] }

theorem barrierAgrees_twoThreads :
    BarrierAgrees twoThreads twoVcpuRuntime [(101, 0), (102, 1)] () :=
  (barrierAgrees_iff (q := ⟨100⟩) rfl (by decide) (by decide)).mpr (.inl (by decide))

end Chalybs
