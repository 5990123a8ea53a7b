import Chalybs.Hugepages.Record

/-!
# What the host answers while hugepages are provisioned

A host can keep a log of the operations that are asked of it: whether they succeed, and how many
more pages could be allocated then.  The log of a run of `provision_for_vm` tells what the run has
done to the host, and whether it returned.

* `HugepageCalls.logged` — the host that keeps the log; `simulates_provisionForVm` — the log
  changes nothing else.
* `HugepageCalls.answers` — the log of a run.
* `Accounted` — what the log says of the pool, the mounts and the marker.
* `ends_provisionForVm_answers` — provisioning returns exactly when nothing that it needs has failed
  and there are enough pages.
-/

namespace Chalybs

open Foundation

variable {V : Type}

/-! ## The log -/

/-- The operations of a run; one that succeeded with the number of pages that could be allocated
then. -/
abbrev HugeLog := List (HugeIo × Option ℕ)

/-- Operations whose failure is only logged. -/
def HugeIo.BestEffort : HugeIo → Prop
  | .ReadMounts | .WriteMarker | .DropCaches | .CompactMemory => True
  | _ => False

/-- Operations of provisioning that change nothing on the host. -/
def HugeIo.Quiet : HugeIo → Prop
  | .CreateMountPath | .ReadMounts | .ReadNr | .ReadFree | .DropCaches | .CompactMemory => True
  | _ => False

/-- What an operation may add to the pool. -/
def HugeIo.grants : HugeIo → Option ℕ → ℕ
  | .WriteNr _, some available => available
  | _, _ => 0

@[simp] lemma HugeIo.grants_none (io : HugeIo) : io.grants none = 0 := by
  cases io <;> rfl

lemma HugeIo.Quiet.grants {io : HugeIo} (h : io.Quiet) (answer : Option ℕ) :
    io.grants answer = 0 := by
  cases io <;> first | rfl | exact h.elim

namespace HugeLog

/-- The operation was performed. -/
def Did (log : HugeLog) (io : HugeIo) : Prop := ∃ available, (io, some available) ∈ log

/-- How many pages could be allocated at the writes to the pool of the node, taken together. -/
def granted (log : HugeLog) : ℕ := (log.map fun entry => entry.1.grants entry.2).sum

/-- Pages could be allocated at a write to the pool of the node. -/
def Raised (log : HugeLog) : Prop := 0 < log.granted

/-- Nothing failed that provisioning needs. -/
def Sound (log : HugeLog) : Prop := ∀ io, (io, none) ∈ log → io.BestEffort

variable {log : HugeLog} {io io' : HugeIo} {answer : Option ℕ}

@[simp] lemma did_snoc :
    Did (log ++ [(io, answer)]) io' ↔ log.Did io' ∨ io' = io ∧ answer.isSome := by
  rw [Option.isSome_iff_exists]
  simp only [Did, List.mem_append, List.mem_singleton, Prod.mk.injEq, exists_or,
    exists_and_left, eq_comm]

@[simp] lemma sound_snoc :
    Sound (log ++ [(io, answer)]) ↔ log.Sound ∧ (answer = none → io.BestEffort) := by
  simp only [Sound, List.mem_append, List.mem_singleton, Prod.mk.injEq]
  constructor
  · intro h
    exact ⟨fun io' hio' => h io' (.inl hio'), fun hfailed => h io (.inr ⟨rfl, hfailed.symm⟩)⟩
  · rintro ⟨hlog, hlast⟩ io' (hmem | ⟨rfl, hfailed⟩)
    · exact hlog io' hmem
    · exact hlast hfailed.symm

@[simp] lemma granted_snoc : granted (log ++ [(io, answer)]) = log.granted + io.grants answer := by
  simp [granted]

end HugeLog

/-- The same host, with a log beside it. -/
def HugepageCalls.logged (os : HugepageCalls V) : HugepageCalls (V × HugeLog) where
  io io v :=
    match os.io io v.1 with
    | .ok _ rest => .ok () (rest, v.2 ++ [(io, some (os.available v.1))])
    | .error e rest => .error e (rest, v.2 ++ [(io, none)])
  available v := os.available v.1
  mountPathExists v := os.mountPathExists v.1
  refusesMount v := os.refusesMount v.1
  nodeEntries v := os.nodeEntries v.1
  leavesChild rt v := os.leavesChild rt v.1

namespace HugeWorld

/-- The host before anything is logged. -/
def fresh (w : HugeWorld V) : HugeWorld (V × HugeLog) := { w with rest := (w.rest, []) }

/-- The host without the log. -/
def bare (w : HugeWorld (V × HugeLog)) : HugeWorld V := { w with rest := w.rest.1 }

def log (w : HugeWorld (V × HugeLog)) : HugeLog := w.rest.2

/-- One more entry in the log. -/
def note (w : HugeWorld (V × HugeLog)) (rest : V) (io : HugeIo) (answer : Option ℕ) :
    HugeWorld (V × HugeLog) := { w with rest := (rest, w.log ++ [(io, answer)]) }

variable {w : HugeWorld (V × HugeLog)} {rest : V} {io : HugeIo} {answer : Option ℕ}

@[simp] lemma log_note : (w.note rest io answer).log = w.log ++ [(io, answer)] := rfl

@[simp] lemma log_effect {available : ℕ} : (io.effect available w).log = w.log := by
  cases io <;> rfl

end HugeWorld

/-! ## The log changes nothing -/

/-- The same host, but for the log. -/
def Unlogged (w : HugeWorld V) (w' : HugeWorld (V × HugeLog)) : Prop := w'.bare = w

/-- The same runtime, and the same host but for the log. -/
def UnloggedRun (t : (HugepageRecord × List CoreEvent) × HugeWorld V)
    (t' : (HugepageRecord × List CoreEvent) × HugeWorld (V × HugeLog)) : Prop :=
  t'.1 = t.1 ∧ Unlogged t.2 t'.2

section

variable {α : Type} {os : HugepageCalls V} {io : HugeIo} {node : UInt16}

lemma bare_effect {available : ℕ} (w : HugeWorld (V × HugeLog)) :
    (io.effect available w).bare = io.effect available w.bare := by
  cases io <;> rfl

lemma simulates_io : Simulates Unlogged (os.perform io) (os.logged.perform io) := by
  rintro _ w rfl
  have hio : os.io io w.bare.rest = os.io io w.rest.1 := rfl
  simp only [Ends, HugepageCalls.perform, HugepageCalls.logged, hio]
  cases os.io io w.rest.1 with
  | ok a rest => exact ⟨_, rfl, bare_effect _⟩
  | error e rest => exact ⟨_, rfl, rfl⟩

lemma unlogged_attempt {w : HugeWorld V} {w' : HugeWorld (V × HugeLog)} (h : Unlogged w w') :
    Unlogged (os.attempt io w) (os.logged.attempt io w') := (simulates_io.outcome h).2

lemma simulates_performOn :
    Simulates Unlogged (os.performOn node io) (os.logged.performOn node io) := by
  refine Simulates.get_bind fun w w' h => ?_
  have hnode : w'.pool.node = w.pool.node := by rw [← h]; rfl
  rw [hnode]
  split_ifs
  · exact simulates_io
  · exact Simulates.throw

lemma simulates_alreadyMounted :
    Simulates Unlogged os.alreadyMounted os.logged.alreadyMounted := by
  intro w w' h
  have hread := @simulates_io V os .ReadMounts w w' h
  unfold Ends at hread ⊢
  unfold HugepageCalls.alreadyMounted
  cases hx : os.perform .ReadMounts w with
  | ok a w₁ =>
      simp only [hx] at hread ⊢
      obtain ⟨w₁', hx', h₁⟩ := hread
      exact ⟨w₁', by rw [hx', ← h₁]; rfl, h₁⟩
  | error e w₁ =>
      simp only [hx] at hread ⊢
      obtain ⟨w₁', hx', h₁⟩ := hread
      exact ⟨w₁', by rw [hx'], h₁⟩

lemma simulates_mountHugetlbfs :
    Simulates Unlogged os.mountHugetlbfs os.logged.mountHugetlbfs := by
  intro w w' h
  have hmount := @simulates_io V os .Mount w w' h
  have hbusy : (0 < w'.mounts ∧ os.logged.refusesMount w'.rest = true) ↔
      0 < w.mounts ∧ os.refusesMount w.rest = true := by
    rw [← h]
    rfl
  unfold Ends at hmount ⊢
  unfold HugepageCalls.mountHugetlbfs
  simp only [hbusy]
  split_ifs
  · exact ⟨w', rfl, h⟩
  · cases hx : os.perform .Mount w with
    | ok a w₁ =>
        simp only [hx] at hmount ⊢
        obtain ⟨w₁', hx', h₁⟩ := hmount
        exact ⟨_, by rw [hx'], unlogged_attempt h₁⟩
    | error e w₁ =>
        simp only [hx] at hmount ⊢
        obtain ⟨w₁', hx', h₁⟩ := hmount
        exact ⟨w₁', by rw [hx'], h₁⟩

lemma simulates_ensureMount :
    Simulates Unlogged os.ensureHugetlbfsMount os.logged.ensureHugetlbfsMount := by
  refine Simulates.bind (Simulates.get_bind fun w w' h => ?_) fun _ =>
    Simulates.bind simulates_alreadyMounted fun mounted => ?_
  · have hexists : os.logged.mountPathExists w'.rest = os.mountPathExists w.rest := by
      rw [← h]
      rfl
    rw [hexists]
    split_ifs
    · exact Simulates.pure
    · exact simulates_io.adaptExcept
  · split_ifs
    · exact Simulates.pure
    · exact simulates_mountHugetlbfs

lemma simulates_counters : Simulates Unlogged (os.readNodeHugepageCounters node)
    (os.logged.readNodeHugepageCounters node) := by
  refine Simulates.bind simulates_performOn.adaptExcept fun _ =>
    Simulates.bind simulates_performOn.adaptExcept fun _ => Simulates.get_bind fun w w' h => ?_
  rw [← h]
  exact Simulates.pure

lemma simulates_raisePool {pages : ℕ} :
    Simulates Unlogged (os.files.raisePool node pages) (os.logged.files.raisePool node pages) := by
  refine Simulates.bind (Simulates.modify fun w w' h => unlogged_attempt (unlogged_attempt h))
    fun _ => Simulates.bind simulates_counters fun before => ?_
  dsimp only
  split_ifs
  · exact Simulates.bind simulates_performOn.adaptExcept fun _ => simulates_counters
  · exact simulates_counters

lemma simulates_onHost {x : PoolM V α} {y : PoolM (V × HugeLog) α}
    (h : Simulates Unlogged x y) :
    Simulates UnloggedRun (NodeFiles.onHost x) (NodeFiles.onHost y) := by
  rintro t ⟨_, w'⟩ ⟨rfl, hw⟩
  refine ends_zoom.mpr ((h t.2 w' hw).mono ?_ ?_)
  · rintro a w₁ ⟨w₁', hy, h₁⟩
    exact ⟨(t.1, w₁'), by simp only [NodeFiles.onHost, zoom, hy], rfl, h₁⟩
  · rintro e w₁ ⟨w₁', hy, h₁⟩
    exact ⟨(t.1, w₁'), by simp only [NodeFiles.onHost, zoom, hy], rfl, h₁⟩

lemma simulates_recordPages {pages : UInt64} {message : String} :
    Simulates (UnloggedRun (V := V)) (NodeFiles.recordPages node pages message)
      (NodeFiles.recordPages node pages message) :=
  Simulates.modify fun _ _ h => ⟨by rw [h.1], h.2⟩

lemma simulates_attemptRaise {rt : VmRuntime} {pages : UInt64} (attempts : List ℕ)
    (counters : ℕ × ℕ) :
    Simulates UnloggedRun (os.files.attemptRaise rt node pages attempts counters)
      (os.logged.files.attemptRaise rt node pages attempts counters) := by
  induction attempts generalizing counters with
  | nil => exact Simulates.throw
  | cons attempt attempts ih =>
      refine Simulates.bind (simulates_onHost simulates_raisePool) fun counters' => ?_
      split_ifs
      · exact simulates_recordPages
      · exact ih counters'

/-- **Keeping the log changes nothing else.** -/
theorem simulates_provisionForVm (rt : VmRuntime) :
    Simulates UnloggedRun (os.provisionForVm rt) (os.logged.provisionForVm rt) := by
  rw [HugepageCalls.provisionForVm, HugepageCalls.provisionForVm, NodeFiles.provisionForVm,
    NodeFiles.provisionForVm]
  split_ifs
  · refine Simulates.bind (simulates_onHost (Simulates.get_bind fun w w' h => ?_)) fun node => ?_
    · rw [← h]
      exact Simulates.fromExcept
    refine Simulates.bind (simulates_onHost simulates_ensureMount) fun _ => ?_
    refine Simulates.bind (simulates_onHost simulates_counters) fun counters => ?_
    split_ifs
    · exact simulates_recordPages
    · exact simulates_attemptRaise _ _
  · exact Simulates.modify fun _ _ h => ⟨by rw [h.1], h.2⟩

end

/-- The log of a run of `provision_for_vm`. -/
def HugepageCalls.answers (os : HugepageCalls V) (rt : VmRuntime)
    (t : (HugepageRecord × List CoreEvent) × HugeWorld V) : HugeLog :=
  (outcome (os.logged.provisionForVm rt) (t.1, t.2.fresh)).2.2.log

/-! ## What the log tells -/

namespace NodePool

variable {p : NodePool} {pages available available' : ℕ}

/-- The pool after attempts to have so many pages, when so many more can be allocated. -/
def raisedTo (p : NodePool) (pages available : ℕ) : NodePool :=
  if p.total < pages then p.write pages available else p

lemma raisedTo_zero : p.raisedTo pages 0 = p := by
  have hle := p.inUse_le
  rw [raisedTo]
  split_ifs with hraise
  · have htotal : max (min pages (p.total + 0)) p.inUse = p.total := by omega
    simp only [write, htotal]
  · rfl

lemma total_raisedTo :
    (p.raisedTo pages available).total = max p.total (min pages (p.total + available)) := by
  rw [raisedTo]
  split_ifs with hraise
  · rw [total_write hraise.le]
    omega
  · omega

lemma inUse_raisedTo : (p.raisedTo pages available).inUse = p.inUse := by
  rw [raisedTo]
  split_ifs
  · rfl
  · rfl

/-- Raising the pool twice is raising it by both amounts. -/
lemma write_raisedTo (h : (p.raisedTo pages available).total < pages) :
    (p.raisedTo pages available).write pages available' =
      p.raisedTo pages (available + available') := by
  have hle := p.inUse_le
  have htotal := @total_raisedTo p pages available
  have hlt : p.total < pages := by omega
  rw [raisedTo, if_pos hlt] at htotal ⊢
  rw [raisedTo, if_pos hlt]
  simp only [write] at htotal ⊢
  congr 1
  omega

/-- The attempts get the pages if they are free, or if nobody else has pages and enough of them can
be allocated. -/
lemma le_free_raisedTo : pages ≤ (p.raisedTo pages available).free ↔
    pages ≤ p.free ∨ p.inUse = 0 ∧ pages ≤ p.total + available := by
  have hle := p.inUse_le
  rw [free, free, total_raisedTo, inUse_raisedTo]
  omega

end NodePool

/-- Nothing happened between two states that is not quiet. -/
structure HugeWorld.Alike (w w' : HugeWorld (V × HugeLog)) : Prop where
  pool : w'.pool = w.pool
  mounts : w'.mounts = w.mounts
  marker : w'.marker = w.marker
  did : ∀ io : HugeIo, ¬io.Quiet → (w'.log.Did io ↔ w.log.Did io)
  granted : w'.log.granted = w.log.granted

/-- The state of the host follows from the log: of a run that wants so many pages, from `w₀` to
`w`. -/
structure Accounted (pages : ℕ) (w₀ w : HugeWorld (V × HugeLog)) : Prop where
  mounted : w.log.Did .Mount → w.mounts = w₀.mounts + 1
  notMounted : ¬w.log.Did .Mount → w.mounts = w₀.mounts
  marker : w.marker = true ↔ w₀.marker = true ∨ w.log.Did .WriteMarker
  raised : w.log.Raised → w₀.pool.total < pages
  pool : w.pool = w₀.pool.raisedTo pages w.log.granted

section

variable {os : HugepageCalls V} {w₀ w w' w'' : HugeWorld (V × HugeLog)} {io : HugeIo}
  {node : UInt16} {pages : ℕ}

namespace HugeWorld.Alike

lemma refl (w : HugeWorld (V × HugeLog)) : w.Alike w := ⟨rfl, rfl, rfl, fun _ _ => .rfl, rfl⟩

lemma trans (h : w.Alike w') (h' : w'.Alike w'') : w.Alike w'' where
  pool := h'.pool.trans h.pool
  mounts := h'.mounts.trans h.mounts
  marker := h'.marker.trans h.marker
  did io hio := (h'.did io hio).trans (h.did io hio)
  granted := h'.granted.trans h.granted

lemma note (hio : io.Quiet) (rest : V) (answer : Option ℕ) :
    w.Alike (w.note rest io answer) where
  pool := rfl
  mounts := rfl
  marker := rfl
  did io' hio' := by
    have hne : io' ≠ io := fun heq => hio' (heq ▸ hio)
    simp [hne]
  granted := by simp [hio.grants]

lemma raised (h : w.Alike w') : w'.log.Raised ↔ w.log.Raised := by
  rw [HugeLog.Raised, HugeLog.Raised, h.granted]

end HugeWorld.Alike

namespace Accounted

lemma start (h : w.log = []) : Accounted pages w w := by
  have hdid : ∀ io, ¬w.log.Did io := by simp [HugeLog.Did, h]
  have hgranted : w.log.granted = 0 := by rw [h]; rfl
  refine ⟨fun hmount => absurd hmount (hdid _), fun _ => rfl, by simp [hdid], fun hraised => ?_, ?_⟩
  · rw [HugeLog.Raised, hgranted] at hraised
    exact absurd hraised (lt_irrefl 0)
  · rw [hgranted, NodePool.raisedTo_zero]

lemma alike (h : Accounted pages w₀ w) (hw : w.Alike w') : Accounted pages w₀ w' where
  mounted hmount := hw.mounts.trans (h.mounted ((hw.did .Mount id).mp hmount))
  notMounted hmount := hw.mounts.trans (h.notMounted (mt (hw.did .Mount id).mpr hmount))
  marker := by rw [hw.marker, h.marker, hw.did .WriteMarker id]
  raised hraised := h.raised (hw.raised.mp hraised)
  pool := by rw [hw.pool, hw.granted, h.pool]

lemma mounts_le (h : Accounted pages w₀ w) : w.mounts ≤ w₀.mounts + 1 := by
  by_cases hmount : w.log.Did .Mount
  · exact (h.mounted hmount).le
  · exact (h.notMounted hmount).le.trans (Nat.le_succ _)

lemma mounts_lt (h : Accounted pages w₀ w) : w₀.mounts < w.mounts ↔ w.log.Did .Mount := by
  by_cases hmount : w.log.Did .Mount
  · simp [h.mounted hmount, hmount]
  · simp [h.notMounted hmount, hmount]

lemma total_lt (h : Accounted pages w₀ w) : w₀.pool.total < w.pool.total ↔ w.log.Raised := by
  rw [h.pool, NodePool.total_raisedTo]
  constructor
  · intro hlt
    rw [HugeLog.Raised]
    omega
  · intro hraised
    have hlt := h.raised hraised
    rw [HugeLog.Raised] at hraised
    omega

lemma pool_node (h : Accounted pages w₀ w) : w.pool.node = w₀.pool.node := by
  rw [h.pool, NodePool.raisedTo]
  split_ifs
  · rfl
  · rfl

lemma pool_eq (h : Accounted pages w₀ w) (hnot : ¬w.log.Raised) : w.pool = w₀.pool := by
  have hgranted : w.log.granted = 0 := by simpa [HugeLog.Raised] using hnot
  rw [h.pool, hgranted, NodePool.raisedTo_zero]

/-- An operation that fails leaves an entry in the log, and nothing else. -/
lemma fail (h : Accounted pages w₀ w) (rest : V) : Accounted pages w₀ (w.note rest io none) where
  mounted hmount := h.mounted (by simpa using hmount)
  notMounted hmount := h.notMounted (by simpa using hmount)
  marker := h.marker.trans (by simp)
  raised hraised := h.raised (by simpa [HugeLog.Raised] using hraised)
  pool := h.pool.trans (by simp)

variable {available : ℕ}

lemma mount (h : Accounted pages w₀ w) (hmount : ¬w.log.Did .Mount) (rest : V) :
    Accounted pages w₀
      (HugeIo.effect available (w.note rest .Mount (some available)) .Mount) where
  mounted _ := congrArg (· + 1) (h.notMounted hmount)
  notMounted hnot := absurd (HugeLog.did_snoc.mpr (.inr ⟨rfl, rfl⟩)) hnot
  marker := h.marker.trans (by simp)
  raised hraised := h.raised (by simpa [HugeLog.Raised, HugeIo.grants] using hraised)
  pool := h.pool.trans (by simp [HugeIo.grants])

lemma mark (h : Accounted pages w₀ w) (rest : V) :
    Accounted pages w₀
      (HugeIo.effect available (w.note rest .WriteMarker (some available)) .WriteMarker) where
  mounted hmount := h.mounted (by simpa using hmount)
  notMounted hmount := h.notMounted (by simpa using hmount)
  marker := iff_of_true rfl (.inr (HugeLog.did_snoc.mpr (.inr ⟨rfl, rfl⟩)))
  raised hraised := h.raised (by simpa [HugeLog.Raised, HugeIo.grants] using hraised)
  pool := h.pool.trans (by simp [HugeIo.grants])

/-- Only a pool that is too small is written. -/
lemma raise (h : Accounted pages w₀ w) (hlt : w.pool.total < pages) (rest : V) :
    Accounted pages w₀ (HugeIo.effect available
      (w.note rest (.WriteNr pages) (some available)) (.WriteNr pages)) where
  mounted hmount := h.mounted (by simpa using hmount)
  notMounted hmount := h.notMounted (by simpa using hmount)
  marker := h.marker.trans (by simp)
  raised _ := by
    rw [h.pool, NodePool.total_raisedTo] at hlt
    omega
  pool := by
    show w.pool.write pages available = _
    rw [h.pool] at hlt ⊢
    rw [NodePool.write_raisedTo hlt]
    simp [HugeIo.grants]

end Accounted

/-! ## What the parts do -/

/-- **An operation** on the host with the log. -/
lemma ends_io_logged (io : HugeIo) (w : HugeWorld (V × HugeLog)) :
    Ends (os.logged.perform io) w
      (fun _ w' => ∃ rest available, w' = io.effect available (w.note rest io (some available)))
      fun _ w' => ∃ rest, w' = w.note rest io none := by
  simp only [Ends, HugepageCalls.perform, HugepageCalls.logged]
  cases os.io io w.rest.1 with
  | ok a rest => exact ⟨rest, os.available w.rest.1, rfl⟩
  | error e rest => exact ⟨rest, rfl⟩

/-- A quiet operation leaves an entry in the log, and nothing else. -/
lemma ends_quiet (io : HugeIo) (hio : io.Quiet) (w : HugeWorld (V × HugeLog)) :
    Ends (os.logged.perform io) w (fun _ w' => w.Alike w' ∧ (w'.log.Sound ↔ w.log.Sound))
      fun _ w' => w.Alike w' ∧ (w'.log.Sound ↔ w.log.Sound ∧ io.BestEffort) := by
  refine (ends_io_logged io w).mono ?_ ?_
  · rintro - w' ⟨rest, available, rfl⟩
    have heffect : io.effect available (w.note rest io (some available)) =
        w.note rest io (some available) := by
      cases io <;> first | rfl | exact hio.elim
    rw [heffect]
    exact ⟨.note hio rest (some available), by simp⟩
  · rintro - w' ⟨rest, rfl⟩
    exact ⟨.note hio rest none, by simp⟩

lemma alike_attempt (hio : io.Quiet) (hbest : io.BestEffort) (w : HugeWorld (V × HugeLog)) :
    w.Alike (os.logged.attempt io w) ∧
      ((os.logged.attempt io w).log.Sound ↔ w.log.Sound) := by
  refine Ends.outcome_snd (P := fun w' => w.Alike w' ∧ (w'.log.Sound ↔ w.log.Sound)) ?_
  refine (ends_quiet io hio w).mono (fun _ _ h => h) fun _ w' h => ?_
  exact ⟨h.1, h.2.trans (and_iff_left hbest)⟩

lemma alike_dropCaches (w : HugeWorld (V × HugeLog)) :
    w.Alike (os.logged.dropCachesAndCompact w) ∧
      ((os.logged.dropCachesAndCompact w).log.Sound ↔ w.log.Sound) := by
  have hdrop := @alike_attempt V os .DropCaches trivial trivial w
  have hcompact := @alike_attempt V os .CompactMemory trivial trivial
    (os.logged.attempt .DropCaches w)
  exact ⟨hdrop.1.trans hcompact.1, hcompact.2.trans hdrop.2⟩

/-- Reading a file of the node. -/
lemma ends_readFile (io : HugeIo) (hio : io.Quiet) (hneeded : ¬io.BestEffort)
    (w : HugeWorld (V × HugeLog)) :
    Ends (os.logged.performOn node io) w
      (fun _ w' => w.Alike w' ∧ (w'.log.Sound ↔ w.log.Sound) ∧ node = w.pool.node)
      fun _ w' => w.Alike w' ∧ ¬(w'.log.Sound ∧ node = w.pool.node) := by
  rw [HugepageCalls.performOn, ends_bind, ends_get]
  split_ifs with hnode
  · refine (ends_quiet io hio w).mono (fun _ w' h => ⟨h.1, h.2, hnode⟩) fun _ w' h => ⟨h.1, ?_⟩
    exact fun hsound => hneeded (h.2.mp hsound.1).2
  · exact ⟨.refl w, fun h => hnode h.2⟩

/-- **Reading the counters**: they are read unless a read fails, or the node is another one. -/
lemma ends_counters_logged (w : HugeWorld (V × HugeLog)) :
    Ends (os.logged.readNodeHugepageCounters node) w
      (fun counters w' => w.Alike w' ∧ (w'.log.Sound ↔ w.log.Sound) ∧ node = w.pool.node ∧
        counters = (w.pool.total, w.pool.free))
      fun _ w' => w.Alike w' ∧ ¬(w'.log.Sound ∧ node = w.pool.node) := by
  rw [HugepageCalls.readNodeHugepageCounters, ends_bind, ends_adaptExcept]
  refine (ends_readFile .ReadNr trivial id w).mono (fun _ w₁ h₁ => ?_) fun _ _ h => h
  obtain ⟨halike, hsound, hnode⟩ := h₁
  rw [ends_bind, ends_adaptExcept]
  refine (ends_readFile .ReadFree trivial id w₁).mono (fun _ w₂ h₂ => ?_) fun _ w₂ h₂ => ?_
  · obtain ⟨halike₂, hsound₂, -⟩ := h₂
    have hboth := halike.trans halike₂
    refine ⟨hboth, hsound₂.trans hsound, hnode, ?_⟩
    show (w₂.pool.total, w₂.pool.free) = _
    rw [hboth.pool]
  · rw [halike.pool] at h₂
    exact ⟨halike.trans h₂.1, h₂.2⟩

/-- The marker is written or not, and no more than that. -/
lemma marker_logged (h : Accounted pages w₀ w) (hsound : w.log.Sound) (hnot : ¬w.log.Raised) :
    Accounted pages w₀ (os.logged.attempt .WriteMarker w) ∧
      (os.logged.attempt .WriteMarker w).log.Sound ∧
      ¬(os.logged.attempt .WriteMarker w).log.Raised := by
  refine Ends.outcome_snd (P := fun w' => Accounted pages w₀ w' ∧ w'.log.Sound ∧
    ¬w'.log.Raised) ((ends_io_logged .WriteMarker w).mono ?_ ?_)
  · rintro - w' ⟨rest, available, rfl⟩
    refine ⟨h.mark rest, by simpa using hsound, ?_⟩
    simpa [HugeLog.Raised, HugeIo.grants] using hnot
  · rintro - w' ⟨rest, rfl⟩
    refine ⟨h.fail rest, ?_, by simpa [HugeLog.Raised] using hnot⟩
    exact HugeLog.sound_snoc.mpr ⟨hsound, fun _ => trivial⟩

/-- Mounting, where nothing has been done yet. -/
lemma ends_mount_logged (h : w₀.log = []) (halike : w₀.Alike w) (hsound : w.log.Sound) :
    Ends os.logged.mountHugetlbfs w
      (fun _ w' => Accounted pages w₀ w' ∧ w'.log.Sound ∧ ¬w'.log.Raised)
      fun _ w' => Accounted pages w₀ w' ∧ ¬w'.log.Sound := by
  have haccount : Accounted pages w₀ w := (Accounted.start h).alike halike
  have hdid : ∀ io : HugeIo, ¬io.Quiet → ¬w.log.Did io := by
    intro io hio
    rw [halike.did io hio, HugeLog.Did, h]
    exact fun ⟨_, hmem⟩ => List.not_mem_nil hmem
  have hnotRaised : ¬w.log.Raised := by
    rw [halike.raised, h]
    exact lt_irrefl 0
  rw [ends_mountHugetlbfs]
  split_ifs
  · exact ⟨haccount, hsound, hnotRaised⟩
  · refine (ends_io_logged .Mount w).mono ?_ ?_
    · rintro - w' ⟨rest, available, rfl⟩
      exact marker_logged (haccount.mount (hdid .Mount id) rest) (by simpa using hsound)
        (by simpa [HugeLog.Raised, HugeIo.grants] using hnotRaised)
    · rintro - w' ⟨rest, rfl⟩
      exact ⟨haccount.fail rest, fun h => (HugeLog.sound_snoc.mp h).2 rfl⟩

/-- The directory is there unless it cannot be created. -/
lemma ends_ensureMountPath_logged (hsound : w.log.Sound) :
    Ends os.logged.ensureMountPath w (fun _ w' => w.Alike w' ∧ w'.log.Sound)
      fun _ w' => w.Alike w' ∧ ¬w'.log.Sound := by
  rw [HugepageCalls.ensureMountPath, ends_bind, ends_get]
  split_ifs
  · exact ⟨.refl w, hsound⟩
  · refine ends_adaptExcept.mpr ((ends_quiet .CreateMountPath trivial w).mono (fun _ w' h => ?_)
      fun _ w' h => ?_)
    · exact ⟨h.1, h.2.mpr hsound⟩
    · exact ⟨h.1, fun hsound' => (h.2.mp hsound').2⟩

/-- **The mount** is there unless something fails, and the pool is as before. -/
lemma ends_ensureMount_logged (h : w.log = []) :
    Ends os.logged.ensureHugetlbfsMount w
      (fun _ w' => Accounted pages w w' ∧ w'.log.Sound ∧ ¬w'.log.Raised)
      fun _ w' => Accounted pages w w' ∧ ¬w'.log.Sound := by
  have hsound : w.log.Sound := by simp [HugeLog.Sound, h]
  have hstart : ∀ w', w.Alike w' → Accounted pages w w' :=
    fun _ => (Accounted.start h).alike
  have hmounted : ∀ w', w.Alike w' → w'.log.Sound →
      Accounted pages w w' ∧ w'.log.Sound ∧ ¬w'.log.Raised := by
    intro w' halike hsound'
    refine ⟨hstart w' halike, hsound', fun hraised => ?_⟩
    rw [halike.raised, h] at hraised
    exact lt_irrefl 0 hraised
  rw [HugepageCalls.ensureHugetlbfsMount, ends_bind]
  refine (ends_ensureMountPath_logged hsound).mono (fun _ w₁ h₁ => ?_)
    fun _ w₁ h₁ => ⟨hstart w₁ h₁.1, h₁.2⟩
  obtain ⟨halike₁, hsound₁⟩ := h₁
  rw [ends_bind, ends_alreadyMounted]
  refine (ends_quiet .ReadMounts trivial w₁).mono (fun _ w₂ h₂ => ?_) fun _ w₂ h₂ => ?_
  · have halike : w.Alike w₂ := halike₁.trans h₂.1
    have hsound₂ : w₂.log.Sound := h₂.2.mpr hsound₁
    split_ifs
    · exact hmounted w₂ halike hsound₂
    · exact ends_mount_logged h halike hsound₂
  · exact ends_mount_logged h (halike₁.trans h₂.1) (h₂.2.mpr ⟨hsound₁, trivial⟩)

/-- **An attempt to raise the pool** succeeds unless something fails, or the node is another one,
and reads how many pages are free. -/
lemma ends_raisePool_logged (h : Accounted pages w₀ w) (hsound : w.log.Sound) :
    Ends (os.logged.files.raisePool node pages) w
      (fun counters w' => Accounted pages w₀ w' ∧ w'.log.Sound ∧ node = w₀.pool.node ∧
        counters.2 = w'.pool.free)
      fun _ w' => Accounted pages w₀ w' ∧ ¬(w'.log.Sound ∧ node = w₀.pool.node) := by
  -- the counters at the end
  have hverify : ∀ w₁, Accounted pages w₀ w₁ → w₁.log.Sound →
      Ends (os.logged.readNodeHugepageCounters node) w₁
        (fun counters w' => Accounted pages w₀ w' ∧ w'.log.Sound ∧ node = w₀.pool.node ∧
          counters.2 = w'.pool.free)
        fun _ w' => Accounted pages w₀ w' ∧ ¬(w'.log.Sound ∧ node = w₀.pool.node) := by
    intro w₁ h₁ hsound₁
    refine (ends_counters_logged w₁).mono (fun counters w' h' => ?_) fun _ w' h' => ?_
    · obtain ⟨halike, hsound', hnode, rfl⟩ := h'
      refine ⟨h₁.alike halike, hsound'.mpr hsound₁, hnode.trans h₁.pool_node, ?_⟩
      rw [halike.pool]
    · rw [← h₁.pool_node]
      exact ⟨h₁.alike h'.1, h'.2⟩
  obtain ⟨hdrop, hdropSound⟩ := @alike_dropCaches V os w
  have hdropped : Accounted pages w₀ (os.logged.dropCachesAndCompact w) := h.alike hdrop
  show Ends (os.logged.readNodeHugepageCounters node >>= _) (os.logged.dropCachesAndCompact w) _ _
  rw [ends_bind]
  refine (ends_counters_logged _).mono (fun before w₁ h₁ => ?_) fun _ w₁ h₁ => ?_
  · obtain ⟨halike, hsound₁, hnode, rfl⟩ := h₁
    have haccount₁ : Accounted pages w₀ w₁ := hdropped.alike halike
    have hsound₁' : w₁.log.Sound := hsound₁.mpr (hdropSound.mpr hsound)
    rw [← halike.pool] at hnode ⊢
    dsimp only
    split_ifs with hraise
    · show Ends (os.logged.writeNodeNrHugepages node pages >>= _) w₁ _ _
      rw [ends_bind, HugepageCalls.writeNodeNrHugepages, ends_adaptExcept, HugepageCalls.performOn,
        ends_bind, ends_get, if_pos hnode]
      refine (ends_io_logged (.WriteNr pages) w₁).mono ?_ ?_
      · rintro - w' ⟨rest, available, rfl⟩
        exact hverify _ (haccount₁.raise hraise rest) (by simpa using hsound₁')
      · rintro - w' ⟨rest, rfl⟩
        exact ⟨haccount₁.fail rest, fun hfine => (HugeLog.sound_snoc.mp hfine.1).2 rfl⟩
    · exact hverify w₁ haccount₁ hsound₁'
  · rw [← hdropped.pool_node]
    exact ⟨hdropped.alike h₁.1, h₁.2⟩

/-- Where provisioning on a node gets its pages: nothing that it needs has failed, the node is that
of the pool, and the pages are free, or nobody else has pages and as many can be allocated as are
missing. -/
structure Obtains (pages : ℕ) (node : UInt16) (pool : NodePool) (log : HugeLog) : Prop where
  sound : log.Sound
  node_eq : node = pool.node
  enough : pages ≤ pool.free ∨ pool.inUse = 0 ∧ pages ≤ pool.total + log.granted

/-- The pages are free in the end exactly if they were, or could be allocated. -/
lemma Accounted.le_free (h : Accounted pages w₀ w) : pages ≤ w.pool.free ↔
    pages ≤ w₀.pool.free ∨ w₀.pool.inUse = 0 ∧ pages ≤ w₀.pool.total + w.log.granted := by
  rw [h.pool, NodePool.le_free_raisedTo]

lemma ends_attemptRaise_logged {rt : VmRuntime} {pages : UInt64} (attempts : List ℕ)
    (counters : ℕ × ℕ) (t : (HugepageRecord × List CoreEvent) × HugeWorld (V × HugeLog))
    (ht : Accounted pages.toNat w₀ t.2) (hsound : t.2.log.Sound)
    (hlast : attempts = [] → ¬pages.toNat ≤ t.2.pool.free) :
    Ends (os.logged.files.attemptRaise rt node pages attempts counters) t
      (fun _ t' => Accounted pages.toNat w₀ t'.2 ∧ t'.1.1.active = true ∧
        Obtains pages.toNat node w₀.pool t'.2.log)
      fun _ t' => Accounted pages.toNat w₀ t'.2 ∧ t'.1 = t.1 ∧
        ¬Obtains pages.toNat node w₀.pool t'.2.log := by
  induction attempts generalizing t counters with
  | nil => exact ⟨ht, rfl, fun h => hlast rfl (ht.le_free.mpr h.enough)⟩
  | cons attempt attempts ih =>
      rw [NodeFiles.attemptRaise, ends_bind, NodeFiles.onHost]
      refine ends_zoom.mpr ((ends_raisePool_logged ht hsound).mono (fun counters' w h => ?_)
        fun _ w h => ⟨h.1, rfl, fun h' => h.2 ⟨h'.sound, h'.node_eq⟩⟩)
      obtain ⟨haccount, hsound', hnode, hfree⟩ := h
      rw [hfree]
      split_ifs with henough
      · exact ⟨haccount, rfl, hsound', hnode, haccount.le_free.mp henough⟩
      · exact ih counters' (t.1, w) haccount hsound' fun _ => henough

lemma ends_provisionOn_logged {rt : VmRuntime}
    (t : (HugepageRecord × List CoreEvent) × HugeWorld (V × HugeLog)) (h : t.2.log = []) :
    let pages := rt.cfg.qemu.requiredPages.toNat
    Ends (os.logged.files.provisionOn rt node) t
      (fun _ t' => Accounted pages t.2 t'.2 ∧ t'.1.1.active = true ∧
        Obtains pages node t.2.pool t'.2.log)
      fun _ t' => Accounted pages t.2 t'.2 ∧ t'.1 = t.1 ∧
        ¬Obtains pages node t.2.pool t'.2.log := by
  intro pages
  rw [NodeFiles.provisionOn, ends_bind, NodeFiles.onHost]
  refine ends_zoom.mpr ((ends_ensureMount_logged h).mono (fun _ w h₁ => ?_)
    fun _ w h₁ => ⟨h₁.1, rfl, fun h' => h₁.2 h'.sound⟩)
  obtain ⟨haccount, hsound, hnotRaised⟩ := h₁
  rw [ends_bind, NodeFiles.onHost]
  refine ends_zoom.mpr ((ends_counters_logged w).mono (fun counters w' h₂ => ?_) fun _ w' h₂ => ?_)
  · obtain ⟨halike, hsound', hnode, rfl⟩ := h₂
    have haccount' : Accounted pages t.2 w' := haccount.alike halike
    have hpool : w.pool = t.2.pool := haccount.pool_eq hnotRaised
    rw [hpool] at hnode ⊢
    split_ifs with henough
    · exact ⟨haccount', rfl, hsound'.mpr hsound, hnode, .inl henough⟩
    · exact ends_attemptRaise_logged [1, 2, 3] _ (t.1, w') haccount' (hsound'.mpr hsound)
        fun hnil => by cases hnil
  · refine ⟨haccount.alike h₂.1, rfl, fun h' => h₂.2 ⟨h'.sound, ?_⟩⟩
    exact h'.node_eq.trans haccount.pool_node.symm

end

/-- Provisioning has raised the pool or mounted hugetlbfs. -/
def HugeLog.Touched (log : HugeLog) : Prop := log.Raised ∨ log.Did .Mount

/-- What a log of provisioning says of the host before and after. -/
structure HugeLog.Tells (log : HugeLog) (w w' : HugeWorld V) : Prop where
  mounts_le : w'.mounts ≤ w.mounts + 1
  mounts_lt : w.mounts < w'.mounts ↔ log.Did .Mount
  total_lt : w.pool.total < w'.pool.total ↔ log.Raised
  marker : w'.marker = true ↔ w.marker = true ∨ log.Did .WriteMarker

lemma Accounted.tells {pages : ℕ} {w₀ w : HugeWorld (V × HugeLog)} (h : Accounted pages w₀ w) :
    w.log.Tells w₀.bare w.bare :=
  ⟨h.mounts_le, h.mounts_lt, h.total_lt, h.marker⟩

/-- A node is selected, and provisioning on it gets its pages. -/
def HugepageCalls.Obtained (os : HugepageCalls V) (rt : VmRuntime)
    (t : (HugepageRecord × List CoreEvent) × HugeWorld V) : Prop :=
  ∃ node, selectHugepageNode rt.cfg (os.nodeEntries t.2.rest) = .ok node ∧
    Obtains rt.cfg.qemu.requiredPages.toNat node t.2.pool (os.answers rt t)

/-- **Provisioning** returns with an active record where it gets its pages, and fails elsewhere;
what it has done to the host is in the log. -/
theorem ends_provisionForVm_answers (os : HugepageCalls V) (rt : VmRuntime)
    (t : (HugepageRecord × List CoreEvent) × HugeWorld V) :
    let log := os.answers rt t
    Ends (os.provisionForVm rt) t
      (fun _ t' => log.Tells t.2 t'.2 ∧ (log.Touched → t'.1.1.active = true ∧ os.Obtained rt t))
      fun _ t' => log.Tells t.2 t'.2 ∧ t'.1 = t.1 ∧ ¬os.Obtained rt t := by
  intro log
  let pages := rt.cfg.qemu.requiredPages.toNat
  let ObtainedWith : HugeLog → Prop := fun log =>
    ∃ node, selectHugepageNode rt.cfg (os.nodeEntries t.2.rest) = .ok node ∧
      Obtains pages node t.2.pool log
  have hstart : Accounted pages t.2.fresh t.2.fresh := .start rfl
  -- the run on the host with the log
  have hlogged : Ends (os.logged.provisionForVm rt) (t.1, t.2.fresh)
      (fun _ t' => Accounted pages t.2.fresh t'.2 ∧
        (t'.2.log.Touched → t'.1.1.active = true ∧ ObtainedWith t'.2.log))
      fun _ t' => Accounted pages t.2.fresh t'.2 ∧ t'.1 = t.1 ∧ ¬ObtainedWith t'.2.log := by
    rw [HugepageCalls.provisionForVm, NodeFiles.provisionForVm]
    split_ifs
    · rw [ends_bind, ends_selectNode, ends_fromExcept]
      have hentries : os.logged.nodeEntries t.2.fresh.rest = os.nodeEntries t.2.rest := rfl
      rw [hentries]
      cases hnode : selectHugepageNode rt.cfg (os.nodeEntries t.2.rest) with
      | error e =>
          refine ⟨hstart, rfl, ?_⟩
          rintro ⟨node, hselect, -⟩
          rw [hnode] at hselect
          cases hselect
      | ok node =>
          refine (ends_provisionOn_logged (t.1, t.2.fresh) rfl).mono (fun _ t' h => ?_)
            fun _ t' h => ⟨h.1, h.2.1, ?_⟩
          · exact ⟨h.1, fun _ => ⟨h.2.1, node, hnode, h.2.2⟩⟩
          · rintro ⟨node', hselect, hobtains⟩
            obtain rfl : node = node' := by simpa [hnode] using hselect
            exact h.2.2 hobtains
    · refine ⟨hstart, ?_⟩
      rintro (hraised | ⟨_, hmount⟩)
      · exact absurd hraised (lt_irrefl 0)
      · exact absurd hmount List.not_mem_nil
  have hrelated : UnloggedRun t (t.1, t.2.fresh) := ⟨rfl, rfl⟩
  refine ((simulates_provisionForVm rt).ends hrelated hlogged).mono ?_ ?_
  · rintro - t' ⟨u, ⟨hrecord, hhost⟩, hfinal, haccount, htouched⟩
    have hlog : u.2.log = log := by rw [← hfinal]; rfl
    have htells := haccount.tells
    rw [hlog] at htells htouched
    rw [show u.2.bare = t'.2 from hhost] at htells
    rw [hrecord] at htouched
    exact ⟨htells, htouched⟩
  · rintro - t' ⟨u, ⟨hrecord, hhost⟩, hfinal, haccount, hkept, hnot⟩
    have hlog : u.2.log = log := by rw [← hfinal]; rfl
    have htells := haccount.tells
    rw [hlog] at htells hnot
    rw [show u.2.bare = t'.2 from hhost] at htells
    exact ⟨htells, hrecord.symm.trans hkept, hnot⟩

end Chalybs
