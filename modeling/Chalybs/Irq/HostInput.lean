import Chalybs.Irq.Badge

/-!
# The monitor of a VM that was stopped

The shutdown switches the monitor to the host, and the worker switches it to the VM when it has
done its last device.  The worker looks whether QEMU exists only before each pass, so a pass that
begins while it does may end after the shutdown has switched the monitor back.

* `InputRestored` — nothing switches to the VM after the hook of the shutdown, and for a VM past
  the hook the last command was that of the hook.
* `WorkerPoint.MayFinish` — the worker may come to the switch without another look at QEMU.
* `InTime` — the hook does not run while the worker may finish, and later tests find QEMU gone.
* `inputRestored_inTime` — that keeps the monitor with the host, and nothing less does.
-/

namespace Chalybs

open Foundation

variable {V : Type}

/-- The hook of the shutdown has sent its command. -/
def HookRun (s : IrqState V) : Prop := ∃ c ∈ s.2.ddc, c.phase = .VmDown

/-- The commands to the monitor are those of the configuration, none of them switches to the VM
after the hook of the shutdown has run, and the last one for a VM that has left the Shutdown state
is that of the hook. -/
structure InputRestored (cfg : VmConfig) (s : IrqState V) : Prop where
  sent : ∀ c ∈ s.2.ddc, ∃ ddc, cfg.ddc = some ddc ∧ c = ddc.command c.phase
  order : s.2.ddc.Pairwise fun c c' => c.phase = .VmDown → c'.phase = .VmDown
  last : s.1.sm.state.PastHooks → ∀ ddc, cfg.ddc = some ddc →
    s.2.ddc.getLast? = some (ddc.command .VmDown)

/-- The worker may come to the switch without another look at QEMU: it is in a pass, and has done
every device that it has come to. -/
def WorkerPoint.MayFinish : WorkerPoint → Prop
  | .Scan scanned _ => ∀ item ∈ scanned, item.done = true
  | .Finish _ => True
  | .Entry | .Check _ | .Returned _ => False

/-- The worker of the state may finish. -/
def MayFinish (s : IrqState V) : Prop := ∃ w, s.2.worker = some w ∧ w.point.MayFinish

/-- The hook is not run while the worker may finish, and a test that the worker makes afterwards
finds that QEMU is gone. -/
def InTime (sys : DeviceSysfs) (s : IrqState V) : IrqOp V → Prop
  | .Tick env os => HookRun (applyIrq sys s (.Tick env os)) → ¬ MayFinish s
  | .WorkerStep os => HookRun s → ∀ w items, s.2.worker = some w → w.point = .Check items →
      os.processExists w.qemuPid s.2.rest = false
  | .Start | .Stop => True

/-! ## In time -/

section

variable {sys : DeviceSysfs} {cfg : VmConfig} {cpus : VmCpuLayout} {s : IrqState V}

/-- A worker that may not finish does not come to it while QEMU is gone, and sends nothing. -/
lemma not_mayFinish_moves {w : IrqWorker} {alive : Bool} {p p' : WorkerPoint}
    {added : List DdcCommand} (h : Moves sys w alive p added p') (hp : ¬ p.MayFinish)
    (hgone : ∀ items, p = .Check items → alive = false) : ¬ p'.MayFinish ∧ added = [] := by
  cases h with
  | skips | enters | aborts | repeats | rests => exact ⟨id, rfl⟩
  | finds halive => cases halive.symm.trans (hgone _ rfl)
  | scans => exact ⟨fun h => hp fun item hitem => h item (List.mem_append_left _ hitem), rfl⟩
  | finishes hdone => exact absurd hdone hp
  | switches => exact absurd trivial hp

/-- A step that sends nothing and does not run the hook keeps the monitor as it is. -/
lemma InputRestored.quiet {s' : IrqState V} (hs : InputRestored cfg s) (hddc : s'.2.ddc = s.2.ddc)
    (hpast : s'.1.sm.state.PastHooks → s.1.sm.state.PastHooks) : InputRestored cfg s' where
  sent := by rw [hddc]; exact hs.sent
  order := by rw [hddc]; exact hs.order
  last h := by rw [hddc]; exact hs.last (hpast h)

/-- The hook of the shutdown may run again at any time. -/
lemma InputRestored.hook {s' : IrqState V} (hs : InputRestored cfg s) (hinv : IrqInv cfg cpus s')
    (hddc : s'.2.ddc = s.2.ddc ∨ s'.2.ddc = s.2.ddc ++ cfg.downCommands)
    (hleft : s'.1.sm.state ≠ .Shutdown → s'.2.ddc = s.2.ddc ++ cfg.downCommands) :
    InputRestored cfg s' where
  sent := hinv.sent
  order := by
    rcases hddc with hddc | hddc <;> rw [hddc]
    · exact hs.order
    · refine List.pairwise_append.mpr ⟨hs.order, ?_, fun c _ c' hc' _ => (mem_downCommands hc').1⟩
      rw [VmConfig.downCommands]
      cases cfg.ddc <;> simp
  last hpast ddc hsome := by
    rw [hleft (by rintro h; rw [h] at hpast; exact absurd hpast (by decide)),
      VmConfig.downCommands, hsome]
    simp

/-- The switch to the VM may come before the hook has run. -/
lemma InputRestored.switch {s' : IrqState V} (hs : InputRestored cfg s)
    (hinv : IrqInv cfg cpus s') (hbefore : ¬ HookRun s)
    (hvm : s'.1 = s.1) (hddc : s'.2.ddc = s.2.ddc ++ cfg.upCommands) : InputRestored cfg s' where
  sent := hinv.sent
  order := by
    rw [hddc]
    refine List.pairwise_append.mpr ⟨hs.order, ?_, fun c hc _ _ h => absurd ⟨c, hc, h⟩ hbefore⟩
    rw [VmConfig.upCommands]
    cases cfg.ddc <;> simp
  last hpast ddc hsome := by
    rw [hvm] at hpast
    exact absurd ⟨_, List.mem_of_getLast? (hs.last hpast ddc hsome), rfl⟩ hbefore

/-- What holds in a run whose events are in time. -/
structure Restoring (cfg : VmConfig) (cpus : VmCpuLayout) (s : IrqState V) : Prop where
  inv : IrqInv cfg cpus s
  restored : InputRestored cfg s
  quiet : HookRun s → ¬ MayFinish s

/-- A step of the worker keeps the monitor with the host: after the hook has run it sends nothing,
and before it may switch. -/
lemma Restoring.works {s' : IrqState V} (hs : Restoring cfg cpus s) {w : IrqWorker} {alive : Bool}
    {added : List DdcCommand} {point : WorkerPoint} (hold : s.2.worker = some w)
    (hinv : IrqInv cfg cpus s') (hvm : s'.1 = s.1) (hworker : s'.2.worker = some { w with point })
    (hddc : s'.2.ddc = s.2.ddc ++ added) (hmoves : Moves sys w alive w.point added point)
    (hgone : HookRun s → ∀ items, w.point = .Check items → alive = false) :
    Restoring cfg cpus s' := by
  have hadded := added_moves hmoves
  rw [(hs.inv.args w hold).1] at hadded
  by_cases hrun : HookRun s
  · -- the worker sees that QEMU is gone
    have hidle : ¬ w.point.MayFinish := fun h => hs.quiet hrun ⟨w, hold, h⟩
    obtain ⟨hidle', rfl⟩ := not_mayFinish_moves hmoves hidle (hgone hrun)
    rw [List.append_nil] at hddc
    refine ⟨hinv, hs.restored.quiet hddc (by rw [hvm]; exact id), fun _ => ?_⟩
    rintro ⟨w', hw', hfinish⟩
    obtain rfl := Option.some.inj (hworker.symm.trans hw')
    exact hidle' hfinish
  · rcases hadded with rfl | ⟨-, rfl⟩
    · rw [List.append_nil] at hddc
      refine ⟨hinv, hs.restored.quiet hddc (by rw [hvm]; exact id), fun hrun' => ?_⟩
      rw [HookRun, hddc] at hrun'
      exact absurd hrun' hrun
    · refine ⟨hinv, hs.restored.switch hinv hrun hvm hddc, fun hrun' => ?_⟩
      rw [HookRun, hddc] at hrun'
      obtain ⟨c, hc, hphase⟩ := hrun'
      rcases List.mem_append.mp hc with hc | hc
      · exact absurd ⟨c, hc, hphase⟩ hrun
      · cases (mem_upCommands hc).1.symm.trans hphase

/-- **One event in time** keeps the monitor with the host. -/
lemma Restoring.applyIrq (hs : Restoring cfg cpus s) {op : IrqOp V} (hop : InTime sys s op) :
    Restoring cfg cpus (applyIrq sys s op) := by
  have hinv : IrqInv cfg cpus (Chalybs.applyIrq sys s op) := hs.inv.applyIrq sys op
  have hsame : (Chalybs.applyIrq sys s op).2.worker = s.2.worker →
      (Chalybs.applyIrq sys s op).2.ddc = s.2.ddc →
      HookRun (Chalybs.applyIrq sys s op) → ¬ MayFinish (Chalybs.applyIrq sys s op) := by
    intro hworker hddc hrun
    rw [MayFinish, hworker]
    exact hs.quiet (by rwa [HookRun, hddc] at hrun)
  rcases evolves_applyIrq sys hs.inv.gate op with
    ⟨-, -, hworker, hddc, -, hmove⟩ | ⟨-, hstate, hstate', hworld, -⟩ |
    ⟨-, -, hstate', hworld, -⟩ | ⟨⟨env, os, rfl⟩, -, -, hworker, hddc, hleft, -⟩ |
    ⟨rfl, hold, hvm, hworker, hddc, hmoves⟩
  · exact ⟨hinv, hs.restored.quiet hddc hmove.pastHooks, hsame hworker hddc⟩
  · refine ⟨hinv, hs.restored.quiet (by rw [hworld]; rfl) fun h => ?_, fun _ => ?_⟩
    · rw [hstate'] at h
      exact absurd h (by decide)
    · -- the worker that is spawned has not begun
      rintro ⟨w, hw, hfinish⟩
      have hnone := hs.inv.early (by rw [hstate])
      rw [hworld, worker_spawn hnone] at hw
      obtain ⟨-, -, -, hpoint⟩ := args_of_spawn hw
      rw [hpoint] at hfinish
      exact hfinish
  · refine ⟨hinv, hs.restored.quiet (by rw [hworld]) fun h => ?_,
      hsame (by rw [hworld]) (by rw [hworld])⟩
    rw [hstate'] at h
    exact absurd h (by decide)
  · rw [hs.inv.sameCfg] at hddc hleft
    refine ⟨hinv, hs.restored.hook hinv hddc hleft, fun hrun => ?_⟩
    rw [MayFinish, hworker]
    exact hop hrun
  · rename_i os w added point
    exact hs.works hold hinv hvm hworker hddc hmoves fun hrun items => hop hrun w items hold

end

/-! ## Too late -/

/-- Every device shows its interrupts, and QEMU is gone. -/
def findingCalls (V : Type) : IrqCalls V where
  publishPower _ _ := pure ()
  sendDdcSetInput _ _ _ := pure ()
  processExists _ _ := false
  msiIrqs _ _ := some ["24"]
  pathExists _ _ := true
  writeFile _ _ := pure ()

section

variable {sys : DeviceSysfs} {cfg : VmConfig} {cpus : VmCpuLayout} {s : IrqState V}

lemma scanDevice_finding (item : DeviceWork) (v : V) :
    ((findingCalls V).scanDevice item v).1.done = true := by
  rw [IrqCalls.scanDevice]
  split_ifs with hdone
  · exact hdone
  · have hirqs : (findingCalls V).deviceIrqsBestEffort item.dev v = [24] := rfl
    rw [hirqs]

/-- **A worker that may finish** does, if the devices it has not come to show their interrupts. -/
lemma exists_finish (sys : DeviceSysfs) {w : IrqWorker} (hw : s.2.worker = some w)
    (hfinish : w.point.MayFinish) :
    ∃ n, (run (applyIrq sys) s (List.replicate n (.WorkerStep (findingCalls V)))).2.ddc =
      s.2.ddc ++ w.vmCfg.upCommands := by
  obtain ⟨vmCpus, devices, qemuPid, vmCfg, point⟩ := w
  cases point with
  | Entry | Check items | Returned items => exact hfinish.elim
  | Finish items =>
      refine ⟨1, ?_⟩
      show (applyIrq sys s (.WorkerStep (findingCalls V))).2.ddc = _
      rw [applyIrq, hw]
      exact ddc_afterPinning vmCfg (s.2.ddc, s.2.rest)
  | Scan scanned rest =>
      induction rest generalizing scanned s with
      | nil =>
          refine ⟨2, ?_⟩
          have hall : scanned.all DeviceWork.done = true := List.all_eq_true.mpr hfinish
          have hfirst : (applyIrq sys s (.WorkerStep (findingCalls V))) =
              (s.1, ⟨some ⟨vmCpus, devices, qemuPid, vmCfg, .Finish scanned⟩, s.2.ddc,
                s.2.rest⟩) := by
            rw [applyIrq, hw]
            simp only [IrqCalls.workerStep, hall, if_true]
          show (applyIrq sys (applyIrq sys s (.WorkerStep (findingCalls V)))
            (.WorkerStep (findingCalls V))).2.ddc = _
          rw [hfirst]
          exact ddc_afterPinning vmCfg (s.2.ddc, s.2.rest)
      | cons item rest ih =>
          have hnext := scanDevice_finding item s.2.rest
          generalize hscan : (findingCalls V).scanDevice item s.2.rest = r at hnext
          have hstep : applyIrq sys s (.WorkerStep (findingCalls V)) =
              (s.1, ⟨some ⟨vmCpus, devices, qemuPid, vmCfg, .Scan (scanned ++ [r.1]) rest⟩,
                s.2.ddc, r.2⟩) := by
            rw [applyIrq, hw]
            simp only [IrqCalls.workerStep, hscan]
          obtain ⟨n, hn⟩ := ih (s := applyIrq sys s (.WorkerStep (findingCalls V)))
            (scanned ++ [r.1]) (by rw [hstep]) fun item' hitem' => by
              rcases List.mem_append.mp hitem' with h | h
              · exact hfinish item' h
              · rw [List.mem_singleton.mp h]
                exact hnext
          refine ⟨n + 1, ?_⟩
          rw [List.replicate_succ, run_cons, hn, hstep]

/-- A worker that may finish after the hook has run can switch the monitor to the VM. -/
lemma breaks_of_mayFinish (sys : DeviceSysfs) (hinv : IrqInv cfg cpus s) (hrun : HookRun s)
    (hfinish : MayFinish s) : ∃ n, ¬ InputRestored cfg
      (run (applyIrq sys) s (List.replicate n (.WorkerStep (findingCalls V)))) := by
  obtain ⟨w, hw, hpoint⟩ := hfinish
  obtain ⟨n, hn⟩ := exists_finish sys hw hpoint
  refine ⟨n, fun hrestored => ?_⟩
  obtain ⟨c, hc, hphase⟩ := hrun
  obtain ⟨ddc, hsome, -⟩ := hinv.sent c hc
  have horder := hrestored.order
  rw [hn, (hinv.args w hw).1, VmConfig.upCommands, hsome] at horder
  have hafter := (List.pairwise_append.mp horder).2.2 c hc (ddc.command .IrqComplete) (by simp)
    hphase
  cases hafter

/-- An event that is not in time leaves the worker able to finish after the hook. -/
lemma mayFinish_of_not_inTime (hinv : IrqInv cfg cpus s) {op : IrqOp V} (hop : ¬ InTime sys s op) :
    HookRun (applyIrq sys s op) ∧ MayFinish (applyIrq sys s op) := by
  cases op with
  | Start | Stop => exact absurd trivial hop
  | Tick env os =>
      rw [InTime, Classical.not_imp, not_not] at hop
      obtain ⟨hrun, w, hw, hfinish⟩ := hop
      refine ⟨hrun, w, ?_, hfinish⟩
      rcases evolves_applyIrq sys hinv.gate (.Tick env os) with
        ⟨-, -, hworker, -, -, -⟩ | ⟨-, hstate, -, -, -⟩ | ⟨-, -, -, hworld, -⟩ |
        ⟨-, -, -, hworker, -, -, -⟩ | ⟨hop, -, -, -, -, -⟩
      · rw [hworker, hw]
      · rw [hinv.early (by rw [hstate])] at hw
        cases hw
      · rw [hworld, hw]
      · rw [hworker, hw]
      · cases hop
  | WorkerStep os =>
      simp only [InTime, not_forall, Bool.not_eq_false] at hop
      obtain ⟨hrun, w, items, hw, hpoint, halive⟩ := hop
      have hstep : applyIrq sys s (.WorkerStep os) =
          (s.1, ⟨some { w with point := .Scan [] items }, s.2.ddc, s.2.rest⟩) := by
        rw [applyIrq, hw]
        simp only [IrqCalls.workerStep, hpoint, halive, if_true]
      rw [hstep]
      exact ⟨hrun, _, rfl, fun _ h => by cases h⟩

end

/-! ## Runs -/

/-- **When the monitor stays with the host.**  In every run whose events are in time, nothing
switches the monitor to the VM after the hook of the shutdown, and the last command for a VM past
the hook is that of the hook.  After an event that is not in time, steps of the worker alone can
break that. -/
theorem inputRestored_inTime (sys : DeviceSysfs) (name : String) (cfg : VmConfig)
    (cpus : VmCpuLayout) (rest : V) (events : List (IrqOp V)) :
    let s := freshIrq name cfg cpus rest
    (Along (applyIrq sys) (InTime sys) s events → ∀ pre, pre <+: events →
        InputRestored cfg (run (applyIrq sys) s pre)) ∧
      ∀ op, ¬ InTime sys (run (applyIrq sys) s events) op →
        ∃ os n, ¬ InputRestored cfg
          (run (applyIrq sys) s (events ++ op :: List.replicate n (.WorkerStep os))) := by
  intro s
  have hinv : IrqInv cfg cpus s := irqInv_fresh name rest
  have hs : Restoring cfg cpus s := by
    refine ⟨hinv, ⟨hinv.sent, List.Pairwise.nil, fun h => ?_⟩, fun h => ?_⟩
    · exact absurd h (show ¬ VmState.Init.PastHooks by decide)
    · obtain ⟨c, hc, -⟩ := h
      cases hc
  refine ⟨?_, fun op hop => ?_⟩
  · rintro hin pre ⟨post, rfl⟩
    have hpre : Along (applyIrq sys) (InTime sys) s pre := hin.of_prefix ⟨post, rfl⟩
    exact (run_invariant_along (fun _ _ ht hop => ht.applyIrq hop) hs hpre).restored
  · have hlast : IrqInv cfg cpus (run (applyIrq sys) s events) :=
      run_invariant (fun _ op ht => ht.applyIrq sys op) hinv events
    obtain ⟨hrun, hfinish⟩ := mayFinish_of_not_inTime hlast hop
    obtain ⟨n, hn⟩ := breaks_of_mayFinish sys (hlast.applyIrq sys op) hrun hfinish
    refine ⟨findingCalls V, n, ?_⟩
    rw [run_append, run_cons]
    exact hn

/-! ## A switch after the shutdown -/

/-- The VM with one GPU, and a monitor that it shares with the host. -/
def sharedMonitorVm : VmConfig :=
  { oneGpuVm with
    peripherals := some {
      ddc := some { monitorI2cBus := 4, vmInput := 0x0f, hostInput := 0x11 } } }

/-- The worker begins a pass in Steady; the VM is stopped before it comes to the GPU, which shows
its interrupts only then.  In Idle the monitor shows the VM. -/
theorem switch_after_shutdown :
    let tick : IrqOp Unit := .Tick { idleEnv Unit with host := recordingHost } waitingCalls
    let events : List (IrqOp Unit) := List.replicate 11 tick ++
      [.WorkerStep waitingCalls, .WorkerStep waitingCalls, .Stop] ++ List.replicate 3 tick ++
      List.replicate 3 (.WorkerStep (findingCalls Unit))
    let stopped := run (applyIrq flatSysfs)
      (freshIrq "a" sharedMonitorVm ⟨⟨[0]⟩, ⟨[1]⟩⟩ ()) events
    stopped.1.sm.state = .Idle ∧ ¬ InputRestored sharedMonitorVm stopped := by
  refine ⟨by decide, fun hrestored => ?_⟩
  have hlast := hrestored.last (by decide) ⟨4, 0x0f, 0x11, false⟩ rfl
  revert hlast
  decide

end Chalybs
