import Chalybs.Tui.Session

/-!
# The health of the daemon

`update_daemon_health` (`tui/src/app.rs`) infers the health of the daemon from the texts of the
events, whoever has written them.

* `Health.after`, `App.health_pushEvents` — the update, as a machine that reads a verdict on each
  batch.
* `Session.health_run` — the health in a session whose connection stays open.
* `Origin.ConcernsDaemon` — the events that concern the daemon, by who reports them.
* `HealthLaw` — what the health is meant to say; `Quiet`, `healthLaw_iff`, `health_of_session` —
  when it does.
-/

namespace Chalybs.Tui

open Foundation

/-! ## The machine -/

/-- The health, and the number of batches without a complaint. -/
structure Health where
  health : DaemonHealth
  cleanRuns : ℕ
  deriving DecidableEq, Repr

/-- What a batch is taken for. -/
inductive Verdict
  | Lost
  | Complaint
  | Clean
  deriving DecidableEq, Repr

def verdict (newEvents : List AppEvent) : Verdict :=
  if newEvents.any AppEvent.signalsDisconnect then .Lost
  else if newEvents.any AppEvent.complains then .Complaint
  else .Clean

/-- The health after a batch. -/
def Health.after (h : Health) : Verdict → Health
  | .Lost => ⟨.Disconnected, 0⟩
  | .Complaint => ⟨if h.health = .Healthy then .Degraded else h.health, 0⟩
  | .Clean =>
      if h.health = .Disconnected then h
      else
        ⟨if h.health = .Degraded ∧ 6 ≤ min (h.cleanRuns + 1) 255 then .Healthy else h.health,
          min (h.cleanRuns + 1) 255⟩

/-- The loop over the events finds a disconnect if there is one, and else a complaint if there is
one. -/
lemma scanEvents_eq (saw : Bool) (events : List AppEvent) :
    (scanEvents saw events).2 = events.any AppEvent.signalsDisconnect ∧
      (events.any AppEvent.signalsDisconnect = false →
        (scanEvents saw events).1 = (saw || events.any AppEvent.complains)) := by
  induction events generalizing saw with
  | nil => exact ⟨rfl, fun _ => (Bool.or_false saw).symm⟩
  | cons evt rest ih =>
      rw [scanEvents, List.any_cons, List.any_cons]
      split_ifs with hevt
      · rw [hevt]
        exact ⟨rfl, fun h => absurd h (by simp)⟩
      · rw [Bool.not_eq_true] at hevt
        rw [hevt, Bool.false_or, ← Bool.or_assoc]
        exact ih (saw || evt.complains)

namespace App

/-- What the TUI takes the health to be. -/
def health (app : App) : Health := ⟨app.daemonHealth, app.daemonHealthCleanRuns⟩

lemma health_cleanRun (app : App) : app.cleanRun.health = app.health.after .Clean := by
  have hhealth : app.health.health = app.daemonHealth := rfl
  by_cases hlost : app.daemonHealth = .Disconnected
  · rw [cleanRun, if_pos hlost, Health.after, if_pos (hhealth.trans hlost)]
  · rw [cleanRun, if_neg hlost, Health.after, if_neg (hhealth ▸ hlost)]
    rfl

/-- **The update** is a step of the machine. -/
theorem health_updateDaemonHealth (app : App) (newEvents : List AppEvent) :
    (app.updateDaemonHealth newEvents).health = app.health.after (verdict newEvents) := by
  obtain ⟨hdisconnect, hcomplaint⟩ := scanEvents_eq false newEvents
  simp only [updateDaemonHealth, hdisconnect]
  by_cases hempty : newEvents = []
  · subst hempty
    exact health_cleanRun app
  · rw [if_neg (by simpa using hempty), verdict]
    by_cases hlost : newEvents.any AppEvent.signalsDisconnect = true
    · rw [if_pos hlost, if_pos hlost]
      rfl
    · rw [if_neg hlost, if_neg hlost, hcomplaint (by simpa using hlost), Bool.false_or]
      by_cases hcomplains : newEvents.any AppEvent.complains = true
      · rw [if_pos hcomplains, if_pos hcomplains]
        rfl
      · rw [if_neg hcomplains, if_neg hcomplains]
        exact health_cleanRun app

/-- The rest of `push_events` leaves the health as it is. -/
lemma health_pushEvents (app : App) (newEvents : List AppEvent) :
    (app.pushEvents newEvents).health = app.health.after (verdict newEvents) := by
  rw [← health_updateDaemonHealth, pushEvents]
  split_ifs
  all_goals rfl

/-- So do the keys. -/
lemma health_apply (app : App) {op : AppOp} (hop : ∀ newEvents, op ≠ .PushEvents newEvents) :
    (app.apply op).health = app.health := by
  obtain ⟨_, _, _, heq, -⟩ := app.apply_key hop
  rw [heq]
  rfl

end App

/-! ## Batches with their origins -/

/-- A batch, as events from some origins. -/
def Health.push (h : Health) (batch : List Origin) : Health :=
  h.after (verdict (batch.map Origin.render))

/-- An error or a warning that concerns the daemon: the TUI makes it of its connection to the
daemon, or the daemon reports it and puts its own name in front.  What is said of a VM, and the
answers to commands of the TUI, do not concern it. -/
def Origin.ConcernsDaemon : Origin → Prop
  | .Global event =>
      (event.kind = .Error ∨ event.kind = .Warning) ∧ "daemon:".toList <+: event.message.toList
  | .Ipc event => event.kind = .Error ∨ event.kind = .Warning
  | .Vm _ _ | .Command _ => False

instance (o : Origin) : Decidable o.ConcernsDaemon :=
  match o with
  | .Global _ => inferInstanceAs (Decidable (_ ∧ _))
  | .Ipc _ => inferInstanceAs (Decidable (_ ∨ _))
  | .Vm _ _ => .isFalse id
  | .Command _ => .isFalse id

/-- The name of a VM is taken for the daemon. -/
example : (Origin.Global ⟨.Error, "vm daemon-vm: not found in configuration"⟩).render.complains ∧
    ¬ (Origin.Global ⟨.Error, "vm daemon-vm: not found in configuration"⟩).ConcernsDaemon := by
  decide

/-- An event that concerns the daemon, without one of the words that the TUI looks for. -/
def Origin.Missed (o : Origin) : Prop := o.ConcernsDaemon ∧ o.render.complains = false

instance (o : Origin) : Decidable o.Missed := inferInstanceAs (Decidable (_ ∧ _))

lemma verdict_eq_lost_iff {batch : List Origin} :
    verdict (batch.map Origin.render) = .Lost ↔
      ∃ o ∈ batch, o.render.signalsDisconnect = true := by
  rw [verdict]
  split_ifs with hlost
  · simpa using hlost
  · simpa using hlost
  · simpa using hlost

lemma verdict_eq_complaint_iff {batch : List Origin} :
    verdict (batch.map Origin.render) = .Complaint ↔
      (∀ o ∈ batch, o.render.signalsDisconnect = false) ∧
        ∃ o ∈ batch, o.render.complains = true := by
  rw [verdict]
  split_ifs with hlost hcomplains
  · refine iff_of_false (by simp) ?_
    rintro ⟨hnone, -⟩
    obtain ⟨o, ho, hsignals⟩ : ∃ o ∈ batch, o.render.signalsDisconnect = true := by
      simpa using hlost
    exact absurd (hnone o ho) (by simp [hsignals])
  · refine iff_of_true rfl ⟨by simpa using hlost, by simpa using hcomplains⟩
  · refine iff_of_false (by simp) ?_
    rintro ⟨-, hsome⟩
    exact hcomplains (by simpa using hsome)

lemma verdict_eq_clean_iff {batch : List Origin} :
    verdict (batch.map Origin.render) = .Clean ↔
      (∀ o ∈ batch, o.render.signalsDisconnect = false) ∧
        ∀ o ∈ batch, o.render.complains = false := by
  rw [verdict]
  split_ifs with hlost hcomplains
  · refine iff_of_false (by simp) fun h => ?_
    obtain ⟨o, ho, hsignals⟩ : ∃ o ∈ batch, o.render.signalsDisconnect = true := by
      simpa using hlost
    exact absurd (h.1 o ho) (by simp [hsignals])
  · refine iff_of_false (by simp) fun h => ?_
    obtain ⟨o, ho, hcomplaint⟩ : ∃ o ∈ batch, o.render.complains = true := by
      simpa using hcomplains
    exact absurd (h.2 o ho) (by simp [hcomplaint])
  · exact iff_of_true rfl ⟨by simpa using hlost, by simpa using hcomplains⟩

namespace Session

variable {codec : JsonCodec} {s : Session}

/-- A session starts with a daemon that is healthy. -/
lemma health_connect {calls : List (List ReadResult)} (h : connect codec calls = .ok s) :
    s.app.health = ⟨.Healthy, 1⟩ := by
  have hclean : verdict [⟨.System, "chalybs-tui: connected to daemon backend"⟩] = .Clean := by
    decide
  rw [connect] at h
  cases hrx : connectDefault codec ⟨[], [], {}⟩ calls with
  | error err => rw [hrx] at h; cases h
  | ok rx =>
      rw [hrx] at h
      obtain rfl := Except.ok.inj h
      rw [greet, App.health_pushEvents, hclean]
      rfl

lemma health_forward (op : SendOp) :
    (s.forward codec op).app.health = run Health.push s.app.health [[]] := by
  obtain ⟨hnone, -⟩ := Sender.handleShellCommand_appends codec ⟨s.rx.state, []⟩ op
  simp only [forward, hnone]
  exact App.health_pushEvents s.app []

/-- **The health after an operation** is what the machine makes of its batches. -/
lemma health_step (htagged : s.Tagged) {op : SessionOp} (hop : op.KeepsOpen) :
    (s.step codec op).app.health = run Health.push s.app.health (s.batches codec op) := by
  cases op with
  | OnTick reads =>
      have hevents : (s.refresh codec reads).2.2.pendingEvents =
          (s.tickBatch codec reads).map Origin.render := render_tickBatch htagged hop
      rw [batches, run_cons, run_nil, Health.push, ← hevents]
      exact App.health_pushEvents _ _
  | SubmitShellCommand op =>
      rw [step, batches]
      split_ifs
      · rfl
      · exact health_forward op
  | RequestVm verb json newline =>
      rw [step, batches]
      cases hvm : s.vmCommand verb json newline with
      | none => rfl
      | some op => exact health_forward op
  | App op =>
      cases op with
      | PushEvents newEvents =>
          have hrender : (newEvents.map Origin.Command).map Origin.render = newEvents := by
            rw [List.map_map]
            exact List.map_id newEvents
          rw [batches, run_cons, run_nil, Health.push, hrender]
          exact App.health_pushEvents s.app newEvents
      | _ => exact App.health_apply s.app fun newEvents => by simp

/-- **The health in a session** whose connection stays open is what the machine makes of the
batches. -/
theorem health_run (htagged : s.Tagged) {ops : List SessionOp} (hops : ∀ op ∈ ops, op.KeepsOpen) :
    (run (step codec) s ops).app.health =
      run Health.push s.app.health (trace (step codec) (batches codec) s ops) := by
  induction ops generalizing s with
  | nil => rfl
  | cons op ops ih =>
      obtain ⟨hop, hrest⟩ := List.forall_mem_cons.mp hops
      rw [run_cons, ih (tagged_step htagged op) hrest, health_step htagged hop, trace, run_append]

end Session

/-! ## What the health is meant to say -/

/-- The health over a run of batches: it is never that of a lost connection, it gets worse only in
a batch with an event that concerns the daemon, and better only after six batches in a row without
one. -/
structure HealthLaw (start : Health) (batches : List (List Origin)) : Prop where
  connected : ∀ pre, pre <+: batches → (run Health.push start pre).health ≠ .Disconnected
  degrades : ∀ pre batch post, batches = pre ++ batch :: post →
    (run Health.push start pre).health ≠ .Degraded →
    (run Health.push start (pre ++ [batch])).health = .Degraded → ∃ o ∈ batch, o.ConcernsDaemon
  heals : ∀ pre batch post, batches = pre ++ batch :: post →
    (run Health.push start pre).health = .Degraded →
    (run Health.push start (pre ++ [batch])).health = .Healthy →
    ∃ before clean, pre ++ [batch] = before ++ clean ∧
      (run Health.push start before).health = .Degraded ∧ 6 ≤ clean.length ∧
      ∀ b ∈ clean, ∀ o ∈ b, ¬ o.ConcernsDaemon

/-- The batches before a batch, as a run. -/
def earlier (pre : List (List Origin)) (batch : List Origin) : List (List Origin) := pre ++ [batch]

lemma run_earlier (pre : List (List Origin)) : run earlier [] pre = pre := by
  induction pre using List.reverseRecOn with
  | nil => rfl
  | append_singleton pre batch ih => rw [run_snoc, ih, earlier]

/-- The batch, after those before it: no text in it is taken for a lost connection; if it is the
first to complain, one of its events concerns the daemon; and if it is the sixth without a complaint
while the health is degraded, no event that concerns the daemon was missed in the last six. -/
structure Quiet (start : Health) (pre : List (List Origin)) (batch : List Origin) : Prop where
  connected : ∀ o ∈ batch, o.render.signalsDisconnect = false
  degrades : (run Health.push start pre).health = .Healthy →
    (∃ o ∈ batch, o.render.complains = true) → ∃ o ∈ batch, o.ConcernsDaemon
  heals : (run Health.push start pre).health = .Degraded →
    5 ≤ (run Health.push start pre).cleanRuns → (∀ o ∈ batch, o.render.complains = false) →
      ∀ b ∈ (pre ++ [batch]).rtake 6, ∀ o ∈ b, ¬ o.Missed

instance (start : Health) (pre : List (List Origin)) (batch : List Origin) :
    Decidable (Quiet start pre batch) :=
  decidable_of_iff
    ((∀ o ∈ batch, o.render.signalsDisconnect = false) ∧
      ((run Health.push start pre).health = .Healthy →
        (∃ o ∈ batch, o.render.complains = true) → ∃ o ∈ batch, o.ConcernsDaemon) ∧
      ((run Health.push start pre).health = .Degraded →
        5 ≤ (run Health.push start pre).cleanRuns → (∀ o ∈ batch, o.render.complains = false) →
          ∀ b ∈ (pre ++ [batch]).rtake 6, ∀ o ∈ b, ¬ o.Missed))
    ⟨fun h => ⟨h.1, h.2.1, h.2.2⟩, fun h => ⟨h.connected, h.degrades, h.heals⟩⟩

variable {start : Health}

lemma push_of_lost {h : Health} {batch : List Origin}
    (hlost : verdict (batch.map Origin.render) = .Lost) :
    (h.push batch).health = .Disconnected := by
  rw [Health.push, hlost]
  rfl

/-- Without a text that is taken for one, the connection is not lost. -/
lemma connected_push {h : Health} {batch : List Origin} (hopen : h.health ≠ .Disconnected)
    (hlost : verdict (batch.map Origin.render) ≠ .Lost) :
    (h.push batch).health ≠ .Disconnected := by
  rw [Health.push]
  cases hverdict : verdict (batch.map Origin.render) with
  | Lost => exact absurd hverdict hlost
  | Complaint =>
      rw [Health.after]
      split_ifs
      · simp
      · exact hopen
  | Clean =>
      rw [Health.after, if_neg hopen]
      split_ifs
      · simp
      · exact hopen

/-- The health gets worse only by a complaint, -/
lemma verdict_of_degrades {h : Health} {batch : List Origin} (hbefore : h.health ≠ .Degraded)
    (hafter : (h.push batch).health = .Degraded) :
    verdict (batch.map Origin.render) = .Complaint ∧ h.health = .Healthy := by
  rw [Health.push] at hafter
  cases hverdict : verdict (batch.map Origin.render) with
  | Lost => rw [hverdict] at hafter; cases hafter
  | Complaint =>
      rw [hverdict, Health.after] at hafter
      split_ifs at hafter with hhealthy
      · exact ⟨rfl, hhealthy⟩
      · exact absurd hafter hbefore
  | Clean =>
      rw [hverdict, Health.after] at hafter
      split_ifs at hafter
      · exact absurd hafter hbefore
      · exact absurd hafter hbefore

/-- and better only by six batches without one. -/
lemma clean_of_degraded (hstart : start.health ≠ .Degraded) (pre : List (List Origin))
    (h : (run Health.push start pre).health = .Degraded) :
    ∃ before clean, pre = before ++ clean ∧ (run Health.push start before).health = .Degraded ∧
      clean.length = (run Health.push start pre).cleanRuns ∧
      (run Health.push start pre).cleanRuns < 6 ∧
      ∀ b ∈ clean, verdict (b.map Origin.render) = .Clean := by
  induction pre using List.reverseRecOn with
  | nil => exact absurd h hstart
  | append_singleton pre batch ih =>
      rw [run_snoc, Health.push] at h ⊢
      cases hverdict : verdict (batch.map Origin.render) with
      | Lost => rw [hverdict] at h; cases h
      | Complaint =>
          refine ⟨pre ++ [batch], [], (List.append_nil _).symm, ?_, rfl, by simp [Health.after],
            fun _ hb => absurd hb List.not_mem_nil⟩
          rw [run_snoc, Health.push]
          exact h
      | Clean =>
          rw [hverdict, Health.after] at h
          split_ifs at h with hlost hheals
          · rw [h] at hlost; cases hlost
          · obtain ⟨before, clean, rfl, hbefore, hlength, hless, hclean⟩ := ih h
            have hruns : min ((run Health.push start (before ++ clean)).cleanRuns + 1) 255 =
                (run Health.push start (before ++ clean)).cleanRuns + 1 := by omega
            rw [hruns] at hheals
            refine ⟨before, clean ++ [batch], by rw [List.append_assoc], hbefore, ?_, ?_, ?_⟩
            · rw [Health.after, if_neg hlost, hruns, List.length_append, hlength]
              rfl
            · rw [Health.after, if_neg hlost, hruns]
              simp only
              have hnot : ¬ 6 ≤ (run Health.push start (before ++ clean)).cleanRuns + 1 :=
                fun hsix => hheals ⟨h, hsix⟩
              omega
            · intro b hb
              rcases List.mem_append.mp hb with hb | hb
              · exact hclean b hb
              · rw [List.mem_singleton.mp hb]
                exact hverdict

/-- **Six batches in a row** without a complaint stand before every recovery. -/
theorem six_clean_of_heals (hstart : start.health ≠ .Degraded) {pre : List (List Origin)}
    {batch : List Origin} (hbefore : (run Health.push start pre).health = .Degraded)
    (hafter : (run Health.push start (pre ++ [batch])).health = .Healthy) :
    5 ≤ (run Health.push start pre).cleanRuns ∧
      ∃ before clean, pre ++ [batch] = before ++ clean ∧
        (run Health.push start before).health = .Degraded ∧ clean.length = 6 ∧
        ∀ b ∈ clean, verdict (b.map Origin.render) = .Clean := by
  obtain ⟨before, clean, rfl, hdegraded, hlength, hless, hclean⟩ :=
    clean_of_degraded hstart pre hbefore
  rw [run_snoc, Health.push] at hafter
  have hverdict : verdict (batch.map Origin.render) = .Clean ∧
      6 ≤ (run Health.push start (before ++ clean)).cleanRuns + 1 := by
    cases hverdict : verdict (batch.map Origin.render) with
    | Lost => rw [hverdict] at hafter; cases hafter
    | Complaint =>
        rw [hverdict, Health.after, hbefore] at hafter
        simp at hafter
    | Clean =>
        rw [hverdict, Health.after] at hafter
        split_ifs at hafter with hlost hheals
        · exact absurd (hbefore.symm.trans hlost) (by simp)
        · exact ⟨rfl, hheals.2.trans (Nat.min_le_left _ _)⟩
        · exact absurd (hbefore.symm.trans hafter) (by simp)
  refine ⟨by omega, before, clean ++ [batch], by rw [List.append_assoc], hdegraded, ?_, ?_⟩
  · rw [List.length_append, hlength, List.length_singleton]
    omega
  · intro b hb
    rcases List.mem_append.mp hb with hb | hb
    · exact hclean b hb
    · rw [List.mem_singleton.mp hb]
      exact hverdict.1

/-- The sixth batch without a complaint heals. -/
lemma healthy_of_sixth {h : Health} {batch : List Origin} (hbefore : h.health = .Degraded)
    (hruns : 5 ≤ h.cleanRuns) (hclean : verdict (batch.map Origin.render) = .Clean) :
    (h.push batch).health = .Healthy := by
  have hsix : h.health = .Degraded ∧ 6 ≤ min (h.cleanRuns + 1) 255 := ⟨hbefore, by omega⟩
  rw [Health.push, hclean, Health.after, if_neg (by rw [hbefore]; simp)]
  exact if_pos hsix

/-- **The law of the health** holds over a run of batches exactly when every batch is quiet. -/
theorem healthLaw_iff (hstart : start.health = .Healthy) (batches : List (List Origin)) :
    HealthLaw start batches ↔ Along earlier (Quiet start) [] batches := by
  constructor
  · rintro ⟨hconnected, hdegrades, hheals⟩ pre batch post hsplit
    rw [run_earlier]
    have hprefix : pre ++ [batch] <+: batches := ⟨post, by rw [hsplit]; simp⟩
    have hopen : ∀ o ∈ batch, o.render.signalsDisconnect = false := by
      by_contra hsome
      push Not at hsome
      have hlost := verdict_eq_lost_iff.mpr (by simpa using hsome)
      refine hconnected (pre ++ [batch]) hprefix ?_
      rw [run_snoc]
      exact push_of_lost hlost
    refine ⟨hopen, fun hhealthy hcomplains => ?_, fun hdegraded hruns hnone b hb o ho hmissed => ?_⟩
    · have hverdict := verdict_eq_complaint_iff.mpr ⟨hopen, hcomplains⟩
      refine hdegrades pre batch post hsplit (by rw [hhealthy]; simp) ?_
      rw [run_snoc, Health.push, hverdict, Health.after, if_pos hhealthy]
    · have hhealed : (run Health.push start (pre ++ [batch])).health = .Healthy := by
        rw [run_snoc]
        exact healthy_of_sixth hdegraded hruns (verdict_eq_clean_iff.mpr ⟨hopen, hnone⟩)
      obtain ⟨before, clean, happend, -, hsix, hfree⟩ :=
        hheals pre batch post hsplit hdegraded hhealed
      rw [happend] at hb
      exact hfree b (mem_of_mem_rtake hsix hb) o ho hmissed.1
  · intro halong
    have hquiet : ∀ pre batch post, batches = pre ++ batch :: post → Quiet start pre batch := by
      intro pre batch post hsplit
      have hq := halong pre batch post hsplit
      rwa [run_earlier] at hq
    refine ⟨?_, ?_, ?_⟩
    · intro pre hpre
      obtain ⟨rest, rfl⟩ := hpre
      induction pre using List.reverseRecOn generalizing rest with
      | nil => rw [run_nil, hstart]; simp
      | append_singleton pre batch ih =>
          rw [List.append_assoc] at halong hquiet
          rw [run_snoc]
          refine connected_push (ih (batch :: rest) halong hquiet) fun hlost => ?_
          obtain ⟨o, ho, hsignals⟩ := verdict_eq_lost_iff.mp hlost
          rw [(hquiet pre batch rest rfl).connected o ho] at hsignals
          cases hsignals
    · intro pre batch post hsplit hbefore hafter
      rw [run_snoc] at hafter
      obtain ⟨hverdict, hhealthy⟩ := verdict_of_degrades hbefore hafter
      exact (hquiet pre batch post hsplit).degrades hhealthy
        (verdict_eq_complaint_iff.mp hverdict).2
    · intro pre batch post hsplit hbefore hafter
      obtain ⟨hruns, before, clean, happend, hdegraded, hsix, hclean⟩ :=
        six_clean_of_heals (by rw [hstart]; simp) hbefore hafter
      refine ⟨before, clean, happend, hdegraded, hsix.ge, fun b hb o ho hconcerns => ?_⟩
      have hlast : clean = (pre ++ [batch]).rtake 6 := by
        rw [happend, rtake_append_of_length hsix]
      have hnone : ∀ o ∈ batch, o.render.complains = false := by
        have hmem : batch ∈ clean := by
          rw [hlast, List.rtake_concat_succ]
          simp
        exact (verdict_eq_clean_iff.mp (hclean batch hmem)).2
      refine (hquiet pre batch post hsplit).heals hbefore hruns hnone b (hlast ▸ hb) o ho ?_
      exact ⟨hconcerns, (verdict_eq_clean_iff.mp (hclean b hb)).2 o ho⟩

/-- **The health in a session.**  For every session with the daemon whose connection stays open,
whatever the snapshots say: the health after each part of it is what the machine makes of the
batches so far, and it is what it is meant to be exactly when every batch is quiet. -/
theorem health_of_session (codec : JsonCodec) (calls : List (List ReadResult)) (s : Session)
    (ops : List SessionOp) (hcalls : ∀ reads ∈ calls, ∀ read ∈ reads, read.KeepsOpen)
    (hconnect : Session.connect codec calls = .ok s) (hops : ∀ op ∈ ops, op.KeepsOpen) :
    (∀ pre, pre <+: ops → (run (Session.step codec) s pre).app.health =
        run Health.push s.app.health (trace (Session.step codec) (Session.batches codec) s pre)) ∧
      (HealthLaw s.app.health (trace (Session.step codec) (Session.batches codec) s ops) ↔
        Along earlier (Quiet s.app.health) []
          (trace (Session.step codec) (Session.batches codec) s ops)) := by
  have htagged := Session.tagged_connect hcalls hconnect
  have hstart : s.app.health.health = .Healthy := by rw [Session.health_connect hconnect]
  refine ⟨fun pre hpre => ?_, healthLaw_iff hstart _⟩
  exact Session.health_run htagged fun op hop => hops op (hpre.subset hop)

/-! ## Three sessions -/

/-- A VM whose name has a word in it that is taken to mean the daemon. -/
def daemonVm : IpcVmStatus where
  name := "daemon-vm"
  state := .Running
  cpuPinned := false
  irqPinned := false
  tasmotaOn := false
  isolationMode := "Disabled"
  hugepages := false
  cpuLayout := ⟨[], []⟩
  hugepagesDetail := {}
  cpuSample := none

/-- The JSON of a snapshot of the VM, up to its events. -/
def daemonVmText : List String :=
  ["\"Snapshot\":\x7b\"vms\":[\x7b\"name\":\"daemon-vm\",\"state\":\"Running\",",
    "\"cpu_pinned\":false,\"irq_pinned\":false,\"tasmota_on\":false,",
    "\"isolation_mode\":\"Disabled\",\"hugepages\":false,",
    "\"cpu_layout\":\x7b\"host\":[],\"vm\":[]\x7d,",
    "\"hugepages_detail\":\x7b\"active\":false,\"node\":null,",
    "\"pages\":0,\"bytes\":0\x7d,\"cpu_sample\":null\x7d],"]

/-- The JSON of a snapshot of the VM, with that of its events. -/
def snapshotText (eventsGlobal eventsVm : String) : String :=
  String.ofList ('{' :: ((daemonVmText ++ ["\"events_global\":[", eventsGlobal, "],",
    "\"events_vm\":[", eventsVm, "]\x7d"]).flatMap String.toList ++ ['}']))

/-- A snapshot without events. -/
def idleSnapshot : Snapshot := ⟨[daemonVm], [], []⟩

/-- What `serde_json` makes of it and of another snapshot. -/
def snapshotCodec (other : Snapshot) (text : String) : JsonCodec where
  toString message := if message = .Snapshot other then text else snapshotText "" ""
  fromStr line :=
    if line = text then .ok (.Snapshot other)
    else if line = snapshotText "" "" then .ok (.Snapshot idleSnapshot)
    else .error "expected value at line 1 column 1"

lemma snapshotText_ne {eventsGlobal eventsVm : String}
    (hevents : (eventsGlobal.toList ++ eventsVm.toList).length ≠ 0) :
    snapshotText eventsGlobal eventsVm ≠ snapshotText "" "" := by
  intro h
  have hlength := congrArg (fun text => text.toList.length) h
  simp only [snapshotText, String.toList_ofList, List.flatMap_append, List.flatMap_cons,
    List.flatMap_nil, List.length_cons, List.length_append, String.toList_empty,
    List.length_nil] at hlength hevents
  omega

lemma snapshotText_oneLine {eventsGlobal eventsVm : String}
    (hline : '\n' ∉ eventsGlobal.toList ++ eventsVm.toList) :
    '\n' ∉ (snapshotText eventsGlobal eventsVm).toList := by
  have hvm : ∀ piece ∈ daemonVmText, '\n' ∉ piece.toList := by decide
  have hkeys : ∀ piece ∈ ["\"events_global\":[", "],", "\"events_vm\":[", "]\x7d"],
      '\n' ∉ piece.toList := by decide
  rw [List.mem_append, not_or] at hline
  simp only [snapshotText, String.toList_ofList, List.mem_cons, List.mem_append, List.mem_flatMap,
    List.not_mem_nil, or_false, not_or, not_exists, not_and]
  refine ⟨by decide, fun piece hpiece => ?_, by decide⟩
  rcases hpiece with hpiece | rfl | rfl | rfl | rfl | rfl | rfl
  · exact hvm piece hpiece
  · exact hkeys _ (by simp)
  · exact hline.1
  · exact hkeys _ (by simp)
  · exact hkeys _ (by simp)
  · exact hline.2
  · exact hkeys _ (by simp)

/-- The text of a snapshot with events is an object on one line, and not that of the one without. -/
lemma faithful_snapshotCodec (other : Snapshot) (eventsGlobal eventsVm : String)
    (hother : other ≠ idleSnapshot)
    (hevents : (eventsGlobal.toList ++ eventsVm.toList).length ≠ 0)
    (hline : '\n' ∉ eventsGlobal.toList ++ eventsVm.toList) :
    (snapshotCodec other (snapshotText eventsGlobal eventsVm)).Faithful (.Snapshot other) ∧
      (snapshotCodec other (snapshotText eventsGlobal eventsVm)).Faithful
        (.Snapshot idleSnapshot) := by
  have htext : (snapshotCodec other (snapshotText eventsGlobal eventsVm)).toString
      (.Snapshot other) = snapshotText eventsGlobal eventsVm := if_pos rfl
  have hidle : (snapshotCodec other (snapshotText eventsGlobal eventsVm)).toString
      (.Snapshot idleSnapshot) = snapshotText "" "" := by
    refine if_neg fun h => hother ?_
    exact (IpcMessage.Snapshot.inj h).symm
  constructor
  · refine ⟨?_, ?_, ?_⟩
    · rw [htext]
      simp only [snapshotCodec, if_true]
    · rw [htext]
      exact ⟨_, String.toList_ofList⟩
    · rw [htext]
      exact snapshotText_oneLine hline
  · refine ⟨?_, ?_, ?_⟩
    · rw [hidle]
      simp only [snapshotCodec, if_neg (Ne.symm (snapshotText_ne hevents)), if_true]
    · rw [hidle]
      exact ⟨_, String.toList_ofList⟩
    · rw [hidle]
      exact snapshotText_oneLine (by decide)

/-- An error of the daemon. -/
def errorSnapshot : Snapshot :=
  ⟨[daemonVm], [⟨.Error, "daemon: invalid IPC message: expected value"⟩], []⟩

def errorText : String :=
  "\x7b\"kind\":\"Error\",\"message\":\"daemon: invalid IPC message: expected value\"\x7d"

def errorCodec : JsonCodec := snapshotCodec errorSnapshot (snapshotText errorText "")

lemma faithful_error : errorCodec.Faithful (.Snapshot errorSnapshot) ∧
    errorCodec.Faithful (.Snapshot idleSnapshot) :=
  faithful_snapshotCodec errorSnapshot errorText "" (by decide) (by decide) (by decide)

/-- A tick with an error of the daemon, and six without. -/
def recovery : List SessionOp :=
  .OnTick (Session.readsOf errorCodec errorSnapshot) :: List.replicate 6 (.OnTick [.WouldBlock])

/-- The batches are those of the ticks. -/
lemma trace_recovery :
    trace (Session.step errorCodec) (Session.batches errorCodec) (Session.greeted idleSnapshot)
        recovery =
      [Origin.Global ⟨.Error, "daemon: invalid IPC message: expected value"⟩] ::
        List.replicate 6 [] := by
  obtain ⟨htick, hbatch⟩ := Session.onTick_snapshot (s := Session.greeted idleSnapshot) rfl rfl
    faithful_error.1 (by decide) (by decide)
  rw [recovery, trace, Session.batches, Session.step, hbatch, htick]
  rfl

/-- After an error of the daemon, the health recovers in six ticks. -/
theorem health_of_session_recovery :
    HealthLaw ⟨.Healthy, 1⟩ (trace (Session.step errorCodec) (Session.batches errorCodec)
        (Session.greeted idleSnapshot) recovery) ∧
      (run (Session.step errorCodec) (Session.greeted idleSnapshot) recovery).app.health =
        ⟨.Healthy, 6⟩ := by
  have hops : ∀ op ∈ recovery, op.KeepsOpen := by
    intro op hop
    rcases List.mem_cons.mp hop with rfl | hop
    · exact Session.keepsOpen_readsOf errorSnapshot
    · rw [List.eq_of_mem_replicate hop]
      decide
  obtain ⟨hhealth, hlaw⟩ := health_of_session errorCodec [Session.readsOf errorCodec idleSnapshot]
    (Session.greeted idleSnapshot) recovery
    (List.forall_mem_singleton.mpr (Session.keepsOpen_readsOf idleSnapshot))
    (Session.connect_snapshot faithful_error.2 (by decide)) hops
  constructor
  · refine hlaw.mpr ?_
    rw [trace_recovery]
    decide
  · rw [hhealth recovery List.prefix_rfl, trace_recovery]
    decide

/-- The echo of a command of a user. -/
def echoSnapshot : Snapshot := ⟨[daemonVm], [⟨.Shell, "chalybs> failed to connect to"⟩], []⟩

def echoText : String :=
  "\x7b\"kind\":\"Shell\",\"message\":\"chalybs> failed to connect to\"\x7d"

def echoCodec : JsonCodec := snapshotCodec echoSnapshot (snapshotText echoText "")

lemma faithful_echo : echoCodec.Faithful (.Snapshot echoSnapshot) ∧
    echoCodec.Faithful (.Snapshot idleSnapshot) :=
  faithful_snapshotCodec echoSnapshot echoText "" (by decide) (by decide) (by decide)

/-- An error of the VM. -/
def vmSnapshot : Snapshot := ⟨[daemonVm], [], [⟨"daemon-vm", [⟨.Error, "qemu: exited"⟩]⟩]⟩

def vmText : String :=
  "\x7b\"vm_name\":\"daemon-vm\",\"events\":[\x7b\"kind\":\"Error\"," ++
    "\"message\":\"qemu: exited\"\x7d]\x7d"

def vmCodec : JsonCodec := snapshotCodec vmSnapshot (snapshotText "" vmText)

lemma faithful_vm : vmCodec.Faithful (.Snapshot vmSnapshot) ∧
    vmCodec.Faithful (.Snapshot idleSnapshot) :=
  faithful_snapshotCodec vmSnapshot "" vmText (by decide) (by decide) (by decide)

/-- The echo of a command is taken for a lost connection, and an error of a VM for one of the
daemon. -/
theorem health_from_texts :
    (Session.connect echoCodec [Session.readsOf echoCodec idleSnapshot] =
        .ok (Session.greeted idleSnapshot) ∧
      (SessionOp.OnTick (Session.readsOf echoCodec echoSnapshot)).KeepsOpen ∧
      ((Session.greeted idleSnapshot).step echoCodec
        (.OnTick (Session.readsOf echoCodec echoSnapshot))).app.daemonHealth = .Disconnected) ∧
    Session.connect vmCodec [Session.readsOf vmCodec idleSnapshot] =
        .ok (Session.greeted idleSnapshot) ∧
      (SessionOp.OnTick (Session.readsOf vmCodec vmSnapshot)).KeepsOpen ∧
      ((Session.greeted idleSnapshot).step vmCodec
        (.OnTick (Session.readsOf vmCodec vmSnapshot))).app.daemonHealth = .Degraded ∧
      ∀ batch ∈ (Session.greeted idleSnapshot).batches vmCodec
        (.OnTick (Session.readsOf vmCodec vmSnapshot)), ∀ o ∈ batch, ¬ o.ConcernsDaemon := by
  obtain ⟨htick, -⟩ := Session.onTick_snapshot (s := Session.greeted idleSnapshot) rfl rfl
    faithful_echo.1 (by decide) (by decide)
  obtain ⟨htick', hbatch⟩ := Session.onTick_snapshot (s := Session.greeted idleSnapshot) rfl rfl
    faithful_vm.1 (by decide) (by decide)
  refine ⟨⟨Session.connect_snapshot faithful_echo.2 (by decide),
    Session.keepsOpen_readsOf echoSnapshot, ?_⟩,
    Session.connect_snapshot faithful_vm.2 (by decide),
    Session.keepsOpen_readsOf vmSnapshot, ?_, ?_⟩
  · rw [Session.step, htick]
    decide
  · rw [Session.step, htick']
    decide
  · rw [Session.batches, hbatch]
    decide

end Chalybs.Tui
