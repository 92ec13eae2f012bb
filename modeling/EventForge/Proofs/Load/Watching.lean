import EventForge.Load.Watch

/-!
# What a watch knows of its source

The polls of a watch are a history of reads, some of which fail.  The digests of the reads that
succeed say all about the monitor: the first of them is its baseline for good, and every later one
that differs from it is announced.  A read that the system fails is reported; one that is refused
before is not, and ends the watch.
-/

namespace EventForge

namespace Watch

/-- What polls read, and when. -/
abbrev ReadHistory := List (Instant × Except FileFault Bytes)

/-- The digests of the reads that succeed, with their times. -/
def digests (history : ReadHistory) : List (Instant × Text) :=
  history.filterMap fun read => (read.2.toOption).map fun content =>
    (read.1, Sha256.hexDigest content)

/-- The faults of the reads that the system fails, with their times. -/
def faults (history : ReadHistory) : List (Instant × FileFault) :=
  history.filterMap fun read =>
    match read.2 with
    | .ok _ => none
    | .error fault => if fault.isOfSystem then some (read.1, fault) else none

/-- The failure of a read that is refused before the system is asked. -/
def refusal? : Except FileFault Bytes → Option Fault
  | .ok _ => none
  | .error fault => if fault.isOfSystem then none else some fault.fault

/-- The reads of a history up to the first one that is refused. -/
def polled : ReadHistory → ReadHistory
  | [] => []
  | read :: later => read :: if (refusal? read.2).isSome then [] else polled later

/-- The digest of the first read that succeeds. -/
def firstDigest? (history : ReadHistory) : Option Text := (digests history).head?.map (·.2)

/-- The times of the later reads that succeed with another digest than the first one. -/
def differing (history : ReadHistory) : List Instant :=
  ((digests history).tail.filter fun found => some found.2 ≠ firstDigest? history).map (·.1)

/-- A watch after further polls. -/
def observeAll (watch : Watch) (history : ReadHistory) : Watch :=
  history.foldl (fun watch read => watch.observe read.1 read.2) watch

/-- Whether a watch of the source at a path is as a history of reads has it. -/
structure Records (path : Text) (history : ReadHistory) (watch : Watch) : Prop where
  watched : watch.monitor.path = path
  baseline : watch.monitor.baseline = firstDigest? history
  polls : watch.monitor.polls = (digests history).length
  changes : watch.changes = differing history
  notifications : watch.monitor.notifications = (differing history).length
  errors : watch.errors = (faults history).map fun found => (found.1, { path, fault := found.2 })
  death : watch.death = history.findSome? fun read => refusal? read.2
  unread : watch.monitor.state = .baseline ↔ digests history = []
  changed : watch.monitor.state = .changed ↔ 0 < watch.monitor.notifications

section Histories

variable (history : ReadHistory) (time : Instant)

@[simp] theorem digests_fault (fault : FileFault) :
    digests (history ++ [(time, .error fault)]) = digests history := by
  simp [digests, Except.toOption]

@[simp] theorem digests_read (content : Bytes) :
    digests (history ++ [(time, .ok content)]) =
      digests history ++ [(time, Sha256.hexDigest content)] := by
  simp [digests, Except.toOption]

@[simp] theorem firstDigest?_fault (fault : FileFault) :
    firstDigest? (history ++ [(time, .error fault)]) = firstDigest? history := by
  rw [firstDigest?, digests_fault, firstDigest?]

@[simp] theorem differing_fault (fault : FileFault) :
    differing (history ++ [(time, .error fault)]) = differing history := by
  rw [differing, digests_fault, firstDigest?_fault, differing]

theorem faults_system (fault : FileFault) (fails : fault.isOfSystem = true) :
    faults (history ++ [(time, .error fault)]) = faults history ++ [(time, fault)] := by
  simp [faults, fails]

theorem faults_refused (fault : FileFault) (refused : fault.isOfSystem = false) :
    faults (history ++ [(time, .error fault)]) = faults history := by
  simp [faults, refused]

@[simp] theorem faults_read (content : Bytes) :
    faults (history ++ [(time, .ok content)]) = faults history := by
  simp [faults]

theorem firstDigest?_read (content : Bytes) :
    firstDigest? (history ++ [(time, .ok content)]) =
      some ((firstDigest? history).getD (Sha256.hexDigest content)) := by
  rw [firstDigest?, digests_read, firstDigest?]
  cases digests history <;> rfl

/-- A history of reads none of which is refused is polled as a whole. -/
theorem polled_eq_self (accepted : ∀ read ∈ history, refusal? read.2 = none) :
    polled history = history := by
  induction history with
  | nil => rfl
  | cons read later ih =>
      have own := accepted read (by simp)
      rw [polled, own, ih fun other member => accepted other (by simp [member])]
      rfl

/-- The first read of all differs from no other one. -/
theorem differing_read_first (content : Bytes) (unread : digests history = []) :
    differing (history ++ [(time, .ok content)]) = [] := by
  rw [differing, digests_read, unread]
  rfl

/-- A later read is announced if its digest is not the first one. -/
theorem differing_read_later (content : Bytes) (first : Text)
    (known : firstDigest? history = some first) :
    differing (history ++ [(time, .ok content)]) =
      differing history ++ (if Sha256.hexDigest content = first then [] else [time]) := by
  have nonempty : digests history ≠ [] := by
    intro unread
    simp [firstDigest?, unread] at known
  rw [differing, firstDigest?_read, digests_read, known, List.tail_append_of_ne_nil nonempty,
    List.filter_append, List.map_append, differing, known]
  by_cases same : Sha256.hexDigest content = first <;> simp [same]

end Histories

variable {path : Text} {history : ReadHistory} {watch : Watch}

/-- A watch that has ended does not poll. -/
theorem observe_of_death (ended : watch.death.isSome) (time : Instant)
    (content : Except FileFault Bytes) : watch.observe time content = watch := if_pos ended

theorem observeAll_of_death (ended : watch.death.isSome) (further : ReadHistory) :
    watch.observeAll further = watch := by
  induction further with
  | nil => rfl
  | cons read further ih =>
      rw [observeAll, List.foldl_cons, observe_of_death ended]
      exact ih

/-- A poll that cannot read the file leaves the monitor as it is. -/
theorem monitor_observe_fault (watch : Watch) (time : Instant) (fault : FileFault) :
    (watch.observe time (.error fault)).monitor = watch.monitor := by
  rw [observe]
  split <;> rfl

section Alive

variable (alive : watch.death = none) (time : Instant)

include alive

/-- A poll that the system fails is reported with one error. -/
theorem observe_system (fault : FileFault) (fails : fault.isOfSystem = true) :
    (watch.observe time (.error fault)).changes = watch.changes ∧
      (watch.observe time (.error fault)).errors =
        watch.errors ++ [(time, { path := watch.monitor.path, fault })] ∧
      (watch.observe time (.error fault)).death = none := by
  simp [observe, alive, Monitor.poll, fails, Monitor.error?, Monitor.death?]

/-- A poll that is refused is not reported and ends the watch. -/
theorem observe_refused (fault : FileFault) (refused : fault.isOfSystem = false) :
    (watch.observe time (.error fault)).changes = watch.changes ∧
      (watch.observe time (.error fault)).errors = watch.errors ∧
      (watch.observe time (.error fault)).death = some fault.fault := by
  simp [observe, alive, Monitor.poll, refused, Monitor.error?, Monitor.death?]

theorem observe_first (content : Bytes) (unread : watch.monitor.baseline = none) :
    (watch.observe time (.ok content)).monitor =
        { watch.monitor with
          polls := watch.monitor.polls + 1, baseline := some (Sha256.hexDigest content)
          state := .watching } ∧
      (watch.observe time (.ok content)).changes = watch.changes ∧
      (watch.observe time (.ok content)).errors = watch.errors ∧
      (watch.observe time (.ok content)).death = none := by
  simp [observe, alive, Monitor.poll, Monitor.observe, unread, Monitor.error?, Monitor.death?]

theorem observe_same (content : Bytes)
    (known : watch.monitor.baseline = some (Sha256.hexDigest content)) :
    (watch.observe time (.ok content)).monitor =
        { watch.monitor with polls := watch.monitor.polls + 1 } ∧
      (watch.observe time (.ok content)).changes = watch.changes ∧
      (watch.observe time (.ok content)).errors = watch.errors ∧
      (watch.observe time (.ok content)).death = none := by
  simp [observe, alive, Monitor.poll, Monitor.observe, known, Monitor.error?, Monitor.death?]

theorem observe_other (content : Bytes) (first : Text)
    (known : watch.monitor.baseline = some first) (other : Sha256.hexDigest content ≠ first) :
    (watch.observe time (.ok content)).monitor =
        { watch.monitor with
          polls := watch.monitor.polls + 1
          notifications := watch.monitor.notifications + 1
          state := .changed } ∧
      (watch.observe time (.ok content)).changes = watch.changes ++ [time] ∧
      (watch.observe time (.ok content)).errors = watch.errors ∧
      (watch.observe time (.ok content)).death = none := by
  simp [observe, alive, Monitor.poll, Monitor.observe, known, other, Monitor.error?, Monitor.death?]

end Alive

section Steps

variable (records : Records path history watch) (alive : watch.death = none) (time : Instant)

include records alive

/-- A watch that goes on ends with the next read if that is refused. -/
theorem Records.refusal?_append (content : Except FileFault Bytes) :
    List.findSome? (fun read => refusal? read.2) (history ++ [(time, content)]) =
      refusal? content := by
  have none := records.death
  rw [alive] at none
  rw [List.findSome?_append, ← none]
  simp

theorem Records.fault (fault : FileFault) :
    Records path (history ++ [(time, .error fault)]) (watch.observe time (.error fault)) := by
  have death := records.refusal?_append alive time (.error fault)
  have kept := monitor_observe_fault watch time fault
  have told : (watch.observe time (.error fault)).changes = watch.changes ∧
      (watch.observe time (.error fault)).errors =
        ((faults (history ++ [(time, .error fault)])).map fun found =>
          (found.1, { path, fault := found.2 })) ∧
      (watch.observe time (.error fault)).death = refusal? (.error fault) := by
    cases ofSystem : fault.isOfSystem with
    | true =>
        obtain ⟨changes, errors, ended⟩ := observe_system alive time fault ofSystem
        rw [faults_system history time fault ofSystem, List.map_append, ← records.errors,
          ← records.watched]
        exact ⟨changes, errors, by simp [ended, refusal?, ofSystem]⟩
    | false =>
        obtain ⟨changes, errors, ended⟩ := observe_refused alive time fault ofSystem
        rw [faults_refused history time fault ofSystem, ← records.errors]
        exact ⟨changes, errors, by simp [ended, refusal?, ofSystem]⟩
  obtain ⟨changes, errors, ended⟩ := told
  exact {
    watched := by rw [kept]; exact records.watched
    baseline := by rw [kept, firstDigest?_fault]; exact records.baseline
    polls := by rw [kept, digests_fault]; exact records.polls
    changes := by rw [changes, differing_fault]; exact records.changes
    notifications := by rw [kept, differing_fault]; exact records.notifications
    errors
    death := by rw [ended, death]
    unread := by rw [kept, digests_fault]; exact records.unread
    changed := by rw [kept]; exact records.changed }

theorem Records.first (content : Bytes) (unread : digests history = []) :
    Records path (history ++ [(time, .ok content)]) (watch.observe time (.ok content)) := by
  have nothing : watch.monitor.baseline = none := by
    rw [records.baseline, firstDigest?, unread]
    rfl
  have noChange : differing history = [] := by
    rw [differing, unread]
    rfl
  have still : watch.monitor.notifications = 0 := by rw [records.notifications, noChange]; rfl
  obtain ⟨monitor, changes, errors, ended⟩ := observe_first alive time content nothing
  have death := records.refusal?_append alive time (.ok content)
  have nowhere := differing_read_first history time content unread
  exact {
    watched := by rw [monitor]; exact records.watched
    baseline := by
      rw [monitor, firstDigest?_read, firstDigest?, unread]
      rfl
    polls := by simp [monitor, records.polls]
    changes := by rw [changes, nowhere, records.changes, noChange]
    notifications := by rw [monitor, nowhere]; exact still
    errors := by rw [errors, faults_read]; exact records.errors
    death := by rw [ended, death]; rfl
    unread := by simp [monitor]
    changed := by simp [monitor, still] }

theorem Records.later (content : Bytes) (first : Text)
    (known : firstDigest? history = some first) :
    Records path (history ++ [(time, .ok content)]) (watch.observe time (.ok content)) := by
  have given : watch.monitor.baseline = some first := by rw [records.baseline, known]
  have isRead : digests history ≠ [] := by
    intro unread
    simp [firstDigest?, unread] at known
  have baseline : firstDigest? (history ++ [(time, .ok content)]) = some first := by
    rw [firstDigest?_read, known]
    rfl
  have begun : watch.monitor.state ≠ .baseline := fun unread => isRead (records.unread.mp unread)
  have death := records.refusal?_append alive time (.ok content)
  by_cases same : Sha256.hexDigest content = first
  · obtain ⟨monitor, changes, errors, ended⟩ := observe_same alive time content (by rw [given, same])
    have unchanged : differing (history ++ [(time, .ok content)]) = differing history := by
      rw [differing_read_later history time content first known, if_pos same, List.append_nil]
    exact {
      watched := by rw [monitor]; exact records.watched
      baseline := by rw [monitor, baseline]; exact given
      polls := by simp [monitor, records.polls]
      changes := by rw [changes, unchanged]; exact records.changes
      notifications := by rw [monitor, unchanged]; exact records.notifications
      errors := by rw [errors, faults_read]; exact records.errors
      death := by rw [ended, death]; rfl
      unread := by simp [monitor, begun]
      changed := by rw [monitor]; exact records.changed }
  · obtain ⟨monitor, changes, errors, ended⟩ := observe_other alive time content first given same
    have announced : differing (history ++ [(time, .ok content)]) = differing history ++ [time] := by
      rw [differing_read_later history time content first known, if_neg same]
    exact {
      watched := by rw [monitor]; exact records.watched
      baseline := by rw [monitor, baseline]; exact given
      polls := by simp [monitor, records.polls]
      changes := by rw [changes, announced, records.changes]
      notifications := by simp [monitor, announced, records.notifications]
      errors := by rw [errors, faults_read]; exact records.errors
      death := by rw [ended, death]; rfl
      unread := by simp [monitor]
      changed := by simp [monitor] }

/-- Every poll goes on with the history by what it reads. -/
theorem Records.observe (content : Except FileFault Bytes) :
    Records path (history ++ [(time, content)]) (watch.observe time content) := by
  cases content with
  | error fault => exact records.fault alive time fault
  | ok content =>
      cases known : firstDigest? history with
      | some first => exact records.later alive time content first known
      | none =>
          have unread : digests history = [] := by
            simpa [firstDigest?] using known
          exact records.first alive time content unread

end Steps

/-- A watch goes on with its history by what it polls, up to the read that ends it. -/
theorem Records.observeAll (records : Records path history watch) (alive : watch.death = none)
    (further : ReadHistory) :
    Records path (history ++ polled further) (watch.observeAll further) := by
  induction further generalizing history watch with
  | nil => simpa [Watch.observeAll, polled] using records
  | cons read further ih =>
      have next := records.observe alive read.1 read.2
      have ended := next.death
      rw [records.refusal?_append alive read.1 read.2] at ended
      rw [Watch.observeAll, List.foldl_cons, ← Watch.observeAll, polled]
      cases refused : refusal? read.2 with
      | none =>
          rw [refused] at ended
          simpa using ih next ended
      | some fault =>
          rw [refused] at ended
          rw [observeAll_of_death (by simp [ended])]
          simpa using next

/-- A watch that has not polled yet. -/
def fresh (path : Text) (log : List LogEntry) : Watch :=
  { monitor := Monitor.ofPath path, log }

theorem records_fresh (path : Text) (log : List LogEntry) :
    Records (FilePath.normal path) [] (fresh path log) := by
  constructor <;> simp [fresh, Monitor.ofPath, firstDigest?, digests, differing, faults]

/-- A watch records the reads that it polls. -/
theorem records_observeAll (path : Text) (log : List LogEntry) (history : ReadHistory) :
    Records (FilePath.normal path) (polled history) ((fresh path log).observeAll history) := by
  simpa using (records_fresh path log).observeAll rfl history

/-- What the polls of a watch read in a tree that changes. -/
def reads (tree : FileTree) (path : Text) (interval : Span) (actions : List FileAction)
    (cancelled : Instant) : ReadHistory :=
  (pollTimes interval.seconds cancelled).map fun now =>
    (now, (treeAt tree (actions.filter fun action => 0 < action.time) now).read path)

/-- Polling does not change which file is watched. -/
theorem path_observe (watch : Watch) (time : Instant) (content : Except FileFault Bytes) :
    (watch.observe time content).monitor.path = watch.monitor.path := by
  cases content with
  | error fault => rw [monitor_observe_fault]
  | ok content =>
      simp only [observe, Monitor.poll, Monitor.observe]
      repeat' split
      all_goals rfl

theorem foldl_poll (watch : Watch) (times : List Instant) (trees : Instant → FileTree) :
    times.foldl (fun watch now => watch.poll now (trees now)) watch =
      watch.observeAll (times.map fun now => (now, (trees now).read watch.monitor.path)) := by
  induction times generalizing watch with
  | nil => rfl
  | cons time times ih =>
      rw [List.foldl_cons, ih]
      simp [observeAll, poll, path_observe]

/-- A watch polls what its reads tell, and stops with an entry of the log. -/
theorem run_eq (tree : FileTree) (path : Text) (interval : Span) (actions : List FileAction)
    (cancelled : Instant) (reason : Option Text) :
    run tree (Monitor.ofPath path) interval actions cancelled reason =
      (startTree tree actions).map fun tree =>
        ((fresh path [LogEntry.info 0 ((Monitor.ofPath path).startMessage interval)]).observeAll
          (reads tree (FilePath.normal path) interval actions cancelled)).cancel cancelled reason := by
  simp only [run, foldl_poll]
  cases startTree tree actions <;> rfl

/-- What a watch knows never goes back: its baseline stays, and so does that it saw a change. -/
theorem Records.lasts (records : Records path history watch) (further : ReadHistory) :
    (∀ first, watch.monitor.baseline = some first →
        (watch.observeAll further).monitor.baseline = some first) ∧
      (watch.monitor.state = .changed → (watch.observeAll further).monitor.state = .changed) := by
  by_cases ended : watch.death.isSome
  · rw [observeAll_of_death ended]
    exact ⟨fun _ => id, id⟩
  have after := records.observeAll (by simpa using ended) further
  have grown : ∃ more, digests (history ++ polled further) = digests history ++ more :=
    ⟨digests (polled further), by simp [digests]⟩
  obtain ⟨more, grown⟩ := grown
  have kept : ∀ first, firstDigest? history = some first →
      firstDigest? (history ++ polled further) = some first := by
    intro first known
    rw [firstDigest?, grown]
    cases found : digests history with
    | nil => simp [firstDigest?, found] at known
    | cons head rest => simpa [firstDigest?, found] using known
  constructor
  · intro first given
    rw [after.baseline]
    exact kept first (by rw [← records.baseline, given])
  · intro changed
    rw [after.changed, after.notifications]
    have some_change := records.changed.mp changed
    rw [records.notifications] at some_change
    obtain ⟨found, member⟩ := List.exists_mem_of_length_pos some_change
    have here : found ∈ differing (history ++ polled further) := by
      simp only [differing, List.mem_map, List.mem_filter] at member ⊢
      obtain ⟨entry, ⟨inTail, differs⟩, rfl⟩ := member
      have isRead : digests history ≠ [] := by
        intro unread
        simp [unread] at inTail
      obtain ⟨first, known⟩ : ∃ first, firstDigest? history = some first := by
        cases found : digests history with
        | nil => exact absurd found isRead
        | cons head rest => exact ⟨head.2, by simp [firstDigest?, found]⟩
      refine ⟨entry, ⟨?_, ?_⟩, rfl⟩
      · rw [grown, List.tail_append_of_ne_nil isRead]
        exact List.mem_append_left _ inTail
      · rw [kept first known]
        rwa [known] at differs
    exact List.length_pos_of_mem here

theorem observeAll_append (watch : Watch) (history further : ReadHistory) :
    watch.observeAll (history ++ further) = (watch.observeAll history).observeAll further :=
  List.foldl_append

/-- Whatever the polls of a watch read, the watch is as its history has it up to the first read that is
refused; and a watch in time is one of the histories of reads. -/
theorem watch_records_history (path : Text) (log : List LogEntry) (history : ReadHistory) :
    Records (FilePath.normal path) (polled history) ((fresh path log).observeAll history) ∧
      ((∀ read ∈ history, refusal? read.2 = none) → polled history = history) ∧
      (∀ further,
        (∀ first, ((fresh path log).observeAll history).monitor.baseline = some first →
          ((fresh path log).observeAll (history ++ further)).monitor.baseline = some first) ∧
        (((fresh path log).observeAll history).monitor.state = .changed →
          ((fresh path log).observeAll (history ++ further)).monitor.state = .changed)) ∧
      (∀ time fault,
        ((fresh path log).observeAll (history ++ [(time, .error fault)])).monitor =
          ((fresh path log).observeAll history).monitor) ∧
      ∀ tree interval actions cancelled reason,
        (run tree (Monitor.ofPath path) interval actions cancelled reason).map
            (fun watch => (watch.monitor, watch.changes, watch.errors, watch.death)) =
          (startTree tree actions).map fun started =>
            let watch := (fresh path [LogEntry.info 0
                ((Monitor.ofPath path).startMessage interval)]).observeAll
              (reads started (FilePath.normal path) interval actions cancelled)
            (watch.monitor, watch.changes, watch.errors, watch.death) := by
  have records := records_observeAll path log history
  refine ⟨records, polled_eq_self history, ?_, ?_, ?_⟩
  · intro further
    rw [observeAll_append]
    exact records.lasts further
  · intro time fault
    rw [observeAll_append]
    exact monitor_observe_fault _ time fault
  · intro tree interval actions cancelled reason
    rw [run_eq]
    cases startTree tree actions with
    | error fault => rfl
    | ok started =>
        simp only [Except.map, cancel]
        split <;> rfl

/-- A source that is seen, missed, changed and restored. -/
def restoredHistory : ReadHistory :=
  [(0, .ok [1]), (10, .error (.missing "schema.json")), (20, .ok [2]), (30, .ok [1])]

theorem restoredHistory_recorded :
    let watch := (fresh "schema.json" []).observeAll restoredHistory
    watch.monitor.baseline = some (Sha256.hexDigest [1]) ∧ watch.monitor.polls = 3 ∧
      watch.changes = [20] ∧ watch.monitor.notifications = 1 ∧
      watch.errors = [(10, ⟨"schema.json", .missing "schema.json"⟩)] ∧
      watch.monitor.state = .changed ∧ watch.death = none := by
  obtain ⟨records, whole, _⟩ := watch_records_history "schema.json" [] restoredHistory
  rw [whole (by decide)] at records
  have apart : Sha256.hexDigest [2] ≠ Sha256.hexDigest [1] := by decide +kernel
  have isRead : digests restoredHistory = [(0, Sha256.hexDigest [1]), (20, Sha256.hexDigest [2]),
      (30, Sha256.hexDigest [1])] := by
    simp [digests, restoredHistory, Except.toOption]
  have first : firstDigest? restoredHistory = some (Sha256.hexDigest [1]) := by
    simp [firstDigest?, isRead]
  have announced : differing restoredHistory = [20] := by
    simp [differing, isRead, first, apart]
  have notified := records.notifications
  rw [announced] at notified
  exact ⟨records.baseline.trans first, by simp [records.polls, isRead],
    records.changes.trans announced, notified, records.errors,
    records.changed.mpr (notified ▸ Nat.one_pos), records.death⟩

/-- A watch of a path that holds a NUL ends at its first poll, which reads nothing and reports
nothing. -/
theorem nullPath_ends_watch :
    let tree := FileTree.empty "/home"
    let watch := (fresh "a\x00b" []).poll 0 tree
    (tree.read "a\x00b").toOption = none ∧ watch.errors = [] ∧
      watch.death = some (Fault.ofValue "embedded null byte") :=
  ⟨by decide, rfl, rfl⟩

end Watch

end EventForge
