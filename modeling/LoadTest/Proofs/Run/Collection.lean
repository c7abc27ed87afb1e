import LoadTest.Proofs.Run.Completion

/-!
On their way from the users into the figures metrics are neither lost nor counted twice.

A `Collection` is the collector together with those who send to it.  Any number of recorders may
send at any time, also while a batch is filled.  A batch is closed when it is full or when the
queue is found empty, and snapshots may be published between any two batches.  `Collection.Sound`
is what every step keeps: what was sent is what was counted, then what was taken, then what is
queued.

The collector of a run is part of such a collection (`Reachable.exists_collection`); nobody sends
while it takes a batch, so that it takes what `Collector.receive` says (`path_receive`).
-/

namespace LoadTest

theorem Collector.publish_of_published {collector : Collector}
    (latest : collector.published = collector.stats) : collector.publish = collector := by
  cases collector
  cases latest
  rfl

/-- What the collector is at. -/
inductive Collection.Phase where
  | waiting
  | filling (batch : List Metric)
  /-- The batch is complete, but not yet counted. -/
  | closed (batch : List Metric)
  | ended (returned : Stats)

structure Collection where
  collector : Collector
  phase : Collection.Phase
  /-- Sent and not yet taken, in order. -/
  queue : List Metric
  /-- How many can still send. -/
  recorders : Nat
  /-- All that was ever sent, in order. -/
  sent : List Metric
  /-- All that were ever published, in order. -/
  snapshots : List Stats

namespace Collection

/-- What was taken and not yet counted. -/
def Phase.batch : Phase → List Metric
  | .filling batch => batch
  | .closed batch => batch
  | _ => []

def start : Collection := ⟨.start, .waiting, [], 1, [], []⟩

def send (collection : Collection) (metrics : List Metric) : Collection :=
  { collection with
    queue := collection.queue ++ metrics
    sent := collection.sent ++ metrics }

def count (collection : Collection) (batch : List Metric) : Collection :=
  { collection with
    collector :=
      { collection.collector with stats := collection.collector.stats.consumeAll batch }
    phase := .waiting }

def publish (collection : Collection) : Collection :=
  { collection with
    collector := collection.collector.publish
    snapshots := collection.snapshots ++ [collection.collector.stats] }

/-- What can happen next, with batches of at most `size` metrics, or of one. -/
inductive Step (size : Nat) : Collection → Collection → Prop where
  | clone {here} :
      0 < here.recorders → Step size here { here with recorders := here.recorders + 1 }
  | drop {here} :
      0 < here.recorders → Step size here { here with recorders := here.recorders - 1 }
  | send {here metric} : 0 < here.recorders → Step size here (here.send [metric])
  | first {here metric rest} :
      here.phase = .waiting → here.queue = metric :: rest →
      Step size here { here with phase := .filling [metric], queue := rest }
  | more {here batch metric rest} :
      here.phase = .filling batch → batch.length < size → here.queue = metric :: rest →
      Step size here { here with phase := .filling (batch ++ [metric]), queue := rest }
  | full {here batch} :
      here.phase = .filling batch → size ≤ batch.length →
      Step size here { here with phase := .closed batch }
  | dry {here batch} :
      here.phase = .filling batch → here.queue = [] →
      Step size here { here with phase := .closed batch }
  | count {here batch} : here.phase = .closed batch → Step size here (here.count batch)
  | publish {here} : here.phase = .waiting → Step size here here.publish
  | finish {here} :
      here.phase = .waiting → here.queue = [] → here.recorders = 0 →
      Step size here { here.publish with phase := .ended here.collector.stats }

abbrev Path (size : Nat) : Collection → Collection → Prop := Relation.ReflTransGen (Step size)

/-- What every step keeps.  A snapshot is told by how many metrics it has counted. -/
structure Sound (here : Collection) (counted : List Metric) (counts : List Nat) : Prop where
  sent_eq : here.sent = counted ++ (here.phase.batch ++ here.queue)
  stats_eq : here.collector.stats = .ofMetrics counted
  ordered : counts.Pairwise (· ≤ ·)
  counts_le : ∀ count ∈ counts, count ≤ counted.length
  snapshots_eq : here.snapshots = counts.map fun count => .ofMetrics (counted.take count)
  published_eq : here.collector.published = here.snapshots.getLast?.getD .empty
  returned : ∀ stats, here.phase = .ended stats →
    here.recorders = 0 ∧ here.queue = [] ∧ stats = here.collector.stats ∧
      here.snapshots.getLast? = some stats

variable {size : Nat} {here later : Collection} {counted batch : List Metric} {counts : List Nat}

theorem sound_start : start.Sound [] [] := by
  constructor
  case returned =>
    intro stats ended
    cases ended
  all_goals simp [start, Phase.batch, Collector.start, Stats.ofMetrics]

/-- A step that neither counts nor publishes. -/
theorem Sound.quiet (sound : here.Sound counted counts)
    (collector : later.collector = here.collector) (snapshots : later.snapshots = here.snapshots)
    (sent : later.sent = counted ++ (later.phase.batch ++ later.queue))
    (working : ∀ stats, later.phase ≠ .ended stats) : later.Sound counted counts where
  sent_eq := sent
  stats_eq := by rw [collector, sound.stats_eq]
  ordered := sound.ordered
  counts_le := sound.counts_le
  snapshots_eq := by rw [snapshots, sound.snapshots_eq]
  published_eq := by rw [collector, snapshots, sound.published_eq]
  returned stats ended := absurd ended (working stats)

/-- Nobody can send to a collector that has ended. -/
theorem Sound.working (sound : here.Sound counted counts) (sending : 0 < here.recorders)
    (stats : Stats) : here.phase ≠ .ended stats := by
  intro ended
  have none_left := (sound.returned stats ended).1
  omega

theorem Sound.count (sound : here.Sound counted counts) (closed : here.phase = .closed batch) :
    (here.count batch).Sound (counted ++ batch) counts where
  sent_eq := by
    have sent := sound.sent_eq
    rw [closed] at sent
    simpa [Collection.count, Phase.batch] using sent
  stats_eq := by
    simp only [Collection.count, sound.stats_eq, Stats.ofMetrics, Stats.consumeAll_append]
  ordered := sound.ordered
  counts_le count among := by
    have le := sound.counts_le count among
    simp only [List.length_append]
    omega
  snapshots_eq := by
    simp only [Collection.count, sound.snapshots_eq]
    apply List.map_congr_left
    intro count among
    rw [List.take_append_of_le_length (sound.counts_le count among)]
  published_eq := sound.published_eq
  returned stats ended := by cases ended

theorem Sound.publish (sound : here.Sound counted counts) (waiting : here.phase = .waiting) :
    here.publish.Sound counted (counts ++ [counted.length]) where
  sent_eq := sound.sent_eq
  stats_eq := sound.stats_eq
  ordered := by
    refine List.pairwise_append.2 ⟨sound.ordered, List.pairwise_singleton .., ?_⟩
    intro count among last isLast
    rw [List.mem_singleton.1 isLast]
    exact sound.counts_le count among
  counts_le count among := by
    obtain before | last := List.mem_append.1 among
    · exact sound.counts_le count before
    · exact Nat.le_of_eq (List.mem_singleton.1 last)
  snapshots_eq := by
    simp [Collection.publish, sound.snapshots_eq, sound.stats_eq]
  published_eq := by simp [Collection.publish, Collector.publish]
  returned stats ended := by
    rw [Collection.publish, waiting] at ended
    cases ended

theorem Sound.finish (sound : here.Sound counted counts) (waiting : here.phase = .waiting)
    (empty : here.queue = []) (alone : here.recorders = 0) :
    Sound { here.publish with phase := .ended here.collector.stats } counted
      (counts ++ [counted.length]) := by
  have published := sound.publish waiting
  refine ⟨?_, published.stats_eq, published.ordered, published.counts_le, published.snapshots_eq,
    published.published_eq, ?_⟩
  · simpa [Phase.batch, Collection.publish, waiting] using published.sent_eq
  · intro stats ended
    cases ended
    exact ⟨alone, empty, rfl, by simp [Collection.publish]⟩

theorem Sound.step (sound : here.Sound counted counts) (step : Step size here later) :
    ∃ counted counts, later.Sound counted counts := by
  have sent := sound.sent_eq
  cases step with
  | clone sending => exact ⟨_, _, sound.quiet rfl rfl sent (sound.working sending)⟩
  | drop sending => exact ⟨_, _, sound.quiet rfl rfl sent (sound.working sending)⟩
  | send sending =>
      refine ⟨_, _, sound.quiet rfl rfl ?_ (sound.working sending)⟩
      simp [Collection.send, sent]
  | first waiting queued =>
      refine ⟨_, _, sound.quiet rfl rfl ?_ nofun⟩
      simp [sent, waiting, queued, Phase.batch]
  | more filling _ queued =>
      refine ⟨_, _, sound.quiet rfl rfl ?_ nofun⟩
      simp [sent, filling, queued, Phase.batch]
  | full filling =>
      refine ⟨_, _, sound.quiet rfl rfl ?_ nofun⟩
      simp [sent, filling, Phase.batch]
  | dry filling =>
      refine ⟨_, _, sound.quiet rfl rfl ?_ nofun⟩
      simp [sent, filling, Phase.batch]
  | count closed => exact ⟨_, _, sound.count closed⟩
  | publish waiting => exact ⟨_, _, sound.publish waiting⟩
  | finish waiting empty alone => exact ⟨_, _, sound.finish waiting empty alone⟩

theorem exists_sound (path : Path size start here) :
    ∃ counted counts, here.Sound counted counts := by
  induction path with
  | refl => exact ⟨[], [], sound_start⟩
  | tail _ step inductionHypothesis =>
      obtain ⟨counted, counts, sound⟩ := inductionHypothesis
      exact sound.step step

/-! ### The collector gets through -/

/-- An upper bound for the steps that a collector has left to whom nobody sends. -/
def left (here : Collection) : Nat :=
  3 * here.queue.length +
    match here.phase with
    | .waiting => 1
    | .filling _ => 3
    | .closed _ => 2
    | .ended _ => 0

/-- Until it has ended, a collector to whom nobody sends comes closer to its end. -/
theorem exists_step (alone : here.recorders = 0) (working : ∀ stats, here.phase ≠ .ended stats) :
    ∃ later, Step size here later ∧ later.left < here.left ∧ later.recorders = 0 ∧
      later.sent = here.sent := by
  cases phase : here.phase with
  | waiting =>
      cases queue : here.queue with
      | nil => exact ⟨_, .finish phase queue alone, by simp [left, phase, publish], alone, rfl⟩
      | cons metric rest =>
          refine ⟨_, .first phase queue, ?_, alone, rfl⟩
          simp only [left, phase, queue, List.length_cons]
          omega
  | filling batch =>
      cases queue : here.queue with
      | nil => exact ⟨_, .dry phase queue, by simp [left, phase, queue], alone, rfl⟩
      | cons metric rest =>
          by_cases room : batch.length < size
          · refine ⟨_, .more phase room queue, ?_, alone, rfl⟩
            simp only [left, phase, queue, List.length_cons]
            omega
          · refine ⟨_, .full phase (Nat.le_of_not_lt room), ?_, alone, rfl⟩
            simp only [left, phase, queue]
            omega
  | closed batch => exact ⟨_, .count phase, by simp [left, phase, count], alone, rfl⟩
  | ended stats => exact absurd phase (working stats)

theorem exists_ended (alone : here.recorders = 0) :
    ∃ later returned, Path size here later ∧ later.phase = .ended returned ∧
      later.sent = here.sent := by
  induction bound : here.left using Nat.strongRecOn generalizing here with
  | ind bound inductionHypothesis =>
      by_cases ended : ∃ returned, here.phase = .ended returned
      · obtain ⟨returned, ended⟩ := ended
        exact ⟨here, returned, .refl, ended, rfl⟩
      · obtain ⟨next, step, closer, nextAlone, same⟩ :=
          exists_step alone (not_exists.1 ended)
        obtain ⟨later, returned, path, ended, sent⟩ :=
          inductionHypothesis next.left (bound ▸ closer) nextAlone rfl
        exact ⟨later, returned, .head step path, ended, sent.trans same⟩

/-- The collector loses nothing and counts nothing twice, whatever the size of its batches and
whoever sends at whatever time.  Every snapshot has counted as many of the metrics that were sent,
one by one and in their order, and no snapshot fewer than one before it.  What is returned has
counted them all, and so has the last snapshot.  As soon as nobody can send any more, the collector
gets to its end. -/
theorem counts_all {size : Nat} {here : Collection} (path : Path size start here) :
    (∃ counts : List Nat, counts.Pairwise (· ≤ ·) ∧ (∀ count ∈ counts, count ≤ here.sent.length) ∧
      here.snapshots = counts.map fun count => .ofMetrics (here.sent.take count)) ∧
    (∀ returned, here.phase = .ended returned →
      returned = .ofMetrics here.sent ∧ here.snapshots.getLast? = some returned) ∧
    (here.recorders = 0 → ∃ later returned, Path size here later ∧
      later.phase = .ended returned ∧ later.sent = here.sent) := by
  obtain ⟨counted, counts, sound⟩ := exists_sound path
  have sent := sound.sent_eq
  refine ⟨⟨counts, sound.ordered, ?_, ?_⟩, ?_, exists_ended⟩
  · intro count among
    have le := sound.counts_le count among
    rw [sent, List.length_append]
    omega
  · rw [sound.snapshots_eq]
    apply List.map_congr_left
    intro count among
    rw [sent, List.take_append_of_le_length (sound.counts_le count among)]
  · intro returned ended
    obtain ⟨_, empty, rfl, last⟩ := sound.returned returned ended
    refine ⟨?_, last⟩
    rw [sound.stats_eq, sent, ended, empty]
    simp [Phase.batch]

/-- Two recorders send three metrics to a collector with batches of two.  The second metric comes
while the first batch is filled, the third one when it is closed. -/
theorem counts_all_of_pair :
    let login : Metric := ⟨"login", .ok, .ofMillis 20⟩
    let search : Metric := ⟨"search", .ko "timeout", .ofMillis 30⟩
    let logout : Metric := ⟨"logout", .ok, .zero⟩
    let sent := [login, search, logout]
    ∃ here returned, Path 2 start here ∧ here.sent = sent ∧ here.phase = .ended returned ∧
      here.snapshots = [.ofMetrics [login, search], .ofMetrics sent] ∧
      returned = .ofMetrics sent ∧ here.snapshots.getLast? = some returned := by
  intro login search logout sent
  have path :=
    (Relation.ReflTransGen.refl : Path 2 start start)
      |>.tail (.clone (by decide))
      |>.tail (.send (by decide) : Step 2 _ (send _ [login]))
      |>.tail (.first rfl rfl)
      |>.tail (.send (by decide) : Step 2 _ (send _ [search]))
      |>.tail (.more rfl (by decide) rfl)
      |>.tail (.full rfl (by decide))
      |>.tail (.send (by decide) : Step 2 _ (send _ [logout]))
      |>.tail (.drop (by decide))
      |>.tail (.count rfl)
      |>.tail (.publish rfl)
      |>.tail (.first rfl rfl)
      |>.tail (.dry rfl rfl)
      |>.tail (.drop (by decide))
      |>.tail (.count rfl)
      |>.tail (.finish rfl rfl rfl)
  obtain ⟨_, returns, _⟩ := counts_all path
  obtain ⟨counted, last⟩ := returns _ rfl
  exact ⟨_, _, path, rfl, rfl, rfl, counted, last⟩

/-! ### The collector of a run -/

theorem path_clone (sending : 0 < here.recorders) (more : Nat) :
    Path size here { here with recorders := here.recorders + more } := by
  induction more with
  | zero => exact .refl
  | succ more inductionHypothesis =>
      exact inductionHypothesis.tail (.clone (Nat.lt_of_lt_of_le sending (Nat.le_add_right ..)))

theorem path_send (sending : 0 < here.recorders) (metrics : List Metric) :
    Path size here (here.send metrics) := by
  induction metrics generalizing here with
  | nil =>
      rw [send, List.append_nil, List.append_nil]
  | cons metric metrics inductionHypothesis =>
      have same : here.send (metric :: metrics) = (here.send [metric]).send metrics := by
        simp [send]
      rw [same]
      exact .head (.send sending) (inductionHypothesis sending)

/-- A batch that is filled while nobody sends. -/
theorem path_fill (filling : here.phase = .filling batch) :
    Path size here
      { here.count (batch ++ here.queue.take (size - batch.length)) with
        queue := here.queue.drop (size - batch.length) } := by
  induction queue : here.queue generalizing here batch with
  | nil =>
      have dry : Step size here { here with phase := .closed batch } := .dry filling queue
      have counts : Step size { here with phase := .closed batch } (here.count batch) := .count rfl
      refine .head dry (.head counts ?_)
      rw [List.take_nil, List.drop_nil, List.append_nil, ← queue]
      exact .refl
  | cons metric rest inductionHypothesis =>
      by_cases room : batch.length < size
      · have more := Step.more filling room queue
        have left : size - batch.length = size - (batch ++ [metric]).length + 1 := by
          rw [List.length_append, List.length_singleton]
          omega
        rw [left, List.take_succ_cons, List.drop_succ_cons, List.append_cons]
        exact .head more (inductionHypothesis rfl rfl)
      · have full : Step size here { here with phase := .closed batch } :=
          .full filling (Nat.le_of_not_lt room)
        have counts : Step size { here with phase := .closed batch } (here.count batch) :=
          .count rfl
        have none_left : size - batch.length = 0 := Nat.sub_eq_zero_of_le (Nat.le_of_not_lt room)
        refine .head full (.head counts ?_)
        rw [none_left, List.take_zero, List.drop_zero, List.append_nil, ← queue]
        exact .refl

/-- Where nobody sends meanwhile, a batch is what `Collector.receive` takes. -/
theorem path_receive (waiting : here.phase = .waiting) (queued : here.queue ≠ []) :
    Path size here
      { here with
        collector := (here.collector.receive size here.queue).1
        queue := (here.collector.receive size here.queue).2 } := by
  obtain ⟨metric, rest, queue⟩ := List.exists_cons_of_ne_nil queued
  let taken : Collection := { here with phase := .filling [metric], queue := rest }
  have first : Step size here taken := .first waiting queue
  have fills : Path size taken
      { taken.count ([metric] ++ rest.take (size - 1)) with queue := rest.drop (size - 1) } :=
    path_fill rfl
  refine .head first ?_
  have atLeastOne : max 1 size = size - 1 + 1 := by omega
  simpa [Collector.receive, queue, atLeastOne, count, waiting, taken] using fills

end Collection

namespace Run

variable {State : Type} {plan : Plan State} {may : Run State → Choice → Prop}
  {run next : Run State} {here : Collection}

/-- How many can still record: all users at work, and the dispatcher as long as it spawns users. -/
def recorders (run : Run State) : Nat :=
  (if run.dispatch.stage = .spawning then 1 else 0) + run.live

/-- The collector of a run is that of a collection. -/
structure Collects (run : Run State) (here : Collection) : Prop where
  collector_eq : here.collector = run.collector
  queue_eq : here.queue = run.inbox.reverse
  recorders_eq : here.recorders = run.recorders
  phase_eq : here.phase = if run.collected then .ended run.collector.stats else .waiting

/-- What a move of a run comes to for the collection. -/
def Collected (here : Collection) (next : Run State) : Prop :=
  ∃ later, Collection.Path Collector.batchSize here later ∧ Collects next later

theorem canRecord_iff : run.canRecord = true ↔ 0 < run.recorders := by
  by_cases spawning : run.dispatch.stage = .spawning
  · have recording : run.canRecord = true := by simp [canRecord, Dispatch.isSpawning, spawning]
    have counts : run.recorders = 1 + run.live := by rw [recorders, if_pos spawning]
    exact ⟨fun _ => by omega, fun _ => recording⟩
  · simp [canRecord, recorders, Dispatch.isSpawning, spawning]

theorem live_pos (counted : Counted plan run) {id : Nat} {user : User}
    (there : run.users[id]? = some user) (working : user.hasEnded = false) : 0 < run.live := by
  rw [counted.live_eq]
  exact Array.countP_pos_iff.2 ⟨user, Array.mem_of_getElem? there, by simp [working]⟩

theorem Collects.same (collects : Collects run here) (collector : next.collector = run.collector)
    (inbox : next.inbox = run.inbox) (recorders : next.recorders = run.recorders)
    (collected : next.collected = run.collected) : Collected here next :=
  ⟨here, .refl, by rw [collector, collects.collector_eq], by rw [inbox, collects.queue_eq],
    by rw [recorders, collects.recorders_eq], by rw [collected, collector, collects.phase_eq]⟩

theorem Collects.stepUser (collects : Collects run here) (counted : Counted plan run) (id : Nat) :
    Collected here (run.stepUser plan id) := by
  cases there : run.users[id]? with
  | none =>
      simp only [Run.stepUser, there]
      exact collects.same rfl rfl rfl rfl
  | some user =>
      obtain ⟨clock, focus, log, same⟩ := stepUser_eq plan there
      rw [same]
      cases ended : user.hasEnded with
      | true =>
          have idle : (run.turnOf plan id user).1 = ⟨user, [], .idle⟩ := by
            unfold turnOf
            rw [User.turn_of_ended (User.hasEnded_iff.1 ended)]
          exact collects.same rfl (by simp [idle]) (by simp [idle, recorders]) rfl
      | false =>
          have live : 0 < run.live := live_pos counted there ended
          have recorders_eq := collects.recorders_eq
          have sending : 0 < here.recorders := by
            rw [recorders_eq, recorders]
            omega
          have sends : Collection.Path Collector.batchSize here _ :=
            Collection.path_send sending ((run.turnOf plan id user).1.deeds.filterMap Deed.metric?)
          have queue := collects.queue_eq
          cases finished : (run.turnOf plan id user).1.pace.ending? with
          | none =>
              refine ⟨_, sends, collects.collector_eq, ?_, ?_, collects.phase_eq⟩
              · simp [Collection.send, queue]
              · simpa [Collection.send, recorders] using recorders_eq
          | some ending =>
              refine ⟨_, sends.tail (.drop sending), collects.collector_eq, ?_, ?_,
                collects.phase_eq⟩
              · simp [Collection.send, queue]
              · simp only [recorders] at recorders_eq
                simp only [Collection.send, recorders, recorders_eq, Option.toList_some,
                  List.length_singleton]
                omega

/-- The dispatcher can record no longer. -/
theorem Collects.close (collects : Collects run here) (spawning : run.dispatch.stage = .spawning)
    (closed : next.dispatch.stage ≠ .spawning) (collector : next.collector = run.collector)
    (inbox : next.inbox = run.inbox) (live : next.live = run.live)
    (collected : next.collected = run.collected) : Collected here next := by
  have before : here.recorders = 1 + run.live := by
    simp [collects.recorders_eq, recorders, spawning]
  have after : next.recorders = run.live := by
    simp [recorders, closed, live]
  refine ⟨_, .single (.drop ?_), ?_, ?_, ?_, ?_⟩
  · omega
  · rw [collector, collects.collector_eq]
  · rw [inbox, collects.queue_eq]
  · simp only [before, after]
    omega
  · rw [collected, collector, collects.phase_eq]

theorem Collects.finished (collects : Collects run here) :
    Collected here (run.undertake plan .finished) := by
  obtain ⟨clock, same⟩ := undertake_finished plan run
  rw [same]
  cases stage : run.dispatch.stage with
  | spawning =>
      refine collects.close stage ?_ rfl rfl rfl rfl
      simp [Dispatch.handle, stage, Dispatch.close]
  | _ =>
      refine collects.same rfl rfl ?_ rfl
      simp [recorders, Dispatch.handle, stage]

theorem Collects.due (collects : Collects run here) (spawning : run.dispatch.stage = .spawning)
    (moment : Nat) : Collected here (run.undertake plan (.due moment)) := by
  obtain ⟨clock, same⟩ := undertake_due plan run moment
  rw [same]
  have before : here.recorders = 1 + run.live := by
    simp [collects.recorders_eq, recorders, spawning]
  have clones : Collection.Path Collector.batchSize here _ :=
    Collection.path_clone (by omega)
      ((run.dispatch.handle (.due moment)).nextId - run.users.size)
  refine ⟨_, clones, collects.collector_eq, collects.queue_eq, ?_, collects.phase_eq⟩
  simp only [recorders, Dispatch.handle, spawning, Dispatch.spawn, if_true, before,
    List.length_map, List.length_range]
  exact Nat.add_assoc ..

theorem Collects.undertake (collects : Collects run here) {event : Dispatch.Event}
    (possible : run.Possible plan event) : Collected here (run.undertake plan event) := by
  cases possible with
  | finished => exact collects.finished
  | @cancelled reason wake spawning =>
      obtain ⟨clock, same⟩ := undertake_cancelled plan run reason wake
      rw [same]
      refine collects.close spawning ?_ rfl rfl rfl rfl
      simp [Dispatch.handle, spawning, Dispatch.close]
  | @deadline wake spawning =>
      obtain ⟨clock, same⟩ := undertake_cancelled plan run .timeout wake
      rw [same]
      refine collects.close spawning ?_ rfl rfl rfl rfl
      simp [Dispatch.handle, spawning, Dispatch.close]
  | due spawning => exact collects.due spawning _
  | joined => exact collects.same rfl rfl rfl rfl
  | @graceOver wake reason grace =>
      obtain ⟨clock, same⟩ := undertake_graceOver plan run
      rw [same]
      refine collects.same rfl rfl ?_ rfl
      simp [recorders, Dispatch.handle, grace]

/-- A snapshot that was published at the end stays as it is. -/
theorem Collects.publish_eq (collects : Collects run here) (done : run.collected = true)
    (path : Collection.Path Collector.batchSize .start here) :
    run.collector.publish = run.collector := by
  obtain ⟨counted, counts, sound⟩ := Collection.exists_sound path
  have ended : here.phase = .ended run.collector.stats := by rw [collects.phase_eq, if_pos done]
  obtain ⟨_, _, _, last⟩ := sound.returned _ ended
  have published := sound.published_eq
  rw [last, Option.getD_some, collects.collector_eq] at published
  exact Collector.publish_of_published published

theorem Collects.stepCollector (collects : Collects run here) (closed : Closed run)
    (path : Collection.Path Collector.batchSize .start here) :
    Collected here (run.stepCollector plan) := by
  have waiting (going : run.collected = false) : here.phase = .waiting := by
    rw [collects.phase_eq, if_neg (by simp [going])]
  unfold Run.stepCollector
  split
  next metric rest inbox =>
    have going : run.collected = false := by
      cases done : run.collected with
      | false => rfl
      | true =>
          rw [(closed.collected done).1] at inbox
          cases inbox
    have queued : here.queue ≠ [] := by simp [collects.queue_eq, inbox]
    refine ⟨_, Collection.path_receive (waiting going) queued, ?_, ?_, collects.recorders_eq, ?_⟩
    · simp only [collects.collector_eq, collects.queue_eq]
    · simp only [collects.collector_eq, collects.queue_eq, List.reverse_reverse]
    · simp only [going, waiting going, Bool.false_eq_true, if_false]
  next inbox =>
    have empty : here.queue = [] := by
      rw [collects.queue_eq, inbox]
      rfl
    split
    next quiet =>
      have alone : here.recorders = 0 := by
        have none_left : ¬ 0 < run.recorders := fun left => by
          simp [canRecord_iff.2 left] at quiet
        rw [collects.recorders_eq]
        omega
      cases done : run.collected with
      | true => exact collects.same (collects.publish_eq done path) rfl rfl done.symm
      | false =>
          refine ⟨_, .single (.finish (waiting done) empty alone), ?_, collects.queue_eq,
            collects.recorders_eq, ?_⟩
          · simp only [Collection.publish, collects.collector_eq]
            rfl
          · simp only [collects.collector_eq]
            rfl
    next busy =>
      have going : run.collected = false := by
        cases done : run.collected with
        | false => rfl
        | true =>
            obtain ⟨_, dead, past⟩ := closed.collected done
            simp [canRecord, Dispatch.isSpawning, dead, past] at busy
      split
      · refine ⟨_, .single (.publish (waiting going)), ?_, collects.queue_eq,
          collects.recorders_eq, ?_⟩
        · simp only [Collection.publish, collects.collector_eq]
        · simp only [Collection.publish, going, waiting going, Bool.false_eq_true, if_false]
      · split
        · exact collects.same rfl rfl rfl rfl
        · exact collects.same rfl rfl rfl rfl

theorem Collects.moves (collects : Collects run here) (counted : Counted plan run)
    (closed : Closed run) (path : Collection.Path Collector.batchSize .start here)
    (moves : Moves plan may run next) : Collected here next := by
  cases moves with
  | user => exact collects.stepUser counted _
  | dispatcher _ possible => exact collects.undertake possible
  | collector => exact collects.stepCollector closed path
  | caller =>
      obtain ⟨_, _, _, _, _, _, _, same⟩ := stepCaller_eq run
      rw [same]
      exact collects.same rfl rfl rfl rfl
  | stop =>
      obtain ⟨_, same⟩ := cancelFor_eq run .shutdown
      rw [same]
      exact collects.same rfl rfl rfl rfl
  | pass => exact collects.same rfl rfl rfl rfl
  | reorder => exact collects.same rfl rfl rfl rfl

/-- In whatever order its tasks take their turns, the collector of a run is that of a collection
whose recorders are the users at work and the dispatcher. -/
theorem Reachable.exists_collection (reachable : Reachable plan may run) :
    ∃ here, Collection.Path Collector.batchSize .start here ∧ Collects run here := by
  have kept (run next : Run State) (moves : Moves plan may run next)
      (holds : Reachable plan may run ∧
        ∃ here, Collection.Path Collector.batchSize .start here ∧ Collects run here) :
      Reachable plan may next ∧
        ∃ here, Collection.Path Collector.batchSize .start here ∧ Collects next here := by
    obtain ⟨reachable, here, path, collects⟩ := holds
    obtain ⟨later, more, collectsNext⟩ :=
      collects.moves reachable.tallied.counted reachable.closed path moves
    exact ⟨reachable.move moves, later, path.trans more, collectsNext⟩
  refine (reachable.invariant ?_ kept).2
  intro feeders transport
  exact ⟨⟨feeders, transport, .refl⟩, .start, .refl, rfl, rfl, rfl, rfl⟩

end Run

end LoadTest
