import Mathlib.Data.List.Count
import ZnsBench.Nvmf.CensusRuns

/-!
# Every poll group is in one place

The census counts poll groups; here they are told apart.  A thread that was
made for a poll group has been asked to create it, or has created it, or
could not, or its group is listed, or it has been asked to destroy it, or is
destroying it, or has told of its end and is about to exit, or has exited:
one of these, once.  A thread that exits is sent nothing, although the poller
that moves poll groups between the cores sends messages of its own until the
groups are taken off the list.
-/

namespace ZnsBench.Nvmf.TargetLifecycle

variable {config : Config} {quiet : Prop} {target next : Target}

/-- How often a poll group is found, wherever it may be. -/
def places (target : Target) (pg : Nat) : Nat :=
  target.groupQueue.count (pg, .createPollGroup) +
    target.initQueue.count (.createPollGroupsDone pg) +
    target.failed.count pg +
    target.pollGroups.count pg +
    target.groupQueue.count (pg, .destroyPollGroup) +
    target.pending.count (.pollGroupDestroy pg) +
    target.exiting.count pg +
    target.exited.count pg

/-- Every thread is in one place, and hears nothing after its last word. -/
structure Owned (target : Target) : Prop where
  single :
    ∀ pg, places target pg = if pg < target.threads then 1 else 0
  /-- A thread asked to destroy its poll group is sent nothing more. -/
  lastWord :
    target.groupQueue.Pairwise fun earlier later =>
      earlier.2 = .destroyPollGroup → later.1 ≠ earlier.1
  /-- Only poll groups that are up are moved. -/
  migrating :
    ∀ pg, (pg, .migrate) ∈ target.groupQueue →
      pg ∈ target.pollGroups ∨
        (pg, .destroyPollGroup) ∈ target.groupQueue

theorem owned_initial : Owned initial where
  single := fun _ => rfl
  lastWord := List.Pairwise.nil
  migrating := fun _ member => (List.not_mem_nil member).elim

theorem Owned.places_le (owned : Owned target) (pg : Nat) :
    places target pg ≤ 1 := by
  rw [owned.single pg]
  split
  · exact le_refl 1
  · exact Nat.zero_le 1

/-! ## Frames -/

/-- No poll group has moved. -/
structure SameOwners (target next : Target) : Prop where
  threads : next.threads = target.threads
  listed : next.pollGroups = target.pollGroups
  failed : next.failed = target.failed
  exiting : next.exiting = target.exiting
  exited : next.exited = target.exited
  groupQueue : next.groupQueue = target.groupQueue
  told :
    ∀ pg, next.initQueue.count (.createPollGroupsDone pg) =
      target.initQueue.count (.createPollGroupsDone pg)
  going :
    ∀ pg, next.pending.count (.pollGroupDestroy pg) =
      target.pending.count (.pollGroupDestroy pg)

theorem Owned.congr
    (owned : Owned target) (same : SameOwners target next) :
    Owned next where
  single := by
    intro pg
    rw [places, same.groupQueue, same.told, same.failed, same.listed,
      same.going, same.exiting, same.exited, same.threads]
    exact owned.single pg
  lastWord := by
    rw [same.groupQueue]
    exact owned.lastWord
  migrating := by
    rw [same.groupQueue, same.listed]
    exact owned.migrating

theorem SameOwners.trans
    {middle : Target}
    (first : SameOwners target middle) (second : SameOwners middle next) :
    SameOwners target next where
  threads := second.threads.trans first.threads
  listed := second.listed.trans first.listed
  failed := second.failed.trans first.failed
  exiting := second.exiting.trans first.exiting
  exited := second.exited.trans first.exited
  groupQueue := second.groupQueue.trans first.groupQueue
  told := fun pg => (second.told pg).trans (first.told pg)
  going := fun pg => (second.going pg).trans (first.going pg)

/-- What is called, and in which state, moves no poll group. -/
theorem sameOwners_of_eq
    (threads : next.threads = target.threads)
    (listed : next.pollGroups = target.pollGroups)
    (failed : next.failed = target.failed)
    (exiting : next.exiting = target.exiting)
    (exited : next.exited = target.exited)
    (groupQueue : next.groupQueue = target.groupQueue)
    (initQueue : next.initQueue = target.initQueue)
    (pending : next.pending = target.pending) :
    SameOwners target next where
  threads := threads
  listed := listed
  failed := failed
  exiting := exiting
  exited := exited
  groupQueue := groupQueue
  told := fun pg => by rw [initQueue]
  going := fun pg => by rw [pending]

theorem sameOwners_calling (target : Target) (call : LibraryCall) :
    SameOwners target (target.calling call) :=
  sameOwners_of_eq rfl rfl rfl rfl rfl rfl rfl rfl

theorem sameOwners_logging (target : Target) (calls : List LibraryCall) :
    SameOwners target (target.logging calls) :=
  sameOwners_of_eq rfl rfl rfl rfl rfl rfl rfl rfl

theorem sameOwners_moveTo (target : Target) (state : TargetState) :
    SameOwners target (target.moveTo state) :=
  sameOwners_of_eq rfl rfl rfl rfl rfl rfl rfl rfl

theorem sameOwners_unregisterPoller (target : Target) :
    SameOwners target (unregisterPoller target) :=
  sameOwners_of_eq rfl rfl rfl rfl rfl rfl rfl rfl

/-- Signal handlers and requests belong to no poll group. -/
theorem sameOwners_requests
    (target : Target) (intrReceived : Bool)
    (tested raised requests lost : Nat) :
    SameOwners target
      { target with
        intrReceived := intrReceived
        tested := tested
        raised := raised
        requests := requests
        lost := lost } :=
  sameOwners_of_eq rfl rfl rfl rfl rfl rfl rfl rfl

theorem sameOwners_await
    (target : Target) {call : Pending} (other : call.isDestroy = false) :
    SameOwners target (target.await call) where
  threads := rfl
  listed := rfl
  failed := rfl
  exiting := rfl
  exited := rfl
  groupQueue := rfl
  told := fun _ => rfl
  going := by
    intro pg
    have different : call ≠ .pollGroupDestroy pg := by
      rintro rfl
      cases other
    rw [Target.await, List.count_append,
      List.count_eq_zero.mpr fun member =>
        different (List.mem_singleton.mp member).symm, Nat.add_zero]

theorem sameOwners_answered
    (target : Target) {call : Pending} (other : call.isDestroy = false) :
    SameOwners target (target.answered call) where
  threads := rfl
  listed := rfl
  failed := rfl
  exiting := rfl
  exited := rfl
  groupQueue := rfl
  told := fun _ => rfl
  going := by
    intro pg
    have different : Pending.pollGroupDestroy pg ≠ call := by
      rintro rfl
      cases other
    rw [Target.answered, List.count_erase_of_ne different]

theorem sameOwners_dequeued
    {message : InitMessage} {rest : List InitMessage}
    (queue : target.initQueue = message :: rest)
    (other : message.isCreated = false) :
    SameOwners target (target.dequeued rest) where
  threads := rfl
  listed := rfl
  failed := rfl
  exiting := rfl
  exited := rfl
  groupQueue := rfl
  told := by
    intro pg
    have different : message ≠ .createPollGroupsDone pg := by
      rintro rfl
      cases other
    rw [queue, Target.dequeued, List.count_cons_of_ne different]
  going := fun _ => rfl

theorem sameOwners_enqueued
    (target : Target) {message : InitMessage}
    (other : message.isCreated = false) :
    SameOwners target
      (target.dequeued (target.initQueue ++ [message])) where
  threads := rfl
  listed := rfl
  failed := rfl
  exiting := rfl
  exited := rfl
  groupQueue := rfl
  told := by
    intro pg
    have different : message ≠ .createPollGroupsDone pg := by
      rintro rfl
      cases other
    rw [Target.dequeued, List.count_append,
      List.count_eq_zero.mpr fun member =>
        different (List.mem_singleton.mp member).symm, Nat.add_zero]
  going := fun _ => rfl

/-! ## Moves -/

theorem Owned.not_listed
    (owned : Owned target) {pg : Nat}
    (asked : (pg, .destroyPollGroup) ∈ target.groupQueue) :
    pg ∉ target.pollGroups := by
  intro listed
  have once := owned.places_le pg
  have first := List.count_pos_iff.mpr asked
  have second := List.count_pos_iff.mpr listed
  rw [places] at once
  omega

@[simp]
theorem count_map_message
    (groups : List Nat) (message : GroupMessage) (pg : Nat) :
    (groups.map fun pg => (pg, message)).count (pg, message) =
      groups.count pg :=
  List.count_map_of_injective groups (fun pg => (pg, message))
    (fun _ _ same => congrArg Prod.fst same) pg

theorem count_map_other
    (groups : List Nat) {message other : GroupMessage}
    (different : message ≠ other) (pg : Nat) :
    (groups.map fun pg => (pg, message)).count (pg, other) = 0 := by
  refine List.count_eq_zero.mpr fun member => ?_
  rcases List.mem_map.mp member with ⟨_, _, same⟩
  exact different (congrArg Prod.snd same)

/-- Poll groups go from the list into messages that ask them to go. -/
theorem Owned.nvmfPollGroupsDestroy (owned : Owned target) :
    Owned (nvmfPollGroupsDestroy target) where
  single := by
    intro pg
    refine Eq.trans ?_ (owned.single pg)
    rw [places, places]
    simp only [TargetLifecycle.nvmfPollGroupsDestroy, List.count_append,
      count_map_message, List.count_nil]
    rw [count_map_other _ (by decide)]
    omega
  lastWord := by
    rw [TargetLifecycle.nvmfPollGroupsDestroy]
    refine List.pairwise_append.mpr ⟨owned.lastWord, ?_, ?_⟩
    · refine List.pairwise_map.mpr ?_
      have nodup : target.pollGroups.Nodup := by
        refine List.nodup_iff_count_le_one.mpr fun pg => ?_
        have once := owned.places_le pg
        rw [places] at once
        omega
      exact nodup.imp fun different _ same => different same.symm
    · rintro ⟨earlier, message⟩ inside ⟨later, _⟩ added asked same
      rcases List.mem_map.mp added with ⟨pg, listed, eq⟩
      cases eq
      cases asked
      cases same
      exact owned.not_listed inside listed
  migrating := by
    intro pg member
    rw [TargetLifecycle.nvmfPollGroupsDestroy] at member ⊢
    refine Or.inr (List.mem_append.mpr ?_)
    rcases List.mem_append.mp member with inside | added
    · rcases owned.migrating pg inside with listed | asked
      · exact Or.inr (List.mem_map.mpr ⟨pg, listed, rfl⟩)
      · exact Or.inl asked
    · rcases List.mem_map.mp added with ⟨_, _, same⟩
      cases congrArg Prod.snd same

/-- The poller sends its messages to the poll groups on the list. -/
theorem Owned.polled (owned : Owned target) :
    Owned (migratePollGroupsByRr target) where
  single := by
    intro pg
    refine Eq.trans ?_ (owned.single pg)
    rw [places, places]
    simp only [migratePollGroupsByRr, List.count_append]
    rw [count_map_other _ (by decide), count_map_other _ (by decide)]
    rfl
  lastWord := by
    rw [migratePollGroupsByRr]
    refine List.pairwise_append.mpr ⟨owned.lastWord, ?_, ?_⟩
    · refine List.pairwise_map.mpr ?_
      exact List.pairwise_of_forall fun _ _ asked => by cases asked
    · rintro ⟨earlier, message⟩ inside ⟨later, _⟩ added asked same
      rcases List.mem_map.mp added with ⟨pg, listed, eq⟩
      cases eq
      cases asked
      cases same
      exact owned.not_listed inside listed
  migrating := by
    intro pg member
    rw [migratePollGroupsByRr] at member ⊢
    rcases List.mem_append.mp member with inside | added
    · rcases owned.migrating pg inside with listed | asked
      · exact Or.inl listed
      · exact Or.inr (List.mem_append_left _ asked)
    · rcases List.mem_map.mp added with ⟨_, listed, same⟩
      cases same
      exact Or.inl listed

/-- The new threads are the ones that are asked to create a poll group. -/
theorem owned_of_asked
    (untouched : Untouched target) (owned : Owned target)
    (count : Nat)
    (threads : next.threads = target.threads + count)
    (queue :
      next.groupQueue =
        target.groupQueue ++
          (List.range' target.threads count).map
            fun pg => (pg, .createPollGroup))
    (listed : next.pollGroups = target.pollGroups)
    (failed : next.failed = target.failed)
    (exiting : next.exiting = target.exiting)
    (exited : next.exited = target.exited)
    (initQueue : next.initQueue = target.initQueue)
    (pending : next.pending = target.pending) :
    Owned next where
  single := by
    intro pg
    have before := owned.single pg
    rw [untouched.threads, if_neg (Nat.not_lt_zero pg)] at before
    rw [places, untouched.queue] at before
    rw [places, queue, listed, failed, exiting, exited, initQueue, pending,
      threads, untouched.queue, untouched.threads, List.nil_append,
      Nat.zero_add,
      count_map_message, count_map_other _ (by decide),
      List.Nodup.count (List.nodup_range' 1)]
    simp only [List.mem_range'_1, Nat.zero_le, Nat.zero_add, true_and]
    simp only [List.count_nil] at before
    omega
  lastWord := by
    rw [queue, untouched.queue, List.nil_append]
    refine List.pairwise_map.mpr ?_
    exact List.pairwise_of_forall fun _ _ asked => by cases asked
  migrating := by
    intro pg member
    rw [queue, untouched.queue, List.nil_append] at member
    rcases List.mem_map.mp member with ⟨_, _, same⟩
    cases congrArg Prod.snd same

/-- The message a thread runs next, and what is left for it. -/
theorem split_of_nextGroupMessage
    {queue : List (Nat × GroupMessage)} {pg : Nat} {message : GroupMessage}
    (next : nextGroupMessage queue pg = some message) :
    ∃ before after,
      queue = before ++ (pg, message) :: after ∧
        queue.erase (pg, message) = before ++ after ∧
        ∀ entry ∈ before, entry.1 ≠ pg := by
  rw [nextGroupMessage] at next
  rcases Option.map_eq_some_iff.mp next with ⟨⟨owner, sent⟩, found, same⟩
  cases same
  rcases List.find?_eq_some_iff_append.mp found with
    ⟨owned, before, after, split, earlier⟩
  have own : owner = pg := by simpa using owned
  cases own
  have others : ∀ entry ∈ before, entry.1 ≠ pg := by
    intro entry member
    simpa using earlier entry member
  refine ⟨before, after, split, ?_, others⟩
  rw [split, List.erase_append_right _ fun member =>
    others _ member rfl, List.erase_cons_head]

theorem Owned.received
    (owned : Owned target) {pg : Nat} {message : GroupMessage}
    (kept :
      ∀ other, (other, .migrate) ∈ target.groupQueue.erase (pg, message) →
        (other, .destroyPollGroup) ∈ target.groupQueue →
          (other, .destroyPollGroup) ∈
            target.groupQueue.erase (pg, message))
    (listed : next.pollGroups = target.pollGroups)
    (queue : next.groupQueue = target.groupQueue.erase (pg, message))
    (threads : next.threads = target.threads)
    (same : ∀ other, places next other = places target other) :
    Owned next where
  single := by
    intro other
    rw [same other, threads]
    exact owned.single other
  lastWord := by
    rw [queue]
    exact owned.lastWord.sublist List.erase_sublist
  migrating := by
    intro other member
    rw [queue] at member ⊢
    rw [listed]
    rcases owned.migrating other (List.mem_of_mem_erase member) with
      up | asked
    · exact Or.inl up
    · exact Or.inr (kept other member asked)

theorem count_groupQueue
    {pg : Nat} {message : GroupMessage}
    (member : (pg, message) ∈ target.groupQueue)
    (entry : Nat × GroupMessage) :
    target.groupQueue.count entry =
      (target.groupQueue.erase (pg, message)).count entry +
        if (pg, message) = entry then 1 else 0 := by
  rw [(List.perm_cons_erase member).count_eq, List.count_cons]
  simp only [beq_iff_eq]

theorem Owned.groupMade
    (owned : Owned target) {pg : Nat}
    (next : nextGroupMessage target.groupQueue pg = some .createPollGroup) :
    Owned (groupMade pg target) := by
  have member := mem_of_nextGroupMessage next
  refine owned.received ?_ rfl rfl rfl ?_
  · intro other _ asked
    exact (List.mem_erase_of_ne (by simp)).mpr asked
  · intro other
    rw [places, places, count_groupQueue member (other, .createPollGroup),
      count_groupQueue member (other, .destroyPollGroup)]
    simp only [TargetLifecycle.groupMade, Target.calling, Target.received,
      List.count_append, List.count_singleton, Prod.mk.injEq,
      reduceCtorEq, and_false, and_true, beq_iff_eq, ↓reduceIte,
      InitMessage.createPollGroupsDone.injEq]
    omega

theorem Owned.groupMissed
    (owned : Owned target) {pg : Nat}
    (next : nextGroupMessage target.groupQueue pg = some .createPollGroup) :
    Owned (groupMissed pg target) := by
  have member := mem_of_nextGroupMessage next
  refine owned.received ?_ rfl rfl rfl ?_
  · intro other _ asked
    exact (List.mem_erase_of_ne (by simp)).mpr asked
  · intro other
    rw [places, places, count_groupQueue member (other, .createPollGroup),
      count_groupQueue member (other, .destroyPollGroup)]
    simp only [TargetLifecycle.groupMissed, Target.calling,
      Target.received, List.count_append, List.count_singleton,
      Prod.mk.injEq, reduceCtorEq, and_false, and_true, beq_iff_eq,
      ↓reduceIte]
    omega

theorem Owned.groupDropped
    (owned : Owned target) {pg : Nat}
    (next :
      nextGroupMessage target.groupQueue pg = some .destroyPollGroup) :
    Owned (groupDropped pg target) := by
  have member := mem_of_nextGroupMessage next
  refine owned.received ?_ rfl rfl rfl ?_
  · -- nothing for the thread follows the message that it runs
    intro other left asked
    refine (List.mem_erase_of_ne ?_).mpr asked
    rintro same
    cases same
    rcases split_of_nextGroupMessage next with
      ⟨before, after, split, erased, earlier⟩
    have silent := owned.lastWord
    rw [split] at silent
    have later :=
      (List.pairwise_cons.mp (List.pairwise_append.mp silent).2.1).1
    rw [erased] at left
    rcases List.mem_append.mp left with inside | inside
    · exact earlier _ inside rfl
    · exact later _ inside rfl rfl
  · intro other
    rw [places, places, count_groupQueue member (other, .createPollGroup),
      count_groupQueue member (other, .destroyPollGroup)]
    simp only [TargetLifecycle.groupDropped, Target.await, Target.calling,
      Target.received, List.count_append, List.count_singleton,
      Prod.mk.injEq, reduceCtorEq, and_false, and_true, beq_iff_eq,
      ↓reduceIte, Pending.pollGroupDestroy.injEq]
    omega

theorem Owned.migrated
    (owned : Owned target) {pg : Nat}
    (next : nextGroupMessage target.groupQueue pg = some .migrate) :
    Owned (target.received pg .migrate) := by
  have member := mem_of_nextGroupMessage next
  refine owned.received ?_ rfl rfl rfl ?_
  · intro other _ asked
    exact (List.mem_erase_of_ne (by simp)).mpr asked
  · intro other
    rw [places, places, count_groupQueue member (other, .createPollGroup),
      count_groupQueue member (other, .destroyPollGroup)]
    simp only [Target.received, Prod.mk.injEq, reduceCtorEq, and_false,
      ↓reduceIte]
    omega

theorem Owned.inserted
    (owned : Owned target) {pg : Nat} {rest : List InitMessage}
    (queue : target.initQueue = .createPollGroupsDone pg :: rest) :
    Owned (inserting pg (target.dequeued rest)) where
  single := by
    intro other
    refine Eq.trans ?_ (owned.single other)
    rw [places, places, queue]
    simp only [inserting, Target.dequeued, List.count_append,
      List.count_cons, List.count_nil, beq_iff_eq,
      InitMessage.createPollGroupsDone.injEq]
    omega
  lastWord := owned.lastWord
  migrating := by
    intro other member
    rcases owned.migrating other member with listed | asked
    · exact Or.inl (List.mem_append_left _ listed)
    · exact Or.inr asked

theorem Owned.groupGone
    (owned : Owned target) {pg : Nat}
    (waiting : .pollGroupDestroy pg ∈ target.pending) :
    Owned
      (pollGroupDestroyed pg
        (target.answered (.pollGroupDestroy pg))) where
  single := by
    intro other
    refine Eq.trans ?_ (owned.single other)
    rw [places, places,
      (List.perm_cons_erase waiting).count_eq (.pollGroupDestroy other)]
    simp only [pollGroupDestroyed, Target.answered, List.count_append,
      List.count_cons, List.count_nil, beq_iff_eq, reduceCtorEq,
      ↓reduceIte, Pending.pollGroupDestroy.injEq]
    omega
  lastWord := owned.lastWord
  migrating := owned.migrating

/-- A thread that exits was about to. -/
theorem Owned.threadLeft
    (owned : Owned target) {pg : Nat} (going : pg ∈ target.exiting) :
    Owned (threadExit pg target) where
  single := by
    intro other
    refine Eq.trans ?_ (owned.single other)
    rw [places, places, (List.perm_cons_erase going).count_eq other]
    simp only [threadExit, List.count_append, List.count_cons,
      List.count_nil, beq_iff_eq]
    omega
  lastWord := owned.lastWord
  migrating := owned.migrating

/-- What waits for a thread that has told of its end is nothing. -/
theorem Owned.silent
    (owned : Owned target) {pg : Nat}
    (gone :
      .pollGroupDestroy pg ∈ target.pending ∨ pg ∈ target.exiting ∨
        pg ∈ target.exited)
    (message : GroupMessage) : (pg, message) ∉ target.groupQueue := by
  intro waits
  have once := owned.places_le pg
  rw [places] at once
  have away :
      0 < target.pending.count (.pollGroupDestroy pg) +
        target.exiting.count pg + target.exited.count pg := by
    rcases gone with going | leaving | out
    · have some := List.count_pos_iff.mpr going
      omega
    · have some := List.count_pos_iff.mpr leaving
      omega
    · have some := List.count_pos_iff.mpr out
      omega
  cases message with
  | createPollGroup =>
      have some := List.count_pos_iff.mpr waits
      omega
  | destroyPollGroup =>
      have some := List.count_pos_iff.mpr waits
      omega
  | migrate =>
      rcases owned.migrating pg waits with listed | asked
      · have some := List.count_pos_iff.mpr listed
        omega
      · have some := List.count_pos_iff.mpr asked
        omega

/-! ## Whole runs -/

theorem owned_stopped
    (owned : Owned target)
    {rest : List Nat} (stops : Stopped rest target next) :
    Owned next := by
  cases stops with
  | waits begins =>
      exact (owned.congr (sameOwners_logging _ _)).congr
        (sameOwners_await _ rfl)
  | passes =>
      have called := owned.congr
        (sameOwners_logging target (rest.map .subsystemStop))
      exact (called.congr
        (sameOwners_moveTo _ .finiPollGroups)).nvmfPollGroupsDestroy

theorem sameOwners_runningTarget (config : Config) (target : Target) :
    SameOwners target (runningTarget config target) := by
  rw [runningTarget]
  split
  · exact sameOwners_of_eq rfl rfl rfl rfl rfl rfl rfl rfl
  · exact sameOwners_of_eq rfl rfl rfl rfl rfl rfl rfl rfl

theorem owned_started
    (owned : Owned target)
    {rest : List Nat} (starts : Started config rest target next) :
    Owned next := by
  cases starts with
  | runs =>
      exact (owned.congr (sameOwners_logging _ _)).congr
        (sameOwners_runningTarget config _)
  | waits begins =>
      exact (owned.congr (sameOwners_logging _ _)).congr
        (sameOwners_await _ rfl)
  | refused begins stops =>
      exact owned_stopped
        (((owned.congr (sameOwners_logging _ _)).congr
          (sameOwners_moveTo _ _)).congr (sameOwners_unregisterPoller _))
        stops

theorem owned_broughtUp
    (untouched : Untouched target) (owned : Owned target)
    (up : BroughtUp config target next) :
    Owned next := by
  cases up with
  | withoutRpc =>
      exact owned.congr (sameOwners_logging _ _)
  | withoutTarget =>
      have waiting : SameOwners target (target.await .subsystemFini) :=
        sameOwners_await target rfl
      exact (owned.congr waiting).congr
        (sameOwners_of_eq rfl rfl rfl rfl rfl rfl rfl rfl)
  | withoutDiscovery =>
      have waiting : SameOwners target (target.await .tgtDestroy) :=
        sameOwners_await target rfl
      exact (owned.congr waiting).congr
        (sameOwners_of_eq rfl rfl rfl rfl rfl rfl rfl rfl)
  | asksForGroups =>
      exact owned_of_asked untouched owned config.cores.length rfl rfl rfl
        rfl rfl rfl rfl rfl

theorem owned_launched
    (phase : Phase config target) (owned : Owned target)
    {rest : List InitMessage}
    (queue : target.initQueue = .appStart :: rest)
    (launch : Launched config (target.dequeued rest) next) :
    Owned next := by
  have one := launches_dequeued queue
  rw [if_pos rfl] at one
  have untouched := (phase.of_launches (by omega)).2.1
  have ready : Owned
      (((target.dequeued rest).moveTo .initSubsystem).calling
        .subsystemInit) :=
    ((owned.congr (sameOwners_dequeued queue rfl)).congr
      (sameOwners_moveTo _ _)).congr (sameOwners_calling _ _)
  cases launch with
  | waits => exact ready.congr (sameOwners_await _ rfl)
  | goesOn up =>
      refine owned_broughtUp ?_ ready up
      exact
        { untouched with
          created := (created_dequeued queue).symm.trans untouched.created
          gone := (gone_dequeued queue).symm.trans untouched.gone }

theorem owned_destroyingTarget (owned : Owned target) :
    Owned (destroyingTarget target) := by
  rw [destroyingTarget]
  split
  · exact (owned.congr (sameOwners_calling _ _)).congr
      (sameOwners_await _ rfl)
  · exact ((owned.congr (sameOwners_moveTo _ _)).congr
      (sameOwners_calling _ _)).congr (sameOwners_await _ rfl)

theorem owned_of_turn
    (phase : Phase config target) (owned : Owned target)
    (turn : Turn config quiet target next) :
    Owned next := by
  cases turn with
  | ignored => exact owned
  | noticed down => exact owned.congr (sameOwners_requests target _ _ _ _ _)
  | requested some =>
      exact owned.congr (sameOwners_requests target _ _ _ _ _)
  | sent some =>
      have asked :
          SameOwners target
            (target.dequeued (target.initQueue ++ [.shutdownCb])) :=
        sameOwners_enqueued target rfl
      exact owned.congr (asked.trans (sameOwners_requests _ _ _ _ _ _))
  | unsent some => exact owned.congr (sameOwners_requests target _ _ _ _ _)
  | launched queue launch => exact owned_launched phase owned queue launch
  | counted queue missing => exact owned.inserted queue
  | complete queue last starts =>
      exact owned_started
        ((owned.inserted queue).congr (sameOwners_moveTo _ _)) starts
  | removed queue left =>
      exact (owned.congr (sameOwners_dequeued queue rfl)).congr
        (sameOwners_of_eq rfl rfl rfl rfl rfl rfl rfl rfl)
  | emptied queue last =>
      refine owned_destroyingTarget ?_
      exact (owned.congr (sameOwners_dequeued queue rfl)).congr
        (sameOwners_of_eq rfl rfl rfl rfl rfl rfl rfl rfl)
  | @deferred rest queue early =>
      have shorter := sameOwners_dequeued queue rfl
      exact owned.congr
        (shorter.trans (sameOwners_enqueued (target.dequeued rest) rfl))
  | mislaid queue early =>
      have shorter := sameOwners_dequeued queue rfl
      exact owned.congr (shorter.trans (sameOwners_requests _ _ _ _ _ _))
  | dropped queue late =>
      exact owned.congr (sameOwners_dequeued queue rfl)
  | shut queue runs stops =>
      exact owned_stopped
        (((owned.congr (sameOwners_dequeued queue rfl)).congr
          (sameOwners_moveTo _ _)).congr (sameOwners_unregisterPoller _))
        stops
  | groupCreated next => exact owned.groupMade next
  | groupFailed next => exact owned.groupMissed next
  | groupLeaving next => exact owned.groupDropped next
  | migrated next => exact owned.migrated next
  | initialised waiting up =>
      have untouched := (phase.of_subsystemInit waiting).2.1
      exact owned_broughtUp
        (untouched.congr (sameCensus_answered target rfl))
        (owned.congr (sameOwners_answered target rfl)) up
  | startedNext waiting starts =>
      exact owned_started
        (owned.congr (sameOwners_answered target rfl)) starts
  | stoppedNext waiting stops =>
      exact owned_stopped
        (owned.congr (sameOwners_answered target rfl)) stops
  | groupGone waiting => exact owned.groupGone waiting
  | threadLeft going => exact owned.threadLeft going
  | targetGone waiting =>
      exact (((owned.congr (sameOwners_answered target rfl)).congr
        (sameOwners_moveTo _ _)).congr (sameOwners_calling _ _)).congr
          (sameOwners_await _ rfl)
  | finished waiting =>
      have answered :
          SameOwners target (target.answered .subsystemFini) :=
        sameOwners_answered target rfl
      exact (owned.congr answered).congr
        (sameOwners_of_eq rfl rfl rfl rfl rfl rfl rfl rfl)
  | polled => exact owned.polled
  | subsystemAdded made fresh early =>
      exact owned.congr (sameOwners_of_eq rfl rfl rfl rfl rfl rfl rfl rfl)

theorem owned_of_reachable (reached : Reachable config target) :
    Owned target :=
  have both : Phase config target ∧ Owned target :=
    reached.preserves (fun target => Phase config target ∧ Owned target)
      ⟨phase_initial, owned_initial⟩ fun _ _ holds turn =>
        ⟨phase_of_turn holds.1 turn,
          owned_of_turn holds.1 holds.2 turn⟩
  both.2

/--
In every state reached every thread made for a poll group is in exactly one
place, and nothing waits for a thread that is destroying its poll group, is
about to exit or has exited.
-/
theorem poll_groups_are_never_lost_or_shared
    (reached : Reachable config target) (pg : Nat) :
    (places target pg = if pg < target.threads then 1 else 0) ∧
      (.pollGroupDestroy pg ∈ target.pending ∨ pg ∈ target.exiting ∨
          pg ∈ target.exited →
        ∀ message, (pg, message) ∉ target.groupQueue) :=
  have owned := owned_of_reachable reached
  ⟨owned.single pg, fun gone => owned.silent gone⟩

theorem poll_groups_are_never_lost_or_shared_booted :
    Reachable oneCore bootedTarget ∧ places bootedTarget 0 = 1 :=
  have reached :=
    reachable_of_foldlM bootEvents_obliged bootEvents_fold
  ⟨reached, (poll_groups_are_never_lost_or_shared reached 0).1⟩

end ZnsBench.Nvmf.TargetLifecycle
