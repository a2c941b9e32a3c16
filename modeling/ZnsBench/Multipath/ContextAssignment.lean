import Mathlib.Logic.Function.Basic
import ZnsBench.Core.RoundRobin
import ZnsBench.Multipath.PoolDemand

/-!
# Contexts dealt to workers and namespaces

`associate_workers_with_ns` walks two circular lists at once, the workers and
the namespaces, and appends one context a pass to the list of the worker it
stands at.  The number of passes is the global `cnt`.

Two invariants carry the loop: the cursors are the number of the pass modulo
the lengths of the two lists, and the workers and the namespaces of the
contexts made so far are rows dealt around these lists.
-/

namespace ZnsBench.Multipath.ContextAssignment

open ZnsBench.Core.RoundRobin
open ZnsBench.Multipath.NamespaceRegistration
open ZnsBench.Multipath.PoolDemand hiding associateFrom associateWorkersWithNs

universe u v

variable {Worker : Type u} {Entry : Type v}

/-- A zeroed `struct ns_worker_ctx` with its entry, and the pass it is from. -/
structure NsWorkerCtx (Entry : Type v) where
  pass : Nat
  entry : Entry
  deriving DecidableEq, Repr

/--
What the function leaves behind: every worker's list `ns_ctx`, and all
contexts in the order of their allocation, each with its worker.
-/
structure Association (Worker : Type u) (Entry : Type v) where
  created : List (Worker × NsWorkerCtx Entry)
  nsCtx : Worker → List (NsWorkerCtx Entry)

/-- `register_workers` initialises every list as an empty one. -/
def Association.empty : Association Worker Entry where
  created := []
  nsCtx := fun _ => []

/-- `TAILQ_INSERT_TAIL(&worker->ns_ctx, ns_ctx, link)`. -/
def Association.insertTail [DecidableEq Worker]
    (association : Association Worker Entry) (worker : Worker)
    (context : NsWorkerCtx Entry) : Association Worker Entry where
  created := association.created ++ [(worker, context)]
  nsCtx :=
    Function.update association.nsCtx worker
      (association.nsCtx worker ++ [context])

/--
The loop of `associate_workers_with_ns`.  `malloc` says which passes get
their memory; `none` is the dereference of a missing worker.
-/
def associateFrom [DecidableEq Worker] (malloc : Nat → Bool)
    (workers : List Worker) (namespaces : List Entry) :
    Nat → Nat → Nat → Nat → Association Worker Entry →
      Option (Int × Association Worker Entry)
  | 0, _, _, _, association => some (0, association)
  | remaining + 1, pass, worker, position, association =>
      match namespaces[position]? with
      | none => some (0, association)
      | some entry =>
          if malloc pass then
            match workers[worker]? with
            | none => none
            | some thread =>
                associateFrom malloc workers namespaces remaining (pass + 1)
                  (advance workers.length worker)
                  (advance namespaces.length position)
                  (association.insertTail thread ⟨pass, entry⟩)
          else
            some (1, association)

/-- `associate_workers_with_ns`: its return value and what it built. -/
def associateWorkersWithNs [DecidableEq Worker] (malloc : Nat → Bool)
    (cnt : Nat) (workers : List Worker) (namespaces : List Entry) :
    Option (Int × Association Worker Entry) :=
  associateFrom malloc workers namespaces cnt 0 0 0 .empty

/-! ## One pass -/

/-- A cursor that wraps is the number of the pass modulo the length. -/
theorem advance_mod {length : Nat} (positive : 0 < length) (pass : Nat) :
    advance length (pass % length) = (pass + 1) % length := by
  rw [advance, succ_mod positive]

section Lists

variable [DecidableEq Worker]

/--
The contexts after some passes: both rows are dealt around their lists, and
every worker's list holds its own contexts in the order of creation.
-/
structure Dealt (workers : List Worker) (namespaces : List Entry)
    (pass : Nat) (association : Association Worker Entry) : Prop where
  length : association.created.length = pass
  numbered :
    ∀ index < pass,
      (association.created[index]?).map (fun context => context.2.pass) =
        some index
  workerRow : DealtFrom workers (association.created.map Prod.fst)
  entryRow :
    DealtFrom namespaces
      (association.created.map fun context => context.2.entry)
  lists :
    ∀ worker,
      association.nsCtx worker =
        (association.created.filter fun context =>
          context.1 = worker).map Prod.snd

theorem dealt_empty (workers : List Worker) (namespaces : List Entry) :
    Dealt workers namespaces 0 Association.empty where
  length := rfl
  numbered := fun _ before => absurd before (Nat.not_lt_zero _)
  workerRow := dealtFrom_nil workers
  entryRow := dealtFrom_nil namespaces
  lists := fun _ => rfl

/-- A pass appends one context to the list of its worker, and to no other. -/
@[simp]
theorem Association.insertTail_nsCtx
    (association : Association Worker Entry) (worker other : Worker)
    (context : NsWorkerCtx Entry) :
    (association.insertTail worker context).nsCtx other =
      association.nsCtx other ++ if worker = other then [context] else [] := by
  unfold Association.insertTail
  split
  · next same =>
    subst same
    simp only [Function.update_self]
  · next different =>
    simp only [Function.update_of_ne (Ne.symm different), List.append_nil]

theorem Dealt.insertTail
    {workers : List Worker} {namespaces : List Entry} {pass : Nat}
    {association : Association Worker Entry}
    (dealt : Dealt workers namespaces pass association)
    {worker : Worker} {entry : Entry}
    (workerNext : workers[pass % workers.length]? = some worker)
    (entryNext : namespaces[pass % namespaces.length]? = some entry) :
    Dealt workers namespaces (pass + 1)
      (association.insertTail worker ⟨pass, entry⟩) where
  length := by
    simp only [Association.insertTail, List.length_append, dealt.length,
      List.length_singleton]
  numbered := by
    intro index before
    rcases Nat.lt_succ_iff_lt_or_eq.mp before with earlier | rfl
    · have inside : index < association.created.length := by
        rw [dealt.length]
        exact earlier
      simp only [Association.insertTail]
      rw [List.getElem?_append_left inside]
      exact dealt.numbered index earlier
    · have last := dealt.length
      subst last
      simp only [Association.insertTail, List.getElem?_concat_length,
        Option.map_some]
  workerRow := by
    simp only [Association.insertTail, List.map_append, List.map_cons,
      List.map_nil]
    apply dealt.workerRow.append_singleton
    rw [List.length_map, dealt.length]
    exact workerNext
  entryRow := by
    simp only [Association.insertTail, List.map_append, List.map_cons,
      List.map_nil]
    apply dealt.entryRow.append_singleton
    rw [List.length_map, dealt.length]
    exact entryNext
  lists := by
    intro other
    rw [Association.insertTail_nsCtx, dealt.lists other]
    simp only [Association.insertTail, List.filter_append, List.map_append]
    split
    · next same => simp [same]
    · next different => simp [different]

/-! ## The loop -/

/-- A loop that returns 0 has made all its passes, and one context in each. -/
theorem dealt_of_associateFrom
    {malloc : Nat → Bool} {workers : List Worker} {namespaces : List Entry}
    (someWorker : 0 < workers.length)
    (someNamespace : 0 < namespaces.length)
    (remaining : Nat) {pass : Nat}
    {association final : Association Worker Entry}
    (dealt : Dealt workers namespaces pass association)
    (returned :
      associateFrom malloc workers namespaces remaining pass
          (pass % workers.length) (pass % namespaces.length) association =
        some (0, final)) :
    Dealt workers namespaces (pass + remaining) final := by
  induction remaining generalizing pass association with
  | zero =>
      simp only [associateFrom, Option.some.injEq, Prod.mk.injEq, true_and]
        at returned
      rw [← returned]
      exact dealt
  | succ remaining induction =>
      have workerInside := Nat.mod_lt pass someWorker
      have entryInside := Nat.mod_lt pass someNamespace
      rw [associateFrom, List.getElem?_eq_getElem entryInside,
        List.getElem?_eq_getElem workerInside,
        advance_mod someWorker, advance_mod someNamespace] at returned
      simp only at returned
      split at returned
      · have next :=
          dealt.insertTail
            (List.getElem?_eq_getElem workerInside)
            (List.getElem?_eq_getElem entryInside)
        have run := induction next returned
        rw [Nat.add_right_comm] at run
        exact run
      · simp at returned

theorem dealt_of_associateWorkersWithNs
    {malloc : Nat → Bool} {cnt : Nat}
    {workers : List Worker} {namespaces : List Entry}
    (someWorker : workers ≠ []) (someNamespace : namespaces ≠ [])
    {final : Association Worker Entry}
    (returned :
      associateWorkersWithNs malloc cnt workers namespaces =
        some (0, final)) :
    Dealt workers namespaces cnt final := by
  have run :=
    dealt_of_associateFrom
      (List.length_pos_iff.mpr someWorker)
      (List.length_pos_iff.mpr someNamespace) cnt
      (dealt_empty workers namespaces)
      (by rw [Nat.zero_mod, Nat.zero_mod]; exact returned)
  rwa [Nat.zero_add] at run

/-! ## Balance -/

theorem Dealt.length_nsCtx
    {workers : List Worker} {namespaces : List Entry} {pass : Nat}
    {association : Association Worker Entry}
    (dealt : Dealt workers namespaces pass association) (worker : Worker) :
    (association.nsCtx worker).length =
      (association.created.map Prod.fst).count worker := by
  rw [dealt.lists, List.length_map, List.count_eq_length_filter,
    List.filter_map, List.length_map]
  rfl

/-- The context of a pass, with its worker. -/
theorem Dealt.created_eq
    {workers : List Worker} {namespaces : List Entry} {pass : Nat}
    {association : Association Worker Entry}
    (dealt : Dealt workers namespaces pass association)
    {index : Nat} (before : index < pass) :
    ∃ worker entry,
      workers[index % workers.length]? = some worker ∧
        namespaces[index % namespaces.length]? = some entry ∧
          association.created[index]? = some (worker, ⟨index, entry⟩) := by
  have inside : index < association.created.length := by
    rw [dealt.length]
    exact before
  have workerDealt := dealt.workerRow index (by rwa [List.length_map])
  have entryDealt := dealt.entryRow index (by rwa [List.length_map])
  have numbered := dealt.numbered index before
  rw [List.getElem?_map, List.getElem?_eq_getElem inside] at workerDealt
  rw [List.getElem?_map, List.getElem?_eq_getElem inside] at entryDealt
  rw [List.getElem?_eq_getElem inside, Option.map_some,
    Option.some.injEq] at numbered
  refine ⟨_, _, workerDealt.symm, entryDealt.symm, ?_⟩
  rw [List.getElem?_eq_getElem inside]
  congr 1
  exact Prod.ext rfl (congrArg (NsWorkerCtx.mk · _) numbered)

/--
With distinct workers and namespaces the contexts are a balanced round robin
over both.
-/
theorem associateWorkersWithNs_round_robin [DecidableEq Entry]
    (malloc : Nat → Bool) (cnt : Nat)
    (workers : List Worker) (namespaces : List Entry)
    (workersDistinct : workers.Nodup)
    (namespacesDistinct : namespaces.Nodup)
    (someWorker : workers ≠ []) (someNamespace : namespaces ≠ [])
    (final : Association Worker Entry)
    (returned :
      associateWorkersWithNs malloc cnt workers namespaces =
        some (0, final)) :
    final.created.length = cnt ∧
      (∀ index < cnt,
        ∃ worker entry,
          workers[index % workers.length]? = some worker ∧
            namespaces[index % namespaces.length]? = some entry ∧
              final.created[index]? = some (worker, ⟨index, entry⟩)) ∧
      (∀ worker,
        final.nsCtx worker =
          (final.created.filter fun context =>
            context.1 = worker).map Prod.snd) ∧
      (∀ worker ∈ workers, ∀ other ∈ workers,
        (final.nsCtx worker).length ≤ (final.nsCtx other).length + 1) ∧
      (∀ entry ∈ namespaces, ∀ other ∈ namespaces,
        (final.created.countP fun context => context.2.entry = entry) ≤
          (final.created.countP fun context =>
            context.2.entry = other) + 1) ∧
      (max namespaces.length workers.length ≤ cnt →
        (∀ worker ∈ workers, final.nsCtx worker ≠ []) ∧
          ∀ entry ∈ namespaces,
            ∃ context ∈ final.created, context.2.entry = entry) := by
  have dealt :=
    dealt_of_associateWorkersWithNs someWorker someNamespace returned
  have entryCount :
      ∀ entry,
        (final.created.countP fun context => context.2.entry = entry) =
          (final.created.map fun context => context.2.entry).count
            entry := by
    intro entry
    rw [List.count, List.countP_map]
    rfl
  refine
    ⟨dealt.length, fun index before => dealt.created_eq before,
      dealt.lists, ?_, ?_, ?_⟩
  · intro worker listed other otherListed
    rw [dealt.length_nsCtx, dealt.length_nsCtx]
    exact dealt.workerRow.count_le_succ workersDistinct listed otherListed
  · intro entry listed other otherListed
    rw [entryCount, entryCount]
    exact dealt.entryRow.count_le_succ namespacesDistinct listed otherListed
  · intro enough
    constructor
    · intro worker listed
      have present := dealt.workerRow.mem_of_length_le workersDistinct
        (by
          rw [List.length_map, dealt.length]
          exact le_trans (le_max_right _ _) enough)
        listed
      rw [← List.length_pos_iff, dealt.length_nsCtx]
      exact List.count_pos_iff.mpr present
    · intro entry listed
      have present := dealt.entryRow.mem_of_length_le namespacesDistinct
        (by
          rw [List.length_map, dealt.length]
          exact le_trans (le_max_left _ _) enough)
        listed
      exact List.mem_map.mp present

/-- Three contexts over two workers and two namespaces. -/
theorem associateWorkersWithNs_round_robin_three :
    ∃ final : Association Nat Nat,
      associateWorkersWithNs (fun _ => true) 3 [0, 1] [7, 9] =
          some (0, final) ∧
        final.nsCtx 0 = [⟨0, 7⟩, ⟨2, 7⟩] ∧
          (max 2 2 ≤ 3 →
            (∀ worker ∈ [0, 1], final.nsCtx worker ≠ []) ∧
              ∀ entry ∈ [7, 9],
                ∃ context ∈ final.created, context.2.entry = entry) :=
  ⟨_, rfl, by decide,
    (associateWorkersWithNs_round_robin (fun _ => true) 3 [0, 1] [7, 9]
      (by decide) (by decide) (by decide) (by decide) _ rfl).2.2.2.2.2⟩

end Lists

/-! ## When memory suffices -/

theorem associateFrom_returns [DecidableEq Worker]
    (workers : List Worker) (namespaces : List Entry)
    (remaining pass : Nat) {worker position : Nat}
    (workerInside : worker < workers.length)
    (inside : position < namespaces.length)
    (association : Association Worker Entry) :
    ∃ final,
      associateFrom (fun _ => true) workers namespaces remaining pass worker
          position association =
        some (0, final) := by
  induction remaining generalizing pass worker position association with
  | zero => exact ⟨association, rfl⟩
  | succ remaining induction =>
      rw [associateFrom, List.getElem?_eq_getElem inside,
        List.getElem?_eq_getElem workerInside]
      simp only [↓reduceIte]
      exact
        induction (pass + 1) (advance_lt workerInside) (advance_lt inside) _

/-- Without a failing allocation the function returns 0. -/
theorem associateWorkersWithNs_returns [DecidableEq Worker]
    (cnt : Nat) {workers : List Worker} {namespaces : List Entry}
    (someWorker : workers ≠ []) (someNamespace : namespaces ≠ []) :
    ∃ final,
      associateWorkersWithNs (fun _ => true) cnt workers namespaces =
        some (0, final) :=
  associateFrom_returns workers namespaces cnt 0
    (List.length_pos_iff.mpr someWorker)
    (List.length_pos_iff.mpr someNamespace) .empty

theorem pairs_of_associateFrom
    {malloc : Nat → Bool} {workers : Nat} {namespaces : List NsEntry}
    (remaining : Nat) {pass worker position : Nat}
    {association final : Association Nat NsEntry}
    (returned :
      associateFrom malloc (List.range workers) namespaces remaining pass
          worker position association =
        some (0, final)) :
    final.created.map (fun context => (context.1, context.2.entry)) =
      association.created.map (fun context =>
          (context.1, context.2.entry)) ++
        PoolDemand.associateFrom workers namespaces remaining worker
          position := by
  induction remaining generalizing pass worker position association with
  | zero =>
      simp only [associateFrom, Option.some.injEq, Prod.mk.injEq, true_and]
        at returned
      rw [returned, PoolDemand.associateFrom, List.append_nil]
  | succ remaining induction =>
      rw [associateFrom] at returned
      rw [PoolDemand.associateFrom]
      cases present : namespaces[position]? with
      | none =>
          simp only [present, Option.some.injEq, Prod.mk.injEq, true_and]
            at returned
          simp only [returned, List.append_nil]
      | some entry =>
          simp only [present] at returned
          split at returned
          · rcases Nat.lt_or_ge worker workers with inside | outside
            · rw [List.getElem?_range inside] at returned
              simp only [List.length_range] at returned
              rw [induction returned]
              simp only [Association.insertTail, List.map_append,
                List.map_cons, List.map_nil, List.append_assoc,
                List.singleton_append]
            · rw [List.getElem?_eq_none (by rwa [List.length_range])]
                at returned
              simp at returned
          · simp at returned

/-- The pairs that the pool is sized for are the contexts created here. -/
theorem pairs_of_associateWorkersWithNs
    {malloc : Nat → Bool} {cnt workers : Nat} {namespaces : List NsEntry}
    {final : Association Nat NsEntry}
    (returned :
      associateWorkersWithNs malloc cnt (List.range workers) namespaces =
        some (0, final)) :
    final.created.map (fun context => (context.1, context.2.entry)) =
      PoolDemand.associateWorkersWithNs cnt workers namespaces :=
  pairs_of_associateFrom cnt returned

end ZnsBench.Multipath.ContextAssignment
