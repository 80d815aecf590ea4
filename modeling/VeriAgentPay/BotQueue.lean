import Mathlib.Data.List.Induction
import VeriAgentPay.LabelledRuns

/-!
# The queue of the chat messages

A message that takes longer than a reply from the menu is put into a queue, from which at most ten
are handled at a time. What has been begun of them is, at every moment, a beginning of what has been
put in: as many as have come to an end, and ten more, if there are so many.
-/

namespace VeriAgentPay.BotQueue
open LabelledRuns

section Model

inductive Platform where
  | telegram | whatsapp | discord | slack
  deriving DecidableEq

/-- A message with what handles it. -/
structure BotJob (Payload Handler : Type) where
  id : String
  platform : Platform
  chatId : String
  text : String
  payload : Payload
  messageId : Option String
  handler : Handler

variable {Payload Handler : Type}

/-- The fields of the service, and the jobs that were taken from the queue and have not come to an
end; `begun` keeps all that were taken, in this order. -/
structure BotQueueService (Payload Handler : Type) where
  queue : List (BotJob Payload Handler)
  activeWorkers : ℕ
  running : List (BotJob Payload Handler)
  begun : List (BotJob Payload Handler)

def concurrency : ℕ := 10

namespace BotQueueService

def empty : BotQueueService Payload Handler := ⟨[], 0, [], []⟩

/-- One job is taken from the queue, if a worker is free. -/
def processQueue (s : BotQueueService Payload Handler) : BotQueueService Payload Handler :=
  if s.activeWorkers ≥ concurrency then s
  else
    match s.queue with
    | [] => s
    | job :: queue =>
      { queue := queue, activeWorkers := s.activeWorkers + 1, running := s.running ++ [job]
        begun := s.begun ++ [job] }

def enqueue (s : BotQueueService Payload Handler) (job : BotJob Payload Handler) :
    BotQueueService Payload Handler :=
  processQueue { s with queue := s.queue ++ [job] }

/-- What follows a handler, of the others that are running. -/
def done (s : BotQueueService Payload Handler) (others : List (BotJob Payload Handler)) :
    BotQueueService Payload Handler :=
  processQueue { s with activeWorkers := s.activeWorkers - 1, running := others }

end BotQueueService

inductive Event (Payload Handler : Type) where
  | enqueue (job : BotJob Payload Handler)
  /-- A handler has come to an end, with an error or without one. -/
  | done (job : BotJob Payload Handler) (failed : Bool)

/-- Handlers come to an end in any order, and while they run jobs may be put in. -/
inductive Step : BotQueueService Payload Handler → Event Payload Handler →
    BotQueueService Payload Handler → Prop
  | enqueue (s : BotQueueService Payload Handler) (job : BotJob Payload Handler) :
  Step s (.enqueue job) (s.enqueue job)
  | done (s : BotQueueService Payload Handler) {job : BotJob Payload Handler} {before after :
      List (BotJob Payload Handler)}
      (hrunning : s.running = before ++ job :: after) (failed : Bool) :
        Step s (.done job failed) (s.done (before ++ after))

abbrev History (Payload Handler : Type) :=
  List (Transition (BotQueueService Payload Handler) (Event Payload Handler))

def enqueued (tr : History Payload Handler) : List (BotJob Payload Handler) :=
  tr.filterMap fun t => match t.event with
    | .enqueue job => some job
    | .done _ _ => none

def finished (tr : History Payload Handler) : List (BotJob Payload Handler) :=
  tr.filterMap fun t => match t.event with
    | .enqueue _ => none
    | .done job _ => some job

end Model

section Invariants

variable {Payload Handler : Type} {s : BotQueueService Payload Handler}

/-- Every running handler has its worker, there are no more workers than there may be, and no job
waits for nothing. -/
structure Busy (s : BotQueueService Payload Handler) : Prop where
  workers : s.activeWorkers = s.running.length
  bounded : s.activeWorkers ≤ concurrency
  waiting : s.queue = [] ∨ s.activeWorkers = concurrency

/-- What `processQueue` does with the jobs that it takes, which are one or none. -/
structure Takes (s s' : BotQueueService Payload Handler) (taken : List (BotJob Payload Handler)) :
    Prop where
  queue : s.queue = taken ++ s'.queue
  running : s'.running = s.running ++ taken
  begun : s'.begun = s.begun ++ taken
  activeWorkers : s'.activeWorkers = s.activeWorkers + taken.length
  length : taken.length ≤ 1
  full : taken = [] → s.queue = [] ∨ concurrency ≤ s.activeWorkers
  free : taken ≠ [] → s.activeWorkers < concurrency

theorem takes_processQueue (s : BotQueueService Payload Handler) :
    ∃ taken, Takes s s.processQueue taken := by
  unfold BotQueueService.processQueue
  split
  case isTrue hfull => exact ⟨[], by simp, by simp, by simp, by simp, by simp,
    fun _ => .inr hfull, fun h => absurd rfl h⟩
  case isFalse hfree =>
    cases hqueue : s.queue with
    | nil => exact ⟨[], by simp [hqueue], by simp, by simp, by simp, by simp,
        fun _ => .inl hqueue, fun h => absurd rfl h⟩
    | cons job queue =>
      exact ⟨[job], hqueue, rfl, rfl, rfl, Nat.le_refl 1, (fun h => nomatch h),
        fun _ => Nat.lt_of_not_le hfree⟩

/-- Before a job is taken at most one job waits, or at most one worker is free. -/
theorem busy_processQueue (hworkers : s.activeWorkers = s.running.length)
    (hbounded : s.activeWorkers ≤ concurrency)
    (hwaiting : s.queue.length ≤ 1 ∨ concurrency ≤ s.activeWorkers + 1) : Busy s.processQueue := by
  obtain ⟨taken, htaken⟩ := takes_processQueue s
  have hqueue := congrArg List.length htaken.queue
  have hworkers' := htaken.activeWorkers
  have hlength := htaken.length
  rw [List.length_append] at hqueue
  cases taken with
  | nil =>
    have hcount : s.processQueue.activeWorkers = s.processQueue.running.length := by
      rw [hworkers', htaken.running, List.length_append, hworkers]
    refine ⟨hcount, by rw [hworkers']; exact hbounded, ?_⟩
    rcases htaken.full rfl with hempty | hfull
    · exact .inl (by simpa [hempty] using htaken.queue)
    · exact .inr (by rw [hworkers']; exact Nat.le_antisymm hbounded hfull)
  | cons job more =>
    have hfree := htaken.free (List.cons_ne_nil _ _)
    rw [List.length_cons] at hqueue hworkers' hlength
    have hcount : s.processQueue.activeWorkers = s.processQueue.running.length := by
      rw [hworkers', htaken.running, List.length_append, List.length_cons, hworkers]
    refine ⟨hcount, by omega, ?_⟩
    rcases hwaiting with hshort | hone
    · exact .inl (List.length_eq_zero_iff.mp (by omega))
    · exact .inr (by omega)

theorem busy_step {e : Event Payload Handler} {s' : BotQueueService Payload Handler} (h : Busy s)
    (hstep : Step s e s') : Busy s' := by
  cases hstep with
  | enqueue job =>
    refine busy_processQueue h.workers h.bounded ?_
    rcases h.waiting with hqueue | hfull
    · exact .inl (by simp [hqueue])
    · exact .inr (Nat.le_succ_of_le (Nat.le_of_eq hfull.symm))
  | @done _ before after hrunning failed =>
    have hlength := congrArg List.length hrunning
    have hworkers := h.workers
    have hbounded := h.bounded
    rw [List.length_append, List.length_cons] at hlength
    refine busy_processQueue ?_ (Nat.le_trans (Nat.sub_le _ _) hbounded) ?_
    · change s.activeWorkers - 1 = (before ++ after).length
      rw [List.length_append]
      omega
    · rcases h.waiting with hqueue | hfull
      · exact .inl (by simp [hqueue])
      · refine .inr ?_
        change concurrency ≤ s.activeWorkers - 1 + 1
        omega

variable {tr : History Payload Handler}

theorem enqueued_snoc (tr : History Payload Handler)
    (t : Transition (BotQueueService Payload Handler) (Event Payload Handler)) :
    enqueued (tr ++ [t]) = enqueued tr ++ enqueued [t] := List.filterMap_append

theorem finished_snoc (tr : History Payload Handler)
    (t : Transition (BotQueueService Payload Handler) (Event Payload Handler)) :
    finished (tr ++ [t]) = finished tr ++ finished [t] := List.filterMap_append

/-- Jobs are taken in the order in which they were put in, each of them once. -/
theorem enqueued_eq (h : Run Step .empty tr s) : enqueued tr = s.begun ++ s.queue := by
  induction h with
  | nil => rfl
  | @snoc tr u e v run last ih =>
    rw [enqueued_snoc, ih]
    cases last with
    | enqueue job =>
      obtain ⟨taken, htaken⟩ := takes_processQueue { u with queue := u.queue ++ [job] }
      have hqueue : u.queue ++ [job] = taken ++ (u.enqueue job).queue := htaken.queue
      have hbegun : (u.enqueue job).begun = u.begun ++ taken := htaken.begun
      rw [hbegun, List.append_assoc, List.append_assoc, ← hqueue]
      rfl
    | @done job before after hrunning failed =>
      obtain ⟨taken, htaken⟩ :=
        takes_processQueue
          { u with activeWorkers := u.activeWorkers - 1, running := before ++ after }
      have hqueue : u.queue = taken ++ (u.done (before ++ after)).queue := htaken.queue
      have hbegun : (u.done (before ++ after)).begun = u.begun ++ taken := htaken.begun
      rw [hbegun, List.append_assoc u.begun taken, ← hqueue, List.append_assoc]
      exact congrArg (u.begun ++ ·) (List.append_nil _)

/-- What has been begun is running or has come to an end. -/
theorem begun_perm (h : Run Step .empty tr s) : s.begun.Perm (finished tr ++ s.running) := by
  induction h with
  | nil => rfl
  | @snoc tr u e v run last ih =>
    rw [finished_snoc]
    cases last with
    | enqueue job =>
      obtain ⟨taken, htaken⟩ := takes_processQueue { u with queue := u.queue ++ [job] }
      have hrunning : (u.enqueue job).running = u.running ++ taken := htaken.running
      have hbegun : (u.enqueue job).begun = u.begun ++ taken := htaken.begun
      rw [hbegun, hrunning, ← List.append_assoc]
      exact (ih.append_right taken).trans (by simp [finished])
    | @done job before after hrunning failed =>
      obtain ⟨taken, htaken⟩ :=
        takes_processQueue
          { u with activeWorkers := u.activeWorkers - 1, running := before ++ after }
      have hleft : (u.done (before ++ after)).running = before ++ after ++ taken := htaken.running
      have hbegun : (u.done (before ++ after)).begun = u.begun ++ taken := htaken.begun
      have hout : (before ++ job :: after).Perm (job :: (before ++ after)) := List.perm_middle
      rw [hbegun, hleft]
      rw [hrunning] at ih
      have hmoved : (u.begun ++ taken).Perm (finished tr ++ (job :: (before ++ after)) ++ taken) :=
        (ih.append_right taken).trans ((hout.append_left _).append_right _)
      exact hmoved.trans (by simp [finished])

theorem busy_of_run (h : Run Step .empty tr s) : Busy s :=
  h.invariant ⟨rfl, Nat.zero_le _, .inl rfl⟩ fun _ _ _ hbusy hstep => busy_step hbusy hstep

/-- Whatever is put in, in whatever order handlers come to an end and whether they fail, what has
been begun is the beginning of what has been put in that is as long as what has come to an end, and
ten more; so at most ten handlers run, and nothing waits while fewer do. -/
theorem begun_exactly (h : Run Step .empty tr s) :
    s.begun = (enqueued tr).take ((finished tr).length + concurrency) ∧
    s.queue = (enqueued tr).drop ((finished tr).length + concurrency) ∧
      s.begun.Perm (finished tr ++ s.running) ∧ s.running.length ≤ concurrency := by
  have henqueued := enqueued_eq h
  have hperm := begun_perm h
  have hbusy := busy_of_run h
  have hlength : s.begun.length = (finished tr).length + s.running.length := by
    rw [hperm.length_eq, List.length_append]
  have hbounded : s.running.length ≤ concurrency := hbusy.workers ▸ hbusy.bounded
  rcases hbusy.waiting with hqueue | hfull
  · rw [hqueue, List.append_nil] at henqueued
    refine ⟨?_, ?_, hperm, hbounded⟩
    · rw [henqueued, List.take_of_length_le (by omega)]
    · rw [henqueued, hqueue, List.drop_of_length_le (by omega)]
  · have hall : (finished tr).length + concurrency = s.begun.length := by
      rw [hlength, ← hbusy.workers, hfull]
    rw [hall, henqueued, List.take_left, List.drop_left]
    exact ⟨rfl, rfl, hperm, hbounded⟩

/-- Any jobs may be put in one after the other. -/
theorem run_enqueue (jobs : List (BotJob Payload Handler)) :
    ∃ tr, Run Step .empty tr (jobs.foldl BotQueueService.enqueue .empty) ∧ enqueued tr = jobs ∧
      finished tr = [] := by
  induction jobs using List.reverseRecOn with
  | nil => exact ⟨[], .nil, rfl, rfl⟩
  | append_singleton jobs job ih =>
    obtain ⟨tr, hrun, henqueued, hfinished⟩ := ih
    rw [List.foldl_append]
    exact ⟨_, hrun.snoc
      (.enqueue _ job), by rw [enqueued_snoc, henqueued]; rfl, by
        rw [finished_snoc, hfinished]; rfl⟩

end Invariants

end VeriAgentPay.BotQueue

namespace VeriAgentPay.Devnet
open LabelledRuns BotQueue

def chatJob (n : ℕ) : BotJob Unit Unit := ⟨s!"job_{n}", .telegram, "chat", "balance", (), none, ()⟩

def chatJobs : List (BotJob Unit Unit) := (List.range 12).map chatJob

/-- Twelve messages come in, and one handler fails: the last message still waits. -/
theorem begun_exactly_devnet :
    ∃ tr s, Run Step (BotQueueService.empty : BotQueueService Unit Unit) tr s ∧
      s.begun = chatJobs.take 11 ∧ s.queue = [chatJob 11] := by
  obtain ⟨tr, hrun, henqueued, hfinished⟩ := run_enqueue chatJobs
  have hrunning : (chatJobs.foldl BotQueueService.enqueue .empty).running = [] ++ chatJob 0 ::
      (chatJobs.take 10).drop 1 := rfl
  have hall := begun_exactly (hrun.snoc (.done _ hrunning true))
  rw [enqueued_snoc, finished_snoc, henqueued, hfinished] at hall
  exact ⟨_, _, hrun.snoc (.done _ hrunning true), hall.1, hall.2.1⟩

end VeriAgentPay.Devnet
