import Shingo.Outbox.Drainer
/-
  Shingo.Outbox.Fifo — with no failed `Publish` or `AckOutbox`, the drainer is a FIFO queue
  (`OutboxDrainer.drain` over `ListPendingOutbox(50)`).

  The abstract queue (`Fifo`) has the entries pushed so far and the prefix of them popped;
  a step pushes one at the back, pops the next one, or does nothing. `abs` reads a
  drainer state as a queue: pushed are the entries `EnqueueOutbox` returned, popped the
  rows passed to `Publish`. Enqueues may fail, ticks may be skipped (`IsConnected` false,
  a failed listing) and purges run at any time.

  Proved:
  - `step_refines`: each drainer event is one queue step, from every state of such a run.
    The pending rows are the unpublished entries in id order (`FInv.split`), so a batch of
    `ListPendingOutbox(50)` is the front of the queue, whatever was enqueued since.
  - `published_prefix_of_enqueued`: the rows, and so the payloads, passed to `Publish` are
    a prefix of those enqueued, in id order: none repeated, none skipped.
-/

namespace Shingo.Outbox

/-- A FIFO queue: what was pushed, and how much of it was popped. -/
structure Fifo (α : Type) where
  pushed : List α
  popped : List α

inductive FifoStep {α : Type} : Fifo α → Fifo α → Prop
  | push (q : Fifo α) (x : α) : FifoStep q ⟨q.pushed ++ [x], q.popped⟩
  | pop (q : Fifo α) (x : α) : q.pushed[q.popped.length]? = some x → FifoStep q ⟨q.pushed, q.popped ++ [x]⟩
  | skip (q : Fifo α) : FifoStep q q

/-- A queue step keeps the popped entries a prefix of the pushed ones. -/
theorem FifoStep.prefix {α : Type} {q q' : Fifo α} (hs : FifoStep q q') (h : q.popped <+: q.pushed) :
    q'.popped <+: q'.pushed := by
  cases hs with
  | push x => exact h.trans (List.prefix_append _ _)
  | pop x hx =>
    obtain ⟨t, ht⟩ := h
    rw [← ht, List.getElem?_append_right (Nat.le_refl _), Nat.sub_self] at hx
    cases t with
    | nil => simp at hx
    | cons y t =>
      simp only [List.getElem?_cons_zero, Option.some.injEq] at hx
      exact ⟨t, by simp [← ht, hx]⟩
  | skip => exact h

def Attempt.entry (a : Attempt) : Nat × List UInt8 := (a.id, a.payload)

/-- The drainer as a queue of enqueued entries. -/
def abs (s : St) : Fifo (Nat × List UInt8) := ⟨s.enqueued, s.sent.map Attempt.entry⟩

/-- A `Publish` or a store write of a row just published that fails. -/
def noFailure : Ev → Bool
  | .publish ok => ok
  | .write ok => ok
  | _ => true

/-- The listed rows still to publish. -/
def Phase.rest : Phase → List OutboxMessage
  | .idle => []
  | .batch rest => rest
  | .published _ _ rest => rest

/-- The pending rows not yet published: all of them, but for the one whose write is still to
    come. -/
def queued (s : St) : List OutboxMessage :=
  match s.phase with
  | .published .. => (s.db.rows.filter isPending).tail
  | _ => s.db.rows.filter isPending

/-- What holds in a run with no failed publish or write. -/
structure FInv (s : St) : Prop where
  inv : Inv s
  split : s.enqueued = s.sent.map Attempt.entry ++ (queued s).map OutboxMessage.entry
  held : s.phase.rest <+: queued s
  head : ∀ m ok rest, s.phase = .published m ok rest → (s.db.rows.filter isPending).head? = some m ∧ ok = true

theorem finv_init : FInv init := ⟨inv_init, rfl, List.nil_prefix, by simp [init]⟩

section
variable {s : St} (h : FInv s)
include h

theorem FInv.pending_ids : ((s.db.rows.filter isPending).map (·.id)).Pairwise (· < ·) :=
  h.inv.rowIds.sublist ((List.filter_sublist _).map _)

theorem FInv.pending_cons {m : OutboxMessage} {rest : List OutboxMessage}
    (hp : s.phase = .batch (m :: rest) ∨ ∃ ok, s.phase = .published m ok rest) :
    ∃ q, s.db.rows.filter isPending = m :: q ∧ rest <+: q := by
  rcases hp with hp | ⟨ok, hp⟩
  · have hq : queued s = s.db.rows.filter isPending := by simp [queued, hp]
    obtain ⟨t, ht⟩ := h.held
    simp only [hp, Phase.rest, hq] at ht
    exact ⟨rest ++ t, by rw [← ht]; rfl, List.prefix_append _ _⟩
  · obtain ⟨hh, -⟩ := h.head m ok rest hp
    have hheld := h.held
    simp only [hp, Phase.rest, queued] at hheld
    cases hl : s.db.rows.filter isPending with
    | nil => simp [hl] at hh
    | cons x q => simp only [hl, List.head?_cons, Option.some.injEq] at hh; subst hh; exact ⟨q, rfl, by simpa [hl] using hheld⟩

theorem finv_enqueue (p : List UInt8) (t : String) : FInv (step s (.enqueue p t true)) := by
  have hpend : (step s (.enqueue p t true)).db.rows.filter isPending =
      s.db.rows.filter isPending ++ [⟨s.db.nextId, p, t, 0, s.db.clock, none⟩] := by
    simp [step, List.filter_append, isPending, maxOutboxRetries]
  have hq : queued (step s (.enqueue p t true)) = queued s ++ [⟨s.db.nextId, p, t, 0, s.db.clock, none⟩] := by
    unfold queued
    simp only [hpend]
    cases hp : s.phase with
    | published m ok rest =>
      obtain ⟨hh, -⟩ := h.head m ok rest hp
      simp only [step, if_true, hp]
      cases hl : s.db.rows.filter isPending with
      | nil => simp [hl] at hh
      | cons x xs => rfl
    | _ => simp [step, hp]
  refine ⟨inv_step h.inv _, ?_, ?_, fun m ok rest hp => ?_⟩
  · rw [hq]; simp [step, h.split, OutboxMessage.entry]
  · rw [hq]; exact h.held.trans (List.prefix_append _ _)
  · rw [hpend]
    obtain ⟨hh, hok⟩ := h.head m ok rest hp
    exact ⟨by cases hl : s.db.rows.filter isPending <;> simp_all, hok⟩

theorem finv_list (hp : s.phase = .idle) : FInv { s with phase := .resume (listPendingOutbox s.db 50) } := by
  have hq : queued { s with phase := .resume (listPendingOutbox s.db 50) } = s.db.rows.filter isPending := by
    unfold queued; split
    · exact absurd ‹_› (resume_ne_published _ _ _ _)
    · rfl
  refine ⟨inv_list h.inv, ?_, ?_, fun m ok rest he => absurd he (resume_ne_published _ _ _ _)⟩
  · rw [hq]
    simpa [queued, hp] using h.split
  · rw [hq]
    cases hl : listPendingOutbox s.db 50 with
    | nil => exact List.nil_prefix
    | cons x xs => show x :: xs <+: _; rw [← hl]; exact List.take_prefix _ _

theorem finv_publish {m : OutboxMessage} {rest : List OutboxMessage} (hp : s.phase = .batch (m :: rest)) :
    FInv { s with phase := .published m true rest, sent := s.sent ++ [⟨m.id, m.payload, true⟩] } := by
  obtain ⟨q, hq, hrest⟩ := h.pending_cons (.inl hp)
  have hsplit := h.split
  simp only [queued, hp, hq] at hsplit
  refine ⟨inv_publish h.inv hp true, ?_, by simpa [Phase.rest, queued, hq] using hrest, ?_⟩
  · simp [queued, hq, hsplit, Attempt.entry, OutboxMessage.entry]
  · rintro m' ok' rest' ⟨⟩; exact ⟨by simp [hq], rfl⟩

theorem finv_write {m : OutboxMessage} {rest : List OutboxMessage} (hp : s.phase = .published m true rest) :
    FInv { s with phase := .resume rest, db := ackOutbox s.db m.id } := by
  obtain ⟨q, hq, hrest⟩ := h.pending_cons (.inr ⟨true, hp⟩)
  -- acknowledging the first pending row leaves the others, which all have larger ids
  have hpend : (ackOutbox s.db m.id).rows.filter isPending = q := by
    have hlt := h.pending_ids
    rw [hq, List.map_cons, List.pairwise_cons] at hlt
    rw [ackOutbox_pending, hq, List.filter_cons_of_neg (by simp)]
    exact List.filter_eq_self.mpr fun r hr => by
      simpa using Nat.ne_of_gt (hlt.1 r.id (List.mem_map_of_mem _ hr))
  have hqueued : queued { s with db := ackOutbox s.db m.id, phase := .resume rest } = q := by
    unfold queued; split
    · exact absurd ‹_› (resume_ne_published _ _ _ _)
    · exact hpend
  refine ⟨by simpa [step, hp] using inv_step h.inv (.write true), ?_, ?_,
    fun _ _ _ he => absurd he (resume_ne_published _ _ _ _)⟩
  · rw [hqueued]; simpa [queued, hp, hq] using h.split
  · rw [hqueued]
    cases rest with
    | nil => exact List.nil_prefix
    | cons x xs => exact hrest

theorem finv_step (e : Ev) (he : noFailure e = true) : FInv (step s e) := by
  have hp := stepPath s e
  generalize step s e = s' at hp ⊢
  cases hp with
  | skip => exact h
  | enqueue p t => exact finv_enqueue h p t
  | list _ _ hp => exact finv_list h hp
  | publish ok hp => simp only [noFailure] at he; subst he; exact finv_publish h hp
  | writeFailed => simp [noFailure] at he
  | ack hp => exact finv_write h hp
  | retry hp => exact absurd (h.head _ _ _ hp).2 Bool.false_ne_true
  | purge o =>
    have hq : queued { s with db := purgeOldOutbox s.db o } = queued s := by
      simp only [queued, purgeOldOutbox_pending]
    exact ⟨inv_purge h.inv o, by rw [hq]; exact h.split, by rw [hq]; exact h.held,
      fun m ok rest hp => by rw [purgeOldOutbox_pending]; exact h.head m ok rest hp⟩
  | advance dt => exact ⟨inv_step h.inv (.advance dt), h.split, h.held, h.head⟩

/-- Each event of such a run is one step of the queue. -/
theorem step_refines (e : Ev) (he : noFailure e = true) : FifoStep (abs s) (abs (step s e)) := by
  have hp := stepPath s e
  generalize step s e = s' at hp ⊢
  cases hp with
  | enqueue p t => exact .push _ (s.db.nextId, p)
  | @publish ok m rest hp =>
    simp only [noFailure] at he; subst he
    obtain ⟨q, hq, -⟩ := h.pending_cons (.inl hp)
    have hsplit := h.split
    simp only [queued, hp, hq, List.map_cons] at hsplit
    have habs : abs { s with phase := .published m true rest, sent := s.sent ++ [⟨m.id, m.payload, true⟩] } =
        ⟨(abs s).pushed, (abs s).popped ++ [m.entry]⟩ := by
      simp [abs, Attempt.entry, OutboxMessage.entry]
    rw [habs]
    refine .pop (abs s) m.entry ?_
    simp only [abs]
    rw [hsplit, List.getElem?_append_right (by simp), List.length_map, Nat.sub_self]
    exact List.getElem?_cons_zero
  | _ => exact .skip _

end

/-- With no failed `Publish` or `AckOutbox`, every run is a run of the queue: the rows passed
    to `Publish` are a prefix of those enqueued, in id order, and so are their payloads. -/
theorem published_prefix_of_enqueued (evs : List Ev) (hok : ∀ e ∈ evs, noFailure e = true) :
    Relation.ReflTransGen FifoStep (abs init) (abs (run init evs)) ∧
      (run init evs).sent.map Attempt.entry <+: (run init evs).enqueued ∧
      (run init evs).sent.map (·.payload) <+: (run init evs).enqueued.map (·.2) := by
  suffices ∀ s, FInv s → Relation.ReflTransGen FifoStep (abs init) (abs s) →
      FInv (run s evs) ∧ Relation.ReflTransGen FifoStep (abs init) (abs (run s evs)) by
    obtain ⟨hf, hr⟩ := this init finv_init .refl
    have hpre : (run init evs).sent.map Attempt.entry <+: (run init evs).enqueued := ⟨_, hf.split.symm⟩
    exact ⟨hr, hpre, by simpa [List.map_map, Function.comp_def, Attempt.entry] using hpre.map Prod.snd⟩
  induction evs with
  | nil => exact fun s hf hr => ⟨hf, hr⟩
  | cons e evs ih =>
    intro s hf hr
    have he := hok e (List.mem_cons_self _ _)
    exact ih (fun e' he' => hok e' (List.mem_cons_of_mem _ he')) _ (finv_step hf e he)
      (hr.tail (step_refines hf e he))

/-- Two ticks with an enqueue between them, and nothing failing. -/
def twoTicks : List Ev :=
  [.enqueue [1] "order.request" true, .enqueue [2] "order.request" true, .list true true,
    .publish true, .enqueue [3] "order.request" true, .write true, .publish true, .write true,
    .list true true, .publish true, .write true]

theorem published_prefix_of_enqueued_two_ticks :
    (∀ e ∈ twoTicks, noFailure e = true) ∧
      Relation.ReflTransGen FifoStep (abs init) (abs (run init twoTicks)) ∧
      (run init twoTicks).sent.map Attempt.entry <+: (run init twoTicks).enqueued ∧
      (run init twoTicks).sent.map (·.payload) <+: (run init twoTicks).enqueued.map (·.2) :=
  ⟨by decide, published_prefix_of_enqueued twoTicks (by decide)⟩

end Shingo.Outbox
