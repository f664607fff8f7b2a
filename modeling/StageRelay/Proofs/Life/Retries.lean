import Mathlib.Data.List.Chain
import Mathlib.Data.List.Nodup
import StageRelay.Proofs.Life.Notices

/-!
# Retries are bounded and accounted for

The attempts at a notice form a chain: each but the last one failed and was queued again, with one
more try and after a delay. At any moment the last one is under way, or it is over and the notice
waits in the queue, once, if the attempt was queued again. The queue never holds more than it may.
-/

namespace StageRelay

namespace Life

variable {l l' l'' : Life} {trace events : List Event} {w w' : Piece} {f : Finished}
  {s : AgentSettings} {n : Notice} {number : Nat} {acts : List Act} {batch : List Stage}
  {done ws vs : List Piece}

/-! ## Chains of attempts -/

/-- The piece of work that is under way. -/
def Desk.piece? : Desk → Option Piece
  | .free => none
  | .busy w | .settled w => some w

/-- The pieces of work about notices that are over. -/
def concluded (trace : List Event) : List Piece :=
  trace.filterMap Event.handled?

theorem concluded_append (trace events : List Event) :
    concluded (trace ++ events) = concluded trace ++ concluded events :=
  List.filterMap_append

/-- The pieces of work about the notice with a number. -/
def chain (ws : List Piece) (number : Nat) : List Piece :=
  ws.filter fun w ↦ w.task.number? = some number

/-- The attempts at the notice with a number, also one that is under way. -/
def attemptsAt (l : Life) (trace : List Event) (number : Nat) : List Piece :=
  chain (concluded trace ++ l.desk.piece?.toList) number

/-- An attempt failed and was queued again: it leads to an attempt with one more try at a time, with
a delay after whatever was done but the measures that were taken. -/
structure Leads (s : AgentSettings) (w : Piece) (task : Task) (time : Nat) : Prop where
  task : ∃ number n, w.task = .handling number n ∧ n.retries ≤ s.maxEventRetries ∧
    n.retries.toNat + 1 < UInt32.size ∧ task = .handling number { n with retries := n.retries + 1 }
  outcomes : outcomes w.acts = [.scheduled]
  delayed : ∀ x ∈ w.acts, ¬ x.IsNote → x.time + s.eventRetryDelay.toNat ≤ time

/-- Each attempt leads to the next one. -/
abbrev Linked (s : AgentSettings) (ws : List Piece) : Prop :=
  ws.IsChain fun w w' ↦ Leads s w w'.task w'.began

theorem Leads.mono {task : Task} {time time' : Nat} (h : Leads s w task time)
    (hle : time ≤ time') : Leads s w task time' :=
  ⟨h.task, h.outcomes, fun x hx hnote ↦ (h.delayed x hx hnote).trans hle⟩

theorem chain_append (ws vs : List Piece) (number : Nat) :
    chain (ws ++ vs) number = chain ws number ++ chain vs number :=
  List.filter_append ..

theorem chain_self (h : w.task.number? = some number) : chain [w] number = [w] := by
  simp [chain, h]

theorem chain_other (h : w.task.number? ≠ some number) : chain [w] number = [] := by
  simp [chain, h]

theorem Linked.concat (h : Linked s ws)
    (hlast : ∀ v ∈ ws.getLast?, Leads s v w.task w.began) : Linked s (ws ++ [w]) := by
  refine List.isChain_append.2 ⟨h, List.isChain_singleton _, ?_⟩
  rintro v hv _ ⟨⟩
  exact hlast v hv

/-- The last attempt goes on. -/
theorem Linked.replace (h : Linked s (ws ++ [w])) (htask : w'.task = w.task)
    (hbegan : w'.began = w.began) : Linked s (ws ++ [w']) := by
  obtain ⟨hws, -, hlast⟩ := List.isChain_append.1 h
  refine Linked.concat hws fun v hv ↦ ?_
  rw [htask, hbegan]
  exact hlast v hv w rfl

/-! ## What holds at any moment -/

/-- What holds of the attempts and of the queue. -/
structure Booked (l : Life) (done : List Piece) : Prop where
  capacity : l.agent.retries.capacity = l.settings.maxPendingRetries
  delay : l.agent.retries.delay = l.settings.eventRetryDelay.toNat
  size : l.agent.retries.size ≤ l.settings.maxPendingRetries
  paired : l.numbers.length = l.agent.retries.size
  once : l.numbers.Nodup
  known : ∀ w ∈ done ++ l.desk.piece?.toList, ∃ number < l.received, w.task.number? = some number
  begun : ∀ number < l.received, chain (done ++ l.desk.piece?.toList) number ≠ []
  linked : ∀ number, Linked l.settings (chain (done ++ l.desk.piece?.toList) number)
  /-- What waits in the queue is what the last attempt leads to. -/
  queued : ∀ (i number : Nat) (e : Delayed), l.numbers[i]? = some number →
    l.agent.retries.entries[i]? = some e →
    ∃ w, (chain (done ++ l.desk.piece?.toList) number).getLast? = some w ∧
      Leads l.settings w (.handling number e.notice) e.due
  busy : ∀ w number, l.desk = .busy w → w.task.number? = some number → number ∉ l.numbers
  /-- What the last attempt leads to waits in the queue, unless it is under way. -/
  owed : ∀ w number, (chain (done ++ l.desk.piece?.toList) number).getLast? = some w →
    outcomes w.acts = [.scheduled] →
    (∀ v, l.desk = .busy v → v.task.number? ≠ some number) → number ∈ l.numbers

theorem IsFresh.booked (h : l.IsFresh) : Booked l [] := by
  have hdesk : l.desk = .free := by rw [desk, h.doing]; rfl
  have hretries := h.retries
  have hpieces : ([] : List Piece) ++ l.desk.piece?.toList = [] := by rw [hdesk]; rfl
  refine ⟨?_, ?_, ?_, ?_, ?_, ?_, ?_, ?_, ?_, ?_, ?_⟩
  · rw [hretries]
  · rw [hretries]
  · rw [hretries]
    exact Nat.zero_le _
  · rw [hretries, h.numbers]
    rfl
  · rw [h.numbers]
    exact List.nodup_nil
  · rw [hpieces]
    exact List.forall_mem_nil _
  · rw [h.received]
    exact fun number hlt ↦ absurd hlt (Nat.not_lt_zero _)
  · rw [hpieces]
    exact fun number ↦ List.IsChain.nil
  · rw [h.numbers]
    exact fun i number e hi ↦ by simp at hi
  · rw [h.numbers]
    exact fun w number _ _ ↦ List.not_mem_nil
  · rw [hpieces]
    exact fun w number hw ↦ by simp [chain] at hw

/-- The last attempt at a notice that waits led to it. -/
theorem Booked.waits (h : Booked l done) (hn : number ∈ l.numbers) :
    ∃ (w : Piece) (e : Delayed), (chain (done ++ l.desk.piece?.toList) number).getLast? = some w ∧
      Leads l.settings w (.handling number e.notice) e.due := by
  obtain ⟨i, hi⟩ := List.mem_iff_getElem?.1 hn
  have hlt : i < l.agent.retries.entries.length := by
    have hlt := (List.getElem?_eq_some_iff.1 hi).1
    rwa [h.paired] at hlt
  obtain ⟨w, hw, hleads⟩ := h.queued i number _ hi (List.getElem?_eq_getElem hlt)
  exact ⟨w, _, hw, hleads⟩

/-- A number that waits was given to a notice. -/
theorem Booked.lt_received (h : Booked l done) (hn : number ∈ l.numbers) :
    number < l.received := by
  obtain ⟨w, e, hw, -⟩ := h.waits hn
  obtain ⟨hmem, hnumber⟩ := List.mem_filter.1 (List.mem_of_getLast? hw)
  obtain ⟨number', hlt', hnumber'⟩ := h.known w hmem
  have heq : number' = number := by
    rw [hnumber'] at hnumber
    simpa using hnumber
  exact heq ▸ hlt'

theorem Booked.chain_eq_nil (h : Booked l done) (hle : l.received ≤ number) :
    chain (done ++ l.desk.piece?.toList) number = [] := by
  refine List.filter_eq_nil_iff.2 fun w hw ↦ ?_
  obtain ⟨number', hlt, hnumber⟩ := h.known w hw
  simp only [hnumber, Option.some.injEq, decide_eq_true_eq]
  exact fun heq ↦ absurd (heq ▸ hlt) (Nat.not_lt.2 hle)

/-! ## Steps -/

theorem Booked.aside (h : Booked l done) (hsettings : l'.settings = l.settings)
    (hdesk : l'.desk = l.desk) (hretries : l'.agent.retries = l.agent.retries)
    (hnumbers : l'.numbers = l.numbers) (hreceived : l'.received = l.received) :
    Booked l' done := by
  obtain ⟨h₁, h₂, h₃, h₄, h₅, h₆, h₇, h₈, h₉, h₁₀, h₁₁⟩ := h
  constructor <;> simp only [hsettings, hdesk, hretries, hnumbers, hreceived] <;> assumption

/-- A notice is taken up: what waits in the queue waits there already, but for the notice itself. -/
structure TakesUp (l l' : Life) (w : Piece) (number : Nat) : Prop where
  settings : l'.settings = l.settings
  desk : l'.desk = .busy w
  numbered : w.task.number? = some number
  new : ∀ k, k < l'.received ↔ k < l.received ∨ k = number
  capacity : l'.agent.retries.capacity = l.agent.retries.capacity
  delay : l'.agent.retries.delay = l.agent.retries.delay
  size : l'.agent.retries.size ≤ l.agent.retries.size
  paired : l'.numbers.length = l'.agent.retries.size
  once : l'.numbers.Nodup
  left : ∀ k, k ∈ l'.numbers ↔ k ∈ l.numbers ∧ k ≠ number
  queued : ∀ (i k : Nat) (e : Delayed), l'.numbers[i]? = some k →
    l'.agent.retries.entries[i]? = some e →
    ∃ j : Nat, l.numbers[j]? = some k ∧ l.agent.retries.entries[j]? = some e

theorem Booked.takesUp (h : Booked l done) (hdesk : l.desk = .free) (ht : TakesUp l l' w number)
    (hlast : ∀ v ∈ (chain done number).getLast?, Leads l.settings v w.task w.began) :
    Booked l' done := by
  have hall : done ++ l.desk.piece?.toList = done := by
    rw [hdesk]
    exact List.append_nil done
  have hall' : done ++ l'.desk.piece?.toList = done ++ [w] := by rw [ht.desk]; rfl
  have hother {k : Nat} (hne : k ≠ number) : chain (done ++ [w]) k = chain done k := by
    rw [chain_append, chain_other (by rw [ht.numbered]; simpa using hne.symm), List.append_nil]
  have hself : chain (done ++ [w]) number = chain done number ++ [w] := by
    rw [chain_append, chain_self ht.numbered]
  obtain ⟨hcapacity, hdelay, hsize, -, -, hknown, hbegun, hlinked, hqueued, -, howed⟩ := h
  rw [hall] at hknown hbegun hlinked hqueued howed
  constructor
  case capacity =>
    rw [ht.capacity, hcapacity, ht.settings]
  case delay =>
    rw [ht.delay, hdelay, ht.settings]
  case size =>
    rw [ht.settings]
    exact ht.size.trans hsize
  case paired =>
    exact ht.paired
  case once =>
    exact ht.once
  case known =>
    rw [hall']
    refine List.forall_mem_append.2 ⟨fun v hv ↦ ?_, List.forall_mem_singleton.2 ?_⟩
    · obtain ⟨k, hlt, hk⟩ := hknown v hv
      exact ⟨k, (ht.new k).2 (.inl hlt), hk⟩
    · exact ⟨number, (ht.new number).2 (.inr rfl), ht.numbered⟩
  case begun =>
    rw [hall']
    intro k hlt
    by_cases heq : k = number
    · rw [heq, hself]
      exact List.concat_ne_nil _ _
    · rw [hother heq]
      exact hbegun k (((ht.new k).1 hlt).resolve_right heq)
  case linked =>
    rw [hall', ht.settings]
    intro k
    by_cases heq : k = number
    · rw [heq, hself]
      exact (hlinked number).concat hlast
    · rw [hother heq]
      exact hlinked k
  case queued =>
    rw [hall', ht.settings]
    intro i k e hi he
    have hne : k ≠ number := ((ht.left k).1 (List.mem_of_getElem? hi)).2
    obtain ⟨j, hj, hj'⟩ := ht.queued i k e hi he
    rw [hother hne]
    exact hqueued j k e hj hj'
  case busy =>
    intro v k hv hk hmem
    obtain rfl : w = v := by
      rw [ht.desk] at hv
      cases hv
      rfl
    rw [ht.numbered] at hk
    exact ((ht.left k).1 hmem).2 (Option.some.inj hk).symm
  case owed =>
    rw [hall']
    intro v k hv ho hbusy
    have hne : k ≠ number := by
      rintro rfl
      exact hbusy w ht.desk ht.numbered
    rw [hother hne] at hv
    exact (ht.left k).2 ⟨howed v k hv ho (by rw [hdesk]; exact nofun), hne⟩

theorem Booked.hears {doing : Doing} (h : Booked l done) (hdesk : l.desk = .free)
    (hd : doing.desk = .busy w) (hw : w.task.number? = some l.received) :
    Booked { l with received := l.received + 1, doing } done := by
  have hnot : l.received ∉ l.numbers := fun hmem ↦ absurd (h.lt_received hmem) (lt_irrefl _)
  have hnil : chain done l.received = [] := by
    have hnil := h.chain_eq_nil (le_refl l.received)
    rwa [hdesk, Desk.piece?, Option.toList_none, List.append_nil] at hnil
  refine h.takesUp hdesk ⟨rfl, hd, hw, ?_, rfl, rfl, le_rfl, h.paired, h.once, ?_, ?_⟩ ?_
  · intro k
    show k < l.received + 1 ↔ _
    omega
  · exact fun k ↦ ⟨fun hk ↦ ⟨hk, fun heq ↦ hnot (heq ▸ hk)⟩, And.left⟩
  · exact fun i k e hi he ↦ ⟨i, hi, he⟩
  · simp [hnil]

theorem mem_eraseIdx_iff {ks : List Nat} {i k : Nat} (hks : ks.Nodup) (hi : ks[i]? = some number) :
    k ∈ ks.eraseIdx i ↔ k ∈ ks ∧ k ≠ number := by
  obtain ⟨hlt, rfl⟩ := List.getElem?_eq_some_iff.1 hi
  rw [← List.Nodup.erase_getElem hks i hlt, List.Nodup.mem_erase_iff hks, and_comm]

/-- A notice comes back. -/
theorem Booked.retries {i : Nat} {e : Delayed} {doing : Doing} (h : Booked l done)
    (hdesk : l.desk = .free) (he : l.agent.retries.entries[i]? = some e)
    (hn : l.numbers[i]? = some number) (ht : e.due ≤ w.began)
    (hw : w.task = .handling number e.notice) (hd : doing.desk = .busy w) :
    Booked { l with
      numbers := l.numbers.eraseIdx i
      agent := { l.agent with
        retries := { l.agent.retries with entries := l.agent.retries.entries.eraseIdx i } }
      doing } done := by
  have hlt : i < l.numbers.length := (List.getElem?_eq_some_iff.1 hn).1
  have hlt' : i < l.agent.retries.entries.length := (List.getElem?_eq_some_iff.1 he).1
  have hpaired : l.numbers.length = l.agent.retries.entries.length := h.paired
  have hleft (k : Nat) : k ∈ l.numbers.eraseIdx i ↔ k ∈ l.numbers ∧ k ≠ number :=
    mem_eraseIdx_iff h.once hn
  obtain ⟨v, hv, hleads⟩ := h.queued i number e hn he
  rw [hdesk, Desk.piece?, Option.toList_none, List.append_nil] at hv
  refine h.takesUp hdesk ⟨rfl, hd, by rw [hw]; rfl, ?_, rfl, rfl, ?_, ?_, ?_, hleft, ?_⟩ ?_
  · intro k
    have hknown : number < l.received := h.lt_received (List.mem_of_getElem? hn)
    show k < l.received ↔ _
    omega
  · show (l.agent.retries.entries.eraseIdx i).length ≤ l.agent.retries.entries.length
    rw [List.length_eraseIdx_of_lt hlt']
    omega
  · show (l.numbers.eraseIdx i).length = (l.agent.retries.entries.eraseIdx i).length
    rw [List.length_eraseIdx_of_lt hlt, List.length_eraseIdx_of_lt hlt', hpaired]
  · exact h.once.eraseIdx i
  · intro j k e' hj he'
    rw [List.getElem?_eraseIdx] at hj he'
    by_cases hji : j < i
    · rw [if_pos hji] at hj he'
      exact ⟨j, hj, he'⟩
    · rw [if_neg hji] at hj he'
      exact ⟨j + 1, hj, he'⟩
  · intro v' hv'
    obtain rfl : v' = v := Option.some.inj (hv'.symm.trans hv)
    rw [hw]
    exact hleads.mono ht

/-- The piece of work that is under way goes on, or is over. -/
theorem Booked.replace {done' : List Piece} (w' : Piece) (h : Booked l done)
    (hpiece : l.desk.piece? = some w)
    (hall' : done' ++ l'.desk.piece?.toList = done ++ [w']) (htask : w'.task = w.task)
    (hbegan : w'.began = w.began) (hsettings : l'.settings = l.settings)
    (hretries : l'.agent.retries = l.agent.retries) (hnumbers : l'.numbers = l.numbers)
    (hreceived : l'.received = l.received)
    (hwaits : ∀ k, w.task.number? = some k → k ∈ l.numbers → w' = w)
    (hbusy : ∀ v k, l'.desk = .busy v → v.task.number? = some k → k ∉ l.numbers)
    (howed : ∀ k, w.task.number? = some k → outcomes w'.acts = [.scheduled] →
      (∀ v, l'.desk = .busy v → v.task.number? ≠ some k) → k ∈ l.numbers) : Booked l' done' := by
  have hall : done ++ l.desk.piece?.toList = done ++ [w] := by rw [hpiece]; rfl
  have hself {v : Piece} {k : Nat} (hk : v.task.number? = some k) :
      chain (done ++ [v]) k = chain done k ++ [v] := by
    rw [chain_append, chain_self hk]
  have hother {v : Piece} {k : Nat} (hk : v.task.number? ≠ some k) :
      chain (done ++ [v]) k = chain done k := by
    rw [chain_append, chain_other hk, List.append_nil]
  obtain ⟨hcapacity, hdelay, hsize, hpaired, honce, hknown, hbegun, hlinked, hqueued, -, howed'⟩ :=
    h
  rw [hall] at hknown hbegun hlinked hqueued howed'
  constructor
  case capacity =>
    rw [hretries, hsettings, hcapacity]
  case delay =>
    rw [hretries, hsettings, hdelay]
  case size =>
    rw [hretries, hsettings]
    exact hsize
  case paired =>
    rw [hretries, hnumbers]
    exact hpaired
  case once =>
    rw [hnumbers]
    exact honce
  case known =>
    rw [hall', hreceived]
    obtain ⟨hdone, hw⟩ := List.forall_mem_append.1 hknown
    refine List.forall_mem_append.2 ⟨hdone, List.forall_mem_singleton.2 ?_⟩
    rw [htask]
    exact hw w (List.mem_singleton.2 rfl)
  case begun =>
    rw [hall', hreceived]
    intro k hlt
    -- only the chain of the notice of `w` changes, and only in its last attempt
    by_cases hk : w.task.number? = some k
    · rw [hself (htask ▸ hk)]
      exact List.concat_ne_nil _ _
    · rw [hother (htask ▸ hk)]
      have hne := hbegun k hlt
      rwa [hother hk] at hne
  case linked =>
    rw [hall', hsettings]
    intro k
    have hk' := hlinked k
    by_cases hk : w.task.number? = some k
    · rw [hself hk] at hk'
      rw [hself (htask ▸ hk)]
      exact hk'.replace htask hbegan
    · rw [hother hk] at hk'
      rw [hother (htask ▸ hk)]
      exact hk'
  case queued =>
    rw [hall', hsettings, hretries, hnumbers]
    intro i k e hi he
    obtain ⟨v, hv, hleads⟩ := hqueued i k e hi he
    by_cases hk : w.task.number? = some k
    · rw [hwaits k hk (List.mem_of_getElem? hi)]
      exact ⟨v, hv, hleads⟩
    · rw [hother hk] at hv
      rw [hother (htask ▸ hk)]
      exact ⟨v, hv, hleads⟩
  case busy =>
    rw [hnumbers]
    exact hbusy
  case owed =>
    rw [hall', hnumbers]
    intro v k hv ho hfree
    by_cases hk : w.task.number? = some k
    · rw [hself (htask ▸ hk), List.getLast?_concat] at hv
      cases hv
      exact howed k hk ho hfree
    · rw [hother (htask ▸ hk)] at hv
      refine howed' v k (by rwa [hother hk]) ho fun u hu ↦ ?_
      rw [hu] at hpiece
      cases hpiece
      exact hk

/-- What was queued again at the end of an attempt. -/
def QueuesAgain (n : Notice) (q : RetryQueue) (acts : List Act) (q' : RetryQueue) : Prop :=
  n.retries.toNat + 1 ≠ UInt32.size ∧ ∃ before now time,
    acts = before ++ [.called ⟨.clock, now, now⟩, .called ⟨.note (.retry .scheduled), (), time⟩] ∧
    q.push now { n with retries := n.retries + 1 } = .accepted q'

theorem Requeues.keeps {q q' : RetryQueue} (h : Requeues n q acts q') :
    outcomes acts = [.dropped] ∧ q' = q ∨
      outcomes acts = [.scheduled] ∧ QueuesAgain n q acts q' := by
  cases h with
  | scheduled hn hq => exact .inr ⟨rfl, hn, [], _, _, rfl, hq⟩
  | dropped => exact .inl ⟨rfl, rfl⟩

theorem QueuesAgain.append {q q' : RetryQueue} (h : QueuesAgain n q acts q') (before : List Act) :
    QueuesAgain n q (before ++ acts) q' := by
  obtain ⟨hn, before', now, time, rfl, hq⟩ := h
  exact ⟨hn, before ++ before', now, time, (List.append_assoc ..).symm, hq⟩

/-- The queue is what it was, unless the notice was queued again; then there is no batch to send. -/
theorem Handles.keeps {most : UInt32} {q q' : RetryQueue} (h : Handles most n q acts batch q') :
    outcomes acts ≠ [.scheduled] ∧ q' = q ∨ outcomes acts = [.scheduled] ∧
      batch = [] ∧ n.retries ≤ most ∧ QueuesAgain n q acts q' := by
  cases h with
  | passed hn ho => exact .inl ⟨by simp [ho], rfl⟩
  | exhausted hn hmost ho => exact .inl ⟨by simp [ho], rfl⟩
  | succeeded hn hmost h => exact .inl ⟨by simp [h.outcomes_eq hmost], rfl⟩
  | @failed acts acts' e q' hn hmost h h' =>
    have ho : outcomes (acts ++ acts') = outcomes acts' := by
      rw [outcomes_append, h.outcomes_eq hmost, List.nil_append]
    rw [ho]
    obtain ⟨ho', hq⟩ | ⟨ho', hq⟩ := h'.keeps
    · exact .inl ⟨by simp [ho'], hq⟩
    · exact .inr ⟨ho', rfl, hmost, hq.append acts⟩
  | @refused acts acts' batch time q' hn hmost h hb h' =>
    have ho : outcomes (acts ++ .sent batch false time :: acts') = outcomes acts' := by
      rw [outcomes_append, h.outcomes_eq hmost]
      rfl
    rw [ho]
    obtain ⟨ho', hq⟩ | ⟨ho', hq⟩ := h'.keeps
    · exact .inl ⟨by simp [ho'], hq⟩
    · refine .inr ⟨ho', rfl, hmost, ?_⟩
      rw [← List.singleton_append, ← List.append_assoc]
      exact hq.append _

theorem QueuesAgain.exists_entry {q q' : RetryQueue} (h : QueuesAgain n q acts q') :
    ∃ e, q' = { q with entries := q.entries ++ [e] } := by
  obtain ⟨-, before, now, time, -, hq⟩ := h
  unfold RetryQueue.push at hq
  split at hq
  · cases hq
  · split at hq <;> cases hq
    exact ⟨_, rfl⟩

/-- The handling of a notice takes nothing out of the queue. -/
theorem Handles.size_le {most : UInt32} {q q' : RetryQueue} (h : Handles most n q acts batch q') :
    q.size ≤ q'.size := by
  obtain ⟨-, rfl⟩ | ⟨-, -, -, hq⟩ := h.keeps
  · exact le_rfl
  · obtain ⟨e, rfl⟩ := hq.exists_entry
    rw [RetryQueue.size, RetryQueue.size, List.length_append]
    exact Nat.le_add_right _ _

/-- Whatever was done before the clock was asked was done at that time or earlier. -/
theorem QueuesAgain.leads {q q' : RetryQueue} {now : Nat} (h : QueuesAgain n q w.acts q')
    (hw : w.task = .handling number n) (hmost : n.retries ≤ s.maxEventRetries)
    (htimely : w.Timely now) (ho : outcomes w.acts = [.scheduled])
    (hdelay : q.delay = s.eventRetryDelay.toNat) :
    ∃ e, q' = { q with entries := q.entries ++ [e] } ∧ q.entries.length < q.capacity ∧
      Leads s w (.handling number e.notice) e.due := by
  obtain ⟨hn, before, now', time, hacts, hq⟩ := h
  have hlt := n.retries.toNat_lt_size
  unfold RetryQueue.push at hq
  split at hq
  · cases hq
  · next hcapacity =>
    split at hq
    · cases hq
    · cases hq
      refine ⟨_, rfl, Nat.lt_of_not_le hcapacity, ⟨number, n, hw, hmost, by omega, rfl⟩, ho, ?_⟩
      rw [← hdelay]
      intro x hx hnote
      refine Nat.add_le_add_right ?_ _
      have hsorted := (List.pairwise_cons.1 htimely.sorted).2
      rw [hacts, List.map_append, List.pairwise_append] at hsorted
      rw [hacts] at hx
      rcases List.mem_append.1 hx with hx | hx
      · exact hsorted.2.2 _ (List.mem_map_of_mem hx) _ (List.mem_cons_self ..)
      · obtain rfl | hx := List.mem_cons.1 hx
        · exact le_rfl
        · obtain rfl := List.mem_singleton.1 hx
          exact absurd trivial hnote

/-- The notice is queued again at the end of an attempt. -/
theorem Booked.queuesAgain {agent : AgentState} {e : Delayed} (h : Booked l done)
    (hdesk : l.desk = .busy w) (hw : w.task.number? = some number)
    (hretries : agent.retries =
      { l.agent.retries with entries := l.agent.retries.entries ++ [e] })
    (hroom : l.agent.retries.entries.length < l.agent.retries.capacity)
    (hleads : Leads l.settings w (.handling number e.notice) e.due) (hdesk' : l'.desk = .settled w)
    (hsettings : l'.settings = l.settings) (hagent : l'.agent = agent)
    (hnumbers : l'.numbers = l.numbers ++ [number]) (hreceived : l'.received = l.received) :
    Booked l' done := by
  have hnot : number ∉ l.numbers := h.busy w number hdesk hw
  have hall : l'.desk.piece? = l.desk.piece? := by rw [hdesk', hdesk]; rfl
  have hlast : (chain (done ++ l.desk.piece?.toList) number).getLast? = some w := by
    rw [hdesk, Desk.piece?, Option.toList_some, chain_append, chain_self hw]
    exact List.getLast?_concat
  obtain ⟨hcapacity, hdelay, hsize, hpaired, honce, hknown, hbegun, hlinked, hqueued, -, howed⟩ := h
  have hpaired : l.numbers.length = l.agent.retries.entries.length := hpaired
  constructor
  case capacity =>
    rw [hagent, hretries, hsettings, hcapacity]
  case delay =>
    rw [hagent, hretries, hsettings, hdelay]
  case size =>
    rw [hagent, hretries, hsettings, ← hcapacity, RetryQueue.size, List.length_append]
    exact hroom
  case paired =>
    rw [hagent, hretries, hnumbers, RetryQueue.size, List.length_append, List.length_append,
      hpaired]
    rfl
  case once =>
    rw [hnumbers]
    exact List.nodup_append.2 ⟨honce, List.nodup_singleton _, by simp; grind⟩
  case known =>
    rw [hall, hreceived]
    exact hknown
  case begun =>
    rw [hall, hreceived]
    exact hbegun
  case linked =>
    rw [hall, hsettings]
    exact hlinked
  case queued =>
    rw [hall, hsettings, hagent, hretries, hnumbers]
    intro i k e' hi he'
    dsimp only at he'
    -- an entry that waited before, the one that is new, or none
    rcases Nat.lt_trichotomy i l.numbers.length with hlt | rfl | hgt
    · rw [List.getElem?_append_left hlt] at hi
      rw [List.getElem?_append_left (hpaired ▸ hlt)] at he'
      exact hqueued i k e' hi he'
    · rw [List.getElem?_concat_length] at hi
      rw [hpaired, List.getElem?_concat_length] at he'
      cases hi
      cases he'
      exact ⟨w, hlast, hleads⟩
    · have hlength : (l.numbers ++ [number]).length ≤ i := by
        rw [List.length_append]
        exact hgt
      rw [List.getElem?_eq_none hlength] at hi
      cases hi
  case busy =>
    rw [hdesk']
    exact nofun
  case owed =>
    rw [hall, hnumbers]
    intro v k hv ho hfree
    by_cases hk : k = number
    · rw [hk]
      exact List.mem_append_right _ (List.mem_singleton.2 rfl)
    · refine List.mem_append_left _ (howed v k hv ho fun u hu ↦ ?_)
      rw [hdesk] at hu
      cases hu
      rw [hw]
      exact fun heq ↦ hk (Option.some.inj heq).symm

/-- What an attempt left is kept. -/
theorem Booked.settles {agent : AgentState} {doing : Doing} (h : Booked l done)
    (hdesk : l.desk = .busy w) (hw : w.task = .handling number n)
    (hh : Handles l.settings.maxEventRetries n l.agent.retries w.acts batch agent.retries)
    (htimely : w.Timely l.now) (hd : doing.desk = .settled w) :
    Booked ((l.keep w.task agent).enter doing) done := by
  have hnumber : w.task.number? = some number := by rw [hw]; rfl
  have hdesk' : ((l.keep w.task agent).enter doing).desk = .settled w := hd
  obtain ⟨ho, hq⟩ | ⟨ho, -, hmost, hq⟩ := hh.keeps
  · have hnumbers : ((l.keep w.task agent).enter doing).numbers = l.numbers := by
      show l.numbers ++ w.task.number?.elim []
        (List.replicate (agent.retries.size - l.agent.retries.size)) = _
      rw [hq, Nat.sub_self, hnumber]
      exact List.append_nil _
    refine h.replace w (by rw [hdesk]; rfl) (by rw [hdesk']; rfl) rfl rfl rfl hq hnumbers rfl
      (fun _ _ _ ↦ rfl) (by rw [hdesk']; exact nofun) fun _ _ ho' ↦ absurd ho' ho
  · obtain ⟨e, hentries, hroom, hleads⟩ := hq.leads hw hmost htimely ho h.delay
    refine h.queuesAgain hdesk hnumber hentries hroom hleads hdesk' rfl rfl ?_ rfl
    show l.numbers ++ w.task.number?.elim []
      (List.replicate (agent.retries.size - l.agent.retries.size)) = _
    rw [hnumber, hentries, RetryQueue.size, RetryQueue.size, List.length_append,
      Nat.add_sub_cancel_left]
    rfl

/-- The attempt under way is the last one at its notice. -/
theorem getLast?_chain (hpiece : l.desk.piece? = some w) (hw : w.task.number? = some number) :
    (chain (done ++ l.desk.piece?.toList) number).getLast? = some w := by
  rw [hpiece, Option.toList_some, chain_append, chain_self hw]
  exact List.getLast?_concat

/-- If the notice of the piece of work waits, then it was queued again. -/
theorem Booked.outcomes_eq (h : Booked l done) (hpiece : l.desk.piece? = some w)
    (hw : w.task.number? = some number) (hn : number ∈ l.numbers) :
    outcomes w.acts = [.scheduled] := by
  obtain ⟨v, e, hv, hleads⟩ := h.waits hn
  rw [getLast?_chain hpiece hw] at hv
  cases hv
  exact hleads.outcomes

/-- Something more is done. -/
theorem Booked.adds {x : Act} {doing : Doing} (h : Booked l done)
    (hpiece : l.desk.piece? = some w)
    (hnot : ∀ k, w.task.number? = some k → k ∉ l.numbers)
    (hd : doing.desk = .busy (w.add [x])) : Booked { l with doing } done := by
  have hdesk : desk { l with doing } = .busy (w.add [x]) := hd
  refine h.replace (w.add [x]) hpiece (by rw [hdesk]; rfl) rfl rfl rfl rfl rfl rfl ?_ ?_ ?_
  · exact fun k hk hmem ↦ absurd hmem (hnot k hk)
  · intro v k hv hk
    rw [hdesk] at hv
    cases hv
    exact hnot k hk
  · exact fun k hk _ hfree ↦ absurd hk (hfree (w.add [x]) hdesk)

/-- An attempt is over. Its batch was sent, unless the notice was queued again. -/
theorem Booked.concludes {most : UInt32} {q q' : RetryQueue} {time : Nat} (h : Booked l done)
    (hdesk : l.desk = .settled w) (hh : Handles most n q w.acts batch q') :
    Booked { l with doing := .watching } (done ++ [w.add (delivery batch true time)]) := by
  have hpiece : l.desk.piece? = some w := by rw [hdesk]; rfl
  have houtcomes : outcomes (w.add (delivery batch true time)).acts = outcomes w.acts := by
    show outcomes (w.acts ++ _) = _
    rw [outcomes_append, outcomes_delivery, List.append_nil]
  refine h.replace (w.add (delivery batch true time)) hpiece (List.append_nil _)
    rfl rfl rfl rfl rfl rfl ?_ nofun ?_
  · intro k hk hmem
    have ho := h.outcomes_eq hpiece hk hmem
    obtain ⟨hne, -⟩ | ⟨-, rfl, -⟩ := hh.keeps
    · exact absurd ho hne
    · show { w with acts := w.acts ++ [] } = w
      rw [List.append_nil]
  · intro k hk ho _
    rw [houtcomes] at ho
    exact h.owed w k (getLast?_chain hpiece hk) ho (by rw [hdesk]; exact nofun)

theorem concluded_of_acts {ended : Nat} {ok : Bool} (hw : w.task.number? = some number) :
    concluded (acts.map .act ++ [.finished ⟨w, ended, ok⟩]) = [w] := by
  rw [concluded, List.filterMap_append,
    List.filterMap_eq_nil_iff.2 fun e he ↦ (ignores_acts _ e he).handled]
  simp [Event.handled?, hw]

theorem Booked.step (h : Booked l done) (hm : Minds l events l') (hs : Step l events l') :
    Booked l' (done ++ concluded events) := by
  cases hm with
  | aside hdesk hretries hnumbers hreceived hevents =>
    rw [concluded, List.filterMap_eq_nil_iff.2 fun e he ↦ (hevents e he).handled, List.append_nil]
    exact h.aside hs.goes.settings hdesk hretries hnumbers hreceived
  | hears hdesk hd =>
    show Booked _ (done ++ [])
    rw [List.append_nil]
    exact h.hears hdesk hd rfl
  | retries hdesk he hn ht hd =>
    show Booked _ (done ++ [])
    rw [List.append_nil]
    exact h.retries hdesk he hn ht rfl hd
  | calls hdesk hd =>
    show Booked _ (done ++ [])
    rw [List.append_nil]
    exact h.adds (by rw [hdesk]; rfl) (fun k hk ↦ h.busy _ k hdesk hk) hd
  | settles hdesk hw hh htimely hd =>
    show Booked _ (done ++ [])
    rw [List.append_nil]
    exact h.settles hdesk hw hh htimely hd
  | @concludes w number n batch q q' hdesk hw hh =>
    rw [concluded_of_acts (by rw [Piece.add, hw]; rfl)]
    exact h.concludes hdesk hh
  | @again w number n batch q q' doing hdesk hw hb hh hd =>
    have hpiece : l.desk.piece? = some w := by rw [hdesk]; rfl
    show Booked _ (done ++ [])
    rw [List.append_nil]
    refine h.adds hpiece (fun k hk hmem ↦ ?_) hd
    obtain ⟨-, -, hmost, hbegins⟩ := hh.begins hb
    have ho := h.outcomes_eq hpiece hk hmem
    rw [hbegins.outcomes_eq hmost] at ho
    cases ho

/-- What was kept of the attempts and of the queue holds at any moment of a life. -/
theorem Run.booked (hl : l.IsFresh) (hcan : l.settings.CanRetry) (hr : Run l trace l') :
    Booked l' (concluded trace) := by
  induction hr with
  | refl => exact hl.booked
  | @tail l' l'' trace events hr hs ih =>
    rw [concluded_append]
    refine ih.step (hs.minds (hr.sound hl) ?_ ih.delay) hs
    rw [hr.goes.settings]
    exact hcan

theorem Run.minds (hl : l.IsFresh) (hcan : l.settings.CanRetry) (hr : Run l trace l')
    (hs : Step l' events l'') : Minds l' events l'' := by
  refine hs.minds (hr.sound hl) ?_ (hr.booked hl hcan).delay
  rw [hr.goes.settings]
  exact hcan

end Life

end StageRelay
