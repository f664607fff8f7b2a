import Mathlib.Data.List.Nodup
import StageRelay.Proofs.Registry.History

/-!
# What watches yield

Read off the history alone: a watch is open from its beginning until all watches are closed or its
cancellation takes effect, and it is due to yield the notices that are made while it is open, in
their order, except for those made while it holds as many as it can. What it yields is the beginning
of what it is due to yield, and it holds the rest. Other watches have no part in this.

A cancellation takes effect when the registry lets go of the watch. What is due from before it was
asked for comes first; then comes what was made before it took effect, and nothing else.
-/

namespace StageRelay

/-! ## How watches stand -/

namespace Watch

/-- How a watch stands. -/
inductive Standing where
  /-- It has not begun, or it has ended. -/
  | closed
  | wanted
  /-- It was cancelled, which has not taken effect. -/
  | cancelled
deriving DecidableEq

/-- How a watch stands that is cancelled. -/
def Standing.cancel : Standing → Standing
  | .closed => .closed
  | .wanted | .cancelled => .cancelled

/-- How a watch stands that the registry is to let go of. -/
def Standing.release : Standing → Standing
  | .wanted => .wanted
  | .closed | .cancelled => .closed

/-- How a watch stands. -/
def standing (w : Watch) : Standing :=
  if w.isOpen then if w.isCancelled then .cancelled else .wanted else .closed

variable (w : Watch)

theorem standing_eq_closed_iff : w.standing = .closed ↔ ¬ w.isOpen := by
  rw [standing]
  split
  · next h => split <;> simp [h]
  · next h => simp [h]

@[simp] theorem standing_offer (n : Notice) : (w.offer n).standing = w.standing := by
  rw [offer]
  split <;> rfl

@[simp] theorem standing_close : w.close.standing = .closed := rfl

@[simp] theorem standing_cancel : w.cancel.standing = w.standing.cancel := by
  simp only [standing, cancel]
  cases w.isOpen <;> cases w.isCancelled <;> rfl

@[simp] theorem standing_release : w.release.standing = w.standing.release := by
  rw [release]
  split
  · next hcancelled =>
    rw [standing_close, standing, if_pos hcancelled]
    split <;> rfl
  · next hwanted =>
    rw [standing, if_neg hwanted]
    split <;> rfl

@[simp] theorem buffer_release : w.release.buffer = w.buffer := by
  rw [release]
  split <;> rfl

end Watch

open Watch (Standing)

namespace Registry

/-! ## Watches by the history -/

/-- The notice that something makes when it happens. -/
def Event.notice? : Event → Option Notice
  | .put r => some r.notice
  | .removed kind key (some _) => some { stage := key.stage, kind, name := key.name }
  | .emitted n => some n
  | _ => none

/-- The watch that begins. -/
def Event.opened? : Event → Option Nat
  | .opened i => some i
  | _ => none

/-- The notice that a request is to make. -/
def Request.notice? (reg : Registry) : Request → Option Notice
  | .put r => some r.notice
  | .emit n => some n
  | .remove kind key =>
    match reg.get kind key with
    | .ok _ => some { stage := key.stage, kind, name := key.name }
    | .error _ => none
  | _ => none

/-- What a watch answers that is still to yield some notices. -/
def Event.answer (i : Nat) (isOpen : Bool) : List Notice → Event
  | n :: _ => .received i n
  | [] => if isOpen then .waited i else .ended i

/-- The notices that were made. -/
def notices (es : List Event) : List Notice :=
  (es.filterMap Event.notice?).reverse

/-- How a watch stands after what happened. -/
def standing (i : Nat) : List Event → Standing
  | [] => .closed
  | .opened j :: es => if j = i then .wanted else standing i es
  | .cancelled j :: es => if j = i then (standing i es).cancel else standing i es
  | .released j :: es => if j = i then (standing i es).release else standing i es
  | .closedAll :: _ => .closed
  | _ :: es => standing i es

/-- Whether a watch has begun and not ended. -/
def isOpen (i : Nat) (es : List Event) : Bool :=
  standing i es ≠ .closed

/-- What was received from a watch. -/
def received (i : Nat) : List Event → List Notice
  | [] => []
  | .received j n :: es => if j = i then received i es ++ [n] else received i es
  | _ :: es => received i es

/-- What a watch is due to yield. -/
def heard (i : Nat) : List Event → List Notice
  | [] => []
  | e :: es =>
    match e.notice? with
    | some n =>
      if isOpen i es ∧ (heard i es).length < (received i es).length + Watch.capacity then
        heard i es ++ [n]
      else heard i es
    | none => heard i es

variable {i j : Nat} {e : Event} {es : List Event} {n : Notice} {s : Standing}

theorem standing_of_notice? (he : e.notice? = some n) : standing i (e :: es) = standing i es := by
  cases e <;> first | rfl | cases he

theorem received_of_notice? (he : e.notice? = some n) : received i (e :: es) = received i es := by
  cases e <;> first | rfl | cases he

theorem heard_of_notice? (he : e.notice? = some n) : heard i (e :: es) =
    if isOpen i es ∧ (heard i es).length < (received i es).length + Watch.capacity then
      heard i es ++ [n]
    else heard i es := by
  rw [heard, he]

theorem heard_of_silent (he : e.notice? = none) : heard i (e :: es) = heard i es := by
  rw [heard, he]

/-- A watch by its number; those that never began hold nothing and are closed. -/
def watchAt (reg : Registry) (i : Nat) : Watch :=
  reg.watches[i]?.getD { isOpen := false }

theorem receive_eq (reg : Registry) (i : Nat) : reg.receive i = (reg.watchAt i).next := by
  rw [receive, watchAt]
  cases reg.watches[i]? <;> rfl

theorem watchAt_of_notify {reg reg' : Registry} (h : reg'.watches = reg.watches.notify n) (i : Nat) :
    reg'.watchAt i = (reg.watchAt i).offer n := by
  rw [watchAt, watchAt, h, Watches.notify, List.getElem?_map]
  cases reg.watches[i]? <;> rfl

theorem watchAt_watch (reg : Registry) (i : Nat) :
    reg.watch.2.watchAt i = if reg.watches.length = i then {} else reg.watchAt i := by
  simp only [watchAt, watch, Watches.openOne]
  rcases Nat.lt_trichotomy i reg.watches.length with h | rfl | h
  · rw [if_neg (Nat.ne_of_gt h), List.getElem?_append_left h]
  · simp
  · rw [if_neg (Nat.ne_of_lt h), List.getElem?_eq_none (Nat.le_of_lt h),
      List.getElem?_eq_none (by simpa using Nat.succ_le_of_lt h)]

/-- What becomes of how watches stand when something is done to one of them. -/
theorem standing_watchAt_modify {f : Watch → Watch} {g : Standing → Standing}
    (hf : ∀ w, (f w).standing = g w.standing) (hg : g .closed = .closed) {reg reg' : Registry}
    (h : reg'.watches = reg.watches.modify j f) (i : Nat) : (reg'.watchAt i).standing =
      if j = i then g (reg.watchAt i).standing else (reg.watchAt i).standing := by
  rw [watchAt, watchAt, h, List.getElem?_modify]
  split
  · cases reg.watches[i]? with
    | none => exact hg.symm
    | some w => exact hf w
  · rw [Option.map_eq_map, Option.map_id']

theorem buffer_watchAt_modify {f : Watch → Watch} (hf : ∀ w, (f w).buffer = w.buffer)
    {reg reg' : Registry} (h : reg'.watches = reg.watches.modify j f) (i : Nat) :
    (reg'.watchAt i).buffer = (reg.watchAt i).buffer := by
  rw [watchAt, watchAt, h, List.getElem?_modify]
  cases reg.watches[i]? with
  | none => rfl
  | some w =>
    show (if j = i then f w else w).buffer = w.buffer
    split
    · exact hf w
    · rfl

theorem watchAt_closeWatches (reg : Registry) (i : Nat) :
    reg.closeWatches.watchAt i = (reg.watchAt i).close := by
  rw [watchAt, watchAt, closeWatches, Watches.closeAll, List.getElem?_map]
  cases reg.watches[i]? <;> rfl

theorem watchAt_setWatch {reg : Registry} (hj : (reg.watchAt j).buffer ≠ []) (w : Watch) (i : Nat) :
    (reg.setWatch j w).watchAt i = if j = i then w else reg.watchAt i := by
  have hlt : j < reg.watches.length := by
    by_contra hge
    rw [watchAt, List.getElem?_eq_none (Nat.le_of_not_lt hge)] at hj
    exact hj rfl
  rw [watchAt, setWatch, List.getElem?_set]
  by_cases h : j = i
  · rw [if_pos h, if_pos hlt, if_pos h]
    rfl
  · rw [if_neg h, if_neg h, watchAt]

namespace Chronicle

/-- A watch holds the rest of what it is due to yield, as many notices as it can at most. -/
structure Delivers (c : Chronicle) (i : Nat) : Prop where
  heard : heard i c.events = received i c.events ++ (c.registry.watchAt i).buffer
  standing : standing i c.events = (c.registry.watchAt i).standing
  bounded : (c.registry.watchAt i).buffer.length ≤ Watch.capacity

namespace Delivers

variable {c : Chronicle} {reg : Registry}

theorem isOpen (h : c.Delivers i) :
    Registry.isOpen i c.events = (c.registry.watchAt i).isOpen := by
  have hclosed := (c.registry.watchAt i).standing_eq_closed_iff
  rw [← h.standing] at hclosed
  rw [Registry.isOpen, Bool.eq_iff_iff, decide_eq_true_iff, ne_eq, hclosed, not_not]

/-- What leaves alone what a watch holds and yields. -/
theorem silent (h : c.Delivers i) (hnotice : e.notice? = none)
    (hstanding : Registry.standing i (e :: c.events) = (reg.watchAt i).standing)
    (hreceived : received i (e :: c.events) = received i c.events)
    (hbuffer : (reg.watchAt i).buffer = (c.registry.watchAt i).buffer) :
    Delivers ⟨e :: c.events, reg⟩ i where
  heard := by rw [heard_of_silent hnotice, hreceived, hbuffer, h.heard]
  standing := hstanding
  bounded := by rw [hbuffer]; exact h.bounded

/-- A notice reaches a watch that is open and not full. -/
theorem notify (h : c.Delivers i) (he : e.notice? = some n)
    (hreg : reg.watches = c.registry.watches.notify n) : Delivers ⟨e :: c.events, reg⟩ i := by
  have hwatch := watchAt_of_notify hreg i
  have hroom : (Registry.isOpen i c.events ∧ (Registry.heard i c.events).length <
      (received i c.events).length + Watch.capacity) ↔
      ((c.registry.watchAt i).isOpen ∧ (c.registry.watchAt i).buffer.length < Watch.capacity) := by
    rw [h.isOpen, h.heard, List.length_append]
    exact and_congr_right fun _ ↦ by omega
  constructor
  · rw [heard_of_notice? he, received_of_notice? he, hwatch, Watch.offer]
    split
    · next hopen => rw [if_pos (hroom.1 hopen), h.heard, List.append_assoc]
    · next hshut => rw [if_neg (mt hroom.2 hshut), h.heard]
  · rw [standing_of_notice? he, hwatch, Watch.standing_offer, h.standing]
  · rw [hwatch, Watch.offer]
    split
    · next hopen => simpa using Nat.succ_le_of_lt hopen.2
    · exact h.bounded

theorem watch (h : c.Delivers i) : (c.ask .watch).Delivers i := by
  have hwatch := watchAt_watch c.registry i
  by_cases hi : c.registry.watches.length = i
  · have hnone : c.registry.watchAt i = { isOpen := false } := by simp [watchAt, ← hi]
    rw [if_pos hi] at hwatch
    refine h.silent rfl ?_ rfl ?_
    · show _ = (c.registry.watch.2.watchAt i).standing
      rw [hwatch]
      exact if_pos hi
    · show (c.registry.watch.2.watchAt i).buffer = _
      rw [hwatch, hnone]
  · rw [if_neg hi] at hwatch
    refine h.silent rfl ?_ rfl (congrArg Watch.buffer hwatch)
    refine Eq.trans (if_neg hi) ?_
    rw [h.standing, ← hwatch]
    rfl

theorem cancel (h : c.Delivers i) (j : Nat) : (c.ask (.cancel j)).Delivers i := by
  refine h.silent rfl ?_ rfl (buffer_watchAt_modify (f := Watch.cancel) (fun _ ↦ rfl) rfl i)
  rw [standing_watchAt_modify Watch.standing_cancel rfl rfl, ← h.standing]
  rfl

theorem release (h : c.Delivers i) (j : Nat) : (c.ask (.release j)).Delivers i := by
  refine h.silent rfl ?_ rfl (buffer_watchAt_modify Watch.buffer_release rfl i)
  rw [standing_watchAt_modify Watch.standing_release rfl rfl, ← h.standing]
  rfl

theorem closeWatches (h : c.Delivers i) : (c.ask .closeWatches).Delivers i := by
  have hwatch := watchAt_closeWatches c.registry i
  refine h.silent rfl ?_ rfl ?_
  · show .closed = (c.registry.closeWatches.watchAt i).standing
    rw [hwatch]
    rfl
  · show (c.registry.closeWatches.watchAt i).buffer = _
    rw [hwatch]
    rfl

theorem receive (h : c.Delivers i) (j : Nat) : (c.ask (.receive j)).Delivers i := by
  rw [Chronicle.ask, serve, receive_eq, Watch.next]
  cases hbuffer : (c.registry.watchAt j).buffer with
  | nil =>
    by_cases hopen : (c.registry.watchAt j).isOpen
    · rw [if_pos hopen]
      exact h.silent rfl h.standing rfl rfl
    · rw [if_neg hopen]
      exact h.silent rfl h.standing rfl rfl
  | cons n rest =>
    have hwatch := watchAt_setWatch (hbuffer ▸ List.cons_ne_nil n rest)
      { c.registry.watchAt j with buffer := rest } i
    by_cases hj : j = i
    · subst hj
      rw [if_pos rfl] at hwatch
      constructor
      · show Registry.heard j c.events = received j (.received j n :: c.events) ++
          ((c.registry.setWatch j _).watchAt j).buffer
        rw [received, if_pos rfl, hwatch, h.heard, hbuffer, List.append_assoc]
        rfl
      · show Registry.standing j c.events = ((c.registry.setWatch j _).watchAt j).standing
        rw [hwatch, h.standing]
        rfl
      · show ((c.registry.setWatch j _).watchAt j).buffer.length ≤ _
        rw [hwatch]
        have hbounded := h.bounded
        rw [hbuffer, List.length_cons] at hbounded
        exact Nat.le_of_succ_le hbounded
    · rw [if_neg hj] at hwatch
      refine h.silent rfl (by rw [hwatch]; exact h.standing) ?_ (by rw [hwatch])
      rw [received, if_neg hj]

theorem ask (h : c.Delivers i) (q : Request) : (c.ask q).Delivers i := by
  cases q with
  | put r => exact h.notify rfl rfl
  | remove kind key =>
    rw [Chronicle.ask, serve, remove]
    cases c.registry.store.get? kind key with
    | none => exact h.silent rfl h.standing rfl rfl
    | some old => exact h.notify rfl rfl
  | emit n => exact h.notify rfl rfl
  | watch => exact h.watch
  | cancel j => exact h.cancel j
  | release j => exact h.release j
  | closeWatches => exact h.closeWatches
  | receive j => exact h.receive j

end Delivers

variable {c : Chronicle}

/-- Watches are numbered in the order in which they began, so that each begins once. -/
def Numbered (c : Chronicle) : Prop :=
  (c.events.filterMap Event.opened?).reverse = List.range c.registry.watches.length

theorem Numbered.keep (h : c.Numbered) {reg : Registry} (he : e.opened? = none)
    (hlength : reg.watches.length = c.registry.watches.length) : Numbered ⟨e :: c.events, reg⟩ := by
  rw [Numbered, List.filterMap_cons_none he, hlength]
  exact h

theorem Numbered.ask (h : c.Numbered) (q : Request) : (c.ask q).Numbered := by
  cases q with
  | put r => exact h.keep rfl (List.length_map _)
  | remove kind key =>
    rw [Chronicle.ask, serve, remove]
    cases c.registry.store.get? kind key with
    | none => exact h.keep rfl rfl
    | some old => exact h.keep rfl (List.length_map _)
  | emit n => exact h.keep rfl (List.length_map _)
  | watch =>
    have hopened : (Event.opened c.registry.watch.1).opened? = some c.registry.watches.length := rfl
    show (List.filterMap _ (Event.opened _ :: _)).reverse = List.range (_ ++ [_]).length
    rw [List.filterMap_cons_some hopened, List.reverse_cons, h, List.length_append,
      List.length_singleton, List.range_succ]
  | cancel j => exact h.keep rfl (List.length_modify _ _ _)
  | release j => exact h.keep rfl (List.length_modify _ _ _)
  | closeWatches => exact h.keep rfl (List.length_map _)
  | receive j =>
    rw [Chronicle.ask, serve]
    cases c.registry.receive j with
    | notice n rest => exact h.keep rfl List.length_set
    | waiting => exact h.keep rfl rfl
    | closed => exact h.keep rfl rfl

theorem numbered (rs : List Resource) (qs : List Request) : (of rs qs).Numbered :=
  induction (motive := Numbered) rfl (fun _ _ h ↦ h.keep rfl rfl) (fun _ q h ↦ h.ask q) rs qs

theorem Delivers.answer (h : c.Delivers i) : (c.registry.serve (.receive i)).1 =
    Event.answer i (Registry.isOpen i c.events) (c.registry.watchAt i).buffer := by
  rw [serve, receive_eq, Watch.next, h.isOpen]
  cases (c.registry.watchAt i).buffer with
  | nil => cases (c.registry.watchAt i).isOpen <;> rfl
  | cons n rest => rfl

/-- Receiving as often as a watch holds notices yields all that it is due to yield. -/
theorem Delivers.drain (h : c.Delivers i) {held : List Notice}
    (hheld : (c.registry.watchAt i).buffer = held) :
    received i ((List.replicate held.length (.receive i)).foldl Chronicle.ask c).events =
      Registry.heard i c.events := by
  induction held generalizing c with
  | nil => rw [h.heard, hheld, List.append_nil]; rfl
  | cons n rest ih =>
    have hserve : c.registry.serve (.receive i) =
        (.received i n, c.registry.setWatch i { c.registry.watchAt i with buffer := rest }) := by
      rw [serve, receive_eq, Watch.next, hheld]
    have hask : (c.ask (.receive i)).registry.watchAt i =
        { c.registry.watchAt i with buffer := rest } := by
      rw [Chronicle.ask, hserve, watchAt_setWatch (hheld ▸ List.cons_ne_nil n rest), if_pos rfl]
    rw [List.length_cons, List.replicate_succ, List.foldl_cons,
      ih (h.ask (.receive i)) (by rw [hask])]
    show Registry.heard i (_ :: c.events) = _
    rw [hserve, heard_of_silent rfl]

theorem Numbered.nodup (h : c.Numbered) : (c.events.filterMap Event.opened?).Nodup := by
  rw [← List.nodup_reverse, h]
  exact List.nodup_range

/-- A notice that is made before a cancellation takes effect, and one that is made after it. -/
example (n : Notice) :
    let c := of [] [.watch, .cancel 0, .emit n, .release 0, .emit n, .receive 0, .receive 0]
    c.events.take 2 = [.ended 0, .received 0 n] :=
  rfl

end Chronicle

end Registry

end StageRelay
