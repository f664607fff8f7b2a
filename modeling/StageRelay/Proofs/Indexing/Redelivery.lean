import StageRelay.Proofs.Indexing.Steady

/-!
# The order in which notices are handled, and their repetition

Notices of secrets and bindings can be handled in any order and more than once: while the objects
stay as they are, the directory depends on which notices were handled and on nothing else. A notice
that was handled without an error and is handled again changes nothing at all.
-/

namespace StageRelay

/-- A notice as it was when it was tried first. -/
def Notice.first (n : Notice) : Notice :=
  { n with retries := 0 }

namespace Indexing

open Agent (Attempt Leads Triple Handled)

/-! ## Single notices -/

/-- A notice of a secret or of a binding, where the secret is not named like an entry of
a binding. -/
structure Ordinary (n : Notice) : Prop where
  kind : n.kind = .secret ∨ n.kind = .tlsBinding
  unmarked : n.kind = .secret → ¬ ResourceKey.Marked n.name

/-- The handler of a notice; it does not look at how often the notice was tried. -/
def handler (n : Notice) : Attempt Unit :=
  if n.kind = .secret then Agent.indexSecret n.stage n.key else Agent.indexBinding n.stage n.key

/-- The agent after it asked for the index of a stage. -/
def asked (a : AgentState) (stage : Stage) : AgentState :=
  { a with directory := a.directory.touch stage }

variable {st : Store} {n : Notice} {most : UInt32} {us : List Subject} {ok : Bool}
  {a a₀ : AgentState} {s s₀ : Services}

theorem settles_handler (h : Ordinary n) (st : Store) : Settles st n.stage (handler n) := by
  unfold handler
  split
  · next hkind => exact settles_indexSecret (Stage.same_refl n.stage) (h.unmarked hkind)
  · exact settles_indexBinding (Stage.same_refl n.stage)

/-- Handlers ask for the index of their stage first. -/
theorem handler_run (n : Notice) (a : AgentState) :
    (handler n).run.run (asked a n.stage) = (handler n).run.run a := by
  have first {f : Unit → Attempt Unit} :
      (Agent.touch n.stage >>= f).run.run (asked a n.stage) =
        (Agent.touch n.stage >>= f).run.run a := by
    show (f ()).run.run (asked (asked a n.stage) n.stage) = (f ()).run.run (asked a n.stage)
    rw [asked, asked, IndexDirectory.touch_touch]
  unfold handler
  split <;> exact first

theorem handleCertificates_eq (h : Ordinary n) (hmost : ¬ most < n.retries) :
    Agent.handleCertificates most n = (do handler n; return []) := by
  unfold Agent.handleCertificates handler
  rw [if_neg hmost]
  rcases h.kind with hkind | hkind <;> rw [hkind] <;> rfl

/-! ## Failures -/

/-- The directory and the delay of the retries stay as they are, and so does what the services
tell. -/
structure Unmoved (st : Store) (a₀ a : AgentState) (s : Services) : Prop where
  directory : a.directory = a₀.directory
  delay : a.retries.delay = a₀.retries.delay
  serves : s.Serves st

theorem Unmoved.note {m : Measure} (h : Unmoved st a₀ a s) :
    Unmoved st a₀ a (s.answer (.note m)).2 :=
  ⟨h.directory, h.delay, h.serves.store, h.serves.secrets, h.serves.bindings, h.serves.lists⟩

/-- A notice that is to be handled again leaves the directory alone. The agent crashes only if the
number of tries or the delay is beyond what it can keep track of. -/
theorem retryLater_unmoved :
    Leads Services.alone (Unmoved st a₀) (Agent.retryLater n) fun r a s ↦ Unmoved st a₀ a s ∧
      (n.retries.toNat + 1 < UInt32.size → a₀.retries.delay < RetryQueue.delayLimit →
        r ≠ .crashed) := by
  unfold Agent.retryLater
  split
  · next hfull => exact .pure fun _ _ h ↦ ⟨h, fun hlt ↦ absurd hfull (Nat.ne_of_lt hlt)⟩
  · refine .bind (Q := fun _ ↦ Unmoved st a₀)
      (.ask fun _ _ h ↦ ⟨h.directory, h.delay, h.serves⟩) fun now ↦ ?_
    refine .bind (Q := fun b a s ↦ b = a ∧ Unmoved st a₀ a s) (.get fun _ _ h ↦ ⟨rfl, h⟩) fun b ↦ ?_
    unfold RetryQueue.push
    by_cases hfull : b.retries.capacity ≤ b.retries.entries.length
    · rw [if_pos hfull]
      exact .bind (Q := fun _ ↦ Unmoved st a₀) (.ask fun _ _ h ↦ h.2.note) fun _ ↦
        .pure fun _ _ h ↦ ⟨h, fun _ _ ↦ nofun⟩
    · rw [if_neg hfull]
      by_cases hbeyond : RetryQueue.delayLimit ≤ b.retries.delay
      · rw [if_pos hbeyond]
        refine .pure ?_
        rintro a s ⟨rfl, h⟩
        exact ⟨h, fun _ hlt ↦ absurd (h.delay ▸ hbeyond) (Nat.not_le.2 hlt)⟩
      · rw [if_neg hbeyond]
        refine .bind (Q := fun _ ↦ Unmoved st a₀) (.set ?_) fun _ ↦
          .bind (Q := fun _ ↦ Unmoved st a₀) (.ask fun _ _ h ↦ h.note) fun _ ↦
            .pure fun _ _ h ↦ ⟨h, fun _ _ ↦ nofun⟩
        rintro a s ⟨rfl, h⟩
        exact ⟨h.directory, h.delay, h.serves⟩

/-! ## Handling -/

section Steady

variable (h : Ordinary n) (hmost : ¬ most < n.retries)
  (hsteady : Steady st n.stage us ok (handler n)) (hs : s₀.Serves st)
include h hmost hsteady hs

theorem handleCertificates_steady :
    Triple Services.alone (fun a s ↦ a = a₀ ∧ s = s₀) (Agent.handleCertificates most n)
      (fun stages a s ↦ stages = [] ∧ ok = true ∧
        Effect st n.stage us (asked a₀ n.stage) s₀ a s)
      (fun a s ↦ ok = false ∧ Effect st n.stage us (asked a₀ n.stage) s₀ a s) := by
  rw [handleCertificates_eq h hmost]
  refine .bind (Q := fun _ a s ↦ ok = true ∧ Effect st n.stage us (asked a₀ n.stage) s₀ a s) ?_
    fun _ ↦ .pure fun _ _ h ↦ ⟨rfl, h⟩
  rintro a s ⟨rfl, rfl⟩
  have hrun := hsteady (asked a n.stage) s (IndexDirectory.touch_touch _ _) hs _ s ⟨rfl, rfl⟩
  rwa [handler_run] at hrun

end Steady

/-- What handling a notice does: the agent asks for the index of its stage and refreshes the
subjects `us`. If that succeeds and all of it was done before, nothing changes. -/
structure Handling (st : Store) (n : Notice) (us : List Subject) (ok : Bool) (a₀ : AgentState)
    (s₀ : Services) (r : Handled) (a : AgentState) (s : Services) : Prop where
  refreshed : Refreshed st [n.stage] us a₀.directory a.directory
  asked : a.directory.touch n.stage = a.directory
  serves : s.Serves st
  delay : a.retries.delay = a₀.retries.delay
  goesOn : n.retries.toNat + 1 < UInt32.size → a₀.retries.delay < RetryQueue.delayLimit →
    r ≠ .crashed
  idle : ok = true → a₀.directory.touch n.stage = a₀.directory →
    (∀ u ∈ us, a₀.directory.lookup? u.place = u.wanted? st) →
      r = .batch [] ∧ a = a₀ ∧ s.debouncer = s₀.debouncer

theorem Handling.of_effect {a₁ : AgentState} {s₀' s₁ : Services} {r : Handled}
    (hus : ∀ u ∈ us, u.Unmarked) (h : Effect st n.stage us (Indexing.asked a₀ n.stage) s₀' a₁ s₁)
    (hs₀ : s₀'.debouncer = s₀.debouncer) (hkept : Unmoved st a₁ a s)
    (hcrash : n.retries.toNat + 1 < UInt32.size → a₁.retries.delay < RetryQueue.delayLimit →
      r ≠ .crashed)
    (hok : ok = true → r = .batch [] ∧ a = a₁ ∧ s = s₁) : Handling st n us ok a₀ s₀ r a s where
  refreshed := by
    rw [hkept.directory]
    exact (Refreshed.touch st a₀.directory n.stage).trans h.refreshed nofun hus
  asked := by
    rw [hkept.directory]
    exact h.asked
  serves := hkept.serves
  delay := hkept.delay.trans (congrArg RetryQueue.delay h.retries)
  goesOn hlt hdelay := hcrash hlt (h.retries ▸ hdelay)
  idle hsucceeds hasked hup := by
    obtain ⟨hr, rfl, rfl⟩ := hok hsucceeds
    have hsame : Indexing.asked a₀ n.stage = a₀ :=
      congrArg (fun d ↦ { a₀ with directory := d }) hasked
    rw [hsame] at h
    obtain ⟨hdirectory, hdebouncer⟩ := h.idle hup
    refine ⟨hr, ?_, hdebouncer.trans hs₀⟩
    obtain ⟨directory, retries⟩ := a
    obtain rfl := hdirectory
    obtain rfl := h.retries
    rfl

theorem handle_steady (h : Ordinary n) (hmost : ¬ most < n.retries) (hus : ∀ u ∈ us, u.Unmarked)
    (hsteady : Steady st n.stage us ok (handler n)) (hs : s₀.Serves st) :
    Leads Services.alone (fun a s ↦ a = a₀ ∧ s = s₀) (Agent.handle most n)
      (Handling st n us ok a₀ s₀) := by
  have hcertificate : n.kind.isCertificate = true := by
    rcases h.kind with hk | hk <;> rw [hk] <;> rfl
  have hinstance : n.kind ≠ .gatewayInstance := by
    rcases h.kind with hk | hk <;> simp [hk]
  have hnoted : (s₀.answer (.note (.received n.kind))).2.Serves st :=
    ⟨hs.store, hs.secrets, hs.bindings, hs.lists⟩
  unfold Agent.handle
  rw [if_neg hinstance, hcertificate, Bool.or_true, if_pos rfl]
  refine .bind (Q := fun _ a s ↦ a = a₀ ∧ s = (s₀.answer (.note (.received n.kind))).2)
    (.ask ?_) fun _ ↦ ?_
  · rintro a s ⟨rfl, rfl⟩
    exact ⟨rfl, rfl⟩
  refine .bind (handleCertificates_steady h hmost hsteady hnoted) fun r ↦ ?_
  cases r with
  | ok stages =>
    refine .pure ?_
    rintro a s ⟨rfl, -, heffect⟩
    exact .of_effect hus heffect rfl ⟨rfl, rfl, heffect.serves⟩ (fun _ _ ↦ nofun)
      fun _ ↦ ⟨rfl, rfl, rfl⟩
  | error e =>
    rintro a s ⟨rfl, heffect⟩
    have hunmoved : Unmoved st a a s := ⟨rfl, rfl, heffect.serves⟩
    refine Job.wp_mono ?_ (retryLater_unmoved a s hunmoved)
    rintro r s' ⟨hkept, hcrash⟩
    exact .of_effect hus heffect rfl hkept hcrash nofun

/-! ## Sequences of notices -/

/-- What handling a notice leads to, what the agent keeps then and what it did to the services. -/
def handledOnce (most : UInt32) (n : Notice) (a : AgentState) (s : Services) :
    (Handled × AgentState) × Services :=
  ((Agent.handle most n).run a).run Services.host s

/-- The agent and the services after some notices were handled without a pause. -/
def handledAll (most : UInt32) : List Notice → AgentState → Services → AgentState × Services
  | [], a, s => (a, s)
  | n :: ns, a, s => handledAll most ns (handledOnce most n a s).1.2 (handledOnce most n a s).2

/-- From `d` to `d'` some notices were handled one after the other, each without a crash. What else
happened between two of them is left open: the time, which stages waited, what was queued. -/
inductive Handles (most : UInt32) (st : Store) :
    List Notice → IndexDirectory → IndexDirectory → Prop
  | nil {d : IndexDirectory} : Handles most st [] d d
  | cons {n : Notice} {ns : List Notice} {d' : IndexDirectory} (a : AgentState) (s : Services)
    (hs : s.Serves st) (hr : (handledOnce most n a s).1.1 ≠ .crashed)
    (hrest : Handles most st ns (handledOnce most n a s).1.2.directory d') :
    Handles most st (n :: ns) a.directory d'

theorem handling_handledOnce (h : Ordinary n) (hmost : ¬ most < n.retries)
    (hus : ∀ u ∈ us, u.Unmarked) (hsteady : Steady st n.stage us ok (handler n))
    (hs : s.Serves st) :
    Handling st n us ok a s (handledOnce most n a s).1.1 (handledOnce most n a s).1.2
      (handledOnce most n a s).2 :=
  Job.wp_alone.1 (handle_steady h hmost hus hsteady hs a s ⟨rfl, rfl⟩)

theorem Ordinary.first (h : Ordinary n) : Ordinary n.first :=
  ⟨h.kind, h.unmarked⟩

theorem Handles.refreshed {usOf : Notice → List Subject} {ns : List Notice}
    {d d' : IndexDirectory} (hus : ∀ n, Ordinary n → ∀ u ∈ usOf n, u.Unmarked)
    (hsteady : ∀ n, Ordinary n → ∃ ok, Steady st n.stage (usOf n) ok (handler n))
    (hns : ∀ n ∈ ns, Ordinary n ∧ ¬ most < n.retries) (h : Handles most st ns d d') :
    Refreshed st (ns.map Notice.stage) (ns.flatMap fun n ↦ usOf n.first) d d' := by
  induction h with
  | nil => exact .refl st _
  | @cons n ns d' a s hs hr hrest ih =>
    obtain ⟨⟨hn, hmost⟩, hns⟩ := List.forall_mem_cons.1 hns
    obtain ⟨ok, hok⟩ := hsteady n.first hn.first
    have hhandling := handling_handledOnce hn hmost (hus n.first hn.first) hok hs (a := a)
    refine hhandling.refreshed.trans (ih hns) (hus n.first hn.first) ?_
    intro u hu
    obtain ⟨m, hm, hu⟩ := List.mem_flatMap.1 hu
    exact hus m.first (hns m hm).1.first u hu

/-! ## Order and repetition -/

/-- Whether the attempt at a notice succeeds, so that it is not tried again. -/
def Succeeds (most : UInt32) (n : Notice) (a : AgentState) (s : Services) : Prop :=
  ∃ stages, (((Agent.handleCertificates most n).run.run a).run Services.host
    (s.answer (.note (.received n.kind))).2).1.1 = .ok stages

/-- While the objects stay as they are and can be read, the notices of secrets and bindings can be
handled in any order and each any number of times, from any directory: the indices are the same in
the end, whatever cannot be decoded or parsed. No such sequence is cut short by a crash, unless the
number of tries or the delay is beyond what the agent can keep track of. And a notice that has been
handled without an error, when it is handled again at any time, changes neither what the agent keeps
nor which stages wait. -/
theorem handles_any_order (most : UInt32) (st : Store) :
    (∀ (d e e' : IndexDirectory) ns ns', d.Reachable →
      (∀ n ∈ ns ++ ns', Ordinary n ∧ n.retries ≤ most) →
      (∀ n, n ∈ ns.map Notice.first ↔ n ∈ ns'.map Notice.first) →
      Handles most st ns d e → Handles most st ns' d e' → e.Alike e') ∧
    (∀ ns (a : AgentState) (s : Services),
      (∀ n ∈ ns, Ordinary n ∧ n.retries ≤ most ∧ n.retries.toNat + 1 < UInt32.size) →
      s.Serves st → a.retries.delay < RetryQueue.delayLimit →
      Handles most st ns a.directory (handledAll most ns a s).1.directory) ∧
    ∀ n a (s s' : Services), Ordinary n → n.retries ≤ most → s.Serves st → s'.Serves st →
      Succeeds most n a s →
      let kept := (handledOnce most n a s).1.2
      (handledOnce most n kept s').1 = (.batch [], kept) ∧
        (handledOnce most n kept s').2.debouncer = s'.debouncer := by
  choose! usOf ok hus hsteady using fun n (h : Ordinary n) ↦ settles_handler h st
  refine ⟨?_, ?_, ?_⟩
  · intro d e e' ns ns' hd hns hsame h h'
    have hrefreshed {ns : List Notice} {e : IndexDirectory}
        (hns : ∀ n ∈ ns, Ordinary n ∧ n.retries ≤ most) (h : Handles most st ns d e) :
        Refreshed st ((ns.map Notice.first).map Notice.stage) ((ns.map Notice.first).flatMap usOf)
          d e := by
      rw [List.map_map, List.flatMap_map]
      exact h.refreshed hus (fun n hn ↦ ⟨ok n, hsteady n hn⟩)
        fun n hn ↦ ⟨(hns n hn).1, UInt32.not_lt.2 (hns n hn).2⟩
    refine (hrefreshed (fun n hn ↦ hns n (List.mem_append_left ns' hn)) h).alike
      (hrefreshed (fun n hn ↦ hns n (List.mem_append_right ns hn)) h') hd.coherent ?_ ?_
    · intro s
      simp only [List.mem_map (l := ns.map Notice.first), List.mem_map (l := ns'.map Notice.first),
        hsame]
    · intro u
      simp only [List.mem_flatMap, hsame]
  · intro ns
    induction ns with
    | nil => exact fun _ _ _ _ _ ↦ .nil
    | cons n ns ih =>
      intro a s hns hs hdelay
      obtain ⟨⟨hn, hmost, hlt⟩, hns⟩ := List.forall_mem_cons.1 hns
      have hhandling := handling_handledOnce hn (UInt32.not_lt.2 hmost) (hus n hn) (hsteady n hn) hs
        (a := a)
      exact .cons a s hs (hhandling.goesOn hlt hdelay)
        (ih _ _ hns hhandling.serves (hhandling.delay ▸ hdelay))
  · rintro n a s s' hn hmost hs hs' ⟨stages, hsucceeds⟩ kept
    have hmost := UInt32.not_lt.2 hmost
    have hnoted : (s.answer (.note (.received n.kind))).2.Serves st :=
      ⟨hs.store, hs.secrets, hs.bindings, hs.lists⟩
    have hok : ok n = true := by
      have hrun := Job.wp_alone.1
        (handleCertificates_steady hn hmost (hsteady n hn) hnoted a _ ⟨rfl, rfl⟩)
      rw [hsucceeds] at hrun
      exact hrun.2.1
    have hfirst := handling_handledOnce hn hmost (hus n hn) (hsteady n hn) hs (a := a)
    have hagain := handling_handledOnce hn hmost (hus n hn) (hsteady n hn) hs' (a := kept)
    obtain ⟨hr, hkept, hdebouncer⟩ := hagain.idle hok hfirst.asked
      fun u hu ↦ hfirst.refreshed.lookup?_of_mem hu
    exact ⟨Prod.ext hr hkept, hdebouncer⟩

/-- A secret without a certificate cannot be indexed, but a binding of it has names of its own. Both
notices in either order, one of them twice, lead to the same index, and the notice of the binding
changes nothing when it is handled again. -/
theorem handles_any_order_broken_secret :
    let stage : Stage := { gateway := "gateway", name := "stage" }
    let secret : Resource := {
      kind := .secret, stage, name := "cert",
      spec := .object [("data", .object [("tls.key", .string "key")])] }
    let binding : Resource := {
      kind := .tlsBinding, stage, name := "binding",
      spec := .object [("secretRef", .string "cert"), ("snis", .array [.string "b.com"])] }
    let st := Store.ofResources [secret, binding]
    let s : Services := { registry := { store := st } }
    let a : AgentState := { directory := .empty true, retries := { capacity := 4, delay := 1000 } }
    let ns := [secret.notice, binding.notice]
    let ns' := [binding.notice, secret.notice, binding.notice]
    let e := (handledAll 3 ns a s).1.directory
    let e' := (handledAll 3 ns' a s).1.directory
    (Handles 3 st ns a.directory e ∧ Handles 3 st ns' a.directory e' ∧ e.Alike e' ∧
      (e.get stage).lookup "b.com" =
        some ⟨"b.com", [{ key := "key", snis := ["b.com"], pinned := true }]⟩) ∧
      ¬ Succeeds 3 secret.notice a s ∧ Succeeds 3 binding.notice a s ∧
      (handledOnce 3 binding.notice (handledOnce 3 binding.notice a s).1.2 s).1 =
        (.batch [], (handledOnce 3 binding.notice a s).1.2) ∧
      (handledOnce 3 binding.notice (handledOnce 3 binding.notice a s).1.2 s).2.debouncer =
        s.debouncer := by
  intro stage secret binding st s a ns ns' e e'
  have hs : s.Serves st := ⟨rfl, by decide, by decide, by decide⟩
  have hsecret : Ordinary secret.notice := by
    refine ⟨.inl rfl, fun _ ↦ ?_⟩
    rintro ⟨b, hb⟩
    have hlength := congrArg String.length hb
    rw [String.length_append] at hlength
    have hmark : ResourceKey.bindingMark.length = 16 := by decide
    have hname : secret.notice.name.length = 4 := by decide
    omega
  have hbinding : Ordinary binding.notice := ⟨.inr rfl, nofun⟩
  have hns : ∀ n ∈ ns ++ ns', Ordinary n ∧ n.retries ≤ 3 ∧ n.retries.toNat + 1 < UInt32.size := by
    intro n hn
    have hn : n = secret.notice ∨ n = binding.notice := by
      simpa [ns, ns', or_assoc, or_left_comm] using hn
    rcases hn with rfl | rfl
    · exact ⟨hsecret, by decide, by decide⟩
    · exact ⟨hbinding, by decide, by decide⟩
  have hsame : ∀ n, n ∈ ns.map Notice.first ↔ n ∈ ns'.map Notice.first := by
    intro n
    simp only [ns, ns', List.map_cons, List.map_nil, List.mem_cons, List.not_mem_nil, or_false]
    tauto
  have hsucceeds : Succeeds 3 binding.notice a s := ⟨[], by rfl⟩
  obtain ⟨horder, hall, hagain⟩ := handles_any_order 3 st
  have h : Handles 3 st ns a.directory e :=
    hall ns a s (fun n hn ↦ hns n (List.mem_append_left ns' hn)) hs (by decide)
  have h' : Handles 3 st ns' a.directory e' :=
    hall ns' a s (fun n hn ↦ hns n (List.mem_append_right ns hn)) hs (by decide)
  have halike : e.Alike e' := horder a.directory e e' ns ns' (IndexDirectory.reachable_empty true)
    (fun n hn ↦ ⟨(hns n hn).1, (hns n hn).2.1⟩) hsame h h'
  have hrepeat := hagain binding.notice a s s hbinding (by decide) hs hs hsucceeds
  refine ⟨⟨h, h', halike, by decide +kernel⟩, ?_, hsucceeds, hrepeat⟩
  rintro ⟨stages, hstages⟩
  have hmissing : Except.error (AgentError.certificate .missing) = Except.ok stages := hstages
  cases hmissing

end Indexing

end StageRelay
