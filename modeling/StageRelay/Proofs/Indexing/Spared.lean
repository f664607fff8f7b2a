import StageRelay.Proofs.Indexing.Convergence

/-!
# What handlers leave alone

A handler writes where the subjects that its notice covers are indexed, and nowhere else. Others may
have a subject come to be covered while the handler is at work, but then there is a notice for it that
is still to be handled. So in every run what is tracked for a subject stays the same until the agent
takes up a notice that covers it.
-/

namespace StageRelay

namespace Indexing

open Agent (Leads Triple)

/-- What is tracked for a subject is `v` and `X` holds, unless there is a notice for the subject to be
handled. -/
structure Spared (u : Subject) (v : Option Tracked) (X : World → Prop) (a : AgentState)
    (w : World) : Prop where
  world : w.Proper
  entry : Awaited a w u ∨ a.directory.lookup? u.place = v ∧ X w

/-- What others cannot end without a notice for a subject. -/
def LastingFor (u : Subject) (X : World → Prop) : Prop :=
  ∀ a w w', World.Change w w' → w.Proper → X w → X w' ∨ Awaited a w' u

variable {u u' : Subject} {v : Option Tracked} {X Y : World → Prop} {a : AgentState} {w : World}
  {n : Notice} {i : Nat}

theorem LastingFor.const (P : Prop) : LastingFor u fun _ ↦ P :=
  fun _ _ _ _ _ h ↦ .inl h

theorem LastingFor.and_const (hX : LastingFor u X) (P : Prop) : LastingFor u fun w ↦ X w ∧ P :=
  fun a w w' hc hw h ↦ (hX a w w' hc hw h.1).imp_left fun hx ↦ ⟨hx, h.2⟩

/-- A subject that comes to be covered has a notice of its own. -/
theorem LastingFor.not_covers (hu : u.Proper) (n : Notice) :
    LastingFor u fun w ↦ ¬ Covers w.store n u := by
  intro a w w' hc hw hnot
  rcases hc.awaited_or (a := a) hw hu with h | hget
  · exact .inr h
  · refine .inl fun hcovers ↦ hnot ?_
    cases u with
    | secret k => exact hcovers
    | binding k =>
      refine hcovers.imp_right ?_
      rintro ⟨hkind, r, b, hr, hb⟩
      exact ⟨hkind, r, b, hget.1.symm.trans hr, hb⟩

namespace Spared

theorem stable (hu : u.Proper) (hX : LastingFor u X) : Stable (Spared u v X) := by
  intro a w w' h hc
  refine ⟨h.world.change hc, ?_⟩
  rcases h.entry with h' | ⟨hv, hx⟩
  · exact .inl (hc.awaited h.world hu h')
  · exact (hX a w w' hc h.world hx).symm.imp_right fun hx ↦ ⟨hv, hx⟩

theorem mono (h : Spared u v X a w) (hXY : X w → Y w) : Spared u v Y a w :=
  ⟨h.world, h.entry.imp_right (And.imp_right hXY)⟩

theorem touch (h : Spared u v X a w) (stage : Stage) :
    Spared u v X { a with directory := a.directory.touch stage } w := by
  refine ⟨h.world, h.entry.imp_right (And.imp_left ?_)⟩
  exact (a.directory.lookup?_touch stage u.place).trans

/-- Nothing is written where a subject is indexed but what is written for it. -/
theorem write (h : Spared u v X a w) (hu : u.Proper) (hu' : u'.Proper) (hne : X w → u' ≠ u)
    {d : IndexDirectory} {t : Option Tracked} (hd : Writes u'.place t a.directory d) :
    Spared u v X { a with directory := d } w := by
  refine ⟨h.world, h.entry.imp_right ?_⟩
  rintro ⟨hv, hx⟩
  have hplace : u.place ≠ u'.place := fun heq ↦ hne hx (hu'.place_inj hu heq.symm)
  exact ⟨(hd.entry u.place).trans ((if_neg hplace).trans hv), hx⟩

/-- One more notice to be handled again takes nothing away. -/
theorem retry (h : Spared u v X a w) {q : RetryQueue} {e : Delayed}
    (hq : q.entries = a.retries.entries ++ [e]) : Spared u v X { a with retries := q } w := by
  refine ⟨h.world, h.entry.imp_left ?_⟩
  rintro ⟨m, hm, hc⟩
  refine ⟨m, ?_, hc⟩
  rw [pending, List.mem_append] at hm ⊢
  refine hm.imp_right fun hm ↦ ?_
  rw [hq, List.map_append]
  exact List.mem_append_left _ hm

end Spared

/-! ## Handlers -/

section Handlers

theorem touch_spared (stage : Stage) : Triple (calls i) (Spared u v X) (Agent.touch stage)
    (fun _ ↦ Spared u v X) (Spared u v X) :=
  .modify fun _ _ h ↦ h.touch stage

/-- Among the bindings of a secret there is none that a notice of the secret does not cover. -/
theorem ne_of_mem_list {st : Store} (hst : st.Keyed) (hkind : n.kind = .secret) {r : Resource}
    (hr : r ∈ (st.list .tlsBinding n.stage).filter (Agent.refersTo n.name))
    (hnot : ¬ Covers st n u) : .binding r.key.identity ≠ u := by
  rintro rfl
  obtain ⟨hlist, hrefers⟩ := List.mem_filter.1 hr
  obtain ⟨b, hb, hname⟩ := refersTo_iff.1 hrefers
  obtain ⟨hmem, hrkind, hsame⟩ := Store.mem_list.1 hlist
  obtain ⟨hgateway, hstage⟩ := Stage.same_iff.1 hsame
  have hget := hst.get?_of_mem hmem
  rw [hrkind] at hget
  refine hnot (.inr ⟨hkind, r, b, hget, hb, ?_⟩)
  simp [Notice.key, ResourceKey.identity, Resource.key, hgateway, hstage, hname]

variable (hu : u.Proper)
include hu

/-- Indexing a binding leaves all other subjects alone. -/
theorem indexBinding_spared {stage : Stage} {key : ResourceKey} (hX : LastingFor u X)
    (hkey : key.stage.Plain) (hstage : key.stage.same stage)
    (hne : ∀ w, X w → .binding key.identity ≠ u) :
    Triple (calls i) (Spared u v X) (Agent.indexBinding stage key) (fun _ ↦ Spared u v X)
      (Spared u v X) := by
  have hstable : Stable (Spared u v X) := .stable hu hX
  have hu' := Subject.proper_binding hkey
  have hplace : key.ofBinding.stage.same stage := hstage
  have hfind (kind : Kind) (key : ResourceKey) : Triple (calls i) (Spared u v X)
      (Agent.find? kind key) (fun _ ↦ Spared u v X) (Spared u v X) :=
    find?_spec hstable kind key (fun _ _ ↦ id) fun _ _ ↦ id
  have hwithdraw : Triple (calls i) (Spared u v X)
      (do let changed ← Agent.withdraw stage key.ofBinding; Agent.postponeIf changed stage)
      (fun _ ↦ Spared u v X) (Spared u v X) := by
    refine .bind (withdraw_writes hplace ?_) fun changed ↦ postponeIf_spec hstable changed stage
    intro a w d h hd
    exact h.write hu hu' (hne w) hd
  unfold Agent.indexBinding
  refine .bind (touch_spared stage) fun _ ↦ ?_
  refine .bind (hfind .tlsBinding key) fun r? ↦ ?_
  cases r? with
  | none => exact hwithdraw
  | some r =>
    refine .orThrow_bind (fun _ _ ↦ id) fun b _ ↦ ?_
    split
    · exact .pure fun _ _ ↦ id
    refine .bind (hfind .secret _) fun secret? ↦ ?_
    cases secret? with
    | none => exact hwithdraw
    | some secret =>
      refine .orThrow_bind (fun _ _ ↦ id) fun data _ ↦ ?_
      refine .bind (Q := fun _ ↦ Spared u v X) (store_writes hplace ?_ fun _ _ h ↦ h.touch stage)
        fun changed ↦ postponeIf_spec hstable changed stage
      intro a w d changed h _ hd
      exact h.write hu hu' (hne w) hd

/-- Indexing the bindings of a secret leaves alone what no notice of the secret covers. -/
theorem indexBindingsOf_spared (hkind : n.kind = .secret) :
    Triple (calls i) (Spared u v fun w ↦ ¬ Covers w.store n u)
      (Agent.indexBindingsOf n.stage n.name) (fun _ ↦ Spared u v fun w ↦ ¬ Covers w.store n u)
      (Spared u v fun w ↦ ¬ Covers w.store n u) := by
  have hlasting : LastingFor u fun w ↦ ¬ Covers w.store n u := .not_covers hu n
  let I (rs : List Resource) (a : AgentState) (w : World) : Prop :=
    (∀ r ∈ rs, r.stage.Plain ∧ r.stage.same n.stage) ∧
      Spared u v (fun w ↦ ¬ Covers w.store n u ∧ ∀ r ∈ rs, .binding r.key.identity ≠ u) a w
  have hloop (rs : List Resource) : Triple (calls i) (I rs)
      (rs.forM fun r ↦ Agent.indexBinding n.stage r.key) (fun _ ↦ I [])
      (Spared u v fun w ↦ ¬ Covers w.store n u) := by
    refine .forM (fun r rs ↦ .of_forall (fun _ _ h ↦ h.1) fun hrs ↦ ?_) rs
    obtain ⟨⟨hplain, hsame⟩, hrs⟩ := List.forall_mem_cons.1 hrs
    refine (indexBinding_spared hu (hlasting.and_const _) hplain hsame ?_).mono
      (fun _ _ h ↦ h.2) ?_ ?_
    · exact fun w hx ↦ hx.2 r List.mem_cons_self
    · exact fun _ a w h ↦ ⟨hrs, h.mono fun hx ↦ ⟨hx.1, (List.forall_mem_cons.1 hx.2).2⟩⟩
    · exact fun a w h ↦ h.mono And.left
  unfold Agent.indexBindingsOf
  refine .bind (Q := fun listed a w ↦ Spared u v (fun w ↦ ¬ Covers w.store n u) a w ∧
    ∀ rs, listed = .ok rs → I (rs.filter (Agent.refersTo n.name)) a w) ?_ ?_
  · refine attempt_spec (Spared.stable hu hlasting) fun a s h _ ↦ ⟨h, fun rs hrs ↦ ?_⟩
    have hlist : rs = s.registry.store.list .tlsBinding n.stage := by
      simp only [Services.answer] at hrs
      split at hrs
      · cases hrs
      · exact (Except.ok.inj hrs).symm
    subst hlist
    have hkeyed : s.registry.store.Keyed := h.world.keyed
    refine ⟨?_, h.mono fun hnot ↦ ⟨hnot, fun r hr ↦ ne_of_mem_list hkeyed hkind hr hnot⟩⟩
    intro r hr
    obtain ⟨hmem, -, hsame⟩ := Store.mem_list.1 (List.mem_filter.1 hr).1
    exact ⟨hkeyed.plain_of_mem hmem, hsame⟩
  · intro listed
    refine .bind (.orThrow (fun rs hrs a w h ↦ h.2 rs hrs) fun _ _ a w h ↦ h.1) fun rs ↦ ?_
    exact (hloop _).post fun _ a w h ↦ h.2.mono And.left

/-- Indexing a secret leaves alone what no notice of the secret covers. -/
theorem indexSecret_spared (hkind : n.kind = .secret) (hn : ProperNotice n) :
    Triple (calls i) (Spared u v fun w ↦ ¬ Covers w.store n u) (Agent.indexSecret n.stage n.key)
      (fun _ ↦ Spared u v fun w ↦ ¬ Covers w.store n u)
      (Spared u v fun w ↦ ¬ Covers w.store n u) := by
  have hstable : Stable (Spared u v fun w ↦ ¬ Covers w.store n u) :=
    .stable hu (.not_covers hu n)
  have hu' : (Subject.secret n.key.identity).Proper :=
    Subject.proper_secret hn.plain (hn.unmarked hkind)
  have hplace : n.key.stage.same n.stage := Stage.same_refl _
  have hne (w : World) (hnot : ¬ Covers w.store n u) : .secret n.key.identity ≠ u := by
    rintro rfl
    exact hnot ⟨hkind, rfl⟩
  have hrest (changed : Bool) : Triple (calls i) (Spared u v fun w ↦ ¬ Covers w.store n u)
      (do Agent.postponeIf changed n.stage; Agent.indexBindingsOf n.stage n.key.name)
      (fun _ ↦ Spared u v fun w ↦ ¬ Covers w.store n u)
      (Spared u v fun w ↦ ¬ Covers w.store n u) :=
    .bind (postponeIf_spec hstable changed n.stage) fun _ ↦ indexBindingsOf_spared hu hkind
  unfold Agent.indexSecret
  refine .bind (touch_spared n.stage) fun _ ↦ ?_
  refine .bind (Q := fun _ ↦ Spared u v fun w ↦ ¬ Covers w.store n u)
    (find?_spec hstable .secret n.key (fun _ _ ↦ id) fun _ _ ↦ id) fun r? ↦ ?_
  cases r? with
  | none =>
    refine .bind (withdraw_writes hplace ?_) hrest
    intro a w d h hd
    exact h.write hu hu' (hne w) hd
  | some r =>
    refine .orThrow_bind (fun _ _ ↦ id) fun data _ ↦ ?_
    refine .bind (store_writes hplace ?_ fun _ _ h ↦ h.touch n.stage) hrest
    intro a w d changed h _ hd
    exact h.write hu hu' (hne w) hd

theorem handleCertificates_spared (most : UInt32) (hn : ProperNotice n) :
    Triple (calls i) (Spared u v fun w ↦ ¬ Covers w.store n u) (Agent.handleCertificates most n)
      (fun _ ↦ Spared u v fun w ↦ ¬ Covers w.store n u)
      (Spared u v fun w ↦ ¬ Covers w.store n u) := by
  have hlasting : LastingFor u fun w ↦ ¬ Covers w.store n u := .not_covers hu n
  have hstable : Stable (Spared u v fun w ↦ ¬ Covers w.store n u) := .stable hu hlasting
  unfold Agent.handleCertificates
  split
  · exact .bind (attempt_spec hstable fun _ _ h _ ↦ h) fun _ ↦ .pure fun _ _ ↦ id
  · split
    · next hkind => exact .bind (indexSecret_spared hu hkind hn) fun _ ↦ .pure fun _ _ ↦ id
    · next hkind =>
      refine .bind (indexBinding_spared hu hlasting hn.plain (Stage.same_refl _) ?_) fun _ ↦
        .pure fun _ _ ↦ id
      rintro w hnot rfl
      exact hnot (.inl ⟨hkind, rfl⟩)
    · refine .bind (Q := fun _ ↦ Spared u v fun w ↦ ¬ Covers w.store n u)
        (attempt_spec hstable fun _ _ h _ ↦ h) fun stages ↦ ?_
      exact .orThrow (fun _ _ _ _ ↦ id) fun _ _ _ _ ↦ id

/-- Handling a notice leaves alone what it does not cover. -/
theorem handle_spared (most : UInt32) (hn : ProperNotice n) :
    Leads (calls i) (Spared u v fun w ↦ ¬ Covers w.store n u) (Agent.handle most n)
      (Done (Spared u v fun _ ↦ True)) := by
  have hforget {a : AgentState} {w : World} (h : Spared u v (fun w ↦ ¬ Covers w.store n u) a w) :
      Spared u v (fun _ ↦ True) a w := h.mono fun _ ↦ trivial
  refine handle_done (Spared.stable hu (.const True)) (Spared.stable hu (.not_covers hu n))
    (fun h hq ↦ hforget (h.retry hq)) ?_ fun _ _ _ _ ↦ hforget
  exact (handleCertificates_spared hu most hn).post fun _ _ _ ↦ hforget

end Handlers

/-! ## Runs -/

/-- At some point of a run there is a notice for a subject to be handled, when the agent is about to
take up the next one. -/
def Heard (ρ : Rules) (x : System) (u : Subject) (y : System) : Prop :=
  ∃ z, x.Run ρ z ∧ z.activity = .idle ∧ Awaited z.agent (z.services.world z.watch) u ∧ z.Run ρ y

namespace Invariant

variable {ρ : Rules} {p : Subject → Prop} {x y : System}

section Spared

variable (hu : u.Proper) (hp : Invariant (Holds p fun _ _ ↦ False) x)
  (h : Invariant (Spared u v fun _ ↦ True) x)
include hu hp h

theorem hear_spared {rest : Watch} (hi : x.activity = .idle)
    (hleft : ¬ Awaited x.agent (x.services.world x.watch) u)
    (hn : x.services.registry.receive x.watch = .notice n rest) :
    Invariant (Spared u v fun _ ↦ True)
      ((x.withRegistry (x.services.registry.setWatch x.watch rest)).handle n) := by
  have hbuffer : (x.services.world x.watch).buffer =
      n :: (x.services.registry.setWatch x.watch rest).buffer x.watch := Registry.buffer_receive hn
  have hworld := (hp.holds (hi ▸ trivial)).world
  have hnotices := hworld.notices
  rw [hbuffer] at hnotices
  have hkept := (h.holds (hi ▸ trivial)).entry.resolve_left hleft
  refine handle (handle_spared hu x.maxRetries (hnotices n List.mem_cons_self)) ?_
    ⟨⟨hworld.keyed, hworld.resources, fun m hm ↦ hnotices m (List.mem_cons_of_mem n hm)⟩,
      .inr ⟨hkept.1, fun hc ↦ hleft ⟨n, ?_, hc⟩⟩⟩
  · simpa [System.withRegistry, Registry.setWatch] using h.watched
  · rw [pending, hbuffer]
    exact List.mem_append_left _ List.mem_cons_self

theorem retry_spared {retries : RetryQueue} (hi : x.activity = .idle)
    (hleft : ¬ Awaited x.agent (x.services.world x.watch) u)
    (hn : x.agent.retries.Yields x.services.now n retries) :
    Invariant (Spared u v fun _ ↦ True)
      ({ x with agent := { x.agent with retries } }.handle n) := by
  cases hn with
  | @leave e he hdue =>
    have hs := hp.holds (hi ▸ trivial)
    have hkept := (h.holds (hi ▸ trivial)).entry.resolve_left hleft
    refine handle (handle_spared hu x.maxRetries (hs.retries e he)) h.watched
      ⟨hs.world, .inr ⟨hkept.1, fun hc ↦ hleft ⟨e.notice, ?_, hc⟩⟩⟩
    exact List.mem_append_right _ (List.mem_map_of_mem he)

/-- What is tracked for a subject stays the same until a notice for it comes up. -/
theorem run_spared (hρ : Noting ρ) (hrun : x.Run ρ y) (hnot : ¬ Heard ρ x u y) :
    Invariant (Spared u v fun _ ↦ True) y := by
  induction hrun with
  | refl => exact h
  | @tail z y hz hstep ih =>
    have hprev : Invariant (Spared u v fun _ ↦ True) z := by
      apply ih
      rintro ⟨t, ht, hi, hawaited, hrest⟩
      exact hnot ⟨t, ht, hi, hawaited, hrest.tail hstep⟩
    have hleft (hi : z.activity = .idle) : ¬ Awaited z.agent (z.services.world z.watch) u :=
      fun hawaited ↦ hnot ⟨z, hz, hi, hawaited, .single hstep⟩
    have hholds := hp.run hρ hz
    exact hprev.step hρ (Spared.stable hu (.const True))
      (fun _ _ hi ↦ hear_spared hu hholds hprev hi (hleft hi))
      (fun _ _ hi ↦ retry_spared hu hholds hprev hi (hleft hi)) hstep

end Spared

end Invariant

end Indexing

end StageRelay
