import StageRelay.Proofs.Agent.Triple
import StageRelay.Proofs.Indexing.World
import StageRelay.Proofs.Interleaving.System

/-!
# What handlers bring up to date

A handler reads and writes in several calls, and the objects may change between any two of them. It
is described by the subjects that may be out of date with no notice waiting for them: those that
the handled notice covers at the beginning, and none at the end. If the handler fails they are still
those that the notice covers, which is then handled again.
-/

namespace StageRelay

/-- The stored objects, and what waits on a watch. -/
def Services.world (s : Services) (watch : Nat) : Indexing.World :=
  ⟨s.registry.store, s.registry.buffer watch⟩

/-- Whether a call is not one that notes the loss of a notice. -/
def Call.keepsNotice {β : Type} : Call β → Bool
  | .note (.retry outcome) => outcome = .scheduled
  | _ => true

namespace Indexing

open Agent (Attempt Leads Triple)

/-- Calls between which others may change the world, of an agent that loses no notice. -/
def calls (watch : Nat) : CallSpec World where
  needs c Q w := ∀ s : Services, Relation.ReflTransGen World.Change w (s.world watch) →
    c.keepsNotice → Q (s.answer c).1 ((s.answer c).2.world watch)
  mono h hc s hs hk := h _ _ (hc s hs hk)

/-! ## Writes -/

/-- A directory changes at one object, for which `v` is tracked then. -/
structure Writes (k : Identity) (v : Option Tracked) (d d' : IndexDirectory) : Prop where
  entry : ∀ k', d'.lookup? k' = if k' = k then v else d.lookup? k'
  proper : k.owner.Plain → d.Proper → d'.Proper

section Writes

variable {γ : Type} {T : CallSpec γ} {P E : AgentState → γ → Prop}
  {Q : Bool → AgentState → γ → Prop} {stage : Stage} {key : ResourceKey}

theorem Writes.of_set {k : Identity} {v : Option Tracked} {d : IndexDirectory}
    {x : CertificateIndex} (hk : k.owner.same stage)
    (hx : ∀ k', x.tracked.find? k' = if k' = k then v else (d.get stage).tracked.find? k') :
    Writes k v d (d.set stage x) where
  entry := IndexDirectory.lookup?_set hk hx
  proper hplain hd := hd.set hk hx (hplain.of_same hk)

variable (hstage : key.stage.same stage)
include hstage

theorem withdraw_writes (h : ∀ a g d, P a g → Writes key.identity none a.directory d →
      Q ((a.directory.get stage).erase key).1 { a with directory := d } g) :
    Triple T P (Agent.withdraw stage key) Q E := by
  refine .bind (Q := fun b a g ↦ b = a ∧ P a g) (.get fun a g hp ↦ ⟨rfl, hp⟩) ?_
  intro b
  refine .bind (Q := fun _ ↦ Q ((b.directory.get stage).erase key).1) (.set ?_) fun _ ↦
    .pure fun _ _ ↦ id
  rintro a g ⟨rfl, hp⟩
  refine h b g _ hp (.of_set (Stage.same_trans key.owner_identity_same hstage) ?_)
  exact (b.directory.get stage).find?_tracked_erase key

/-- A certificate that cannot be stored is as if the index had only been asked for. -/
theorem store_writes {c : Certificate} (h : ∀ a g d changed, P a g →
      ((a.directory.get stage).insert key c).1 = .ok changed →
      Writes key.identity c.tracked? a.directory d → Q changed { a with directory := d } g)
    (hfails : ∀ a g, P a g → E { a with directory := a.directory.touch stage } g) :
    Triple T P (Agent.store stage key c) Q E := by
  refine .bind (Q := fun b a g ↦ b = a ∧ P a g) (.get fun a g hp ↦ ⟨rfl, hp⟩) ?_
  intro b
  cases hinsert : (b.directory.get stage).insert key c with
  | mk changed x =>
    cases changed with
    | ok changed =>
      refine .bind (Q := fun _ ↦ Q changed) (.set ?_) fun _ ↦ .pure fun _ _ ↦ id
      rintro a g ⟨rfl, hp⟩
      have hok : ((b.directory.get stage).insert key c).1 = .ok changed := congrArg Prod.fst hinsert
      refine h b g _ changed hp hok (.of_set (Stage.same_trans key.owner_identity_same hstage) ?_)
      intro k
      have hfind := CertificateIndex.find?_tracked_insert hok k
      rwa [hinsert] at hfind
    | error e =>
      have hx : x = b.directory.get stage := by
        have hsame := CertificateIndex.insert_of_error (congrArg Prod.fst hinsert)
        rwa [hinsert] at hsame
      refine .bind (Q := fun _ ↦ E) (.set ?_) fun _ ↦ .throw fun _ _ ↦ id
      rintro a g ⟨rfl, hp⟩
      subst hx
      exact hfails b g hp

end Writes

/-! ## Assertions that last -/

/-- What goes on to hold whatever others do. -/
def Stable (P : AgentState → World → Prop) : Prop :=
  ∀ a w w', P a w → World.Change w w' → P a w'

theorem Stable.reach {P : AgentState → World → Prop} (hP : Stable P) {a : AgentState}
    {w w' : World} (h : P a w) (hw : Relation.ReflTransGen World.Change w w') : P a w' := by
  induction hw with
  | refl => exact h
  | tail _ hc ih => exact hP _ _ _ ih hc

/-- Subjects that go on to be owed, unless a notice comes to cover them. -/
def Lasting (X : World → Subject → Prop) : Prop :=
  ∀ a w w' u, World.Change w w' → w.Proper → u.Proper → X w u → X w' u ∨ Awaited a w' u

/-- Of the subjects in question, all that are out of date and not awaited are among the owed ones.
Bindings without names are left alone. -/
structure Holds (p : Subject → Prop) (X : World → Subject → Prop) (a : AgentState) (w : World) :
    Prop where
  world : w.Proper
  directory : a.directory.Proper
  retries : ∀ e ∈ a.retries.entries, ProperNotice e.notice
  settled : ∀ u, p u → u.Proper → ¬ Silent w.store u → Settled a w u ∨ X w u

/-- The subjects without one. -/
def Without (X : World → Subject → Prop) (u : Subject) (w : World) (v : Subject) : Prop :=
  X w v ∧ v ≠ u

variable {p : Subject → Prop} {X Y : World → Subject → Prop} {a : AgentState} {w : World}
  {u : Subject} {i : Nat}

theorem Lasting.without (hX : Lasting X) (u : Subject) : Lasting (Without X u) :=
  fun a w w' v hc hw hv h ↦ (hX a w w' v hc hw hv h.1).imp_left fun hx ↦ ⟨hx, h.2⟩

theorem lasting_none : Lasting fun _ _ ↦ False :=
  fun _ _ _ _ _ _ _ h ↦ h.elim

theorem lasting_covers (n : Notice) : Lasting fun w u ↦ Covers w.store n u :=
  fun _ _ _ _ hc hw hu h ↦ hc.covers hw hu h

theorem Lasting.and_const (hX : Lasting X) (p : Subject → Prop) :
    Lasting fun w u ↦ X w u ∧ p u :=
  fun a w w' u hc hw hu h ↦ (hX a w w' u hc hw hu h.1).imp_left fun hx ↦ ⟨hx, h.2⟩

theorem Holds.mono (h : Holds p X a w) (hXY : ∀ u, u.Proper → X w u → Y w u) : Holds p Y a w :=
  ⟨h.world, h.directory, h.retries, fun u hp hu hs ↦ (h.settled u hp hu hs).imp_right (hXY u hu)⟩

theorem Holds.stable (hX : Lasting X) : Stable (Holds p X) := by
  intro a w w' h hc
  refine ⟨h.world.change hc, h.directory, h.retries, ?_⟩
  intro u hp hu hsilent
  rcases (hc.noted h.world).silent_or (a := a) hu with ha | hs
  · exact .inl (.inr ha)
  · rcases h.settled u hp hu (mt hs hsilent) with hs | hx
    · exact .inl (hc.settled h.world hu hs)
    · exact (hX a w w' u hc h.world hu hx).symm.imp_left .inr

/-- Bringing one subject up to date leaves the others as they are. -/
theorem Holds.write (h : Holds p X a w) (hu : u.Proper) {d : IndexDirectory} {v : Option Tracked}
    (hd : Writes u.place v a.directory d) (hv : v = u.wanted? w.store ∨ Awaited a w u) :
    Holds p (Without X u) { a with directory := d } w := by
  refine ⟨h.world, hd.proper (u.place_owner ▸ hu.plain) h.directory, h.retries, ?_⟩
  intro u' hp hu' hsilent
  by_cases huu : u' = u
  · subst huu
    exact .inl (hv.imp_left fun hv ↦ by rw [hd.entry, if_pos rfl, hv])
  · have hplace : u'.place ≠ u.place := fun heq ↦ huu (hu'.place_inj hu heq)
    refine (h.settled u' hp hu' hsilent).imp ?_ fun hx ↦ ⟨hx, huu⟩
    intro hs
    exact hs.imp_left fun hs ↦ by rw [hd.entry, if_neg hplace, hs]

/-- Asking for an index changes nothing that is tracked. -/
theorem Holds.touch (h : Holds p X a w) (stage : Stage) :
    Holds p X { a with directory := a.directory.touch stage } w := by
  refine ⟨h.world, h.directory.touch stage, h.retries, ?_⟩
  intro u hp hu hsilent
  exact (h.settled u hp hu hsilent).imp_left fun hs ↦
    hs.imp_left fun hs ↦ (IndexDirectory.lookup?_touch a.directory stage u.place).trans hs

/-- So does leaving alone a binding that has no names. -/
theorem Holds.silent (h : Holds p X a w) (hs : Silent w.store u ∨ Awaited a w u) :
    Holds p (Without X u) a w := by
  refine ⟨h.world, h.directory, h.retries, ?_⟩
  intro u' hp hu' hsilent
  by_cases huu : u' = u
  · subst huu
    exact .inl (.inr (hs.resolve_left hsilent))
  · exact (h.settled u' hp hu' hsilent).imp_right fun hx ↦ ⟨hx, huu⟩

/-! ## Calls -/

section Calls

variable {α β : Type} {P E : AgentState → World → Prop}

theorem attempt_spec {c : Call β} {Q : β → AgentState → World → Prop} (hP : Stable P)
    (h : ∀ a (s : Services), P a (s.world i) → c.keepsNotice →
      Q (s.answer c).1 a ((s.answer c).2.world i)) :
    Triple (calls i) P (Agent.attempt c) Q E :=
  .attempt fun a _ hp s hs hk ↦ h a s (hP.reach hp hs) hk

theorem ask_spec {c : Call β} {Q : β → AgentState → World → Prop} (hP : Stable P)
    (h : ∀ a (s : Services), P a (s.world i) → c.keepsNotice →
      Q (s.answer c).1 a ((s.answer c).2.world i)) : Leads (calls i) P (Agent.ask c) Q :=
  .ask fun a _ hp s hs hk ↦ h a s (hP.reach hp hs) hk

/-- A call that leaves the objects and the notices alone. -/
theorem ask_same {c : Call β} (hP : Stable P) (hc : ∀ s : Services,
    (s.answer c).2.world i = s.world i) : Leads (calls i) P (Agent.ask c) fun _ ↦ P :=
  ask_spec hP fun a s h _ ↦ by rwa [hc]

theorem postponeIf_spec (hP : Stable P) (changed : Bool) (stage : Stage) :
    Triple (calls i) P (Agent.postponeIf changed stage) (fun _ ↦ P) E := by
  cases changed with
  | true => exact attempt_spec hP fun _ _ hp _ ↦ hp
  | false => exact .pure fun _ _ ↦ id

/-- Looking up an object tells what is stored then. -/
theorem find?_spec {Q : Option Resource → AgentState → World → Prop} (hP : Stable P) (kind : Kind)
    (key : ResourceKey) (hQ : ∀ a w, P a w → Q (w.store.get? kind key) a w)
    (hE : ∀ a w, P a w → E a w) : Triple (calls i) P (Agent.find? kind key) Q E := by
  refine .bind (Q := fun b a w ↦ P a w ∧ (∀ r, b = .ok r → w.store.get? kind key = some r) ∧
    ∀ kind' key', b = .error (.notFound kind' key') → w.store.get? kind key = none) ?_ ?_
  · refine attempt_spec hP fun a s hp _ ↦ ⟨hp, ?_⟩
    simp only [Services.answer, Registry.get]
    cases hr : s.registry.store.get? kind key with
    | none => split <;> simp [Services.backendFault, Services.world, hr]
    | some r => split <;> simp [Services.backendFault, Services.world, hr]
  · intro b
    rcases b with (⟨kind', key'⟩ | reason) | r
    · exact .pure fun a w ⟨hp, _, hnone⟩ ↦ hnone kind' key' rfl ▸ hQ a w hp
    · exact .throw fun a w h ↦ hE a w h.1
    · exact .pure fun a w ⟨hp, hsome, _⟩ ↦ hsome r rfl ▸ hQ a w hp

end Calls

/-! ## Parts of the handlers -/

section Parts

variable {stage : Stage} {key : ResourceKey} {E : AgentState → World → Prop}

theorem touch_spec (stage : Stage) :
    Triple (calls i) (Holds p X) (Agent.touch stage) (fun _ ↦ Holds p X) E :=
  .modify fun _ _ h ↦ h.touch stage

section Write

variable (hkey : key.identity = u.place) (hstage : key.stage.same stage) (hu : u.Proper)
include hkey hstage hu

/-- A certificate is taken out for a subject that should have none. -/
theorem withdraw_spec :
    Triple (calls i) (fun a w ↦ Holds p X a w ∧ (u.wanted? w.store = none ∨ Awaited a w u))
      (Agent.withdraw stage key) (fun _ ↦ Holds p (Without X u)) E :=
  withdraw_writes hstage fun _ _ _ h hd ↦ h.1.write hu (hkey ▸ hd) (h.2.imp_left Eq.symm)

/-- A certificate is stored for a subject that should have it. -/
theorem store_spec {c : Certificate} :
    Triple (calls i)
      (fun a w ↦ Holds p X a w ∧ (u.wanted? w.store = c.tracked? ∨ Awaited a w u))
      (Agent.store stage key c) (fun _ ↦ Holds p (Without X u)) (Holds p X) := by
  refine store_writes hstage (fun _ _ _ _ h _ hd ↦ ?_) fun _ _ h ↦ h.1.touch stage
  exact h.1.write hu (hkey ▸ hd) (h.2.imp_left Eq.symm)

end Write

end Parts

/-! ## Bindings -/

section Binding

variable {stage : Stage} {key : ResourceKey}

/-- What is stored for a binding stays as it was looked up, or a notice comes to cover the
binding. -/
theorem stable_binding (hX : Lasting X) (hkey : key.stage.Plain) (r? : Option Resource) :
    Stable fun a w ↦ Holds p X a w ∧
      (w.store.get? .tlsBinding key = r? ∨ Awaited a w (.binding key.identity)) := by
  have hu := Subject.proper_binding hkey
  rintro a w w' ⟨h, hr⟩ hc
  refine ⟨Holds.stable hX a w w' h hc, ?_⟩
  rcases hr with hr | hr
  · exact (hc.awaited_or h.world hu).symm.imp_left fun hget ↦ hget.1.trans hr
  · exact .inr (hc.awaited h.world hu hr)

/-- After a binding was indexed it is settled. -/
theorem indexBinding_spec (hX : Lasting X) (hkey : key.stage.Plain) (hstage : key.stage.same stage) :
    Triple (calls i) (Holds p X) (Agent.indexBinding stage key)
      (fun _ ↦ Holds p (Without X (.binding key.identity))) (Holds p X) := by
  have hu := Subject.proper_binding hkey
  have hplace : key.ofBinding.identity = (Subject.binding key.identity).place := rfl
  have hlasting := hX.without (.binding key.identity)
  have hsecret (st : Store) (name : String) :
      st.get? .secret ⟨stage, name⟩ = st.get? .secret ⟨key.identity.owner, name⟩ :=
    Store.get?_of_same (Stage.same_comm.1 hstage) .secret name
  unfold Agent.indexBinding
  refine .bind (touch_spec stage) fun _ ↦ ?_
  refine .bind (Q := fun r? a w ↦ Holds p X a w ∧
    (w.store.get? .tlsBinding key = r? ∨ Awaited a w (.binding key.identity)))
    (find?_spec (Holds.stable hX) .tlsBinding key (fun a w h ↦ ⟨h, .inl rfl⟩) fun _ _ ↦ id)
    fun r? ↦ ?_
  cases r? with
  | none =>
    refine .bind ((withdraw_spec hplace hstage hu).pre ?_) fun changed ↦
      postponeIf_spec (Holds.stable hlasting) changed stage
    intro a w h
    exact ⟨h.1, h.2.imp_left fun hr ↦ by simp [Subject.wanted?, hr]⟩
  | some r =>
    refine .orThrow_bind (fun _ _ h ↦ h.1) fun b hb ↦ ?_
    split
    · next hsnis =>
      refine .pure fun a w h ↦ h.1.silent (h.2.imp_left fun hr ↦ ?_)
      exact ⟨r, b, hr, hb, List.isEmpty_iff.1 hsnis⟩
    refine .bind (Q := fun secret? a w ↦ Holds p X a w ∧
      (w.store.get? .tlsBinding key = some r ∧
          w.store.get? .secret ⟨key.identity.owner, b.secretRef⟩ = secret? ∨
        Awaited a w (.binding key.identity)))
      (find?_spec (stable_binding hX hkey (some r)) .secret _
        (fun a w h ↦ ⟨h.1, h.2.imp_left fun hr ↦ ⟨hr, (hsecret _ _).symm⟩⟩) fun _ _ h ↦ h.1)
      fun secret? ↦ ?_
    cases secret? with
    | none =>
      refine .bind ((withdraw_spec hplace hstage hu).pre ?_) fun changed ↦
        postponeIf_spec (Holds.stable hlasting) changed stage
      intro a w h
      refine ⟨h.1, h.2.imp_left ?_⟩
      rintro ⟨hr, hs⟩
      simp [Subject.wanted?, hr, hb, hs, Except.toOption]
    | some secret =>
      refine .orThrow_bind (fun _ _ h ↦ h.1) fun data hdata ↦ ?_
      refine .bind ((store_spec hplace hstage hu).pre ?_) fun changed ↦
        postponeIf_spec (Holds.stable hlasting) changed stage
      intro a w h
      refine ⟨h.1, h.2.imp_left ?_⟩
      rintro ⟨hr, hs⟩
      simp [Subject.wanted?, hr, hb, hs, hdata, Except.toOption]

end Binding

/-! ## Secrets -/

section Secret

variable {stage : Stage} {n : Notice}

theorem refersTo_iff {secret : String} {r : Resource} :
    Agent.refersTo secret r ↔ ∃ b, r.tlsBinding = .ok b ∧ b.secretRef = secret := by
  unfold Agent.refersTo
  cases r.tlsBinding <;> simp

/-- A binding that a notice of a secret covers is among the bindings of its stage. -/
theorem mem_list_of_covers {st : Store} (hst : st.Keyed) (hkind : n.kind = .secret) (hu : u.Proper)
    (hc : Covers st n u) (hne : u ≠ .secret n.key.identity) :
    ∃ r ∈ (st.list .tlsBinding n.stage).filter (Agent.refersTo n.name),
      u = .binding r.key.identity := by
  cases u with
  | secret k => exact absurd (congrArg Subject.secret hc.2.symm) hne
  | binding k =>
    rcases hc with ⟨htls, -⟩ | ⟨-, r, b, hr, hb, hk⟩
    · cases hkind.symm.trans htls
    · obtain ⟨hmem, hrkind, hstage, hname⟩ := hst.mem_of_get? hu.plain hr
      obtain ⟨gateway, stage, name⟩ := k
      obtain ⟨hgateway, hstage'⟩ := Stage.same_iff.1 hstage
      simp only [Notice.key, ResourceKey.identity, Identity.mk.injEq] at hk
      refine ⟨r, List.mem_filter.2 ⟨Store.mem_list.2 ⟨hmem, hrkind, ?_⟩, ?_⟩, ?_⟩
      · exact Stage.same_iff.2 ⟨hgateway.trans hk.1.symm, hstage'.trans hk.2.1.symm⟩
      · exact refersTo_iff.2 ⟨b, hb, hk.2.2.symm⟩
      · exact congrArg Subject.binding (Identity.mk.injEq .. ▸ ⟨hgateway, hstage', hname⟩ :
          r.key.identity = ⟨gateway, stage, name⟩).symm

/-- Once the bindings of a stage are listed, those of a secret are the listed ones: whichever comes
to point at the secret later has a notice of its own. -/
theorem indexBindingsOf_spec (hkind : n.kind = .secret) :
    Triple (calls i) (Holds p fun w u ↦ Covers w.store n u ∧ u ≠ .secret n.key.identity)
      (Agent.indexBindingsOf n.stage n.name) (fun _ ↦ Holds p fun _ _ ↦ False)
      (Holds p fun w u ↦ Covers w.store n u) := by
  have hcovers := lasting_covers n
  let I (rs : List Resource) (a : AgentState) (w : World) : Prop :=
    (∀ r ∈ rs, r.stage.Plain ∧ r.stage.same n.stage) ∧
      Holds p (fun w u ↦ Covers w.store n u ∧ ∃ r ∈ rs, u = .binding r.key.identity) a w
  have hloop (rs : List Resource) : Triple (calls i) (I rs)
      (rs.forM fun r ↦ Agent.indexBinding n.stage r.key) (fun _ ↦ I [])
      (Holds p fun w u ↦ Covers w.store n u) := by
    refine .forM (fun r rs ↦ .of_forall (fun _ _ h ↦ h.1) fun hrs ↦ ?_) rs
    obtain ⟨⟨hplain, hsame⟩, hrs⟩ := List.forall_mem_cons.1 hrs
    refine (indexBinding_spec (hcovers.and_const fun u ↦
      ∃ r' ∈ r :: rs, u = .binding r'.key.identity) hplain hsame).mono (fun _ _ h ↦ h.2) ?_ ?_
    · refine fun _ a w h ↦ ⟨hrs, h.mono ?_⟩
      rintro u - ⟨⟨hc, r', hr', hu⟩, hne⟩
      rcases List.mem_cons.1 hr' with rfl | hr'
      · exact absurd hu hne
      · exact ⟨hc, r', hr', hu⟩
    · exact fun a w h ↦ h.mono fun u _ hc ↦ hc.1
  unfold Agent.indexBindingsOf
  refine .bind (Q := fun listed a w ↦ Holds p (fun w u ↦ Covers w.store n u) a w ∧
    ∀ rs, listed = .ok rs → I (rs.filter (Agent.refersTo n.name)) a w) ?_ ?_
  · refine attempt_spec (Holds.stable (hcovers.and_const _)) fun a s h _ ↦
      ⟨h.mono fun u _ hc ↦ hc.1, fun rs hrs ↦ ?_⟩
    have hlist : rs = s.registry.store.list .tlsBinding n.stage := by
      simp only [Services.answer] at hrs
      split at hrs
      · cases hrs
      · exact (Except.ok.inj hrs).symm
    subst hlist
    refine ⟨?_, h.mono fun u hu ⟨hc, hne⟩ ↦
      ⟨hc, mem_list_of_covers h.world.keyed hkind hu hc hne⟩⟩
    intro r hr
    obtain ⟨hmem, -, hsame⟩ := Store.mem_list.1 (List.mem_filter.1 hr).1
    exact ⟨h.world.keyed.plain_of_mem hmem, hsame⟩
  · intro listed
    refine .bind (.orThrow (fun rs hrs a w h ↦ h.2 rs hrs) fun _ _ a w h ↦ h.1) ?_
    intro rs
    refine (hloop _).post fun _ a w h ↦ h.2.mono fun u _ ⟨_, r, hr, _⟩ ↦ ?_
    cases hr

/-- After a secret was indexed, it and its bindings are settled. -/
theorem indexSecret_spec (hkind : n.kind = .secret) (hn : ProperNotice n) :
    Triple (calls i) (Holds p fun w u ↦ Covers w.store n u) (Agent.indexSecret n.stage n.key)
      (fun _ ↦ Holds p fun _ _ ↦ False) (Holds p fun w u ↦ Covers w.store n u) := by
  have hcovers := lasting_covers n
  have hu : (Subject.secret n.key.identity).Proper :=
    Subject.proper_secret hn.plain (hn.unmarked hkind)
  have hplace : n.key.identity = (Subject.secret n.key.identity).place := rfl
  have hrest (changed : Bool) : Triple (calls i)
      (Holds p (Without (fun w u ↦ Covers w.store n u) (.secret n.key.identity)))
      (do Agent.postponeIf changed n.stage; Agent.indexBindingsOf n.stage n.key.name)
      (fun _ ↦ Holds p fun _ _ ↦ False) (Holds p fun w u ↦ Covers w.store n u) :=
    .bind (postponeIf_spec (Holds.stable (hcovers.without _)) changed n.stage) fun _ ↦
      indexBindingsOf_spec hkind
  unfold Agent.indexSecret
  refine .bind (touch_spec n.stage) fun _ ↦ ?_
  refine .bind (Q := fun r? a w ↦ Holds p (fun w u ↦ Covers w.store n u) a w ∧
    w.store.get? .secret n.key = r?)
    (find?_spec (Holds.stable hcovers) .secret n.key (fun a w h ↦ ⟨h, rfl⟩) fun _ _ ↦ id)
    fun r? ↦ ?_
  cases r? with
  | none =>
    refine .bind ((withdraw_spec hplace (Stage.same_refl _) hu).pre ?_) hrest
    intro a w h
    exact ⟨h.1, .inl (by simp [Subject.wanted?, h.2])⟩
  | some r =>
    refine .orThrow_bind (fun _ _ h ↦ h.1) fun data hdata ↦ ?_
    refine .bind ((store_spec hplace (Stage.same_refl _) hu).pre ?_) hrest
    intro a w h
    exact ⟨h.1, .inl (by simp [Subject.wanted?, h.2, hdata, Except.toOption])⟩

end Secret

/-! ## Notices -/

section Notice

variable {n : Notice}

theorem not_covers {st : Store} (hs : n.kind ≠ .secret) (hb : n.kind ≠ .tlsBinding) (u : Subject) :
    ¬ Covers st n u := by
  cases u with
  | secret k =>
    intro h
    exact hs h.1
  | binding k =>
    rintro (h | h)
    · exact hb h.1
    · exact hs h.1

/-- After a notice was handled, everything that it covers is settled. -/
theorem handleCertificates_spec (most : UInt32) (hn : ProperNotice n) :
    Triple (calls i) (Holds p fun w u ↦ Covers w.store n u) (Agent.handleCertificates most n)
      (fun _ ↦ Holds p fun _ _ ↦ False) (Holds p fun w u ↦ Covers w.store n u) := by
  have hcovers := lasting_covers n
  unfold Agent.handleCertificates
  split
  · refine .bind (Q := fun _ _ _ ↦ False) ?_ fun _ ↦ .pure fun _ _ ↦ False.elim
    exact attempt_spec (Holds.stable hcovers) fun _ _ _ hk ↦ by cases hk
  · split
    · next hkind => exact .bind (indexSecret_spec hkind hn) fun _ ↦ .pure fun _ _ ↦ id
    · next hkind =>
      refine .bind ((indexBinding_spec hcovers hn.plain (Stage.same_refl _)).post
        fun _ a w h ↦ h.mono ?_) fun _ ↦ .pure fun _ _ ↦ id
      rintro (k | k) - ⟨hc, hne⟩
      · cases hkind.symm.trans hc.1
      · rcases hc with ⟨-, hk⟩ | ⟨hs, -⟩
        · exact hne (congrArg Subject.binding hk.symm)
        · cases hkind.symm.trans hs
    · next hs hb =>
      refine .bind (Q := fun _ ↦ Holds p fun w u ↦ Covers w.store n u)
        (attempt_spec (Holds.stable hcovers) fun a s h _ ↦ h) ?_
      intro stages
      exact .orThrow (fun _ _ a w h ↦ h.mono fun u _ hc ↦ not_covers hs hb u hc) fun _ _ _ _ ↦ id

/-- A notice that is handled again later covers what it covered. -/
theorem Holds.retry {r : UInt32} {q : RetryQueue} {due : Nat} (hn : ProperNotice n)
    (h : Holds p (fun w u ↦ Covers w.store n u) a w)
    (hq : q.entries = a.retries.entries ++ [⟨due, { n with retries := r }⟩]) :
    Holds p (fun _ _ ↦ False) { a with retries := q } w := by
  have hmem {m : Notice} : m ∈ pending { a with retries := q } w ↔
      m ∈ pending a w ∨ m = { n with retries := r } := by
    simp [pending, hq, or_assoc]
  refine ⟨h.world, h.directory, ?_, fun u hp hu hsilent ↦ .inl ?_⟩
  · intro e he
    rw [hq, List.mem_append, List.mem_singleton] at he
    rcases he with he | rfl
    · exact h.retries e he
    · exact ⟨hn.plain, hn.unmarked⟩
  · rcases h.settled u hp hu hsilent with (hs | ⟨m, hm, hc⟩) | hc
    · exact .inl hs
    · exact .inr ⟨m, hmem.2 (.inl hm), hc⟩
    · exact .inr ⟨_, hmem.2 (.inr rfl), (covers_retry w.store n r u).2 hc⟩

/-- What holds when the agent has handled something, unless it crashed. -/
def Done (A : AgentState → World → Prop) (r : Agent.Handled) (a : AgentState) (w : World) : Prop :=
  r ≠ .crashed → A a w

section Done

/- `B` holds while a notice is handled, and `A` once it is handled or waits to be handled again. -/
variable {A B : AgentState → World → Prop} (hA : Stable A) (hB : Stable B)
  (hlater : ∀ {a w q due r}, B a w →
    q.entries = a.retries.entries ++ [⟨due, { n with retries := r }⟩] → A { a with retries := q } w)
include hA hB hlater

theorem retryLater_done : Leads (calls i) B (Agent.retryLater n) (Done A) := by
  unfold Agent.retryLater
  split
  · exact .pure fun _ _ _ hne ↦ absurd rfl hne
  · refine .bind (ask_same hB fun _ ↦ rfl) ?_
    intro now
    refine .bind (Q := fun b a w ↦ b = a ∧ B a w) (.get fun a w h ↦ ⟨rfl, h⟩) ?_
    intro b
    unfold RetryQueue.push
    split
    · next q hpush =>
      have hq : q.entries = b.retries.entries ++
          [⟨now + b.retries.delay, { n with retries := n.retries + 1 }⟩] := by
        grind
      refine .bind (Q := fun _ ↦ A) (.set ?_) fun _ ↦ ?_
      · rintro a w ⟨rfl, h⟩
        exact hlater h hq
      · refine .bind (ask_same hA fun _ ↦ rfl) fun _ ↦ ?_
        exact .pure fun _ _ h _ ↦ h
    · refine .bind (Q := fun _ _ _ ↦ False) ?_ fun _ ↦ .pure fun _ _ ↦ False.elim
      refine .mono (ask_spec hB fun _ _ _ hk ↦ by cases hk) (fun _ _ h ↦ h.2) fun _ _ _ ↦ id
    · exact .pure fun _ _ _ hne ↦ absurd rfl hne

/-- Whatever the certificates of a notice lead to, handling the notice leads to. -/
theorem handle_done {most : UInt32}
    (hcertificates : Triple (calls i) B (Agent.handleCertificates most n) (fun _ ↦ A) B)
    (hother : n.kind ≠ .secret → n.kind ≠ .tlsBinding → ∀ a w, B a w → A a w) :
    Leads (calls i) B (Agent.handle most n) (Done A) := by
  unfold Agent.handle
  refine .bind (ask_same hB fun _ ↦ rfl) fun _ ↦ ?_
  split
  · next hkind =>
    exact .pure fun a w h _ ↦ hother (by simp [hkind]) (by simp [hkind]) a w h
  · split
    · refine .bind hcertificates ?_
      intro r
      cases r with
      | ok stages => exact .pure fun _ _ h _ ↦ h
      | error e => exact retryLater_done hA hB hlater
    · next hcert =>
      have hs : n.kind ≠ .secret := by rintro hk; simp [hk, Kind.isCertificate] at hcert
      have hb : n.kind ≠ .tlsBinding := by rintro hk; simp [hk, Kind.isCertificate] at hcert
      refine .bind (ask_same hB fun _ ↦ rfl) fun _ ↦ ?_
      exact .pure fun a w h _ ↦ hother hs hb a w h

end Done

/-- Handling a notice settles everything that it covers, or queues it again. -/
theorem handle_spec (most : UInt32) (hn : ProperNotice n) :
    Leads (calls i) (Holds p fun w u ↦ Covers w.store n u) (Agent.handle most n)
      (Done (Holds p fun _ _ ↦ False)) := by
  refine handle_done (Holds.stable lasting_none) (Holds.stable (lasting_covers n))
    (fun h hq ↦ h.retry hn hq) (handleCertificates_spec most hn) ?_
  intro hs hb a w h
  exact h.mono fun u _ hc ↦ not_covers hs hb u hc

end Notice

end Indexing

end StageRelay
