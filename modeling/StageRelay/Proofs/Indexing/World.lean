import Mathlib.Logic.Relation
import StageRelay.Agent.Basic
import StageRelay.Proofs.Index.Directory

/-!
# What is to be indexed

A secret and a TLS binding each have at most one entry in the certificate indices. Which one they
should have depends on the objects that are stored; what they do have may be out of date, but then a
notice that is still to be handled covers them. A notice of a secret covers the secret and the
bindings that point at it now, one of a binding covers that binding.

The objects may change at any time. Since every change comes with its notice, what was settled stays
so whatever others do.
-/

namespace StageRelay

/-- The key of an object. -/
def Identity.key (k : Identity) : ResourceKey :=
  ⟨k.owner, k.name⟩

@[simp] theorem Store.get?_identity_key (st : Store) (kind : Kind) (key : ResourceKey) :
    st.get? kind key.identity.key = st.get? kind key := rfl

/-- Names of the entries of bindings. -/
def ResourceKey.Marked (name : String) : Prop :=
  ∃ b, name = bindingMark ++ b

namespace Indexing

/-! ## Subjects -/

/-- A secret or a TLS binding, stored or not. -/
inductive Subject where
  | secret (k : Identity)
  | binding (k : Identity)

namespace Subject

/-- The object itself. -/
def identity : Subject → Identity
  | secret k => k
  | binding k => k

/-- Where its certificate is indexed. -/
def place : Subject → Identity
  | secret k => k
  | binding k => { k with name := ResourceKey.bindingMark ++ k.name }

theorem place_owner (u : Subject) : u.place.owner = u.identity.owner := by
  cases u <;> rfl

/-- What should be indexed for a secret, and for a binding whose secret is stored. -/
def wanted? (st : Store) : Subject → Option Tracked
  | secret k => do
    let r ← st.get? .secret k.key
    let data ← r.secretData.toOption
    (Certificate.ofSecret data).tracked?
  | binding k => do
    let r ← st.get? .tlsBinding k.key
    let b ← r.tlsBinding.toOption
    let secret ← st.get? .secret ⟨k.owner, b.secretRef⟩
    let data ← secret.secretData.toOption
    ((Certificate.ofSecret data).pin b.snis).tracked?

/-- Subjects that can be told apart by their places. -/
structure Proper (u : Subject) : Prop where
  plain : u.identity.owner.Plain
  unmarked : ∀ k, u = secret k → ¬ ResourceKey.Marked k.name

theorem proper_binding {key : ResourceKey} (h : key.stage.Plain) :
    (binding key.identity).Proper :=
  ⟨h.of_same (Stage.same_comm.1 key.owner_identity_same), fun _ h ↦ by cases h⟩

theorem proper_secret {key : ResourceKey} (h : key.stage.Plain)
    (hm : ¬ ResourceKey.Marked key.name) : (secret key.identity).Proper := by
  refine ⟨h.of_same (Stage.same_comm.1 key.owner_identity_same), ?_⟩
  rintro k ⟨rfl⟩
  exact hm

/-- A subject that is no secret with the name of a binding's entry. -/
def Unmarked (u : Subject) : Prop :=
  ∀ k, u = secret k → ¬ ResourceKey.Marked k.name

/-- Such subjects have different places, whatever their stages are. -/
theorem Unmarked.place_inj {u v : Subject} (hu : u.Unmarked) (hv : v.Unmarked)
    (h : u.place = v.place) : u = v := by
  cases u with
  | secret k =>
    cases v with
    | secret l => exact congrArg secret h
    | binding l => exact absurd ⟨l.name, congrArg Identity.name h⟩ (hu k rfl)
  | binding k =>
    cases v with
    | secret l => exact absurd ⟨k.name, congrArg Identity.name h.symm⟩ (hv l rfl)
    | binding l =>
      obtain ⟨gateway, stage, name⟩ := k
      obtain ⟨gateway', stage', name'⟩ := l
      simp only [place, Identity.mk.injEq] at h
      obtain ⟨rfl, rfl, hname⟩ := h
      have hname : name.toList = name'.toList := by
        simpa using congrArg String.toList hname
      rw [String.toList_inj.1 hname]

theorem Proper.place_inj {u v : Subject} (hu : u.Proper) (hv : v.Proper) (h : u.place = v.place) :
    u = v :=
  Unmarked.place_inj hu.unmarked hv.unmarked h

/-- Every place of a plain stage is that of some subject. -/
theorem exists_place (k : Identity) (hk : k.owner.Plain) :
    ∃ u : Subject, u.Proper ∧ u.place = k := by
  by_cases hm : ResourceKey.Marked k.name
  · obtain ⟨b, hb⟩ := hm
    refine ⟨binding { k with name := b }, ⟨hk, by simp⟩, ?_⟩
    simp [place, ← hb]
  · refine ⟨secret k, ⟨hk, ?_⟩, rfl⟩
    rintro l ⟨rfl⟩
    exact hm

end Subject

/-! ## Notices -/

/-- Whether a notice, once it is handled, brings a subject up to date. -/
def Covers (st : Store) (n : Notice) : Subject → Prop
  | .secret k => n.kind = .secret ∧ n.key.identity = k
  | .binding k => n.kind = .tlsBinding ∧ n.key.identity = k ∨
    n.kind = .secret ∧ ∃ r b, st.get? .tlsBinding k.key = some r ∧ r.tlsBinding = .ok b ∧
      n.key.identity = { k with name := b.secretRef }

/-- Whether the object of a notice can be told from its names. -/
structure ProperNotice (n : Notice) : Prop where
  plain : n.stage.Plain
  unmarked : n.kind = .secret → ¬ ResourceKey.Marked n.name

theorem covers_retry (st : Store) (n : Notice) (retries : UInt32) (u : Subject) :
    Covers st { n with retries } u ↔ Covers st n u := by
  cases u <;> rfl

theorem ProperNotice.place_eq_iff {n : Notice} (hn : ProperNotice n) {kind : Kind} {k : Identity}
    (hk : k.owner.Plain) :
    StoreKey.of kind k.key = .of n.kind n.key ↔ n.kind = kind ∧ n.key.identity = k := by
  rw [eq_comm, Store.of_eq_of_iff hn.plain hk, Stage.same_iff]
  obtain ⟨gateway, stage, name⟩ := k
  simp [Identity.key, Identity.owner, ResourceKey.identity, and_assoc]

/-! ## Worlds -/

/-- The stored objects, and the notices that wait to be received. -/
structure World where
  store : Store
  buffer : List Notice

/-- Resources whose notices are proper. A binding that can be read has names. -/
structure Admissible (r : Resource) : Prop where
  plain : r.stage.Plain
  unmarked : r.kind = .secret → ¬ ResourceKey.Marked r.name
  named : r.kind = .tlsBinding → ∀ b, r.tlsBinding = .ok b → b.snis ≠ []

theorem Admissible.proper {r : Resource} (h : Admissible r) : ProperNotice r.notice :=
  ⟨h.plain, h.unmarked⟩

namespace World

/-- What others do. -/
inductive Change : World → World → Prop
  | put {w : World} {r : Resource} (hr : ProperNotice r.notice) :
    Change w ⟨w.store.put r, w.buffer ++ [r.notice]⟩
  | remove {w : World} {kind : Kind} {key : ResourceKey} {r : Resource} (hk : key.stage.Plain)
    (hr : w.store.get? kind key = some r) :
    Change w ⟨w.store.remove kind key,
      w.buffer ++ [{ stage := key.stage, kind, name := key.name }]⟩

structure Proper (w : World) : Prop where
  keyed : w.store.Keyed
  resources : ∀ r ∈ w.store.resources, ProperNotice r.notice
  notices : ∀ n ∈ w.buffer, ProperNotice n

/-- A change that comes with its notice: what else is stored stays. -/
def Noted (w w' : World) : Prop :=
  ∃ n, ProperNotice n ∧ w'.buffer = w.buffer ++ [n] ∧
    ∀ kind key, StoreKey.of kind key ≠ .of n.kind n.key →
      w'.store.get? kind key = w.store.get? kind key

theorem noted_put {st : Store} {buffer : List Notice} {r : Resource} (hr : ProperNotice r.notice) :
    Noted ⟨st, buffer⟩ ⟨st.put r, buffer ++ [r.notice]⟩ :=
  ⟨_, hr, rfl, fun _ _ hne ↦ Store.get?_put.trans (if_neg hne)⟩

theorem noted_remove {st : Store} {buffer : List Notice} {kind : Kind} {key : ResourceKey}
    (hn : ProperNotice { stage := key.stage, kind, name := key.name }) :
    Noted ⟨st, buffer⟩
      ⟨st.remove kind key, buffer ++ [{ stage := key.stage, kind, name := key.name }]⟩ :=
  ⟨_, hn, rfl, fun _ _ hne ↦ Store.get?_remove.trans (if_neg hne)⟩

/-- Whoever changes an object notes it. -/
theorem Change.noted {w w' : World} (h : w.Change w') (hw : w.Proper) : w.Noted w' := by
  cases h with
  | put hr => exact noted_put hr
  | remove hk hr =>
    refine noted_remove ⟨hk, fun hkind ↦ ?_⟩
    obtain ⟨hmem, hkind', -, hname⟩ := hw.keyed.mem_of_get? hk hr
    exact hname ▸ (hw.resources _ hmem).unmarked (hkind'.trans hkind)

theorem Proper.change {w w' : World} (hw : w.Proper) (h : w.Change w') : w'.Proper := by
  obtain ⟨n, hn, hbuffer, -⟩ := h.noted hw
  have hnotices : ∀ m ∈ w'.buffer, ProperNotice m := by
    intro m hm
    rw [hbuffer, List.mem_append, List.mem_singleton] at hm
    rcases hm with hm | rfl
    · exact hw.notices m hm
    · exact hn
  cases h with
  | put hr =>
    refine ⟨hw.keyed.put hr.plain, ?_, hnotices⟩
    intro r hmem
    obtain ⟨e, he, rfl⟩ := List.mem_map.1 hmem
    rcases Assoc.mem_of_mem_insert he with rfl | he
    · exact hr
    · exact hw.resources _ (List.mem_map_of_mem he)
  | remove hk hr =>
    refine ⟨hw.keyed.remove _ _, ?_, hnotices⟩
    intro r hmem
    obtain ⟨e, he, rfl⟩ := List.mem_map.1 hmem
    exact hw.resources _ (List.mem_map_of_mem ((Assoc.erase_sublist _ _).subset he))

end World

/-! ## Settled subjects -/

/-- The notices that are still to be handled. -/
def pending (a : AgentState) (w : World) : List Notice :=
  w.buffer ++ a.retries.entries.map Delayed.notice

/-- Some notice that is still to be handled covers a subject. -/
def Awaited (a : AgentState) (w : World) (u : Subject) : Prop :=
  ∃ n ∈ pending a w, Covers w.store n u

/-- Whether a subject is a binding without names, which is left alone whatever is indexed for it. -/
def Silent (st : Store) : Subject → Prop
  | .secret _ => False
  | .binding k => ∃ r b, st.get? .tlsBinding k.key = some r ∧ r.tlsBinding = .ok b ∧ b.snis = []

/-- What is indexed for a subject is up to date, or will be looked at again. -/
def Settled (a : AgentState) (w : World) (u : Subject) : Prop :=
  a.directory.lookup? u.place = u.wanted? w.store ∨ Awaited a w u

namespace World

variable {a : AgentState} {w w' : World} {u : Subject}

namespace Noted

theorem mem_pending (h : w.Noted w') {n : Notice} (hn : n ∈ pending a w) : n ∈ pending a w' := by
  obtain ⟨m, -, hbuffer, -⟩ := h
  simp only [pending, hbuffer, List.mem_append] at hn ⊢
  exact hn.imp_left .inl

/-- A change either is covered by its own notice, or leaves alone whatever a subject depends on. -/
theorem awaited_or (h : w.Noted w') (hu : u.Proper) :
    Awaited a w' u ∨
      (match u with
      | .secret k => w'.store.get? .secret k.key = w.store.get? .secret k.key
      | .binding k => w'.store.get? .tlsBinding k.key = w.store.get? .tlsBinding k.key ∧
        ∀ r b, w.store.get? .tlsBinding k.key = some r → r.tlsBinding = .ok b →
          w'.store.get? .secret ⟨k.owner, b.secretRef⟩ =
            w.store.get? .secret ⟨k.owner, b.secretRef⟩) := by
  obtain ⟨n, hn, hbuffer, hget⟩ := h
  have hmem : n ∈ pending a w' := by simp [pending, hbuffer]
  by_cases hcovers : Covers w'.store n u
  · exact .inl ⟨n, hmem, hcovers⟩
  · refine .inr ?_
    cases u with
    | secret k =>
      refine hget _ _ fun heq ↦ hcovers ?_
      exact (hn.place_eq_iff hu.plain).1 heq
    | binding k =>
      have hb : w'.store.get? .tlsBinding k.key = w.store.get? .tlsBinding k.key := by
        refine hget _ _ fun heq ↦ hcovers (.inl ?_)
        exact (hn.place_eq_iff hu.plain).1 heq
      refine ⟨hb, fun r b hr hrb ↦ hget _ _ fun heq ↦ hcovers (.inr ?_)⟩
      obtain ⟨hkind, hk⟩ :=
        (hn.place_eq_iff (k := { k with name := b.secretRef }) hu.plain).1 heq
      exact ⟨hkind, r, b, hb.trans hr, hrb, hk⟩

theorem covers (h : w.Noted w') (hu : u.Proper) {n : Notice} (hn : Covers w.store n u) :
    Covers w'.store n u ∨ Awaited a w' u := by
  rcases h.awaited_or (a := a) hu with h | h
  · exact .inr h
  · refine .inl ?_
    cases u with
    | secret k => exact hn
    | binding k => exact hn.imp_right fun ⟨hkind, r, b, hr, hb⟩ ↦ ⟨hkind, r, b, h.1.trans hr, hb⟩

theorem awaited (h : w.Noted w') (hu : u.Proper) (ha : Awaited a w u) : Awaited a w' u := by
  obtain ⟨n, hn, hcovers⟩ := ha
  exact (h.covers hu hcovers).elim (fun hc ↦ ⟨n, h.mem_pending hn, hc⟩) id

theorem wanted?_eq_or (h : w.Noted w') (hu : u.Proper) :
    Awaited a w' u ∨ u.wanted? w'.store = u.wanted? w.store := by
  refine (h.awaited_or hu).imp_right ?_
  intro hget
  cases u with
  | secret k => simp only [Subject.wanted?, hget]
  | binding k =>
    obtain ⟨hr, hs⟩ := hget
    simp only [Subject.wanted?, hr]
    cases hfound : w.store.get? .tlsBinding k.key with
    | none => rfl
    | some r =>
      cases hb : r.tlsBinding with
      | error e => simp [hb, Except.toOption]
      | ok b => simp [hb, Except.toOption, hs r b hfound hb]

theorem silent_or (h : w.Noted w') (hu : u.Proper) :
    Awaited a w' u ∨ (Silent w.store u → Silent w'.store u) := by
  refine (h.awaited_or hu).imp_right ?_
  intro hget
  cases u with
  | secret k => exact id
  | binding k => exact fun ⟨r, b, hr, hb⟩ ↦ ⟨r, b, hget.1.trans hr, hb⟩

end Noted

namespace Change

theorem awaited_or (h : w.Change w') (hw : w.Proper) (hu : u.Proper) :
    Awaited a w' u ∨
      (match u with
      | .secret k => w'.store.get? .secret k.key = w.store.get? .secret k.key
      | .binding k => w'.store.get? .tlsBinding k.key = w.store.get? .tlsBinding k.key ∧
        ∀ r b, w.store.get? .tlsBinding k.key = some r → r.tlsBinding = .ok b →
          w'.store.get? .secret ⟨k.owner, b.secretRef⟩ =
            w.store.get? .secret ⟨k.owner, b.secretRef⟩) :=
  (h.noted hw).awaited_or hu

theorem covers (h : w.Change w') (hw : w.Proper) (hu : u.Proper) {n : Notice}
    (hn : Covers w.store n u) : Covers w'.store n u ∨ Awaited a w' u :=
  (h.noted hw).covers hu hn

theorem awaited (h : w.Change w') (hw : w.Proper) (hu : u.Proper) (ha : Awaited a w u) :
    Awaited a w' u :=
  (h.noted hw).awaited hu ha

theorem settled (h : w.Change w') (hw : w.Proper) (hu : u.Proper) (hs : Settled a w u) :
    Settled a w' u := by
  rcases hs with hs | hs
  · exact ((h.noted hw).wanted?_eq_or hu).symm.imp_left fun heq ↦ hs.trans heq.symm
  · exact .inr (h.awaited hw hu hs)

end Change

end World

end Indexing

end StageRelay
