import StageRelay.Proofs.Agent.Triple
import StageRelay.Proofs.Indexing.Refreshed
import StageRelay.Proofs.Work.Alone

/-!
# Handlers among services that do not change

As long as the objects stay as they are and can be read, it is settled by a notice alone which
subjects its handler brings up to date before it succeeds or fails. What the handler finds in the
directory only decides whether the stage has to wait; where everything is up to date, nothing changes.
-/

namespace StageRelay

/-- Services that keep the resources `st` and read those that concern certificates. -/
structure Services.Serves (s : Services) (st : Store) : Prop where
  store : s.registry.store = st
  secrets : ¬ Faults.covers s.faults.get .secret
  bindings : ¬ Faults.covers s.faults.get .tlsBinding
  lists : ¬ Faults.covers s.faults.list .tlsBinding

namespace Indexing

open Agent (Attempt Leads Triple)

/-! ## What a part of a handler does -/

/-- From `a₀` and `s₀` to `a` and `s` some subjects were brought up to date, and if they were before,
nothing happened. -/
structure Effect (st : Store) (stage : Stage) (us : List Subject) (a₀ : AgentState)
    (s₀ : Services) (a : AgentState) (s : Services) : Prop where
  refreshed : Refreshed st [] us a₀.directory a.directory
  asked : a.directory.touch stage = a.directory
  retries : a.retries = a₀.retries
  serves : s.Serves st
  idle : (∀ u ∈ us, a₀.directory.lookup? u.place = u.wanted? st) →
    a.directory = a₀.directory ∧ s.debouncer = s₀.debouncer

/-- Once the index of its stage was asked for, a part of a handler brings the subjects `us` up to
date, and then succeeds or fails as `ok` says. -/
def Steady (st : Store) (stage : Stage) (us : List Subject) (ok : Bool) {α : Type}
    (w : Attempt α) : Prop :=
  ∀ a₀ s₀, a₀.directory.touch stage = a₀.directory → s₀.Serves st →
    Triple Services.alone (fun a s ↦ a = a₀ ∧ s = s₀) w
      (fun _ a s ↦ ok = true ∧ Effect st stage us a₀ s₀ a s)
      (fun a s ↦ ok = false ∧ Effect st stage us a₀ s₀ a s)

/-- What a part of a handler does is settled beforehand. -/
def Settles (st : Store) (stage : Stage) {α : Type} (w : Attempt α) : Prop :=
  ∃ us ok, (∀ u ∈ us, u.Unmarked) ∧ Steady st stage us ok w

variable {α β : Type} {st : Store} {stage : Stage} {us us' : List Subject} {ok : Bool}
  {a₀ a a' : AgentState} {s₀ s s' : Services} {u : Subject} {key : ResourceKey}

namespace Effect

theorem none (hasked : a₀.directory.touch stage = a₀.directory) (hs : s₀.Serves st)
    (h : a = a₀ ∧ s = s₀) : Effect st stage [] a₀ s₀ a s := by
  obtain ⟨rfl, rfl⟩ := h
  exact ⟨.refl st a.directory, hasked, rfl, hs, fun _ ↦ ⟨rfl, rfl⟩⟩

theorem trans (h : Effect st stage us a₀ s₀ a s) (h' : Effect st stage us' a s a' s')
    (hus : ∀ u ∈ us, u.Unmarked) (hus' : ∀ u ∈ us', u.Unmarked) :
    Effect st stage (us ++ us') a₀ s₀ a' s' where
  refreshed := h.refreshed.trans h'.refreshed hus hus'
  asked := h'.asked
  retries := h'.retries.trans h.retries
  serves := h'.serves
  idle hup := by
    obtain ⟨hd, hs⟩ := h.idle fun u hu ↦ hup u (List.mem_append_left us' hu)
    obtain ⟨hd', hs'⟩ := h'.idle fun u hu ↦ hd ▸ hup u (List.mem_append_right us hu)
    exact ⟨hd'.trans hd, hs'.trans hs⟩

end Effect

/-! ## Parts in sequence -/

namespace Settles

variable {f : α → Attempt β}

theorem pure {x : α} : Settles st stage (pure x : Attempt α) :=
  ⟨[], true, by simp, fun _ _ hasked hs ↦ .pure fun _ _ h ↦ ⟨rfl, .none hasked hs h⟩⟩

theorem bind {w : Attempt Unit} {f : Unit → Attempt β} (hw : Settles st stage w)
    (hf : Settles st stage (f ())) : Settles st stage (w >>= f) := by
  obtain ⟨us, ok, hus, hw⟩ := hw
  cases ok with
  | false =>
    refine ⟨us, false, hus, fun a₀ s₀ hasked hs ↦ ?_⟩
    refine .bind (Q := fun _ _ _ ↦ False) ((hw a₀ s₀ hasked hs).post fun _ _ _ h ↦ ?_) fun _ ↦
      fun _ _ h ↦ h.elim
    cases h.1
  | true =>
    obtain ⟨us', ok', hus', hf⟩ := hf
    refine ⟨us ++ us', ok', fun u hu ↦ (List.mem_append.1 hu).elim (hus u) (hus' u),
      fun a₀ s₀ hasked hs ↦ ?_⟩
    refine .bind ((hw a₀ s₀ hasked hs).post_error ?_) fun _ a s h ↦ ?_
    · rintro a s ⟨h, -⟩
      cases h
    · refine (hf a s h.2.asked h.2.serves).mono (P := fun a' s' ↦ a' = a ∧ s' = s)
        (Q := fun _ a' s' ↦ ok' = true ∧ Effect st stage (us ++ us') a₀ s₀ a' s')
        (E := fun a' s' ↦ ok' = false ∧ Effect st stage (us ++ us') a₀ s₀ a' s')
        (fun _ _ ↦ id) ?_ ?_ a s ⟨rfl, rfl⟩
      · exact fun _ _ _ h' ↦ ⟨h'.1, h.2.trans h'.2 hus hus'⟩
      · exact fun _ _ h' ↦ ⟨h'.1, h.2.trans h'.2 hus hus'⟩

/-- Asking for the index again changes nothing. -/
theorem touch {f : Unit → Attempt β} (hf : Settles st stage (f ())) :
    Settles st stage (Agent.touch stage >>= f) := by
  obtain ⟨us, ok, hus, hf⟩ := hf
  refine ⟨us, ok, hus, fun a₀ s₀ hasked hs ↦ .bind (.modify ?_) fun _ ↦ hf a₀ s₀ hasked hs⟩
  rintro a s ⟨rfl, rfl⟩
  exact ⟨by rw [hasked], rfl⟩

/-- A look at an object tells what is stored. -/
theorem find? {kind : Kind} {f : Option Resource → Attempt β}
    (hkind : kind = .secret ∨ kind = .tlsBinding)
    (hf : Settles st stage (f (st.get? kind key))) :
    Settles st stage (Agent.find? kind key >>= f) := by
  obtain ⟨us, ok, hus, hf⟩ := hf
  refine ⟨us, ok, hus, fun a₀ s₀ hasked hs ↦ ?_⟩
  have hread : ¬ Faults.covers s₀.faults.get kind := by
    rcases hkind with rfl | rfl
    · exact hs.secrets
    · exact hs.bindings
  refine .bind (Q := fun r? a s ↦ r? = st.get? kind key ∧ a = a₀ ∧ s = s₀) ?_ fun r? ↦
    .of_and fun hr ↦ hr ▸ hf a₀ s₀ hasked hs
  refine .bind (Q := fun b a s ↦ b = s₀.registry.get kind key ∧ a = a₀ ∧ s = s₀) (.attempt ?_)
    fun b ↦ .of_and fun hb ↦ ?_
  · rintro a s ⟨rfl, rfl⟩
    exact ⟨if_neg hread, rfl, rfl⟩
  · subst hb
    rw [Registry.get, hs.store]
    cases st.get? kind key <;> exact .pure fun _ _ h ↦ ⟨rfl, h⟩

/-- A list of bindings tells which are stored. -/
theorem list {f : Except RegistryError (List Resource) → Attempt β}
    (hf : Settles st stage (f (.ok (st.list .tlsBinding stage)))) :
    Settles st stage (Agent.attempt (.list .tlsBinding stage) >>= f) := by
  obtain ⟨us, ok, hus, hf⟩ := hf
  refine ⟨us, ok, hus, fun a₀ s₀ hasked hs ↦ ?_⟩
  refine .bind (Q := fun b a s ↦ b = .ok (st.list .tlsBinding stage) ∧ a = a₀ ∧ s = s₀)
    (.attempt ?_) fun b ↦ .of_and fun hb ↦ hb ▸ hf a₀ s₀ hasked hs
  rintro a s ⟨rfl, rfl⟩
  exact ⟨(if_neg hs.lists).trans (by rw [hs.store]), rfl, rfl⟩

theorem orThrow {ε : Type} {wrap : ε → AgentError} {r : Except ε α}
    (hf : ∀ x, r = .ok x → Settles st stage (f x)) :
    Settles st stage (Agent.orThrow wrap r >>= f) := by
  cases r with
  | ok x => exact hf x rfl
  | error e =>
    exact ⟨[], false, by simp, fun _ _ hasked hs ↦ .throw fun _ _ h ↦ ⟨rfl, .none hasked hs h⟩⟩

theorem forM {f : β → Attempt PUnit} {bs : List β} (hf : ∀ b ∈ bs, Settles st stage (f b)) :
    Settles st stage (bs.forM f) := by
  induction bs with
  | nil => exact pure
  | cons b bs ih =>
    obtain ⟨hb, hbs⟩ := List.forall_mem_cons.1 hf
    exact hb.bind (ih hbs)

end Settles

/-! ## Writes -/

section Writes

/-- The index of a stage is replaced. -/
def replaced (a : AgentState) (stage : Stage) (x : CertificateIndex) : AgentState :=
  { a with directory := a.directory.set stage x }

theorem withdraw_steady {E : AgentState → Services → Prop} :
    Triple Services.alone (fun a s ↦ a = a₀ ∧ s = s₀) (Agent.withdraw stage key)
      (fun changed a s ↦ changed = ((a₀.directory.get stage).erase key).1 ∧
        a = replaced a₀ stage ((a₀.directory.get stage).erase key).2 ∧ s = s₀) E := by
  rintro a s ⟨rfl, rfl⟩
  exact ⟨rfl, rfl, rfl⟩

theorem store_steady {c : Certificate} :
    Triple Services.alone (fun a s ↦ a = a₀ ∧ s = s₀) (Agent.store stage key c)
      (fun changed a s ↦ .ok changed = ((a₀.directory.get stage).insert key c).1 ∧
        a = replaced a₀ stage ((a₀.directory.get stage).insert key c).2 ∧ s = s₀)
      (fun a s ↦ (∃ e, .error e = ((a₀.directory.get stage).insert key c).1) ∧
        a = replaced a₀ stage ((a₀.directory.get stage).insert key c).2 ∧ s = s₀) := by
  refine .bind (Q := fun b a s ↦ b = a₀ ∧ a = a₀ ∧ s = s₀) (.get ?_) fun b ↦ .of_and ?_
  · rintro a s ⟨rfl, rfl⟩
    exact ⟨rfl, rfl, rfl⟩
  · rintro rfl
    cases hx : (b.directory.get stage).insert key c with
    | mk changed x =>
      refine .bind (Q := fun _ a s ↦ a = replaced b stage x ∧ s = s₀) (.set ?_) fun _ ↦
        .orThrow ?_ ?_
      · rintro a s ⟨rfl, rfl⟩
        exact ⟨rfl, rfl⟩
      · rintro changed rfl a s h
        exact ⟨rfl, h⟩
      · rintro e rfl a s h
        exact ⟨⟨e, rfl⟩, h⟩

variable (howner : u.place.owner.same stage)
include howner

/-- A subject of the stage is brought up to date, and the stage waits if that changed something. -/
theorem postponeIf_steady (hasked : a₀.directory.touch stage = a₀.directory)
    (hs : s₀.Serves st) {changed : Bool} {x : CertificateIndex} {E : AgentState → Services → Prop}
    (hx : ∀ k, x.tracked.find? k =
      if k = u.place then u.wanted? st else (a₀.directory.get stage).tracked.find? k)
    (hc : (a₀.directory.get stage).Coherent → x.Coherent)
    (hidle : (a₀.directory.get stage).tracked.find? u.place = u.wanted? st →
      (changed, x) = (false, a₀.directory.get stage)) :
    Triple Services.alone (fun a s ↦ a = replaced a₀ stage x ∧ s = s₀)
      (Agent.postponeIf changed stage)
      (fun _ a s ↦ true = true ∧ Effect st stage [u] a₀ s₀ a s) E := by
  have effect (s : Services) (hserves : s.Serves st)
      (hsame : changed = false → s.debouncer = s₀.debouncer) :
      Effect st stage [u] a₀ s₀ (replaced a₀ stage x) s := by
    refine ⟨.set howner hasked hx hc, IndexDirectory.touch_set, rfl, hserves, fun hup ↦ ?_⟩
    have hup := hup u (List.mem_singleton.2 rfl)
    rw [← a₀.directory.find?_tracked_get howner] at hup
    obtain ⟨hchanged, rfl⟩ := Prod.mk.inj (hidle hup)
    exact ⟨hasked, hsame hchanged⟩
  cases changed with
  | true =>
    refine .attempt ?_
    rintro a s ⟨rfl, rfl⟩
    exact ⟨rfl, effect _ ⟨hs.store, hs.secrets, hs.bindings, hs.lists⟩ nofun⟩
  | false =>
    refine .pure ?_
    rintro a s ⟨rfl, rfl⟩
    exact ⟨rfl, effect s hs fun _ ↦ rfl⟩

variable (hu : u.Unmarked) (hkey : key.identity = u.place)
include hu hkey

theorem Settles.withdraw (hw : u.wanted? st = none) : Settles st stage
    (do let changed ← Agent.withdraw stage key; Agent.postponeIf changed stage) := by
  refine ⟨[u], true, by simpa using hu, fun a₀ s₀ hasked hs ↦ ?_⟩
  refine .bind withdraw_steady fun changed ↦ .of_and ?_
  rintro rfl
  refine postponeIf_steady howner hasked hs ?_ (fun h ↦ h.untrack key.identity) ?_
  · intro k
    rw [CertificateIndex.find?_tracked_erase, hkey, hw]
  · intro hup
    exact CertificateIndex.erase_idle (by rw [hkey, hup, hw])

/-- Whether a certificate can be stored does not depend on the index. -/
theorem Settles.store {c : Certificate} (hw : u.wanted? st = c.tracked?) : Settles st stage
    (do let changed ← Agent.store stage key c; Agent.postponeIf changed stage) := by
  by_cases hfails : ∃ e, c.isKeyEncrypted = false ∧ c.sniSet = .error e
  · obtain ⟨e, he⟩ := hfails
    refine ⟨[], false, by simp, fun a₀ s₀ hasked hs ↦ ?_⟩
    have herror : ((a₀.directory.get stage).insert key c).1 = .error e :=
      CertificateIndex.insert_eq_error_iff.2 he
    refine .bind (store_steady.mono (fun _ _ ↦ id) (Q := fun _ _ _ ↦ False) ?_ ?_) fun _ _ _ ↦
      False.elim
    · rintro changed a s ⟨hok, -⟩
      cases hok.trans herror
    · rintro a s ⟨-, ha, h⟩
      refine ⟨rfl, .none hasked hs ⟨?_, h⟩⟩
      rw [ha, replaced, CertificateIndex.insert_of_error herror]
      exact congrArg (fun d ↦ { a₀ with directory := d }) hasked
  · refine ⟨[u], true, by simpa using hu, fun a₀ s₀ hasked hs ↦ ?_⟩
    refine .bind (store_steady.post_error ?_) fun changed ↦ .of_and ?_
    · rintro a s ⟨⟨e, he⟩, -⟩
      exact absurd ⟨e, CertificateIndex.insert_eq_error_iff.1 he.symm⟩ hfails
    · intro hok
      refine postponeIf_steady howner hasked hs ?_ (fun h ↦ h.insert key c) ?_
      · intro k
        rw [CertificateIndex.find?_tracked_insert hok.symm, hkey, hw]
      · intro hup
        have hidle := CertificateIndex.insert_idle (by rw [hkey, hup, hw]) hok.symm
        rw [hidle] at hok ⊢
        cases hok
        rfl

end Writes

/-! ## Handlers -/

/-- Where a part is the beginning of a longer one. -/
theorem Settles.before {w : Attempt α} {f : α → Attempt Unit} {rest : Unit → Attempt β}
    (h : Settles st stage (w >>= f)) (hrest : Settles st stage (rest ())) :
    Settles st stage (w >>= fun x ↦ f x >>= rest) := by
  rw [← bind_assoc]
  exact h.bind hrest

theorem settles_indexBinding (hstage : key.stage.same stage) :
    Settles st stage (Agent.indexBinding stage key) := by
  have hu : (Subject.binding key.identity).Unmarked := nofun
  have hplace : key.ofBinding.identity = (Subject.binding key.identity).place := rfl
  have howner : (Subject.binding key.identity).place.owner.same stage :=
    hplace ▸ Stage.same_trans key.ofBinding.owner_identity_same hstage
  have hsecret (name : String) :
      st.get? .secret ⟨stage, name⟩ = st.get? .secret ⟨key.identity.owner, name⟩ :=
    Store.get?_of_same (Stage.same_comm.1 hstage) .secret name
  unfold Agent.indexBinding
  refine .touch (.find? (.inr rfl) ?_)
  cases hr : st.get? .tlsBinding key with
  | none => exact .withdraw howner hu hplace (by simp [Subject.wanted?, hr])
  | some r =>
    refine .orThrow fun b hb ↦ ?_
    split
    · exact .pure
    refine .find? (.inl rfl) ?_
    rw [hsecret]
    cases hs : st.get? .secret ⟨key.identity.owner, b.secretRef⟩ with
    | none =>
      exact .withdraw howner hu hplace (by simp [Subject.wanted?, hr, hb, hs, Except.toOption])
    | some secret =>
      refine .orThrow fun data hdata ↦ .store howner hu hplace ?_
      simp [Subject.wanted?, hr, hb, hs, hdata, Except.toOption]

theorem settles_indexBindingsOf (secret : String) :
    Settles st stage (Agent.indexBindingsOf stage secret) := by
  refine .list (.orThrow fun rs hrs ↦ .forM fun r hr ↦ settles_indexBinding ?_)
  obtain rfl := Except.ok.inj hrs
  exact (Store.mem_list.1 (List.mem_filter.1 hr).1).2.2

theorem settles_indexSecret (hstage : key.stage.same stage) (hm : ¬ ResourceKey.Marked key.name) :
    Settles st stage (Agent.indexSecret stage key) := by
  have hu : (Subject.secret key.identity).Unmarked := by
    rintro k ⟨rfl⟩
    exact hm
  have hplace : key.identity = (Subject.secret key.identity).place := rfl
  have howner : (Subject.secret key.identity).place.owner.same stage :=
    Stage.same_trans key.owner_identity_same hstage
  have hrest : Settles st stage (Agent.indexBindingsOf stage key.name) :=
    settles_indexBindingsOf key.name
  unfold Agent.indexSecret
  refine .touch (.find? (.inl rfl) ?_)
  cases hr : st.get? .secret key with
  | none =>
    exact .before (.withdraw howner hu hplace (by simp [Subject.wanted?, hr])) hrest
  | some r =>
    refine .orThrow fun data hdata ↦ .before (.store howner hu hplace ?_) hrest
    simp [Subject.wanted?, hr, hdata, Except.toOption]

end Indexing

end StageRelay
