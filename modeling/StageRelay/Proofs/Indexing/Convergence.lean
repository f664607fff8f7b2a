import StageRelay.Proofs.Except
import StageRelay.Proofs.Indexing.Handlers
import StageRelay.Proofs.Interleaving.Undisturbed

/-!
# Convergence of the certificate indices

In every run, what is out of date is covered by a notice that waits on the watch, waits to come back,
or is being handled. So once there are no such notices, the indices hold what the stored objects say
and nothing else.
-/

namespace StageRelay

namespace Indexing

/-! ## What is served -/

/-- What an index tracks for a certificate that it serves. -/
structure Serves (c : Certificate) (t : Tracked) : Prop where
  certificate : t.certificate = c
  unencrypted : c.isKeyEncrypted = false
  names : c.sniSet = .ok t.snis
  named : t.snis ≠ []

/-- What the stored objects say is to be served: the certificate of every secret, and that of the
secret of every binding for the names of the binding. -/
inductive Served (st : Store) : Identity → Tracked → Prop
  | secret {r : Resource} {data : SecretData} {t : Tracked} (hr : r ∈ st.resources)
    (hk : r.kind = .secret) (hd : r.secretData = .ok data)
    (ht : Serves (Certificate.ofSecret data) t) : Served st r.key.identity t
  | binding {r secret : Resource} {b : TlsBinding} {data : SecretData} {t : Tracked}
    (hr : r ∈ st.resources) (hk : r.kind = .tlsBinding) (hb : r.tlsBinding = .ok b)
    (hs : secret ∈ st.resources) (hsk : secret.kind = .secret)
    (hstage : secret.stage.same r.stage) (hname : secret.name = b.secretRef)
    (hd : secret.secretData = .ok data)
    (ht : Serves ((Certificate.ofSecret data).pin b.snis) t) :
    Served st r.key.ofBinding.identity t

theorem serves_iff {c : Certificate} {t : Tracked} : Serves c t ↔ c.tracked? = some t := by
  rw [Certificate.tracked?_eq_some_iff]
  exact ⟨fun h ↦ ⟨h.1, h.2, h.3, h.4⟩, fun h ↦ ⟨h.1, h.2.1, h.2.2.1, h.2.2.2⟩⟩

theorem wanted?_secret {st : Store} {k : Identity} {t : Tracked} :
    (Subject.secret k).wanted? st = some t ↔
      ∃ r data, st.get? .secret k.key = some r ∧ r.secretData = .ok data ∧
        Serves (Certificate.ofSecret data) t := by
  simp [Subject.wanted?, Option.bind_eq_some_iff, Except.toOption_eq_some_iff, serves_iff]

theorem wanted?_binding {st : Store} {k : Identity} {t : Tracked} :
    (Subject.binding k).wanted? st = some t ↔
      ∃ r b secret data, st.get? .tlsBinding k.key = some r ∧ r.tlsBinding = .ok b ∧
        st.get? .secret ⟨k.owner, b.secretRef⟩ = some secret ∧ secret.secretData = .ok data ∧
        Serves ((Certificate.ofSecret data).pin b.snis) t := by
  simp [Subject.wanted?, Option.bind_eq_some_iff, Except.toOption_eq_some_iff, serves_iff]

theorem identity_of_same {r : Resource} {k : Identity} (hs : r.stage.same k.owner)
    (hn : r.name = k.name) : r.key.identity = k := by
  obtain ⟨hgateway, hstage⟩ := Stage.same_iff.1 hs
  obtain ⟨gateway, stage, name⟩ := k
  exact Identity.mk.injEq .. ▸ ⟨hgateway, hstage, hn⟩

/-- What is served is what is wanted for some subject. -/
theorem served_iff {w : World} (hw : w.Proper) {k : Identity} {t : Tracked} :
    Served w.store k t ↔
      ∃ u : Subject, u.Proper ∧ u.place = k ∧ u.wanted? w.store = some t := by
  constructor
  · rintro (⟨hr, hk, hd, ht⟩ | @⟨r, secret, b, data, t, hr, hk, hb, hs, hsk, hstage, hname, hd, ht⟩)
    · have hget := hw.keyed.get?_of_mem hr
      rw [hk] at hget
      exact ⟨_, Subject.proper_secret (hw.keyed.plain_of_mem hr) ((hw.resources _ hr).unmarked hk),
        rfl, wanted?_secret.2 ⟨_, _, hget, hd, ht⟩⟩
    · have hget := hw.keyed.get?_of_mem hr
      have hsecret := hw.keyed.get?_of_mem hs
      have hplace : StoreKey.of .secret secret.key =
          .of .secret ⟨r.key.identity.owner, b.secretRef⟩ := by
        rw [StoreKey.of, StoreKey.of, ← hname]
        exact congrArg (StoreKey.mk _ · _) (Stage.key_of_same hstage)
      rw [hk] at hget
      rw [hsk, Store.get?, hplace] at hsecret
      exact ⟨_, Subject.proper_binding (hw.keyed.plain_of_mem hr), rfl,
        wanted?_binding.2 ⟨r, b, secret, data, hget, hb, hsecret, hd, ht⟩⟩
  · rintro ⟨u, hu, rfl, hwanted⟩
    cases u with
    | secret k =>
      obtain ⟨r, data, hr, hd, ht⟩ := wanted?_secret.1 hwanted
      obtain ⟨hmem, hkind, hsame, hname⟩ := hw.keyed.mem_of_get? hu.plain hr
      have hserved := Served.secret hmem hkind hd ht
      rwa [identity_of_same hsame hname] at hserved
    | binding k =>
      obtain ⟨r, b, secret, data, hr, hb, hs, hd, ht⟩ := wanted?_binding.1 hwanted
      obtain ⟨hmem, hkind, hsame, hname⟩ := hw.keyed.mem_of_get? hu.plain hr
      have hplain : (⟨k.owner, b.secretRef⟩ : ResourceKey).stage.Plain := hu.plain
      obtain ⟨hsmem, hskind, hssame, hsname⟩ := hw.keyed.mem_of_get? hplain hs
      have hserved := Served.binding hmem hkind hb hsmem hskind
        (Stage.same_trans hssame (Stage.same_comm.1 hsame)) hsname hd ht
      have hplace : r.key.ofBinding.identity = (Subject.binding r.key.identity).place := rfl
      rwa [hplace, identity_of_same hsame hname] at hserved

/-! ## Steps -/

/-- Resources come and go as they may, and no notice is lost by the agent. -/
def rules : Rules where
  puts := Admissible
  removes _ key := key.stage.Plain
  answers c := c.keepsNotice

/-- Rules under which every change has a proper notice, and the agent loses none. -/
structure Noting (rules : Rules) : Prop where
  puts : ∀ {r : Resource}, rules.puts r → ProperNotice r.notice
  removes : ∀ {kind : Kind} {key : ResourceKey}, rules.removes kind key → key.stage.Plain
  answers : ∀ {β : Type} {c : Call β}, rules.answers c → c.keepsNotice

theorem noting_rules : Noting rules := ⟨Admissible.proper, id, id⟩

section World

variable {ρ : Rules} {i : Nat} {s : Services}

/-- Calls leave the objects and the notices of an open watch alone. -/
theorem world_answer {β : Type} (c : Call β) (hi : i < s.registry.watches.length) :
    (s.answer c).2.world i = s.world i ∧ i < (s.answer c).2.registry.watches.length := by
  cases c with
  | watch =>
    simp only [Services.answer, Services.watch]
    split
    · exact ⟨rfl, hi⟩
    · refine ⟨congrArg _ (Registry.buffer_watch hi), ?_⟩
      simpa [Registry.watch, Watches.openOne] using Nat.lt_succ_of_lt hi
  | sync gateway stage config =>
    simp only [Services.answer]
    split <;> exact ⟨rfl, hi⟩
  | flush =>
    simp only [Services.answer, Services.flush]
    split <;> exact ⟨rfl, hi⟩
  | prune existing =>
    simp only [Services.answer, Services.prune]
    split <;> exact ⟨rfl, hi⟩
  | _ => exact ⟨rfl, hi⟩

theorem world_run {α : Type} (j : Job α) (hi : i < s.registry.watches.length) :
    (j.run Services.host s).2.world i = s.world i ∧
      i < (j.run Services.host s).2.registry.watches.length := by
  induction j generalizing s with
  | done a => exact ⟨rfl, hi⟩
  | call c next ih =>
    obtain ⟨hworld, hlt⟩ := world_answer c hi
    rw [Job.run_call, ← hworld]
    exact ih _ hlt

/-- A change of the registry is one of the world, unless it is the removal of nothing. -/
theorem world_change (hρ : Noting ρ) {r : Registry} (h : s.registry.Change ρ i r) :
    ⟨r.store, r.buffer i⟩ = s.world i ∨ World.Change (s.world i) ⟨r.store, r.buffer i⟩ := by
  cases h with
  | put hp hr =>
    rw [Registry.put, Registry.buffer_notify hr]
    exact .inr (.put (hρ.puts hp))
  | @remove kind key hp hr =>
    rw [Registry.remove]
    split
    · exact .inl rfl
    · next old hget =>
      rw [Registry.buffer_notify hr]
      exact .inr (.remove (hρ.removes hp) hget)

theorem watched_change {r : Registry} (h : s.registry.Change ρ i r)
    (hi : i < s.registry.watches.length) : i < r.watches.length := by
  cases h with
  | put hp hr => simpa [Registry.put, Watches.notify] using hi
  | remove hp hr =>
    rw [Registry.remove]
    split
    · exact hi
    · simpa [Watches.notify] using hi

end World

/-! ## Systems -/

/-- Whether the agent is at work without a notice in hand. -/
def HandlesNone : Activity → Prop
  | .working n? _ => n? = none
  | .crashed => False
  | _ => True

/-- What holds of the agent, whatever it is doing, if `A` holds while it handles nothing. -/
structure Sound (A : AgentState → World → Prop) (i : Nat) (a : AgentState) (w : World)
    (activity : Activity) : Prop where
  holds : HandlesNone activity → A a w
  leads : ∀ n? job, activity = .working n? job → job.wp (calls i) (fun r w ↦ Done A r.1 r.2 w) w

/-- The invariant of all runs. -/
structure Invariant (A : AgentState → World → Prop) (x : System) : Prop where
  watched : x.watch < x.services.registry.watches.length
  sound : Sound A x.watch x.agent (x.services.world x.watch) x.activity

theorem Sound.change {A : AgentState → World → Prop} {i : Nat} {a : AgentState} {w w' : World}
    {activity : Activity} (hA : Stable A) (h : Sound A i a w activity) (hc : w.Change w') :
    Sound A i a w' activity := by
  refine ⟨fun ha ↦ hA a w w' (h.holds ha) hc, ?_⟩
  intro n? job ha
  have hleads := h.leads n? job ha
  cases job with
  | done r =>
    intro hr
    exact hA r.2 w w' (hleads hr) hc
  | call c next =>
    intro s hs
    exact hleads s (hs.head hc)

/-- At a tick the agent looks at no certificate. -/
theorem tick_spec {A : AgentState → World → Prop} {i : Nat} (hA : Stable A) :
    Agent.Leads (calls i) A Agent.tick fun _ ↦ A := by
  unfold Agent.tick
  refine .bind (ask_same hA fun _ ↦ rfl) ?_
  intro due
  split
  · refine .bind (ask_same hA fun _ ↦ rfl) ?_
    intro stages
    cases stages with
    | ok stages => exact .pure fun _ _ ↦ id
    | error e =>
      refine .bind (ask_same hA fun _ ↦ rfl) fun _ ↦ ?_
      exact .pure fun _ _ ↦ id
  · exact .pure fun _ _ ↦ id

namespace Invariant

variable {ρ : Rules} {A B : AgentState → World → Prop} {x y : System}

theorem holds (h : Invariant A x) (ha : HandlesNone x.activity) :
    A x.agent (x.services.world x.watch) :=
  h.sound.holds ha

/-- The agent goes on with what leads to the end. -/
theorem resume {n? : Option Notice} {job : Job (Agent.Handled × AgentState)}
    (hi : x.watch < x.services.registry.watches.length)
    (hnone : n? = none → A x.agent (x.services.world x.watch))
    (h : job.wp (calls x.watch) (fun r w ↦ Done A r.1 r.2 w) (x.services.world x.watch)) :
    Invariant A (x.resume n? job) := by
  rcases job with ⟨batch | -, a⟩ | ⟨c, next⟩
  · exact ⟨hi, fun _ ↦ h nofun, nofun⟩
  · exact ⟨hi, nofun, nofun⟩
  · refine ⟨hi, hnone, ?_⟩
    rintro n? job ⟨⟩
    exact h

theorem handle {n : Notice}
    (hn : Agent.Leads (calls x.watch) B (Agent.handle x.maxRetries n) (Done A))
    (hi : x.watch < x.services.registry.watches.length)
    (h : B x.agent (x.services.world x.watch)) : Invariant A (x.handle n) :=
  resume hi nofun (hn _ _ h)

theorem tick (hA : Stable A) (hi : x.watch < x.services.registry.watches.length)
    (h : A x.agent (x.services.world x.watch)) : Invariant A x.tick := by
  refine resume hi (fun _ ↦ h) ?_
  rw [Job.wp_bind]
  refine Job.wp_mono ?_ (tick_spec hA _ _ h)
  exact fun ⟨_, _⟩ _ hr _ ↦ hr

/-- A step keeps what goes on to hold whatever others do, if handling the notice that is taken up
does. -/
theorem step (hρ : Noting ρ) (hA : Stable A)
    (hhear : ∀ n rest, x.activity = .idle → x.services.registry.receive x.watch = .notice n rest →
      Invariant A ((x.withRegistry (x.services.registry.setWatch x.watch rest)).handle n))
    (hretry : ∀ n retries, x.activity = .idle →
      x.agent.retries.Yields x.services.now n retries →
      Invariant A ({ x with agent := { x.agent with retries } }.handle n))
    (h : Invariant A x) (hstep : x.Step ρ y) : Invariant A y := by
  cases hstep with
  | change hc =>
    refine ⟨watched_change hc h.watched, ?_⟩
    rcases world_change hρ hc with hw | hw
    · exact (congrArg (Sound A x.watch x.agent · x.activity) hw).mpr h.sound
    · exact h.sound.change hA hw
  | pass now faults strictNames crashing hnow => exact ⟨h.watched, h.sound⟩
  | hear hi hn => exact hhear _ _ hi hn
  | retry hi hn => exact hretry _ _ hi hn
  | tick hi => exact tick hA h.watched (h.holds (hi ▸ trivial))
  | work ha hc =>
    obtain ⟨hworld, hlt⟩ := world_answer _ h.watched
    refine resume hlt ?_ (h.sound.leads _ _ ha _ .refl (hρ.answers hc))
    intro hnone
    exact hworld ▸ h.holds (ha ▸ hnone)
  | send ha hb hsent => exact ⟨h.watched, fun _ ↦ h.holds (ha ▸ trivial), nofun⟩
  | receive hp hs hr => exact ⟨h.watched, h.sound⟩
  | begin hp hs =>
    unfold System.beginSegment
    split <;> exact ⟨h.watched, h.sound⟩
  | commit hp =>
    obtain ⟨hworld, hlt⟩ := world_answer _ h.watched
    exact ⟨hlt, hworld ▸ h.sound⟩
  | crash hp => exact ⟨h.watched, h.sound⟩
  | join hp =>
    obtain ⟨hworld, hlt⟩ := world_run _ h.watched
    exact ⟨hlt, hworld ▸ h.sound⟩
  | finish hp =>
    unfold System.resumeEnding
    split <;> exact ⟨h.watched, h.sound⟩
  | conclude hp =>
    obtain ⟨hworld, hlt⟩ := world_answer _ h.watched
    unfold System.resumeEnding
    split <;> exact ⟨hlt, hworld ▸ h.sound⟩

section Holds

variable {p : Subject → Prop}

/-- A notice that is received covers what waited for it. -/
theorem hear {n : Notice} {rest : Watch} (h : Invariant (Holds p fun _ _ ↦ False) x)
    (hi : x.activity = .idle) (hn : x.services.registry.receive x.watch = .notice n rest) :
    Invariant (Holds p fun _ _ ↦ False)
      ((x.withRegistry (x.services.registry.setWatch x.watch rest)).handle n) := by
  have hbuffer : (x.services.world x.watch).buffer =
      n :: (x.services.registry.setWatch x.watch rest).buffer x.watch := Registry.buffer_receive hn
  have hs := h.holds (hi ▸ trivial)
  have hnotices := hs.world.notices
  rw [hbuffer] at hnotices
  refine handle (handle_spec x.maxRetries (hnotices n List.mem_cons_self)) ?_
    ⟨⟨hs.world.keyed, hs.world.resources, fun m hm ↦ hnotices m (List.mem_cons_of_mem n hm)⟩,
      hs.directory, hs.retries, ?_⟩
  · simpa [System.withRegistry, Registry.setWatch] using h.watched
  · intro u hp hu hsilent
    rcases hs.settled u hp hu hsilent with (hsettled | ⟨m, hm, hc⟩) | hfalse
    · exact .inl (.inl hsettled)
    · rw [pending, hbuffer, List.cons_append, List.mem_cons] at hm
      rcases hm with rfl | hm
      · exact .inr hc
      · exact .inl (.inr ⟨m, hm, hc⟩)
    · exact hfalse.elim

/-- So does a notice that comes back. -/
theorem retry {n : Notice} {retries : RetryQueue} (h : Invariant (Holds p fun _ _ ↦ False) x)
    (hi : x.activity = .idle) (hn : x.agent.retries.Yields x.services.now n retries) :
    Invariant (Holds p fun _ _ ↦ False)
      ({ x with agent := { x.agent with retries } }.handle n) := by
  cases hn with
  | @leave e he hdue =>
    have hs := h.holds (hi ▸ trivial)
    refine handle (handle_spec x.maxRetries (hs.retries e he)) h.watched
      ⟨hs.world, hs.directory, ?_, ?_⟩
    · intro m hm
      exact hs.retries m (List.mem_of_mem_erase hm)
    · intro u hp hu hsilent
      rcases hs.settled u hp hu hsilent with (hsettled | ⟨m, hm, hc⟩) | hfalse
      · exact .inl (.inl hsettled)
      · rw [pending, List.mem_append, List.mem_map] at hm
        rcases hm with hm | ⟨e', he', rfl⟩
        · exact .inl (.inr ⟨m, List.mem_append_left _ hm, hc⟩)
        · by_cases hee : e' = e
          · exact .inr (hee ▸ hc)
          · refine .inl (.inr ⟨_, List.mem_append_right _ (List.mem_map_of_mem ?_), hc⟩)
            exact (List.mem_erase_of_ne hee).2 he'
      · exact hfalse.elim

/-- Whatever happens, what is out of date and not awaited is being handled. -/
theorem run (hρ : Noting ρ) (h : Invariant (Holds p fun _ _ ↦ False) x) (hrun : x.Run ρ y) :
    Invariant (Holds p fun _ _ ↦ False) y := by
  induction hrun with
  | refl => exact h
  | tail _ hstep ih =>
    exact ih.step hρ (Holds.stable lasting_none) (fun _ _ ↦ ih.hear) (fun _ _ ↦ ih.retry) hstep

end Holds

end Invariant

/-! ## Runs -/

/-- A system at the start: nothing is stored, tracked or queued, and the watch is open. -/
structure StartsEmpty (x : System) : Prop where
  store : x.store = {}
  watch : x.services.registry.watches[x.watch]? = some {}
  directory : ∃ perStage, x.agent.directory = .empty perStage
  retries : x.agent.retries.entries = []
  idle : x.activity = .idle

theorem StartsEmpty.invariant {x : System} (h : StartsEmpty x) :
    Invariant (Holds (fun _ ↦ True) fun _ _ ↦ False) x := by
  obtain ⟨perStage, hdirectory⟩ := h.directory
  have hbuffer : x.services.registry.buffer x.watch = [] := by
    rw [Registry.buffer, h.watch]
    rfl
  have hworking (n? : Option Notice) (job : Job (Agent.Handled × AgentState))
      (ha : x.activity = .working n? job) : False := by
    rw [h.idle] at ha
    cases ha
  refine ⟨(List.getElem?_eq_some_iff.1 h.watch).1, fun _ ↦ ?_,
    fun n? job ha ↦ (hworking n? job ha).elim⟩
  have hworld : x.services.world x.watch = ⟨{}, []⟩ := by
    rw [Services.world, hbuffer]
    exact congrArg (World.mk · []) h.store
  rw [hworld]
  refine ⟨⟨.empty, ?_, ?_⟩, ?_, ?_, fun u _ hu _ ↦ .inl (.inl ?_)⟩
  · simp [Store.resources]
  · simp
  · exact hdirectory ▸ IndexDirectory.proper_empty perStage
  · simp [h.retries]
  · rw [hdirectory, IndexDirectory.lookup?_empty]
    cases u <;> rfl

/-- Once nothing waits to be handled, what is indexed is up to date, but for bindings without
names. -/
theorem lookup?_eq_wanted? {ρ : Rules} {x y : System} (hρ : Noting ρ) (hx : StartsEmpty x)
    (hrun : x.Run ρ y) (hnone : HandlesNone y.activity) (hbuffer : y.buffer = [])
    (hretries : y.agent.retries.entries = []) {u : Subject} (hu : u.Proper)
    (hsilent : ¬ Silent y.store u) : y.agent.directory.lookup? u.place = u.wanted? y.store := by
  have hsound := (hx.invariant.run hρ hrun).holds hnone
  rcases hsound.settled u trivial hu hsilent with (hsettled | ⟨n, hn, -⟩) | hfalse
  · exact hsettled
  · simp [pending, Services.world, show y.services.registry.buffer y.watch = [] from hbuffer,
      hretries] at hn
  · exact hfalse.elim

/-- Bindings that are put have names. -/
theorem not_silent {x y : System} (hkeyed : y.store.Keyed) (hx : StartsEmpty x)
    (hrun : x.Run rules y) {u : Subject} (hu : u.Proper) : ¬ Silent y.store u := by
  have hstored : ∀ r ∈ y.store.resources, Admissible r :=
    System.stored_of_run hrun (fun _ ↦ id) (by simp [hx.store, Store.resources])
  cases u with
  | secret k => exact id
  | binding k =>
    rintro ⟨r, b, hr, hb, hsnis⟩
    obtain ⟨hmem, hkind, -, -⟩ := hkeyed.mem_of_get? hu.plain hr
    exact (hstored r hmem).named hkind b hb hsnis

/-- Once nothing waits to be handled, the indices hold exactly what the stored objects say. -/
theorem tracked_iff_served {x y : System} (hx : StartsEmpty x) (hrun : x.Run rules y)
    (hnone : HandlesNone y.activity) (hbuffer : y.buffer = [])
    (hretries : y.agent.retries.entries = []) {s : Stage} (hs : s.Plain) (k : Identity)
    (t : Tracked) :
    (y.agent.directory.get s).tracked.find? k = some t ↔
      y.agent.directory.Together s k.owner ∧ Served y.store k t := by
  have hsound := (hx.invariant.run noting_rules hrun).holds hnone
  have hentry (u : Subject) (hu : u.Proper) :
      y.agent.directory.lookup? u.place = u.wanted? y.store :=
    lookup?_eq_wanted? noting_rules hx hrun hnone hbuffer hretries hu
      (not_silent hsound.world.keyed hx hrun hu)
  rw [hsound.directory.find?_eq_some_iff hs]
  apply and_congr_right
  intro hsk
  have hserved : Served y.store k t ↔
      ∃ u : Subject, u.Proper ∧ u.place = k ∧ u.wanted? y.store = some t :=
    served_iff hsound.world
  rw [hserved]
  constructor
  · rintro ⟨hk, ht⟩
    obtain ⟨u, hu, rfl⟩ := Subject.exists_place k hk
    exact ⟨u, hu, rfl, hentry u hu ▸ ht⟩
  · rintro ⟨u, hu, rfl, ht⟩
    exact ⟨u.place_owner ▸ hu.plain, hentry u hu ▸ ht⟩

/-- After a secret and a binding of it were put and handled, the secret's certificate is served for
the name of the binding. -/
theorem served_after_put :
    let pem := "-----BEGIN CERTIFICATE-----\nMFAwRgIBATADBgEqMAAwHhcNNzAwMTAxMDAwMDAwWhcNNzAwMTAxMDAw" ++
      "MDAwWjAQMQ4wDAYDVQQDDAVhLmNvbTAIMAMGASoDAQAwAwYBKgMBAA==\n-----END CERTIFICATE-----"
    let stage : Stage := { gateway := "gateway", name := "stage" }
    let secret : Resource :=
      { kind := .secret, stage, name := "cert"
        spec := .object [("data", .object [("tls.crt", .string pem)])] }
    let binding : Resource :=
      { kind := .tlsBinding, stage, name := "tls"
        spec := .object [("secretRef", .string "cert"), ("snis", .array [.string "b.com"])] }
    let x : System :=
      { services := { registry := { watches := [{}] } }, maxRetries := 3, segmentSize := 1
        watch := 0, channel := { capacity := 1 }
        agent := { directory := .empty true, retries := { capacity := 1, delay := 1 } } }
    let y := (x.absorb secret).absorb binding
    StartsEmpty x ∧ x.Run rules y ∧ HandlesNone y.activity ∧ y.buffer = [] ∧
      y.agent.retries.entries = [] ∧ stage.Plain ∧
      Served y.store binding.key.ofBinding.identity
        ⟨{ chain := pem, snis := ["b.com"], pinned := true }, ["b.com"]⟩ := by
  intro pem stage secret binding x y
  have hx : StartsEmpty x := ⟨rfl, rfl, ⟨true, rfl⟩, rfl, rfl⟩
  have hs : stage.Plain := by decide
  have heval : System.Absorbs rules x secret ∧ System.Absorbs rules (x.absorb secret) binding ∧
      y.buffer = [] ∧ y.agent.retries.entries = [] ∧
      (y.agent.directory.get stage).tracked.find? binding.key.ofBinding.identity =
        some ⟨{ chain := pem, snis := ["b.com"], pinned := true }, ["b.com"]⟩ := by
    decide +kernel
  obtain ⟨hsecret, hbinding, hbuffer, hretries, htracked⟩ := heval
  have hputs : rules.puts secret ∧ rules.puts binding := by
    refine ⟨⟨hs, fun _ ↦ ?_, nofun⟩, ⟨hs, nofun, fun _ b hb ↦ ?_⟩⟩
    · rintro ⟨b, hb⟩
      have hlist := congrArg String.toList hb
      simp [secret, ResourceKey.bindingMark] at hlist
    · have hdecoded : binding.tlsBinding = .ok ⟨"cert", ["b.com"]⟩ := by decide +kernel
      rw [hdecoded] at hb
      cases hb
      exact List.cons_ne_nil _ _
  have hrun : x.Run rules y :=
    (System.run_absorb hsecret rfl hputs.1).trans (System.run_absorb hbinding rfl hputs.2)
  have hiff := tracked_iff_served hx hrun trivial hbuffer hretries hs
    binding.key.ofBinding.identity ⟨{ chain := pem, snis := ["b.com"], pinned := true }, ["b.com"]⟩
  exact ⟨hx, hrun, trivial, hbuffer, hretries, hs, (hiff.1 htracked).2⟩

end Indexing

end StageRelay
