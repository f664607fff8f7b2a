import StageRelay.Proofs.Agent.Opening
import StageRelay.Proofs.Indexing.Spared

/-!
# What a new watch brings up to date

An agent that opens a watch has a store before it that changed unnoticed, and indices that know
nothing of these changes. Starting afresh it lists the stages and drops the indices of stages that are
gone; it looks at no certificate. From then on it hears of every change. So what was up to date when
the watch was opened stays so, and a notice brings up to date what it covers; but a secret that was
stored or removed unnoticed needs a notice first.
-/

namespace StageRelay

/-! ## Jobs among others -/

/-- What others do while a watch is open: they change the registry, have time pass and other things
fail, and call on the services. -/
inductive Services.Others (rules : Rules) (i : Nat) : Services → Services → Prop
  | change {s : Services} {r : Registry} (h : s.registry.Change rules i r) :
    Others rules i s { s with registry := r }
  | pass {s : Services} (now : Nat) (faults : Faults) (strictNames : Bool) (crashing : List String)
    (h : s.now ≤ now) : Others rules i s { s with now, faults, strictNames, crashing }
  | call {s : Services} {β : Type} (c : Call β) (hi : i < s.registry.watches.length) :
    Others rules i s (s.answer c).2

namespace Job

variable {α : Type} {rules : Rules} {i : Nat} {j : Job α} {a : α} {s s' : Services}

/-- A job runs to its end while others do what they do before each of its calls and after the
last. -/
inductive Among (rules : Rules) (i : Nat) : Job α → Services → α → Services → Prop
  | done {a : α} {s s' : Services} (hs : Relation.ReflTransGen (Services.Others rules i) s s') :
    Among rules i (.done a) s a s'
  | call {β : Type} {c : Call β} {next : β → Job α} {a : α} {s s' s'' : Services}
    (hs : Relation.ReflTransGen (Services.Others rules i) s s')
    (h : Among rules i (next (s'.answer c).1) (s'.answer c).2 a s'') :
    Among rules i (.call c next) s a s''

/-- Others may do nothing. -/
theorem among_run (rules : Rules) (i : Nat) (j : Job α) (s : Services) :
    j.Among rules i s (j.run Services.host s).1 (j.run Services.host s).2 := by
  induction j generalizing s with
  | done a => exact .done .refl
  | call c next ih => exact .call .refl (ih _ _)

theorem Among.exists_reaches (h : j.Among rules i s a s') : ∃ calls, j.Reaches calls (.done a) := by
  induction h with
  | done hs => exact ⟨[], .refl _⟩
  | @call β c next a s s' s'' hs h ih =>
    obtain ⟨calls, hcalls⟩ := ih
    exact ⟨⟨c, (s'.answer c).1, s'.now⟩ :: calls, .call hcalls⟩

end Job

namespace Indexing

variable {ρ : Rules} {i : Nat} {s s' : Services} {p : Subject → Prop}

/-! ## What others change -/

/-- Whatever others do comes with its notices. -/
theorem world_others (hρ : Noting ρ) (h : s.Others ρ i s') (hi : i < s.registry.watches.length) :
    Relation.ReflTransGen World.Change (s.world i) (s'.world i) ∧
      i < s'.registry.watches.length := by
  cases h with
  | change hc =>
    refine ⟨?_, watched_change hc hi⟩
    rcases world_change hρ hc with hw | hw
    · exact (congrArg (Relation.ReflTransGen World.Change (s.world i)) hw).mpr .refl
    · exact .single hw
  | pass => exact ⟨.refl, hi⟩
  | call c =>
    obtain ⟨hworld, hlt⟩ := world_answer c hi
    exact ⟨hworld ▸ .refl, hlt⟩

theorem world_reach (hρ : Noting ρ) (h : Relation.ReflTransGen (Services.Others ρ i) s s')
    (hi : i < s.registry.watches.length) :
    Relation.ReflTransGen World.Change (s.world i) (s'.world i) ∧
      i < s'.registry.watches.length := by
  induction h with
  | refl => exact ⟨.refl, hi⟩
  | tail _ hstep ih =>
    obtain ⟨hworld, hlt⟩ := ih
    exact (world_others hρ hstep hlt).imp_left hworld.trans

theorem world_among {α : Type} {j : Job α} {a : α} (hρ : Noting ρ) (h : j.Among ρ i s a s')
    (hi : i < s.registry.watches.length) :
    Relation.ReflTransGen World.Change (s.world i) (s'.world i) ∧
      i < s'.registry.watches.length := by
  induction h with
  | done hs => exact world_reach hρ hs hi
  | @call β c next a s s' s'' hs h ih =>
    obtain ⟨hworld, hlt⟩ := world_reach hρ hs hi
    obtain ⟨hanswer, hlt⟩ := world_answer c hlt
    rw [hanswer] at ih
    exact (ih hlt).imp_left hworld.trans

/-- Before a watch is open nobody changes the registry. -/
theorem registry_others (h : s.Others ρ i s') (hi : i = s.registry.watches.length) :
    s'.registry = s.registry := by
  subst hi
  cases h with
  | change hc =>
    have hroom : s.registry.HasRoom s.registry.watches.length := by
      cases hc <;> assumption
    obtain ⟨w, hw, -⟩ := hroom
    simp at hw
  | pass => rfl
  | call c hi => exact absurd hi (Nat.lt_irrefl _)

theorem registry_reach (h : Relation.ReflTransGen (Services.Others ρ i) s s')
    (hi : i = s.registry.watches.length) : s'.registry = s.registry := by
  induction h with
  | refl => rfl
  | tail _ hstep ih => exact (registry_others hstep (ih ▸ hi)).trans ih

/-! ## Up to date -/

namespace Subject

variable {u : Subject} {w : World}

def kind : Subject → Kind
  | secret _ => .secret
  | binding _ => .tlsBinding

/-- Whether there is such an object. -/
def Stored (u : Subject) (st : Store) : Prop :=
  ∃ r ∈ st.resources, r.kind = u.kind ∧ r.key.identity = u.identity

theorem stored_of_get? (hw : w.Proper) (hu : u.Proper) {r : Resource}
    (hr : w.store.get? u.kind u.identity.key = some r) : u.Stored w.store := by
  obtain ⟨hmem, hkind, hsame, hname⟩ := hw.keyed.mem_of_get? hu.plain hr
  exact ⟨r, hmem, hkind, identity_of_same hsame hname⟩

theorem wanted?_of_not_stored (hw : w.Proper) (hu : u.Proper) (hnot : ¬ u.Stored w.store) :
    u.wanted? w.store = none := by
  have hget : w.store.get? u.kind u.identity.key = none := by
    by_contra hsome
    obtain ⟨r, hr⟩ := Option.ne_none_iff_exists'.1 hsome
    exact hnot (stored_of_get? hw hu hr)
  cases u with
  | secret k => rw [wanted?, show w.store.get? .secret k.key = none from hget]; rfl
  | binding k => rw [wanted?, show w.store.get? .tlsBinding k.key = none from hget]; rfl

end Subject

section Current

variable {d : IndexDirectory} {u : Subject} {w : World}

/-- What is indexed for a subject is up to date. A binding without names is left alone. -/
def Current (d : IndexDirectory) (st : Store) (u : Subject) : Prop :=
  Silent st u ∨ d.lookup? u.place = u.wanted? st

/-- Nothing is served for a binding without names. -/
theorem Silent.wanted?_eq_none {st : Store} (h : Silent st u) : u.wanted? st = none := by
  cases u with
  | secret k => exact h.elim
  | binding k =>
    obtain ⟨r, b, hr, hb, hsnis⟩ := h
    rw [Option.eq_none_iff_forall_ne_some]
    intro t ht
    obtain ⟨r', b', secret, data, hr', hb', -, -, hserves⟩ := wanted?_binding.1 ht
    cases hr.symm.trans hr'
    cases hb.symm.trans hb'
    have hnames := hserves.names
    rw [Certificate.sniSet_of_pinned rfl, Certificate.pin, hsnis] at hnames
    exact hserves.named (Except.ok.inj hnames).symm

theorem Silent.stored (hw : w.Proper) (hu : u.Proper) (h : Silent w.store u) :
    u.Stored w.store := by
  cases u with
  | secret k => exact h.elim
  | binding k =>
    obtain ⟨r, b, hr, -⟩ := h
    exact Subject.stored_of_get? hw hu hr

/-- What is up to date has what is served for it. -/
theorem Current.served (h : Current d w.store u) (hw : w.Proper) (hu : u.Proper) {t : Tracked}
    (ht : Served w.store u.place t) : d.lookup? u.place = some t := by
  obtain ⟨v, hv, hplace, hwanted⟩ := (served_iff hw).1 ht
  obtain rfl := hv.place_inj hu hplace
  rcases h with hsilent | heq
  · cases hsilent.wanted?_eq_none.symm.trans hwanted
  · exact heq.trans hwanted

/-- What is up to date has nothing if it is not stored. -/
theorem Current.withdrawn (h : Current d w.store u) (hw : w.Proper) (hu : u.Proper)
    (hnot : ¬ u.Stored w.store) : d.lookup? u.place = none := by
  rcases h with hsilent | heq
  · exact absurd (hsilent.stored hw hu) hnot
  · exact heq.trans (Subject.wanted?_of_not_stored hw hu hnot)

end Current

/-- Dropping the indices of stages that are gone leaves alone what is tracked for the others. -/
theorem Holds.prune {X : World → Subject → Prop} {a : AgentState} {w : World} (h : Holds p X a w)
    {existing : List Stage} (hp : ∀ u, p u → u.identity.owner.key ∈ existing.map Stage.key) :
    Holds p X { a with directory := a.directory.prune existing } w := by
  refine ⟨h.world, h.directory.prune existing, h.retries, ?_⟩
  intro u hu hproper hsilent
  have hlookup : (a.directory.prune existing).lookup? u.place = a.directory.lookup? u.place :=
    IndexDirectory.lookup?_prune (u.place_owner ▸ hp u hu)
  exact (h.settled u hu hproper hsilent).imp_left fun hs ↦ hs.imp_left hlookup.trans

/-! ## Reconnecting -/

/-- An agent that keeps `a` opens a watch and starts afresh, with success: `listed` are the stages
that it was told of, and `x` is what comes of it. -/
structure Reconnects (ρ : Rules) (a : AgentState) (s : Services) (listed : List Stage)
    (x : System) : Prop where
  watch : x.watch = s.registry.watches.length
  opening : (Agent.opening.run.run a).Among ρ x.watch s (.ok listed, x.agent) x.services
  activity : x.activity = .sending listed

/-- Names tell what they name: those of the stored objects, and those that an agent keeps. -/
structure Legible (a : AgentState) (st : Store) : Prop where
  keyed : st.Keyed
  resources : ∀ r ∈ st.resources, ProperNotice r.notice
  directory : a.directory.Proper
  retries : ∀ e ∈ a.retries.entries, ProperNotice e.notice

/-- What was up to date for the stages that are listed. -/
def Kept (a : AgentState) (st : Store) (listed : List Stage) (u : Subject) : Prop :=
  u.identity.owner.key ∈ listed.map Stage.key ∧ Current a.directory st u

namespace Reconnects

variable {a : AgentState} {listed : List Stage} {x : System}

/-- All that is kept from before but for the indices of stages that are gone. -/
theorem agent_eq (h : Reconnects ρ a s listed x) :
    x.agent = { a with directory := a.directory.prune listed } := by
  obtain ⟨calls, hcalls⟩ := h.opening.exists_reaches
  generalize hagent : x.agent = a' at hcalls
  cases Agent.opening_reaches hcalls with
  | opened => rfl

/-- The watch is opened before anything else is done. -/
theorem world (hρ : Noting ρ) (h : Reconnects ρ a s listed x) :
    Relation.ReflTransGen World.Change ⟨s.registry.store, []⟩ (x.services.world x.watch) ∧
      x.watch < x.services.registry.watches.length := by
  have hopening := h.opening
  rw [Agent.run_opening_eq] at hopening
  cases hopening with
  | @call _ _ _ _ _ s' _ hs hrest =>
    have hregistry := registry_reach hs h.watch
    by_cases hfault : 0 < s'.faults.watches
    · rw [show s'.answer .watch = s'.watch from rfl, Services.watch, if_pos hfault] at hrest
      cases hrest
    · have hopened : (s'.watch).2.registry = s.registry.watch.2 := by
        rw [Services.watch, if_neg hfault, ← hregistry]
      have hworld : (s'.watch).2.world x.watch = ⟨s.registry.store, []⟩ := by
        rw [Services.world, hopened, h.watch]
        simp [Registry.watch, Registry.buffer, Watches.openOne]
      have hlt : x.watch < (s'.watch).2.registry.watches.length := by
        rw [hopened, h.watch]
        simp [Registry.watch, Watches.openOne]
      exact hworld ▸ world_among hρ hrest hlt

/-- What was up to date before, for the stages that are listed, stays so. -/
theorem invariant (hρ : Noting ρ) (ha : Legible a s.registry.store)
    (h : Reconnects ρ a s listed x) :
    Invariant (Holds (Kept a s.registry.store listed) fun _ _ ↦ False) x := by
  obtain ⟨hworld, hlt⟩ := h.world hρ
  have hstart : Holds (Kept a s.registry.store listed) (fun _ _ ↦ False) a
      ⟨s.registry.store, []⟩ := by
    refine ⟨⟨ha.keyed, ha.resources, List.forall_mem_nil _⟩, ha.directory, ha.retries, ?_⟩
    rintro u ⟨-, hcurrent⟩ - hsilent
    exact .inl (.inl (hcurrent.resolve_left hsilent))
  have hend := Stable.reach (Holds.stable lasting_none) hstart hworld
  refine ⟨hlt, fun _ ↦ ?_, fun n? job hwork ↦ ?_⟩
  · rw [h.agent_eq]
    exact hend.prune fun u hu ↦ hu.1
  · rw [h.activity] at hwork
    cases hwork

/-- Nothing is indexed or withdrawn for the stages that are listed. -/
theorem lookup?_eq (h : Reconnects ρ a s listed x) {k : Identity}
    (hk : k.owner.key ∈ listed.map Stage.key) :
    x.agent.directory.lookup? k = a.directory.lookup? k := by
  rw [h.agent_eq]
  exact IndexDirectory.lookup?_prune hk

end Reconnects

namespace Invariant

variable {u : Subject} {x y : System}

/-- A subject with a notice to be handled is looked after from then on, whatever is indexed for it. -/
theorem of_awaited (h : Invariant (Holds p fun _ _ ↦ False) x) (hi : x.activity = .idle)
    (hu : Awaited x.agent (x.services.world x.watch) u) :
    Invariant (Holds (· = u) fun _ _ ↦ False) x := by
  have hx := h.holds (hi ▸ trivial)
  refine ⟨h.watched, fun _ ↦ ⟨hx.world, hx.directory, hx.retries, ?_⟩, fun n? job hwork ↦ ?_⟩
  · rintro u rfl - -
    exact .inl (.inr hu)
  · rw [hi] at hwork
    cases hwork

section Left

variable (hnone : HandlesNone y.activity)
  (hleft : ¬ Awaited y.agent (y.services.world y.watch) u)
include hnone hleft

/-- A subject in question is up to date once no notice for it is left. -/
theorem current (h : Invariant (Holds p fun _ _ ↦ False) y) (hp : p u) (hu : u.Proper) :
    Current y.agent.directory y.store u := by
  by_cases hsilent : Silent y.store u
  · exact .inl hsilent
  · rcases (h.holds hnone).settled u hp hu hsilent with hsettled | hfalse
    · exact .inr (hsettled.resolve_right hleft)
    · exact hfalse.elim

/-- A subject for which no notice comes up is tracked as it was when the agent reconnected. -/
theorem unchanged {ρ : Rules} (hρ : Noting ρ) (hu : u.Proper)
    (h : Invariant (Holds p fun _ _ ↦ False) x) (hx : HandlesNone x.activity)
    (hwork : ∀ n? job, x.activity ≠ .working n? job) (hrun : x.Run ρ y)
    (hnot : ¬ Heard ρ x u y) :
    y.agent.directory.lookup? u.place = x.agent.directory.lookup? u.place := by
  have hstart : Invariant (Spared u (x.agent.directory.lookup? u.place) fun _ ↦ True) x :=
    ⟨h.watched, fun _ ↦ ⟨(h.holds hx).world, .inr ⟨rfl, trivial⟩⟩,
      fun n? job hworking ↦ absurd hworking (hwork n? job)⟩
  exact (((run_spared hu h hstart hρ hrun hnot).holds hnone).entry.resolve_left hleft).1

end Left

end Invariant

/-- Reconnecting looks at no certificate: for the stages that are listed everything stays tracked as it
was. Once the agent has handled what the new watch brought, with no notice left for a secret or a
binding, that one is tracked as it is stored if it was before or if a notice for it came up, and in a
listed stage it is tracked as it was before if none did. -/
theorem tracked_after_reconnect (hρ : Noting ρ) {a : AgentState} {listed : List Stage}
    {x : System} (ha : Legible a s.registry.store) (h : Reconnects ρ a s listed x) :
    (∀ k : Identity, k.owner.key ∈ listed.map Stage.key →
      x.agent.directory.lookup? k = a.directory.lookup? k) ∧
    ∀ y, x.Run ρ y → HandlesNone y.activity → ∀ u : Subject, u.Proper →
      ¬ Awaited y.agent (y.services.world y.watch) u →
      (Kept a s.registry.store listed u ∨ Heard ρ x u y →
        (∀ t, Served y.store u.place t → y.agent.directory.lookup? u.place = some t) ∧
          (¬ u.Stored y.store → y.agent.directory.lookup? u.place = none)) ∧
      (u.identity.owner.key ∈ listed.map Stage.key → ¬ Heard ρ x u y →
        y.agent.directory.lookup? u.place = a.directory.lookup? u.place) := by
  have hx := h.invariant hρ ha
  refine ⟨fun k ↦ h.lookup?_eq, fun y hrun hnone u hu hleft ↦ ⟨fun hcause ↦ ?_, fun hk hnot ↦ ?_⟩⟩
  · have hy := hx.run hρ hrun
    have hworld := (hy.holds hnone).world
    have hcurrent : Current y.agent.directory y.store u := by
      rcases hcause with hkept | ⟨z, hz, hi, hawaited, hrest⟩
      · exact hy.current hnone hleft hkept hu
      · exact (((hx.run hρ hz).of_awaited hi hawaited).run hρ hrest).current hnone hleft rfl hu
    exact ⟨fun t ↦ hcurrent.served hworld hu, hcurrent.withdrawn hworld hu⟩
  · have hwork (n? : Option Notice) (job : Job (Agent.Handled × AgentState)) :
        x.activity ≠ .working n? job := by
      rw [h.activity]
      exact nofun
    rw [hx.unchanged hnone hleft hρ hu (h.activity ▸ trivial) hwork hrun hnot]
    exact h.lookup?_eq (u.place_owner ▸ hk)

theorem served_of_wanted? {x : System} {u : Subject} {t : Tracked}
    (hw : (x.services.world x.watch).Proper) (hu : u.Proper) (ht : u.wanted? x.store = some t) :
    Served x.store u.place t :=
  (served_iff hw).2 ⟨u, hu, rfl, ht⟩

/-! ## A seeded registry -/

/-- An agent that reconnects with nobody about. -/
def reconnected (a : AgentState) (s : Services) (listed : List Stage) : System where
  services := ((Agent.opening.run.run a).run Services.host s).2
  maxRetries := 3
  segmentSize := 1
  watch := s.registry.watches.length
  agent := ((Agent.opening.run.run a).run Services.host s).1.2
  activity := .sending listed
  channel := { capacity := 1 }

theorem reconnects_reconnected {a : AgentState} {listed : List Stage}
    (h : ((Agent.opening.run.run a).run Services.host s).1.1 = .ok listed) :
    Reconnects ρ a s listed (reconnected a s listed) := by
  refine ⟨rfl, ?_, rfl⟩
  have hresult : ((Agent.opening.run.run a).run Services.host s).1 =
      (.ok listed, (reconnected a s listed).agent) := Prod.ext h rfl
  have hrun := Job.among_run ρ s.registry.watches.length (Agent.opening.run.run a) s
  rw [hresult] at hrun
  exact hrun

namespace Seed

def stage : Stage := { gateway := "gateway", name := "stage" }

/-- The chain of a certificate for `a.com`. -/
def chain : String :=
  "-----BEGIN CERTIFICATE-----\nMFAwRgIBATADBgEqMAAwHhcNNzAwMTAxMDAwMDAwWhcNNzAwMTAxMDAw" ++
    "MDAwWjAQMQ4wDAYDVQQDDAVhLmNvbTAIMAMGASoDAQAwAwYBKgMBAA==\n-----END CERTIFICATE-----"

def secret : Resource where
  kind := .secret
  stage := stage
  name := "cert"
  spec := .object [("data", .object [("tls.crt", .string chain)])]

/-- A secret that is no longer there. -/
def gone : ResourceKey := ⟨stage, "gone"⟩

def tracked : Tracked := ⟨{ chain }, ["a.com"]⟩

def object : Resource where
  kind := .stage
  stage := stage
  name := "stage"

/-- A stage and a secret of it were stored when nobody watched. -/
def services : Services where
  registry := { store := .ofResources [object, secret] }

/-- The other secret is still tracked from before. -/
def agent : AgentState where
  directory := (IndexDirectory.empty true).set stage (CertificateIndex.insert {} gone { chain }).2
  retries := { capacity := 1, delay := 1 }

theorem plain_stage : stage.Plain := by decide

theorem proper_secret : ProperNotice secret.notice := by
  refine ⟨plain_stage, fun _ ↦ ?_⟩
  rintro ⟨b, hb⟩
  have hlist := congrArg String.toList hb
  simp [secret, Resource.notice, ResourceKey.bindingMark] at hlist

theorem proper_world : (World.mk services.registry.store []).Proper := by
  have hempty : (World.mk {} []).Proper := ⟨.empty, by simp [Store.resources], by simp⟩
  have hproper : ProperNotice object.notice := by
    refine ⟨plain_stage, fun hkind ↦ ?_⟩
    cases hkind
  have hobject := hempty.change (.put hproper)
  have hsecret := hobject.change (.put proper_secret)
  exact ⟨hsecret.keyed, hsecret.resources, List.forall_mem_nil _⟩

theorem legible : Legible agent services.registry.store := by
  have hinsert : (CertificateIndex.insert {} gone { chain }).1 = .ok true := by decide +kernel
  have hentry (k : Identity) := CertificateIndex.find?_tracked_insert hinsert k
  have hdirectory := (IndexDirectory.proper_empty true).set gone.owner_identity_same hentry plain_stage
  exact ⟨proper_world.keyed, proper_world.resources, hdirectory, List.forall_mem_nil _⟩

/-- The system once the agent has reconnected. -/
def opened : System := reconnected agent services [stage.withoutReport]

theorem reconnects : Reconnects rules agent services [stage.withoutReport] opened :=
  reconnects_reconnected rfl

/-- The system once the agent has sent its first batch. -/
def rested : System :=
  { opened with activity := .idle, channel := { capacity := 1, batches := [[stage.withoutReport]] } }

theorem run_rested : opened.Run rules rested :=
  .single (.send rfl (.refl _) rfl)

theorem store_rested : rested.store = services.registry.store :=
  Services.store_run _ _

theorem proper_subject : (Subject.secret secret.key.identity).Proper :=
  Subject.proper_secret plain_stage (proper_secret.unmarked rfl)

theorem served : Served services.registry.store secret.key.identity tracked :=
  (served_iff proper_world).2 ⟨_, proper_subject, rfl, by decide +kernel⟩

theorem not_stored : ¬ (Subject.secret gone.identity).Stored services.registry.store := by
  rintro ⟨r, hr, hkind, hkey⟩
  have hget := proper_world.keyed.get?_of_mem hr
  have hnone : services.registry.store.get? .secret gone.identity.key = none := by decide +kernel
  rw [show r.kind = .secret from hkind, ← Store.get?_identity_key,
    show r.key.identity = gone.identity from hkey, hnone] at hget
  cases hget

/-- The secret was put again, and the agent has handled the notice. -/
def heard : System := rested.absorb secret

end Seed

/-- A secret that was seeded stays unknown to the index of its stage, and one that is gone stays in it,
though the agent has reconnected, the stage was listed and there is no notice to be handled. -/
theorem untracked_after_reconnect :
    Reconnects rules Seed.agent Seed.services [Seed.stage.withoutReport] Seed.opened ∧
      Seed.opened.Run rules Seed.rested ∧ Seed.rested.activity = .idle ∧
      pending Seed.rested.agent (Seed.rested.services.world Seed.rested.watch) = [] ∧
      Served Seed.rested.store Seed.secret.key.identity Seed.tracked ∧
      Seed.rested.agent.directory.lookup? Seed.secret.key.identity = none ∧
      ¬ (Subject.secret Seed.gone.identity).Stored Seed.rested.store ∧
      Seed.rested.agent.directory.lookup? Seed.gone.identity = some Seed.tracked := by
  have heval : pending Seed.rested.agent (Seed.rested.services.world Seed.rested.watch) = [] ∧
      Seed.rested.agent.directory.lookup? Seed.secret.key.identity = none ∧
      Seed.rested.agent.directory.lookup? Seed.gone.identity = some Seed.tracked := by
    decide +kernel
  obtain ⟨hpending, hsecret, hgone⟩ := heval
  refine ⟨Seed.reconnects, Seed.run_rested, rfl, hpending, ?_, hsecret, ?_, hgone⟩
  · exact Seed.store_rested ▸ Seed.served
  · exact Seed.store_rested ▸ Seed.not_stored

/-- Once the secret is put again, it is tracked. -/
theorem tracked_after_put :
    Legible Seed.agent Seed.services.registry.store ∧
      Reconnects rules Seed.agent Seed.services [Seed.stage.withoutReport] Seed.opened ∧
      Seed.opened.Run rules Seed.heard ∧ HandlesNone Seed.heard.activity ∧
      (Subject.secret Seed.secret.key.identity).Proper ∧
      Heard rules Seed.opened (.secret Seed.secret.key.identity) Seed.heard ∧
      ¬ Awaited Seed.heard.agent (Seed.heard.services.world Seed.heard.watch)
        (.secret Seed.secret.key.identity) ∧
      Seed.heard.agent.directory.lookup? Seed.secret.key.identity = some Seed.tracked := by
  have heval : System.Absorbs rules Seed.rested Seed.secret ∧
      pending Seed.heard.agent (Seed.heard.services.world Seed.heard.watch) = [] ∧
      (Subject.secret Seed.secret.key.identity).wanted? Seed.heard.store = some Seed.tracked := by
    decide +kernel
  obtain ⟨habsorbs, hpending, hwanted⟩ := heval
  have hputs : rules.puts Seed.secret :=
    ⟨Seed.plain_stage, Seed.proper_secret.unmarked, nofun⟩
  have hput := System.step_put habsorbs.watch hputs
  have habsorb := System.run_absorb_put habsorbs rfl
  have hrun : Seed.opened.Run rules Seed.heard := (Seed.run_rested.tail hput).trans habsorb
  have hheard : Heard rules Seed.opened (.secret Seed.secret.key.identity) Seed.heard := by
    refine ⟨_, Seed.run_rested.tail hput, rfl, ⟨Seed.secret.notice, ?_, rfl, rfl⟩, habsorb⟩
    decide +kernel
  have hleft : ¬ Awaited Seed.heard.agent (Seed.heard.services.world Seed.heard.watch)
      (.secret Seed.secret.key.identity) := by
    rintro ⟨n, hn, -⟩
    rw [hpending] at hn
    cases hn
  have hworld : (Seed.heard.services.world Seed.heard.watch).Proper :=
    (((Seed.reconnects.invariant noting_rules Seed.legible).run noting_rules hrun).holds trivial).world
  have hserved := served_of_wanted? hworld Seed.proper_subject hwanted
  have htracked := ((tracked_after_reconnect noting_rules Seed.legible Seed.reconnects).2 Seed.heard
    hrun trivial (.secret Seed.secret.key.identity) Seed.proper_subject hleft).1 (.inr hheard)
  exact ⟨Seed.legible, Seed.reconnects, hrun, trivial, Seed.proper_subject, hheard, hleft,
    htracked.1 Seed.tracked hserved⟩

end Indexing

end StageRelay
