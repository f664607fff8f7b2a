import StageRelay.Conversion
import StageRelay.Proofs.Store

/-!
# What is to be published

The configuration of a stage is made from what the registry holds for the stage. Objects of other
stages do not matter for it, nor does the release that a stage belongs to.
-/

namespace StageRelay

/-- A stage that does not stand for all stages, and whose key tells its names. -/
structure Stage.Named (s : Stage) : Prop where
  plain : s.Plain
  single : s.isAll = false

instance (s : Stage) : Decidable s.Named :=
  decidable_of_iff (s.Plain ∧ s.isAll = false) ⟨fun h ↦ ⟨h.1, h.2⟩, fun h ↦ ⟨h.1, h.2⟩⟩

theorem Stage.Named.of_same {s t : Stage} (hs : s.Named) (h : s.same t) : t.Named := by
  obtain ⟨hg, hn⟩ := same_iff.1 h
  refine ⟨hs.plain.of_same h, ?_⟩
  rw [isAll, ← hg, ← hn]
  exact hs.single

namespace StageResources

theorem convert_of_same {s t : Stage} (h : s.same t) (rs : StageResources) :
    rs.convert s = rs.convert t := by
  obtain ⟨hg, hn⟩ := Stage.same_iff.1 h
  have hname : documentName s = documentName t := by
    funext r
    rw [documentName, documentName, hg, hn]
  rw [convert, convert, hname, hg, hn]

end StageResources

/-- What the registry holds for a stage: the object of the stage, and the resources of each kind. -/
structure Content where
  object? : Option Resource
  listed : Kind → List Resource

namespace Content

/-- The resources of a stage that its configuration is made from. -/
def resources (κ : Content) : StageResources :=
  Kind.stageScoped.foldl (fun all kind ↦ all.extend kind (κ.listed kind)) {}

/-- The configuration to publish: none of the resources without an object of the stage. -/
def configuration (κ : Content) (s : Stage) : Except ConvertError Configuration :=
  match κ.object? with
  | some _ => κ.resources.convert s
  | none => .ok (.empty s.gateway s.name)

theorem configuration_of_same {s t : Stage} (h : s.same t) (κ : Content) :
    κ.configuration s = κ.configuration t := by
  obtain ⟨hg, hn⟩ := Stage.same_iff.1 h
  rw [configuration, configuration, StageResources.convert_of_same h, hg, hn]

end Content

namespace Store

variable {st : Store} {s t : Stage}

/-- What is stored for a stage. The object of a stage is named like it. -/
def content (st : Store) (s : Stage) : Content :=
  ⟨st.get? .stage ⟨s, s.name⟩, fun kind ↦ st.list kind s⟩

/-- The configuration that the stored objects convert to. -/
def configuration (st : Store) (s : Stage) : Except ConvertError Configuration :=
  (st.content s).configuration s

theorem list_of_same (h : s.same t) (kind : Kind) : st.list kind s = st.list kind t := by
  have hsame : ∀ r : Resource, r.stage.same s = r.stage.same t := by
    intro r
    obtain ⟨hg, hn⟩ := Stage.same_iff.1 h
    rw [Stage.same, Stage.same, hg, hn]
  rw [list, list]
  congr 2
  funext r
  rw [hsame]

theorem content_of_same (h : s.same t) : st.content s = st.content t := by
  rw [content, content, get?_of_same h, (Stage.same_iff.1 h).2]
  congr 1
  funext kind
  exact list_of_same h kind

namespace Keyed

/-- A resource that is put does not matter for other stages. -/
theorem content_put {r : Resource} (h : st.Keyed) (hr : r.stage.Plain) (hs : s.Plain)
    (hne : ¬ r.stage.same s) : (st.put r).content s = st.content s := by
  have hplace : StoreKey.of .stage ⟨s, s.name⟩ ≠ .of r.kind r.key := by
    intro heq
    obtain ⟨-, hsame, -⟩ := (of_eq_of_iff hs hr).1 heq
    exact hne (Stage.same_comm.1 hsame)
  rw [content, content, get?_put, if_neg hplace]
  congr 1
  funext kind
  exact h.list_put hr fun _ ↦ hne

/-- Neither does one that is removed. -/
theorem content_remove {kind : Kind} {key : ResourceKey} (h : st.Keyed) (hk : key.stage.Plain)
    (hs : s.Plain) (hne : ¬ key.stage.same s) : (st.remove kind key).content s = st.content s := by
  have hplace : StoreKey.of .stage ⟨s, s.name⟩ ≠ .of kind key := by
    intro heq
    obtain ⟨-, hsame, -⟩ := (of_eq_of_iff hs hk).1 heq
    exact hne (Stage.same_comm.1 hsame)
  rw [content, content, get?_remove, if_neg hplace]
  congr 1
  funext kind
  exact h.list_remove hk fun _ ↦ hne

end Keyed

end Store

end StageRelay
