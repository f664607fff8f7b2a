import StageRelay.Proofs.Batch.InTurn
import StageRelay.Proofs.Batch.Parts

/-!
# Stages that are put back

A commit that fails puts its stage back, and so does a flush that fails for every stage that was
committed before it. Whoever puts a stage back, it waits under its key with the payload of a failure,
and its next outcome is reported.
-/

namespace StageRelay

/-- No other stage has the key of the one that stands for all stages. -/
theorem Stage.isAll_of_key {s : Stage} (h : s.key = Stage.all.key) : s.isAll := by
  have hlength := congrArg String.length h
  simp only [key, all, String.length_append] at hlength
  have hslash : "/".length = 1 := rfl
  have hempty : "".length = 0 := rfl
  have hgateway : s.gateway = "" := String.length_eq_zero_iff.1 (by omega)
  have hname : s.name = "" := String.length_eq_zero_iff.1 (by omega)
  rw [isAll, hgateway, hname]
  rfl

/-! ## Calls and the stages that wait -/

namespace Debouncer

variable {d : Debouncer} {a : Answered} {as : List Answered} {key : String}

theorem after_of_postponed {s : Stage} (h : a.effect? = some (.postponed s)) :
    d.after a = d.update a.time s := by
  obtain ⟨c, b, time⟩ := a
  cases c with
  | postpone t =>
    obtain rfl := Effect.postponed.inj (Option.some.inj h)
    rfl
  | flush => cases h
  | report t status => cases h
  | drain => cases h
  | _ => cases h

theorem after_of_other (hp : ∀ s, a.effect? ≠ some (.postponed s)) (hd : a.effect? ≠ some .drained) :
    d.after a = d := by
  obtain ⟨c, b, time⟩ := a
  cases c with
  | postpone t => exact absurd rfl (hp t)
  | drain => exact absurd rfl hd
  | _ => rfl

/-- What waits under a key has been put back, unless nothing was put back under this key. -/
theorem find?_foldl_after (hd : .drained ∉ effects as) :
    ((as.foldl after d).waiting.find? key = d.waiting.find? key ∧
      ∀ t, .postponed t ∈ effects as → t.key ≠ key) ∨
    ∃ w, (as.foldl after d).waiting.find? key = some w ∧ w.stage.key = key ∧
      .postponed w.stage ∈ effects as := by
  induction as generalizing d with
  | nil => exact .inl ⟨rfl, nofun⟩
  | cons a as ih =>
    rw [effects_cons, List.mem_append, not_or] at hd
    obtain ⟨ha, has⟩ := hd
    simp only [effects_cons, List.mem_append, List.foldl_cons, Option.mem_toList] at ha ⊢
    rcases @ih (d.after a) has with ⟨hfind, hnot⟩ | ⟨w, hw, hkey, hmem⟩
    · by_cases hp : ∃ s, a.effect? = some (.postponed s)
      · obtain ⟨s, hs⟩ := hp
        rw [hfind, after_of_postponed hs, update, Dict.find?_insert]
        split
        · next hkey => exact .inr ⟨_, rfl, hkey.symm, .inl hs⟩
        · next hkey =>
          refine .inl ⟨rfl, fun t ht ↦ ?_⟩
          rcases ht with ht | ht
          · obtain rfl := Effect.postponed.inj (Option.some.inj (hs.symm.trans ht))
            exact Ne.symm hkey
          · exact hnot t ht
      · rw [not_exists] at hp
        rw [hfind, after_of_other hp ha]
        exact .inl ⟨rfl, fun t ht ↦ hnot t (ht.resolve_left (hp t))⟩
    · exact .inr ⟨w, hw, hkey, .inr hmem⟩

/-- Calls that put nothing back change nothing. -/
theorem foldl_after_eq_self (hd : .drained ∉ effects as) (hp : ∀ t, .postponed t ∉ effects as) :
    as.foldl after d = d := by
  induction as with
  | nil => rfl
  | cons a as ih =>
    simp only [effects_cons, List.mem_append, not_or, Option.mem_toList] at hd hp
    rw [List.foldl_cons, after_of_other (fun t ↦ (hp t).1) hd.1]
    exact ih hd.2 fun t ↦ (hp t).2

end Debouncer

namespace Batch

open Commit

/-! ## Parts -/

namespace Part

/-- The stages of a part whose commits failed or were not flushed. -/
def failed : Part → List Stage
  | skipped _ => []
  | conducted _ commits flushed _ _ =>
    ((endings commits).filter fun e ↦ !(e.2.isOk && flushed.isOk)).map fun e ↦ e.2.stage

/-- Whether the configuration of the stage with a number was built, published and flushed. -/
def Published (i : Nat) (s : Stage) : Part → Prop
  | skipped _ => False
  | conducted _ commits flushed _ _ =>
    Publishes s (callsOf i commits) ∧ (i, ⟨s, .ok ()⟩) ∈ endings commits ∧ flushed = .ok ()

variable {p : Part} {s t : Stage} {i : Nat}

theorem effects_calls_conducted (segment : List Stage) (commits : List Event)
    (flushed : Except SyncError Unit) (time : Nat) (rest : List Answered) :
    effects (calls (conducted segment commits flushed time rest).events) =
      effects (calls commits) ++ .flushed flushed :: effects rest := by
  rw [events, List.cons_append, calls_begun, calls_append, calls_map_asked, effects_append,
    effects_cons]
  rfl

theorem effects_calls_skipped (segment : List Stage) :
    effects (calls (skipped segment).events) = [] := rfl

theorem mem_failed_conducted {segment : List Stage} {commits : List Event}
    {flushed : Except SyncError Unit} {time : Nat} {rest : List Answered} :
    s ∈ (conducted segment commits flushed time rest).failed ↔
      ∃ e ∈ endings commits, (e.2.isOk → ∃ f, flushed = .error f) ∧ s = e.2.stage := by
  have hflushed (e : Ended) : (!(e.isOk && flushed.isOk)) = true ↔
      (e.isOk → ∃ f, flushed = .error f) := by
    cases e.isOk <;> cases flushed <;> simp [Except.isOk, Except.toBool]
  simp only [failed, List.mem_map, List.mem_filter, hflushed, and_assoc, eq_comm]

/-- What is put back are the stages that failed. -/
theorem Proper.postponed_mem_iff (h : p.Proper) :
    .postponed t ∈ effects (calls p.events) ↔ ∃ u ∈ p.failed, t = u.forRetry := by
  cases p with
  | skipped segment => simp [effects_calls_skipped, failed]
  | conducted segment commits flushed time rest =>
    obtain ⟨-, hway, hrest⟩ := h
    rw [effects_calls_conducted, List.mem_append, List.mem_cons, hway.postponed_mem_effects_iff,
      hrest, postponed_mem_aftermath]
    constructor
    · rintro (⟨e, he, hnot, rfl⟩ | hflushed | ⟨hf, e, he, -, rfl⟩)
      · exact ⟨_, mem_failed_conducted.2 ⟨e, he, fun hok ↦ absurd hok hnot, rfl⟩, rfl⟩
      · cases hflushed
      · obtain ⟨x, hx, rfl⟩ := List.mem_map.1 he
        exact ⟨_, mem_failed_conducted.2 ⟨x, hx, fun _ ↦ hf, rfl⟩, rfl⟩
    · rintro ⟨u, hu, rfl⟩
      obtain ⟨e, he, hf, rfl⟩ := mem_failed_conducted.1 hu
      by_cases hok : e.2.isOk
      · exact .inr (.inr ⟨hf hok, e.2, List.mem_map_of_mem he, hok, rfl⟩)
      · exact .inl ⟨e, he, hok, rfl⟩

theorem Proper.not_drained (h : p.Proper) : .drained ∉ effects (calls p.events) := by
  cases p with
  | skipped segment => exact List.not_mem_nil
  | conducted segment commits flushed time rest =>
    obtain ⟨-, hway, hrest⟩ := h
    rw [effects_calls_conducted, List.mem_append, List.mem_cons, hrest]
    rintro (hcommits | hflushed | hafter)
    · obtain ⟨t, ht⟩ := hway.postponed_of_mem_effects hcommits
      cases ht
    · cases hflushed
    · rcases postponed_or_reported_of_mem_aftermath hafter with ⟨t, ht⟩ | ⟨t, status, ht⟩
      · cases ht
      · cases ht

/-- Every stage that is to be committed is published or fails. -/
theorem Proper.published_or_failed (h : p.Proper)
    (hs : (s, i) ∈ (committable p.segment).zipIdx) : p.Published i s ∨ s ∈ p.failed := by
  cases p with
  | skipped segment =>
    rw [show committable (skipped segment).segment = [] from h] at hs
    cases hs
  | conducted segment commits flushed time rest =>
    obtain ⟨-, hway, -⟩ := h
    obtain ⟨r, he⟩ := hway.exists_ended_iff.2 hs
    rw [mem_failed_conducted]
    rcases r with f | _
    · exact .inr ⟨_, he, nofun, rfl⟩
    · cases flushed with
      | ok _ => exact .inl ⟨(hway.publishes he).1, he, rfl⟩
      | error f => exact .inr ⟨_, he, fun _ ↦ ⟨f, rfl⟩, rfl⟩

/-- What fails is a stage of the segment. -/
theorem Proper.mem_of_failed (h : p.Proper) (hs : s ∈ p.failed) : s ∈ committable p.segment := by
  cases p with
  | skipped segment => cases hs
  | conducted segment commits flushed time rest =>
    obtain ⟨-, hway, -⟩ := h
    obtain ⟨⟨i, e⟩, he, -, rfl⟩ := mem_failed_conducted.1 hs
    exact List.fst_mem_of_mem_zipIdx (hway.exists_ended_iff.1 ⟨e.result, he⟩)

end Part

/-! ## Batches -/

variable {size : Nat} {batch : List Stage} {trace : List Event} {parts : List Part}

theorem mem_effects_flatMap {x : Effect} :
    x ∈ effects (calls (parts.flatMap Part.events)) ↔ ∃ p ∈ parts, x ∈ effects (calls p.events) := by
  induction parts with
  | nil => simp [calls]
  | cons p parts ih =>
    rw [List.flatMap_cons, calls_append, effects_append, List.mem_append, ih]
    simp

theorem postponed_mem_effects_iff (h : ∀ p ∈ parts, p.Proper) {t : Stage} :
    .postponed t ∈ effects (calls (parts.flatMap Part.events)) ↔
      ∃ u ∈ parts.flatMap Part.failed, t = u.forRetry := by
  rw [mem_effects_flatMap]
  constructor
  · rintro ⟨p, hp, ht⟩
    obtain ⟨u, hu, rfl⟩ := (h p hp).postponed_mem_iff.1 ht
    exact ⟨u, List.mem_flatMap.2 ⟨p, hp, hu⟩, rfl⟩
  · rintro ⟨u, hu, rfl⟩
    obtain ⟨p, hp, hu⟩ := List.mem_flatMap.1 hu
    exact ⟨p, hp, (h p hp).postponed_mem_iff.2 ⟨u, hu, rfl⟩⟩

theorem not_drained_mem_effects (h : ∀ p ∈ parts, p.Proper) :
    .drained ∉ effects (calls (parts.flatMap Part.events)) := by
  rw [mem_effects_flatMap]
  rintro ⟨p, hp, hx⟩
  exact (h p hp).not_drained hx

/-- Under a key waits what waited before, or what failed of the batch. -/
theorem find?_replay (h : ∀ p ∈ parts, p.Proper) (d : Debouncer) (key : String) :
    let after := (replay d (parts.flatMap Part.events)).waiting.find? key
    let failed := parts.flatMap Part.failed
    (after = d.waiting.find? key ∧ ∀ u ∈ failed, u.key ≠ key) ∨
      ∃ w, after = some w ∧ ∃ u ∈ failed, u.key = key ∧ w.stage = u.forRetry := by
  intro after failed
  rcases Debouncer.find?_foldl_after (not_drained_mem_effects h) with
    ⟨hfind, hnot⟩ | ⟨w, hw, hkey, hmem⟩
  · exact .inl ⟨hfind, fun u hu ↦
      hnot u.forRetry ((postponed_mem_effects_iff h).2 ⟨u, hu, rfl⟩)⟩
  · obtain ⟨u, hu, hwaits⟩ := (postponed_mem_effects_iff h).1 hmem
    refine .inr ⟨w, hw, u, hu, ?_, hwaits⟩
    rw [← hkey, hwaits]
    rfl

/-- What has become of the stages of a batch, and of the stages that waited before. -/
structure Accounted (batch : List Stage) (parts : List Part) (before after : Debouncer) : Prop where
  /-- A stage that is not published waits with the payload of a failure, to be reported. -/
  entries : ∀ p ∈ parts, ∀ e ∈ (committable p.segment).zipIdx, p.Published e.2 e.1 ∨
    ∃ w, after.waiting.find? e.1.key = some w ∧ w.stage.context.skipReport = false ∧
      ∃ u ∈ parts.flatMap Part.failed, u.key = e.1.key ∧ w.stage = u.forRetry
  failed : ∀ u ∈ parts.flatMap Part.failed, u ∈ batch ∧ ¬ u.isAll
  /-- What waits under other keys is left alone, -/
  others : ∀ key, (∀ u ∈ parts.flatMap Part.failed, u.key ≠ key) →
    after.waiting.find? key = before.waiting.find? key
  /-- and so is the stage that stands for all stages. -/
  all : after.waiting.find? Stage.all.key = before.waiting.find? Stage.all.key
  untouched : parts.flatMap Part.failed = [] → after = before

/-- However its calls are answered and whatever crashes, a batch that is finished has published and
flushed each of its stages or has put it back. Nothing else comes to wait or stops to wait. -/
theorem published_or_put_back (h : Run (.start size batch) trace .finished) (d : Debouncer) :
    ∃ parts : List Part, parts.map Part.segment = Commit.segments size batch ∧
      (parts.map Part.segment).flatten = batch ∧ trace = parts.flatMap Part.events ∧
      Accounted batch parts d (replay d trace) := by
  obtain ⟨parts, hparts, rfl, hsegments⟩ := exists_parts h
  have hbatch : (parts.map Part.segment).flatten = batch := by
    rw [hsegments, flatten_segments]
  have hfind := find?_replay hparts d
  have hentries : ∀ u ∈ parts.flatMap Part.failed, u ∈ batch ∧ ¬ u.isAll := by
    intro u hu
    obtain ⟨p, hp, hu⟩ := List.mem_flatMap.1 hu
    obtain ⟨hmem, hall⟩ := List.mem_filter.1 ((hparts p hp).mem_of_failed hu)
    exact ⟨hbatch ▸ List.mem_flatten.2 ⟨_, List.mem_map_of_mem hp, hmem⟩, by simpa using hall⟩
  refine ⟨parts, hsegments, hbatch, rfl, ?_⟩
  constructor
  case entries =>
    rintro p hp ⟨s, i⟩ hs
    refine ((hparts p hp).published_or_failed hs).imp_right fun hfailed ↦ ?_
    have hmem : s ∈ parts.flatMap Part.failed := List.mem_flatMap.2 ⟨p, hp, hfailed⟩
    rcases hfind s.key with ⟨-, hnot⟩ | ⟨w, hw, u, hu, hkey, hwaits⟩
    · exact absurd rfl (hnot s hmem)
    · exact ⟨w, hw, hwaits ▸ rfl, u, hu, hkey, hwaits⟩
  case failed => exact hentries
  case others =>
    intro key hnot
    rcases hfind key with ⟨hkept, -⟩ | ⟨w, -, u, hu, hkey, -⟩
    · exact hkept
    · exact absurd hkey (hnot u hu)
  case all =>
    rcases hfind Stage.all.key with ⟨hkept, -⟩ | ⟨w, -, u, hu, hkey, -⟩
    · exact hkept
    · exact absurd (Stage.isAll_of_key hkey) (hentries u hu).2
  case untouched =>
    intro hnone
    refine Debouncer.foldl_after_eq_self (not_drained_mem_effects hparts) fun t ht ↦ ?_
    obtain ⟨u, hu, -⟩ := (postponed_mem_effects_iff hparts).1 ht
    rw [hnone] at hu
    cases hu

/-- The publisher refuses a stage that wants no report: it waits, and now it is to be reported. -/
theorem refused_stage_put_back :
    let s : Stage := { gateway := "gateway", name := "stage", context := { skipReport := true } }
    let services : Services :=
      { faults := { sync := ["gateway/stage"] }, debouncer := { debounce := 1, force := 9 } }
    let after := ((commitBatch 1 [Stage.all, s]).run Services.host services).2.debouncer
    after.waiting.find? s.key = some ⟨s.forRetry, 0, 1⟩ ∧
      ∃ (trace : List Event) (parts : List Part), Run (.start 1 [Stage.all, s]) trace .finished ∧
        (parts.map Part.segment).flatten = [Stage.all, s] ∧
        Accounted [Stage.all, s] parts services.debouncer after := by
  intro s services after
  have hwaits : after.waiting.find? s.key = some ⟨s.forRetry, 0, 1⟩ := by decide +kernel
  obtain ⟨trace, hrun, hleft⟩ := exists_run_commitBatch 1 [Stage.all, s] services
  obtain ⟨parts, -, hbatch, -, haccounted⟩ := published_or_put_back hrun services.debouncer
  rw [← hleft] at haccounted
  exact ⟨hwaits, trace, parts, hrun, hbatch, haccounted⟩

end Batch

end StageRelay
