import Mathlib.Data.List.Induction
import Mathlib.Data.List.TakeWhile
import StageRelay.CommandLine
import StageRelay.Proofs.Assoc
import StageRelay.Proofs.FileNames
import StageRelay.Proofs.Store

/-!
# What a flush writes

A configuration is accepted under two names and buffered under these, but written to the file that
is named after the names in the configuration itself. Only where the two agree does a flush write
what was accepted to the files of the stages it was accepted for; else it can write any file of the
directory, and files of other directories.
-/

namespace StageRelay

namespace FileStore

open FileName

variable {s t : FileStore} {place place' : Directory × String}

/-! ## Files -/

/-- What a file holds, in the directory or in another one. -/
def content? (s : FileStore) (place : Directory × String) : Option String :=
  match place.1 with
  | .output => s.files?.bind (Dict.find? place.2)
  | .other _ => s.strays.find? place

/-- Where a configuration is written. -/
def target? (s : FileStore) (c : Configuration) : Option (Directory × String) :=
  s.place? (ofStage c.gateway c.stage)

@[simp] theorem target?_put (s : FileStore) (place : Directory × String) (content : String)
    (c : Configuration) : (s.put place content).target? c = s.target? c := by
  unfold put
  split <;> rfl

@[simp] theorem pending_put (s : FileStore) (place : Directory × String) (content : String) :
    (s.put place content).pending = s.pending := by
  unfold put
  split <;> rfl

theorem isSome_files?_put (hs : s.files?.isSome) (place : Directory × String) (content : String) :
    (s.put place content).files?.isSome := by
  unfold put
  split
  · simpa [write] using hs
  · exact hs

/-- A file that is put holds its content, and no other file changes. -/
theorem content?_put (hs : s.files?.isSome) (place place' : Directory × String)
    (content : String) : (s.put place content).content? place' =
      if place' = place then some content else s.content? place' := by
  obtain ⟨files, hfiles⟩ := Option.isSome_iff_exists.1 hs
  obtain ⟨directory, file⟩ := place
  obtain ⟨directory', file'⟩ := place'
  cases directory <;> cases directory' <;> simp [content?, put, write, hfiles]

/-! ## Writing -/

/-- The configuration that is written to a file last. -/
def lastAt? (s : FileStore) (cs : List Configuration) (place : Directory × String) :
    Option Configuration :=
  (cs.filter fun c ↦ s.target? c = some place).getLast?

@[simp] theorem lastAt?_put (s : FileStore) (place place' : Directory × String)
    (content : String) (cs : List Configuration) :
    (s.put place content).lastAt? cs place' = s.lastAt? cs place' := by
  simp only [lastAt?, target?_put]

theorem mem_of_lastAt? {cs : List Configuration} {c : Configuration}
    (h : s.lastAt? cs place = some c) : c ∈ cs ∧ s.target? c = some place := by
  simpa using List.mem_filter.1 (List.mem_of_getLast? h)

theorem exists_lastAt? {cs : List Configuration} {c : Configuration} (hc : c ∈ cs)
    (h : s.target? c = some place) : ∃ c', s.lastAt? cs place = some c' := by
  have hmem : c ∈ cs.filter fun c ↦ s.target? c = some place :=
    List.mem_filter.2 ⟨hc, by simpa using h⟩
  exact Option.isSome_iff_exists.1 (List.getLast?_isSome.2 (List.ne_nil_of_mem hmem))

theorem lastAt?_cons (s : FileStore) (c : Configuration) (cs : List Configuration)
    (place : Directory × String) : s.lastAt? (c :: cs) place =
      if s.target? c = some place then some ((s.lastAt? cs place).getD c)
      else s.lastAt? cs place := by
  rw [lastAt?]
  split
  · next h => rw [List.filter_cons_of_pos (by simpa using h), List.getLast?_cons, lastAt?]
  · next h => rw [List.filter_cons_of_neg (by simpa using h), lastAt?]

theorem writeAll_cons {c : Configuration} (h : s.target? c = some place)
    (rest : List Configuration) :
    writeAll (c :: rest) s = writeAll rest (s.put place c.document) := by
  rw [target?] at h
  rw [writeAll, h]

/-- If all documents are written, each file holds the last one that is written to it, or what it
held before. -/
theorem writeAll_of_ok {cs : List Configuration} (hs : s.files?.isSome)
    (h : (writeAll cs s).1 = .ok ()) :
    (∀ c ∈ cs, (s.target? c).isSome) ∧
      ∀ place, (writeAll cs s).2.content? place =
        ((s.lastAt? cs place).map Configuration.document).or (s.content? place) := by
  induction cs generalizing s with
  | nil => exact ⟨List.forall_mem_nil _, fun place ↦ rfl⟩
  | cons c rest ih =>
    cases htarget : s.target? c with
    | none =>
      rw [target?] at htarget
      rw [writeAll, htarget] at h
      cases h
    | some place =>
      rw [writeAll_cons htarget] at h ⊢
      obtain ⟨hrest, hcontent⟩ := ih (isSome_files?_put hs place c.document) h
      refine ⟨List.forall_mem_cons.2 ⟨by simp [htarget], fun c' hc' ↦ ?_⟩, fun place' ↦ ?_⟩
      · simpa using hrest c' hc'
      · rw [hcontent, lastAt?_put, content?_put hs, lastAt?_cons, htarget]
        by_cases hplace : place' = place
        · subst hplace
          cases s.lastAt? rest place' <;> simp
        · simp [hplace, Ne.symm hplace]

theorem pending_writeAll (cs : List Configuration) (s : FileStore) :
    (writeAll cs s).2.pending = s.pending := by
  induction cs generalizing s with
  | nil => rfl
  | cons c rest ih =>
    cases htarget : s.target? c with
    | none =>
      rw [target?] at htarget
      rw [writeAll, htarget]
    | some place => rw [writeAll_cons htarget, ih, pending_put]

/-- The buffer is empty after a flush, whatever comes of it. -/
theorem pending_flush (s : FileStore) : s.flush.2.pending = [] := by
  unfold flush
  split
  · next h => simpa using h
  · split
    · rfl
    · rw [pending_writeAll]

theorem flush_of_ok (h : s.flush.1 = .ok ()) :
    (∀ c ∈ s.pending.map Prod.snd, (s.target? c).isSome) ∧
      ∀ place, s.flush.2.content? place =
        ((s.lastAt? (s.pending.map Prod.snd) place).map Configuration.document).or
          (s.content? place) := by
  by_cases hempty : s.pending = []
  · rw [flush, if_pos (by simp [hempty]), hempty]
    exact ⟨List.forall_mem_nil _, fun place ↦ rfl⟩
  · cases hfiles : s.files? with
    | none => simp [flush, hempty, hfiles] at h
    | some files =>
      have hflush : s.flush = writeAll (s.pending.map Prod.snd) { s with pending := [] } := by
        simp [flush, hempty, hfiles]
      rw [hflush] at h ⊢
      have hsome : ({ s with pending := [] } : FileStore).files?.isSome := by simp [hfiles]
      exact writeAll_of_ok hsome h

/-! ## Publications -/

/-- A configuration and the names that it is published under. -/
structure Publication where
  gateway : String
  stage : String
  config : Configuration

namespace Publication

/-- Whether both names can be told from a file name. -/
def isAccepted (p : Publication) : Bool :=
  isSafe p.gateway && isSafe p.stage

/-- The request to publish. -/
def deed (p : Publication) : Deed :=
  .sync p.gateway p.stage p.config

end Publication

/-- The store after some publications were asked for. -/
def asked (s : FileStore) (ps : List Publication) : FileStore :=
  ps.foldl (fun s p ↦ s.after p.deed) s

/-- The configuration that was accepted last for a stage. -/
def accepted? (ps : List Publication) (gateway stage : String) : Option Configuration :=
  ((ps.filter fun p ↦ p.isAccepted ∧ p.gateway = gateway ∧ p.stage = stage).getLast?).map
    Publication.config

theorem sync_of_isAccepted {p : Publication} (h : p.isAccepted) (s : FileStore) :
    s.sync p.gateway p.stage p.config =
      .ok { s with pending := s.pending.insert (p.gateway ++ "/" ++ p.stage) p.config } := by
  obtain ⟨hgateway, hstage⟩ := Bool.and_eq_true_iff.1 h
  rw [sync, check, check, if_pos hgateway, if_pos hstage]
  rfl

/-- A publication is rejected for a name that cannot be told from a file name. -/
theorem sync_of_not_isAccepted {p : Publication} (h : p.isAccepted = false) (s : FileStore) :
    ∃ name ∈ [p.gateway, p.stage], isSafe name = false ∧
      s.sync p.gateway p.stage p.config =
        .error (.rejected ("name " ++ Text.quote name ++ " cannot be stored as a file name")) := by
  cases hgateway : isSafe p.gateway with
  | false =>
    refine ⟨p.gateway, by simp, hgateway, ?_⟩
    rw [sync, check, hgateway]
    rfl
  | true =>
    have hstage : isSafe p.stage = false := by simpa [Publication.isAccepted, hgateway] using h
    refine ⟨p.stage, by simp, hstage, ?_⟩
    rw [sync, check, check, hgateway, hstage]
    rfl

theorem after_of_not_isAccepted {p : Publication} (h : p.isAccepted = false) (s : FileStore) :
    s.after p.deed = s := by
  obtain ⟨name, -, -, hsync⟩ := sync_of_not_isAccepted h s
  rw [Publication.deed, after, hsync]
  rfl

theorem after_of_isAccepted {p : Publication} (h : p.isAccepted) (s : FileStore) :
    s.after p.deed =
      { s with pending := s.pending.insert (p.gateway ++ "/" ++ p.stage) p.config } := by
  rw [Publication.deed, after, sync_of_isAccepted h]
  rfl

@[simp] theorem asked_append (s : FileStore) (ps : List Publication) (p : Publication) :
    s.asked (ps ++ [p]) = (s.asked ps).after p.deed := by
  simp [asked]

/-- Nothing is written before a flush. -/
theorem asked_eq (s : FileStore) (ps : List Publication) :
    s.asked ps = { s with pending := (s.asked ps).pending } := by
  induction ps using List.reverseRecOn with
  | nil => rfl
  | append_singleton ps p ih =>
    rw [asked_append]
    cases hp : p.isAccepted with
    | false => rw [after_of_not_isAccepted hp, ← ih]
    | true =>
      rw [after_of_isAccepted hp]
      generalize s.asked ps = t at ih
      rw [ih]

theorem accepted?_append (ps : List Publication) (p : Publication) (gateway stage : String) :
    accepted? (ps ++ [p]) gateway stage =
      if p.isAccepted ∧ p.gateway = gateway ∧ p.stage = stage then some p.config
      else accepted? ps gateway stage := by
  rw [accepted?, List.filter_append]
  split
  · next h => rw [List.filter_cons_of_pos (by simpa using h)]; simp
  · next h => rw [List.filter_cons_of_neg (by simpa using h)]; simp [accepted?]

theorem exists_of_accepted? {ps : List Publication} {gateway stage : String} {c : Configuration}
    (h : accepted? ps gateway stage = some c) :
    ∃ p ∈ ps, p.isAccepted ∧ p.gateway = gateway ∧ p.stage = stage ∧ p.config = c := by
  obtain ⟨p, hp, rfl⟩ := Option.map_eq_some_iff.1 h
  have hp := List.mem_of_getLast? hp
  simp only [List.mem_filter, decide_eq_true_eq] at hp
  exact ⟨p, hp.1, hp.2.1, hp.2.2.1, hp.2.2.2, rfl⟩

theorem isSafe_of_accepted? {ps : List Publication} {gateway stage : String} {c : Configuration}
    (h : accepted? ps gateway stage = some c) : isSafe gateway ∧ isSafe stage := by
  obtain ⟨p, -, haccepted, rfl, rfl, -⟩ := exists_of_accepted? h
  exact Bool.and_eq_true_iff.1 haccepted

/-- The keys of names that can be told from a file name tell the names. -/
theorem key_inj {gateway stage gateway' stage' : String} (hn : isSafe stage) (hn' : isSafe stage')
    (h : gateway ++ "/" ++ stage = gateway' ++ "/" ++ stage') :
    gateway = gateway' ∧ stage = stage' := by
  have hplain {name : String} (hsafe : isSafe name) : '/' ∉ name.toList :=
    (of_check (if_pos hsafe)).2
  exact Stage.same_iff.1 (Stage.Plain.same_of_key (s := { gateway, name := stage })
    (t := { gateway := gateway', name := stage' }) (hplain hn) (hplain hn') h)

/-- The buffer holds the configurations that were accepted last, and nothing else. -/
theorem find?_pending_asked (hs : s.pending = []) (ps : List Publication) (key : String)
    (c : Configuration) : (s.asked ps).pending.find? key = some c ↔
      ∃ gateway stage, key = gateway ++ "/" ++ stage ∧ accepted? ps gateway stage = some c := by
  induction ps using List.reverseRecOn with
  | nil => simp [asked, hs, accepted?]
  | append_singleton ps p ih =>
    rw [asked_append]
    cases hp : p.isAccepted with
    | false => simp [after_of_not_isAccepted hp, accepted?_append, hp, ih]
    | true =>
      simp only [after_of_isAccepted hp, Dict.find?_insert, accepted?_append, hp, true_and]
      by_cases hkey : key = p.gateway ++ "/" ++ p.stage
      · rw [if_pos hkey]
        constructor
        · intro h
          exact ⟨p.gateway, p.stage, hkey, by simpa using h⟩
        · rintro ⟨gateway, stage, hsame, h⟩
          split at h
          · exact h
          · next hne =>
            have hsafe := (isSafe_of_accepted? h).2
            have hstage : isSafe p.stage := (Bool.and_eq_true_iff.1 hp).2
            exact absurd (key_inj hstage hsafe (hkey.symm.trans hsame)) hne
      · rw [if_neg hkey, ih]
        refine exists_congr fun gateway ↦ exists_congr fun stage ↦ and_congr_right fun hsame ↦ ?_
        rw [if_neg]
        rintro ⟨rfl, rfl⟩
        exact hkey hsame

theorem sorted_pending_asked (hs : s.pending = []) (ps : List Publication) :
    (s.asked ps).pending.Sorted := by
  induction ps using List.reverseRecOn with
  | nil => exact hs ▸ Dict.sorted_nil
  | append_singleton ps p ih =>
    rw [asked_append]
    cases hp : p.isAccepted with
    | false => rwa [after_of_not_isAccepted hp]
    | true =>
      rw [after_of_isAccepted hp]
      exact ih.insert _ _

theorem mem_pending_asked (hs : s.pending = []) (ps : List Publication) (c : Configuration) :
    c ∈ (s.asked ps).pending.map Prod.snd ↔
      ∃ gateway stage, accepted? ps gateway stage = some c := by
  have hsorted := sorted_pending_asked hs ps
  constructor
  · intro hc
    obtain ⟨⟨key, c⟩, hmem, rfl⟩ := List.mem_map.1 hc
    obtain ⟨gateway, stage, -, h⟩ :=
      (find?_pending_asked hs ps key c).1 (hsorted.find?_eq_some_iff.2 hmem)
    exact ⟨gateway, stage, h⟩
  · rintro ⟨gateway, stage, h⟩
    have hfind := (find?_pending_asked hs ps _ c).2 ⟨gateway, stage, rfl, h⟩
    exact List.mem_map.2 ⟨_, hsorted.find?_eq_some_iff.1 hfind, rfl⟩

@[simp] theorem content?_asked (s : FileStore) (ps : List Publication)
    (place : Directory × String) : (s.asked ps).content? place = s.content? place := by
  rw [asked_eq]
  rfl

@[simp] theorem target?_asked (s : FileStore) (ps : List Publication) (c : Configuration) :
    (s.asked ps).target? c = s.target? c := by
  rw [asked_eq]
  rfl

/-! ## Files of the directory -/

theorem place?_of_notMem {file : String} (h : '/' ∉ file.toList) (hw : isWritable file) :
    s.place? file = some (.output, file) := by
  have hpart : ∀ c ∈ file.toList.reverse, decide (c ≠ '/') = true := by
    intro c hc
    exact decide_eq_true fun he ↦ h (he ▸ List.mem_reverse.1 hc)
  have hbefore : before file = "" := by
    rw [before, List.dropWhile_eq_nil_iff.2 hpart]
    rfl
  have hlast : ofPath file = file := by
    rw [ofPath, List.takeWhile_eq_self_iff.2 hpart, List.reverse_reverse, String.ofList_toList]
  rw [place?, if_pos hw, hbefore, hlast]
  rfl

theorem notMem_ofStage {gateway stage : String} (hg : isSafe gateway) (hn : isSafe stage) :
    '/' ∉ (ofStage gateway stage).toList := by
  have hgateway := (of_check (if_pos hg)).2
  have hstage := (of_check (if_pos hn)).2
  rw [toList_ofStage]
  simp [hgateway, hstage, separator, suffix]

/-- A configuration that bears names which can be told from a file name goes into the directory. -/
theorem target?_eq_some_iff {c : Configuration} (hg : isSafe c.gateway) (hn : isSafe c.stage) :
    s.target? c = some place ↔
      isWritable (ofStage c.gateway c.stage) ∧ place = (.output, ofStage c.gateway c.stage) := by
  rw [target?]
  by_cases hw : isWritable (ofStage c.gateway c.stage)
  · rw [place?_of_notMem (notMem_ofStage hg hn) hw]
    simp [hw, eq_comm]
  · simp [place?, hw]

/-! ## A flush -/

theorem flush_changes (hs : s.pending = []) (ps : List Publication)
    (hok : (s.asked ps).flush.1 = .ok ())
    (hchanged : (s.asked ps).flush.2.content? place ≠ s.content? place) :
    ∃ gateway stage c, accepted? ps gateway stage = some c ∧ s.target? c = some place ∧
      (s.asked ps).flush.2.content? place = some c.document := by
  obtain ⟨-, hcontent⟩ := flush_of_ok hok
  rw [hcontent, content?_asked] at hchanged ⊢
  cases hlast : (s.asked ps).lastAt? ((s.asked ps).pending.map Prod.snd) place with
  | none => simp [hlast] at hchanged
  | some c =>
    obtain ⟨hc, htarget⟩ := mem_of_lastAt? hlast
    obtain ⟨gateway, stage, h⟩ := (mem_pending_asked hs ps c).1 hc
    exact ⟨gateway, stage, c, h, by simpa using htarget, rfl⟩

theorem flush_reaches (hs : s.pending = []) (ps : List Publication)
    (hok : (s.asked ps).flush.1 = .ok ()) {gateway stage : String} {c : Configuration}
    (h : accepted? ps gateway stage = some c) :
    ∃ place gateway' stage' c', s.target? c = some place ∧
      accepted? ps gateway' stage' = some c' ∧ s.target? c' = some place ∧
      (s.asked ps).flush.2.content? place = some c'.document := by
  obtain ⟨hall, hcontent⟩ := flush_of_ok hok
  have hc := (mem_pending_asked hs ps c).2 ⟨gateway, stage, h⟩
  obtain ⟨place, hplace⟩ := Option.isSome_iff_exists.1 (hall c hc)
  obtain ⟨c', hlast⟩ := exists_lastAt? hc hplace
  obtain ⟨hc', hplace'⟩ := mem_of_lastAt? hlast
  obtain ⟨gateway', stage', h'⟩ := (mem_pending_asked hs ps c').1 hc'
  rw [target?_asked] at hplace hplace'
  refine ⟨place, gateway', stage', c', hplace, h', hplace', ?_⟩
  rw [hcontent, hlast]
  rfl

/-- A store is asked to publish configurations and then flushed. What is rejected changes nothing,
nothing is written before the flush, the buffer holds the configurations that were accepted last and
is empty after the flush. If the flush succeeds, the files that changed are those named in the
configurations that were accepted last for some stages, with these configurations in them, and none
of these is left out, unless another one names the same file. So if they bear the names under which
they were accepted, a flush writes only the files of stages that were accepted, in the directory. -/
theorem flush_writes_named (s : FileStore) (hs : s.pending = []) (ps : List Publication) :
    let t := s.asked ps
    (∀ p : Publication, p.isAccepted = false → t.after p.deed = t ∧
      ∃ name ∈ [p.gateway, p.stage], isSafe name = false ∧ t.sync p.gateway p.stage p.config =
        .error (.rejected ("name " ++ Text.quote name ++ " cannot be stored as a file name"))) ∧
    (∀ place, t.content? place = s.content? place) ∧
    (∀ key c, t.pending.find? key = some c ↔
      ∃ gateway stage, key = gateway ++ "/" ++ stage ∧ accepted? ps gateway stage = some c) ∧
    t.flush.2.pending = [] ∧
    (t.flush.1 = .ok () →
      (∀ place, t.flush.2.content? place ≠ s.content? place →
        ∃ gateway stage c, accepted? ps gateway stage = some c ∧ s.target? c = some place ∧
          t.flush.2.content? place = some c.document) ∧
      (∀ gateway stage c, accepted? ps gateway stage = some c →
        ∃ place gateway' stage' c', s.target? c = some place ∧
          accepted? ps gateway' stage' = some c' ∧ s.target? c' = some place ∧
          t.flush.2.content? place = some c'.document) ∧
      ((∀ gateway stage c, accepted? ps gateway stage = some c →
          c.gateway = gateway ∧ c.stage = stage) →
        ∀ place, t.flush.2.content? place ≠ s.content? place →
          ∃ gateway stage c, accepted? ps gateway stage = some c ∧
            place = (.output, ofStage gateway stage) ∧ '/' ∉ (ofStage gateway stage).toList ∧
            t.flush.2.content? place = some c.document)) := by
  intro t
  refine ⟨fun p hp ↦ ⟨after_of_not_isAccepted hp t, sync_of_not_isAccepted hp t⟩,
    content?_asked s ps, find?_pending_asked hs ps, pending_flush t, fun hok ↦
    ⟨fun place ↦ flush_changes hs ps hok, fun gateway stage c ↦ flush_reaches hs ps hok,
      fun hnamed place hchanged ↦ ?_⟩⟩
  obtain ⟨gateway, stage, c, h, htarget, hcontent⟩ := flush_changes hs ps hok hchanged
  obtain ⟨rfl, rfl⟩ := hnamed gateway stage c h
  obtain ⟨hg, hn⟩ := isSafe_of_accepted? h
  obtain ⟨-, hplace⟩ := (target?_eq_some_iff hg hn).1 htarget
  exact ⟨c.gateway, c.stage, c, h, hplace, notMem_ofStage hg hn, hcontent⟩

/-- A stage that is published twice, and a name that is rejected in between: the flush writes one
file, with the configuration that was accepted last. -/
theorem flush_writes_last_accepted :
    let old : Configuration := { gateway := "gw", stage := "prod", routes := [("r", .null)] }
    let c : Configuration := .empty "gw" "prod"
    let ps : List Publication :=
      [⟨"gw", "prod", old⟩, ⟨"../gw", "prod", .empty "../gw" "prod"⟩, ⟨"gw", "prod", c⟩]
    let t := asked {} ps
    t.flush.1 = .ok () ∧ t.flush.2.pending = [] ∧
      t.flush.2.files? = some [("gw__prod.json", c.document)] ∧
      ∃ gateway stage c', accepted? ps gateway stage = some c' ∧
        ofStage gateway stage = "gw__prod.json" ∧
        t.flush.2.content? (.output, "gw__prod.json") = some c'.document := by
  intro old c ps t
  have hok : t.flush.1 = .ok () := by decide +kernel
  have hfiles : t.flush.2.files? = some [("gw__prod.json", c.document)] := by decide +kernel
  obtain ⟨-, -, -, hempty, hwritten⟩ := flush_writes_named {} rfl ps
  obtain ⟨-, -, hnamed⟩ := hwritten hok
  have hbear : ∀ gateway stage c', accepted? ps gateway stage = some c' →
      c'.gateway = gateway ∧ c'.stage = stage := by
    intro gateway stage c' h
    obtain ⟨p, hp, -, rfl, rfl, rfl⟩ := exists_of_accepted? h
    simp only [ps, List.mem_cons, List.not_mem_nil, or_false] at hp
    rcases hp with rfl | rfl | rfl <;> exact ⟨rfl, rfl⟩
  obtain ⟨gateway, stage, c', h, hplace, -, hcontent⟩ :=
    hnamed hbear (.output, "gw__prod.json") (by decide +kernel)
  exact ⟨hok, hempty, hfiles, gateway, stage, c', h, (Prod.mk.inj hplace).2.symm, hcontent⟩

/-- A configuration that is accepted for one stage and bears the names of another one is written to
the file of that other stage; and if it bears a name with a slash, to a file outside the directory.
The stage for which it was accepted has no file. -/
theorem flush_writes_not_accepted :
    let c : Configuration := .empty "other" "stage"
    let d : Configuration := .empty "../x" "stage"
    let inside := asked {} [⟨"gw", "prod", c⟩]
    let outside := asked {} [⟨"gw", "prod", d⟩]
    (inside.flush.1 = .ok () ∧ outside.flush.1 = .ok ()) ∧
      (∀ e gateway stage c', accepted? [⟨"gw", "prod", e⟩] gateway stage = some c' →
        ofStage gateway stage = "gw__prod.json") ∧
      inside.flush.2.files? = some [("other__stage.json", c.document)] ∧
      outside.flush.2.files? = some [] ∧
      outside.flush.2.content? (.other "..", "x__stage.json") = some d.document := by
  intro c d inside outside
  refine ⟨by decide +kernel, ?_, by decide +kernel, by decide +kernel, by decide +kernel⟩
  intro e gateway stage c' h
  obtain ⟨p, hp, -, rfl, rfl, -⟩ := exists_of_accepted? h
  obtain rfl := List.mem_singleton.1 hp
  show ofStage "gw" "prod" = _
  decide +kernel

end FileStore

end StageRelay
