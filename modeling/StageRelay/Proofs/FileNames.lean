import Mathlib.Data.List.Basic
import StageRelay.FileStore

/-!
# Files of stages

The name of a file is read back by cutting it at the first separator. A gateway that ends with half
a separator moves the cut: its last underscore is then read as the beginning of the stage. Every
other gateway is read back as it is, so that its files are its own and are removed with their
stages.
-/

namespace StageRelay

namespace FileName

/-! ## The first separator -/

theorem startsWith_iff {p cs : List Char} : startsWith p cs ↔ p <+: cs := by
  induction p generalizing cs with
  | nil => simp [startsWith]
  | cons c p ih =>
    cases cs with
    | nil => simp [startsWith]
    | cons d cs => simp [startsWith, ih, List.cons_prefix_cons]

theorem startsWith_separator_iff {c : Char} {cs : List Char} :
    startsWith separator (c :: cs) ↔ c = '_' ∧ cs.head? = some '_' := by
  rw [startsWith_iff, separator, List.cons_prefix_cons]
  cases cs with
  | nil => simp
  | cons d cs => simp [List.cons_prefix_cons, eq_comm]

/-- A text without separator neither begins with one nor has one later. -/
theorem splitOnce_cons_eq_none_iff {c : Char} {cs : List Char} :
    splitOnce (c :: cs) = none ↔
      ¬ (c = '_' ∧ cs.head? = some '_') ∧ splitOnce cs = none := by
  rw [splitOnce, ← startsWith_separator_iff]
  split
  · next h => simp [h]
  · next h => simp [h]

/-- A text that does not end with half a separator is what stands before the separator after it. -/
theorem splitOnce_append_separator {cs rest : List Char} (hs : splitOnce cs = none)
    (he : cs.getLast? ≠ some '_') : splitOnce (cs ++ separator ++ rest) = some (cs, rest) := by
  induction cs with
  | nil => rfl
  | cons c cs ih =>
    obtain ⟨hc, hcs⟩ := splitOnce_cons_eq_none_iff.1 hs
    have hnot : ¬ startsWith separator (c :: (cs ++ separator ++ rest)) := by
      rw [startsWith_separator_iff]
      rintro ⟨rfl, hhead⟩
      cases cs with
      | nil => exact he rfl
      | cons d cs => exact hc ⟨rfl, by simpa using hhead⟩
    have hend : cs.getLast? ≠ some '_' := by
      cases cs with
      | nil => simp
      | cons d cs => simpa using he
    rw [List.cons_append, List.cons_append, splitOnce, if_neg hnot, ih hcs hend]
    rfl

/-- What is left of a text without separator has none, and does not end with half of one if
another half was taken off it. -/
theorem splitOnce_of_append_underscore {cs : List Char} (hs : splitOnce (cs ++ ['_']) = none) :
    splitOnce cs = none ∧ cs.getLast? ≠ some '_' := by
  induction cs with
  | nil => exact ⟨rfl, by simp⟩
  | cons c cs ih =>
    obtain ⟨hc, hcs⟩ := splitOnce_cons_eq_none_iff.1 hs
    obtain ⟨hnone, hend⟩ := ih hcs
    cases cs with
    | nil => simpa [splitOnce_cons_eq_none_iff, hnone] using hc
    | cons d cs =>
      exact ⟨splitOnce_cons_eq_none_iff.2 ⟨by simpa using hc, hnone⟩, by simpa using hend⟩

/-! ## Names that are accepted -/

/-- A name that the check accepts has no separator and no slash. -/
theorem of_check {name : String} (h : check name = .ok ()) :
    splitOnce name.toList = none ∧ '/' ∉ name.toList := by
  have hsafe : isSafe name := by
    by_contra hn
    simp [check, hn] at h
  simp only [isSafe, Bool.and_eq_true, Option.isNone_iff_eq_none, Bool.not_eq_true',
    List.any_eq_false, Bool.or_eq_true, beq_iff_eq, not_or] at hsafe
  obtain ⟨⟨⟨-, hnone⟩, hslash⟩, -⟩ := hsafe
  exact ⟨hnone, fun hm ↦ (hslash _ hm).1 rfl⟩

/-! ## The stage that a file is read as -/

/-- The gateway and the stage that the file of a stage is read as: an underscore at the end of the
gateway counts as the beginning of the stage. -/
def readAs (gateway stage : String) : String × String :=
  if gateway.toList.getLast? = some '_' then
    (String.ofList gateway.toList.dropLast, "_" ++ stage)
  else (gateway, stage)

variable {gateway stage gateway' stage' : String}

theorem readAs_of_getLast?_ne (h : gateway.toList.getLast? ≠ some '_') :
    readAs gateway stage = (gateway, stage) :=
  if_neg h

@[simp] theorem readAs_append_underscore (front stage : String) :
    readAs (front ++ "_") stage = (front, "_" ++ stage) := by
  simp [readAs]

/-- A gateway ends with an underscore, or it is read as it is. -/
theorem eq_append_underscore_or (gateway : String) :
    (∃ front, gateway = front ++ "_") ∨ gateway.toList.getLast? ≠ some '_' := by
  by_cases h : gateway.toList.getLast? = some '_'
  · refine .inl ⟨String.ofList gateway.toList.dropLast, ?_⟩
    rw [← String.toList_inj, String.toList_append, String.toList_ofList]
    exact (List.dropLast_append_getLast? '_' h).symm
  · exact .inr h

theorem toList_ofStage (gateway stage : String) :
    (ofStage gateway stage).toList = gateway.toList ++ separator ++ stage.toList ++ suffix :=
  String.toList_ofList

/-- Three underscores are a separator and one more, on either side. -/
theorem readAs_separator (gateway stage : String) :
    (readAs gateway stage).1.toList ++ separator ++ (readAs gateway stage).2.toList =
      gateway.toList ++ separator ++ stage.toList := by
  obtain ⟨front, rfl⟩ | hend := eq_append_underscore_or gateway
  · simp [separator]
  · rw [readAs_of_getLast?_ne hend]

/-- Cutting a file name at the first separator gives what it is read as. -/
theorem splitOnce_ofStage (hg : splitOnce gateway.toList = none) :
    splitOnce (gateway.toList ++ separator ++ stage.toList) =
      some ((readAs gateway stage).1.toList, (readAs gateway stage).2.toList) := by
  rw [← readAs_separator]
  obtain ⟨front, rfl⟩ | hend := eq_append_underscore_or gateway
  · rw [String.toList_append] at hg
    obtain ⟨hnone, hend⟩ := splitOnce_of_append_underscore hg
    rw [readAs_append_underscore, splitOnce_append_separator hnone hend]
  · rw [readAs_of_getLast?_ne hend, splitOnce_append_separator hg hend]

theorem stageKey?_ofStage (hg : splitOnce gateway.toList = none) :
    stageKey? (ofStage gateway stage) =
      some ((readAs gateway stage).1 ++ "/" ++ (readAs gateway stage).2) := by
  have hsuffix : startsWith suffix.reverse (ofStage gateway stage).toList.reverse := by
    rw [startsWith_iff, toList_ofStage, List.reverse_append]
    exact List.prefix_append _ _
  rw [stageKey?, if_pos hsuffix, toList_ofStage, List.length_append, Nat.add_sub_cancel,
    List.take_left, splitOnce_ofStage hg, Option.map_some, Option.some.injEq, ← String.toList_inj]
  simp

/-- A stage is read back exactly if its gateway does not end with an underscore. -/
theorem stageKey?_ofStage_eq_iff (hg : splitOnce gateway.toList = none)
    (hslash : '/' ∉ gateway.toList) :
    stageKey? (ofStage gateway stage) = some (gateway ++ "/" ++ stage) ↔
      gateway.toList.getLast? ≠ some '_' := by
  rw [stageKey?_ofStage hg, Option.some.injEq]
  constructor
  · intro hkey hend
    obtain ⟨front, rfl⟩ := (eq_append_underscore_or gateway).resolve_right (not_not.2 hend)
    -- the slash of the one key stands where the underscore of the other does
    rw [readAs_append_underscore, ← String.toList_inj] at hkey
    simp at hkey
  · intro hend
    rw [readAs_of_getLast?_ne hend]

theorem ofStage_append_underscore (gateway stage : String) :
    ofStage (gateway ++ "_") stage = ofStage gateway ("_" ++ stage) := by
  simp [← String.toList_inj, toList_ofStage, separator]

/-- Two stages have one file exactly if it is read as the same stage for both. -/
theorem ofStage_eq_iff_readAs (hg : splitOnce gateway.toList = none)
    (hg' : splitOnce gateway'.toList = none) :
    ofStage gateway stage = ofStage gateway' stage' ↔
      readAs gateway stage = readAs gateway' stage' := by
  rw [← String.toList_inj, toList_ofStage, toList_ofStage, List.append_cancel_right_eq]
  constructor
  · intro h
    have hsplit := congrArg splitOnce h
    rw [splitOnce_ofStage hg, splitOnce_ofStage hg', Option.some.injEq, Prod.mk.injEq,
      String.toList_inj, String.toList_inj] at hsplit
    exact Prod.ext hsplit.1 hsplit.2
  · intro h
    rw [← readAs_separator gateway stage, ← readAs_separator gateway' stage', h]

/-- Two stages have one file only if an underscore was moved from the gateway of the one to the
stage of the other. -/
theorem ofStage_eq_iff_moved (hg : splitOnce gateway.toList = none)
    (hg' : splitOnce gateway'.toList = none) :
    ofStage gateway stage = ofStage gateway' stage' ↔
      gateway = gateway' ∧ stage = stage' ∨ gateway = gateway' ++ "_" ∧ stage' = "_" ++ stage ∨
        gateway' = gateway ++ "_" ∧ stage = "_" ++ stage' := by
  constructor
  · intro h
    rw [ofStage_eq_iff_readAs hg hg'] at h
    obtain ⟨front, rfl⟩ | hend := eq_append_underscore_or gateway <;>
      obtain ⟨front', rfl⟩ | hend' := eq_append_underscore_or gateway'
    · simp only [readAs_append_underscore, Prod.mk.injEq, String.append_right_inj] at h
      exact .inl ⟨by rw [h.1], h.2⟩
    · rw [readAs_append_underscore, readAs_of_getLast?_ne hend', Prod.mk.injEq] at h
      exact .inr (.inl ⟨by rw [h.1], h.2.symm⟩)
    · rw [readAs_append_underscore, readAs_of_getLast?_ne hend, Prod.mk.injEq] at h
      exact .inr (.inr ⟨by rw [h.1], h.2⟩)
    · rw [readAs_of_getLast?_ne hend, readAs_of_getLast?_ne hend', Prod.mk.injEq] at h
      exact .inl h
  · rintro (⟨rfl, rfl⟩ | ⟨rfl, rfl⟩ | ⟨rfl, rfl⟩)
    · rfl
    · exact ofStage_append_underscore gateway' stage
    · exact (ofStage_append_underscore gateway stage').symm

/-! ## Files below a directory -/

theorem ofPath_path {file : String} (directory : String) (h : '/' ∉ file.toList) :
    ofPath (path directory file) = file := by
  have hstart : ¬ startsWith ['/'] file.toList := by
    rw [startsWith_iff]
    exact fun hp ↦ h (hp.subset (by simp))
  have hpart : ∀ c ∈ file.toList.reverse, decide (c ≠ '/') = true := by
    intro c hc
    exact decide_eq_true fun he ↦ h (he ▸ List.mem_reverse.1 hc)
  have hreverse : (directory ++ "/" ++ file).toList.reverse =
      file.toList.reverse ++ '/' :: directory.toList.reverse := by simp
  rw [ofPath, path, if_neg hstart, hreverse, List.takeWhile_append_of_pos hpart]
  simp

/-- The file of an accepted stage, wherever the directory is. -/
theorem ofPath_ofStage (directory : String) (hg : check gateway = .ok ())
    (hn : check stage = .ok ()) :
    ofPath (path directory (ofStage gateway stage)) = ofStage gateway stage := by
  have hg' := (of_check hg).2
  have hn' := (of_check hn).2
  refine ofPath_path directory ?_
  rw [toList_ofStage]
  simp [hg', hn', separator, suffix]

end FileName

/-! ## Removing files -/

namespace FileStore

open FileName

variable {gateway stage : String} {s : FileStore} {files : Dict String}

/-- A file that is read as the file of a stage is kept exactly if the stage exists. -/
theorem prune_of_files (hs : s.files? = some files) (existing : List String) :
    ∃ kept, s.prune existing = .ok { s with files? := some kept } ∧
      ∀ file key, stageKey? file = some key →
        ∀ content, (file, content) ∈ kept ↔ (file, content) ∈ files ∧ key ∈ existing := by
  refine ⟨_, by rw [prune, hs], ?_⟩
  intro file key hkey content
  simp [hkey]

/-- The file of an accepted stage is read as the stage exactly if the gateway does not end with an
underscore; otherwise the underscore is read as part of the stage's name. Another accepted stage has
the same file only if it differs by moving that underscore. Removing files keeps exactly the files
of the stages that exist under the names that the files are read as. -/
theorem file_read_back_iff (directory : String) (hg : check gateway = .ok ())
    (hn : check stage = .ok ()) :
    let file := ofPath (path directory (ofStage gateway stage))
    let key := (readAs gateway stage).1 ++ "/" ++ (readAs gateway stage).2
    (stageKey? file = some key ∧
        (stageKey? file = some (gateway ++ "/" ++ stage) ↔ gateway.toList.getLast? ≠ some '_')) ∧
      (∀ gateway' stage', check gateway' = .ok () → check stage' = .ok () →
        (file = ofPath (path directory (ofStage gateway' stage')) ↔
          gateway = gateway' ∧ stage = stage' ∨ gateway = gateway' ++ "_" ∧ stage' = "_" ++ stage ∨
            gateway' = gateway ++ "_" ∧ stage = "_" ++ stage')) ∧
      ∀ (s : FileStore) (files : Dict String) (existing : List String), s.files? = some files →
        ∃ kept, s.prune existing = .ok { s with files? := some kept } ∧
          ∀ content, (file, content) ∈ kept ↔ (file, content) ∈ files ∧ key ∈ existing := by
  intro file key
  obtain ⟨hnone, hslash⟩ := of_check hg
  have hfile : file = ofStage gateway stage := ofPath_ofStage directory hg hn
  have hkey : stageKey? file = some key := by rw [hfile, stageKey?_ofStage hnone]
  refine ⟨⟨hkey, ?_⟩, ?_, ?_⟩
  · rw [hfile]
    exact stageKey?_ofStage_eq_iff hnone hslash
  · intro gateway' stage' hg' hn'
    rw [hfile, ofPath_ofStage directory hg' hn']
    exact ofStage_eq_iff_moved hnone (of_check hg').1
  · intro s files existing hs
    obtain ⟨kept, hpruned, hkept⟩ := prune_of_files hs existing
    exact ⟨kept, hpruned, hkept file key hkey⟩

/-- A stage whose name begins with an underscore keeps its file as long as it exists. -/
theorem file_read_back_underscore :
    check "a" = .ok () ∧ check "_b" = .ok () ∧
      stageKey? (ofPath (path "out" (ofStage "a" "_b"))) = some "a/_b" ∧
      ∃ kept, FileStore.prune { files? := some [("a___b.json", "content")] } ["a/_b"] =
          .ok { files? := some kept } ∧ ("a___b.json", "content") ∈ kept := by
  have hg : check "a" = .ok () := rfl
  have hn : check "_b" = .ok () := rfl
  obtain ⟨⟨hkey, -⟩, -, hprune⟩ := file_read_back_iff "out" hg hn
  refine ⟨hg, hn, hkey, ?_⟩
  obtain ⟨kept, hpruned, hkept⟩ := hprune { files? := some [("a___b.json", "content")] }
    [("a___b.json", "content")] ["a/_b"] rfl
  exact ⟨kept, hpruned, (hkept "content").2 (by decide)⟩

/-- A stage of a gateway with an underscore at its end shares its file with another one, and loses
it though it exists. -/
theorem existing_stage_loses_file :
    check "a_" = .ok () ∧ check "b" = .ok () ∧ check "a" = .ok () ∧ check "_b" = .ok () ∧
      stageKey? (ofPath (path "out" (ofStage "a_" "b"))) = some "a/_b" ∧
      path "out" (ofStage "a_" "b") = path "out" (ofStage "a" "_b") ∧
      (FileStore.prune { files? := some [(ofStage "a_" "b", "content")] } ["a_/b"]).map files? =
        .ok (some []) := by
  refine ⟨rfl, rfl, rfl, rfl, ?_, ?_, ?_⟩
  · decide +kernel
  · decide +kernel
  · rfl

end FileStore

end StageRelay
